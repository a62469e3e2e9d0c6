import TuyaBleMesh.Mesh.Codec
import TuyaBleMesh.Mesh.Crypto

/-!
# Network and transport layer

Encryption and decryption of network PDUs and of unsegmented and segmented
access messages, from `sig_mesh_protocol.py`.
-/

namespace TuyaBleMesh

/-- `MeshKeys`, with what `k2` and the configured IV index guarantee. -/
structure MeshKeys where
  devKey : Bytes
  appKey : Option Bytes
  ivIndex : Nat
  nid : Nat
  encKey : Bytes
  privKey : Bytes
  aid : Nat
  ivIndex_lt : ivIndex < 256 ^ 4
  nid_lt : nid < 128
  encKey_length : encKey.length = _AES_BLOCK_SIZE
  privKey_length : privKey.length = _AES_BLOCK_SIZE

/-- `keys.app_key if akf else keys.dev_key`. -/
def MeshKeys.accessKey (keys : MeshKeys) (akf : Nat) : Option Bytes :=
  if akf ≠ 0 then keys.appKey else some keys.devKey

/-! ### Network layer -/

/-- `_make_network_nonce`. -/
def makeNetworkNonce (ctlTtl seq src ivIndex : Nat) : Except PyError Bytes := do
  let ctlTtl ← byteOf ctlTtl
  let seq ← packBE 4 seq
  let src ← packBE 2 src
  let ivIndex ← packBE 4 ivIndex
  return [0x00, ctlTtl] ++ seq.drop 1 ++ src ++ [0x00, 0x00] ++ ivIndex

structure NetworkPDU where
  ctl : Nat
  ttl : Nat
  seq : Nat
  src : Nat
  dst : Nat
  transportPdu : Bytes
  deriving DecidableEq, Repr

/-- The block that the privacy key is applied to. -/
def pecbInput (ivIndex privacyRandom : Bytes) : Bytes :=
  [0x00, 0x00, 0x00, 0x00, 0x00] ++ ivIndex ++ privacyRandom

/-- `encrypt_network_pdu`; its keyword arguments are the fields of `fields`. -/
def encryptNetworkPdu (suite : CipherSuite) (encKey privKey : Bytes) (nid : Nat)
    (fields : NetworkPDU) (ivIndex : Nat) : Except PyError Bytes := do
  let ctlTtl := ((fields.ctl &&& 1) <<< MESH_CTL_SHIFT) ||| (fields.ttl &&& MESH_TTL_MASK)
  let nonce ← makeNetworkNonce ctlTtl fields.seq fields.src ivIndex
  let plaintext := (← packBE 2 fields.dst) ++ fields.transportPdu
  let micLen := if fields.ctl ≠ 0 then MIC_LEN_CONTROL else MIC_LEN_ACCESS
  let encrypted ← meshAesCcmEncrypt suite encKey nonce plaintext micLen
  let iviNid ← byteOf (((ivIndex &&& 1) <<< MESH_IVI_SHIFT) ||| (nid &&& MESH_NID_MASK))
  let header := [iviNid, ← byteOf ctlTtl] ++ (← packBE 4 fields.seq).drop 1 ++
    (← packBE 2 fields.src)
  let privacyRandom := encrypted.take 7
  let pecb ← aesEcb suite privKey (pecbInput (← packBE 4 ivIndex) privacyRandom)
  -- both strings are six bytes long, so `zip(.., strict=True)` does not raise
  let obfuscated := Bytes.xor ((header.drop 1).take 6) (pecb.take 6)
  return [iviNid] ++ obfuscated ++ encrypted

/-- `decrypt_network_pdu`. -/
def decryptNetworkPdu (suite : CipherSuite) (encKey privKey : Bytes) (nid : Nat) (pdu : Bytes)
    (ivIndex : Nat) : Except PyError (Option NetworkPDU) :=
  if pdu.length < 10 then .ok none
  else do
    let iviNid ← index pdu 0
    if iviNid.toNat &&& MESH_NID_MASK ≠ nid then return none
    else
      let encryptedData := pdu.drop 7
      let privacyRandom := encryptedData.take 7
      -- a PDU of 10 to 13 bytes has less than seven bytes here, and `aes_ecb` raises
      let pecb ← aesEcb suite privKey (pecbInput (← packBE 4 ivIndex) privacyRandom)
      let deobfuscated := Bytes.xor ((pdu.drop 1).take 6) (pecb.take 6)
      let ctlTtl := (← index deobfuscated 0).toNat
      let ctl := (ctlTtl >>> MESH_CTL_SHIFT) &&& 1
      let ttl := ctlTtl &&& MESH_TTL_MASK
      let seq := (← index deobfuscated 1).toNat <<< 16 ||| (← index deobfuscated 2).toNat <<< 8 |||
        (← index deobfuscated 3).toNat
      let src := (← index deobfuscated 4).toNat <<< 8 ||| (← index deobfuscated 5).toNat
      let nonce ← makeNetworkNonce ctlTtl seq src ivIndex
      let micLen := if ctl ≠ 0 then MIC_LEN_CONTROL else MIC_LEN_ACCESS
      -- the `try` is around the decryption only
      match meshAesCcmDecrypt suite encKey nonce encryptedData micLen with
      | .error (.cryptoError _) => return none
      | .error error => .error error
      | .ok plaintext =>
        -- an authentic plaintext may be shorter than its address
        let dst := (← index plaintext 0).toNat <<< 8 ||| (← index plaintext 1).toNat
        return some { ctl, ttl, seq, src, dst, transportPdu := plaintext.drop 2 }

/-! ### Transport layer -/

/-- `_make_app_nonce`. -/
def makeAppNonce (akf szmic seq src dst ivIndex : Nat) : Except PyError Bytes := do
  let nonceType : UInt8 := if akf ≠ 0 then 0x01 else 0x02
  let szmic ← byteOf (szmic <<< 7)
  let seq ← packBE 4 seq
  let src ← packBE 2 src
  let dst ← packBE 2 dst
  let ivIndex ← packBE 4 ivIndex
  return [nonceType, szmic] ++ seq.drop 1 ++ src ++ dst ++ ivIndex

def makeAccessUnsegmented (suite : CipherSuite) (key : Bytes) (src dst seq ivIndex : Nat)
    (accessPayload : Bytes) (akf aid : Nat) : Except PyError Bytes :=
  if accessPayload.length > MAX_UNSEG_ACCESS_PAYLOAD then
    .error (.protocolError s!"Unsegmented access payload max {MAX_UNSEG_ACCESS_PAYLOAD} bytes, got {accessPayload.length}")
  else do
    let nonce ← makeAppNonce akf 0 seq src dst ivIndex
    let encrypted ← meshAesCcmEncrypt suite key nonce accessPayload MIC_LEN_ACCESS
    let hdr ← byteOf ((akf <<< MESH_AKF_SHIFT) ||| (aid &&& MESH_AID_MASK))
    return [hdr] ++ encrypted

/-- One pass of the loop of `make_access_segmented`: segment `segO` of `segN + 1`. -/
def makeSegment (upperTransport : Bytes) (akf aid szmic seqStart segN segO : Nat) :
    Except PyError (Nat × Bytes) := do
  let seqZero := seqStart &&& MESH_SEQ_ZERO_MASK
  let chunk := (upperTransport.drop (segO * SEG_DATA_SIZE)).take SEG_DATA_SIZE
  let hdr ← byteOf (MESH_SEG_BIT ||| (akf <<< MESH_AKF_SHIFT) ||| (aid &&& MESH_AID_MASK))
  let info ← packBE 4 ((szmic <<< MESH_SZMIC_SHIFT) ||| (seqZero <<< MESH_SEQ_ZERO_SHIFT) |||
    (segO <<< MESH_SEG_O_SHIFT) ||| segN)
  return (seqStart + segO, [hdr] ++ info.drop 1 ++ chunk)

def makeAccessSegmented (suite : CipherSuite) (key : Bytes) (src dst seqStart ivIndex : Nat)
    (accessPayload : Bytes) (akf aid szmic : Nat) : Except PyError (List (Nat × Bytes)) := do
  let nonce ← makeAppNonce akf szmic seqStart src dst ivIndex
  let micLen := if szmic ≠ 0 then MIC_LEN_CONTROL else MIC_LEN_ACCESS
  let upperTransport ← meshAesCcmEncrypt suite key nonce accessPayload micLen
  -- the MIC is never empty, so there is at least one segment
  let nSegs := (upperTransport.length + SEG_DATA_SIZE - 1) / SEG_DATA_SIZE
  (List.range nSegs).mapM (makeSegment upperTransport akf aid szmic seqStart (nSegs - 1))

structure AccessMessage where
  seg : Bool
  akf : Nat
  aid : Nat
  accessPayload : Option Bytes
  raw : Bytes
  deriving DecidableEq, Repr

/-- `decrypt_access_payload`. -/
def decryptAccessPayload (suite : CipherSuite) (keys : MeshKeys) (src dst seq : Nat)
    (transportPdu : Bytes) : Except PyError (Option AccessMessage) :=
  match transportPdu with
  | [] => .ok none
  | hdr :: encryptedUpper =>
    let seg := hdr.toNat &&& MESH_SEG_BIT ≠ 0
    let akf := (hdr.toNat >>> MESH_AKF_SHIFT) &&& 1
    let aid := hdr.toNat &&& MESH_AID_MASK
    -- a segment stays encrypted until its message is complete
    if seg then
      .ok (some { seg := true, akf, aid, accessPayload := none, raw := transportPdu })
    else
      match keys.accessKey akf with
      | none => .ok none
      | some key => do
        let nonce ← makeAppNonce akf 0 seq src dst keys.ivIndex
        match meshAesCcmDecrypt suite key nonce encryptedUpper MIC_LEN_ACCESS with
        | .error (.cryptoError _) => return none
        | .error error => .error error
        | .ok accessPayload =>
          return some { seg := false, akf, aid, accessPayload := some accessPayload,
                        raw := transportPdu }

/-- The segments `0..n` put together; `none` as soon as one of them is missing. -/
def joinSegments (segments : Nat → Option Bytes) (n : Nat) : Option Bytes :=
  ((List.range n).mapM segments).map List.flatten

/-- `reassemble_and_decrypt_segments`. -/
def reassembleAndDecryptSegments (suite : CipherSuite) (keys : MeshKeys) (src dst : Nat)
    (segments : Nat → Option Bytes) (segN szmic seqZero akf : Nat) :
    Except PyError (Option Bytes) :=
  match joinSegments segments (segN + 1) with
  | none => .ok none
  | some upperTransport =>
    match keys.accessKey akf with
    | none => .ok none
    | some key => do
      let micLen := if szmic ≠ 0 then MIC_LEN_CONTROL else MIC_LEN_ACCESS
      let nonce ← makeAppNonce akf szmic seqZero src dst keys.ivIndex
      match meshAesCcmDecrypt suite key nonce upperTransport micLen with
      | .error (.cryptoError _) => return none
      | .error error => .error error
      | .ok accessPayload => return some accessPayload

end TuyaBleMesh
