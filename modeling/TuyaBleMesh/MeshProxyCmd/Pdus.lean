import TuyaBleMesh.Device.Layers
import TuyaBleMesh.Mesh.Messages
import TuyaBleMesh.MeshProxyCmd.Keys

/-!
# The PDUs of the script

The network and the transport layer of `scripts/mesh_proxy_cmd.py`, and what it makes of
a notification. Nothing checks a length before it indexes, and a proxy PDU of any SAR
counts as a complete one.
-/

namespace TuyaBleMesh

open Bytes

namespace MeshProxyCmd

section Layers

variable (lib : CipherLibrary)

/-- `aes_ecb`, for a key of any length. -/
def ecb (key plaintext : Bytes) : Except PyError Bytes := do
  let (suite, key) ← lib.keyed key
  aesEcb suite key plaintext

def meshAesCcmEncrypt (key nonce payload : Bytes) (micLen : Nat) : Except PyError Bytes := do
  let (suite, key) ← lib.keyed key
  return suite.ccmEncrypt key micLen nonce payload

/-- `none` is the `InvalidTag` that it raises. -/
def meshAesCcmDecrypt (key nonce ctAndMic : Bytes) (micLen : Nat) :
    Except PyError (Option Bytes) := do
  let (suite, key) ← lib.keyed key
  return suite.ccmDecrypt key micLen nonce ctAndMic

/-! ### Network layer -/

/-- `_make_network_nonce`, the same text as in the library. -/
abbrev makeNetworkNonce := TuyaBleMesh.makeNetworkNonce

def encryptNetworkPdu (encKey privKey : Bytes) (nid : Nat) (fields : NetworkPDU) (ivIndex : Nat) :
    Except PyError Bytes := do
  let ctlTtl := ((fields.ctl &&& 1) <<< 7) ||| (fields.ttl &&& 0x7F)
  let nonce ← makeNetworkNonce ctlTtl fields.seq fields.src ivIndex
  let plaintext := (← packBE 2 fields.dst) ++ fields.transportPdu
  let micLen := if fields.ctl ≠ 0 then 8 else 4
  let encrypted ← meshAesCcmEncrypt lib encKey nonce plaintext micLen
  let iviNid ← byteOf (((ivIndex &&& 1) <<< 7) ||| (nid &&& 0x7F))
  let header := [iviNid, ← byteOf ctlTtl] ++ (← packBE 4 fields.seq).drop 1 ++
    (← packBE 2 fields.src)
  let privacyRandom := encrypted.take 7
  let pecb ← ecb lib privKey (pecbInput (← packBE 4 ivIndex) privacyRandom)
  let obfuscated ← xor ((header.drop 1).take 6) (pecb.take 6)
  return [iviNid] ++ obfuscated ++ encrypted

/-- `decrypt_network_pdu`; the dictionary that it returns has the fields of `NetworkPDU`. -/
def decryptNetworkPdu (encKey privKey : Bytes) (nid : Nat) (pdu : Bytes) (ivIndex : Nat) :
    Except PyError (Option NetworkPDU) := do
  let iviNid ← index pdu 0
  if iviNid.toNat &&& 0x7F ≠ nid then return none
  else
    let encryptedData := pdu.drop 7
    let privacyRandom := encryptedData.take 7
    let pecb ← ecb lib privKey (pecbInput (← packBE 4 ivIndex) privacyRandom)
    let deobfuscated ← xor ((pdu.drop 1).take 6) (pecb.take 6)
    let ctlTtl := (← index deobfuscated 0).toNat
    let ctl := (ctlTtl >>> 7) &&& 1
    let ttl := ctlTtl &&& 0x7F
    let seq := (← index deobfuscated 1).toNat <<< 16 ||| (← index deobfuscated 2).toNat <<< 8 |||
      (← index deobfuscated 3).toNat
    let src := (← index deobfuscated 4).toNat <<< 8 ||| (← index deobfuscated 5).toNat
    let nonce ← makeNetworkNonce ctlTtl seq src ivIndex
    let micLen := if ctl ≠ 0 then 8 else 4
    -- `except Exception`
    match meshAesCcmDecrypt lib encKey nonce encryptedData micLen with
    | .error _ => return none
    | .ok none => return none
    | .ok (some plaintext) =>
      let dst := (← index plaintext 0).toNat <<< 8 ||| (← index plaintext 1).toNat
      return some { ctl, ttl, seq, src, dst, transportPdu := plaintext.drop 2 }

/-! ### Transport layer -/

/-- `_make_app_nonce`, the same text as in the library. -/
abbrev makeAppNonce := TuyaBleMesh.makeAppNonce

def makeAccessUnsegmented (key : Bytes) (src dst seq ivIndex : Nat) (accessPayload : Bytes)
    (akf aid : Nat) : Except PyError Bytes := do
  let nonce ← makeAppNonce akf 0 seq src dst ivIndex
  let encrypted ← meshAesCcmEncrypt lib key nonce accessPayload 4
  let hdr ← byteOf ((akf <<< 6) ||| (aid &&& 0x3F))
  return [hdr] ++ encrypted

/-- The loop body of `make_access_segmented`, the same text as in the library. -/
abbrev makeSegment := TuyaBleMesh.makeSegment

def makeAccessSegmented (key : Bytes) (src dst seqStart ivIndex : Nat) (accessPayload : Bytes)
    (akf aid szmic : Nat) : Except PyError (List (Nat × Bytes)) := do
  let nonce ← makeAppNonce akf szmic seqStart src dst ivIndex
  let micLen := if szmic ≠ 0 then 8 else 4
  let upperTransport ← meshAesCcmEncrypt lib key nonce accessPayload micLen
  let nSegs := (upperTransport.length + SEG_DATA_SIZE - 1) / SEG_DATA_SIZE
  (List.range nSegs).mapM (makeSegment upperTransport akf aid szmic seqStart (nSegs - 1))

/-- The dictionaries of `decrypt_access_payload`. -/
inductive Decoded
  | segment (akf aid : Nat) (raw : Bytes)
  | access (akf aid : Nat) (access : Bytes)
  deriving DecidableEq, Repr

def decryptAccessPayload (keys : MeshKeys) (src dst seq : Nat) (transportPdu : Bytes) :
    Except PyError (Option Decoded) := do
  let hdr := (← index transportPdu 0).toNat
  let seg := (hdr >>> 7) &&& 1
  let akf := (hdr >>> 6) &&& 1
  let aid := hdr &&& 0x3F
  if seg ≠ 0 then return some (.segment akf aid transportPdu)
  else
    match keys.accessKey akf with
    | none => return none
    | some key =>
      let nonce ← makeAppNonce akf 0 seq src dst keys.ivIndex
      -- `except Exception`
      match meshAesCcmDecrypt lib key nonce (transportPdu.drop 1) 4 with
      | .error _ => return none
      | .ok none => return none
      | .ok (some accessPayload) => return some (.access akf aid accessPayload)

end Layers

/-! ### Proxy PDUs and opcodes -/

/-- `make_proxy_pdu`, the same text as in the library. -/
abbrev makeProxyPdu := TuyaBleMesh.makeProxyPdu

def parseProxyPdu (data : Bytes) : Except PyError (Nat × Nat × Bytes) := do
  let first := (← index data 0).toNat
  return ((first >>> 6) &&& 0x03, first &&& 0x3F, data.drop 1)

def parseAccessOpcode (data : Bytes) : Except PyError (Nat × Bytes) := do
  let b0 := (← index data 0).toNat
  if b0 &&& 0x80 = 0 then return (b0, data.drop 1)
  else if b0 &&& 0xC0 = 0x80 then return (b0 <<< 8 ||| (← index data 1).toNat, data.drop 2)
  else
    return (b0 <<< 16 ||| (← index data 1).toNat <<< 8 ||| (← index data 2).toNat, data.drop 3)

def appKeyStatusName : Nat → String
  | 0 => "Success"
  | 1 => "InvalidAddress"
  | 2 => "InvalidModel"
  | 3 => "InvalidAppKeyIndex"
  | 4 => "InvalidNetKeyIndex"
  | 5 => "InsufficientResources"
  | 6 => "KeyIndexAlreadyStored"
  | status => s!"Unknown(0x{hexUpper 2 status})"

def modelAppStatusName : Nat → String
  | 0 => "Success"
  | 2 => "InvalidModel"
  | 3 => "InvalidAppKeyIndex"
  | 4 => "InvalidNetKeyIndex"
  | 6 => "ModelAppAlreadyBound"
  | status => s!"Unknown(0x{hexUpper 2 status})"

/-- `'ON' if state else 'OFF'`. -/
def onOff (state : UInt8) : String := if state ≠ 0 then "ON" else "OFF"

def formatStatusResponse (opcode : Nat) (params : Bytes) : String :=
  let first := params.headD 0xFF
  if opcode = 0x8003 then s!"AppKey Status: {appKeyStatusName first.toNat}"
  else if opcode = 0x803E then s!"Model App Status: {modelAppStatusName first.toNat}"
  else if opcode = 0x02 then
    s!"Composition Data: page={first.toNat} ({(params.length : Int) - 1} bytes)"
  else if opcode = 0x8204 then
    let msg := s!"OnOff Status: {onOff first}"
    match params with
    | _ :: target :: remaining :: _ =>
      msg ++ s!" (target={onOff target}, remaining={remaining.toNat})"
    | _ => msg
  else s!"Opcode 0x{hexUpper 4 opcode}: {params.length} bytes"

/-- An entry of `self.responses`. -/
structure Response where
  opcode : Nat
  params : Bytes
  msg : String
  deriving DecidableEq, Repr

/-- `_on_notify`: the entry that it appends, or what it raises. -/
def onNotify (lib : CipherLibrary) (keys : MeshKeys) (data : Bytes) :
    Except PyError (Option Response) := do
  let (_sar, pduType, payload) ← parseProxyPdu data
  if pduType ≠ 0 then return none
  else
    match ← decryptNetworkPdu lib keys.encKey keys.privKey keys.nid payload keys.ivIndex with
    | none => return none
    | some result =>
      -- a control message is only printed
      if result.ctl ≠ 0 then return none
      else
        match ← decryptAccessPayload lib keys result.src result.dst result.seq
            result.transportPdu with
        | some (.access _ _ access) =>
          let (opcode, params) ← parseAccessOpcode access
          return some { opcode, params, msg := formatStatusResponse opcode params }
        | _ => return none

end MeshProxyCmd

end TuyaBleMesh
