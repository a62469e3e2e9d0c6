import TuyaBleMesh.Mesh.Crypto

/-!
# Telink command packets

`encode_command_packet` of `protocol.py`, with what it uses of `crypto.py`: AES with the
byte order of Telink, the counter mode and the checksum made of it.
-/

namespace TuyaBleMesh

namespace Telink

/-! ### AES in the byte order of Telink -/

/-- `_pad_to_block`. -/
def padToBlock (data : Bytes) : Bytes :=
  if data.length ≥ _AES_BLOCK_SIZE then data.take _AES_BLOCK_SIZE
  else data ++ List.replicate (_AES_BLOCK_SIZE - data.length) 0

theorem padToBlock_length (data : Bytes) : (padToBlock data).length = _AES_BLOCK_SIZE := by
  unfold padToBlock
  split
  · next long => exact List.length_take_of_le long
  · next short =>
    rw [List.length_append, List.length_replicate]
    omega

def reverseBlock (block : Block) : Block :=
  ⟨block.val.reverse, by rw [List.length_reverse]; exact block.property⟩

variable (suite : CipherSuite)

/-- `telink_aes_encrypt`, after the check of the key. -/
def telinkAes (key : Block) (plaintext : Bytes) : Bytes :=
  (reverseBlock (suite.aes (reverseBlock key)
    (reverseBlock ⟨padToBlock plaintext, padToBlock_length plaintext⟩))).val

/-! ### Counter mode and checksum -/

def _MAX_CTR_BLOCKS : Nat := 256

/-- The loop of `crypt_payload` over `left` blocks. -/
def cryptBlocks (key : Block) (nonce : Bytes) : (left counter : Nat) → (payload : Bytes) → Bytes
  | 0, _, _ => []
  | left + 1, counter, payload =>
    let keystream := telinkAes suite key (padToBlock (UInt8.ofNat counter :: nonce))
    List.zipWith (· ^^^ ·) keystream (payload.take _AES_BLOCK_SIZE) ++
      cryptBlocks key nonce left (counter + 1) (payload.drop _AES_BLOCK_SIZE)

def blocksNeeded (payload : Bytes) : Nat :=
  (payload.length + _AES_BLOCK_SIZE - 1) / _AES_BLOCK_SIZE

def cryptPayload (key nonce payload : Bytes) : Except PyError Bytes := do
  let key ← validateKey key
  if blocksNeeded payload > _MAX_CTR_BLOCKS then
    .error (.cryptoError (s!"Payload too large for single-byte CTR counter: " ++
      s!"{payload.length} bytes ({blocksNeeded payload} blocks, max {_MAX_CTR_BLOCKS})"))
  else .ok (cryptBlocks suite key nonce (blocksNeeded payload) 0 payload)

/-- The loop of `make_checksum` over `left` blocks. -/
def checkBlocks (key : Block) : (left : Nat) → (check payload : Bytes) → Bytes
  | 0, check, _ => check
  | left + 1, check, payload =>
    let chunk := padToBlock (payload.take _AES_BLOCK_SIZE)
    checkBlocks key left (telinkAes suite key (List.zipWith (· ^^^ ·) check chunk))
      (payload.drop _AES_BLOCK_SIZE)

def makeChecksum (key nonce payload : Bytes) : Except PyError Bytes := do
  let key ← validateKey key
  let length ← byteOf payload.length
  let check := telinkAes suite key (padToBlock (nonce ++ [length]))
  .ok (checkBlocks suite key (blocksNeeded payload) check payload)

/-! ### Packets -/

def PAYLOAD_SIZE : Nat := 15

def CHECKSUM_SIZE : Nat := 2

def MAC_BYTES_SIZE : Nat := 6

def TELINK_VENDOR_ID : Bytes := [0x01, 0x10]

def MAX_PARAM_LEN : Nat := PAYLOAD_SIZE - 2 - 1 - TELINK_VENDOR_ID.length

/-- `sequence.to_bytes(3, "little")`. -/
def sequenceBytes (sequence : Nat) : Except PyError Bytes :=
  if sequence < 256 ^ 3 then .ok (Bytes.beBytes 3 sequence).reverse else .error .overflowError

def buildNonce (macBytes : Bytes) (sequence : Nat) : Except PyError Bytes := do
  if macBytes.length ≠ MAC_BYTES_SIZE then
    .error (.protocolError s!"MAC must be {MAC_BYTES_SIZE} bytes, got {macBytes.length}")
  else if sequence > 0xFFFFFF then
    .error (.protocolError s!"Sequence must be 0..0xFFFFFF, got {sequence}")
  else
    let seqBytes ← sequenceBytes sequence
    .ok (macBytes.reverse.take 4 ++ [0x01] ++ seqBytes)

def encodeCommandPayload (destId opcode : Nat) (params vendorId : Bytes) : Except PyError Bytes :=
  if vendorId.length ≠ 2 then
    .error (.protocolError s!"vendor_id must be 2 bytes, got {vendorId.length}")
  else if destId > 0xFFFF then
    .error (.protocolError s!"dest_id must be 0..0xFFFF, got {destId}")
  else if opcode > 0xFF then
    .error (.protocolError s!"opcode must be 0..0xFF, got {opcode}")
  else if params.length > MAX_PARAM_LEN then
    .error (.protocolError s!"params too long: {params.length} > {MAX_PARAM_LEN}")
  else
    let payload := (Bytes.beBytes 2 destId).reverse ++ [UInt8.ofNat opcode] ++ vendorId ++ params
    .ok (payload ++ List.replicate (PAYLOAD_SIZE - payload.length) 0)

def encodeCommandPacket (key macBytes : Bytes) (sequence destId opcode : Nat)
    (params vendorId : Bytes) : Except PyError Bytes := do
  let seqBytes ← sequenceBytes sequence
  let nonce ← buildNonce macBytes sequence
  let payload ← encodeCommandPayload destId opcode params vendorId
  let checksum ← makeChecksum suite key nonce payload
  let encrypted ← cryptPayload suite key nonce payload
  .ok (seqBytes ++ checksum.take CHECKSUM_SIZE ++ encrypted)

/-! ### Its errors -/

/-- The errors that say that a packet cannot be made. -/
def isPacketError : PyError → Bool
  | .cryptoError _ => true
  | .protocolError _ => true
  | .overflowError => true
  | .valueError => true
  | _ => false

section Errors

variable {suite}

theorem sequenceBytes_errors (sequence : Nat) : OnlyRaises isPacketError (sequenceBytes sequence) :=
  .ite (fun _ => .ok _) fun _ => .error rfl

theorem buildNonce_errors (macBytes : Bytes) (sequence : Nat) :
    OnlyRaises isPacketError (buildNonce macBytes sequence) := by
  refine .ite (fun _ => .error rfl) fun _ => .ite (fun _ => .error rfl) fun _ => ?_
  exact (sequenceBytes_errors sequence).bind fun _ _ => .ok _

theorem encodeCommandPayload_errors (destId opcode : Nat) (params vendorId : Bytes) :
    OnlyRaises isPacketError (encodeCommandPayload destId opcode params vendorId) := by
  refine .ite (fun _ => .error rfl) fun _ => .ite (fun _ => .error rfl) fun _ => ?_
  refine .ite (fun _ => .error rfl) fun _ => .ite (fun _ => .error rfl) fun _ => ?_
  exact .ok _

theorem validateKey_errors (key : Bytes) : OnlyRaises isPacketError (validateKey key) := by
  unfold validateKey
  split
  · exact .ok _
  · exact .error rfl

theorem makeChecksum_errors (key nonce payload : Bytes) :
    OnlyRaises isPacketError (makeChecksum suite key nonce payload) := by
  refine (validateKey_errors key).bind fun _ _ => .bind ?_ fun _ _ => .ok _
  exact .ite (fun _ => .ok _) fun _ => .error rfl

theorem cryptPayload_errors (key nonce payload : Bytes) :
    OnlyRaises isPacketError (cryptPayload suite key nonce payload) :=
  (validateKey_errors key).bind fun _ _ =>
    .ite (fun _ => .error rfl) fun _ => .ok _

/-- No packet, no other kind of error. -/
theorem encodeCommandPacket_errors (key macBytes : Bytes) (sequence destId opcode : Nat)
    (params vendorId : Bytes) : OnlyRaises isPacketError
      (encodeCommandPacket suite key macBytes sequence destId opcode params vendorId) := by
  refine (sequenceBytes_errors sequence).bind fun _ _ => ?_
  refine (buildNonce_errors macBytes sequence).bind fun nonce _ => ?_
  refine (encodeCommandPayload_errors destId opcode params vendorId).bind fun payload _ => ?_
  refine (makeChecksum_errors key nonce payload).bind fun _ _ => ?_
  exact (cryptPayload_errors key nonce payload).bind fun _ _ => .ok _

/-- Such an error does not pass for one of the link. -/
theorem isPacketError.not_os {error : PyError} (kind : isPacketError error = true) :
    error.isOsError = false ∧ error.isMeshConnectionError = false := by
  cases error <;> first | exact ⟨rfl, rfl⟩ | cases kind

end Errors

end Telink

end TuyaBleMesh
