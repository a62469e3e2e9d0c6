import TuyaBleMesh.Lib.Hex
import TuyaBleMesh.Lib.Program
import TuyaBleMesh.Telink.Packet

/-!
# Pairing with a Telink device

`provisioner.py`: the handshake on characteristic 1914 and the new credentials behind it,
with what it uses of `crypto.py` and `parse_pair_response`.
-/

namespace TuyaBleMesh

namespace Telink

/-! ### Keys and packets -/

def _SESSION_RANDOM_SIZE : Nat := 8

def PAIR_OPCODE_REQUEST : UInt8 := 0x0C

def PAIR_OPCODE_SUCCESS : UInt8 := 0x0D

def PAIR_OPCODE_FAILURE : UInt8 := 0x0E

def PAIR_OPCODE_SET_NAME : UInt8 := 0x04

def PAIR_OPCODE_SET_PASS : UInt8 := 0x05

def PAIR_OPCODE_SET_OK : UInt8 := 0x07

def _PAIR_SUCCESS_SIZE : Nat := 9

/-- `_xor_name_password`. -/
def xorNamePassword (meshName meshPassword : Bytes) : Bytes :=
  List.zipWith (· ^^^ ·) (padToBlock meshName) (padToBlock meshPassword)

theorem xorNamePassword_length (meshName meshPassword : Bytes) :
    (xorNamePassword meshName meshPassword).length = _AES_BLOCK_SIZE := by
  rw [xorNamePassword, List.length_zipWith, padToBlock_length, padToBlock_length, Nat.min_self]

section Packets

variable (suite : CipherSuite)

/-- `telink_aes_encrypt`. -/
def telinkAesEncrypt (key plaintext : Bytes) : Except PyError Bytes := do
  let key ← validateKey key
  return telinkAes suite key plaintext

def makePairPacket (meshName meshPassword sessionRandom : Bytes) : Except PyError Bytes :=
  if sessionRandom.length ≠ _SESSION_RANDOM_SIZE then
    .error (.cryptoError
      s!"Session random must be {_SESSION_RANDOM_SIZE} bytes, got {sessionRandom.length}")
  else do
    let namePass := xorNamePassword meshName meshPassword
    let randomKey := padToBlock sessionRandom
    let encrypted ← telinkAesEncrypt suite randomKey namePass
    return [0x0C] ++ sessionRandom ++ encrypted.take _SESSION_RANDOM_SIZE

def makeSessionKey (meshName meshPassword clientRandom deviceRandom : Bytes) :
    Except PyError Bytes :=
  if clientRandom.length ≠ _SESSION_RANDOM_SIZE then
    .error (.cryptoError
      s!"Client random must be {_SESSION_RANDOM_SIZE} bytes, got {clientRandom.length}")
  else if deviceRandom.length ≠ _SESSION_RANDOM_SIZE then
    .error (.cryptoError
      s!"Device random must be {_SESSION_RANDOM_SIZE} bytes, got {deviceRandom.length}")
  else
    let namePass := xorNamePassword meshName meshPassword
    let combined := clientRandom ++ deviceRandom
    telinkAesEncrypt suite namePass combined

def encryptMeshCredential (sessionKey data : Bytes) : Except PyError Bytes := do
  let _ ← validateKey sessionKey
  let padded := padToBlock data
  telinkAesEncrypt suite sessionKey padded

end Packets

structure PairResponse where
  opcode : UInt8
  deviceRandom : Bytes
  deriving DecidableEq

def parsePairResponse : Bytes → Except PyError PairResponse
  | [] => .error (.malformedPacketError "Pair response empty")
  | opcode :: rest =>
    if opcode = PAIR_OPCODE_SUCCESS then
      if rest.length + 1 < _PAIR_SUCCESS_SIZE then
        .error (.malformedPacketError
          s!"Pair success response must be >= {_PAIR_SUCCESS_SIZE} bytes, got {rest.length + 1}")
      else .ok { opcode, deviceRandom := rest.take 8 }
    else if opcode = PAIR_OPCODE_FAILURE then .ok { opcode, deviceRandom := [] }
    else if opcode = PAIR_OPCODE_SET_OK then .ok { opcode, deviceRandom := [] }
    else .error (.malformedPacketError s!"Unknown pair opcode: 0x{hexUpper 2 opcode.toNat}")

/-! ### Provisioning -/

inductive PairingOp
  /-- `generate_session_random`. -/
  | random
  /-- A write to `TELINK_CHAR_PAIRING`, with its timeout. -/
  | writePairing (data : Bytes)
  /-- A write to `TELINK_CHAR_STATUS`, with its timeout. -/
  | writeStatus (data : Bytes)
  | readPairing
  deriving DecidableEq

abbrev PairingOp.Answer : PairingOp → Type
  | .random => { random : Bytes // random.length = _SESSION_RANDOM_SIZE }
  | .writePairing _ => Except PyError Unit
  | .writeStatus _ => Except PyError Unit
  | .readPairing => Except PyError Bytes

abbrev Pairing (α : Type) := Program PairingOp.Answer PyError α

def generateSessionRandom : Pairing Bytes := .call .random fun random => .done (.ok random.val)

def writePairing (data : Bytes) : Pairing Unit := .call (.writePairing data) .done

def writeStatus (data : Bytes) : Pairing Unit := .call (.writeStatus data) .done

def readPairing : Pairing Bytes := .call .readPairing .done

section Provisioning

variable (suite : CipherSuite)

/-- `pair` of `provisioner.py`. -/
def pairHandshake (meshName meshPassword : Bytes) : Pairing (Bytes × Bytes) := do
  let clientRandom ← generateSessionRandom
  let pairPacket ← (makePairPacket suite meshName meshPassword clientRandom : Except PyError Bytes)
  writePairing pairPacket
  -- the device answers behind this write only
  writeStatus [0x01]
  let responseData ← readPairing
  let response ← (parsePairResponse responseData : Except PyError PairResponse)
  if response.opcode = PAIR_OPCODE_FAILURE then
    Program.raise (.provisioningError "Device rejected pairing (0x0E — wrong mesh name or password)")
  else if response.opcode ≠ PAIR_OPCODE_SUCCESS then
    Program.raise (.provisioningError
      s!"Unexpected pair response opcode: 0x{hexUpper 2 response.opcode.toNat}")
  else
    let sessionKey ← (makeSessionKey suite meshName meshPassword clientRandom response.deviceRandom :
      Except PyError Bytes)
    return (sessionKey, clientRandom)

def setMeshCredentials (sessionKey newName newPassword : Bytes) : Pairing Unit := do
  let encName ← (encryptMeshCredential suite sessionKey newName : Except PyError Bytes)
  writePairing ([PAIR_OPCODE_SET_NAME] ++ encName)
  let encPass ← (encryptMeshCredential suite sessionKey newPassword : Except PyError Bytes)
  writePairing ([PAIR_OPCODE_SET_PASS] ++ encPass)
  let confirmData ← readPairing
  let confirm ← (parsePairResponse confirmData : Except PyError PairResponse)
  if confirm.opcode ≠ PAIR_OPCODE_SET_OK then
    Program.raise (.provisioningError
      s!"Credential set failed, expected SET_OK (0x07), got 0x{hexUpper 2 confirm.opcode.toNat}")
  else return ()

def provision (currentName currentPassword : Bytes) (newName newPassword : Option Bytes) :
    Pairing Bytes := do
  let (sessionKey, _) ← pairHandshake suite currentName currentPassword
  if newName.isSome || newPassword.isSome then
    setMeshCredentials suite sessionKey (newName.getD currentName)
      (newPassword.getD currentPassword)
  return sessionKey

end Provisioning

end Telink

end TuyaBleMesh
