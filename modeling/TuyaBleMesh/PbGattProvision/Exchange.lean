import TuyaBleMesh.MeshProxyCmd.Pdus
import TuyaBleMesh.Provisioning.Exchange

/-!
# The exchange of the script

`scripts/pb_gatt_provision.py`, from the subscription to the last PDU: the PDUs and keys
of the library, under other checks. It always cuts PDUs for an MTU of 23.
-/

namespace TuyaBleMesh

namespace PbGattProvision

def PROV_INVITE : UInt8 := 0x00
def PROV_CAPABILITIES : UInt8 := 0x01
def PROV_START : UInt8 := 0x02
def PROV_PUBLIC_KEY : UInt8 := 0x03
def PROV_CONFIRMATION : UInt8 := 0x05
def PROV_RANDOM : UInt8 := 0x06
def PROV_DATA : UInt8 := 0x07
def PROV_COMPLETE : UInt8 := 0x08
def PROV_FAILED : UInt8 := 0x09

def PROXY_SAR_COMPLETE : UInt8 := 0x00
def PROXY_SAR_FIRST : UInt8 := 0x01
def PROXY_SAR_CONTINUATION : UInt8 := 0x02
def PROXY_SAR_LAST : UInt8 := 0x03
def PROXY_TYPE_PROVISIONING : UInt8 := 0x03

/-- What the script raises itself, with its text, and what it lets through. -/
inductive ScriptError
  | runtimeError (msg : String)
  | raised (error : PyError)
  deriving DecidableEq, Repr

abbrev ScriptExchange := Program (fun call : BearerCall UInt8 => Reply call.Value) ScriptError

/-- The attributes of `PBGATTProvisioner` that the exchange reads. -/
structure PBGATTProvisioner where
  netKey : Bytes
  unicastAddr : Nat
  netKeyIndex : Nat := 0
  ivIndex : Nat := 0
  flags : Nat := 0
  publicKeyBytes : Bytes

/-- The dictionary that `provision` returns. -/
structure ProvisionResult where
  mac : String
  unicast : String
  elements : Nat
  ivIndex : Nat
  netKey : String
  devKey : String
  netKeyIndex : Nat
  deriving DecidableEq, Repr

/-! ### PDUs -/

/-- The loop of `_make_proxy_pdu`, for so many more passes. -/
def segmentLoop (pduType : UInt8) (payload : Bytes) : (passes : Nat) → (first : Bool) →
    (offset : Nat) → List Bytes
  | 0, _, _ => []
  | passes + 1, first, offset =>
    if offset < payload.length then
      let remaining := payload.length - offset
      let (sar, chunk) :=
        if first then (PROXY_SAR_FIRST, (payload.drop offset).take 19)
        else if remaining ≤ 19 then (PROXY_SAR_LAST, payload.drop offset)
        else (PROXY_SAR_CONTINUATION, (payload.drop offset).take 19)
      ((sar <<< 6 ||| pduType) :: chunk) ::
        segmentLoop pduType payload passes false (offset + chunk.length)
    else []

/-- `_make_proxy_pdu`; each pass takes a byte at least. -/
def makeProxyPdu (pduType : UInt8) (payload : Bytes) : List Bytes :=
  if payload.length ≤ 19 then [(PROXY_SAR_COMPLETE <<< 6 ||| pduType) :: payload]
  else segmentLoop pduType payload payload.length true 0

namespace ScriptExchange

def await (action : BearerAction UInt8) : ScriptExchange Unit :=
  .call (.act action) fun reply => .done (reply.result.mapError .raised)

end ScriptExchange

open ScriptExchange

def sendProv (pdu : Bytes) : ScriptExchange Unit :=
  let segments := makeProxyPdu PROXY_TYPE_PROVISIONING pdu
  segments.forM fun seg => do
    await (.write seg pdu)
    if segments.length > 1 then
      await (.sleep 50)

def recvProv (timeout : Nat) : ScriptExchange Bytes :=
  .call (.receive timeout) fun reply =>
    .done ((reply.result.map ReceivedPdu.pdu).mapError .raised)

/-- `pdu[i]`. -/
def byteAt (pdu : Bytes) (i : Nat) : Except ScriptError UInt8 := (index pdu i).mapError .raised

def hexByte (byte : UInt8) : String := s!"0x{hexUpper 2 byte.toNat}"

/-- A PDU of the type that is expected, or of `PROV_FAILED` with its own text. -/
def checkReply (pdu : Bytes) (expected : UInt8) (name failed : String) : Except ScriptError Unit := do
  if (← byteAt pdu 0) = PROV_FAILED then
    let code ← byteAt pdu 1
    .error (.runtimeError s!"{failed}{hexByte code}")
  if (← byteAt pdu 0) ≠ expected then
    .error (.runtimeError s!"Expected {name}, got {hexByte (← byteAt pdu 0)}")

/-- The Capabilities have no check for `PROV_FAILED`, but all their fields are read. -/
def checkCapabilities (caps : Bytes) : Except ScriptError Unit := do
  if (← byteAt caps 0) ≠ PROV_CAPABILITIES then
    .error (.runtimeError s!"Expected Capabilities, got {hexByte (← byteAt caps 0)}")
  -- elements, algorithms, and the methods of which only the texts are printed
  (List.range' 1 11).forM fun i => discard (byteAt caps i)

def errorCodes : List (UInt8 × String) :=
  [(0x00, "Prohibited"), (0x01, "InvalidPDU"), (0x02, "InvalidFormat"), (0x03, "UnexpectedPDU"),
    (0x04, "ConfirmationFailed"), (0x05, "OutOfResources"), (0x06, "DecryptionFailed"),
    (0x07, "UnexpectedError"), (0x08, "CannotAssignAddresses")]

/-- How the last PDU is taken. -/
def checkResult (pdu : Bytes) : Except ScriptError Unit := do
  if (← byteAt pdu 0) = PROV_COMPLETE then .ok ()
  else if (← byteAt pdu 0) = PROV_FAILED then
    let code := pdu.getD 1 0xFF
    let name := (errorCodes.lookup code).getD s!"Unknown({hexByte code})"
    .error (.runtimeError s!"Provisioning failed: {name}")
  else .error (.runtimeError s!"Unexpected response: {hexByte (← byteAt pdu 0)}")

/-! ### The exchange -/

def attentionDuration : Bytes := [5]

def startParams : Bytes := [0x00, 0x00, 0x00, 0x00, 0x00]

def authValue : Bytes := List.replicate 16 0x00

section Run

variable (lib : CipherLibrary) (ecdh : Bytes → Except String Bytes) (self : PBGATTProvisioner)

/-- Steps 1 and 2. -/
def exchangeInvite : ScriptExchange Bytes := do
  sendProv ([PROV_INVITE] ++ attentionDuration)
  let caps ← recvProv 10
  checkCapabilities caps
  return caps

/-- Steps 3 and 4. -/
def exchangePublicKeys : ScriptExchange Bytes := do
  sendProv ([PROV_START] ++ startParams)
  await (.sleep 500)
  sendProv ([PROV_PUBLIC_KEY] ++ self.publicKeyBytes)
  let devPubPdu ← recvProv 15
  checkReply devPubPdu PROV_PUBLIC_KEY "PublicKey" "Device failed: error code "
  return devPubPdu.drop 1

/-- `shared_secret`. -/
def sharedSecret (devicePublicKey : Bytes) : Except ScriptError Bytes :=
  if devicePublicKey.length ≠ 64 then
    .error (.runtimeError s!"Bad device public key length: {devicePublicKey.length}")
  else (ecdh devicePublicKey).mapError fun _ => .raised .valueError

/-- Steps 5 and 6, with the bytes of `os.urandom(16)`. -/
def exchangeConfirmations (confKey randomProvisioner : Bytes) : ScriptExchange Bytes := do
  let confProvisioner ← (aesCmac lib.toCipherSuite confKey (randomProvisioner ++ authValue)).mapError
    ScriptError.raised
  sendProv ([PROV_CONFIRMATION] ++ confProvisioner)
  let devConfPdu ← recvProv 10
  checkReply devConfPdu PROV_CONFIRMATION "Confirmation" "Device failed at confirmation: "
  let devConfirmation := devConfPdu.drop 1
  sendProv ([PROV_RANDOM] ++ randomProvisioner)
  let devRandomPdu ← recvProv 10
  checkReply devRandomPdu PROV_RANDOM "Random" "Device failed at random: "
  let randomDevice := devRandomPdu.drop 1
  let expectedConf ← (aesCmac lib.toCipherSuite confKey (randomDevice ++ authValue)).mapError
    ScriptError.raised
  if expectedConf ≠ devConfirmation then
    .raise (.runtimeError "Device confirmation mismatch! Auth may be wrong.")
  return randomDevice

/-- `prov_data`. -/
def provData : Except PyError Bytes := do
  return self.netKey ++ (← packBE 2 self.netKeyIndex) ++ [← byteOf self.flags] ++
    (← packBE 4 self.ivIndex) ++ (← packBE 2 self.unicastAddr)

/-- Step 7; returns the device key. -/
def exchangeData (sharedSecret confSalt randomProvisioner randomDevice : Bytes) :
    ScriptExchange Bytes := do
  let s1 (m : Bytes) := (lib.macSuite.s1 m).mapError ScriptError.raised
  let k1 (salt p : Bytes) := (lib.macSuite.k1 sharedSecret salt p).mapError ScriptError.raised
  let provSalt ← s1 (confSalt ++ randomProvisioner ++ randomDevice)
  let sessionKey ← k1 provSalt prsk
  let sessionNonce ← k1 provSalt prsn
  let devKey ← k1 provSalt prdk
  let provData ← (provData self).mapError ScriptError.raised
  let encryptedData ← (MeshProxyCmd.meshAesCcmEncrypt lib sessionKey (sessionNonce.drop 3) provData
    8).mapError ScriptError.raised
  sendProv ([PROV_DATA] ++ encryptedData)
  let resultPdu ← recvProv 15
  checkResult resultPdu
  return devKey

/-- `provision`, once it is connected to the device. -/
def exchange (mac : String) (randomProvisioner : Bytes) : ScriptExchange ProvisionResult := do
  await .startNotify
  let caps ← exchangeInvite
  let deviceCapabilities := caps.drop 1
  let numElements ← byteAt caps 1
  let devicePublicKey ← exchangePublicKeys self
  let sharedSecret ← sharedSecret ecdh devicePublicKey
  let confSalt ← (lib.macSuite.s1 (attentionDuration ++ deviceCapabilities ++ startParams ++
    self.publicKeyBytes ++ devicePublicKey)).mapError ScriptError.raised
  let confKey ← (lib.macSuite.k1 sharedSecret confSalt prck).mapError ScriptError.raised
  let randomDevice ← exchangeConfirmations lib confKey randomProvisioner
  let devKey ← exchangeData lib self sharedSecret confSalt randomProvisioner randomDevice
  return {
    mac
    unicast := s!"0x{hexUpper 4 self.unicastAddr}"
    elements := numElements.toNat
    ivIndex := self.ivIndex
    netKey := hexBytes self.netKey
    devKey := hexBytes devKey
    netKeyIndex := self.netKeyIndex }

end Run

end PbGattProvision

end TuyaBleMesh
