import TuyaBleMesh.Lib.Hex
import TuyaBleMesh.Lib.Program
import TuyaBleMesh.Mesh.Cmac

/-!
# The provisioning exchange

`_run_exchange` of `sig_mesh_provisioner_exchange.py` with the functions it defines for
sending, receiving and checking PDUs. What it awaits are calls of a program; the
code's bytes are those of `codeSuite`.
-/

namespace TuyaBleMesh

def _PROV_INVITE : UInt8 := 0x00
def _PROV_CAPABILITIES : UInt8 := 0x01
def _PROV_START : UInt8 := 0x02
def _PROV_PUBLIC_KEY : UInt8 := 0x03
def _PROV_CONFIRMATION : UInt8 := 0x05
def _PROV_RANDOM : UInt8 := 0x06
def _PROV_DATA : UInt8 := 0x07
def _PROV_COMPLETE : UInt8 := 0x08
def _PROV_FAILED : UInt8 := 0x09

def _SAR_COMPLETE : UInt8 := 0x00
def _SAR_FIRST : UInt8 := 0x01
def _SAR_CONTINUATION : UInt8 := 0x02
def _SAR_LAST : UInt8 := 0x03

def _NO_OOB_AUTH : Bytes := List.replicate 16 0x00

def _ATTENTION_DURATION : UInt8 := 5

/-! Delays in milliseconds, timeouts in seconds. -/

def _POST_START_PDU_DELAY : Nat := 500
def _POST_COMPLETE_DELAY : Nat := 2500
def _PROVISIONING_POLL_INTERVAL : Nat := 50

def PROVISIONING_CAPABILITIES_TIMEOUT : Nat := 10
def PROVISIONING_PUBLIC_KEY_TIMEOUT : Nat := 15
def PROVISIONING_CONFIRMATION_TIMEOUT : Nat := 10
def PROVISIONING_RANDOM_TIMEOUT : Nat := 10
def PROVISIONING_COMPLETE_TIMEOUT : Nat := 15

def _PROV_ERROR_NAMES : List (UInt8 × String) :=
  [(0x00, "Prohibited"), (0x01, "InvalidPDU"), (0x02, "InvalidFormat"), (0x03, "UnexpectedPDU"),
    (0x04, "ConfirmationFailed"), (0x05, "OutOfResources"), (0x06, "DecryptionFailed"),
    (0x07, "UnexpectedError"), (0x08, "CannotAssignAddresses")]

/-! ### What the exchange works with -/

structure ProvisionerSuite (β : Type) extends MacSuite β where
  /-- The secret shared with the owner of a public key of 64 bytes, or the text of the
  `ValueError` when it is no point of the curve. -/
  ecdh : List β → Except String (List β)
  meshAesCcmEncrypt (key nonce plaintext : List β) (micLen : Nat) : Except PyError (List β)

/-- The bytes and the cryptography of the code. -/
def codeSuite (suite : CipherSuite) (ecdh : Bytes → Except String Bytes) :
    ProvisionerSuite UInt8 where
  toMacSuite := suite.macSuite
  ecdh
  meshAesCcmEncrypt := TuyaBleMesh.meshAesCcmEncrypt suite

/-- The attributes that `_run_exchange` reads. -/
structure Provisioner (β : Type) where
  ourPubKeyBytes : List β
  netKey : List β
  appKey : List β
  netKeyIndex : Nat
  ivIndex : Nat
  flags : Nat
  unicastAddr : Nat

/-- The connected client, whose MTU leaves room for a payload. -/
structure BleakClient where
  mtuSize : Nat
  hasPair : Bool
  minMtu : 4 < mtuSize

structure ProvisioningResult (β : Type) where
  devKey : List β
  netKey : List β
  appKey : List β
  unicastAddr : Nat
  ivIndex : Nat
  numElements : Nat
  deriving DecidableEq

/-! ### Awaiting -/

inductive BearerAction (β : Type)
  | pair
  | startNotify
  /-- A segment of a PDU is written. -/
  | write (segment pdu : List β)
  | sleep (duration : Nat)

inductive BearerCall (β : Type)
  | act (action : BearerAction β)
  /-- A new `rx_event` is installed and waited for, and then `rx_buffer` is read. -/
  | receive (timeout : Nat)

/-- A PDU in `rx_buffer`, the how many-th one to arrive. -/
structure ReceivedPdu (β : Type) where
  number : Nat
  pdu : List β

abbrev BearerCall.Value {β : Type} : BearerCall β → Type
  | .act _ => Unit
  | .receive _ => ReceivedPdu β

/-- What a call gives, and how many PDUs had arrived by then, which the code does not see. -/
structure Reply (α : Type) where
  result : Except PyError α
  clock : Nat

abbrev Exchange (β : Type) := Program (fun call : BearerCall β => Reply call.Value) PyError

variable {β : Type}

namespace Exchange

/-- The exceptions of the call are handled by the caller. -/
def attempt (call : BearerCall β) : Exchange β (Except PyError call.Value) :=
  .call call fun reply => .done (.ok reply.result)

def await (action : BearerAction β) : Exchange β Unit :=
  .call (.act action) fun reply => .done reply.result

end Exchange

open Exchange Program

/-! ### PDUs -/

/-- `_wrap_provisioning_pdu`. -/
def wrapProvisioningPdu (suite : ProvisionerSuite β) (pdu : List β) (mtu : Nat) : List (List β) :=
  let maxPayload := mtu - 4
  if pdu.length ≤ maxPayload then [suite.lit (_SAR_COMPLETE <<< 6 ||| 0x03) :: pdu]
  else
    let count := (pdu.length + maxPayload - 1) / maxPayload
    (List.range count).map fun i =>
      let chunk := (pdu.drop (i * maxPayload)).take maxPayload
      let sar :=
        if i = 0 then _SAR_FIRST else if i = count - 1 then _SAR_LAST else _SAR_CONTINUATION
      suite.lit (sar <<< 6 ||| 0x03) :: chunk

section Pdus

variable (suite : ProvisionerSuite β) (client : BleakClient)

def sendProv (pdu : List β) : Exchange β Unit :=
  let segments := wrapProvisioningPdu suite pdu client.mtuSize
  segments.forM fun seg => do
    await (.write seg pdu)
    if segments.length > 1 then
      await (.sleep _PROVISIONING_POLL_INTERVAL)

def recvProv (recvTimeout : Nat) (stepName : String) : Exchange β (List β) := do
  match ← attempt (.receive recvTimeout) with
  | .ok received => return received.pdu
  | .error .timeoutError =>
    raise (.provisioningError
      (s!"Timeout waiting for {stepName} (waited {recvTimeout}.0s). " ++
        "Device may be unresponsive or out of range. " ++
        "Try moving closer to the device or increasing timeout."))
  | .error error => raise error

/-- The error that a Failed PDU reports. -/
def failedName (rest : List β) : String :=
  let code :=
    match rest with
    | [] => 0xFF
    | code :: _ => suite.value code
  (_PROV_ERROR_NAMES.lookup code).getD s!"0x{hexUpper 2 code.toNat}"

def checkPdu (pdu : List β) (expectedType : UInt8) (stepName : String) : Except PyError Unit :=
  match pdu with
  | [] => .error (.provisioningError s!"Received empty PDU for {stepName}")
  | first :: rest =>
    if suite.value first = _PROV_FAILED then
      .error (.provisioningError
        (s!"Device sent ProvisioningFailed during {stepName}: {failedName suite rest}. " ++
          "This may indicate: device already provisioned, OOB mismatch, " ++
          "insufficient resources, or unsupported configuration."))
    else if suite.value first ≠ expectedType then
      .error (.provisioningError
        (s!"Protocol error at {stepName}: expected PDU type " ++
          s!"0x{hexUpper 2 expectedType.toNat}, " ++
          s!"got 0x{hexUpper 2 (suite.value first).toNat}. " ++
          "Device may not support standard SIG Mesh provisioning."))
    else .ok ()

/-- The check of the last PDU. -/
def checkComplete (pdu : List β) : Except PyError Unit :=
  match pdu with
  | [] => .error .indexError
  | first :: rest =>
    if suite.value first = _PROV_FAILED then
      .error (.provisioningError
        (s!"Device rejected provisioning data: {failedName suite rest}. " ++
          "Common causes: device already provisioned, address conflict, " ++
          "insufficient storage, or invalid IV index."))
    else if suite.value first ≠ _PROV_COMPLETE then
      .error (.provisioningError
        ("Expected ProvisioningComplete (0x08), " ++
          s!"got 0x{hexUpper 2 (suite.value first).toNat}. " ++
          "Device sent unexpected response after receiving provisioning data."))
    else .ok ()

/-! ### Keys -/

def inviteParams : Bytes := [_ATTENTION_DURATION]

/-- Algorithm, public key, authentication method, action and size: FIPS P-256 and no OOB. -/
def startParams : Bytes := [0x00, 0x00, 0x00, 0x00, 0x00]

/-! The `p` of `k1`, in ASCII. -/

def prck : Bytes := [0x70, 0x72, 0x63, 0x6B]
def prsk : Bytes := [0x70, 0x72, 0x73, 0x6B]
def prsn : Bytes := [0x70, 0x72, 0x73, 0x6E]
def prdk : Bytes := [0x70, 0x72, 0x64, 0x6B]

/-- `conf_salt`. -/
def confirmationSalt (self : Provisioner β) (deviceCaps devicePubKeyBytes : List β) :
    Except PyError (List β) :=
  suite.s1 (suite.lits inviteParams ++ deviceCaps ++ suite.lits startParams ++
    self.ourPubKeyBytes ++ devicePubKeyBytes)

/-- `shared_secret`. -/
def sharedSecret (devicePubKeyBytes : List β) : Except PyError (List β) :=
  if devicePubKeyBytes.length ≠ 64 then
    .error (.provisioningError
      ("Invalid device public key length: expected 64 bytes, " ++
        s!"got {devicePubKeyBytes.length}. " ++
        "Device may not support FIPS P-256 ECDH (required for SIG Mesh)."))
  else
    match suite.ecdh devicePubKeyBytes with
    | .ok secret => .ok secret
    | .error exc =>
      .error (.provisioningError
        ("Invalid device public key: point not on curve. " ++
          s!"Device sent malformed ECDH public key: {exc}"))

/-- The confirmation of a random value. -/
def confirmation (confKey random : List β) : Except PyError (List β) :=
  suite.aesCmac confKey (random ++ suite.lits _NO_OOB_AUTH)

/-- The device's random value is the one that it has confirmed. -/
def verifyConfirmation [DecidableEq β] (confKey randomDevice devConfirmation : List β) :
    Except PyError Unit := do
  let expectedConf ← confirmation suite confKey randomDevice
  if expectedConf ≠ devConfirmation then
    .error (.provisioningError
      ("Device confirmation mismatch (authentication failed). " ++
        "This indicates a crypto error or OOB authentication mismatch. " ++
        "For devices requiring OOB, this integration currently only supports No OOB mode."))

/-- `prov_data`. -/
def provisioningData (self : Provisioner β) : Except PyError (List β) := do
  let netKeyIndex ← packBE 2 self.netKeyIndex
  let flags ← byteOf self.flags
  let ivIndex ← packBE 4 self.ivIndex
  let unicastAddr ← packBE 2 self.unicastAddr
  return self.netKey ++ suite.lits (netKeyIndex ++ [flags] ++ ivIndex ++ unicastAddr)

end Pdus

/-! ### The exchange -/

section Run

variable (suite : ProvisionerSuite β) (self : Provisioner β) (client : BleakClient)

/-- Pairing, which may fail, and the subscription. -/
def subscribe : Exchange β Unit := do
  if client.hasPair then
    match ← attempt (.act .pair) with
    | .ok () => pure ()
    | .error .timeoutError => pure ()
    | .error .osError => pure ()
    | .error error => raise error
  await .startNotify

/-- Steps 1 and 2. -/
def exchangeInvite : Exchange β (List β) := do
  sendProv suite client (suite.lits ([_PROV_INVITE] ++ inviteParams))
  let capsPdu ← recvProv PROVISIONING_CAPABILITIES_TIMEOUT "Capabilities"
  checkPdu suite capsPdu _PROV_CAPABILITIES "Capabilities"
  return capsPdu

/-- Steps 3 and 4. -/
def exchangePublicKeys : Exchange β (List β) := do
  sendProv suite client (suite.lits ([_PROV_START] ++ startParams))
  await (.sleep _POST_START_PDU_DELAY)
  sendProv suite client (suite.lits [_PROV_PUBLIC_KEY] ++ self.ourPubKeyBytes)
  let devPubPdu ← recvProv PROVISIONING_PUBLIC_KEY_TIMEOUT "PublicKey"
  checkPdu suite devPubPdu _PROV_PUBLIC_KEY "PublicKey"
  return devPubPdu.drop 1

/-- The end of step 6. -/
def receiveRandom [DecidableEq β] (confKey devConfirmation : List β) : Exchange β (List β) := do
  let devRandomPdu ← recvProv PROVISIONING_RANDOM_TIMEOUT "Random"
  checkPdu suite devRandomPdu _PROV_RANDOM "Random"
  let randomDevice := devRandomPdu.drop 1
  verifyConfirmation suite confKey randomDevice devConfirmation
  return randomDevice

/-- Steps 5 and 6, with the bytes of `os.urandom(16)`. -/
def exchangeConfirmations [DecidableEq β] (confKey randomProvisioner : List β) :
    Exchange β (List β) := do
  let confProvisioner ← confirmation suite confKey randomProvisioner
  sendProv suite client (suite.lits [_PROV_CONFIRMATION] ++ confProvisioner)
  let devConfPdu ← recvProv PROVISIONING_CONFIRMATION_TIMEOUT "Confirmation"
  checkPdu suite devConfPdu _PROV_CONFIRMATION "Confirmation"
  sendProv suite client (suite.lits [_PROV_RANDOM] ++ randomProvisioner)
  receiveRandom suite confKey (devConfPdu.drop 1)

/-- Step 7, under the session keys; returns the device key. -/
def exchangeData (sharedSecret confSalt randomProvisioner randomDevice : List β) :
    Exchange β (List β) := do
  let provSalt ← suite.s1 (confSalt ++ randomProvisioner ++ randomDevice)
  let sessionKey ← suite.k1 sharedSecret provSalt (suite.lits prsk)
  let sessionNonce ← suite.k1 sharedSecret provSalt (suite.lits prsn)
  let devKey ← suite.k1 sharedSecret provSalt (suite.lits prdk)
  let provData ← provisioningData suite self
  let encryptedData ← suite.meshAesCcmEncrypt sessionKey (sessionNonce.drop 3) provData 8
  sendProv suite client (suite.lits [_PROV_DATA] ++ encryptedData)
  let resultPdu ← recvProv PROVISIONING_COMPLETE_TIMEOUT "Complete/Failed"
  checkComplete suite resultPdu
  return devKey

/-- `_run_exchange`. -/
def runExchange [DecidableEq β] (randomProvisioner : List β) :
    Exchange β (ProvisioningResult β) := do
  subscribe client
  let capsPdu ← exchangeInvite suite client
  let deviceCaps := capsPdu.drop 1
  let numElements :=
    match deviceCaps with
    | [] => 1
    | elements :: _ => (suite.value elements).toNat
  let devicePubKeyBytes ← exchangePublicKeys suite self client
  let secret ← sharedSecret suite devicePubKeyBytes
  let confSalt ← confirmationSalt suite self deviceCaps devicePubKeyBytes
  let confKey ← suite.k1 secret confSalt (suite.lits prck)
  let randomDevice ← exchangeConfirmations suite client confKey randomProvisioner
  let devKey ← exchangeData suite self client secret confSalt randomProvisioner randomDevice
  await (.sleep _POST_COMPLETE_DELAY)
  return {
    devKey
    netKey := self.netKey
    appKey := self.appKey
    unicastAddr := self.unicastAddr
    ivIndex := self.ivIndex
    numElements }

end Run

end TuyaBleMesh
