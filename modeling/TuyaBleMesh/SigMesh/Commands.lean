import Mathlib.Algebra.Order.Field.Rat
import TuyaBleMesh.Device.Replay
import TuyaBleMesh.Lib.RelyGuarantee
import TuyaBleMesh.Mesh.Messages
import TuyaBleMesh.Sequence.Store

/-!
# The commands of a SIG Mesh device

`sig_mesh_device_commands.py` as coroutines over the fields that all calls share with
connecting, disconnecting and the notifications. The locks of the device are never held
across an await that suspends, so that no call ever waits for one of them.
-/

namespace TuyaBleMesh

/-- A `BleakClient` object connected to the proxy service. -/
abbrev ProxyClient := Nat

/-- `(opcode, correlation id)`. -/
abbrev ResponseKey := Nat × Nat

inductive ConfigCall
  | appkeyAdd (appKey : Bytes) (netIdx appIdx : Int)
  | modelAppBind (elementAddr appIdx modelId : Int)
  deriving DecidableEq

def ConfigCall.request : ConfigCall → ConfigRequest
  | .appkeyAdd _ _ _ => .appKeyAdd
  | .modelAppBind _ _ _ => .modelAppBind

/-- The calls of `SIGMeshDeviceCommandsMixin`, with their arguments. -/
inductive SigCall
  | sendPower (on : Bool) (maxRetries : Nat)
  | sendLevel (level : Int) (maxRetries : Nat)
  | sendVendorCommand (accessPayload : Bytes)
  | requestCompositionData
  | sendConfig (call : ConfigCall)
  deriving DecidableEq

/-- A notification of the proxy, with how the callbacks answer and what the clock shows
when it is processed. -/
structure Notification where
  data : Bytes
  answers : Answers
  clock : Clock
  /-- The request that the device answers with it, if it answers one. -/
  answersTo : Option ResponseKey

/-- What the claims about a run speak of, as it happens. -/
inductive SigMoment
  /-- A write of the task has returned. -/
  | wrote (task : TaskId) (client : ProxyClient)
  /-- A call ends, with `ok` when it returns. -/
  | ended (task : TaskId) (call : SigCall) (result : Except PyError Unit)
  | registered (key : ResponseKey) (call : ConfigCall)
  /-- A message has been received. -/
  | delivered (src opcode : Nat) (params : Bytes)
  /-- The status completes the request. -/
  | resolved (key : ResponseKey) (params : Bytes) (answersTo : Option ResponseKey)
  | timedOut (key : ResponseKey)
  /-- The call for the request returns. -/
  | returned (key : ResponseKey) (call : ConfigCall) (success : Bool)
  deriving DecidableEq

/-- The fields of a `SIGMeshDevice`. -/
structure SigMeshDevice where
  /-- What the receive path works with, the keys and the pending responses among it. -/
  device : Device
  client : Option ProxyClient := none
  seqStore : InMemorySeqStore := {}
  tid : Nat := 0
  notifyTasks : List TaskId := []
  /-- The results of the response futures. -/
  results : List (ResponseKey × Bytes) := []
  history : List SigMoment := []

inductive SigOp
  /-- `write_gatt_char` for a call. -/
  | write (call : SigCall) (client : ProxyClient) (pdu : Bytes)
  /-- The pause after a failed attempt, with `left` attempts to come. -/
  | backoff (call : SigCall) (delay : Rat) (left : Nat)
  /-- The pause after a segment, with `left` segments to come. -/
  | segmentPause (call : ConfigCall) (left : Nat)
  /-- `wait_for(shield(future), …)`. -/
  | response (call : ConfigCall) (key : ResponseKey)
  | getSecrets
  /-- The scan, or the callback that finds the device. -/
  | findDevice
  | establishConnection
  | startNotify (client : ProxyClient)
  /-- The client of a failed attempt is disconnected. -/
  | closeAttempt
  | bluetoothctlRemove
  | cacheClear
  | stopNotify (client : ProxyClient)
  | disconnectClient (client : ProxyClient)
  | gatherNotify
  deriving DecidableEq

/-- The key texts make keys or not, and the proxy characteristics of a client are found or
not; neither takes time. -/
abbrev SigOp.Answer : SigOp → Type
  | .getSecrets => Except PyError MeshKeys
  | .findDevice => Bool
  | .establishConnection => ProxyClient × Except PyError Unit
  | _ => Unit

/-- The calls of a device, its callbacks and tasks. -/
inductive SigCode
  | call (call : SigCall)
  /-- The wait for a status has ended. -/
  | responded (call : ConfigCall) (key : ResponseKey) (answer : Except PyError Unit)
  | connect (maxRetries : Nat)
  | disconnect
  | onBleDisconnect
  | onNotify (notification : Notification)
  | processNotify (notification : Notification)

abbrev sigSignature : Signature where
  State := SigMeshDevice
  Op := SigOp
  Answer := SigOp.Answer
  Site := Empty
  Code := SigCode
  Error := PyError
  cancelledError := .cancelledError
  selfJoinError := .runtimeError

abbrev SigMesh := Coroutine sigSignature

/-- What a device is made with. -/
structure SigConfig where
  suite : CipherSuite
  address : String
  opItemPrefix : String := "s17"
  ourAddr : Nat
  targetAddr : Nat
  levelTargetAddr : Nat
  brightnessModelId : Nat := 0x1002
  /-- An adapter is named, and the device is reached without Home Assistant. -/
  directBluez : Bool := false
  /-- There is a callback that returns connected clients. -/
  connectCallback : Bool := true
  lawful : LawfulCcm suite
  -- unicast addresses
  ourAddr_lt : ourAddr < 256 ^ 2
  targetAddr_lt : targetAddr < 256 ^ 2
  levelTargetAddr_lt : levelTargetAddr < 256 ^ 2

namespace SigMesh

open Coroutine

abbrev device : SigMesh SigMeshDevice := read

abbrev call (op : SigOp) : SigMesh op.Answer := Coroutine.call (S := sigSignature) op

abbrev update (f : SigMeshDevice → SigMeshDevice) : SigMesh Unit := modify f

/-- Written down in the history of the run. -/
abbrev note (moment : SigMoment) : SigMesh Unit :=
  update fun s => { s with history := s.history ++ [moment] }

/-- The answer of what was awaited. -/
abbrev fromAnswer {α : Type} (answer : Except PyError α) : SigMesh α :=
  Coroutine.done (S := sigSignature) answer

/-- `contextlib.suppress(BleakError, OSError)`. -/
def suppressLinkErrors (body : SigMesh Unit) : SigMesh Unit :=
  onError body fun error =>
    if error = .bleakError || error.isOsError then pure () else raise error

variable (c : SigConfig)

/-! ### Making and writing PDUs -/

def _DEFAULT_TTL : Nat := 5

/-- The network PDU for a transport PDU, as the proxy takes it. -/
def proxyPdu (keys : MeshKeys) (dst seq : Nat) (transportPdu : Bytes) : Except PyError Bytes := do
  let fields : NetworkPDU :=
    { ctl := 0, ttl := _DEFAULT_TTL, seq, src := c.ourAddr, dst, transportPdu }
  let networkPdu ← encryptNetworkPdu c.suite keys.encKey keys.privKey keys.nid fields keys.ivIndex
  return makeProxyPdu networkPdu

/-- The transport PDU of a message, under the application key or the device key. -/
def transportPdu (keys : MeshKeys) (appKey : Option Bytes) (dst seq : Nat)
    (accessPayload : Bytes) : Except PyError Bytes :=
  match appKey with
  | some appKey =>
    makeAccessUnsegmented c.suite appKey c.ourAddr dst seq keys.ivIndex accessPayload 1 keys.aid
  | none =>
    makeAccessUnsegmented c.suite keys.devKey c.ourAddr dst seq keys.ivIndex accessPayload 0 0

/-- `_next_seq` and `_next_seqs`: the first number. -/
def drawSeqs (draw : Draw) : SigMesh Nat := do
  let s ← device
  match draw.run s.seqStore with
  | .error error => raise error
  | .ok (range, seqStore) =>
    update fun s => { s with seqStore }
    return range.start

/-- `self._keys.iv_index` and the like. -/
def loadedKeys : SigMesh MeshKeys := do
  let s ← device
  match s.device.keys with
  | none => raise .attributeError
  | some keys => pure keys

/-- `self._client.write_gatt_char(…)`. -/
def writeGattChar (call : SigCall) (pdu : Bytes) : SigMesh Unit := do
  let s ← device
  match s.client with
  | none => raise .attributeError
  | some client =>
    SigMesh.call (.write call client pdu)
    let me ← currentTask
    note (.wrote me client)

/-- The PDU of an unsegmented message, with a new sequence number. -/
def unsegmentedPdu (appKey : Option Bytes) (dst : Nat) (accessPayload : Bytes) : SigMesh Bytes := do
  let seq ← drawSeqs .one
  let keys ← loadedKeys
  fromAnswer do
    let transportPdu ← transportPdu c keys appKey dst seq accessPayload
    proxyPdu c keys dst seq transportPdu

/-- An unsegmented message is made and written. -/
def sendUnsegmented (call : SigCall) (appKey : Option Bytes) (dst : Nat)
    (accessPayload : Except PyError Bytes) : SigMesh Unit := do
  let accessPayload ← fromAnswer accessPayload
  let pdu ← unsegmentedPdu c appKey dst accessPayload
  writeGattChar call pdu

/-- The check at the start of each call. -/
def checkConnected : SigMesh MeshKeys := do
  let s ← device
  match s.client, s.device.keys with
  | some _, some keys => pure keys
  | _, _ => raise (.sigMeshError "Not connected")

def applicationKey (keys : MeshKeys) : SigMesh Bytes :=
  match keys.appKey with
  | none => raise (.sigMeshKeyError "No application key loaded")
  | some appKey => pure appKey

/-! ### Commands without a response -/

def _BLE_WRITE_RETRY_INITIAL_BACKOFF : Rat := 1

def _BLE_WRITE_RETRY_BACKOFF_MULTIPLIER : Rat := 2

/-- The errors after which a write is repeated. -/
def isWriteError (error : PyError) : Bool := error = .bleakError || error.isOsError

/-- The attempts of a call, of which `left` are left. -/
def sendRetrying (call : SigCall) (once : SigMesh Unit) (maxRetries : Nat) :
    (left : Nat) → (backoff : Rat) → SigMesh Unit
  | 0, _ => raise (.meshConnectionError
      s!"BLE write failed for {c.address} after {maxRetries} attempts")
  | left + 1, backoff => do
    let sent ← onError (do once; return true) fun error =>
      if isWriteError error then
        -- no pause after the last attempt
        if left = 0 then pure false
        else do
          SigMesh.call (.backoff call backoff left)
          return false
      else raise error
    if sent then pure ()
    else sendRetrying call once maxRetries left (backoff * _BLE_WRITE_RETRY_BACKOFF_MULTIPLIER)

/-- The transaction id of a call, which its attempts share. -/
def nextTid : SigMesh Nat := do
  let s ← device
  update fun s => { s with tid := (s.tid + 1) &&& 0xFF }
  return s.tid

/-- A command under the application key, with its attempts. -/
def sendCommand (call : SigCall) (dst maxRetries : Nat)
    (accessPayload : Nat → Except PyError Bytes) : SigMesh Unit := do
  let keys ← checkConnected
  let appKey ← applicationKey keys
  let tid ← nextTid
  let once := sendUnsegmented c call (some appKey) dst (accessPayload tid)
  sendRetrying c call once maxRetries maxRetries _BLE_WRITE_RETRY_INITIAL_BACKOFF

def sendPower (on : Bool) (maxRetries : Nat) : SigMesh Unit :=
  sendCommand c (.sendPower on maxRetries) c.targetAddr maxRetries fun tid =>
    .ok (genericOnoffSet on tid)

def sendLevel (level : Int) (maxRetries : Nat) : SigMesh Unit :=
  sendCommand c (.sendLevel level maxRetries) c.levelTargetAddr maxRetries fun tid =>
    if c.brightnessModelId = 0x1300 then lightLightnessSet (level + 32768) tid
    else genericLevelSet level tid

def sendVendorCommand (accessPayload : Bytes) : SigMesh Unit := do
  let keys ← checkConnected
  let appKey ← applicationKey keys
  sendUnsegmented c (.sendVendorCommand accessPayload) (some appKey) c.targetAddr (.ok accessPayload)

def requestCompositionData : SigMesh Unit := do
  let _ ← checkConnected
  sendUnsegmented c .requestCompositionData none c.targetAddr (configCompositionGet 0)

/-! ### Commands with a response -/

/-- The response future is registered before anything is sent. -/
def register (call : ConfigCall) : SigMesh ResponseKey := do
  let s ← device
  let key : ResponseKey := (call.request.statusOpcode, s.device.correlationId)
  update fun s => { s with
    device := s.device.expectStatus call.request
    history := s.history ++ [.registered key call] }
  return key

def timeoutMessage : ConfigRequest → String
  | .appKeyAdd => "Timeout waiting for AppKey Status response"
  | .modelAppBind => "Timeout waiting for Model App Status response"

/-- The `try` around the sending and the wait. -/
def responseScope (call : ConfigCall) (key : ResponseKey) (body : SigMesh Bytes) : SigMesh Bytes :=
  let timed := onError body fun error =>
    if error = .timeoutError then do
      note (.timedOut key)
      raise (.sigMeshError (timeoutMessage call.request))
    else raise error
  ensuring timed <| update fun s => { s with
    device := { s.device with pendingResponses := s.device.pendingResponses.erase key } }

/-- The wait for the response future. -/
def awaitResponse (call : ConfigCall) (key : ResponseKey) : SigMesh Bytes :=
  .park (.response call key) (.responded call key)

/-- The result of the future, once it has one. -/
def responseResult (call : ConfigCall) (key : ResponseKey) (answer : Except PyError Unit) :
    SigMesh Bytes :=
  match answer with
  | .error error => raise error
  | .ok _ => do
    let s ← device
    match s.results.lookup key with
    | none => awaitResponse call key
    | some params => pure params

/-- The call returns whether the status was Success. -/
def returnStatus (call : ConfigCall) (key : ResponseKey) (params : Bytes) : SigMesh Unit :=
  let status := params.headD 0xFF
  note (.returned key call (status = 0x00))

def sendConfig (call : ConfigCall) (key : ResponseKey) (body : SigMesh Bytes) : SigMesh Unit := do
  let params ← responseScope call key body
  returnStatus call key params

/-- The segments of a message are written one after the other. -/
def writeSegments (call : ConfigCall) : List (Nat × Bytes) → SigMesh Unit
  | [] => pure ()
  | (segSeq, transportPdu) :: rest => do
    let keys ← loadedKeys
    let pdu ← fromAnswer (proxyPdu c keys c.targetAddr segSeq transportPdu)
    writeGattChar (.sendConfig call) pdu
    SigMesh.call (.segmentPause call rest.length)
    writeSegments call rest

def sendConfigAppkeyAdd (appKey : Bytes) (netIdx appIdx : Int) : SigMesh Unit := do
  let call : ConfigCall := .appkeyAdd appKey netIdx appIdx
  let _ ← checkConnected
  let accessPayload ← fromAnswer (configAppkeyAdd netIdx appIdx appKey)
  let upperLen := accessPayload.length + 4
  let nSegs := (upperLen + SEG_DATA_SIZE - 1) / SEG_DATA_SIZE
  let seqStart ← drawSeqs (.range nSegs)
  let keys ← loadedKeys
  let segments ← fromAnswer (makeAccessSegmented c.suite keys.devKey c.ourAddr c.targetAddr seqStart
    keys.ivIndex accessPayload 0 0 0)
  let key ← register call
  sendConfig call key do
    writeSegments c call segments
    awaitResponse call key

def sendConfigModelAppBind (elementAddr appIdx modelId : Int) : SigMesh Unit := do
  let call : ConfigCall := .modelAppBind elementAddr appIdx modelId
  let _ ← checkConnected
  let accessPayload ← fromAnswer (configModelAppBind elementAddr appIdx modelId)
  let pdu ← unsegmentedPdu c none c.targetAddr accessPayload
  let key ← register call
  sendConfig call key do
    writeGattChar (.sendConfig call) pdu
    awaitResponse call key

/-! ### Calls -/

/-- How the call ends is written down. -/
def recordEnd (call : SigCall) (body : SigMesh Unit) : SigMesh Unit := do
  let me ← currentTask
  onError body fun error => do
    note (.ended me call (.error error))
    raise error
  note (.ended me call (.ok ()))

def callBody : SigCall → SigMesh Unit
  | .sendPower on maxRetries => sendPower c on maxRetries
  | .sendLevel level maxRetries => sendLevel c level maxRetries
  | .sendVendorCommand accessPayload => sendVendorCommand c accessPayload
  | .requestCompositionData => requestCompositionData c
  | .sendConfig (.appkeyAdd appKey netIdx appIdx) => sendConfigAppkeyAdd c appKey netIdx appIdx
  | .sendConfig (.modelAppBind elementAddr appIdx modelId) =>
    sendConfigModelAppBind c elementAddr appIdx modelId

def runCall (call : SigCall) : SigMesh Unit := recordEnd call (callBody c call)

/-- The call goes on after its wait. -/
def responded (call : ConfigCall) (key : ResponseKey) (answer : Except PyError Unit) :
    SigMesh Unit :=
  recordEnd (.sendConfig call) (sendConfig call key (responseResult call key answer))

end SigMesh

end TuyaBleMesh
