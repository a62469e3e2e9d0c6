import TuyaBleMesh.SigMesh.Commands

/-!
# A SIG Mesh device

`sig_mesh_device.py` and `sig_mesh_device_segments.py`: connecting, disconnecting, the
callbacks of the Bluetooth client, and the tasks that process notifications.
-/

namespace TuyaBleMesh

/-- The response that a call resolves, and its result. -/
def Effect.resolved? : Effect → Option (ResponseKey × Bytes)
  | .resolved key params => some (key, params)
  | _ => none

/-- The response futures that are resolved during a call, with their results. -/
def Outcome.responses (outcome : Outcome) : List (ResponseKey × Bytes) :=
  outcome.effects.filterMap Effect.resolved?

inductive SigOutside
  /-- The sequence store is shared with other devices, and may be set. -/
  | setSeq (seq : Nat)
  | register (kind : CallbackKind) (callback : Nat)
  | unregister (kind : CallbackKind) (callback : Nat)

namespace SigMesh

open Coroutine

variable (c : SigConfig)

/-! ### Connecting -/

/-- `_load_keys`. -/
def loadKeys : SigMesh Unit := do
  let made : Except PyError MeshKeys ← onError (SigMesh.call .getSecrets) fun error =>
    if error.isSecretAccessError || error.isOsError || error = .valueError ||
        error = .runtimeError then
      raise (.sigMeshKeyError s!"Failed to load SIG Mesh keys for prefix '{c.opItemPrefix}'")
    else raise error
  let keys ← fromAnswer made
  update fun s => { s with device := { s.device with keys := some keys } }

/-- The client of a failed attempt is disconnected, if there was one. -/
def closeAttempt (created : Bool) : SigMesh Unit :=
  if created then suppressLinkErrors (SigMesh.call .closeAttempt) else pure ()

/-- `_bluetoothctl_remove`, in standalone mode. -/
def removeFromCache : SigMesh Unit :=
  if c.directBluez then
    onError (SigMesh.call .bluetoothctlRemove) fun error =>
      if error.isOsError then pure () else raise error
  else pure ()

/-- The handler of one attempt: `false`, or the exception is none of its own. -/
def attemptFailed (created : Bool) (error : PyError) : SigMesh Bool :=
  if error = .bleakError || error.isMeshConnectionError || error.isOsError then do
    closeAttempt created
    removeFromCache c
    SigMesh.call .cacheClear
    return false
  else raise error

def findDevice : SigMesh Unit := do
  let found : Bool ← SigMesh.call .findDevice
  if found then pure () else raise (.meshConnectionError s!"Device {c.address} not found")

/-- The subscription may fail; the device works without it. -/
def subscribe (client : ProxyClient) : SigMesh Unit :=
  onError (SigMesh.call (.startNotify client)) fun error =>
    if error = .eofError || error = .bleakError || error.isOsError then pure () else raise error

/-- The composition request is not critical. -/
def requestComposition : SigMesh Unit :=
  onError (runCall c .requestCompositionData) fun error =>
    if error = .timeoutError || error.isSigMeshError || error = .bleakError then pure ()
    else raise error

/-- An attempt from the connected client on. -/
def useClient (client : ProxyClient) (resolved : Except PyError Unit) : SigMesh Unit := do
  fromAnswer resolved
  subscribe client
  update fun s => { s with client := some client }
  requestComposition c

/-- One attempt from the device on. -/
def connectClient : SigMesh Bool := do
  let made : Option (ProxyClient × Except PyError Unit) ← onError
    (do
      let client : ProxyClient × Except PyError Unit ← SigMesh.call .establishConnection
      return some client)
    fun error => do
      -- without the callback there is a client before it connects
      let _ ← attemptFailed c (!c.connectCallback) error
      return none
  match made with
  | none => return false
  | some (client, resolved) =>
    onError (do useClient c client resolved; return true) (attemptFailed c true)

def connectAttempt : SigMesh Bool := do
  let found ← onError (do findDevice c; return true) (attemptFailed c false)
  if found then connectClient c else return false

/-- The attempts of `connect`, of which `left` are left. -/
def connectFrom (maxRetries : Nat) : (left : Nat) → SigMesh Unit
  | 0 => raise (.meshConnectionError
      s!"Failed to connect to {c.address} after {maxRetries} attempts")
  | left + 1 => do
    let connected ← connectAttempt c
    if connected then pure () else connectFrom maxRetries left

def connect (maxRetries : Nat) : SigMesh Unit := do
  loadKeys c
  connectFrom c maxRetries maxRetries

/-! ### Disconnecting -/

/-- The second half reads the client again. -/
def dropClient : SigMesh Unit := do
  let s ← device
  match s.client with
  | none => raise .attributeError
  | some client =>
    suppressLinkErrors (SigMesh.call (.disconnectClient client))
    update fun s => { s with client := none }

def closeClient : SigMesh Unit := do
  let s ← device
  match s.client with
  | none => pure ()
  | some client =>
    suppressLinkErrors (SigMesh.call (.stopNotify client))
    dropClient

def cancelAll : List TaskId → SigMesh Unit
  | [] => pure ()
  | task :: tasks => do
    cancelTask task
    cancelAll tasks

/-- The tasks are cancelled, and waited for if there are any. -/
def cancelNotifyTasks : SigMesh Unit := do
  let s ← device
  cancelAll s.notifyTasks
  if s.notifyTasks = [] then pure ()
  else
    SigMesh.call .gatherNotify
    update fun s => { s with notifyTasks := [] }

def disconnect : SigMesh Unit := do
  closeClient
  update fun s => { s with device := { s.device with keys := none } }
  cancelNotifyTasks

/-- The callback for a lost connection; the disconnect callbacks are only called. -/
def onBleDisconnect : SigMesh Unit := update fun s => { s with client := none }

/-! ### Notifications -/

def onNotify (notification : Notification) : SigMesh Unit := do
  let s ← device
  match s.device.keys with
  | none => pure ()
  | some _ =>
    let task ← createTask (.processNotify notification)
    update fun s => { s with notifyTasks := s.notifyTasks ++ [task] }

/-- What a notification is known to have done. -/
def notifyMoments (d : Device) (notification : Notification) : List SigMoment :=
  let outcome := d.processNotify c.suite notification.answers notification.clock notification.data
  let delivered := (d.delivers c.suite notification.clock notification.data).toList
  delivered.map (fun message => .delivered message.1 message.2.1 message.2.2) ++
    outcome.responses.map fun response => .resolved response.1 response.2 notification.answersTo

/-- The device after a notification. -/
def processed (s : SigMeshDevice) (notification : Notification) : SigMeshDevice :=
  let outcome :=
    s.device.processNotify c.suite notification.answers notification.clock notification.data
  { s with
    device := outcome.device
    results := s.results ++ outcome.responses
    history := s.history ++ notifyMoments c s.device notification }

/-- A task that ends takes itself off the list. -/
def processNotify (notification : Notification) : SigMesh Unit := do
  let s ← device
  let me ← currentTask
  update fun s => { processed c s notification with notifyTasks := s.notifyTasks.erase me }
  let outcome :=
    s.device.processNotify c.suite notification.answers notification.clock notification.data
  match outcome.raised with
  | none => pure ()
  | some error => raise error

/-! ### The program -/

def body : SigCode → SigMesh Unit
  | .call call => runCall c call
  | .responded call key answer => responded call key answer
  | .connect maxRetries => connect c maxRetries
  | .disconnect => disconnect
  | .onBleDisconnect => onBleDisconnect
  | .onNotify notification => onNotify notification
  | .processNotify notification => processNotify c notification

/-- What else happens to the device. -/
def outside (event : SigOutside) (s : SigMeshDevice) : Option SigMeshDevice :=
  match event with
  | .setSeq seq => some { s with seqStore := SeqStore.setSeq s.seqStore seq }
  | .register kind callback =>
    some { s with device := s.device.updateCallbacks (· ++ [callback]) kind }
  | .unregister kind callback =>
    some { s with device := s.device.updateCallbacks (·.erase callback) kind }

end SigMesh

instance : DecidableEq sigSignature.Op := inferInstanceAs (DecidableEq SigOp)

/-- What callers and the Bluetooth library start. -/
def SigCode.isEntry : SigCode → Bool
  | .responded _ _ _ => false
  | .processNotify _ => false
  | _ => true

def sigProgram (c : SigConfig) : AsyncProgram sigSignature SigOutside where
  body := SigMesh.body c
  isEntry := SigCode.isEntry
  environment := SigMesh.outside

def sigSystem (c : SigConfig) :
    EventSystem (EventLoop sigSignature) (LoopEvent sigSignature SigOutside) :=
  (sigProgram c).system

/-- A device that nobody has connected to yet. -/
def SigMeshDevice.idle (c : SigConfig) : EventLoop sigSignature :=
  ⟨{ device := Device.new c.targetAddr (some c.levelTargetAddr) }, []⟩

/-! ### A sample device -/

def sampleSig : SigConfig where
  suite := nonceTagSuite
  address := "DC:23:4D:21:43:A5"
  ourAddr := 1
  targetAddr := 0xB0
  levelTargetAddr := 0xB0
  lawful := inferInstance
  ourAddr_lt := by decide
  targetAddr_lt := by decide
  levelTargetAddr_lt := by decide

/-- The PDU of a message to the sample device. -/
def sampleMessage (appKey : Option Bytes) (seq : Nat) (accessPayload : Bytes) : Bytes :=
  let made : Except PyError Bytes := do
    let transportPdu ← SigMesh.transportPdu sampleSig sampleKeys appKey 0xB0 seq accessPayload
    SigMesh.proxyPdu sampleSig sampleKeys 0xB0 seq transportPdu
  made.toOption.getD []

/-- A message under the application key. -/
def sampleAppMessage (seq : Nat) (accessPayload : Bytes) : Bytes :=
  sampleMessage sampleKeys.appKey seq accessPayload

/-- A call of `connect` that succeeds, with the number of its composition request. -/
def connectEvents (task : TaskId) (client : ProxyClient) (seq : Nat) :
    List (LoopEvent sigSignature SigOutside) :=
  [.enter (.connect 5), .start task, .answer task .getSecrets (.ok (.ok sampleKeys)),
    .answer task .findDevice (.ok true), .answer task .establishConnection (.ok (client, .ok ())),
    .answer task (.startNotify client) (.ok ()),
    .answer task (.write .requestCompositionData client
      (sampleMessage none seq [0x80, 0x08, 0x00])) (.ok ())]

end TuyaBleMesh
