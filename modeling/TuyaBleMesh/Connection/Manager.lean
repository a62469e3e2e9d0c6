import TuyaBleMesh.Connection.ErrorClass
import TuyaBleMesh.Lib.EventSystem
import TuyaBleMesh.Light.Entity

/-!
# Connecting and reconnecting

`connection_manager.py`, the part of `coordinator.py` that it calls and is called by,
and the set-up of an entry, with its tasks: the set-up, the reconnect loop, the RSSI
loop, the watchdog and the tasks that process notifications. `connect` of the device
is seen as far as its attempts, its link and its reaction to a cancellation go.
`CancelledError` reaches a cancelled task before anything else happens. Statistics
that nothing reads, repair issues and the dispatch to listeners are left out.
-/

namespace TuyaBleMesh

def DEBOUNCE_DELAY : Rat := 3 / 2

def INITIAL_BACKOFF : Nat := 5

def MAX_BACKOFF : Nat := 300

def BACKOFF_MULTIPLIER : Nat := 2

def BRIDGE_INITIAL_BACKOFF : Nat := 3

def BRIDGE_MAX_BACKOFF : Nat := 120

/-- What stands behind `AnyMeshDevice`. -/
inductive DeviceKind
  | telink
  | sigMesh
  | bridge
  deriving DecidableEq

def DeviceKind.initialBackoff : DeviceKind → Nat
  | .bridge => BRIDGE_INITIAL_BACKOFF
  | _ => INITIAL_BACKOFF

def DeviceKind.maxBackoff : DeviceKind → Nat
  | .bridge => BRIDGE_MAX_BACKOFF
  | _ => MAX_BACKOFF

/-- The default of `max_retries`. -/
def DeviceKind.maxRetries : DeviceKind → Nat
  | .bridge => 3
  | _ => 5

structure EntryConfig where
  kind : DeviceKind
  /-- `_max_reconnect_failures`; no limit if it is zero. -/
  maxReconnectFailures : Nat := 0

/-! ### The state of the device -/

/-- `DeviceAvailabilityState`. -/
inductive DeviceAvailability
  | unknown
  | available
  | stale
  | assumedOnline
  | unreachable
  | reprovisionRequired
  deriving DecidableEq

def DeviceAvailability.isFailed : DeviceAvailability → Bool
  | .unreachable => true
  | .reprovisionRequired => true
  | _ => false

/-- What the device reports of itself. -/
structure DeviceReadings where
  isOn : Bool := false
  mode : Int := 0
  brightness : Int := 0
  colorTemp : Int := 0
  rgb : Rgb := ⟨0, 0, 0⟩
  colorBrightness : Int := 0
  powerW : Option Rat := none
  energyKwh : Option Rat := none
  deriving DecidableEq

/-- `TuyaBLEMeshDeviceState`. -/
structure TuyaBLEMeshDeviceState where
  readings : DeviceReadings := {}
  rssi : Option Int := none
  available : Bool := false
  lastSeen : Option Rat := none
  deviceAvailability : DeviceAvailability := .unknown
  degradedReason : Option String := none
  deriving DecidableEq

/-- `StatusResponse`. -/
structure LightStatus where
  mode : Int
  whiteBrightness : Int
  whiteTemp : Int
  colorBrightness : Int
  rgb : Rgb
  deriving DecidableEq

/-- A call of one of the coordinator's handlers. -/
inductive DeviceUpdate
  | level (level : Int)
  | onoff (on : Bool)
  | status (status : LightStatus)
  /-- A vendor frame, with the power and the energy that it brings. -/
  | vendor (powerW energyKwh : Option Rat)
  | composition
  deriving DecidableEq

/-- `_make_notify_state`. -/
def TuyaBLEMeshDeviceState.makeNotifyState (s : TuyaBLEMeshDeviceState) (now : Rat)
    (readings : DeviceReadings) : TuyaBLEMeshDeviceState :=
  { s with
    readings
    available := true
    lastSeen := some now
    deviceAvailability := .available
    degradedReason := none }

/-- `_on_level_update`, `_on_onoff_update`, `_on_status_update`, `_on_vendor_update` and
`_on_composition_update`. -/
def TuyaBLEMeshDeviceState.update (s : TuyaBLEMeshDeviceState) (now : Rat) :
    DeviceUpdate → TuyaBLEMeshDeviceState
  | .level level =>
    let brightness := roundHalfEven ((level + 32768 : Rat) * 255 / 65535)
    s.makeNotifyState now { s.readings with brightness, isOn := 0 < brightness }
  | .onoff on => s.makeNotifyState now { s.readings with isOn := on }
  | .status status => s.makeNotifyState now { s.readings with
      mode := status.mode
      brightness := status.whiteBrightness
      colorTemp := status.whiteTemp
      rgb := status.rgb
      colorBrightness := status.colorBrightness
      isOn := 0 < status.whiteBrightness || 0 < status.colorBrightness }
  | .vendor powerW energyKwh =>
    if powerW.isSome || energyKwh.isSome then
      { s with
        readings := { s.readings with
          powerW := powerW <|> s.readings.powerW
          energyKwh := energyKwh <|> s.readings.energyKwh }
        available := true }
    else s
  | .composition => s

/-- The handler marks the device as available. -/
def DeviceUpdate.marksAvailable : DeviceUpdate → Bool
  | .vendor powerW energyKwh => powerW.isSome || energyKwh.isSome
  | .composition => false
  | _ => true

/-- The handler sets the backoff to its initial value. -/
def DeviceUpdate.resetsBackoff : DeviceUpdate → Bool
  | .level _ => true
  | .onoff _ => true
  | .status _ => true
  | _ => false

/-! ### The connect call of a device -/

/-- Where a call of `connect` waits. -/
inductive ConnectPhase
  /-- For the device to be found and the link to be established. -/
  | trying (attempt : Nat)
  /-- For what comes after that, with the link still up or not. -/
  | linked (attempt : Nat) (up : Bool)
  /-- For `client.disconnect()`, after an attempt that failed. -/
  | releasing (attempt : Nat) (up : Bool)
  /-- Before the next attempt. -/
  | pausing (attempt : Nat)
  deriving DecidableEq

def ConnectPhase.isUp : ConnectPhase → Bool
  | .linked _ up => up
  | .releasing _ up => up
  | _ => false

inductive ConnectEvent
  | linkUp
  /-- The link goes down, and the Bluetooth library calls the disconnect callback. -/
  | linkDown
  /-- An exception that the attempt itself catches. -/
  | failed
  /-- `client.disconnect()` is over. -/
  | released
  | retry
  | returned
  | raised (err : ConnectFailure)
  deriving DecidableEq

inductive ConnectOutcome
  /-- It goes on; a link may be left behind. -/
  | goesOn (phase : ConnectPhase) (left : Bool)
  | succeeds (link : Bool)
  | fails (err : ConnectFailure) (left : Bool)

/-- `except (BleakError, MeshConnectionError, OSError)` around an attempt. -/
def FailureKind.isCaught : FailureKind → Bool
  | .meshConnectionError | .timeoutError | .osError | .bleakError => true
  | _ => false

/-- The exception can come out of the call there. `connect` of a SIG Mesh device catches those of
its attempts, and raises one of them when they are used up. -/
def DeviceKind.lets (kind : DeviceKind) (phase : ConnectPhase) (err : ConnectFailure) : Bool :=
  match kind with
  | .sigMesh =>
    if err.kind.isCaught then phase = .pausing kind.maxRetries && err.kind = .meshConnectionError
    else true
  | _ => true

def DeviceKind.advance (kind : DeviceKind) (phase : ConnectPhase) :
    ConnectEvent → Option ConnectOutcome
  | .linkUp =>
    match phase with
    | .trying attempt => if kind = .bridge then none else some (.goesOn (.linked attempt true) false)
    | _ => none
  | .linkDown =>
    -- the others have no such callback before they are connected
    match kind, phase with
    | .sigMesh, .linked attempt true => some (.goesOn (.linked attempt false) false)
    | .sigMesh, .releasing attempt true => some (.goesOn (.releasing attempt false) false)
    | _, _ => none
  | .failed =>
    match kind, phase with
    | _, .trying attempt => some (.goesOn (.pausing attempt) false)
    | .sigMesh, .linked attempt up => some (.goesOn (.releasing attempt up) false)
    | _, _ => none
  | .released =>
    match phase with
    | .releasing attempt up => some (.goesOn (.pausing attempt) up)
    | _ => none
  | .retry =>
    match phase with
    | .pausing attempt =>
      if attempt < kind.maxRetries then some (.goesOn (.trying (attempt + 1)) false) else none
    | _ => none
  | .returned =>
    match kind, phase with
    | .bridge, .trying _ => some (.succeeds true)
    -- already connected
    | .telink, .trying 1 => some (.succeeds false)
    | _, .linked _ up => some (.succeeds up)
    | _, _ => none
  | .raised err => if kind.lets phase err then some (.fails err phase.isUp) else none

/-- Where the call goes on when `CancelledError` is thrown into it: `_connect_with_retry` catches
it. -/
def DeviceKind.survives (kind : DeviceKind) : ConnectPhase → Option ConnectPhase
  | .trying attempt => if kind = .telink then some (.pausing attempt) else none
  | _ => none

/-! ### The connection manager -/

/-- `ConnectionStatistics`. -/
structure ConnectionStatistics where
  totalReconnects : Nat := 0
  totalErrors : Nat := 0
  connectionErrors : Nat := 0
  lastError : Option String := none
  lastErrorClass : ErrorClass := .unknown

/-- Where a reconnect loop waits. -/
inductive LoopStage
  | debouncing
  | waiting (backoff : Nat)
  | connecting (phase : ConnectPhase)
  deriving DecidableEq

structure ConnectionManager where
  running : Bool := false
  backoff : Nat := INITIAL_BACKOFF
  consecutiveFailures : Nat := 0
  stats : ConnectionStatistics := {}
  latestRssi : Option Int := none
  rssiPolling : Bool := false
  /-- `_reconnect_task`, if it has not ended. -/
  reconnectTask : Option LoopStage := none

namespace ConnectionManager

variable (m : ConnectionManager) (c : EntryConfig)

/-- `start_rssi_polling`. -/
def startRssiPolling : ConnectionManager :=
  if c.kind = .bridge then m else { m with rssiPolling := true }

/-- `async_connect`, behind the connect call. -/
def connected : ConnectionManager :=
  { m with backoff := c.kind.initialBackoff }.startRssiPolling c

/-- `_reconnect_loop`, behind a connect call that has returned. -/
def reconnected : ConnectionManager :=
  { m with
    stats := { m.stats with totalReconnects := m.stats.totalReconnects + 1 }
    backoff := c.kind.initialBackoff
    consecutiveFailures := 0 }

/-- `_reconnect_loop`, behind a connect call that has raised. -/
def recordFailure (err : ConnectFailure) : ConnectionManager :=
  { m with
    stats := { m.stats with
      totalErrors := m.stats.totalErrors + 1
      connectionErrors := m.stats.connectionErrors + 1
      lastError := some err.message
      lastErrorClass := classifyError err }
    consecutiveFailures := m.consecutiveFailures + 1 }

def increaseBackoff : ConnectionManager :=
  { m with backoff := min (m.backoff * BACKOFF_MULTIPLIER) c.kind.maxBackoff }

/-- `handle_disconnect`, before it schedules a reconnect. -/
def disconnected : ConnectionManager :=
  { m with
    rssiPolling := false
    backoff := if c.kind = .bridge then BRIDGE_INITIAL_BACKOFF else m.backoff }

end ConnectionManager

/-! ### An entry -/

inductive SetupPhase
  | created
  /-- In `_load_seq`. -/
  | loading
  | connecting (phase : ConnectPhase)
  | done
  /-- The set-up ended with `ConfigEntryNotReady`. -/
  | notReady
  /-- The set-up ended with `ConfigEntryAuthFailed`. -/
  | authFailed
  deriving DecidableEq

/-- What happens to the connection, for the properties of a run. -/
inductive ConnectionMoment
  /-- A reconnect loop calls `connect`, after the delay. -/
  | attempted (delay : Nat)
  /-- The connect call of a reconnect loop raises, and the failure is counted. -/
  | failed (err : ConnectFailure)
  /-- The connect call of a reconnect loop raises what the loop lets through. -/
  | crashed (err : ConnectFailure)
  /-- The link of an attempt goes down, and its loop is replaced. -/
  | dropped
  /-- A connect call has returned, that of a loop or the first one, and there is a link. -/
  | connected (again link : Bool)
  /-- A disconnect is processed. -/
  | disconnected
  /-- The device is disconnected without its callback. -/
  | closed
  /-- A loop that was cancelled begins another attempt. -/
  | revived
  deriving DecidableEq

structure MeshEntry where
  setup : SetupPhase := .created
  manager : ConnectionManager := {}
  state : TuyaBLEMeshDeviceState := {}
  /-- The coordinator's callbacks are registered. -/
  registered : Bool := false
  /-- The staleness watchdog runs. -/
  watchdog : Bool := false
  /-- Reconnect loops that were cancelled and go on. -/
  survivors : List LoopStage := []
  /-- Established links that no connect call is busy with. -/
  links : Nat := 0
  /-- Tasks that process a notification, with the handler calls they make. -/
  notifyTasks : List (List DeviceUpdate) := []
  /-- The latest moment first. -/
  history : List ConnectionMoment := []

/-- A reconnect loop. -/
inductive LoopRef
  | current
  | survivor (i : Nat)
  deriving DecidableEq

/-- A task that calls `connect`. -/
inductive ConnectTask
  | setup
  | loop (loop : LoopRef)
  deriving DecidableEq

namespace MeshEntry

variable (c : EntryConfig) (s : MeshEntry)

def note (moment : ConnectionMoment) : MeshEntry := { s with history := moment :: s.history }

def withManager (f : ConnectionManager → ConnectionManager) : MeshEntry :=
  { s with manager := f s.manager }

def addLink (left : Bool) : MeshEntry := { s with links := s.links + left.toNat }

def loop? : LoopRef → Option LoopStage
  | .current => s.manager.reconnectTask
  | .survivor i => s.survivors[i]?

/-- The loop goes on at a stage, or ends. -/
def setLoop (loop : LoopRef) (stage : Option LoopStage) : MeshEntry :=
  match loop, stage with
  | .current, stage => s.withManager fun m => { m with reconnectTask := stage }
  | .survivor i, some stage => { s with survivors := s.survivors.set i stage }
  | .survivor i, none => { s with survivors := s.survivors.eraseIdx i }

/-- `_reconnect_task.cancel()`. -/
def cancelReconnect : MeshEntry :=
  match s.manager.reconnectTask with
  | some (.connecting phase) =>
    { s with survivors := s.survivors ++ ((c.kind.survives phase).map LoopStage.connecting).toList
      }.addLink phase.isUp
  | _ => s

/-- `schedule_reconnect`. -/
def scheduleReconnect : MeshEntry :=
  if s.manager.running then
    (s.cancelReconnect c).withManager fun m => { m with reconnectTask := some .debouncing }
  else s

/-- `handle_disconnect`. -/
def handleDisconnect : MeshEntry :=
  (s.withManager (·.disconnected c)).scheduleReconnect c

/-- `_on_disconnect`. -/
def onDisconnect : MeshEntry :=
  { s.note .disconnected with state := { s.state with available := false } }.handleDisconnect c

/-- The disconnect callback of the device. -/
def disconnectCallback : MeshEntry := if s.registered then s.onDisconnect c else s

/-- `(last_error or "")[:100]` behind the class. -/
def reasonText (stats : ConnectionStatistics) : String :=
  stats.lastErrorClass.value ++ ": " ++
    String.ofList ((stats.lastError.getD "").toList.take 100)

/-- `_handle_conn_state_update`. -/
def handleConnStateUpdate : MeshEntry :=
  let stats := s.manager.stats
  let state :=
    if stats.lastErrorClass = .permanent then
      { s.state with
        available := false
        deviceAvailability := .reprovisionRequired
        degradedReason := some ("Permanent error: " ++ stats.lastErrorClass.value) }
    else if !s.state.available && 0 < s.manager.consecutiveFailures then
      { s.state with
        available := false
        deviceAvailability :=
          if stats.lastErrorClass = .meshAuth then .reprovisionRequired else .unreachable
        degradedReason := some (reasonText stats) }
    else s.state
  { s with state := { state with rssi := s.manager.latestRssi <|> state.rssi } }

/-- `_handle_reconnected`. -/
def handleReconnected : MeshEntry :=
  { s with state := { s.state with available := true } }.withManager (·.startRssiPolling c)

/-! ### The reconnect loop -/

/-- The head of `while self._running`. -/
def loopHead (loop : LoopRef) : MeshEntry :=
  if s.manager.running then
    if 0 < c.maxReconnectFailures ∧ c.maxReconnectFailures ≤ s.manager.consecutiveFailures then
      s.handleConnStateUpdate.setLoop loop none
    else s.setLoop loop (some (.waiting s.manager.backoff))
  else s.setLoop loop none

/-- The backoff has passed. -/
def loopWaited (loop : LoopRef) (backoff : Nat) : MeshEntry :=
  if s.manager.running then
    (s.note (.attempted backoff)).setLoop loop (some (.connecting (.trying 1)))
  else s.setLoop loop none

/-- The connect call has returned. -/
def loopConnected (loop : LoopRef) (link : Bool) : MeshEntry :=
  let s := (s.withManager (·.reconnected c)).note (.connected true (link || 0 < s.links))
  ((s.handleReconnected c).addLink link).setLoop loop none

/-- The connect call has raised. -/
def loopFailed (loop : LoopRef) (err : ConnectFailure) (left : Bool) : MeshEntry :=
  let s := s.addLink left
  if err.kind = .programmingError then (s.note (.crashed err)).setLoop loop none
  else
    let s := (s.note (.failed err)).withManager (·.recordFailure err)
    if classifyError err = .permanent then s.handleConnStateUpdate.setLoop loop none
    else (s.withManager (·.increaseBackoff c)).handleConnStateUpdate.loopHead c loop

/-! ### The set-up -/

/-- `async_initial_connect`, behind the connect call. -/
def setupConnected (now : Rat) (link : Bool) : MeshEntry :=
  let s := (s.withManager (·.connected c)).note (.connected false (link || 0 < s.links))
  { s.addLink link with
    state := { s.state with available := true, lastSeen := some now }
    watchdog := true
    setup := .done }

/-- `async_setup_entry`, behind an exception. -/
def setupFailed (err : ConnectFailure) (left : Bool) : MeshEntry :=
  { s.addLink left with
    setup := if classifyError err = .meshAuth then .authFailed else .notReady }

/-! ### Connect calls -/

def phase? : ConnectTask → Option ConnectPhase
  | .setup =>
    match s.setup with
    | .connecting phase => some phase
    | _ => none
  | .loop loop =>
    match s.loop? loop with
    | some (.connecting phase) => some phase
    | _ => none

def setPhase (phase : ConnectPhase) : ConnectTask → MeshEntry
  | .setup => { s with setup := .connecting phase }
  | .loop loop => s.setLoop loop (some (.connecting phase))

/-- What the disconnect callback does during a connect call. -/
def dropLink (task : ConnectTask) : MeshEntry :=
  -- the loop is cancelled before the exception of its attempt reaches it
  if s.registered && s.manager.running && task = .loop .current then
    (s.note .dropped).disconnectCallback c
  else s.disconnectCallback c

/-- A cancelled loop begins another attempt. -/
def noteRetry (task : ConnectTask) : MeshEntry :=
  match task with
  | .loop (.survivor _) => s.note .revived
  | _ => s

def connectStep (now : Rat) (task : ConnectTask) (event : ConnectEvent) : Option MeshEntry := do
  let phase ← s.phase? task
  match ← c.kind.advance phase event, task with
  | .goesOn phase left, task =>
    let s := (s.setPhase phase task).addLink left
    match event with
    | .linkDown => return s.dropLink c task
    | .retry => return s.noteRetry task
    | _ => return s
  | .succeeds link, .setup => return s.setupConnected c now link
  | .succeeds link, .loop loop => return s.loopConnected c loop link
  | .fails err left, .setup => return s.setupFailed err left
  | .fails err left, .loop loop => return s.loopFailed c loop err left

/-! ### The rest -/

/-- A handler is called. -/
def applyUpdate (now : Rat) (update : DeviceUpdate) : MeshEntry :=
  let s := { s with state := s.state.update now update }
  if update.resetsBackoff then s.withManager fun m => { m with backoff := INITIAL_BACKOFF } else s

/-- `_process_notify`, as far as it calls the handlers. -/
def processNotify (now : Rat) (updates : List DeviceUpdate) : MeshEntry :=
  if s.registered then updates.foldl (fun s update => s.applyUpdate now update) s else s

/-- `_rssi_loop` has a value. -/
def rssiPolled (rssi : Int) : MeshEntry :=
  (s.withManager fun m => { m with latestRssi := some rssi }).handleConnStateUpdate

/-- The watchdog marks the device as stale. -/
def markStale : MeshEntry :=
  { s with state := { s.state with
    available := false
    deviceAvailability := .stale
    degradedReason := some "No updates received in 5 minutes" } }

/-- `async_cancel_tasks`. -/
def cancelTasks : MeshEntry :=
  { (s.cancelReconnect c).withManager fun m =>
      { m with rssiPolling := false, reconnectTask := none } with
    watchdog := false }

/-- The end of `async_stop`. -/
def stopped : MeshEntry :=
  { s.note .closed with
    registered := false
    notifyTasks := []
    links := s.links - 1
    state := { s.state with available := false } }

/-- A link is up over which a notification can come. -/
def hasLink : Bool :=
  0 < s.links || (s.phase? .setup).any ConnectPhase.isUp ||
    (s.phase? (.loop .current)).any ConnectPhase.isUp

end MeshEntry

inductive EntryEvent
  /-- `async_initial_connect` is called. -/
  | initialConnect
  /-- The sequence number is loaded, or cannot be. -/
  | loaded (failure : Option ConnectFailure)
  | connect (task : ConnectTask) (event : ConnectEvent)
  /-- The debounce delay of a loop has passed. -/
  | debounced (loop : LoopRef)
  /-- The backoff of a loop has passed. -/
  | waited (loop : LoopRef)
  /-- `_on_ble_device_found`. -/
  | advertised
  /-- The reconnect service or button, behind `device.disconnect()`. -/
  | reconnect
  /-- `device.disconnect()` of a device that does not call its callbacks. -/
  | closed
  /-- The link of a connected device, or one that was left behind, goes down. -/
  | linkLost
  | notified (updates : List DeviceUpdate)
  | processed (task : Nat)
  | rssiPolled (rssi : Int)
  | wentStale
  /-- `assume_state`, with what was sent. -/
  | assumed (readings : DeviceReadings)
  /-- `async_stop` is called. -/
  | stopping
  | tasksCancelled
  | stopped
  deriving DecidableEq

namespace MeshEntry

/-- An event at a time. -/
def step (c : EntryConfig) (s : MeshEntry) (timed : Rat × EntryEvent) : Option MeshEntry :=
  let (now, event) := timed
  match event with
  | .initialConnect =>
    if s.setup = .created then
      some { s.withManager (fun m => { m with running := true }) with setup := .loading }
    else none
  | .loaded failure =>
    if s.setup = .loading then
      match failure with
      | none => some { s with registered := true, setup := .connecting (.trying 1) }
      | some err => some (s.setupFailed err false)
    else none
  | .connect task event => s.connectStep c now task event
  | .debounced loop =>
    match s.loop? loop with
    | some .debouncing => some (s.loopHead c loop)
    | _ => none
  | .waited loop =>
    match s.loop? loop with
    | some (.waiting backoff) =>
      let s := s.loopWaited loop backoff
      some (if s.manager.running then s.noteRetry (.loop loop) else s)
    | _ => none
  | .advertised => if s.state.available then none else some (s.scheduleReconnect c)
  | .reconnect => some ({ s with notifyTasks := [] }.scheduleReconnect c)
  | .closed =>
    if 0 < s.links ∧ c.kind ≠ .sigMesh then some { s.note .closed with links := s.links - 1 }
    else none
  | .linkLost =>
    if 0 < s.links then some ({ s with links := s.links - 1 }.disconnectCallback c) else none
  | .notified updates =>
    if s.hasLink then some { s with notifyTasks := s.notifyTasks ++ [updates] } else none
  | .processed task =>
    match s.notifyTasks[task]? with
    | some updates =>
      some ({ s with notifyTasks := s.notifyTasks.eraseIdx task }.processNotify now updates)
    | none => none
  | .rssiPolled rssi =>
    if s.manager.rssiPolling ∧ s.manager.running then some (s.rssiPolled rssi) else none
  | .wentStale => if s.watchdog ∧ s.state.available then some s.markStale else none
  | .assumed readings =>
    some { s with state := { s.state with readings, deviceAvailability := .assumedOnline } }
  | .stopping => some (s.withManager fun m => { m with running := false })
  | .tasksCancelled => if s.manager.running then none else some (s.cancelTasks c)
  | .stopped => if s.manager.running then none else some s.stopped

end MeshEntry

def entrySystem (c : EntryConfig) : EventSystem MeshEntry (Rat × EntryEvent) where
  step := MeshEntry.step c

end TuyaBleMesh
