import TuyaBleMesh.Connection.Manager

/-!
# The ledger of a connection

What an entry says and knows of its connection, apart from its tasks: whether the device
counts as available, the statistics that decide that, the backoff, and what has happened
so far. Every event makes a few postings; the tasks of the entry only decide which.
-/

namespace TuyaBleMesh

structure Ledger where
  available : Bool
  deviceAvailability : DeviceAvailability
  backoff : Nat
  consecutiveFailures : Nat
  connectionErrors : Nat
  lastErrorClass : ErrorClass
  history : List ConnectionMoment
  deriving DecidableEq

inductive Posting
  | disconnected
  | dropped
  | closed
  | revived
  | attempted (delay : Nat)
  | failed (err : ConnectFailure)
  | crashed (err : ConnectFailure)
  | connected (again link : Bool)
  /-- `_handle_conn_state_update`. -/
  | stateUpdate
  | updated (update : DeviceUpdate)
  | unavailable (deviceAvailability : DeviceAvailability)
  | assumed
  deriving DecidableEq

namespace Ledger

variable (c : EntryConfig) (l : Ledger)

def note (moment : ConnectionMoment) : Ledger := { l with history := moment :: l.history }

/-- `_handle_conn_state_update`, as far as the ledger goes. -/
def stateUpdate : Ledger :=
  if l.lastErrorClass = .permanent then
    { l with available := false, deviceAvailability := .reprovisionRequired }
  else if !l.available && 0 < l.consecutiveFailures then
    { l with
      deviceAvailability :=
        if l.lastErrorClass = .meshAuth then .reprovisionRequired else .unreachable }
  else l

/-- A failure of the connect call of a loop. A permanent one leaves the backoff as it is. -/
def fail (err : ConnectFailure) : Ledger :=
  { l with
    backoff :=
      if classifyError err = .permanent then l.backoff
      else min (l.backoff * BACKOFF_MULTIPLIER) c.kind.maxBackoff
    consecutiveFailures := l.consecutiveFailures + 1
    connectionErrors := l.connectionErrors + 1
    lastErrorClass := classifyError err }

def update (update : DeviceUpdate) : Ledger :=
  { l with
    available := l.available || update.marksAvailable
    deviceAvailability := if update.resetsBackoff then .available else l.deviceAvailability
    backoff := if update.resetsBackoff then INITIAL_BACKOFF else l.backoff }

def post : Posting → Ledger
  | .disconnected =>
    { l.note .disconnected with
      available := false
      backoff := if c.kind = .bridge then BRIDGE_INITIAL_BACKOFF else l.backoff }
  | .dropped => l.note .dropped
  | .closed => l.note .closed
  | .revived => l.note .revived
  | .attempted delay => l.note (.attempted delay)
  | .failed err => (l.note (.failed err)).fail c err
  | .crashed err => l.note (.crashed err)
  | .connected again link =>
    { l.note (.connected again link) with
      available := true
      backoff := c.kind.initialBackoff
      consecutiveFailures := if again then 0 else l.consecutiveFailures }
  | .stateUpdate => l.stateUpdate
  | .updated update => l.update update
  | .unavailable deviceAvailability => { l with available := false, deviceAvailability }
  | .assumed => { l with deviceAvailability := .assumedOnline }

section StateUpdate

variable {l : Ledger}

theorem stateUpdate_permanent (permanent : l.lastErrorClass = .permanent) :
    l.stateUpdate = { l with available := false, deviceAvailability := .reprovisionRequired } :=
  if_pos permanent

/-- An available device is left as it is. -/
theorem stateUpdate_available (passing : l.lastErrorClass ≠ .permanent)
    (available : l.available = true) : l.stateUpdate = l := by
  rw [stateUpdate, if_neg passing, available, Bool.not_true, Bool.false_and,
    if_neg Bool.false_ne_true]

theorem stateUpdate_uncounted (passing : l.lastErrorClass ≠ .permanent)
    (none : l.consecutiveFailures = 0) : l.stateUpdate = l := by
  rw [stateUpdate, if_neg passing, none]
  exact if_neg (by rw [decide_eq_false (Nat.lt_irrefl 0), Bool.and_false]; exact Bool.false_ne_true)

theorem stateUpdate_counted (passing : l.lastErrorClass ≠ .permanent)
    (down : l.available = false) (counted : 0 < l.consecutiveFailures) :
    l.stateUpdate = { l with
      deviceAvailability :=
        if l.lastErrorClass = .meshAuth then .reprovisionRequired else .unreachable } := by
  rw [stateUpdate, if_neg passing, down, decide_eq_true counted]
  rfl

end StateUpdate

def postAll (postings : List Posting) : Ledger := postings.foldl (post c) l

@[simp] theorem postAll_nil : l.postAll c [] = l := rfl

@[simp] theorem postAll_cons (posting : Posting) (postings : List Posting) :
    l.postAll c (posting :: postings) = (l.post c posting).postAll c postings := rfl

theorem postAll_append (postings postings' : List Posting) :
    l.postAll c (postings ++ postings') = (l.postAll c postings).postAll c postings' :=
  List.foldl_append

end Ledger

namespace MeshEntry

variable (c : EntryConfig) (s : MeshEntry)

def ledger : Ledger where
  available := s.state.available
  deviceAvailability := s.state.deviceAvailability
  backoff := s.manager.backoff
  consecutiveFailures := s.manager.consecutiveFailures
  connectionErrors := s.manager.stats.connectionErrors
  lastErrorClass := s.manager.stats.lastErrorClass
  history := s.history

/-! ### What is posted -/

def disconnectPostings : List Posting := if s.registered then [.disconnected] else []

def dropPostings (task : ConnectTask) : List Posting :=
  if s.registered && s.manager.running && task = .loop .current then
    .dropped :: s.disconnectPostings
  else s.disconnectPostings

def headPostings : List Posting :=
  if s.manager.running ∧ 0 < c.maxReconnectFailures ∧
      c.maxReconnectFailures ≤ s.manager.consecutiveFailures then [.stateUpdate]
  else []

def failPostings (err : ConnectFailure) : List Posting :=
  if err.kind = .programmingError then [.crashed err]
  else if classifyError err = .permanent then [.failed err, .stateUpdate]
  else [.failed err, .stateUpdate] ++
    if s.manager.running ∧ 0 < c.maxReconnectFailures ∧
        c.maxReconnectFailures ≤ s.manager.consecutiveFailures + 1 then [.stateUpdate]
    else []

def retryPostings : ConnectTask → List Posting
  | .loop (.survivor _) => [.revived]
  | _ => []

def connectPostings (task : ConnectTask) (event : ConnectEvent) : List Posting :=
  match (s.phase? task).bind fun phase => c.kind.advance phase event, task with
  | some (.goesOn _ _), task =>
    match event with
    | .linkDown => s.dropPostings task
    | .retry => retryPostings task
    | _ => []
  | some (.succeeds link), .setup => [.connected false (link || 0 < s.links)]
  | some (.succeeds link), .loop _ => [.connected true (link || 0 < s.links)]
  | some (.fails err _), .loop _ => s.failPostings c err
  | _, _ => []

/-- What an event posts. -/
def postings : EntryEvent → List Posting
  | .connect task event => s.connectPostings c task event
  | .debounced _ => s.headPostings c
  | .waited loop =>
    match s.loop? loop with
    | some (.waiting backoff) =>
      if s.manager.running then .attempted backoff :: retryPostings (.loop loop) else []
    | _ => []
  | .closed => [.closed]
  | .linkLost => s.disconnectPostings
  | .processed task =>
    if s.registered then ((s.notifyTasks[task]?).getD []).map .updated else []
  | .rssiPolled _ => [.stateUpdate]
  | .wentStale => [.unavailable .stale]
  | .assumed _ => [.assumed]
  | .stopped => [.closed, .unavailable s.state.deviceAvailability]
  | .initialConnect | .loaded _ | .advertised | .reconnect | .notified _ | .stopping
  | .tasksCancelled => []

/-! ### The ledger of each operation -/

section Operations

variable {c : EntryConfig} {s : MeshEntry} {loop : LoopRef}

@[simp] theorem ledger_note (moment : ConnectionMoment) :
    (s.note moment).ledger = s.ledger.note moment := rfl

@[simp] theorem ledger_addLink (left : Bool) : (s.addLink left).ledger = s.ledger := rfl

/-- Only the loops are changed. -/
theorem setLoop_eq (s : MeshEntry) (loop : LoopRef) (stage : Option LoopStage) :
    ∃ reconnectTask survivors, s.setLoop loop stage =
      { s with manager := { s.manager with reconnectTask }, survivors } := by
  cases loop with
  | current => exact ⟨stage, s.survivors, rfl⟩
  | survivor i =>
    cases stage with
    | none => exact ⟨s.manager.reconnectTask, s.survivors.eraseIdx i, rfl⟩
    | some stage => exact ⟨s.manager.reconnectTask, s.survivors.set i stage, rfl⟩

@[simp] theorem ledger_setLoop (stage : Option LoopStage) :
    (s.setLoop loop stage).ledger = s.ledger := by
  obtain ⟨_, _, same⟩ := s.setLoop_eq loop stage
  rw [same]
  rfl

@[simp] theorem ledger_cancelReconnect : (s.cancelReconnect c).ledger = s.ledger := by
  unfold cancelReconnect
  split
  · rfl
  · rfl

@[simp] theorem ledger_scheduleReconnect : (s.scheduleReconnect c).ledger = s.ledger := by
  unfold scheduleReconnect
  split
  · exact ledger_cancelReconnect
  · rfl

@[simp] theorem ledger_disconnectCallback :
    (s.disconnectCallback c).ledger = s.ledger.postAll c s.disconnectPostings := by
  unfold disconnectCallback disconnectPostings
  split
  · unfold onDisconnect handleDisconnect
    rw [ledger_scheduleReconnect]
    rfl
  · rfl

@[simp] theorem ledger_dropLink (task : ConnectTask) :
    (s.dropLink c task).ledger = s.ledger.postAll c (s.dropPostings task) := by
  unfold dropLink dropPostings
  -- a loop that loses the link of its attempt posts that it was dropped
  split
  · exact ledger_disconnectCallback
  · exact ledger_disconnectCallback

@[simp] theorem ledger_handleConnStateUpdate :
    s.handleConnStateUpdate.ledger = s.ledger.stateUpdate := by
  unfold handleConnStateUpdate
  -- `_handle_conn_state_update` looks at the error class, the availability and the count
  by_cases permanent : s.manager.stats.lastErrorClass = .permanent
  · rw [Ledger.stateUpdate_permanent permanent]
    dsimp only [ledger]
    rw [if_pos permanent]
  · cases available : s.state.available with
    | true =>
      rw [Ledger.stateUpdate_available permanent available]
      dsimp only [ledger]
      rw [if_neg permanent, Bool.not_true, Bool.false_and, if_neg Bool.false_ne_true, available]
    | false =>
      by_cases counted : 0 < s.manager.consecutiveFailures
      · rw [Ledger.stateUpdate_counted permanent available counted]
        dsimp only [ledger]
        rw [if_neg permanent, Bool.not_false, Bool.true_and, if_pos (decide_eq_true counted),
          available]
        rfl
      · rw [Ledger.stateUpdate_uncounted permanent (Nat.eq_zero_of_not_pos counted)]
        dsimp only [ledger]
        rw [if_neg permanent, Bool.not_false, Bool.true_and,
          if_neg (fun all => counted (of_decide_eq_true all)), available]

@[simp] theorem ledger_noteRetry (task : ConnectTask) :
    (s.noteRetry task).ledger = s.ledger.postAll c (retryPostings task) := by
  cases task with
  | setup => rfl
  | loop loop =>
    cases loop with
    | current => rfl
    | survivor i => rfl

@[simp] theorem ledger_loopHead :
    (s.loopHead c loop).ledger = s.ledger.postAll c (s.headPostings c) := by
  unfold loopHead headPostings
  split
  · next running =>
    split
    -- the failures have reached the limit, and the loop gives up
    · next limit =>
      rw [if_pos ⟨running, limit⟩, ledger_setLoop, ledger_handleConnStateUpdate]
      rfl
    · next limit =>
      rw [if_neg (fun all => limit all.2), ledger_setLoop]
      rfl
  · next idle =>
    rw [if_neg (fun all => idle all.1), ledger_setLoop]
    rfl

@[simp] theorem ledger_loopWaited (backoff : Nat) :
    (s.loopWaited loop backoff).ledger =
      s.ledger.postAll c (if s.manager.running then [.attempted backoff] else []) := by
  unfold loopWaited
  split
  · rw [ledger_setLoop]
    rfl
  · rw [ledger_setLoop]
    rfl

@[simp] theorem ledger_startRssiPolling :
    (s.withManager (·.startRssiPolling c)).ledger = s.ledger := by
  unfold withManager ConnectionManager.startRssiPolling
  split
  · rfl
  · rfl

@[simp] theorem ledger_loopConnected (link : Bool) :
    (s.loopConnected c loop link).ledger =
      s.ledger.postAll c [.connected true (link || 0 < s.links)] := by
  unfold loopConnected handleReconnected
  rw [ledger_setLoop, ledger_addLink, ledger_startRssiPolling]
  rfl

@[simp] theorem ledger_loopFailed (err : ConnectFailure) (left : Bool) :
    (s.loopFailed c loop err left).ledger = s.ledger.postAll c (s.failPostings c err) := by
  unfold loopFailed failPostings
  -- a programming error ends the loop, a permanent one is shown, another is retried
  dsimp only
  split
  · rw [ledger_setLoop]
    rfl
  · split
    · next permanent =>
      rw [ledger_setLoop, ledger_handleConnStateUpdate]
      simp only [Ledger.postAll_cons, Ledger.postAll_nil, Ledger.post, Ledger.fail, if_pos permanent]
      rfl
    · next passing =>
      rw [ledger_loopHead, ledger_handleConnStateUpdate, Ledger.postAll_append]
      simp only [Ledger.postAll_cons, Ledger.postAll_nil, Ledger.post, Ledger.fail, if_neg passing]
      rfl

@[simp] theorem ledger_setupConnected (now : Rat) (link : Bool) :
    (s.setupConnected c now link).ledger =
      s.ledger.postAll c [.connected false (link || 0 < s.links)] := by
  let s' := s.withManager fun m => { m with backoff := c.kind.initialBackoff }
  have polling : (s.withManager (·.connected c)).ledger = s'.ledger :=
    ledger_startRssiPolling (s := s')
  change { (s.withManager (·.connected c)).ledger.note (.connected false (link || 0 < s.links)) with
    available := true } = _
  rw [polling]
  rfl

@[simp] theorem ledger_setupFailed (err : ConnectFailure) (left : Bool) :
    (s.setupFailed err left).ledger = s.ledger := rfl

@[simp] theorem ledger_setPhase (phase : ConnectPhase) (task : ConnectTask) :
    (s.setPhase phase task).ledger = s.ledger := by
  cases task with
  | setup => rfl
  | loop loop => exact ledger_setLoop _

@[simp] theorem ledger_applyUpdate (now : Rat) (update : DeviceUpdate) :
    (s.applyUpdate now update).ledger = s.ledger.update update := by
  unfold applyUpdate
  cases update with
  | level level => simp [ledger, Ledger.update, DeviceUpdate.resetsBackoff,
      DeviceUpdate.marksAvailable, TuyaBLEMeshDeviceState.update,
      TuyaBLEMeshDeviceState.makeNotifyState, withManager]
  | onoff on => simp [ledger, Ledger.update, DeviceUpdate.resetsBackoff,
      DeviceUpdate.marksAvailable, TuyaBLEMeshDeviceState.update,
      TuyaBLEMeshDeviceState.makeNotifyState, withManager]
  | status status => simp [ledger, Ledger.update, DeviceUpdate.resetsBackoff,
      DeviceUpdate.marksAvailable, TuyaBLEMeshDeviceState.update,
      TuyaBLEMeshDeviceState.makeNotifyState, withManager]
  -- a vendor update without a reading leaves everything as it is
  | vendor powerW energyKwh =>
    simp only [ledger, Ledger.update, DeviceUpdate.resetsBackoff, DeviceUpdate.marksAvailable,
      TuyaBLEMeshDeviceState.update, Bool.false_eq_true, if_false]
    split
    · next brings => simp [brings]
    · next nothing => simp [nothing]
  | composition => simp [ledger, Ledger.update, DeviceUpdate.resetsBackoff,
      DeviceUpdate.marksAvailable, TuyaBLEMeshDeviceState.update]

theorem ledger_applyUpdates (now : Rat) (updates : List DeviceUpdate) :
    (updates.foldl (fun s update => s.applyUpdate now update) s).ledger =
      s.ledger.postAll c (updates.map .updated) := by
  -- each update finds the ledger that those before it have left
  induction updates generalizing s with
  | nil => rfl
  | cons update updates ih =>
    rw [List.foldl_cons, ih, ledger_applyUpdate]
    rfl

@[simp] theorem ledger_processNotify (now : Rat) (updates : List DeviceUpdate) :
    (s.processNotify now updates).ledger =
      s.ledger.postAll c (if s.registered then updates.map .updated else []) := by
  unfold processNotify
  split
  · exact ledger_applyUpdates now updates
  · rfl

end Operations

/-! ### The ledger of a step -/

section Steps

variable {c : EntryConfig} {s s' : MeshEntry} {now : Rat}

theorem running_setLoop {loop : LoopRef} (stage : Option LoopStage) :
    (s.setLoop loop stage).manager.running = s.manager.running := by
  obtain ⟨_, _, same⟩ := s.setLoop_eq loop stage
  rw [same]

theorem registered_setLoop {loop : LoopRef} (stage : Option LoopStage) :
    (s.setLoop loop stage).registered = s.registered := by
  obtain ⟨_, _, same⟩ := s.setLoop_eq loop stage
  rw [same]

theorem running_loopWaited {loop : LoopRef} (backoff : Nat) :
    (s.loopWaited loop backoff).manager.running = s.manager.running := by
  unfold loopWaited
  split
  · rw [running_setLoop]
    rfl
  · exact running_setLoop none

theorem dropPostings_setPhase {phase : ConnectPhase} {task : ConnectTask} {left : Bool} :
    ((s.setPhase phase task).addLink left).dropPostings task = s.dropPostings task := by
  have registered : ((s.setPhase phase task).addLink left).registered = s.registered := by
    cases task with
    | setup => rfl
    | loop loop => exact registered_setLoop _
  have running : ((s.setPhase phase task).addLink left).manager.running = s.manager.running := by
    cases task with
    | setup => rfl
    | loop loop => exact running_setLoop _
  unfold dropPostings disconnectPostings
  rw [registered, running]

/-- What each event does where it can happen. -/
inductive Steps (c : EntryConfig) (s : MeshEntry) (now : Rat) : EntryEvent → MeshEntry → Prop
  | initialConnect (created : s.setup = .created) : Steps c s now .initialConnect
      { s.withManager (fun m => { m with running := true }) with setup := .loading }
  | loaded (loading : s.setup = .loading) : Steps c s now (.loaded none)
      { s with registered := true, setup := .connecting (.trying 1) }
  | loadFailed (loading : s.setup = .loading) (err : ConnectFailure) :
      Steps c s now (.loaded (some err)) (s.setupFailed err false)
  | connect (task : ConnectTask) (event : ConnectEvent) {s' : MeshEntry}
      (stepped : s.connectStep c now task event = some s') : Steps c s now (.connect task event) s'
  | debounced (loop : LoopRef) (here : s.loop? loop = some .debouncing) :
      Steps c s now (.debounced loop) (s.loopHead c loop)
  | waited (loop : LoopRef) (backoff : Nat) (here : s.loop? loop = some (.waiting backoff)) :
      Steps c s now (.waited loop)
        (if (s.loopWaited loop backoff).manager.running then
          (s.loopWaited loop backoff).noteRetry (.loop loop)
        else s.loopWaited loop backoff)
  | advertised (unavailable : s.state.available = false) :
      Steps c s now .advertised (s.scheduleReconnect c)
  | reconnect : Steps c s now .reconnect ({ s with notifyTasks := [] }.scheduleReconnect c)
  | closed (linked : 0 < s.links) (kind : c.kind ≠ .sigMesh) :
      Steps c s now .closed { s.note .closed with links := s.links - 1 }
  | linkLost (linked : 0 < s.links) :
      Steps c s now .linkLost ({ s with links := s.links - 1 }.disconnectCallback c)
  | notified (updates : List DeviceUpdate) (linked : s.hasLink = true) :
      Steps c s now (.notified updates) { s with notifyTasks := s.notifyTasks ++ [updates] }
  | processed (task : Nat) (updates : List DeviceUpdate)
      (here : s.notifyTasks[task]? = some updates) : Steps c s now (.processed task)
      ({ s with notifyTasks := s.notifyTasks.eraseIdx task }.processNotify now updates)
  | rssiPolled (rssi : Int) (polling : s.manager.rssiPolling = true)
      (running : s.manager.running = true) : Steps c s now (.rssiPolled rssi) (s.rssiPolled rssi)
  | wentStale (watched : s.watchdog = true) (available : s.state.available = true) :
      Steps c s now .wentStale s.markStale
  | assumed (readings : DeviceReadings) : Steps c s now (.assumed readings)
      { s with state := { s.state with readings, deviceAvailability := .assumedOnline } }
  | stopping : Steps c s now .stopping (s.withManager fun m => { m with running := false })
  | tasksCancelled (halted : s.manager.running = false) :
      Steps c s now .tasksCancelled (s.cancelTasks c)
  | stopped (halted : s.manager.running = false) : Steps c s now .stopped s.stopped

theorem step_cases {event : EntryEvent} (stepped : s.step c (now, event) = some s') :
    Steps c s now event s' := by
  cases event with
  | initialConnect =>
    obtain ⟨created, ⟨⟩⟩ := Option.ite_none_right_eq_some.mp stepped
    exact .initialConnect created
  | loaded failure =>
    obtain ⟨loading, stepped⟩ := Option.ite_none_right_eq_some.mp stepped
    cases failure with
    | none =>
      cases stepped
      exact .loaded loading
    | some err =>
      cases stepped
      exact .loadFailed loading err
  | connect task event => exact .connect task event stepped
  | debounced loop =>
    dsimp only [MeshEntry.step] at stepped
    split at stepped
    · next here =>
      cases stepped
      exact .debounced loop here
    · cases stepped
  | waited loop =>
    dsimp only [MeshEntry.step] at stepped
    split at stepped
    · next backoff here =>
      cases stepped
      exact .waited loop backoff here
    · cases stepped
  | advertised =>
    obtain ⟨unavailable, ⟨⟩⟩ := Option.ite_none_left_eq_some.mp stepped
    exact .advertised (Bool.not_eq_true _ ▸ unavailable)
  | reconnect =>
    cases stepped
    exact .reconnect
  | closed =>
    obtain ⟨⟨linked, kind⟩, ⟨⟩⟩ := Option.ite_none_right_eq_some.mp stepped
    exact .closed linked kind
  | linkLost =>
    obtain ⟨linked, ⟨⟩⟩ := Option.ite_none_right_eq_some.mp stepped
    exact .linkLost linked
  | notified updates =>
    obtain ⟨linked, ⟨⟩⟩ := Option.ite_none_right_eq_some.mp stepped
    exact .notified updates linked
  | processed task =>
    dsimp only [MeshEntry.step] at stepped
    split at stepped
    · next updates here =>
      cases stepped
      exact .processed task updates here
    · cases stepped
  | rssiPolled rssi =>
    obtain ⟨⟨polling, running⟩, ⟨⟩⟩ := Option.ite_none_right_eq_some.mp stepped
    exact .rssiPolled rssi polling running
  | wentStale =>
    obtain ⟨⟨watched, available⟩, ⟨⟩⟩ := Option.ite_none_right_eq_some.mp stepped
    exact .wentStale watched available
  | assumed readings =>
    cases stepped
    exact .assumed readings
  | stopping =>
    cases stepped
    exact .stopping
  | tasksCancelled =>
    obtain ⟨halted, ⟨⟩⟩ := Option.ite_none_left_eq_some.mp stepped
    exact .tasksCancelled (Bool.not_eq_true _ ▸ halted)
  | stopped =>
    obtain ⟨halted, ⟨⟩⟩ := Option.ite_none_left_eq_some.mp stepped
    exact .stopped (Bool.not_eq_true _ ▸ halted)

theorem ledger_connectStep {task : ConnectTask} {event : ConnectEvent}
    (stepped : s.connectStep c now task event = some s') :
    s'.ledger = s.ledger.postAll c (s.connectPostings c task event) := by
  obtain ⟨phase, here, stepped⟩ := Option.bind_eq_some_iff.mp stepped
  obtain ⟨outcome, advanced, stepped⟩ := Option.bind_eq_some_iff.mp stepped
  unfold connectPostings
  rw [here, Option.bind_some, advanced]
  -- an attempt goes on, succeeds or fails, and the setup posts less than a loop
  cases outcome with
  | goesOn phase left =>
    cases event with
    | linkDown =>
      cases stepped
      rw [ledger_dropLink, ledger_addLink, ledger_setPhase, dropPostings_setPhase]
    | retry =>
      cases stepped
      rw [ledger_noteRetry, ledger_addLink, ledger_setPhase]
    | _ =>
      cases stepped
      exact ledger_setPhase phase task
  | succeeds link =>
    cases task with
    | setup =>
      cases stepped
      exact ledger_setupConnected now link
    | loop loop =>
      cases stepped
      exact ledger_loopConnected link
  | fails err left =>
    cases task with
    | setup =>
      cases stepped
      rfl
    | loop loop =>
      cases stepped
      exact ledger_loopFailed err left

/-- Every step posts what its event says. -/
theorem ledger_step {event : EntryEvent} (stepped : s.step c (now, event) = some s') :
    s'.ledger = s.ledger.postAll c (s.postings c event) := by
  cases step_cases stepped with
  | initialConnect created => rfl
  | loaded loading => rfl
  | loadFailed loading err => rfl
  | connect task event stepped => exact ledger_connectStep stepped
  | debounced loop here => exact ledger_loopHead
  | waited loop backoff here =>
    -- a loop that wakes up after `stop` posts nothing
    have posted : s.postings c (.waited loop) =
        if s.manager.running then .attempted backoff :: retryPostings (.loop loop) else [] := by
      simp only [postings, here]
    rw [posted, running_loopWaited]
    by_cases running : s.manager.running = true
    · rw [if_pos running, if_pos running, ledger_noteRetry (c := c), ledger_loopWaited (c := c),
        if_pos running]
      rfl
    · rw [if_neg running, if_neg running, ledger_loopWaited (c := c), if_neg running]
  | advertised unavailable => exact ledger_scheduleReconnect
  | reconnect => exact ledger_scheduleReconnect
  | closed linked kind => rfl
  | linkLost linked => exact ledger_disconnectCallback
  | notified updates linked => rfl
  | processed task updates here =>
    dsimp only [postings]
    rw [here]
    exact ledger_processNotify now updates
  | rssiPolled rssi polling running => exact ledger_handleConnStateUpdate
  | wentStale watched available => rfl
  | assumed readings => rfl
  | stopping => rfl
  | tasksCancelled halted => exact ledger_cancelReconnect
  | stopped halted => rfl

end Steps

end MeshEntry

end TuyaBleMesh
