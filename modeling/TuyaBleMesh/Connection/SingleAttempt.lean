import TuyaBleMesh.Connection.Steadiness

/-!
# One connect call at a time

Whether the set-up and the reconnect loops of an entry call `connect` one after the
other. A new loop replaces the old one by cancelling it, which a Telink device takes for
a failed attempt; the set-up is not replaced, and does not stop a loop when it fails.
-/

namespace TuyaBleMesh

def LoopStage.isConnecting : LoopStage → Bool
  | .connecting _ => true
  | _ => false

namespace MeshEntry

variable {c : EntryConfig} {s s' : MeshEntry} {now : Rat} {event : EntryEvent}

/-- How many calls of `connect` are running. -/
def connectCalls (s : MeshEntry) : Nat :=
  (s.phase? .setup).isSome.toNat + (s.phase? (.loop .current)).isSome.toNat +
    s.survivors.countP LoopStage.isConnecting

/-- At most one connect call runs, no loop that was cancelled has begun another attempt, and there
is no loop after a set-up that was not ready. -/
structure Single (s : MeshEntry) : Prop where
  one : s.connectCalls ≤ 1
  retired : .revived ∉ s.history
  cleared : s.setup = .notReady → s.manager.reconnectTask = none ∧ s.survivors = []

/-- The set-up is over, and did not end with `ConfigEntryNotReady`. -/
def settled (s : MeshEntry) : Bool := s.setup = .done || s.setup = .authFailed

/-- The current loop ends when it is cancelled. -/
def yields (c : EntryConfig) (s : MeshEntry) : Bool :=
  match s.manager.reconnectTask with
  | some (.connecting phase) => (c.kind.survives phase).isNone
  | _ => true

/-- The event calls `schedule_reconnect`. -/
def schedules (s : MeshEntry) : EntryEvent → Bool
  | .advertised => true
  | .reconnect => true
  | .linkLost => s.registered
  | .connect _ .linkDown => s.registered
  | _ => false

/-- A reconnect is only scheduled when the set-up is over and did not fail, and a loop is only
cancelled where that ends it. -/
def exclusive (c : EntryConfig) (s : MeshEntry) (event : EntryEvent) : Bool :=
  match event with
  | .tasksCancelled => s.yields c
  | event => !(s.schedules event && s.manager.running) || (s.settled && s.yields c)

def Exclusive (c : EntryConfig) (s : MeshEntry) (timed : Rat × EntryEvent) : Prop :=
  s.exclusive c timed.2 = true

instance (c : EntryConfig) (s : MeshEntry) (timed : Rat × EntryEvent) :
    Decidable (s.Exclusive c timed) := inferInstanceAs (Decidable (_ = true))

/-- Where a reconnect may be scheduled, if the event schedules one. -/
theorem of_exclusive (exclusive : s.exclusive c event = true) (schedules : s.schedules event = true)
    (running : s.manager.running = true) : s.settled = true ∧ s.yields c = true := by
  unfold MeshEntry.exclusive at exclusive
  split at exclusive
  · cases schedules
  · rw [schedules, running] at exclusive
    exact Bool.and_eq_true_iff.mp exclusive

/-- What is kept: there is a loop only after the set-up, and no cancelled loop goes on. -/
structure Alone (s : MeshEntry) : Prop where
  alone : s.survivors = []
  retired : .revived ∉ s.history
  settled : s.manager.reconnectTask ≠ none → s.settled = true
  created : s.setup = .created → s.manager.running = false

theorem Alone.idle (alone : s.Alone) (unsettled : s.settled = false) :
    s.manager.reconnectTask = none := by
  by_contra present
  rw [alone.settled present] at unsettled
  cases unsettled

theorem Alone.single (alone : s.Alone) : s.Single := by
  refine ⟨?_, alone.retired, fun notReady => ⟨alone.idle ?_, alone.alone⟩⟩
  · unfold connectCalls
    rw [alone.alone, List.countP_nil]
    by_cases connects : (s.phase? .setup).isSome
    · have idle : s.manager.reconnectTask = none := by
        apply alone.idle
        simp only [phase?] at connects
        split at connects
        · next phase here =>
          unfold MeshEntry.settled
          rw [here]
          rfl
        · cases connects
      have apart : s.phase? (.loop .current) = none := by
        simp only [phase?, loop?, idle]
      rw [connects, apart]
      decide
    · rw [Bool.not_eq_true] at connects
      rw [connects]
      cases (s.phase? (.loop .current)).isSome <;> decide
  · unfold MeshEntry.settled
    rw [notReady]
    rfl

/-! ### What a step keeps -/

/-- What is kept when the loop ends, goes on or stays where it is. -/
theorem Alone.of_same (alone : s.Alone) (survivors : s'.survivors = s.survivors)
    (history : .revived ∉ s'.history)
    (loop : s'.manager.reconnectTask ≠ none → s.manager.reconnectTask ≠ none)
    (setup : s'.setup = s.setup) (running : s'.manager.running = true → s.manager.running = true) :
    s'.Alone where
  alone := survivors.trans alone.alone
  retired := history
  settled present := by
    have settled := alone.settled (loop present)
    unfold MeshEntry.settled at settled ⊢
    rw [setup]
    exact settled
  created fresh := by
    rw [setup] at fresh
    by_contra started
    rw [Bool.not_eq_false] at started
    have idle := alone.created fresh
    rw [running started] at idle
    cases idle

theorem cancelReconnect_yields (yields : s.yields c = true) :
    (s.cancelReconnect c).survivors = s.survivors ∧ (s.cancelReconnect c).history = s.history ∧
      (s.cancelReconnect c).setup = s.setup ∧ (s.cancelReconnect c).manager = s.manager := by
  unfold MeshEntry.yields at yields
  unfold cancelReconnect
  split
  · next phase here =>
    rw [here] at yields
    have ends : c.kind.survives phase = none := Option.isNone_iff_eq_none.mp yields
    rw [ends]
    exact ⟨List.append_nil _, rfl, rfl, rfl⟩
  · exact ⟨rfl, rfl, rfl, rfl⟩

theorem Alone.scheduleReconnect (alone : s.Alone)
    (exclusive : s.manager.running = true → s.settled = true ∧ s.yields c = true) :
    (s.scheduleReconnect c).Alone := by
  unfold MeshEntry.scheduleReconnect
  split
  · next running =>
    obtain ⟨settled, yields⟩ := exclusive running
    obtain ⟨survivors, history, setup, manager⟩ := cancelReconnect_yields yields
    constructor
    · exact survivors.trans alone.alone
    · change _ ∉ (s.cancelReconnect c).history
      rw [history]
      exact alone.retired
    · intro _
      unfold MeshEntry.settled at settled ⊢
      change ((s.cancelReconnect c).setup = _ || (s.cancelReconnect c).setup = _) = true
      rw [setup]
      exact settled
    · intro created
      change (s.cancelReconnect c).setup = _ at created
      rw [setup] at created
      unfold MeshEntry.settled at settled
      rw [created] at settled
      cases settled
  · exact alone

theorem Alone.disconnectCallback (alone : s.Alone)
    (exclusive : s.registered = true → s.manager.running = true →
      s.settled = true ∧ s.yields c = true) : (s.disconnectCallback c).Alone := by
  unfold MeshEntry.disconnectCallback
  split
  · next registered =>
    unfold onDisconnect handleDisconnect
    refine Alone.scheduleReconnect ?_ fun running => exclusive registered running
    refine alone.of_same rfl ?_ id rfl id
    intro revived
    rcases List.mem_cons.mp revived with other | revived
    · cases other
    · exact alone.retired revived
  · exact alone

/-- Another moment is noted. -/
theorem not_revived_cons {moment : ConnectionMoment} (other : moment ≠ .revived)
    (retired : .revived ∉ s.history) : .revived ∉ moment :: s.history := by
  intro revived
  rcases List.mem_cons.mp revived with same | revived
  · exact other same.symm
  · exact retired revived

theorem Alone.current (alone : s.Alone) {loop : LoopRef} {stage : LoopStage}
    (here : s.loop? loop = some stage) : loop = .current ∧ s.manager.reconnectTask = some stage := by
  cases loop with
  | current => exact ⟨rfl, here⟩
  | survivor i =>
    have none : s.survivors[i]? = some stage := here
    rw [alone.alone] at none
    cases none

/-- The current loop goes on or ends. -/
theorem Alone.setLoop (alone : s.Alone) (present : s.manager.reconnectTask ≠ none)
    (stage : Option LoopStage) : (s.setLoop .current stage).Alone :=
  alone.of_same rfl alone.retired (fun _ => present) rfl id

theorem Alone.loopHead (alone : s.Alone) (present : s.manager.reconnectTask ≠ none) :
    (s.loopHead c .current).Alone := by
  unfold MeshEntry.loopHead
  split
  · split
    · exact alone.of_same rfl alone.retired (fun _ => present) rfl id
    · exact alone.setLoop present _
  · exact alone.setLoop present _

theorem Alone.loopWaited (alone : s.Alone) (present : s.manager.reconnectTask ≠ none)
    (backoff : Nat) : (s.loopWaited .current backoff).Alone := by
  unfold MeshEntry.loopWaited
  split
  · exact alone.of_same rfl (not_revived_cons ConnectionMoment.noConfusion alone.retired)
      (fun _ => present) rfl id
  · exact alone.setLoop present _

theorem Alone.loopFailed (alone : s.Alone) (present : s.manager.reconnectTask ≠ none)
    (err : ConnectFailure) (left : Bool) : (s.loopFailed c .current err left).Alone := by
  unfold MeshEntry.loopFailed
  dsimp only
  split
  · exact alone.of_same rfl (not_revived_cons ConnectionMoment.noConfusion alone.retired)
      (fun _ => present) rfl id
  · split
    · exact alone.of_same rfl (not_revived_cons ConnectionMoment.noConfusion alone.retired)
        (fun _ => present) rfl id
    · refine Alone.loopHead ?_ present
      exact alone.of_same rfl (not_revived_cons ConnectionMoment.noConfusion alone.retired)
        (fun _ => present) rfl id

theorem startRssiPolling_same (m : ConnectionManager) :
    (m.startRssiPolling c).reconnectTask = m.reconnectTask ∧
      (m.startRssiPolling c).running = m.running := by
  unfold ConnectionManager.startRssiPolling
  split
  · exact ⟨rfl, rfl⟩
  · exact ⟨rfl, rfl⟩

/-- A loop that calls `connect` is the current one. -/
theorem Alone.connecting (alone : s.Alone) {loop : LoopRef} {phase : ConnectPhase}
    (here : s.phase? (.loop loop) = some phase) :
    loop = .current ∧ s.manager.reconnectTask = some (.connecting phase) := by
  simp only [phase?] at here
  split at here
  · next found =>
    cases here
    exact alone.current found
  · cases here

/-- While the set-up calls `connect`, there is no loop. -/
theorem Alone.setup_connecting (alone : s.Alone) {phase : ConnectPhase}
    (here : s.phase? .setup = some phase) :
    s.settled = false ∧ s.manager.reconnectTask = none := by
  have unsettled : s.settled = false := by
    simp only [phase?] at here
    split at here
    · next found =>
      unfold MeshEntry.settled
      rw [found]
      rfl
    · cases here
  exact ⟨unsettled, alone.idle unsettled⟩

/-- The set-up goes on or ends, without a loop. -/
theorem Alone.of_setup (alone : s.Alone) (idle : s.manager.reconnectTask = none)
    (survivors : s'.survivors = s.survivors) (history : .revived ∉ s'.history)
    (loop : s'.manager.reconnectTask = s.manager.reconnectTask) (begun : s'.setup ≠ .created) :
    s'.Alone where
  alone := survivors.trans alone.alone
  retired := history
  settled present := absurd (loop.trans idle) present
  created fresh := absurd fresh begun

theorem Alone.setupFailed (alone : s.Alone) (idle : s.manager.reconnectTask = none)
    (err : ConnectFailure) (left : Bool) : (s.setupFailed err left).Alone := by
  refine alone.of_setup idle rfl alone.retired rfl ?_
  unfold MeshEntry.setupFailed
  dsimp only
  split
  · exact SetupPhase.noConfusion
  · exact SetupPhase.noConfusion

/-- The call is not in an attempt that catches a cancellation when its link goes down. -/
theorem yields_of_linkDown {phase moved : ConnectPhase} {left : Bool}
    (advanced : c.kind.advance phase .linkDown = some (.goesOn moved left)) :
    c.kind.survives moved = none := by
  simp only [DeviceKind.advance] at advanced
  split at advanced
  · cases advanced
    rfl
  · cases advanced
    rfl
  · cases advanced

/-- The link of the loop's attempt goes down. -/
theorem Alone.dropLink (alone : s.Alone) {phase : ConnectPhase} (settled : s.settled = true)
    (here : s.manager.reconnectTask = some (.connecting phase))
    (ends : c.kind.survives phase = none) : (s.dropLink c (.loop .current)).Alone := by
  have yields : s.yields c = true := by
    unfold MeshEntry.yields
    rw [here]
    exact Option.isNone_iff_eq_none.mpr ends
  unfold MeshEntry.dropLink
  split
  · refine Alone.disconnectCallback ?_ fun _ _ => ⟨settled, yields⟩
    exact alone.of_same rfl (not_revived_cons ConnectionMoment.noConfusion alone.retired) id rfl id
  · exact alone.disconnectCallback fun _ _ => ⟨settled, yields⟩

theorem Alone.connectStep (alone : s.Alone) {task : ConnectTask} {event : ConnectEvent}
    (exclusive : s.exclusive c (.connect task event) = true)
    (stepped : s.connectStep c now task event = some s') : s'.Alone := by
  obtain ⟨phase, here, stepped⟩ := Option.bind_eq_some_iff.mp stepped
  obtain ⟨outcome, advanced, stepped⟩ := Option.bind_eq_some_iff.mp stepped
  cases task with
  | setup =>
    obtain ⟨unsettled, idle⟩ := alone.setup_connecting here
    cases outcome with
    | goesOn phase left =>
      have moved : ((s.setPhase phase .setup).addLink left).Alone :=
        alone.of_setup idle rfl alone.retired rfl SetupPhase.noConfusion
      cases event with
      | linkDown =>
        cases stepped
        have exclusive : (!(s.registered && s.manager.running) || (s.settled && s.yields c)) = true :=
          exclusive
        rw [unsettled, Bool.false_and, Bool.or_false, Bool.not_eq_true'] at exclusive
        have apart : ((s.setPhase phase .setup).addLink left).dropLink c .setup =
            ((s.setPhase phase .setup).addLink left).disconnectCallback c := by
          unfold MeshEntry.dropLink
          rw [if_neg (by simp)]
        rw [apart]
        refine moved.disconnectCallback fun registered running => ?_
        rw [show s.registered = true from registered, show s.manager.running = true from running]
          at exclusive
        cases exclusive
      | _ =>
        cases stepped
        exact moved
    | succeeds link =>
      cases stepped
      refine alone.of_setup idle rfl ?_ (startRssiPolling_same _).1 SetupPhase.noConfusion
      exact not_revived_cons ConnectionMoment.noConfusion alone.retired
    | fails err left =>
      cases stepped
      exact alone.setupFailed idle err left
  | loop loop =>
    obtain ⟨rfl, present⟩ := alone.connecting here
    have some_loop : s.manager.reconnectTask ≠ none := by
      rw [present]
      exact Option.some_ne_none _
    cases outcome with
    | goesOn phase left =>
      have moved : ((s.setPhase phase (.loop .current)).addLink left).Alone :=
        alone.of_same rfl alone.retired (fun _ => some_loop) rfl id
      cases event with
      | linkDown =>
        cases stepped
        have settled : s.settled = true := alone.settled some_loop
        exact moved.dropLink settled rfl (yields_of_linkDown advanced)
      | _ =>
        cases stepped
        exact moved
    | succeeds link =>
      cases stepped
      refine alone.of_same rfl ?_ (fun _ => some_loop) rfl fun running => ?_
      · exact not_revived_cons ConnectionMoment.noConfusion alone.retired
      · exact (startRssiPolling_same (c := c) (s.manager.reconnected c)).2.symm.trans running
    | fails err left =>
      cases stepped
      exact alone.loopFailed some_loop err left

theorem Alone.applyUpdate (alone : s.Alone) (now : Rat) (update : DeviceUpdate) :
    (s.applyUpdate now update).Alone := by
  unfold MeshEntry.applyUpdate
  dsimp only
  split
  · exact alone.of_same rfl alone.retired id rfl id
  · exact alone.of_same rfl alone.retired id rfl id

theorem Alone.processNotify (alone : s.Alone) (now : Rat) (updates : List DeviceUpdate) :
    (s.processNotify now updates).Alone := by
  unfold MeshEntry.processNotify
  split
  · clear * - alone
    induction updates generalizing s with
    | nil => exact alone
    | cons update updates ih => exact ih (alone.applyUpdate now update)
  · exact alone

theorem Alone.step (alone : s.Alone) (exclusive : s.exclusive c event = true)
    (stepped : s.step c (now, event) = some s') : s'.Alone := by
  cases step_cases stepped with
  | initialConnect created =>
    have idle : s.manager.reconnectTask = none :=
      alone.idle (by unfold MeshEntry.settled; rw [created]; rfl)
    exact alone.of_setup idle rfl alone.retired rfl SetupPhase.noConfusion
  | loaded loading =>
    have idle : s.manager.reconnectTask = none :=
      alone.idle (by unfold MeshEntry.settled; rw [loading]; rfl)
    exact alone.of_setup idle rfl alone.retired rfl SetupPhase.noConfusion
  | loadFailed loading err =>
    have idle : s.manager.reconnectTask = none :=
      alone.idle (by unfold MeshEntry.settled; rw [loading]; rfl)
    exact alone.setupFailed idle err false
  | connect task event stepped => exact alone.connectStep exclusive stepped
  | debounced loop here =>
    obtain ⟨rfl, present⟩ := alone.current here
    exact alone.loopHead (present ▸ Option.some_ne_none _)
  | waited loop backoff here =>
    obtain ⟨rfl, present⟩ := alone.current here
    have same : (s.loopWaited .current backoff).noteRetry (.loop .current) =
        s.loopWaited .current backoff := rfl
    rw [same, ite_self]
    exact alone.loopWaited (present ▸ Option.some_ne_none _) backoff
  | advertised unavailable => exact alone.scheduleReconnect (of_exclusive exclusive rfl)
  | reconnect =>
    have same : ({ s with notifyTasks := [] } : MeshEntry).Alone :=
      alone.of_same rfl alone.retired id rfl id
    exact same.scheduleReconnect (of_exclusive (s := s) exclusive rfl)
  | linkLost linked =>
    have same : ({ s with links := s.links - 1 } : MeshEntry).Alone :=
      alone.of_same rfl alone.retired id rfl id
    exact same.disconnectCallback fun registered => of_exclusive (s := s) exclusive registered
  | processed task updates here =>
    have same : ({ s with notifyTasks := s.notifyTasks.eraseIdx task } : MeshEntry).Alone :=
      alone.of_same rfl alone.retired id rfl id
    exact same.processNotify now updates
  | closed linked kind =>
    exact alone.of_same rfl (not_revived_cons ConnectionMoment.noConfusion alone.retired) id rfl id
  | stopped halted =>
    exact alone.of_same rfl (not_revived_cons ConnectionMoment.noConfusion alone.retired) id rfl id
  | stopping => exact alone.of_same rfl alone.retired id rfl nofun
  | tasksCancelled halted =>
    -- a loop that ends when it is cancelled leaves nothing behind
    obtain ⟨survivors, history, setup, manager⟩ := cancelReconnect_yields exclusive
    refine alone.of_same survivors ?_ (fun present => absurd rfl present) setup ?_
    · change _ ∉ (s.cancelReconnect c).history
      rw [history]
      exact alone.retired
    · change (s.cancelReconnect c).manager.running = true → _
      rw [manager]
      exact id
  | _ => exact alone.of_same rfl alone.retired id rfl id

/-- In a run that only schedules a reconnect after the set-up, and only cancels a loop where that
ends it, one connect call at most runs at a time. -/
theorem exclusive_single (c : EntryConfig) {events : List (Rat × EntryEvent)}
    (exclusive : (entrySystem c).Guarded (Exclusive c) {} events) {s : MeshEntry}
    (ran : (entrySystem c).exec {} events = some s) : s.Single := by
  have initial : Alone {} := ⟨rfl, List.not_mem_nil, fun present => absurd rfl present, fun _ => rfl⟩
  have alone : s.Alone := by
    refine (entrySystem c).exec_invariant Alone ?_ initial exclusive ran
    intro m timed m' alone exclusive stepped
    exact alone.step exclusive stepped
  exact alone.single

/-! ### Sample runs -/

/-- The link of a Telink device is lost, and the second attempt to connect it again succeeds. -/
def retriedRun : List (Rat × EntryEvent) :=
  atOnce (setupRun ++ [.linkLost, .debounced .current, .waited .current,
    .connect (.loop .current) .failed, .connect (.loop .current) .retry,
    .connect (.loop .current) .linkUp, .connect (.loop .current) .returned])

theorem retriedRun_single :
    ∃ s ∈ (entrySystem telinkEntry).exec {} retriedRun, s.Single ∧ s.links = 1 := by
  have ran : ∃ s ∈ (entrySystem telinkEntry).exec {} retriedRun, s.links = 1 := by decide +kernel
  obtain ⟨s, ran, linked⟩ := ran
  exact ⟨s, ran, exclusive_single telinkEntry (by decide +kernel) ran, linked⟩

/-- An advertisement comes while the set-up connects, and the loop that it starts does not wait
for the set-up. -/
def heardRun : List (Rat × EntryEvent) :=
  atOnce [.initialConnect, .loaded none, .advertised, .debounced .current, .waited .current]

/-- The set-up is given up, and the loop is still there. -/
def abandonedRun : List (Rat × EntryEvent) :=
  heardRun ++ atOnce [.connect .setup (.raised timeoutFailure)]

/-- A loop is replaced during an attempt, and begins the next one. -/
def replacedRun : List (Rat × EntryEvent) :=
  atOnce (setupRun ++ [.linkLost, .debounced .current, .waited .current, .advertised,
    .connect (.loop (.survivor 0)) .retry])

/-- In each of the three runs another one of the three things goes wrong. -/
theorem heardRun_not_single :
    (∃ s ∈ (entrySystem telinkEntry).exec {} heardRun, s.connectCalls = 2 ∧ ¬s.Single) ∧
      (∃ s ∈ (entrySystem telinkEntry).exec {} replacedRun, .revived ∈ s.history ∧ ¬s.Single) ∧
        ∃ s ∈ (entrySystem telinkEntry).exec {} abandonedRun,
          s.setup = .notReady ∧ s.manager.reconnectTask ≠ none ∧ ¬s.Single := by
  have heard : ∃ s ∈ (entrySystem telinkEntry).exec {} heardRun, s.connectCalls = 2 := by
    decide +kernel
  have replaced : ∃ s ∈ (entrySystem telinkEntry).exec {} replacedRun, .revived ∈ s.history := by
    decide +kernel
  have abandoned : ∃ s ∈ (entrySystem telinkEntry).exec {} abandonedRun,
      s.setup = .notReady ∧ s.manager.reconnectTask ≠ none := by
    decide +kernel
  obtain ⟨first, firstRan, two⟩ := heard
  obtain ⟨second, secondRan, revived⟩ := replaced
  obtain ⟨third, thirdRan, notReady, present⟩ := abandoned
  refine ⟨⟨first, firstRan, two, fun single => ?_⟩,
    ⟨second, secondRan, revived, fun single => single.retired revived⟩,
    ⟨third, thirdRan, notReady, present, fun single => present (single.cleared notReady).1⟩⟩
  have one := single.one
  rw [two] at one
  exact absurd one (by decide)

end MeshEntry

end TuyaBleMesh
