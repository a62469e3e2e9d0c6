import TuyaBleMesh.Connection.Steadiness

/-!
# Failures and backoff

Whether a reconnect loop of a SIG Mesh device counts every attempt that fails, and waits
longer after each. An attempt whose link goes down calls the disconnect callback, which
cancels the loop before the failure reaches it.
-/

namespace TuyaBleMesh

/-- The attempts that have failed since a connection succeeded. -/
def failedSince : List ConnectionMoment → Nat
  | [] => 0
  | .connected _ _ :: _ => 0
  | .failed _ :: rest => failedSince rest + 1
  | .crashed _ :: rest => failedSince rest + 1
  | .dropped :: rest => failedSince rest + 1
  | _ :: rest => failedSince rest

/-- All attempts that have failed. -/
def failedTotal : List ConnectionMoment → Nat
  | [] => 0
  | .failed _ :: rest => failedTotal rest + 1
  | .crashed _ :: rest => failedTotal rest + 1
  | .dropped :: rest => failedTotal rest + 1
  | _ :: rest => failedTotal rest

/-- An attempt has failed permanently since a connection succeeded. -/
def permanentSince : List ConnectionMoment → Bool
  | [] => false
  | .connected _ _ :: _ => false
  | .failed err :: rest => classifyError err = .permanent || permanentSince rest
  | _ :: rest => permanentSince rest

/-- The delay before the attempt that follows a number of failures. -/
def pace (failures : Nat) : Nat := min (INITIAL_BACKOFF * BACKOFF_MULTIPLIER ^ failures) MAX_BACKOFF

/-- Every attempt was made after the delay that belongs to the failures before it. -/
def Paced : List ConnectionMoment → Prop
  | [] => True
  | .attempted delay :: rest => delay = pace (failedSince rest) ∧ Paced rest
  | _ :: rest => Paced rest

theorem pace_succ (failures : Nat) :
    min (pace failures * BACKOFF_MULTIPLIER) MAX_BACKOFF = pace (failures + 1) := by
  unfold pace INITIAL_BACKOFF BACKOFF_MULTIPLIER MAX_BACKOFF
  rw [Nat.pow_succ]
  omega

/-- The delays grow up to the largest one. -/
theorem pace_mono {failures failures' : Nat} (fewer : failures ≤ failures') :
    pace failures ≤ pace failures' := by
  induction failures', fewer using Nat.le_induction with
  | base => exact Nat.le_refl _
  | succ n _ ih =>
    refine ih.trans ?_
    have bounded : pace n ≤ MAX_BACKOFF := Nat.min_le_right _ _
    rw [← pace_succ]
    unfold BACKOFF_MULTIPLIER
    omega

namespace Ledger

variable {c : EntryConfig} {l : Ledger} {postings : List Posting}

/-- The failed attempts are counted once each, and the delays are those that belong to them. -/
structure Accounted (l : Ledger) : Prop where
  failures : l.consecutiveFailures = failedSince l.history
  errors : l.connectionErrors = failedTotal l.history
  backoff : permanentSince l.history = false → l.backoff = pace (failedSince l.history)
  attempts : Paced l.history

theorem Accounted.of_same {l' : Ledger} (accounted : l.Accounted)
    (failures : l'.consecutiveFailures = l.consecutiveFailures)
    (errors : l'.connectionErrors = l.connectionErrors) (backoff : l'.backoff = l.backoff)
    (since : failedSince l'.history = failedSince l.history)
    (total : failedTotal l'.history = failedTotal l.history)
    (permanent : permanentSince l'.history = permanentSince l.history)
    (attempts : Paced l.history → Paced l'.history) : l'.Accounted where
  failures := by rw [failures, since, accounted.failures]
  errors := by rw [errors, total, accounted.errors]
  backoff passing := by
    rw [permanent] at passing
    rw [backoff, since, accounted.backoff passing]
  attempts := attempts accounted.attempts

theorem Accounted.stateUpdate (accounted : l.Accounted) : l.stateUpdate.Accounted := by
  unfold Ledger.stateUpdate
  split
  · exact accounted.of_same rfl rfl rfl rfl rfl rfl id
  · split
    · exact accounted.of_same rfl rfl rfl rfl rfl rfl id
    · exact accounted

theorem Accounted.fail (sig : c.kind = .sigMesh) (accounted : l.Accounted) (err : ConnectFailure) :
    ((l.note (.failed err)).fail c err).Accounted where
  failures := congrArg (· + 1) accounted.failures
  errors := congrArg (· + 1) accounted.errors
  backoff passing := by
    simp only [Ledger.fail, note, permanentSince, Bool.or_eq_false_iff,
      decide_eq_false_iff_not] at passing ⊢
    rw [if_neg passing.1, accounted.backoff passing.2, sig]
    exact pace_succ _
  attempts := accounted.attempts

/-- What the posting needs for the accounts to stay right. -/
def Apt (l : Ledger) : Posting → Prop
  | .dropped => False
  | .crashed _ => False
  | .connected again _ => again = true ∨ failedSince l.history = 0
  | .updated update => update.resetsBackoff = true → failedSince l.history = 0
  | .attempted delay => delay = pace (failedSince l.history)
  | _ => True

theorem Accounted.post (sig : c.kind = .sigMesh) (accounted : l.Accounted) (posting : Posting)
    (apt : l.Apt posting) : (l.post c posting).Accounted := by
  cases posting with
  | disconnected =>
    refine accounted.of_same rfl rfl ?_ rfl rfl rfl id
    change (if c.kind = .bridge then _ else l.backoff) = _
    rw [sig]
    rfl
  | dropped => exact apt.elim
  | crashed err => exact apt.elim
  | attempted delay => exact accounted.of_same rfl rfl rfl rfl rfl rfl fun paced => ⟨apt, paced⟩
  | failed err => exact accounted.fail sig err
  | connected again link =>
    constructor
    · change (if again then 0 else l.consecutiveFailures) = 0
      cases again with
      | true => rfl
      | false =>
        rcases apt with again | none
        · cases again
        · rw [← none]
          exact accounted.failures
    · exact accounted.errors
    · intro _
      change c.kind.initialBackoff = pace 0
      rw [sig]
      rfl
    · exact accounted.attempts
  | stateUpdate => exact accounted.stateUpdate
  | updated update =>
    cases resets : update.resetsBackoff with
    | false =>
      refine accounted.of_same rfl rfl ?_ rfl rfl rfl id
      change (if update.resetsBackoff then _ else l.backoff) = _
      rw [resets]
      rfl
    | true =>
      have none := apt resets
      refine ⟨accounted.failures, accounted.errors, fun _ => ?_, accounted.attempts⟩
      change (if update.resetsBackoff then _ else l.backoff) = pace (failedSince l.history)
      rw [resets, none]
      rfl
  | _ => exact accounted.of_same rfl rfl rfl rfl rfl rfl id

/-- The posting needs nothing. -/
def IsRoutine (posting : Posting) : Prop := ∀ l : Ledger, l.Apt posting

theorem Accounted.routine (sig : c.kind = .sigMesh) (accounted : l.Accounted)
    (routine : ∀ posting ∈ postings, IsRoutine posting) : (l.postAll c postings).Accounted := by
  induction postings generalizing l with
  | nil => exact accounted
  | cons posting postings ih =>
    apply ih (accounted.post sig posting (routine posting List.mem_cons_self l))
    exact fun other member => routine other (List.mem_cons_of_mem posting member)

/-- Handlers are called when nothing has failed, or leave the backoff alone. -/
theorem Accounted.updates (sig : c.kind = .sigMesh) {updates : List DeviceUpdate}
    (accounted : l.Accounted)
    (apt : ∀ update ∈ updates, update.resetsBackoff = true → failedSince l.history = 0) :
    (l.postAll c (updates.map .updated)).Accounted := by
  induction updates generalizing l with
  | nil => exact accounted
  | cons update updates ih =>
    apply ih
    · exact accounted.post sig (.updated update) (apt update List.mem_cons_self)
    · exact fun other member => apt other (List.mem_cons_of_mem update member)

end Ledger

namespace MeshEntry

variable {c : EntryConfig} {s s' : MeshEntry} {now : Rat} {event : EntryEvent}

/-! ### The delay a loop waits for -/

/-- A waiting loop waits for the delay that belongs to the failures, and no cancelled loop goes
on. -/
structure Waits (s : MeshEntry) : Prop where
  delay : ∀ delay, s.manager.reconnectTask = some (.waiting delay) →
    permanentSince s.history = false → delay = pace (failedSince s.history)
  alone : s.survivors = []

theorem Waits.of_same (waits : s.Waits)
    (task : s'.manager.reconnectTask = s.manager.reconnectTask)
    (since : failedSince s'.history = failedSince s.history)
    (permanent : permanentSince s'.history = permanentSince s.history)
    (survivors : s'.survivors = s.survivors) : s'.Waits where
  delay delay waiting passing := by
    rw [task] at waiting
    rw [permanent] at passing
    rw [since]
    exact waits.delay delay waiting passing
  alone := survivors.trans waits.alone

/-- A loop that does not wait for its backoff. -/
theorem Waits.of_other (waits : s.Waits)
    (task : ∀ delay, s'.manager.reconnectTask ≠ some (.waiting delay))
    (survivors : s'.survivors = s.survivors) : s'.Waits where
  delay delay waiting := absurd waiting (task delay)
  alone := survivors.trans waits.alone

/-- No cancelled loop of a SIG Mesh device goes on. -/
theorem cancelReconnect_sig (sig : c.kind = .sigMesh) :
    (s.cancelReconnect c).survivors = s.survivors ∧ (s.cancelReconnect c).manager = s.manager ∧
      (s.cancelReconnect c).history = s.history := by
  unfold cancelReconnect
  split
  · next phase _ =>
    -- only `_connect_with_retry` of the Telink device catches the cancellation
    have ends : c.kind.survives phase = none := by
      rw [sig]
      cases phase <;> rfl
    rw [ends]
    exact ⟨List.append_nil _, rfl, rfl⟩
  · exact ⟨rfl, rfl, rfl⟩

theorem Waits.scheduleReconnect (sig : c.kind = .sigMesh) (waits : s.Waits) :
    (s.scheduleReconnect c).Waits := by
  unfold MeshEntry.scheduleReconnect
  split
  · refine waits.of_other (fun delay waiting => ?_) (cancelReconnect_sig sig).1
    cases waiting
  · exact waits

theorem Waits.disconnectCallback (sig : c.kind = .sigMesh) (waits : s.Waits) :
    (s.disconnectCallback c).Waits := by
  unfold MeshEntry.disconnectCallback
  split
  · unfold onDisconnect handleDisconnect
    apply Waits.scheduleReconnect sig
    exact waits.of_same rfl rfl rfl rfl
  · exact waits

/-- The loop goes on with the backoff that the ledger has. -/
theorem Waits.loopHead (accounted : s.ledger.Accounted) (alone : s.survivors = []) :
    (s.loopHead c .current).Waits := by
  unfold MeshEntry.loopHead
  split
  · split
    · exact ⟨fun delay waiting => (by cases waiting), alone⟩
    · refine ⟨fun delay waiting passing => ?_, alone⟩
      cases waiting
      -- the ledger has the delay of the failures so far
      exact accounted.backoff passing
  · exact ⟨fun delay waiting => (by cases waiting), alone⟩

/-- There is no other loop than the current one. -/
theorem Waits.current (waits : s.Waits) {loop : LoopRef} {stage : LoopStage}
    (here : s.loop? loop = some stage) : loop = .current := by
  cases loop with
  | current => rfl
  | survivor i =>
    -- a survivor would be among the survivors, of which there are none
    have none : s.survivors[i]? = some stage := here
    rw [waits.alone] at none
    cases none

theorem phase?_loop {loop : LoopRef} {phase : ConnectPhase}
    (here : s.phase? (.loop loop) = some phase) : s.loop? loop = some (.connecting phase) := by
  simp only [phase?] at here
  split at here
  · next found =>
    rw [found]
    cases here
    rfl
  · cases here

/-! ### What keeps the accounts right -/

/-- While a loop connects, its link does not go down and it raises no programming error; what has
failed is followed neither by the success of the set-up nor by a notification, and a permanent
failure by no attempt. -/
def accounts (s : MeshEntry) : EntryEvent → Bool
  | .connect (.loop _) .linkDown => !s.registered || !s.manager.running
  | .connect (.loop _) (.raised err) => err.kind ≠ .programmingError
  | .connect .setup .returned => failedSince s.history = 0
  | .waited _ => !s.manager.running || !permanentSince s.history
  | .processed task => !s.registered || failedSince s.history = 0 ||
      ((s.notifyTasks[task]?).getD []).all (!·.resetsBackoff)
  | _ => true

def Accounts (s : MeshEntry) (timed : Rat × EntryEvent) : Prop := s.accounts timed.2 = true

instance (s : MeshEntry) (timed : Rat × EntryEvent) : Decidable (s.Accounts timed) :=
  inferInstanceAs (Decidable (_ = true))

/-- The failed attempts are counted once each, in the failures and in the connection errors, and
every attempt was made after the delay that belongs to the failures before it. -/
structure Accounted (s : MeshEntry) : Prop where
  failures : s.manager.consecutiveFailures = failedSince s.history
  errors : s.manager.stats.connectionErrors = failedTotal s.history
  attempts : Paced s.history

/-- What is kept in a run that keeps the accounts right. -/
structure Tracked (s : MeshEntry) : Prop where
  ledger : s.ledger.Accounted
  waits : s.Waits

theorem permanentSince_of_none {history : List ConnectionMoment}
    (none : failedSince history = 0) : permanentSince history = false := by
  -- on the history, latest moment first, up to the last connection
  induction history with
  | nil => rfl
  | cons moment rest ih =>
    cases moment with
    | connected again link => rfl
    | failed err => cases none
    | crashed err => cases none
    | dropped => cases none
    | _ => exact ih none

theorem routine_disconnectPostings {posting : Posting} (member : posting ∈ s.disconnectPostings) :
    Ledger.IsRoutine posting := by
  unfold disconnectPostings at member
  split at member
  · rw [List.mem_singleton.mp member]
    exact fun _ => trivial
  · cases member

theorem routine_failPostings {err : ConnectFailure} (counted : err.kind ≠ .programmingError)
    {posting : Posting} (member : posting ∈ s.failPostings c err) :
    Ledger.IsRoutine posting := by
  unfold failPostings at member
  rw [if_neg counted] at member
  split at member
  · simp only [List.mem_cons, List.not_mem_nil, or_false] at member
    rcases member with rfl | rfl <;> exact fun _ => trivial
  · rcases List.mem_append.mp member with member | member
    · simp only [List.mem_cons, List.not_mem_nil, or_false] at member
      rcases member with rfl | rfl <;> exact fun _ => trivial
    · split at member
      · rw [List.mem_singleton.mp member]
        exact fun _ => trivial
      · cases member

theorem dropPostings_other {task : ConnectTask}
    (other : s.registered = false ∨ s.manager.running = false ∨ task ≠ .loop .current) :
    s.dropPostings task = s.disconnectPostings := by
  unfold dropPostings
  rcases other with other | other | other
  · rw [other]
    rfl
  · rw [other, Bool.and_false]
    rfl
  · rw [decide_eq_false other, Bool.and_false]
    rfl

/-- What a connect call does to the ledger. -/
theorem Tracked.connect_ledger (sig : c.kind = .sigMesh) (tracked : s.Tracked) {task : ConnectTask}
    {event : ConnectEvent} (accounts : s.accounts (.connect task event) = true) :
    (s.ledger.postAll c (s.connectPostings c task event)).Accounted := by
  have ledger := tracked.ledger
  unfold connectPostings
  cases found : (s.phase? task).bind fun phase => c.kind.advance phase event with
  | none => exact ledger
  | some outcome =>
    obtain ⟨phase, -, advanced⟩ := Option.bind_eq_some_iff.mp found
    cases outcome with
    | goesOn phase left =>
      cases event with
      | linkDown =>
        -- a loop that runs for a registered entry does not lose its link
        have drop : s.dropPostings task = s.disconnectPostings := by
          cases task with
          | setup => exact dropPostings_other (.inr (.inr ConnectTask.noConfusion))
          | loop loop =>
            rcases Bool.or_eq_true_iff.mp accounts with apart | idle
            · exact dropPostings_other (.inl (Bool.not_eq_true' _ ▸ apart))
            · exact dropPostings_other (.inr (.inl (Bool.not_eq_true' _ ▸ idle)))
        dsimp only
        rw [drop]
        exact ledger.routine sig fun posting member => routine_disconnectPostings member
      | retry =>
        dsimp only
        unfold retryPostings
        split
        · exact ledger.post sig .revived trivial
        · exact ledger
      | _ => exact ledger
    | succeeds link =>
      cases advance_succeeds advanced
      cases task with
      -- the set-up does not reset the count, so nothing may have failed
      | setup => exact ledger.post sig (.connected false _) (.inr (of_decide_eq_true accounts))
      | loop loop => exact ledger.post sig (.connected true _) (.inl rfl)
    | fails err left =>
      cases advance_fails advanced
      cases task with
      -- `async_initial_connect` does not count its failure
      | setup => exact ledger
      | loop loop =>
        exact ledger.routine sig
          fun posting member => routine_failPostings (of_decide_eq_true accounts) member

theorem Tracked.step_ledger (sig : c.kind = .sigMesh) (tracked : s.Tracked)
    (accounts : s.Accounts (now, event)) (stepped : s.step c (now, event) = some s') :
    s'.ledger.Accounted := by
  rw [ledger_step stepped]
  have ledger := tracked.ledger
  cases event with
  | connect task event => exact tracked.connect_ledger sig accounts
  | waited loop =>
    simp only [postings]
    split
    · next delay here =>
      split
      · next running =>
        cases tracked.waits.current here
        -- after a permanent failure no loop waits
        have passing : permanentSince s.history = false := by
          have accounts : (!s.manager.running || !permanentSince s.history) = true := accounts
          rw [running, Bool.not_true, Bool.false_or, Bool.not_eq_true'] at accounts
          exact accounts
        exact ledger.post sig (.attempted delay) (tracked.waits.delay delay here passing)
      · exact ledger
    · exact ledger
  | processed task =>
    simp only [postings]
    split
    · next registered =>
      apply ledger.updates sig
      intro update member resets
      have accounts : (!s.registered || failedSince s.history = 0 ||
        ((s.notifyTasks[task]?).getD []).all (!·.resetsBackoff)) = true := accounts
      rw [registered, Bool.not_true, Bool.false_or, Bool.or_eq_true] at accounts
      -- nothing has failed, or no handler resets the backoff
      rcases accounts with none | plain
      · exact of_decide_eq_true none
      · have plain := List.all_eq_true.mp plain update member
        rw [resets] at plain
        cases plain
    · exact ledger
  | debounced loop =>
    simp only [postings, headPostings]
    split
    · exact ledger.stateUpdate
    · exact ledger
  | linkLost =>
    exact ledger.routine sig fun posting member => routine_disconnectPostings member
  | closed => exact ledger.post sig .closed trivial
  | rssiPolled rssi => exact ledger.stateUpdate
  | wentStale => exact ledger.post sig (.unavailable .stale) trivial
  | assumed readings => exact ledger.post sig .assumed trivial
  | stopped =>
    have closed := ledger.post sig .closed trivial
    exact closed.post sig (.unavailable s.state.deviceAvailability) trivial
  | _ => exact ledger

/-- A failure that is counted: the loop ends, or goes on with the increased backoff. -/
theorem Tracked.loopFailed (sig : c.kind = .sigMesh) (tracked : s.Tracked) {err : ConnectFailure}
    (counted : err.kind ≠ .programmingError) (left : Bool) :
    (s.loopFailed c .current err left).Waits := by
  have alone := tracked.waits.alone
  unfold MeshEntry.loopFailed
  dsimp only
  rw [if_neg counted]
  split
  · exact ⟨fun delay waiting => (by cases waiting), alone⟩
  -- the count and the backoff have been increased before the next round
  · next passing =>
    refine Waits.loopHead ?_ alone
    rw [ledger_handleConnStateUpdate]
    have failed := (tracked.ledger.fail sig err).stateUpdate
    unfold Ledger.fail at failed
    rw [if_neg passing] at failed
    exact failed

theorem dropLink_other {task : ConnectTask}
    (other : s.registered = false ∨ s.manager.running = false ∨ task ≠ .loop .current) :
    s.dropLink c task = s.disconnectCallback c := by
  unfold dropLink
  rcases other with other | other | other
  · rw [other]
    rfl
  · rw [other, Bool.and_false]
    rfl
  · rw [decide_eq_false other, Bool.and_false]
    rfl

theorem Tracked.connect_waits (sig : c.kind = .sigMesh) (tracked : s.Tracked) {task : ConnectTask}
    {event : ConnectEvent} (accounts : s.accounts (.connect task event) = true)
    (stepped : s.connectStep c now task event = some s') : s'.Waits := by
  obtain ⟨phase, here, stepped⟩ := Option.bind_eq_some_iff.mp stepped
  obtain ⟨outcome, advanced, stepped⟩ := Option.bind_eq_some_iff.mp stepped
  have waits := tracked.waits
  cases task with
  | setup =>
    cases outcome with
    | goesOn phase left =>
      have moved : ((s.setPhase phase .setup).addLink left).Waits := waits.of_same rfl rfl rfl rfl
      cases event with
      | linkDown =>
        cases stepped
        rw [dropLink_other (.inr (.inr ConnectTask.noConfusion))]
        exact moved.disconnectCallback sig
      | _ =>
        cases stepped
        exact moved
    | succeeds link =>
      cases stepped
      cases advance_succeeds advanced
      have none : failedSince s.history = 0 := of_decide_eq_true accounts
      have manager : (s.setupConnected c now link).manager.reconnectTask =
          s.manager.reconnectTask := by
        unfold setupConnected ConnectionManager.connected ConnectionManager.startRssiPolling
        simp only [withManager, note, addLink]
        split <;> rfl
      refine waits.of_same manager none.symm ?_ rfl
      exact (permanentSince_of_none none).symm
    | fails err left =>
      cases stepped
      exact waits.of_same rfl rfl rfl rfl
  | loop loop =>
    -- the only loop is the current one
    cases waits.current (phase?_loop here)
    cases outcome with
    | goesOn phase left =>
      have moved : ((s.setPhase phase (.loop .current)).addLink left).Waits :=
        waits.of_other (fun delay waiting => by cases waiting) rfl
      cases event with
      | linkDown =>
        cases stepped
        rcases Bool.or_eq_true_iff.mp accounts with apart | idle
        · rw [dropLink_other (.inl (Bool.not_eq_true' _ ▸ apart))]
          exact moved.disconnectCallback sig
        · rw [dropLink_other (.inr (.inl (Bool.not_eq_true' _ ▸ idle)))]
          exact moved.disconnectCallback sig
      | _ =>
        cases stepped
        exact moved
    | succeeds link =>
      cases stepped
      exact ⟨fun delay waiting => (by cases waiting), waits.alone⟩
    | fails err left =>
      cases stepped
      cases advance_fails advanced
      exact tracked.loopFailed sig (of_decide_eq_true accounts) left

theorem applyUpdates_same (now : Rat) (updates : List DeviceUpdate) (s : MeshEntry) :
    let s' := updates.foldl (fun s update => s.applyUpdate now update) s
    s'.manager.reconnectTask = s.manager.reconnectTask ∧ s'.history = s.history ∧
      s'.survivors = s.survivors := by
  induction updates generalizing s with
  | nil => exact ⟨rfl, rfl, rfl⟩
  | cons update updates ih =>
    obtain ⟨task, history, survivors⟩ := ih (s.applyUpdate now update)
    have once : (s.applyUpdate now update).manager.reconnectTask = s.manager.reconnectTask ∧
        (s.applyUpdate now update).history = s.history ∧
          (s.applyUpdate now update).survivors = s.survivors := by
      unfold applyUpdate
      dsimp only
      split <;> exact ⟨rfl, rfl, rfl⟩
    exact ⟨task.trans once.1, history.trans once.2.1, survivors.trans once.2.2⟩

theorem Waits.processNotify (waits : s.Waits) (updates : List DeviceUpdate) :
    (s.processNotify now updates).Waits := by
  unfold MeshEntry.processNotify
  split
  · obtain ⟨task, history, survivors⟩ := applyUpdates_same now updates s
    refine waits.of_same task ?_ ?_ survivors
    · rw [history]
    · rw [history]
  · exact waits

theorem Tracked.step_waits (sig : c.kind = .sigMesh) (tracked : s.Tracked)
    (accounts : s.Accounts (now, event)) (stepped : s.step c (now, event) = some s') :
    s'.Waits := by
  have waits := tracked.waits
  cases step_cases stepped with
  | connect task event stepped => exact tracked.connect_waits sig accounts stepped
  | debounced loop here =>
    cases waits.current here
    exact Waits.loopHead tracked.ledger waits.alone
  | waited loop backoff here =>
    cases waits.current here
    -- a loop that was not cancelled notes nothing more
    have kept (m : MeshEntry) :
        (if m.manager.running then m.noteRetry (.loop .current) else m) = m := ite_self m
    rw [kept]
    unfold loopWaited
    split
    · exact waits.of_other (fun delay waiting => by cases waiting) rfl
    · exact waits.of_other (fun delay waiting => by cases waiting) rfl
  | advertised unavailable => exact waits.scheduleReconnect sig
  | reconnect =>
    refine Waits.scheduleReconnect sig ?_
    exact waits.of_same rfl rfl rfl rfl
  | linkLost linked =>
    refine Waits.disconnectCallback sig ?_
    exact waits.of_same rfl rfl rfl rfl
  | processed task updates here =>
    refine Waits.processNotify ?_ _
    exact waits.of_same rfl rfl rfl rfl
  | tasksCancelled halted =>
    exact waits.of_other (fun delay waiting => by cases waiting) (cancelReconnect_sig sig).1
  | _ => exact waits.of_same rfl rfl rfl rfl

def sigEntry : EntryConfig := { kind := .sigMesh }

def notReached : ConnectFailure :=
  ⟨.meshConnectionError, "MeshConnectionError", "Failed to connect after 5 attempts"⟩

/-- A loop begins an attempt. -/
def attemptRun : List EntryEvent := [.waited .current]

/-- The device is not found in any attempt of the connect call. -/
def notFoundRun : List EntryEvent :=
  let events : List ConnectEvent :=
    (List.replicate 4 [.failed, .retry]).flatten ++ [.failed, .raised notReached]
  events.map fun event => .connect (.loop .current) event

/-- The link is lost, an attempt to connect again fails, and the next one begins. -/
def unreachableRun : List (Rat × EntryEvent) :=
  atOnce (setupRun ++ [.linkLost, .debounced .current] ++ attemptRun ++ notFoundRun ++ attemptRun)

/-- The attempt has a link, cannot use it and closes it. -/
def unusableRun : List (Rat × EntryEvent) :=
  atOnce (setupRun ++ reconnectRun ++
    [.connect (.loop .current) .failed, .connect (.loop .current) .linkDown,
      .debounced .current] ++ attemptRun)

end MeshEntry

end TuyaBleMesh
