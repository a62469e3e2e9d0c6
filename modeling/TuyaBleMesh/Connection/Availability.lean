import TuyaBleMesh.Connection.Ledger

/-!
# Availability and disconnects

Whether a device that was disconnected counts as unavailable until it is connected again.
The handlers of the notifications mark it as available whatever has happened, and so does
the set-up when its connect call returns.
-/

namespace TuyaBleMesh

open ConnectionMoment

/-- A disconnect was processed, and no connection has succeeded since. -/
def isDown : List ConnectionMoment → Bool
  | [] => false
  | .disconnected :: _ => true
  | .connected _ true :: _ => false
  | _ :: rest => isDown rest

namespace Posting

/-- It makes a device available that need not be connected. -/
def contradicts : Posting → Bool
  | .updated update => update.marksAvailable
  | .connected _ link => !link
  | _ => false

def isDisconnect : Posting → Bool
  | .disconnected => true
  | _ => false

end Posting

namespace Ledger

variable {c : EntryConfig} {l : Ledger} {posting : Posting} {postings : List Posting}

/-- The device is unavailable while it counts as disconnected. -/
def Follows (l : Ledger) : Prop := isDown l.history = true → l.available = false

theorem history_stateUpdate : l.stateUpdate.history = l.history := by
  unfold stateUpdate
  split
  · rfl
  · split <;> rfl

theorem available_stateUpdate (down : l.available = false) : l.stateUpdate.available = false := by
  unfold stateUpdate
  split
  · rfl
  · split
    · exact down
    · exact down

/-- What makes nothing available keeps an unavailable device unavailable. -/
theorem Follows.post (follows : l.Follows) (plain : posting.contradicts = false) :
    (l.post c posting).Follows := by
  intro down
  cases posting with
  | disconnected => rfl
  | connected again link =>
    cases link with
    | true => cases down
    | false => cases plain
  | stateUpdate =>
    rw [post, history_stateUpdate] at down
    exact available_stateUpdate (follows down)
  | updated update =>
    have marks : update.marksAvailable = false := plain
    rw [post, Ledger.update, follows down, marks]
    rfl
  | unavailable deviceAvailability => rfl
  | _ => exact follows down

theorem Follows.postAll (follows : l.Follows)
    (plain : ∀ posting ∈ postings, posting.contradicts = false) :
    (l.postAll c postings).Follows := by
  -- the postings come one by one, each plain
  induction postings generalizing l with
  | nil => exact follows
  | cons posting postings ih =>
    apply ih (follows.post (plain posting List.mem_cons_self))
    exact fun other member => plain other (List.mem_cons_of_mem posting member)

/-- Without a disconnect a device does not begin to count as disconnected. -/
theorem isDown_post (up : isDown l.history = false) (plain : posting.isDisconnect = false) :
    isDown (l.post c posting).history = false := by
  cases posting with
  | disconnected => cases plain
  | connected again link =>
    cases link with
    | true => rfl
    | false => exact up
  | stateUpdate =>
    rw [post, history_stateUpdate]
    exact up
  | _ => exact up

theorem isDown_postAll (up : isDown l.history = false)
    (plain : ∀ posting ∈ postings, posting.isDisconnect = false) :
    isDown (l.postAll c postings).history = false := by
  induction postings generalizing l with
  | nil => exact up
  | cons posting postings ih =>
    apply ih (isDown_post up (plain posting List.mem_cons_self))
    exact fun other member => plain other (List.mem_cons_of_mem posting member)

/-- After handlers of which one marks the device as available, it is available. -/
theorem available_updates {updates : List DeviceUpdate}
    (marks : l.available = true ∨ ∃ update ∈ updates, update.marksAvailable = true) :
    (l.postAll c (updates.map .updated)).available = true ∧
      (l.postAll c (updates.map .updated)).history = l.history := by
  induction updates generalizing l with
  | nil =>
    rcases marks with available | ⟨update, member, -⟩
    · exact ⟨available, rfl⟩
    · cases member
  | cons update updates ih =>
    apply ih
    -- once available, no later handler takes it back
    rcases marks with available | ⟨marking, member, marks⟩
    · left
      rw [post, Ledger.update, available, Bool.true_or]
    · rcases List.mem_cons.mp member with rfl | member
      · left
        rw [post, Ledger.update, marks, Bool.or_true]
      · exact .inr ⟨marking, member, marks⟩

end Ledger

namespace MeshEntry

variable {c : EntryConfig} {s s' : MeshEntry} {now : Rat} {event : EntryEvent}

/-- The device is unavailable from a disconnect to the next connection. -/
def Follows (s : MeshEntry) : Prop := isDown s.history = true → s.state.available = false

/-- The connect call has a link when it returns. -/
def returnsLinked (c : EntryConfig) (s : MeshEntry) (task : ConnectTask) : Bool :=
  match (s.phase? task).bind fun phase => c.kind.advance phase .returned with
  | some (.succeeds link) => link || 0 < s.links
  | _ => true

/-- The task that processes a notification calls no handler that marks the device as available. -/
def processesPlainly (s : MeshEntry) (task : Nat) : Bool :=
  !s.registered || ((s.notifyTasks[task]?).getD []).all (!·.marksAvailable)

/-- While the device counts as disconnected, no task calls a handler that marks it as available,
and no connect call returns whose link has gone down. -/
def heeds (c : EntryConfig) (s : MeshEntry) (event : EntryEvent) : Bool :=
  !isDown s.history ||
    match event with
    | .processed task => s.processesPlainly task
    | .connect task .returned => s.returnsLinked c task
    | _ => true

def Heeds (c : EntryConfig) (s : MeshEntry) (timed : Rat × EntryEvent) : Prop :=
  s.heeds c timed.2 = true

instance (c : EntryConfig) (s : MeshEntry) (timed : Rat × EntryEvent) :
    Decidable (s.Heeds c timed) := inferInstanceAs (Decidable (_ = true))

/-! ### The postings of an event -/

/-- The events that can make a device available. -/
def mayContradict : EntryEvent → Bool
  | .processed _ => true
  | .connect _ .returned => true
  | _ => false

/-- If the call ends in this way, the event says so. -/
def isSaidBy (event : ConnectEvent) : ConnectOutcome → Prop
  | .goesOn _ _ => True
  | .succeeds _ => event = .returned
  | .fails err _ => event = .raised err

theorem advance_isSaidBy {kind : DeviceKind} {phase : ConnectPhase} {event : ConnectEvent}
    {outcome : ConnectOutcome} (advanced : kind.advance phase event = some outcome) :
    isSaidBy event outcome := by
  -- only `returned` and `raised` end a connect call
  cases event with
  | linkUp =>
    simp only [DeviceKind.advance] at advanced
    split at advanced
    · split at advanced <;> cases advanced
      trivial
    · cases advanced
  | retry =>
    simp only [DeviceKind.advance] at advanced
    split at advanced
    · split at advanced <;> cases advanced
      trivial
    · cases advanced
  | raised err =>
    simp only [DeviceKind.advance] at advanced
    split at advanced <;> cases advanced
    rfl
  | returned =>
    simp only [DeviceKind.advance] at advanced
    split at advanced <;> cases advanced
    all_goals rfl
  | _ =>
    simp only [DeviceKind.advance] at advanced
    split at advanced <;> cases advanced
    all_goals trivial

theorem advance_succeeds {kind : DeviceKind} {phase : ConnectPhase} {event : ConnectEvent}
    {link : Bool} (advanced : kind.advance phase event = some (.succeeds link)) :
    event = .returned := advance_isSaidBy advanced

theorem advance_fails {kind : DeviceKind} {phase : ConnectPhase} {event : ConnectEvent}
    {err : ConnectFailure} {left : Bool}
    (advanced : kind.advance phase event = some (.fails err left)) : event = .raised err :=
  advance_isSaidBy advanced

theorem plain_disconnectPostings {posting : Posting} (member : posting ∈ s.disconnectPostings) :
    posting.contradicts = false := by
  unfold disconnectPostings at member
  split at member
  · rw [List.mem_singleton.mp member]
    rfl
  · cases member

theorem plain_dropPostings {task : ConnectTask} {posting : Posting}
    (member : posting ∈ s.dropPostings task) : posting.contradicts = false := by
  unfold dropPostings at member
  split at member
  · rcases List.mem_cons.mp member with rfl | member
    · rfl
    · exact plain_disconnectPostings member
  · exact plain_disconnectPostings member

theorem plain_failPostings {err : ConnectFailure} {posting : Posting}
    (member : posting ∈ s.failPostings c err) : posting.contradicts = false := by
  unfold failPostings at member
  split at member
  · rw [List.mem_singleton.mp member]
    rfl
  · split at member
    · simp only [List.mem_cons, List.not_mem_nil, or_false] at member
      rcases member with rfl | rfl <;> rfl
    · rcases List.mem_append.mp member with member | member
      · simp only [List.mem_cons, List.not_mem_nil, or_false] at member
        rcases member with rfl | rfl <;> rfl
      · split at member
        · rw [List.mem_singleton.mp member]
          rfl
        · cases member

theorem plain_retryPostings {task : ConnectTask} {posting : Posting}
    (member : posting ∈ retryPostings task) : posting.contradicts = false := by
  unfold retryPostings at member
  split at member
  · rw [List.mem_singleton.mp member]
    rfl
  · cases member

theorem plain_connectPostings {task : ConnectTask} {event : ConnectEvent} {posting : Posting}
    (other : event ≠ .returned) (member : posting ∈ s.connectPostings c task event) :
    posting.contradicts = false := by
  unfold connectPostings at member
  -- a call that does not return cannot say that it is connected
  split at member
  · split at member
    · exact plain_dropPostings member
    · exact plain_retryPostings member
    · cases member
  · next succeeds =>
    obtain ⟨phase, -, advanced⟩ := Option.bind_eq_some_iff.mp succeeds
    exact absurd (advance_succeeds advanced) other
  · next succeeds =>
    obtain ⟨phase, -, advanced⟩ := Option.bind_eq_some_iff.mp succeeds
    exact absurd (advance_succeeds advanced) other
  · exact plain_failPostings member
  · cases member

/-- The other events make nothing available. -/
theorem plain_postings (other : mayContradict event = false) {posting : Posting}
    (member : posting ∈ s.postings c event) : posting.contradicts = false := by
  cases event with
  | processed task => cases other
  | connect task event =>
    refine plain_connectPostings ?_ member
    rintro rfl
    cases other
  | debounced loop =>
    simp only [postings, headPostings] at member
    split at member
    · rw [List.mem_singleton.mp member]
      rfl
    · cases member
  | waited loop =>
    simp only [postings] at member
    split at member
    · split at member
      · rcases List.mem_cons.mp member with rfl | member
        · rfl
        · exact plain_retryPostings member
      · cases member
    · cases member
  | closed =>
    rw [List.mem_singleton.mp member]
    rfl
  | linkLost => exact plain_disconnectPostings member
  | rssiPolled rssi =>
    rw [List.mem_singleton.mp member]
    rfl
  | wentStale =>
    rw [List.mem_singleton.mp member]
    rfl
  | assumed readings =>
    rw [List.mem_singleton.mp member]
    rfl
  | stopped =>
    simp only [postings, List.mem_cons, List.not_mem_nil, or_false] at member
    rcases member with rfl | rfl <;> rfl
  -- the other events post nothing
  | _ => cases member

/-- The events that can make a device available process no disconnect. -/
theorem lasting_postings (may : mayContradict event = true) {posting : Posting}
    (member : posting ∈ s.postings c event) : posting.isDisconnect = false := by
  cases event with
  | processed task =>
    simp only [postings] at member
    split at member
    · obtain ⟨update, -, rfl⟩ := List.mem_map.mp member
      rfl
    · cases member
  | connect task event =>
    cases event with
    | returned =>
      simp only [postings, connectPostings] at member
      split at member
      · cases member
      · rw [List.mem_singleton.mp member]
        rfl
      · rw [List.mem_singleton.mp member]
        rfl
      · next fails =>
        obtain ⟨phase, -, advanced⟩ := Option.bind_eq_some_iff.mp fails
        simp only [DeviceKind.advance] at advanced
        split at advanced
        all_goals cases advanced
      · cases member
    | _ => cases may
  | _ => cases may

theorem heeds_plain (down : isDown s.history = true) (heeds : s.Heeds c (now, event))
    {posting : Posting} (member : posting ∈ s.postings c event) : posting.contradicts = false := by
  unfold Heeds MeshEntry.heeds at heeds
  rw [down, Bool.not_true, Bool.false_or] at heeds
  -- the device counts as disconnected, so the event has been checked
  cases may : mayContradict event with
  | false => exact plain_postings may member
  | true =>
    cases event with
    | processed task =>
      simp only [postings] at member
      split at member
      · next registered =>
        obtain ⟨update, inTask, rfl⟩ := List.mem_map.mp member
        have plain : s.processesPlainly task = true := heeds
        rw [processesPlainly, registered, Bool.not_true, Bool.false_or] at plain
        -- no handler of this task marks the device as available
        exact Bool.not_eq_true' _ ▸ List.all_eq_true.mp plain update inTask
      · cases member
    | connect task event =>
      cases event with
      | returned =>
        have linked : s.returnsLinked c task = true := heeds
        unfold returnsLinked at linked
        simp only [postings, connectPostings] at member
        split at member
        · cases member
        · next link succeeds =>
          rw [succeeds] at linked
          have up : (link || decide (0 < s.links)) = true := linked
          rw [List.mem_singleton.mp member, Posting.contradicts, up]
          rfl
        · next link loop succeeds =>
          rw [succeeds] at linked
          have up : (link || decide (0 < s.links)) = true := linked
          rw [List.mem_singleton.mp member, Posting.contradicts, up]
          rfl
        · exact plain_failPostings member
        · cases member
      | _ => cases may
    | _ => cases may

theorem Follows.step (follows : s.Follows) (heeds : s.Heeds c (now, event))
    (stepped : s.step c (now, event) = some s') : s'.Follows := by
  change s'.ledger.Follows
  rw [ledger_step stepped]
  -- connected before: then only a disconnect in this very step matters
  cases down : isDown s.history with
  | true => exact Ledger.Follows.postAll follows fun posting member => heeds_plain down heeds member
  | false =>
    cases may : mayContradict event with
    | false => exact Ledger.Follows.postAll follows fun posting member => plain_postings may member
    | true =>
      have lasting : ∀ posting ∈ s.postings c event, posting.isDisconnect = false :=
        fun posting member => lasting_postings may member
      have up := Ledger.isDown_postAll (c := c) (l := s.ledger) down lasting
      intro again
      rw [up] at again
      cases again

/-- A step that does not heed the disconnect makes the device available. -/
theorem Follows.heeds_of_step (stepped : s.step c (now, event) = some s') (follows' : s'.Follows) :
    s.Heeds c (now, event) := by
  have follows' : s'.ledger.Follows := follows'
  rw [ledger_step stepped] at follows'
  unfold Heeds MeshEntry.heeds
  cases down : isDown s.history with
  | false => rfl
  -- by contraposition: what is not heeded leaves the device available
  | true =>
    cases event with
    | processed task =>
      change s.processesPlainly task = true
      unfold processesPlainly
      cases registered : s.registered with
      | false => rfl
      | true =>
        rw [Bool.not_true, Bool.false_or, List.all_eq_true]
        intro update member
        by_contra marks
        have marks : update.marksAvailable = true := by
          rw [Bool.not_eq_true', Bool.not_eq_false] at marks
          exact marks
        -- such a handler leaves the device available though it is disconnected
        obtain ⟨available, history⟩ := Ledger.available_updates (c := c) (l := s.ledger)
          (.inr ⟨update, member, marks⟩)
        simp only [postings, registered, if_true] at follows'
        have unavailable := follows' (by rw [history]; exact down)
        rw [available] at unavailable
        cases unavailable
    | connect task event =>
      cases event with
      | returned =>
        change s.returnsLinked c task = true
        unfold returnsLinked
        split
        · next link succeeds =>
          cases lost : link || decide (0 < s.links) with
          | true => rfl
          | false =>
            cases task with
            | setup =>
              simp only [postings, connectPostings, succeeds, lost] at follows'
              cases follows' down
            | loop loop =>
              simp only [postings, connectPostings, succeeds, lost] at follows'
              cases follows' down
        · rfl
      | _ => rfl
    | _ => rfl

/-- In a run the device is unavailable after every disconnect until it is connected again, exactly
if every step heeds the disconnect. -/
theorem heeds_iff (c : EntryConfig) {events : List (Rat × EntryEvent)} {s : MeshEntry}
    (ran : (entrySystem c).exec {} events = some s) :
    (∀ before after m, events = before ++ after → (entrySystem c).exec {} before = some m →
      m.Follows) ↔ (entrySystem c).Guarded (Heeds c) {} events := by
  have unconnected : Follows {} := fun down => by cases down
  constructor
  · intro follows
    -- the state after each prefix follows, so each step has heeded
    apply (entrySystem c).guarded_of_steps
    intro before timed after m split reached
    have whole := ran
    rw [split, EventSystem.exec_append_iff] at whole
    obtain ⟨m', reached', rest⟩ := whole
    rw [reached] at reached'
    cases reached'
    obtain ⟨next, stepped, -⟩ := ((entrySystem c).exec_cons_iff _ _ _ _).mp rest
    refine Follows.heeds_of_step stepped (follows (before ++ [timed]) after next ?_ ?_)
    · rw [split, List.append_assoc, List.singleton_append]
    · rw [EventSystem.exec_append_iff]
      exact ⟨m, reached, ((entrySystem c).exec_cons_iff _ _ _ _).mpr ⟨next, stepped, rfl⟩⟩
  · rintro guarded before after m rfl reached
    refine (entrySystem c).exec_invariant Follows ?_ unconnected
      (EventSystem.Guarded.append_left _ guarded) reached
    intro s timed s' follows heeds stepped
    exact follows.step heeds stepped

/-! ### Sample runs -/

/-- The set-up of a SIG Mesh device that connects. -/
def setupRun : List EntryEvent :=
  [.initialConnect, .loaded none, .connect .setup .linkUp, .connect .setup .returned]

/-- A run at one time. -/
def atOnce (events : List EntryEvent) : List (Rat × EntryEvent) := events.map fun event => (0, event)

/-- A notification is processed before the link is lost. -/
def promptRun : List (Rat × EntryEvent) :=
  atOnce (setupRun ++ [.notified [.onoff true], .processed 0, .linkLost])

theorem promptRun_follows : ((entrySystem { kind := .sigMesh }).exec {} promptRun).isSome = true ∧
    ∀ before after m, promptRun = before ++ after →
      (entrySystem { kind := .sigMesh }).exec {} before = some m → m.Follows := by
  have ends : ((entrySystem { kind := .sigMesh }).exec {} promptRun).isSome = true := by
    decide +kernel
  obtain ⟨s, ran⟩ := Option.isSome_iff_exists.mp ends
  exact ⟨ends, (heeds_iff { kind := .sigMesh } ran).mpr (by decide +kernel)⟩

/-- A notification is still to be processed when the link is lost. -/
def lateRun : List (Rat × EntryEvent) :=
  atOnce (setupRun ++ [.notified [.onoff true], .linkLost, .processed 0])

/-- The device is available although it was disconnected and nobody has connected it again. -/
theorem lateRun_available : ∃ s ∈ (entrySystem { kind := .sigMesh }).exec {} lateRun,
    isDown s.history = true ∧ s.state.available = true ∧ s.links = 0 := by
  decide +kernel

end MeshEntry

end TuyaBleMesh
