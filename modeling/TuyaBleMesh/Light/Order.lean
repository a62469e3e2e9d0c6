import TuyaBleMesh.Light.Entity

/-!
# Later calls win

Which commands of a call can still follow those of a later one. A call cancels the
transition and the command that waits for its debounce window. A command that has
left its window can no longer be cancelled, and keeps its place in the line for the
lock; a call that sends at once does not stand in that line.
-/

namespace TuyaBleMesh

namespace LightTask

/-- The task can be cancelled by the next call. -/
def replaceable (t : LightTask) : Bool :=
  t.code.isTransition || t.phase = .fresh || t.phase = .window

/-- The task may send something in a later step. -/
def hasLeft (t : LightTask) : Bool :=
  match t.phase with
  | .working left => left ≠ []
  | .ended => false
  | _ => true

end LightTask

/-- The call sends its command itself. -/
def LightCall.sendsAtOnce : LightCall → Bool
  | .turnOn kwargs => (kwargs.effect.bind sceneByName).isSome
  | .turnOff transition => (positive? transition).isNone

namespace Light

/-- A task that has not ended and is not being cancelled. -/
def live? (s : Light) (i : Nat) : Option LightTask :=
  s.tasks[i]?.filter fun t => t.phase ≠ .ended && !t.cancelling

/-- The debounced command has left its window, and has something to send. -/
def isUnderway (t : LightTask) : Bool :=
  !t.replaceable && t.hasLeft && !t.cancelling

/-- No call sends a command at once while a debounced command that can no longer be cancelled has
something left to send. -/
def Unhurried (s : Light) : LightEvent → Prop
  | .call call => call.sendsAtOnce = true → ∀ t ∈ s.tasks, isUnderway t = false
  | _ => True

instance (s : Light) (event : LightEvent) : Decidable (s.Unhurried event) :=
  match event with
  | .call _ => inferInstanceAs (Decidable (_ → _))
  | .removed | .start _ | .elapsed _ | .granted _ | .resumed _ | .raised _ | .cancelled _
  | .updated _ => isTrue trivial

/-! ### What is kept -/

/-- What can be cancelled belongs to the last call, what stands in the line for the lock stands
there in the order of the calls, and nothing was sent that a task will have to precede. -/
structure Orderly (s : Light) : Prop where
  numbered : ∀ i t, s.live? i = some t → t.call < s.calls
  sentNumbered : ∀ entry ∈ s.sent, entry.1 < s.calls
  newest : ∀ i t, s.live? i = some t → t.replaceable = true → t.call + 1 = s.calls
  slot : ∀ i t, s.live? i = some t → t.replaceable = true →
    if t.code.isTransition then s.transitionTask = some i else s.pendingCommandTask = some i
  windowed : ∀ i t, s.live? i = some t → t.phase = .window → t.code.isTransition = false
  working : ∀ i t, s.live? i = some t → t.phase.isWorking = true → s.holder = some i
  queued : ∀ i t, s.live? i = some t → t.phase = .queued → i ∈ s.waiters
  front : ∀ h ∈ s.holder, ∀ w ∈ s.waiters, ∀ a b, s.live? h = some a → s.live? w = some b →
    a.call ≤ b.call
  line : s.waiters.Pairwise fun v w => ∀ a b, s.live? v = some a → s.live? w = some b →
    a.call ≤ b.call
  within : ∀ i, s.holder = some i ∨ i ∈ s.waiters → i < s.tasks.length
  before : ∀ entry ∈ s.sent, ∀ i t, s.live? i = some t → t.hasLeft = true → entry.1 ≤ t.call
  ordered : s.sent.Pairwise fun a b => a.1 ≤ b.1

section Tasks

variable {s : Light} {i j : Nat} {t u : LightTask}

theorem live?_iff : s.live? i = some t ↔
    s.tasks[i]? = some t ∧ t.phase ≠ .ended ∧ t.cancelling = false := by
  rw [live?, Option.filter_eq_some_iff]
  simp

theorem modify_get? {tasks : List LightTask} {f : LightTask → LightTask} :
    (tasks.modify i f)[j]? = if i = j then tasks[j]?.map f else tasks[j]? := by
  rw [List.getElem?_modify]
  split <;> simp

/-- A task that lives after a step of one task is that one, or has lived before. -/
theorem live?_setPhase {phase : LightPhase} (here : s.live? i = some t)
    (after : (s.setPhase i phase).live? j = some u) :
    (j = i ∧ u = { t with phase }) ∨ (j ≠ i ∧ s.live? j = some u) := by
  obtain ⟨found, alive, kept⟩ := live?_iff.mp after
  rw [show (s.setPhase i phase).tasks = s.tasks.modify i _ from rfl, modify_get?] at found
  split at found
  · next same =>
    subst same
    rw [(live?_iff.mp here).1] at found
    exact .inl ⟨rfl, (Option.some.inj found).symm⟩
  · next other => exact .inr ⟨fun same => other same.symm, live?_iff.mpr ⟨found, alive, kept⟩⟩

theorem live?_setPhase_self {phase : LightPhase} (here : s.live? i = some t)
    (goesOn : phase ≠ .ended) :
    (s.setPhase i phase).live? i = some { t with phase } := by
  obtain ⟨found, -, kept⟩ := live?_iff.mp here
  refine live?_iff.mpr ⟨?_, goesOn, kept⟩
  rw [show (s.setPhase i phase).tasks = s.tasks.modify i _ from rfl, modify_get?, if_pos rfl, found]
  rfl

/-- What lives after a cancellation has lived before, and was not cancelled. -/
theorem live?_cancel (after : (s.cancel i).live? j = some u) : j ≠ i ∧ s.live? j = some u := by
  obtain ⟨found, alive, kept⟩ := live?_iff.mp after
  rw [show (s.cancel i).tasks = s.tasks.modify i _ from rfl, modify_get?] at found
  split at found
  · next same =>
    -- the task has ended, or is being cancelled
    obtain ⟨t, -, rfl⟩ := Option.map_eq_some_iff.mp found
    split at alive
    · next ended => exact absurd ended alive
    · next running =>
      rw [if_neg running] at kept
      cases kept
  · next other => exact ⟨fun same => other same.symm, live?_iff.mpr ⟨found, alive, kept⟩⟩

theorem live?_finish (after : (s.finish i).live? j = some u) : j ≠ i ∧ s.live? j = some u := by
  obtain ⟨found, alive, kept⟩ := live?_iff.mp after
  rw [show (s.finish i).tasks = s.tasks.modify i _ from rfl, modify_get?] at found
  split at found
  · next same =>
    obtain ⟨t, -, rfl⟩ := Option.map_eq_some_iff.mp found
    exact absurd rfl alive
  · next other => exact ⟨fun same => other same.symm, live?_iff.mpr ⟨found, alive, kept⟩⟩

end Tasks

/-! ### Fewer tasks -/

section Fewer

variable {s s' : Light} {i : Nat}

/-- What is kept when some tasks end or are cancelled. -/
theorem Orderly.fewer (orderly : s.Orderly)
    (live : ∀ j t, s'.live? j = some t → s.live? j = some t) (calls : s'.calls = s.calls)
    (sent : s'.sent = s.sent) (tasks : s'.tasks.length = s.tasks.length)
    (slot : ∀ j t, s'.live? j = some t → t.replaceable = true →
      if t.code.isTransition then s'.transitionTask = some j else s'.pendingCommandTask = some j)
    (working : ∀ j t, s'.live? j = some t → t.phase.isWorking = true → s'.holder = some j)
    (holder : ∀ h ∈ s'.holder, s.holder = some h) (waiters : s'.waiters.Sublist s.waiters)
    (queued : ∀ j t, s'.live? j = some t → t.phase = .queued → j ∈ s'.waiters) : s'.Orderly where
  numbered j t lives := by
    rw [calls]
    exact orderly.numbered j t (live j t lives)
  sentNumbered := by
    rw [sent, calls]
    exact orderly.sentNumbered
  newest j t lives replaceable := by
    rw [calls]
    exact orderly.newest j t (live j t lives) replaceable
  slot := slot
  windowed j t lives := orderly.windowed j t (live j t lives)
  working := working
  queued := queued
  front h held w waits a b first second :=
    orderly.front h (holder h held) w (waiters.subset waits) a b (live h a first) (live w b second)
  line := (orderly.line.sublist waiters).imp fun sorted a b first second =>
    sorted a b (live _ a first) (live _ b second)
  within i inLine := by
    rw [tasks]
    exact orderly.within i (inLine.imp (holder i) fun waits => waiters.subset waits)
  before := by
    rw [sent]
    exact fun entry member j t lives left => orderly.before entry member j t (live j t lives) left
  ordered := by
    rw [sent]
    exact orderly.ordered

theorem Orderly.finish (orderly : s.Orderly) : (s.finish i).Orderly := by
  have live : ∀ j t, (s.finish i).live? j = some t → s.live? j = some t :=
    fun j t lives => (live?_finish lives).2
  refine orderly.fewer live rfl rfl (List.length_modify _ _ _) ?_ ?_ ?_ List.erase_sublist ?_
  · exact fun j t lives => orderly.slot j t (live j t lives)
  · intro j t lives works
    have held := orderly.working j t (live j t lives) works
    show (if s.holder = some i then none else s.holder) = some j
    rw [held, if_neg fun same => (live?_finish lives).1 (Option.some.inj same)]
  · intro h held
    have held : (if s.holder = some i then none else s.holder) = some h := held
    split at held
    · cases held
    · exact held
  · intro j t lives waits
    exact (List.mem_erase_of_ne (live?_finish lives).1).mpr
      (orderly.queued j t (live j t lives) waits)

theorem cancel_orderly_of (orderly : s.Orderly) (transitionTask pendingCommandTask : Option Nat)
    (slot : ∀ j t, j ≠ i → s.live? j = some t → t.replaceable = true →
      if t.code.isTransition then transitionTask = some j else pendingCommandTask = some j) :
    { s.cancel i with transitionTask, pendingCommandTask }.Orderly := by
  have live : ∀ j t, ({ s.cancel i with transitionTask, pendingCommandTask } : Light).live? j =
      some t → j ≠ i ∧ s.live? j = some t := fun j t lives => live?_cancel lives
  refine orderly.fewer (fun j t lives => (live j t lives).2) rfl rfl (List.length_modify _ _ _) ?_ ?_
    (fun _ held => held) (List.Sublist.refl _) ?_
  · exact fun j t lives => slot j t (live j t lives).1 (live j t lives).2
  · exact fun j t lives => orderly.working j t (live j t lives).2
  · exact fun j t lives => orderly.queued j t (live j t lives).2

theorem Orderly.cancelTransition (orderly : s.Orderly) : s.cancelTransition.Orderly := by
  unfold Light.cancelTransition
  split
  · exact orderly
  · next task inSlot =>
    refine cancel_orderly_of orderly none s.pendingCommandTask ?_
    intro j t other lives replaceable
    have slot := orderly.slot j t lives replaceable
    split at slot
    · rw [inSlot] at slot
      exact absurd (Option.some.inj slot).symm other
    · next debounced =>
      rw [if_neg debounced]
      exact slot

theorem Orderly.cancelPendingCommand (orderly : s.Orderly) : s.cancelPendingCommand.Orderly := by
  unfold Light.cancelPendingCommand
  split
  · exact orderly
  · next task inSlot =>
    refine cancel_orderly_of orderly s.transitionTask none ?_
    intro j t other lives replaceable
    have slot := orderly.slot j t lives replaceable
    split at slot
    · next transition =>
      rw [if_pos transition]
      exact slot
    · rw [inSlot] at slot
      exact absurd (Option.some.inj slot).symm other

/-- What lives after the task of a slot was cancelled is not that task. -/
theorem live?_cancelSlot {slot : Option Nat} {after : Nat → Light} {j : Nat} {t : LightTask}
    (lives : (match slot with | none => s | some task => after task).live? j = some t)
    (cancels : ∀ task, (after task).live? j = some t → (s.cancel task).live? j = some t) :
    s.live? j = some t ∧ ∀ i, slot = some i → j ≠ i := by
  cases slot with
  | none => exact ⟨lives, nofun⟩
  | some task =>
    obtain ⟨other, before⟩ := live?_cancel (cancels task lives)
    refine ⟨before, ?_⟩
    rintro _ ⟨⟩
    exact other

/-- A call leaves nothing of the earlier ones that can be cancelled. -/
theorem cancelled_replaceable (orderly : s.Orderly) {j : Nat} {t : LightTask}
    (lives : s.cancelTransition.cancelPendingCommand.live? j = some t) :
    s.live? j = some t ∧ t.replaceable = false := by
  have kept := orderly.cancelTransition
  have middle : s.cancelTransition.live? j = some t ∧
      ∀ i, s.cancelTransition.pendingCommandTask = some i → j ≠ i := by
    unfold Light.cancelPendingCommand at lives
    exact live?_cancelSlot lives fun _ same => same
  have first : s.live? j = some t ∧ ∀ i, s.transitionTask = some i → j ≠ i := by
    have lives := middle.1
    unfold Light.cancelTransition at lives
    exact live?_cancelSlot lives fun _ same => same
  refine ⟨first.1, ?_⟩
  rw [← Bool.not_eq_true]
  intro replaceable
  by_cases transition : t.code.isTransition = true
  · have slot := orderly.slot j t first.1 replaceable
    rw [if_pos transition] at slot
    exact first.2 j slot rfl
  · have slot := kept.slot j t middle.1 replaceable
    rw [if_neg transition] at slot
    exact middle.2 j slot rfl

end Fewer

/-! ### Calls -/

section Calls

variable {s : Light} {event : LightEvent}

/-- What the two cancellations leave. -/
structure Cleared (s : Light) : Prop extends s.Orderly where
  settled : ∀ i t, s.live? i = some t → t.replaceable = false

theorem Orderly.cleared (orderly : s.Orderly) : s.cancelTransition.cancelPendingCommand.Cleared where
  toOrderly := orderly.cancelTransition.cancelPendingCommand
  settled _ _ lives := (cancelled_replaceable orderly lives).2

/-- A task that lives after another one was created is that one, or has lived before. -/
theorem live?_append {new t : LightTask} {i : Nat}
    (after : ({ s with tasks := s.tasks ++ [new] } : Light).live? i = some t) :
    (i = s.tasks.length ∧ t = new) ∨ s.live? i = some t := by
  obtain ⟨found, alive⟩ := live?_iff.mp after
  rcases Nat.lt_or_ge i s.tasks.length with old | late
  · rw [List.getElem?_append_left old] at found
    exact .inr (live?_iff.mpr ⟨found, alive⟩)
  · rw [List.getElem?_append_right late] at found
    obtain ⟨within, same⟩ := List.getElem?_eq_some_iff.mp found
    rw [List.length_singleton] at within
    refine .inl ⟨by omega, ?_⟩
    rw [← same]
    simp

/-- The call creates a task, which is in its slot. -/
theorem Cleared.create (cleared : s.Cleared) (code : LightCode)
    {transitionTask pendingCommandTask : Option Nat}
    (inSlot : if code.isTransition then transitionTask = some s.tasks.length
      else pendingCommandTask = some s.tasks.length) :
    ({ s with
      tasks := s.tasks ++ [{ call := s.calls, code }]
      transitionTask, pendingCommandTask
      calls := s.calls + 1 } : Light).Orderly := by
  have orderly := cleared.toOrderly
  have live {i : Nat} {t : LightTask} (after : ({ s with
      tasks := s.tasks ++ [{ call := s.calls, code }]
      transitionTask, pendingCommandTask
      calls := s.calls + 1 } : Light).live? i = some t) :
      (i = s.tasks.length ∧ t = { call := s.calls, code }) ∨ s.live? i = some t :=
    live?_append (s := s) after
  have old {i : Nat} {t : LightTask} (inLine : s.holder = some i ∨ i ∈ s.waiters)
      (after : ({ s with
        tasks := s.tasks ++ [{ call := s.calls, code }]
        transitionTask, pendingCommandTask
        calls := s.calls + 1 } : Light).live? i = some t) : s.live? i = some t := by
    rcases live after with ⟨same, -⟩ | lives
    · exact absurd same (Nat.ne_of_lt (orderly.within i inLine))
    · exact lives
  constructor
  · intro i t lives
    rcases live lives with ⟨-, rfl⟩ | lives
    · exact Nat.lt_succ_self _
    · exact Nat.lt_succ_of_lt (orderly.numbered i t lives)
  · exact fun entry member => Nat.lt_succ_of_lt (orderly.sentNumbered entry member)
  · intro i t lives replaceable
    rcases live lives with ⟨-, rfl⟩ | lives
    · rfl
    · rw [cleared.settled i t lives] at replaceable
      cases replaceable
  · intro i t lives replaceable
    rcases live lives with ⟨rfl, rfl⟩ | lives
    · exact inSlot
    · rw [cleared.settled i t lives] at replaceable
      cases replaceable
  · intro i t lives window
    rcases live lives with ⟨-, rfl⟩ | lives
    · cases window
    · exact orderly.windowed i t lives window
  · intro i t lives works
    rcases live lives with ⟨-, rfl⟩ | lives
    · cases works
    · exact orderly.working i t lives works
  · intro i t lives waits
    rcases live lives with ⟨-, rfl⟩ | lives
    · cases waits
    · exact orderly.queued i t lives waits
  · intro h held w waits a b first second
    exact orderly.front h held w waits a b (old (.inl held) first) (old (.inr waits) second)
  · refine orderly.line.imp_of_mem fun first second sorted a b one two => ?_
    exact sorted a b (old (.inr first) one) (old (.inr second) two)
  · intro i inLine
    rw [List.length_append, List.length_singleton]
    exact Nat.lt_succ_of_lt (orderly.within i inLine)
  · intro entry member i t lives left
    rcases live lives with ⟨-, rfl⟩ | lives
    · exact Nat.le_of_lt (orderly.sentNumbered entry member)
    · exact orderly.before entry member i t lives left
  · exact orderly.ordered

/-- The call sends a command itself, when nothing that lives has something left to send. -/
theorem Cleared.send (cleared : s.Cleared)
    (quiet : ∀ i t, s.live? i = some t → t.hasLeft = false) (command : DeviceCommand) :
    ({ s.note s.calls command with calls := s.calls + 1 } : Light).Orderly where
  numbered i t lives := Nat.lt_succ_of_lt (cleared.numbered i t lives)
  sentNumbered entry member := by
    rcases List.mem_append.mp member with member | member
    · exact Nat.lt_succ_of_lt (cleared.sentNumbered entry member)
    · rw [List.mem_singleton.mp member]
      exact Nat.lt_succ_self _
  newest i t lives replaceable := by
    rw [cleared.settled i t lives] at replaceable
    cases replaceable
  slot := cleared.slot
  windowed := cleared.windowed
  working := cleared.working
  queued := cleared.queued
  front := cleared.front
  line := cleared.line
  within := cleared.within
  before entry _ i t lives left := by
    rw [quiet i t lives] at left
    cases left
  ordered := by
    refine List.pairwise_append.mpr ⟨cleared.ordered, List.pairwise_singleton _ _, ?_⟩
    intro entry member last new
    rw [List.mem_singleton.mp new]
    exact Nat.le_of_lt (cleared.sentNumbered entry member)

/-- A call that does nothing more. -/
theorem Cleared.rest (cleared : s.Cleared) : ({ s with calls := s.calls + 1 } : Light).Orderly where
  numbered i t lives := Nat.lt_succ_of_lt (cleared.numbered i t lives)
  sentNumbered entry member := Nat.lt_succ_of_lt (cleared.sentNumbered entry member)
  newest i t lives replaceable := by
    rw [cleared.settled i t lives] at replaceable
    cases replaceable
  slot := cleared.slot
  windowed := cleared.windowed
  working := cleared.working
  queued := cleared.queued
  front := cleared.front
  line := cleared.line
  within := cleared.within
  before := cleared.before
  ordered := cleared.ordered

/-- The first part of a call leaves nothing that could follow what it sends. -/
theorem cancelled_quiet {call : LightCall} (orderly : s.Orderly) (unhurried : s.Unhurried (.call call))
    (atOnce : call.sendsAtOnce = true) (i : Nat) (t : LightTask)
    (lives : s.cancelTransition.cancelPendingCommand.live? i = some t) : t.hasLeft = false := by
  obtain ⟨before, settled⟩ := cancelled_replaceable orderly lives
  obtain ⟨found, -, kept⟩ := live?_iff.mp before
  have idle := unhurried atOnce t (List.mem_of_getElem? found)
  rw [isUnderway, settled, kept] at idle
  simpa using idle

theorem Orderly.perform {call : LightCall} (orderly : s.Orderly)
    (unhurried : s.Unhurried (.call call)) : (s.perform call).Orderly := by
  have cleared := orderly.cleared
  cases call with
  | turnOn kwargs =>
    show ({ s.turnOn kwargs with calls := (s.turnOn kwargs).calls + 1 } : Light).Orderly
    unfold turnOn
    dsimp only
    split
    · next effect given =>
      split
      · next sceneId scene =>
        refine cleared.send (cancelled_quiet orderly unhurried ?_) (.sendScene sceneId)
        show (kwargs.effect.bind sceneByName).isSome = true
        rw [given, Option.bind_some, scene]
        rfl
      · exact cleared.rest
    · split
      · exact cleared.create _ rfl
      · exact cleared.create _ rfl
  | turnOff transition =>
    show ({ s.turnOff transition with calls := (s.turnOff transition).calls + 1 } : Light).Orderly
    unfold turnOff
    dsimp only
    split
    · exact cleared.create _ rfl
    · next none =>
      refine cleared.send (cancelled_quiet orderly unhurried ?_) (.sendPower false)
      show (positive? transition).isNone = true
      rw [none]
      rfl

end Calls

/-! ### Steps of a task -/

section Steps

variable {s : Light} {i : Nat} {t : LightTask}

/-- A task goes from one phase to another, with its place in the slots and in the line. -/
theorem Orderly.move (orderly : s.Orderly) (here : s.live? i = some t) {phase : LightPhase}
    {pendingCommandTask holder : Option Nat} {waiters : List Nat}
    (left : LightTask.hasLeft { t with phase } = true → t.hasLeft = true)
    (replaceable : LightTask.replaceable { t with phase } = true → t.replaceable = true)
    (slotHere : phase = .window → pendingCommandTask = some i ∧ t.code.isTransition = false)
    (fresh : phase ≠ .fresh)
    (slots : ∀ j u, j ≠ i → s.live? j = some u → u.replaceable = true →
      u.code.isTransition = false → pendingCommandTask = some j)
    (worker : phase.isWorking = true → holder = some i)
    (workers : ∀ j u, j ≠ i → s.live? j = some u → u.phase.isWorking = true → holder = some j)
    (waiter : phase = .queued → i ∈ waiters)
    (waiting : ∀ j u, j ≠ i → s.live? j = some u → u.phase = .queued → j ∈ waiters)
    (front : ∀ h ∈ holder, ∀ w ∈ waiters, ∀ a b, s.live? h = some a → s.live? w = some b →
      a.call ≤ b.call)
    (line : waiters.Pairwise fun v w => ∀ a b, s.live? v = some a → s.live? w = some b →
      a.call ≤ b.call)
    (within : ∀ j, holder = some j ∨ j ∈ waiters → j < s.tasks.length) :
    ({ s.setPhase i phase with pendingCommandTask, holder, waiters } : Light).Orderly := by
  -- only the task itself is seen in another phase
  have live {j : Nat} {u : LightTask} (after : ({ s.setPhase i phase with
      pendingCommandTask, holder, waiters } : Light).live? j = some u) :
      (j = i ∧ u = { t with phase }) ∨ (j ≠ i ∧ s.live? j = some u) :=
    live?_setPhase here after
  have same {j : Nat} {u : LightTask} (after : ({ s.setPhase i phase with
      pendingCommandTask, holder, waiters } : Light).live? j = some u) :
      ∃ v, s.live? j = some v ∧ v.call = u.call := by
    rcases live after with ⟨rfl, rfl⟩ | ⟨-, lives⟩
    · exact ⟨t, here, rfl⟩
    · exact ⟨u, lives, rfl⟩
  constructor
  · intro j u lives
    obtain ⟨v, lived, call⟩ := same lives
    rw [← call]
    exact orderly.numbered j v lived
  · exact orderly.sentNumbered
  · intro j u lives can
    rcases live lives with ⟨-, rfl⟩ | ⟨-, lives⟩
    · exact orderly.newest i t here (replaceable can)
    · exact orderly.newest j u lives can
  · intro j u lives can
    rcases live lives with ⟨rfl, rfl⟩ | ⟨other, lives⟩
    · have slot := orderly.slot j t here (replaceable can)
      by_cases transition : t.code.isTransition = true
      · rw [if_pos transition] at slot
        rw [if_pos transition]
        exact slot
      · rw [if_neg transition]
        refine (slotHere ?_).1
        rw [Bool.not_eq_true] at transition
        simpa [LightTask.replaceable, transition, fresh] using can
    · have slot := orderly.slot j u lives can
      by_cases transition : u.code.isTransition = true
      · rw [if_pos transition] at slot
        rw [if_pos transition]
        exact slot
      · rw [if_neg transition]
        exact slots j u other lives can (Bool.eq_false_iff.mpr transition)
  · intro j u lives window
    rcases live lives with ⟨rfl, rfl⟩ | ⟨-, lives⟩
    · exact (slotHere window).2
    · exact orderly.windowed j u lives window
  · intro j u lives works
    rcases live lives with ⟨rfl, rfl⟩ | ⟨other, lives⟩
    · exact worker works
    · exact workers j u other lives works
  · intro j u lives waits
    rcases live lives with ⟨rfl, rfl⟩ | ⟨other, lives⟩
    · exact waiter waits
    · exact waiting j u other lives waits
  · intro h held w waits a b first second
    obtain ⟨a', first, sameA⟩ := same first
    obtain ⟨b', second, sameB⟩ := same second
    rw [← sameA, ← sameB]
    exact front h held w waits a' b' first second
  · refine line.imp fun sorted a b first second => ?_
    obtain ⟨a', first, sameA⟩ := same first
    obtain ⟨b', second, sameB⟩ := same second
    rw [← sameA, ← sameB]
    exact sorted a' b' first second
  · intro j inLine
    exact (within j inLine).trans_eq (List.length_modify _ _ _).symm
  · intro entry member j u lives leftOver
    rcases live lives with ⟨-, rfl⟩ | ⟨-, lives⟩
    · exact orderly.before entry member i t here (left leftOver)
    · exact orderly.before entry member j u lives leftOver
  · exact orderly.ordered

theorem live?_within (here : s.live? i = some t) : i < s.tasks.length :=
  (List.getElem?_eq_some_iff.mp (live?_iff.mp here).1).1

/-- A task begins its debounce window. -/
theorem Orderly.openWindow (orderly : s.Orderly) (here : s.live? i = some t)
    (fresh : t.phase = .fresh) (debounced : t.code.isTransition = false) :
    (s.setPhase i .window).Orderly := by
  have can : t.replaceable = true := by simp [LightTask.replaceable, fresh]
  have slot := orderly.slot i t here can
  rw [debounced] at slot
  refine orderly.move here (fun _ => ?_) (fun _ => can) (fun _ => ⟨slot, debounced⟩)
    LightPhase.noConfusion ?_
    (fun works => by cases works) ?_ (fun waits => by cases waits) ?_ orderly.front orderly.line
    orderly.within
  · rw [LightTask.hasLeft, fresh]
  · intro j u _ lives can plain
    have slot := orderly.slot j u lives can
    rw [plain] at slot
    exact slot
  · exact fun j u _ lives => orderly.working j u lives
  · exact fun j u _ lives => orderly.queued j u lives

/-- A task of the last call stands at the end of the line for the lock. -/
theorem Orderly.joinLine (orderly : s.Orderly) (here : s.live? i = some t)
    (can : t.replaceable = true) (left : t.hasLeft = true) {pendingCommandTask : Option Nat}
    (slots : ∀ j u, j ≠ i → s.live? j = some u → u.replaceable = true →
      u.code.isTransition = false → pendingCommandTask = some j) :
    ({ s.setPhase i .queued with pendingCommandTask, waiters := s.waiters ++ [i] } : Light).Orderly := by
  -- no call is later than that of the task
  have last : ∀ j u, s.live? j = some u → u.call ≤ t.call := by
    intro j u lives
    have newest := orderly.newest i t here can
    have old := orderly.numbered j u lives
    omega
  refine orderly.move here (fun _ => left) (fun _ => can) (fun window => by cases window)
    LightPhase.noConfusion slots (fun works => by cases works) ?_ ?_ ?_ ?_ ?_ ?_
  · exact fun j u _ lives => orderly.working j u lives
  · exact fun _ => List.mem_append_right _ (List.mem_singleton_self i)
  · exact fun j u _ lives waits => List.mem_append_left _ (orderly.queued j u lives waits)
  · intro h held w waits a b first second
    rcases List.mem_append.mp waits with waits | new
    · exact orderly.front h held w waits a b first second
    · rw [List.mem_singleton.mp new, here] at second
      cases second
      exact last h a first
  · refine List.pairwise_append.mpr ⟨orderly.line, List.pairwise_singleton _ _, ?_⟩
    intro v _ w new a b first second
    rw [List.mem_singleton.mp new, here] at second
    cases second
    exact last v a first
  · intro j inLine
    rcases inLine with held | waits
    · exact orderly.within j (.inl held)
    · rcases List.mem_append.mp waits with waits | new
      · exact orderly.within j (.inr waits)
      · rw [List.mem_singleton.mp new]
        exact live?_within here

/-- A task takes the lock, which is free, before all others in the line. -/
theorem Orderly.takeLock (orderly : s.Orderly) (here : s.live? i = some t)
    (left : t.hasLeft = true) (free : s.holder = none) {pendingCommandTask : Option Nat}
    (slots : ∀ j u, j ≠ i → s.live? j = some u → u.replaceable = true →
      u.code.isTransition = false → pendingCommandTask = some j)
    {waiters : List Nat} (fewer : waiters.Sublist s.waiters)
    (waiting : ∀ j ∈ s.waiters, j ≠ i → j ∈ waiters)
    (first : ∀ j ∈ s.waiters, ∀ u, s.live? j = some u → t.call ≤ u.call)
    (body : List Instruction) :
    ({ s.setPhase i (.working body) with pendingCommandTask, holder := some i, waiters } :
      Light).Orderly := by
  refine orderly.move here (fun _ => left) ?_ (fun window => by cases window)
    LightPhase.noConfusion slots (fun _ => rfl) ?_ (fun waits => by cases waits) ?_ ?_
    (orderly.line.sublist fewer) ?_
  · intro can
    -- under the lock only a transition can still be replaced
    have transition : t.code.isTransition = true := by
      simpa [LightTask.replaceable] using can
    simp [LightTask.replaceable, transition]
  · intro j u _ lives works
    have held := orderly.working j u lives works
    rw [free] at held
    cases held
  · exact fun j u other lives waits => waiting j (orderly.queued j u lives waits) other
  · rintro h ⟨⟩ w waits a b head second
    rw [here] at head
    cases head
    exact first w (fewer.subset waits) b second
  · rintro j (⟨⟨⟩⟩ | waits)
    · exact live?_within here
    · exact orderly.within j (.inr (fewer.subset waits))

/-- The task under the lock goes on in another phase. -/
theorem Orderly.workOn (orderly : s.Orderly) (here : s.live? i = some t)
    (works : t.phase.isWorking = true) {left : List Instruction}
    (more : left ≠ [] → t.hasLeft = true) : (s.setPhase i (.working left)).Orderly := by
  refine orderly.move here ?_ ?_ (fun window => by cases window) LightPhase.noConfusion ?_
    (fun _ => orderly.working i t here works) ?_ (fun waits => by cases waits) ?_ orderly.front
    orderly.line orderly.within
  · intro leftOver
    exact more (by simpa [LightTask.hasLeft] using leftOver)
  · intro can
    have transition : t.code.isTransition = true := by
      simpa [LightTask.replaceable] using can
    simp [LightTask.replaceable, transition]
  · intro j u _ lives can plain
    have slot := orderly.slot j u lives can
    rw [plain] at slot
    exact slot
  · exact fun j u _ lives => orderly.working j u lives
  · exact fun j u _ lives => orderly.queued j u lives

/-- What the task under the lock sends comes before all that is still to be sent. -/
theorem Orderly.noteUnderLock (orderly : s.Orderly) (here : s.live? i = some t)
    (works : t.phase.isWorking = true) (left : t.hasLeft = true) (command : DeviceCommand) :
    (s.note t.call command).Orderly := by
  have held := orderly.working i t here works
  have first : ∀ j u, s.live? j = some u → u.hasLeft = true → t.call ≤ u.call := by
    intro j u lives more
    by_cases can : u.replaceable = true
    · have newest := orderly.newest j u lives can
      have old := orderly.numbered i t here
      omega
    · -- it stands in the line, or is the task itself
      cases phase : u.phase with
      | fresh => simp [LightTask.replaceable, phase] at can
      | window => simp [LightTask.replaceable, phase] at can
      | queued => exact orderly.front i held j (orderly.queued j u lives phase) t u here lives
      | working left =>
        have also := orderly.working j u lives (by rw [phase]; rfl)
        rw [held] at also
        cases also
        rw [here] at lives
        cases lives
        exact Nat.le_refl _
      | ended => exact absurd phase (live?_iff.mp lives).2.1
  refine ⟨orderly.numbered, ?_, orderly.newest, orderly.slot, orderly.windowed, orderly.working,
    orderly.queued, orderly.front, orderly.line, orderly.within, ?_, ?_⟩
  · intro entry member
    rcases List.mem_append.mp member with member | new
    · exact orderly.sentNumbered entry member
    · rw [List.mem_singleton.mp new]
      exact orderly.numbered i t here
  · intro entry member j u lives more
    rcases List.mem_append.mp member with member | new
    · exact orderly.before entry member j u lives more
    · rw [List.mem_singleton.mp new]
      exact first j u lives more
  · refine List.pairwise_append.mpr ⟨orderly.ordered, List.pairwise_singleton _ _, ?_⟩
    intro entry member last new
    rw [List.mem_singleton.mp new]
    exact orderly.before entry member i t here left

theorem setPhase_setPhase (s : Light) (i : Nat) (phase phase' : LightPhase) :
    (s.setPhase i phase).setPhase i phase' = s.setPhase i phase' := by
  unfold setPhase
  dsimp only
  rw [List.modify_modify_eq]
  rfl

/-- How a task goes on does not depend on where it was. -/
theorem proceed_setPhase (s : Light) (i call : Nat) (phase : LightPhase)
    (left : List Instruction) :
    (s.setPhase i phase).proceed i call left = s.proceed i call left := by
  induction left with
  | nil =>
    unfold proceed finish
    rw [setPhase_setPhase]
    rfl
  | cons instruction left ih =>
    have after (s' : Light) : (s'.setPhase i phase).setPhase i (.working left) =
        s'.setPhase i (.working left) := setPhase_setPhase s' i phase _
    -- each instruction sets the phase itself, or leaves that to the rest
    cases instruction with
    | send command => exact after (s.note call command)
    | leaveColorMode =>
      unfold proceed
      split
      · next color =>
        rw [if_pos (show s.state.mode = 1 from color)]
        exact after (s.note call _)
      · next white =>
        rw [if_neg (show ¬s.state.mode = 1 from white)]
        exact ih
    | matchBrightness brightness => exact after (s.note call _)
    | sleep interval => exact after s

/-- A task goes on under the lock. -/
theorem Orderly.proceed {left : List Instruction} (orderly : s.Orderly)
    (here : s.live? i = some t) (works : t.phase = .working left) :
    (s.proceed i t.call left).Orderly := by
  induction left generalizing s t with
  | nil => exact orderly.finish
  | cons instruction left ih =>
    have atWork : t.phase.isWorking = true := by rw [works]; rfl
    have more : t.hasLeft = true := by simp [LightTask.hasLeft, works]
    -- all that is sent is sent under the lock
    have send (command : DeviceCommand) :
        ((s.note t.call command).setPhase i (.working left)).Orderly :=
      (orderly.noteUnderLock here atWork more command).workOn here atWork fun _ => more
    cases instruction with
    | send command => exact send command
    | leaveColorMode =>
      unfold Light.proceed
      split
      · exact send _
      · rw [← proceed_setPhase s i t.call (.working left) left]
        exact ih (t := { t with phase := .working left })
          (orderly.workOn here atWork fun _ => more)
          (live?_setPhase_self here LightPhase.noConfusion) rfl
    | matchBrightness brightness => exact send _
    | sleep interval => exact orderly.workOn here atWork fun _ => more

/-- A task takes the lock and goes on. -/
theorem Orderly.enter (ops : FloatOps) (orderly : s.Orderly) (here : s.live? i = some t)
    (left : t.hasLeft = true) (free : s.holder = none) {pendingCommandTask : Option Nat}
    (slots : ∀ j u, j ≠ i → s.live? j = some u → u.replaceable = true →
      u.code.isTransition = false → pendingCommandTask = some j)
    {waiters : List Nat} (fewer : waiters.Sublist s.waiters)
    (waiting : ∀ j ∈ s.waiters, j ≠ i → j ∈ waiters)
    (first : ∀ j ∈ s.waiters, ∀ u, s.live? j = some u → t.call ≤ u.call) :
    (({ s with pendingCommandTask, waiters } : Light).enter ops i t).Orderly := by
  have taken := orderly.takeLock here left free slots fewer waiting first (t.code.body ops s.state)
  have lives : ({ s.setPhase i (.working (t.code.body ops s.state)) with
      pendingCommandTask, holder := some i, waiters } : Light).live? i =
      some { t with phase := .working (t.code.body ops s.state) } :=
    live?_setPhase_self here LightPhase.noConfusion
  rw [Light.enter, ← proceed_setPhase _ i t.call (.working (t.code.body ops s.state))]
  exact taken.proceed (t := { t with phase := .working (t.code.body ops s.state) }) lives rfl

/-- A task of the last call takes the lock or stands in the line. -/
theorem Orderly.acquire (ops : FloatOps) (orderly : s.Orderly) (here : s.live? i = some t)
    (can : t.replaceable = true) (left : t.hasLeft = true) {pendingCommandTask : Option Nat}
    (slots : ∀ j u, j ≠ i → s.live? j = some u → u.replaceable = true →
      u.code.isTransition = false → pendingCommandTask = some j) :
    (({ s with pendingCommandTask } : Light).acquire ops i t).Orderly := by
  unfold Light.acquire
  split
  · next free =>
    obtain ⟨free, cancelled⟩ := free
    refine orderly.enter ops here left free slots (List.Sublist.refl _)
      (fun _ waits _ => waits) ?_
    intro j waits u lives
    -- nobody who waits is alive
    have cancelling := List.all_eq_true.mp cancelled j waits
    obtain ⟨found, -, kept⟩ := live?_iff.mp lives
    rw [isCancelling, show ({ s with pendingCommandTask } : Light).tasks[j]? = some u from found,
      Option.map_some, Option.getD_some, kept] at cancelling
    cases cancelling
  · exact orderly.joinLine here can left slots

/-- Who is granted the lock comes before all that wait. -/
theorem Orderly.granted_first (orderly : s.Orderly) (here : s.live? i = some t)
    (longest : (s.waiters.find? fun other => !s.isCancelling other) = some i) :
    ∀ j ∈ s.waiters, ∀ u, s.live? j = some u → t.call ≤ u.call := by
  obtain ⟨-, before, after, split, cancelled⟩ := List.find?_eq_some_iff_append.mp longest
  intro j waits u lives
  have line := orderly.line
  rw [split] at line waits
  rcases List.mem_append.mp waits with earlier | later
  · have cancelling := cancelled j earlier
    obtain ⟨found, -, kept⟩ := live?_iff.mp lives
    rw [isCancelling, found, Option.map_some, Option.getD_some, kept] at cancelling
    cases cancelling
  · rcases List.mem_cons.mp later with rfl | later
    · rw [here] at lives
      cases lives
      exact Nat.le_refl _
    · have rest := (List.pairwise_append.mp line).2.1
      exact (List.pairwise_cons.mp rest).1 j later t u here lives

theorem ready?_iff {phase : LightPhase → Bool} (alive : phase .ended = false)
    (ready : s.ready? i phase = some t) : s.live? i = some t ∧ phase t.phase = true := by
  obtain ⟨found, accepted⟩ := Option.filter_eq_some_iff.mp ready
  rw [Bool.and_eq_true, Bool.not_eq_true'] at accepted
  refine ⟨live?_iff.mpr ⟨found, fun ended => ?_, accepted.2⟩, accepted.1⟩
  rw [ended, alive] at accepted
  cases accepted.1

/-- What every step preserves that is not hurried. -/
theorem Orderly.step {ops : FloatOps} {event : LightEvent} {s' : Light} (orderly : s.Orderly)
    (unhurried : s.Unhurried event) (stepped : s.step ops event = some s') : s'.Orderly := by
  cases event with
  | call call =>
    cases stepped
    exact orderly.perform unhurried
  | removed =>
    cases stepped
    exact orderly.cancelTransition.cancelPendingCommand
  | start task =>
    obtain ⟨t, ready, stepped⟩ := Option.bind_eq_some_iff.mp stepped
    cases stepped
    obtain ⟨here, fresh⟩ := ready?_iff rfl ready
    have fresh : t.phase = .fresh := of_decide_eq_true fresh
    split
    · exact orderly.acquire ops here (by simp [LightTask.replaceable, fresh])
        (by rw [LightTask.hasLeft, fresh]) fun j u _ lives can plain => by
          have slot := orderly.slot j u lives can
          rw [plain] at slot
          exact slot
    · next debounced =>
      exact orderly.openWindow here fresh (Bool.eq_false_iff.mpr debounced)
  | elapsed task =>
    obtain ⟨t, ready, stepped⟩ := Option.bind_eq_some_iff.mp stepped
    cases stepped
    obtain ⟨here, window⟩ := ready?_iff rfl ready
    have window : t.phase = .window := of_decide_eq_true window
    have can : t.replaceable = true := by simp [LightTask.replaceable, window]
    have mine := orderly.slot task t here can
    rw [orderly.windowed task t here window] at mine
    -- no other command waits for its window
    have alone : ∀ j u, j ≠ task → s.live? j = some u → u.replaceable = true →
        u.code.isTransition = false → none = some j := by
      intro j u other lives can plain
      have slot := orderly.slot j u lives can
      rw [plain] at slot
      exact absurd (Option.some.inj (slot.symm.trans mine)) other
    exact orderly.acquire ops here can (by rw [LightTask.hasLeft, window]) alone
  | granted task =>
    obtain ⟨t, ready, stepped⟩ := Option.bind_eq_some_iff.mp stepped
    obtain ⟨_, accepted, stepped⟩ := Option.bind_eq_some_iff.mp stepped
    cases stepped
    obtain ⟨here, queued⟩ := ready?_iff rfl ready
    have queued : t.phase = .queued := of_decide_eq_true queued
    have granted : s.holder = none ∧
        (s.waiters.find? fun other => !s.isCancelling other) = some task := by
      by_contra denied
      rw [guard, if_neg denied] at accepted
      cases accepted
    refine orderly.enter ops here (by rw [LightTask.hasLeft, queued]) granted.1 ?_
      List.erase_sublist (fun j waits other => (List.mem_erase_of_ne other).mpr waits)
      (orderly.granted_first here granted.2)
    intro j u _ lives can plain
    have slot := orderly.slot j u lives can
    rw [plain] at slot
    exact slot
  | resumed task =>
    obtain ⟨t, ready, stepped⟩ := Option.bind_eq_some_iff.mp stepped
    obtain ⟨here, works⟩ := ready?_iff rfl ready
    split at stepped
    · next left working =>
      cases stepped
      exact orderly.proceed here working
    · cases stepped
  | raised task =>
    obtain ⟨_, _, stepped⟩ := Option.bind_eq_some_iff.mp stepped
    cases stepped
    exact orderly.finish
  | cancelled task =>
    obtain ⟨_, _, stepped⟩ := Option.bind_eq_some_iff.mp stepped
    obtain ⟨_, _, stepped⟩ := Option.bind_eq_some_iff.mp stepped
    cases stepped
    exact orderly.finish
  | updated state =>
    cases stepped
    exact ⟨orderly.numbered, orderly.sentNumbered, orderly.newest, orderly.slot, orderly.windowed,
      orderly.working, orderly.queued, orderly.front, orderly.line, orderly.within, orderly.before,
      orderly.ordered⟩

end Steps

/-! ### Every run -/

/-- The entity after `__init__`. -/
def new (state : LightState) : Light := { state }

theorem orderly_new (state : LightState) : (new state).Orderly := by
  have none (i : Nat) : (new state).live? i = none := rfl
  constructor
  · exact fun i t lives => by rw [none] at lives; cases lives
  · exact fun entry member => by cases member
  · exact fun i t lives => by rw [none] at lives; cases lives
  · exact fun i t lives => by rw [none] at lives; cases lives
  · exact fun i t lives => by rw [none] at lives; cases lives
  · exact fun i t lives => by rw [none] at lives; cases lives
  · exact fun i t lives => by rw [none] at lives; cases lives
  · exact fun h held => by cases held
  · exact List.Pairwise.nil
  · exact fun i inLine => by rcases inLine with held | waits; cases held; cases waits
  · exact fun entry member => by cases member
  · exact List.Pairwise.nil

/-- Once a command of a later call was sent, no command of an earlier one is sent. -/
def LaterWins (s : Light) : Prop := s.sent.Pairwise fun a b => a.1 ≤ b.1

/-- Exact arithmetic. -/
def exactOps : FloatOps where
  tenths duration := (⌊duration * 10⌋).toNat
  interpolate start target i steps :=
    roundHalfEven (start + (target - start : Rat) * (i / steps : Rat))

def turnRed : LightCall := .turnOn { rgbColor := some ⟨255, 0, 0⟩ }

/-- The light turns red, and is turned off when that is done. -/
def patientRun : List LightEvent :=
  [.call turnRed, .start 0, .elapsed 0, .resumed 0, .resumed 0, .call (.turnOff none)]

/-- The light is turned off while its colour is being sent. -/
def hurriedRun : List LightEvent :=
  [.call turnRed, .start 0, .elapsed 0, .call (.turnOff none), .resumed 0]

end Light

end TuyaBleMesh
