import TuyaBleMesh.Transport.Lifecycle

/-!
# How send tasks end

A send task ends with a completed request or with an exception that nobody
handles. Its `finally` runs either way, but the future is resolved on the first
way only.
-/

namespace TuyaBleMesh

namespace SendTask

/-- The error is retried after, and no retry is left. -/
def Exhausted (task : SendTask) (error : PyError) : Prop :=
  error.isTransient = true ∧ task.attempt ≥ task.request.retryPolicy.maxRetries

variable {task : SendTask} {now : Rat}

theorem started_exhausted {error : PyError} :
    (task.started now).Exhausted error ↔ task.Exhausted error := by
  rw [Exhausted, started_attempt, started_request, Exhausted]

theorem started_lastError : (task.started now).lastError = task.lastError := by
  unfold started
  split <;> rfl

theorem started_startTime_le (began : task.phase = .created ∨ task.startTime ≤ now) :
    (task.started now).startTime ≤ now := by
  unfold started
  split
  · exact le_refl now
  · next running => exact began.resolve_left running

theorem latencyMs_nonneg (began : task.startTime ≤ now) : 0 ≤ task.latencyMs now :=
  mul_nonneg (sub_nonneg.mpr began) (by norm_num)

/-- `CommandResult` refuses the final result exactly when no attempt has failed. -/
theorem giveUp_reports (began : task.startTime ≤ now) :
    (∃ result, task.giveUp now = .report result) ↔ task.lastError ≠ none := by
  unfold giveUp
  cases failure : task.lastError with
  | none =>
    rw [commandResult_without_error]
    exact ⟨fun ⟨_, reported⟩ => (by cases reported), fun absent => absurd rfl absent⟩
  | some error =>
    obtain ⟨result, valid⟩ := commandResult_failure (latencyMs_nonneg began) error
    rw [valid]
    exact ⟨fun _ => nofun, fun _ => ⟨result, rfl⟩⟩

/-- A task that a failure ends reports it when its retries are exhausted. -/
theorem failed_reports {error : PyError} {sample : Rat} (began : task.startTime ≤ now)
    (ended : (task.failed now error sample).task? = none) :
    (∃ result, task.failed now error sample = .report result) ↔ task.Exhausted error := by
  unfold failed at ended ⊢
  unfold Exhausted
  by_cases transient : error.isTransient = true
  · rw [if_pos transient] at ended ⊢
    dsimp only at ended ⊢
    by_cases last : task.attempt ≥ task.request.retryPolicy.maxRetries
    · rw [if_pos last] at ended ⊢
      have reports : (∃ result, (task.afterFailure error).giveUp now = .report result) ↔ _ :=
        giveUp_reports began
      exact ⟨fun _ => ⟨transient, last⟩, fun _ => reports.mpr nofun⟩
    · rw [if_neg last] at ended ⊢
      split
      · exact ⟨fun ⟨_, reported⟩ => (by cases reported), fun exhausted => absurd exhausted.2 last⟩
      · next delay valid =>
        rw [valid] at ended
        cases ended
  · rw [if_neg transient] at ended ⊢
    exact ⟨fun ⟨_, reported⟩ => (by cases reported), fun exhausted => absurd exhausted.1 transient⟩

/-- The ways of a task to end with a result: the callback returns, the last attempt allowed
fails with an error that is retried after, or the loop stops after a failed attempt. -/
def Answered (task : SendTask) (s : Dispatcher) : DispatcherEvent → Prop
  | .advance _ sequence _ =>
    if !s.running || task.request.isExpired s.now then task.lastError ≠ none
    else
      match sequence with
      | .error error => task.Exhausted error
      -- the registration has failed
      | .ok _ => task.attempt ≥ task.request.retryPolicy.maxRetries
  | .answer _ (.ok _) _ => True
  | .answer _ (.error error) _ => task.Exhausted error
  | _ => False

theorem advance_reports {s : Dispatcher} {future : FutureId} {sequence : Except PyError Nat}
    {sample : Rat} {done : SendStep} (began : task.phase = .created ∨ task.startTime ≤ s.now)
    (advanced : task.advance s.running s.now s.correlation sequence sample = some done)
    (ended : done.task? = none) :
    (∃ result, done = .report result) ↔ task.Answered s (.advance future sequence sample) := by
  have start := started_startTime_le began
  obtain ⟨_, rfl⟩ := advance_eq advanced
  unfold tryCall at ended ⊢
  unfold Answered
  rw [started_request] at ended ⊢
  split
  · next stopped =>
    rw [giveUp_reports start, started_lastError]
  · next goes =>
    rw [if_neg goes] at ended
    cases sequence with
    | error error => exact (failed_reports start ended).trans started_exhausted
    | ok sequence =>
      dsimp only at ended ⊢
      by_cases expects : (task.started s.now).expectsResponse = true
      · rw [if_pos expects] at ended ⊢
        rcases s.correlation.register_cases task.request sequence with
          ⟨_, conflict⟩ | ⟨correlation, _, registered, _⟩
        · rw [conflict] at ended ⊢
          refine (failed_reports start ended).trans (started_exhausted.trans ?_)
          exact ⟨fun exhausted => exhausted.2, fun last => ⟨rfl, last⟩⟩
        · rw [registered] at ended
          cases ended
      · rw [if_neg expects] at ended
        cases ended

theorem answered_reports {s : Dispatcher} {future : FutureId} {outcome : Except PyError Bytes}
    {sample : Rat} {done : SendStep} (began : task.phase = .created ∨ task.startTime ≤ s.now)
    (answered : task.answered s.now outcome sample = some done) (ended : done.task? = none) :
    (∃ result, done = .report result) ↔ task.Answered s (.answer future outcome sample) := by
  unfold SendTask.answered at answered
  split at answered
  · next sequence calling =>
    have start : task.startTime ≤ s.now := by
      apply began.resolve_left
      rw [calling]
      exact nofun
    cases outcome with
    | error error =>
      cases answered
      exact failed_reports start ended
    | ok responseData =>
      have accepted : ∃ result, commandResult task.request.requestId .success (some responseData)
          (task.latencyMs s.now) task.retriesUsed none = .ok result :=
        commandResult_success (latencyMs_nonneg start)
      obtain ⟨result, valid⟩ := accepted
      dsimp only at answered
      rw [valid] at answered
      cases answered
      exact ⟨fun _ => trivial, fun _ => ⟨result, rfl⟩⟩
  · cases answered

theorem SendEvent.reports {s : Dispatcher} {future : FutureId} {event : DispatcherEvent}
    {done : SendStep} (began : task.phase = .created ∨ task.startTime ≤ s.now)
    (sent : SendEvent s future task event done) (ended : done.task? = none) :
    (∃ result, done = .report result) ↔ task.Answered s event := by
  cases sent with
  | advance advanced => exact advance_reports began advanced ended
  | answer answered => exact answered_reports began answered ended

end SendTask

namespace Dispatcher

section Completion

variable {s : Dispatcher} {future : FutureId} {request : CommandRequest} {result : CommandResult}

theorem settle_done (target : FutureId) :
    ((s.settle target result).futures future).done = true ↔
      (s.futures future).done = true ∨ future = target := by
  unfold settle
  split
  · next done =>
    exact ⟨.inl, fun either => either.elim id fun same => same ▸ done⟩
  · dsimp only
    rw [Function.update_apply]
    split
    · next same => exact ⟨fun _ => .inr same, fun _ => rfl⟩
    · next different => exact ⟨.inl, fun either => either.resolve_right different⟩

/-- A completed request has its future resolved when it is still filed under its id. -/
theorem completeRequest_done :
    ((s.completeRequest request result).futures future).done = true ↔
      (s.futures future).done = true ∨ s.resultFutures.get? request.requestId = some future := by
  simp only [completeRequest, record]
  cases filed : s.resultFutures.get? request.requestId with
  | none => simp
  | some target =>
    dsimp only
    rw [settle_done, Option.some.injEq, eq_comm (a := future)]

/-- What the end of a send task leaves: the request is not in flight, and its future is done
if it was, or if a result was reported and the future is filed under its id. -/
theorem perform_ended {done : SendStep} (ended : done.task? = none) :
    (s.perform future request done).inFlight.get? request.requestId = none ∧
      (((s.perform future request done).futures future).done = true ↔
        (s.futures future).done = true ∨
          s.resultFutures.get? request.requestId = some future ∧
            ∃ result, done = .report result) := by
  have popped : ∀ t : Dispatcher,
      (t.endTask future request).inFlight.get? request.requestId = none := by
    intro t
    exact (OrderedDict.get?_erase _ _ _).trans (if_pos rfl)
  cases done with
  | call task correlation sequence => cases ended
  | retry task => cases ended
  | report result =>
    refine ⟨popped _, ?_⟩
    have resolved : ((s.completeRequest request result).futures future).done = true ↔ _ :=
      completeRequest_done
    refine resolved.trans ?_
    exact or_congr_right ⟨fun filed => ⟨filed, result, rfl⟩, And.left⟩
  | escape error =>
    refine ⟨popped _, ?_⟩
    exact ⟨.inl, fun either => either.elim id fun ⟨_, _, reported⟩ => (by cases reported)⟩

end Completion

/-- The send task of `future` ends in the step from `s` to `s'`. -/
def TaskEnds (s s' : Dispatcher) (future : FutureId) (task : SendTask) : Prop :=
  s.tasks.get? future = some task ∧ s'.tasks.get? future = none

instance (s s' : Dispatcher) (future : FutureId) (task : SendTask) :
    Decidable (TaskEnds s s' future task) :=
  inferInstanceAs (Decidable (s.tasks.get? future = some task ∧ s'.tasks.get? future = none))

/-- Only a step of its own ends a send task. -/
theorem TaskEnds.sent {s s' : Dispatcher} {event : DispatcherEvent} {future : FutureId}
    {task : SendTask} (ends : TaskEnds s s' future task) (stepped : s.step event = some s') :
    ∃ done, SendEvent s future task event done ∧ done.task? = none ∧
      s' = s.perform future task.request done := by
  obtain ⟨found, gone⟩ := ends
  cases custody_cases stepped with
  | quiet tasks submitted calls unsent now =>
    rw [tasks, found] at gone
    cases gone
  | submit request raises isEnqueue tasks submitted calls unsent now =>
    rw [tasks, found] at gone
    cases gone
  | launch entry tasks submitted calls unsent now running =>
    rw [tasks, OrderedDict.get?_set] at gone
    split at gone
    · cases gone
    · rw [found] at gone
      cases gone
  | send other task' done found' sent after =>
    rw [after, perform_get?] at gone
    split at gone
    · next same =>
      subst same
      cases found.symm.trans found'
      exact ⟨done, sent, gone, after⟩
    · rw [found] at gone
      cases gone

/-- In every run: whenever a send task ends, its request is not in flight any more and its
future is done, exactly when every task that ends has its future done already, or filed under
its request and an answer for it. -/
theorem ended_tasks_resolved_iff (limits : Limits) (now : Rat) (events : List DispatcherEvent) :
    (∀ s event s' future task,
      dispatcherSystem.StepOf (Dispatcher.new limits now) events s event s' →
      TaskEnds s s' future task →
        s'.inFlight.get? task.request.requestId = none ∧ (s'.futures future).done = true) ↔
    ∀ s event s' future task,
      dispatcherSystem.StepOf (Dispatcher.new limits now) events s event s' →
      TaskEnds s s' future task →
        (s.futures future).done = true ∨
          s.resultFutures.get? task.request.requestId = some future ∧ task.Answered s event := by
  have pointwise : ∀ s event s' future task,
      dispatcherSystem.StepOf (Dispatcher.new limits now) events s event s' →
      TaskEnds s s' future task →
        s'.inFlight.get? task.request.requestId = none ∧ ((s'.futures future).done = true ↔
          (s.futures future).done = true ∨
            s.resultFutures.get? task.request.requestId = some future ∧ task.Answered s event) := by
    rintro s event s' future task ⟨before, after, _, reached, stepped⟩ ends
    have custody := reachable_custody reached
    obtain ⟨done, sent, ended, rfl⟩ := ends.sent stepped
    have reports := SendTask.SendEvent.reports (custody.began future task ends.1) sent ended
    obtain ⟨popped, resolved⟩ := s.perform_ended ended
    rw [reports] at resolved
    exact ⟨popped, resolved⟩
  constructor
  · intro resolved s event s' future task occurs ends
    exact (pointwise s event s' future task occurs ends).2.mp
      (resolved s event s' future task occurs ends).2
  · intro answered s event s' future task occurs ends
    obtain ⟨popped, resolved⟩ := pointwise s event s' future task occurs ends
    exact ⟨popped, resolved.mpr (answered s event s' future task occurs ends)⟩

/-- A request whose deadline passes before the first step of its send task is left hanging:
the task is gone, and nothing will resolve the future. -/
theorem lateTask_hangs :
    ∃ s ∈ dispatcherSystem.exec (Dispatcher.new {} 0)
        [.start, .enqueue (sampleRequest 7 none) false, .iterate,
          .get ⟨sampleRequest 7 none, 0⟩ false, .wait 60],
      ∃ s' ∈ s.step (.advance 0 (.ok 1) 0),
        TaskEnds s s' 0 { request := sampleRequest 7 none } ∧
          (s'.futures 0).done = false ∧ s'.queue = [] ∧ s'.tasks.size = 0 ∧
            s'.correlation.pending.size = 0 := by
  decide +kernel

end Dispatcher

end TuyaBleMesh
