import Mathlib.Data.List.Perm.Subperm
import TuyaBleMesh.Transport.Dispatcher

/-!
# The life of a request

A submitted request waits in the queue or with the worker, then lives in one send
task, and is gone. What one step does to the requests in custody, in four cases,
and what follows for every run.
-/

namespace TuyaBleMesh

def Worker.holds : Worker → List Submission
  | .waiting entry => [entry]
  | _ => []

namespace Dispatcher

/-- The entries that have no send task yet. -/
def unsent (s : Dispatcher) : List Submission := s.worker.holds ++ s.queue

/-- How often `_send_callback` was called for the request of a future. -/
def callsOf (s : Dispatcher) (future : FutureId) : Nat :=
  s.calls.countP fun call => call.1 = future

/-! ### Frames -/

section Frames

variable (s : Dispatcher)

theorem settle_frame (future : FutureId) (result : CommandResult) :
    ∃ futures, s.settle future result = { s with futures } := by
  unfold settle
  split
  · exact ⟨s.futures, rfl⟩
  · exact ⟨_, rfl⟩

/-- A completion concerns the books and the future only. -/
theorem completeRequest_frame (request : CommandRequest) (result : CommandResult) :
    ∃ metrics recorded history appended resultFutures futures,
      s.completeRequest request result =
        { s with metrics, recorded, history, appended, resultFutures, futures } := by
  simp only [completeRequest]
  split
  · exact ⟨_, _, _, _, _, _, rfl⟩
  · next future _ =>
    rw [(settle_frame _ future result).choose_spec]
    exact ⟨_, _, _, _, _, _, rfl⟩

private theorem foldl_complete_frame {now : Rat} (stale : List (ExpiredRequest now)) :
    ∃ metrics recorded history appended resultFutures futures,
      stale.foldl (fun s expired => s.completeRequest expired.val (timeoutResult expired)) s =
        { s with metrics, recorded, history, appended, resultFutures, futures } := by
  induction stale generalizing s with
  | nil => exact ⟨_, _, _, _, _, _, rfl⟩
  | cons expired stale ih =>
    obtain ⟨_, _, _, _, _, _, first⟩ :=
      s.completeRequest_frame expired.val (timeoutResult expired)
    obtain ⟨_, _, _, _, _, _, rest⟩ := ih (s.completeRequest expired.val (timeoutResult expired))
    rw [List.foldl_cons, rest, first]
    exact ⟨_, _, _, _, _, _, rfl⟩

theorem expireStale_frame :
    ∃ metrics recorded history appended resultFutures futures,
      s.expireStale = { s with
        correlation := (s.correlation.expireStale s.now).2
        metrics, recorded, history, appended, resultFutures, futures } := by
  obtain ⟨_, _, _, _, _, _, frame⟩ := foldl_complete_frame
    { s with correlation := (s.correlation.expireStale s.now).2 } (s.correlation.stale s.now)
  exact ⟨_, _, _, _, _, _, frame⟩

private theorem foldl_settle_frame (entries : List (RequestId × FutureId)) :
    ∃ futures, entries.foldl
      (fun s (requestId, future) => s.settle future (cancelledResult requestId)) s =
        { s with futures } := by
  induction entries generalizing s with
  | nil => exact ⟨s.futures, rfl⟩
  | cons entry entries ih =>
    obtain ⟨futures, first⟩ := s.settle_frame entry.2 (cancelledResult entry.1)
    obtain ⟨futures', rest⟩ := ih (s.settle entry.2 (cancelledResult entry.1))
    refine ⟨futures', ?_⟩
    rw [List.foldl_cons]
    exact rest.trans (by rw [first])

theorem cancelAll_frame :
    ∃ futures, s.cancelAll = { s with
      futures
      resultFutures := .empty
      inFlight := .empty
      inFlightPerDevice := .empty
      correlation := .empty } := by
  obtain ⟨futures, frame⟩ := s.foldl_settle_frame s.resultFutures.entries
  refine ⟨futures, ?_⟩
  rw [cancelAll, frame]

end Frames

end Dispatcher

/-! ### Steps of a send task -/

namespace SendTask

/-- The task after its first instruction, which reads the clock. -/
def started (task : SendTask) (now : Rat) : SendTask :=
  if task.phase = .created then { task with startTime := now } else task

/-- `_send_callback` has been called in the current attempt. -/
def called (task : SendTask) : Nat :=
  match task.phase with
  | .calling _ => 1
  | _ => 0

/-- The task as the failure of an attempt leaves it. -/
def afterFailure (task : SendTask) (error : PyError) : SendTask :=
  { task with lastError := some error, retriesUsed := task.retriesUsed + 1 }

/-- What the steps of a task have in common, whatever their cause. -/
inductive Moves (task : SendTask) (now : Rat) : SendStep → Prop
  | call (correlation : CorrelationEngine) (sequence : Nat) (fresh : task.called = 0) :
    Moves task now
      (.call { task.started now with phase := .calling sequence } correlation sequence)
  | retry (error : PyError) (delay : Rat)
      (more : task.attempt < task.request.retryPolicy.maxRetries) :
    Moves task now (.retry { (task.started now).afterFailure error with
      attempt := task.attempt + 1, phase := .backoff delay })
  | report (result : CommandResult) : Moves task now (.report result)
  | escape (error : PyError) : Moves task now (.escape error)

variable {task : SendTask} {now : Rat} {done : SendStep}

@[simp] theorem started_request : (task.started now).request = task.request := by
  unfold started
  split <;> rfl

@[simp] theorem started_attempt : (task.started now).attempt = task.attempt := by
  unfold started
  split <;> rfl

theorem started_created (created : task.phase = .created) :
    task.started now = { task with startTime := now } := if_pos created

theorem started_of_ne (running : task.phase ≠ .created) : task.started now = task := if_neg running

theorem giveUp_moves (other : SendTask) : task.Moves now (other.giveUp now) := by
  unfold giveUp
  split
  · exact .report _
  · exact .escape _

theorem failed_moves (error : PyError) (sample : Rat) :
    task.Moves now ((task.started now).failed now error sample) := by
  unfold failed
  split
  · dsimp only
    split
    · exact giveUp_moves _
    · next more =>
      rw [started_attempt, started_request, ge_iff_le, Nat.not_le] at more
      split
      · exact .escape _
      · next delay _ =>
        have moved : task.Moves now _ := .retry error delay more
        rwa [← started_attempt] at moved
  · exact .escape _

theorem tryCall_moves (fresh : task.called = 0) (running : Bool) (correlation : CorrelationEngine)
    (sequence : Except PyError Nat) (sample : Rat) :
    task.Moves now ((task.started now).tryCall running now correlation sequence sample) := by
  unfold tryCall
  split
  · exact giveUp_moves _
  · cases sequence with
    | error error => exact failed_moves error sample
    | ok sequence =>
      dsimp only
      split
      · split
        · exact failed_moves _ sample
        · exact .call _ sequence fresh
      · exact .call _ sequence fresh

theorem advance_eq {running : Bool} {correlation : CorrelationEngine}
    {sequence : Except PyError Nat} {sample : Rat}
    (advanced : task.advance running now correlation sequence sample = some done) :
    task.called = 0 ∧ done = (task.started now).tryCall running now correlation sequence sample := by
  unfold advance at advanced
  split at advanced
  · next created =>
    cases advanced
    exact ⟨by rw [called, created], by rw [started_created created]⟩
  · cases advanced
  · next delay asleep =>
    cases advanced
    exact ⟨by rw [called, asleep], by rw [started_of_ne (by rw [asleep]; exact nofun)]⟩

theorem advance_moves {running : Bool} {correlation : CorrelationEngine}
    {sequence : Except PyError Nat} {sample : Rat}
    (advanced : task.advance running now correlation sequence sample = some done) :
    task.Moves now done := by
  obtain ⟨fresh, rfl⟩ := advance_eq advanced
  exact tryCall_moves fresh running correlation sequence sample

theorem answered_moves {outcome : Except PyError Bytes} {sample : Rat}
    (answered : task.answered now outcome sample = some done) : task.Moves now done := by
  unfold SendTask.answered at answered
  split at answered
  · next sequence calling =>
    have moved : ∀ error, task.Moves now (task.failed now error sample) := by
      intro error
      have moved : task.Moves now _ := failed_moves error sample
      rwa [started_of_ne (by rw [calling]; exact nofun)] at moved
    split at answered
    · next error =>
      cases answered
      exact moved error
    · split at answered
      · next result _ =>
        cases answered
        exact .report result
      · next error _ =>
        cases answered
        exact moved error
  · cases answered

end SendTask

/-! ### Steps of the dispatcher -/

/-- The event is a step of the send task of `future`. -/
def DispatcherEvent.isOwn (future : FutureId) : DispatcherEvent → Bool
  | .advance target _ _ => target = future
  | .answer target _ _ => target = future
  | _ => false

/-- A step of the send task of `future` that comes to `done`. -/
inductive SendEvent (s : Dispatcher) (future : FutureId) (task : SendTask) :
    DispatcherEvent → SendStep → Prop
  | advance {sequence : Except PyError Nat} {sample : Rat} {done : SendStep}
      (advanced : task.advance s.running s.now s.correlation sequence sample = some done) :
      SendEvent s future task (.advance future sequence sample) done
  | answer {outcome : Except PyError Bytes} {sample : Rat} {done : SendStep}
      (answered : task.answered s.now outcome sample = some done) :
      SendEvent s future task (.answer future outcome sample) done

theorem SendEvent.isOwn {s : Dispatcher} {future : FutureId} {task : SendTask}
    {event : DispatcherEvent} {done : SendStep} (sent : SendEvent s future task event done)
    (target : FutureId) : event.isOwn target = decide (future = target) := by
  cases sent with
  | advance advanced => rfl
  | answer answered => rfl

theorem SendEvent.step_eq {s : Dispatcher} {future : FutureId} {task : SendTask}
    {event : DispatcherEvent} {done : SendStep} (sent : SendEvent s future task event done)
    (found : s.tasks.get? future = some task) :
    s.step event = some (s.perform future task.request done) := by
  cases sent with
  | advance advanced =>
    simp only [Dispatcher.step, found, Option.bind_eq_bind, Option.bind_some, advanced]
    rfl
  | answer answered =>
    simp only [Dispatcher.step, found, Option.bind_eq_bind, Option.bind_some, answered]
    rfl

/-! A send task goes on only while it lives. -/

theorem Dispatcher.step_advance {s s' : Dispatcher} {future : FutureId}
    {sequence : Except PyError Nat} {sample : Rat}
    (stepped : s.step (.advance future sequence sample) = some s') :
    ∃ task done, s.tasks.get? future = some task ∧
      SendEvent s future task (.advance future sequence sample) done ∧
        s' = s.perform future task.request done := by
  simp only [Dispatcher.step, Option.bind_eq_bind, Option.bind_eq_some_iff, Option.pure_def,
    Option.some.injEq] at stepped
  obtain ⟨task, found, done, advanced, after⟩ := stepped
  exact ⟨task, done, found, .advance advanced, after.symm⟩

theorem Dispatcher.step_answer {s s' : Dispatcher} {future : FutureId}
    {outcome : Except PyError Bytes} {sample : Rat}
    (stepped : s.step (.answer future outcome sample) = some s') :
    ∃ task done, s.tasks.get? future = some task ∧
      SendEvent s future task (.answer future outcome sample) done ∧
        s' = s.perform future task.request done := by
  simp only [Dispatcher.step, Option.bind_eq_bind, Option.bind_eq_some_iff, Option.pure_def,
    Option.some.injEq] at stepped
  obtain ⟨task, found, done, answered, after⟩ := stepped
  exact ⟨task, done, found, .answer answered, after.symm⟩

theorem DispatcherEvent.own_step {s s' : Dispatcher} {future : FutureId} {event : DispatcherEvent}
    (own : event.isOwn future = true) (stepped : s.step event = some s') :
    ∃ task done, s.tasks.get? future = some task ∧ SendEvent s future task event done ∧
      s' = s.perform future task.request done := by
  -- only two events move a send task
  cases event with
  | advance target sequence sample =>
    cases of_decide_eq_true own
    exact Dispatcher.step_advance stepped
  | answer target outcome sample =>
    cases of_decide_eq_true own
    exact Dispatcher.step_answer stepped
  | _ => cases own

namespace Dispatcher

/-- The steps of the dispatcher, each with the guard it passed. -/
inductive Steps (s : Dispatcher) : DispatcherEvent → Dispatcher → Prop
  | wait (duration : Rat) (forward : 0 ≤ duration) :
    s.Steps (.wait duration) { s with now := s.now + duration }
  | start : s.Steps .start s.start
  | stop : s.Steps .stop s.stop
  | stopResumes (halting : s.stopping ≠ 0) :
    s.Steps .stopResumes { s.cancelAll with stopping := s.stopping - 1 }
  | enqueue (request : CommandRequest) (raises : Bool)
      (collides : raises = true →
        ∃ entry ∈ s.queue, entry.incomparable ⟨request, s.submitted.length⟩ = true) :
    s.Steps (.enqueue request raises) (s.enqueue request raises).2
  | abandon (future : FutureId) (pending : s.futures future = .pending)
      (below : future < s.submitted.length) :
    s.Steps (.abandon future)
      { s with futures := Function.update s.futures future .abandoned }
  | iterate (looping : s.worker = .looping) : s.Steps .iterate s.iterate
  | pollTimeout (polling : s.worker = .polling) :
    s.Steps .pollTimeout { s with worker := .looping }
  /-- Two entries of the heap cannot be compared, and the worker ends with the exception. -/
  | fail (entry : Submission) (polling : s.worker = .polling) (member : entry ∈ s.queue)
      (collides : ∃ a ∈ s.queue, ∃ b ∈ s.queue, a.incomparable b = true) :
    s.Steps (.get entry true) { s with
      queue := s.queue.erase entry
      heapIntact := false
      worker := .ended (some .typeError) }
  | take (entry : Submission) (polling : s.worker = .polling) (member : entry ∈ s.queue)
      (least : s.heapIntact = true → ∀ other ∈ s.queue, entry.precedes other = true) :
    s.Steps (.get entry false) (s.take entry)
  | recheck (entry : Submission) (waiting : s.worker = .waiting entry) :
    s.Steps .recheck (s.recheck entry)
  | send {event : DispatcherEvent} (future : FutureId) (task : SendTask) (done : SendStep)
      (found : s.tasks.get? future = some task) (sent : SendEvent s future task event done) :
    s.Steps event (s.perform future task.request done)

theorem step_cases {s s' : Dispatcher} {event : DispatcherEvent}
    (stepped : s.step event = some s') : s.Steps event s' := by
  cases event with
  | wait duration =>
    simp only [step] at stepped
    -- each guard of `step` that fails leaves no step
    split at stepped
    · next forward =>
      cases stepped
      exact .wait duration forward
    · cases stepped
  | start =>
    cases stepped
    exact .start
  | stop =>
    cases stepped
    exact .stop
  | stopResumes =>
    simp only [step] at stepped
    split at stepped
    · cases stepped
    · next halting =>
      cases stepped
      exact .stopResumes halting
  | enqueue request raises =>
    simp only [step] at stepped
    split at stepped
    · next collides =>
      cases stepped
      exact .enqueue request raises collides
    · cases stepped
  | abandon future =>
    simp only [step] at stepped
    split at stepped
    · next open_ =>
      cases stepped
      exact .abandon future open_.1 open_.2
    · cases stepped
  | iterate =>
    simp only [step] at stepped
    split at stepped
    · next looping =>
      cases stepped
      exact .iterate looping
    · cases stepped
  | pollTimeout =>
    simp only [step] at stepped
    split at stepped
    · next polling =>
      cases stepped
      exact .pollTimeout polling
    · cases stepped
  | get entry raises =>
    simp only [step] at stepped
    split at stepped
    · next polls =>
      obtain ⟨polling, member, least⟩ := polls
      split at stepped
      · next fails =>
        subst fails
        split at stepped
        · next collides =>
          cases stepped
          exact .fail entry polling member collides
        · cases stepped
      · next quiet =>
        rw [Bool.not_eq_true] at quiet
        subst quiet
        cases stepped
        exact .take entry polling member least
    · cases stepped
  | recheck =>
    simp only [step] at stepped
    split at stepped
    · next entry waiting =>
      cases stepped
      exact .recheck entry waiting
    · cases stepped
  | advance future sequence sample =>
    obtain ⟨task, done, found, sent, rfl⟩ := step_advance stepped
    exact .send future task done found sent
  | answer future outcome sample =>
    obtain ⟨task, done, found, sent, rfl⟩ := step_answer stepped
    exact .send future task done found sent

end Dispatcher

/-- What a step does to the requests in custody. -/
inductive CustodyStep (s : Dispatcher) (event : DispatcherEvent) (s' : Dispatcher) : Prop
  /-- At most some unsent entries are dropped. -/
  | quiet (tasks : s'.tasks = s.tasks) (submitted : s'.submitted = s.submitted)
      (calls : s'.calls = s.calls) (unsent : s'.unsent.Subperm s.unsent) (now : s.now ≤ s'.now)
  | submit (request : CommandRequest) (raises : Bool) (isEnqueue : event = .enqueue request raises)
      (tasks : s'.tasks = s.tasks)
      (submitted : s'.submitted = s.submitted ++ [⟨request, s.submitted.length⟩])
      (calls : s'.calls = s.calls)
      (unsent : s'.unsent = s.unsent ++ [⟨request, s.submitted.length⟩]) (now : s'.now = s.now)
  | launch (entry : Submission)
      (tasks : s'.tasks = s.tasks.set entry.future { request := entry.request })
      (submitted : s'.submitted = s.submitted) (calls : s'.calls = s.calls)
      (unsent : (entry :: s'.unsent).Subperm s.unsent) (now : s'.now = s.now)
      (running : s.running = true)
  | send (future : FutureId) (task : SendTask) (done : SendStep)
      (found : s.tasks.get? future = some task) (sent : SendEvent s future task event done)
      (after : s' = s.perform future task.request done)

namespace Dispatcher

section Steps

variable {s s' : Dispatcher} {event : DispatcherEvent}

theorem unsent_congr (worker : s'.worker = s.worker) (queue : s'.queue = s.queue) :
    s'.unsent = s.unsent := by
  rw [unsent, worker, queue]
  rfl

theorem unsent_of_queue (queue : s'.queue = s.queue) (idle : s'.worker.holds = []) :
    s'.unsent.Subperm s.unsent := by
  rw [unsent, idle, queue]
  exact (List.sublist_append_right _ _).subperm

/-- What the poll returns was in the custody of the queue. -/
theorem polled_held (polling : s.worker = .polling) {entry : Submission}
    (member : entry ∈ s.queue) : (entry :: s.queue.erase entry).Subperm s.unsent := by
  rw [unsent, polling]
  exact (List.perm_cons_erase member).symm.subperm

/-- The entry that waits for capacity is in the custody of the worker. -/
theorem waiting_held {entry : Submission} (waiting : s.worker = .waiting entry) :
    (entry :: s.queue).Subperm s.unsent := by
  rw [unsent, waiting]
  exact List.Subperm.refl _

private theorem quiet_of_frame (tasks : s'.tasks = s.tasks) (submitted : s'.submitted = s.submitted)
    (calls : s'.calls = s.calls) (queue : s'.queue = s.queue) (now : s'.now = s.now)
    (worker : s'.worker = s.worker ∨ s'.worker.holds = []) :
    CustodyStep s event s' := by
  refine .quiet tasks submitted calls ?_ (le_of_eq now.symm)
  rcases worker with same | idle
  · rw [unsent_congr same queue]
  · exact unsent_of_queue queue idle

/-- The worker deals with an entry it has taken out of the custody of `s₀`. -/
private theorem awaitCapacity_custody {entry : Submission} {s₀ : Dispatcher}
    (tasks : s.tasks = s₀.tasks) (submitted : s.submitted = s₀.submitted)
    (calls : s.calls = s₀.calls) (now : s.now = s₀.now) (running : s.running = s₀.running)
    (held : (entry :: s.queue).Subperm s₀.unsent) :
    CustodyStep s₀ event (s.awaitCapacity entry) := by
  have rest : s.queue.Subperm s₀.unsent := (List.sublist_cons_self _ _).subperm.trans held
  unfold awaitCapacity
  -- waiting keeps the entry, a stopped worker drops it, and else it is launched
  split
  · exact .quiet tasks submitted calls held (le_of_eq now.symm)
  · split
    · exact .quiet tasks submitted calls rest (le_of_eq now.symm)
    · next goes =>
      rw [Bool.not_eq_true', Bool.not_eq_false] at goes
      refine .launch entry ?_ submitted calls held now (running ▸ goes)
      show s.tasks.set _ _ = _
      rw [tasks]

private theorem timeOut_custody {entry : Submission} {s₀ : Dispatcher} (tasks : s.tasks = s₀.tasks)
    (submitted : s.submitted = s₀.submitted) (calls : s.calls = s₀.calls) (now : s.now = s₀.now)
    (held : (entry :: s.queue).Subperm s₀.unsent)
    (expired : entry.request.isExpired s.now = true) :
    CustodyStep s₀ event (s.timeOut entry expired) := by
  have rest : s.queue.Subperm s₀.unsent := (List.sublist_cons_self _ _).subperm.trans held
  obtain ⟨_, _, _, _, _, _, frame⟩ :=
    s.completeRequest_frame entry.request (timeoutResult ⟨entry.request, expired⟩)
  rw [timeOut, frame]
  exact .quiet tasks submitted calls rest (le_of_eq now.symm)

theorem enqueue_custody (request : CommandRequest) (raises : Bool) :
    CustodyStep s (.enqueue request raises) (s.enqueue request raises).2 := by
  unfold enqueue
  split
  · exact quiet_of_frame rfl rfl rfl rfl rfl (.inl rfl)
  · split
    · exact quiet_of_frame rfl rfl rfl rfl rfl (.inl rfl)
    -- the new entry joins the end of the queue
    · refine .submit request raises rfl rfl rfl rfl ?_ rfl
      exact (List.append_assoc _ _ _).symm

theorem stop_custody : CustodyStep s event s.stop := by
  obtain ⟨_, frame⟩ := ({ s with running := false } : Dispatcher).cancelAll_frame
  unfold stop
  split
  · exact quiet_of_frame rfl rfl rfl rfl rfl (.inl rfl)
  · dsimp only
    split
    · rw [frame]
      exact quiet_of_frame rfl rfl rfl rfl rfl (.inl rfl)
    · rw [frame]
      exact quiet_of_frame rfl rfl rfl rfl rfl (.inl rfl)
    · rw [frame]
      exact quiet_of_frame rfl rfl rfl rfl rfl (.inl rfl)
    · exact quiet_of_frame rfl rfl rfl rfl rfl (.inl rfl)
    · exact quiet_of_frame rfl rfl rfl rfl rfl (.inr rfl)

/-- Every step is one of the four. -/
theorem custody_cases (stepped : s.step event = some s') : CustodyStep s event s' := by
  cases step_cases stepped with
  | wait duration forward =>
    exact .quiet rfl rfl rfl (List.Subperm.refl _) (le_add_of_nonneg_right forward)
  | start =>
    unfold start
    split
    · exact quiet_of_frame rfl rfl rfl rfl rfl (.inl rfl)
    · exact quiet_of_frame rfl rfl rfl rfl rfl (.inr rfl)
  | stop => exact stop_custody
  | stopResumes halting =>
    obtain ⟨_, frame⟩ := s.cancelAll_frame
    rw [frame]
    exact quiet_of_frame rfl rfl rfl rfl rfl (.inl rfl)
  | enqueue request raises collides => exact enqueue_custody request raises
  | abandon future pending below => exact quiet_of_frame rfl rfl rfl rfl rfl (.inl rfl)
  | iterate looping =>
    obtain ⟨_, _, _, _, _, _, frame⟩ := s.expireStale_frame
    unfold iterate
    split
    · rw [frame]
      exact quiet_of_frame rfl rfl rfl rfl rfl (.inr rfl)
    · exact quiet_of_frame rfl rfl rfl rfl rfl (.inr rfl)
  | pollTimeout polling => exact quiet_of_frame rfl rfl rfl rfl rfl (.inr rfl)
  | fail entry polling member collides =>
    -- the entry is dropped
    refine .quiet rfl rfl rfl ?_ (le_refl _)
    exact (List.sublist_cons_self _ _).subperm.trans (polled_held polling member)
  | take entry polling member least =>
    have held := polled_held polling member
    simp only [take]
    split
    · next expired =>
      refine timeOut_custody (s := { s with queue := s.queue.erase entry }) ?_ ?_ ?_ ?_ ?_ expired
      exacts [rfl, rfl, rfl, rfl, held]
    · exact awaitCapacity_custody rfl rfl rfl rfl rfl held
  | recheck entry waiting =>
    have held := waiting_held waiting
    unfold recheck
    split
    · -- `stop` was called while the worker slept
      exact quiet_of_frame rfl rfl rfl rfl rfl (.inr rfl)
    · split
      · exact timeOut_custody rfl rfl rfl rfl held _
      · exact awaitCapacity_custody rfl rfl rfl rfl rfl held
  | send future task done found sent => exact .send future task done found sent rfl

end Steps

end Dispatcher

/-! ### Custody -/

/-- The task that is left after a step. -/
def SendStep.task? : SendStep → Option SendTask
  | .call task _ _ => some task
  | .retry task => some task
  | .report _ => none
  | .escape _ => none

/-- The call that is made, as it is recorded. -/
def SendStep.made (future : FutureId) : SendStep → List (FutureId × Nat)
  | .call _ _ sequence => [(future, sequence)]
  | .retry _ => []
  | .report _ => []
  | .escape _ => []

/-- A task that goes on works on the same request and has attempts left. -/
theorem SendTask.Moves.left {task task' : SendTask} {now : Rat} {done : SendStep}
    (moved : task.Moves now done) (left : done.task? = some task')
    (attempts : task.attempt ≤ task.request.retryPolicy.maxRetries)
    (began : task.phase = .created ∨ task.startTime ≤ now) :
    task'.request = task.request ∧ task'.attempt ≤ task.request.retryPolicy.maxRetries ∧
      task'.startTime ≤ now := by
  have start : (task.started now).startTime ≤ now := by
    unfold SendTask.started
    split
    · exact le_refl now
    · next running => exact began.resolve_left running
  cases moved with
  | call correlation sequence fresh =>
    cases left
    exact ⟨SendTask.started_request, by simpa using attempts, start⟩
  | retry error delay more =>
    cases left
    exact ⟨SendTask.started_request, more, start⟩
  | report result => cases left
  | escape error => cases left

theorem SendEvent.moves {s : Dispatcher} {future : FutureId} {task : SendTask}
    {event : DispatcherEvent} {done : SendStep} (sent : SendEvent s future task event done) :
    task.Moves s.now done := by
  cases sent with
  | advance advanced => exact SendTask.advance_moves advanced
  | answer answered => exact SendTask.answered_moves answered

/-- A call is made by a task that wakes up in time, while the dispatcher runs. -/
theorem SendEvent.call_live {s : Dispatcher} {future : FutureId} {task task' : SendTask}
    {event : DispatcherEvent} {correlation : CorrelationEngine} {sequence : Nat}
    (sent : SendEvent s future task event (.call task' correlation sequence)) :
    (∃ sequence sample, event = .advance future sequence sample) ∧ task.called = 0 ∧
      s.running = true ∧ task.request.isExpired s.now = false := by
  have fresh : task.called = 0 := by
    cases sent.moves with
    | call _ _ fresh => exact fresh
  cases sent with
  | advance advanced =>
    obtain ⟨_, calls⟩ := SendTask.advance_eq advanced
    unfold SendTask.tryCall at calls
    rw [SendTask.started_request] at calls
    split at calls
    -- stopped or expired: it gives up, and calls nothing
    · unfold SendTask.giveUp at calls
      split at calls <;> cases calls
    · next goes =>
      rw [Bool.or_eq_true, Bool.not_eq_true', not_or, Bool.not_eq_false, Bool.not_eq_true] at goes
      exact ⟨⟨_, _, rfl⟩, fresh, goes⟩
  | answer answered =>
    -- an answer comes to a call that was made
    unfold SendTask.answered at answered
    split at answered
    · next calling =>
      rw [SendTask.called, calling] at fresh
      cases fresh
    · cases answered

namespace Dispatcher

section Perform

variable (s : Dispatcher) (future : FutureId) (request : CommandRequest) (done : SendStep)

/-- A step of a send task leaves the queue, the worker and the submissions alone. -/
theorem perform_frame :
    (s.perform future request done).unsent = s.unsent ∧
      (s.perform future request done).submitted = s.submitted ∧
      (s.perform future request done).now = s.now ∧
      (s.perform future request done).running = s.running := by
  cases done with
  | call task correlation sequence => exact ⟨rfl, rfl, rfl, rfl⟩
  | retry task => exact ⟨rfl, rfl, rfl, rfl⟩
  -- the completion touches the books only
  | report result =>
    obtain ⟨_, _, _, _, _, _, frame⟩ := s.completeRequest_frame request result
    rw [perform, frame]
    exact ⟨rfl, rfl, rfl, rfl⟩
  | escape error => exact ⟨rfl, rfl, rfl, rfl⟩

theorem perform_calls :
    (s.perform future request done).calls = s.calls ++ done.made future := by
  cases done with
  | call task correlation sequence => rfl
  | retry task => exact (List.append_nil _).symm
  | report result =>
    obtain ⟨_, _, _, _, _, _, frame⟩ := s.completeRequest_frame request result
    rw [perform, frame]
    exact (List.append_nil _).symm
  | escape error => exact (List.append_nil _).symm

theorem perform_get? (other : FutureId) :
    (s.perform future request done).tasks.get? other =
      if other = future then done.task? else s.tasks.get? other := by
  cases done with
  | call task correlation sequence => exact OrderedDict.get?_set _ _ _ _
  | retry task => exact OrderedDict.get?_set _ _ _ _
  | report result =>
    obtain ⟨_, _, _, _, _, _, frame⟩ := s.completeRequest_frame request result
    rw [perform, frame]
    exact OrderedDict.get?_erase _ _ _
  | escape error => exact OrderedDict.get?_erase _ _ _

end Perform

/-! ### Running -/

section Running

variable {s s' : Dispatcher} {event : DispatcherEvent}

private theorem awaitCapacity_running (entry : Submission) :
    (s.awaitCapacity entry).running = s.running := by
  unfold awaitCapacity
  split
  · rfl
  · split
    · rfl
    · rfl

private theorem timeOut_running (entry : Submission)
    (expired : entry.request.isExpired s.now = true) :
    (s.timeOut entry expired).running = s.running := by
  obtain ⟨_, _, _, _, _, _, frame⟩ :=
    s.completeRequest_frame entry.request (timeoutResult ⟨entry.request, expired⟩)
  rw [timeOut, frame]

/-- Only `start` and `stop` change whether the dispatcher runs. -/
theorem running_eq (unstarted : event ≠ .start) (unstopped : event ≠ .stop)
    (stepped : s.step event = some s') : s'.running = s.running := by
  cases step_cases stepped with
  | start => exact absurd rfl unstarted
  | stop => exact absurd rfl unstopped
  | stopResumes halting =>
    obtain ⟨_, frame⟩ := s.cancelAll_frame
    rw [frame]
  | enqueue request raises collides =>
    unfold enqueue
    split
    · rfl
    · split
      · rfl
      · rfl
  | iterate looping =>
    obtain ⟨_, _, _, _, _, _, frame⟩ := s.expireStale_frame
    unfold iterate
    split
    · rw [frame]
    · rfl
  | take entry polling member least =>
    simp only [take]
    split
    · exact timeOut_running entry _
    · exact awaitCapacity_running entry
  | recheck entry waiting =>
    unfold recheck
    split
    · rfl
    · split
      · exact timeOut_running entry _
      · exact awaitCapacity_running entry
  | send future task done found sent =>
    exact (s.perform_frame future task.request done).2.2.2
  | _ => rfl

theorem running_kept (unstopped : event ≠ .stop) (stepped : s.step event = some s')
    (running : s.running = true) : s'.running = true := by
  by_cases starts : event = .start
  · subst starts
    cases stepped
    unfold start
    rw [if_pos running]
    exact running
  · rw [running_eq starts unstopped stepped, running]

end Running

/-! ### Every request in one place -/

/-- Each submitted request is in one place at most, and its send task within its limits. -/
structure Custody (s : Dispatcher) : Prop where
  numbered : ∀ (i : Nat) entry, s.submitted[i]? = some entry → entry.future = i
  unsent_mem : ∀ entry ∈ s.unsent, entry ∈ s.submitted
  unsent_nodup : (s.unsent.map Submission.future).Nodup
  task_mem : ∀ future task, s.tasks.get? future = some task →
    ⟨task.request, future⟩ ∈ s.submitted
  apart : ∀ entry ∈ s.unsent, s.tasks.get? entry.future = none
  began : ∀ future task, s.tasks.get? future = some task →
    task.phase = .created ∨ task.startTime ≤ s.now
  attempts : ∀ future task, s.tasks.get? future = some task →
    task.attempt ≤ task.request.retryPolicy.maxRetries

section Custody

variable {s s' : Dispatcher} {event : DispatcherEvent}

theorem Custody.future_lt (custody : s.Custody) {entry : Submission}
    (member : entry ∈ s.submitted) : entry.future < s.submitted.length := by
  obtain ⟨i, found⟩ := List.getElem?_of_mem member
  rw [custody.numbered i entry found]
  exact (List.getElem?_eq_some_iff.mp found).1

/-- A future belongs to one submission. -/
theorem Custody.unique (custody : s.Custody) {a b : Submission} (first : a ∈ s.submitted)
    (second : b ∈ s.submitted) (same : a.future = b.future) : a = b := by
  obtain ⟨i, found⟩ := List.getElem?_of_mem first
  obtain ⟨j, found'⟩ := List.getElem?_of_mem second
  rw [custody.numbered i a found, custody.numbered j b found'] at same
  rw [same, found'] at found
  exact (Option.some.inj found).symm

private theorem Custody.quiet (custody : s.Custody) (tasks : s'.tasks = s.tasks)
    (submitted : s'.submitted = s.submitted) (unsent : s'.unsent.Subperm s.unsent)
    (now : s.now ≤ s'.now) : s'.Custody where
  numbered := by
    rw [submitted]
    exact custody.numbered
  unsent_mem entry member := by
    rw [submitted]
    exact custody.unsent_mem entry (unsent.subset member)
  unsent_nodup := by
    obtain ⟨kept, perm, sublist⟩ := unsent
    exact (perm.map _).nodup_iff.mp (custody.unsent_nodup.sublist (sublist.map _))
  task_mem := by
    rw [tasks, submitted]
    exact custody.task_mem
  apart entry member := by
    rw [tasks]
    exact custody.apart entry (unsent.subset member)
  began future task found := by
    rw [tasks] at found
    exact (custody.began future task found).imp_right fun before => le_trans before now
  attempts := by
    rw [tasks]
    exact custody.attempts

private theorem Custody.submit (custody : s.Custody) {request : CommandRequest}
    (tasks : s'.tasks = s.tasks)
    (submitted : s'.submitted = s.submitted ++ [⟨request, s.submitted.length⟩])
    (unsent : s'.unsent = s.unsent ++ [⟨request, s.submitted.length⟩]) (now : s'.now = s.now) :
    s'.Custody where
  numbered i entry found := by
    rw [submitted, List.getElem?_append] at found
    split at found
    · exact custody.numbered i entry found
    -- its number is the place it takes
    · next last =>
      obtain ⟨single, same⟩ := List.getElem?_eq_some_iff.mp found
      rw [List.length_singleton] at single
      rw [List.getElem_singleton] at same
      rw [← same]
      show s.submitted.length = i
      omega
  unsent_mem entry member := by
    rw [submitted]
    rw [unsent] at member
    rcases List.mem_append.mp member with old | new
    · exact List.mem_append_left _ (custody.unsent_mem entry old)
    · exact List.mem_append_right _ new
  unsent_nodup := by
    rw [unsent, List.map_append]
    refine custody.unsent_nodup.append (List.nodup_singleton _) ?_
    -- the new number is above those given before
    rw [List.map_singleton, List.disjoint_singleton]
    intro member
    obtain ⟨entry, old, same⟩ := List.mem_map.mp member
    have below := custody.future_lt (custody.unsent_mem entry old)
    rw [same] at below
    exact lt_irrefl _ below
  task_mem future task found := by
    rw [tasks] at found
    rw [submitted]
    exact List.mem_append_left _ (custody.task_mem future task found)
  apart entry member := by
    rw [tasks]
    rw [unsent] at member
    rcases List.mem_append.mp member with old | new
    · exact custody.apart entry old
    · rw [List.mem_singleton.mp new]
      -- a task of that number would belong to a submission made before
      by_contra present
      obtain ⟨task, found⟩ := Option.ne_none_iff_exists'.mp present
      exact lt_irrefl _ (custody.future_lt (custody.task_mem _ task found))
  began := by
    rw [tasks, now]
    exact custody.began
  attempts := by
    rw [tasks]
    exact custody.attempts

private theorem Custody.launch (custody : s.Custody) {entry : Submission}
    (tasks : s'.tasks = s.tasks.set entry.future { request := entry.request })
    (submitted : s'.submitted = s.submitted) (unsent : (entry :: s'.unsent).Subperm s.unsent)
    (now : s'.now = s.now) : s'.Custody := by
  have held : entry ∈ s.unsent := unsent.subset List.mem_cons_self
  -- the entry is one of the unsent, and no other has its future
  have distinct : ((entry :: s'.unsent).map Submission.future).Nodup := by
    obtain ⟨kept, perm, sublist⟩ := unsent
    exact (perm.map _).nodup_iff.mp (custody.unsent_nodup.sublist (sublist.map _))
  rw [List.map_cons, List.nodup_cons] at distinct
  have rest : s'.unsent.Subperm s.unsent := (List.sublist_cons_self _ _).subperm.trans unsent
  refine
    { numbered := ?_, unsent_mem := ?_, unsent_nodup := distinct.2, task_mem := ?_, apart := ?_,
      began := ?_, attempts := ?_ }
  · rw [submitted]
    exact custody.numbered
  · intro other member
    rw [submitted]
    exact custody.unsent_mem other (rest.subset member)
  · intro future task found
    rw [tasks, OrderedDict.get?_set] at found
    rw [submitted]
    split at found
    · next same =>
      cases found
      rw [same]
      exact custody.unsent_mem entry held
    · exact custody.task_mem future task found
  · intro other member
    have different : other.future ≠ entry.future := by
      intro same
      exact distinct.1 (same ▸ List.mem_map_of_mem member)
    rw [tasks, OrderedDict.get?_set, if_neg different]
    exact custody.apart other (rest.subset member)
  · intro future task found
    rw [tasks, OrderedDict.get?_set] at found
    split at found
    · cases found
      exact .inl rfl
    · rw [now]
      exact custody.began future task found
  · intro future task found
    rw [tasks, OrderedDict.get?_set] at found
    split at found
    · cases found
      exact Nat.zero_le _
    · exact custody.attempts future task found

private theorem Custody.send (custody : s.Custody) {future : FutureId} {task : SendTask}
    {done : SendStep} (found : s.tasks.get? future = some task)
    (sent : SendEvent s future task event done) : (s.perform future task.request done).Custody := by
  obtain ⟨unsent, submitted, now, _⟩ := s.perform_frame future task.request done
  -- what is left of the task is still about its request, within its attempts
  have left : ∀ task', done.task? = some task' → task'.request = task.request ∧
      task'.attempt ≤ task.request.retryPolicy.maxRetries ∧ task'.startTime ≤ s.now := by
    intro task' left
    exact sent.moves.left left (custody.attempts future task found)
      (custody.began future task found)
  refine
    { numbered := ?_, unsent_mem := ?_, unsent_nodup := ?_, task_mem := ?_, apart := ?_,
      began := ?_, attempts := ?_ }
  · rw [submitted]
    exact custody.numbered
  · rw [unsent, submitted]
    exact custody.unsent_mem
  · rw [unsent]
    exact custody.unsent_nodup
  · intro other task' found'
    rw [perform_get?] at found'
    rw [submitted]
    split at found'
    · next same =>
      rw [same, (left task' found').1]
      exact custody.task_mem future task found
    · exact custody.task_mem other task' found'
  · intro entry member
    rw [unsent] at member
    have absent := custody.apart entry member
    have different : entry.future ≠ future := by
      intro same
      rw [same, found] at absent
      cases absent
    rw [perform_get?, if_neg different]
    exact absent
  · intro other task' found'
    rw [perform_get?] at found'
    rw [now]
    split at found'
    · exact .inr (left task' found').2.2
    · exact custody.began other task' found'
  · intro other task' found'
    rw [perform_get?] at found'
    split at found'
    · obtain ⟨request, attempt, _⟩ := left task' found'
      rw [request]
      exact attempt
    · exact custody.attempts other task' found'

theorem Custody.step (custody : s.Custody) (stepped : s.step event = some s') : s'.Custody := by
  cases custody_cases stepped with
  | quiet tasks submitted calls unsent now => exact custody.quiet tasks submitted unsent now
  | submit request raises isEnqueue tasks submitted calls unsent now =>
    exact custody.submit tasks submitted unsent now
  | launch entry tasks submitted calls unsent now running =>
    exact custody.launch tasks submitted unsent now
  | send future task done found sent after =>
    rw [after]
    exact custody.send found sent

theorem custody_new (limits : Limits) (now : Rat) : (Dispatcher.new limits now).Custody where
  numbered i entry found := by cases found
  unsent_mem entry member := by cases member
  unsent_nodup := List.nodup_nil
  task_mem future task found := by cases found
  apart entry member := by cases member
  began future task found := by cases found
  attempts future task found := by cases found

/-- In every run. -/
theorem reachable_custody {limits : Limits} {now : Rat} {events : List DispatcherEvent}
    (ran : dispatcherSystem.exec (Dispatcher.new limits now) events = some s) : s.Custody := by
  apply dispatcherSystem.exec_invariant_of_step Custody _ (custody_new limits now) ran
  intro m event m' custody stepped
  exact custody.step stepped

end Custody

end Dispatcher

end TuyaBleMesh
