import TuyaBleMesh.Transport.Books

/-!
# Cancelled requests

`stop` resolves the futures of all requests that are open, but it leaves the queue
and the send tasks as they are. What a later `start` finds there is sent.
-/

namespace TuyaBleMesh

/-- The event sets the dispatcher running, or ends a `stop`. -/
def DispatcherEvent.resumes : DispatcherEvent → Bool
  | .start => true
  | .stopResumes => true
  | _ => false

namespace Dispatcher

/-- The future is resolved with status cancelled, which only `stop` does. -/
def Cancelled (s : Dispatcher) (future : FutureId) : Prop :=
  ∃ result, s.futures future = .resolved result ∧ result.status = .cancelled

/-- The request is still in the queue, or with the worker. -/
def Queued (s : Dispatcher) (future : FutureId) : Prop :=
  ∃ entry ∈ s.unsent, entry.future = future ∧ entry.request.isExpired s.now = false

/-- The send task of the request has a call to make or may make one. -/
def Alive (s : Dispatcher) (future : FutureId) : Prop :=
  ∃ task, s.tasks.get? future = some task ∧ task.request.isExpired s.now = false ∧
    (task.called = 0 ∨ task.attempt < task.request.retryPolicy.maxRetries)

/-- The dispatcher may still call `_send_callback` for the request when it runs. -/
def Sendable (s : Dispatcher) (future : FutureId) : Prop := s.Queued future ∨ s.Alive future

section Sendable

variable {s s' : Dispatcher} {event : DispatcherEvent} {future : FutureId}

theorem not_expired_earlier {request : CommandRequest} {now now' : Rat} (later : now ≤ now')
    (live : request.isExpired now' = false) : request.isExpired now = false := by
  rw [← Bool.not_eq_true, CommandRequest.isExpired_iff] at live ⊢
  exact fun expired => live (le_trans expired later)

/-- A step makes no request sendable again, except one that it submits. -/
theorem sendable_before (custody : s.Custody) (stepped : s.step event = some s')
    (sendable : s'.Sendable future) : s.Sendable future ∨
      future = s.submitted.length ∧ ∃ request raises, event = .enqueue request raises := by
  cases custody_cases stepped with
  | quiet tasks submitted calls unsent now =>
    rcases sendable with ⟨entry, member, own, live⟩ | ⟨task, found, live, calls⟩
    · exact .inl (.inl ⟨entry, unsent.subset member, own, not_expired_earlier now live⟩)
    · rw [tasks] at found
      exact .inl (.inr ⟨task, found, not_expired_earlier now live, calls⟩)
  | submit request raises isEnqueue tasks submitted calls unsent now =>
    rcases sendable with ⟨entry, member, own, live⟩ | ⟨task, found, live, calls⟩
    · rw [unsent] at member
      rw [now] at live
      rcases List.mem_append.mp member with old | new
      · exact .inl (.inl ⟨entry, old, own, live⟩)
      · cases List.mem_singleton.mp new
        exact .inr ⟨own.symm, request, raises, isEnqueue⟩
    · rw [tasks] at found
      rw [now] at live
      exact .inl (.inr ⟨task, found, live, calls⟩)
  | launch entry tasks submitted calls unsent now running =>
    rcases sendable with ⟨other, member, own, live⟩ | ⟨task, found, live, calls⟩
    · rw [now] at live
      exact .inl (.inl ⟨other, unsent.subset (List.mem_cons_of_mem _ member), own, live⟩)
    · rw [now] at live
      rw [tasks, OrderedDict.get?_set] at found
      split at found
      · next same =>
        cases found
        exact .inl (.inl ⟨entry, unsent.subset List.mem_cons_self, same.symm, live⟩)
      · exact .inl (.inr ⟨task, found, live, calls⟩)
  | send target task done found sent after =>
    obtain ⟨unsent, _, now, _⟩ := s.perform_frame target task.request done
    rw [after] at sendable
    left
    rcases sendable with ⟨entry, member, own, live⟩ | ⟨task', found', live, calls⟩
    · rw [unsent] at member
      rw [now] at live
      exact .inl ⟨entry, member, own, live⟩
    · rw [perform_get?] at found'
      rw [now] at live
      split at found'
      · next same =>
        subst same
        obtain ⟨own, _⟩ := sent.moves.left found' (custody.attempts _ task found)
          (custody.began _ task found)
        rw [own] at live calls
        refine .inr ⟨task, found, live, ?_⟩
        cases sent.moves with
        | call correlation sequence fresh => exact .inl fresh
        | retry error delay more => exact .inr more
        | report result => cases found'
        | escape error => cases found'
      · exact .inr ⟨task', found', live, calls⟩

end Sendable

/-! ### Which futures are cancelled -/

section Futures

variable {s s' : Dispatcher} {event : DispatcherEvent} {future : FutureId}

private theorem cancelled_of_completed {completions : List (CommandRequest × CommandResult)}
    (books : s'.books = completions.foldl Books.complete s.books)
    (uncancelled : ∀ completion ∈ completions, completion.2.status ≠ .cancelled)
    (cancelled : s'.Cancelled future) : s.Cancelled future := by
  obtain ⟨result, resolved, status⟩ := cancelled
  have futures : s'.futures future = (completions.foldl Books.complete s.books).futures future :=
    congrArg (fun books => books.futures future) books
  rw [resolved] at futures
  rcases s.books.completeAll_futures completions with same | ⟨completion, member, completed⟩
  · rw [same] at futures
    exact ⟨result, futures.symm, status⟩
  · rw [completed] at futures
    cases futures
    exact absurd status (uncancelled completion member)

/-- Nothing but `stop` cancels a request. -/
theorem cancelled_before (unstopped : event ≠ .stop ∧ event ≠ .stopResumes)
    (stepped : s.step event = some s') (cancelled : s'.Cancelled future) : s.Cancelled future := by
  have kept : s'.futures = s.futures → s.Cancelled future := by
    intro same
    obtain ⟨result, resolved, status⟩ := cancelled
    exact ⟨result, same ▸ resolved, status⟩
  cases books_cases stepped with
  | same books submitted registers keeps => exact kept (congrArg Books.futures books)
  | reject request raises isEnqueue expired books submitted correlation =>
    exact kept (congrArg Books.futures books)
  | submit request raises isEnqueue books submitted correlation =>
    exact kept (congrArg Books.futures books)
  | abandon target pending issued books submitted correlation =>
    obtain ⟨result, resolved, status⟩ := cancelled
    have futures : s'.futures future = Function.update s.futures target .abandoned future :=
      congrArg (fun books => books.futures future) books
    rw [resolved] at futures
    by_cases same : future = target
    · rw [same, Function.update_self] at futures
      cases futures
    · rw [Function.update_of_ne same] at futures
      exact ⟨result, futures.symm, status⟩
  | sweep isIterate running books submitted correlation =>
    refine cancelled_of_completed books ?_ cancelled
    intro completion member
    obtain ⟨expired, _, rfl⟩ := mem_sweepCompletions.mp member
    exact nofun
  | timeOut entry expired held tasks books submitted correlation =>
    have books' : s'.books =
        [(entry.request, timeoutResult ⟨entry.request, expired⟩)].foldl Books.complete s.books :=
      books
    refine cancelled_of_completed books' ?_ cancelled
    intro completion member
    cases List.mem_singleton.mp member
    exact nofun
  | report target task result found sent books submitted correlation =>
    have books' : s'.books = [(task.request, result)].foldl Books.complete s.books := books
    refine cancelled_of_completed books' ?_ cancelled
    intro completion member
    cases List.mem_singleton.mp member
    exact (SendTask.sendEvent_own sent result rfl).2
  | cancel isStop submitted correlation => exact absurd isStop (by simp [unstopped])

end Futures

/-! ### Runs across a restart -/

/-- When the dispatcher starts, no request that was cancelled may still be sent; and a `stop`
that goes on while the dispatcher runs again finds no request open that may still be sent. -/
def LeavesNothing (s : Dispatcher) : DispatcherEvent → Prop
  | .start => s.running = false → ∀ future, s.Sendable future → ¬ s.Cancelled future
  | .stopResumes => s.running = true → ∀ future, s.Sendable future →
      ∀ requestId, s.resultFutures.get? requestId = some future → s.futures future ≠ .pending
  | _ => True

/-- The step calls `_send_callback` for no request that is cancelled. -/
def SparesCancelled (s : Dispatcher) (event : DispatcherEvent) : Prop :=
  ∀ s' future sequence, s.step event = some s' → s'.calls = s.calls ++ [(future, sequence)] →
    ¬ s.Cancelled future

/-- While the dispatcher runs, what it may send is not cancelled. -/
structure Clean (s : Dispatcher) : Prop where
  custody : s.Custody
  issued : s.Issued
  uncancelled : s.running = true → ∀ future, s.Sendable future → ¬ s.Cancelled future

section Clean

variable {s s' : Dispatcher} {event : DispatcherEvent}

theorem not_running_after_stop (stepped : s.step .stop = some s') : s'.running = false := by
  cases stepped
  obtain ⟨_, frame⟩ := ({ s with running := false } : Dispatcher).cancelAll_frame
  unfold stop
  split
  · next idle => simpa using idle
  · dsimp only
    split
    · rw [frame]
    · rw [frame]
    · rw [frame]
    · rfl
    · rfl

theorem Clean.step (clean : s.Clean) (leaves : s.LeavesNothing event)
    (stepped : s.step event = some s') : s'.Clean := by
  refine ⟨clean.custody.step stepped, clean.issued.step stepped, ?_⟩
  intro running future sendable cancelled
  by_cases isStop : event = .stop
  · subst isStop
    rw [not_running_after_stop stepped] at running
    cases running
  · rcases sendable_before clean.custody stepped sendable with before | ⟨rfl, request, raises, rfl⟩
    · by_cases resumes : event = .stopResumes
      · subst resumes
        have unstarted : DispatcherEvent.stopResumes ≠ .start := by
          intro same
          cases same
        rw [running_eq unstarted isStop stepped] at running
        have old := clean.uncancelled running future before
        cases step_cases stepped with
        | stopResumes halting =>
          obtain ⟨result, resolved, status⟩ := cancelled
          rcases s.cancelAll_futures future with same | ⟨pending, requestId, filed⟩
          · exact old ⟨result, same.symm.trans resolved, status⟩
          · exact leaves running future before requestId filed pending
        | send future task done found sent => cases sent
      · have cancelled' := cancelled_before ⟨isStop, resumes⟩ stepped cancelled
        by_cases starts : event = .start
        · subst starts
          cases idle : s.running with
          | false => exact leaves idle future before cancelled'
          | true => exact clean.uncancelled idle future before cancelled'
        · rw [running_eq starts isStop stepped] at running
          exact clean.uncancelled running future before cancelled'
    · -- a new future is open
      have cancelled' := cancelled_before (by constructor <;> rintro ⟨⟩) stepped cancelled
      obtain ⟨result, resolved, _⟩ := cancelled'
      have fresh := clean.issued.unissued _ (le_refl _)
      cases resolved.symm.trans fresh

/-- A call is made for a request that may be sent. -/
theorem call_sendable {future : FutureId} {task task' : SendTask}
    {correlation : CorrelationEngine} {sequence : Nat} (found : s.tasks.get? future = some task)
    (sent : SendEvent s future task event (.call task' correlation sequence)) :
    s.running = true ∧ s.Sendable future := by
  obtain ⟨_, fresh, running, live⟩ := sent.call_live
  exact ⟨running, .inr ⟨task, found, live, .inl fresh⟩⟩

theorem Clean.spares (clean : s.Clean) : s.SparesCancelled event := by
  intro s' future sequence stepped called
  have longer : s'.calls ≠ s.calls := by
    rw [called]
    simp
  cases custody_cases stepped with
  | quiet tasks submitted calls unsent now => exact absurd calls longer
  | submit request raises isEnqueue tasks submitted calls unsent now => exact absurd calls longer
  | launch entry tasks submitted calls unsent now running => exact absurd calls longer
  | send target task done found sent after =>
    subst after
    have same := (s.perform_calls target task.request done).symm.trans called
    cases done with
    | call task' correlation number =>
      obtain ⟨running, sendable⟩ := call_sendable found sent
      cases List.append_cancel_left same
      exact clean.uncancelled running future sendable
    | retry task' => cases List.append_cancel_left same
    | report result => cases List.append_cancel_left same
    | escape error => cases List.append_cancel_left same

end Clean

/-- In every run that leaves nothing cancelled behind when it starts again, `_send_callback`
is never called for a cancelled request. -/
theorem cancelled_not_sent {limits : Limits} {now : Rat} {events : List DispatcherEvent}
    {s : Dispatcher} (ran : dispatcherSystem.exec (Dispatcher.new limits now) events = some s)
    (leaves : dispatcherSystem.Guarded LeavesNothing (Dispatcher.new limits now) events) :
    dispatcherSystem.Guarded SparesCancelled (Dispatcher.new limits now) events := by
  apply EventSystem.Guarded.along _ Clean _ _ _ ran leaves
  · intro m event m' clean leaves stepped
    exact clean.step leaves stepped
  · intro m event m' clean _ _
    exact clean.spares
  · refine ⟨custody_new limits now, issued_new limits now, ?_⟩
    intro running
    cases running

/-- A dispatcher without entries and tasks leaves nothing behind. -/
theorem leavesNothing_of_idle {s : Dispatcher} {event : DispatcherEvent}
    (idle : event.resumes = true → s.unsent = [] ∧ s.tasks.entries = []) :
    s.LeavesNothing event := by
  have nothing : event.resumes = true → ∀ future, ¬ s.Sendable future := by
    rintro resumes future (⟨entry, member, _⟩ | ⟨task, found, _⟩)
    · rw [(idle resumes).1] at member
      cases member
    · have member := OrderedDict.get?_eq_some_iff.mp found
      rw [(idle resumes).2] at member
      cases member
  cases event with
  | start => exact fun _ future sendable => absurd sendable (nothing rfl future)
  | stopResumes => exact fun _ future sendable => absurd sendable (nothing rfl future)
  | _ => trivial

/-- A request is answered before the dispatcher is stopped and started again for the next. -/
def restartRun : List DispatcherEvent :=
  [.start, .enqueue (sampleRequest 7 none) false, .iterate, .get ⟨sampleRequest 7 none, 0⟩ false,
    .advance 0 (.ok 1) 0, .answer 0 (.ok []) 0, .stop, .stopResumes, .start,
    .enqueue (sampleRequest 8 none) false, .iterate, .get ⟨sampleRequest 8 none, 1⟩ false,
    .advance 1 (.ok 2) 0]

theorem restartRun_spares :
    dispatcherSystem.Guarded SparesCancelled (Dispatcher.new {} 0) restartRun := by
  have ran : ∃ s ∈ dispatcherSystem.exec (Dispatcher.new {} 0) restartRun, s.calls.length = 2 := by
    decide +kernel
  obtain ⟨s, ran, _⟩ := ran
  have idle : dispatcherSystem.Guarded (fun s event => event.resumes = true →
      s.unsent = [] ∧ s.tasks.entries = []) (Dispatcher.new {} 0) restartRun := by decide +kernel
  apply cancelled_not_sent ran
  exact EventSystem.Guarded.weaken _ (fun _ _ _ => leavesNothing_of_idle) idle

/-- A request that is in the queue when the dispatcher is stopped, and one whose send task
sleeps before its second attempt, are cancelled, and sent after the restart. -/
theorem cancelledRequests_sent : ∃ s ∈ dispatcherSystem.exec (Dispatcher.new {} 0)
    [.start, .enqueue (sampleRequest 7 none) false, .iterate, .get ⟨sampleRequest 7 none, 0⟩ false,
      .advance 0 (.ok 1) 0, .answer 0 (.error .osError) 0, .wait 1,
      .enqueue (sampleRequest 8 none) false, .stop, .stopResumes, .start, .iterate,
      .get ⟨sampleRequest 8 none, 1⟩ false],
    s.futures 0 = .resolved (cancelledResult 7) ∧ s.futures 1 = .resolved (cancelledResult 8) ∧
      (∃ s' ∈ s.step (.advance 0 (.ok 2) 0), s'.calls = s.calls ++ [(0, 2)]) ∧
      ∃ s' ∈ s.step (.advance 1 (.ok 2) 0), s'.calls = s.calls ++ [(1, 2)] := by
  decide +kernel

end Dispatcher

end TuyaBleMesh
