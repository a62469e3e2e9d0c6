import TuyaBleMesh.Transport.Books
import TuyaBleMesh.Transport.Completion

/-!
# Retries

A send task calls `_send_callback` once an attempt, and makes another attempt after
each transient failure. How many calls a request can get, and when a request whose
first calls fail is completed with the first call that succeeds.
-/

namespace TuyaBleMesh

namespace DispatcherEvent

/-- `next_sequence_callback` raises in a step of the send task of `future`. -/
def raisesIn (future : FutureId) : DispatcherEvent → Bool
  | .advance target (.error _) _ => target = future
  | _ => false

/-- What `_send_callback` comes to for the request of `future`. -/
def answerOf (future : FutureId) : DispatcherEvent → Option (Except PyError Bytes)
  | .answer target outcome _ => if target = future then some outcome else none
  | _ => none

def stops : DispatcherEvent → Bool
  | .stop => true
  | .stopResumes => true
  | _ => false

end DispatcherEvent

def failsTransiently : Except PyError Bytes → Bool
  | .error error => error.isTransient
  | .ok _ => false

/-! ### Attempts -/

namespace SendTask

variable {task task' : SendTask} {now : Rat} {error : PyError} {sample : Rat}

@[simp] theorem started_retriesUsed : (task.started now).retriesUsed = task.retriesUsed := by
  unfold started
  split <;> rfl

/-- The attempt after a failed one. -/
structure Retries (task task' : SendTask) : Prop where
  request : task'.request = task.request
  attempt : task'.attempt = task.attempt + 1
  retriesUsed : task'.retriesUsed = task.retriesUsed + 1
  called : task'.called = 0
  small : task.attempt ≤ _MAX_FLOAT_EXPONENT

theorem failed_retry (retried : (task.started now).failed now error sample = .retry task') :
    task.Retries task' := by
  unfold failed giveUp at retried
  split at retried
  · dsimp only at retried
    split at retried
    · split at retried <;> cases retried
    · split at retried
      · cases retried
      · next delay valid =>
        cases retried
        refine ⟨started_request, ?_, ?_, rfl, ?_⟩
        · exact congrArg (· + 1) started_attempt
        · exact congrArg (· + 1) started_retriesUsed
        · rw [started_attempt] at valid
          by_contra large
          rw [RetryPolicy.backoff_overflow _ (Nat.lt_of_not_le large)] at valid
          cases valid
  · cases retried

theorem giveUp_status {result : CommandResult} (reported : task.giveUp now = .report result) :
    result.status = .error := by
  unfold giveUp at reported
  split at reported
  · next valid =>
    cases reported
    exact (commandResult_fields valid).2.1
  · cases reported

theorem failed_task? (left : (task.failed now error sample).task? = some task') :
    task.failed now error sample = .retry task' := by
  cases failure : task.failed now error sample with
  | call other correlation sequence => exact absurd failure failed_ne_call
  | retry other =>
    rw [failure] at left
    cases left
    rfl
  | report result =>
    rw [failure] at left
    cases left
  | escape raised =>
    rw [failure] at left
    cases left

/-- A failed attempt that is the last one is reported as an error. -/
theorem failed_status {result : CommandResult}
    (reported : task.failed now error sample = .report result) : result.status = .error := by
  unfold failed at reported
  split at reported
  · dsimp only at reported
    split at reported
    · exact giveUp_status reported
    · split at reported
      · cases reported
      · cases reported
  · cases reported

/-- There is another attempt after a transient failure that is not the last one allowed, as
long as the power of two of its backoff is a `float`. -/
theorem failed_again (now sample : Rat) (transient : error.isTransient = true)
    (more : task.attempt < task.request.retryPolicy.maxRetries)
    (small : task.attempt ≤ _MAX_FLOAT_EXPONENT) :
    ∃ task', task.failed now error sample = .retry task' := by
  obtain ⟨delay, valid⟩ := task.request.retryPolicy.backoff_ok small sample
  unfold failed
  dsimp only
  rw [if_pos transient, if_neg (Nat.not_le.mpr more), valid]
  exact ⟨_, rfl⟩

end SendTask

/-- What a step of a send task comes to while the dispatcher runs and the request is not
expired. -/
inductive AttemptStep (s : Dispatcher) (future : FutureId) (task : SendTask)
    (event : DispatcherEvent) : SendStep → Prop
  /-- The attempt fails before its call: there is no sequence number, or the request is
  registered already. -/
  | fails (fresh : task.called = 0) (error : PyError) (sample : Rat)
      (cause : event.raisesIn future = true ∨ event.raisesIn future = false ∧
        task.expectsResponse = true ∧ s.correlation.Tracks task.request.requestId) :
      AttemptStep s future task event ((task.started s.now).failed s.now error sample)
  | calls (fresh : task.called = 0) (given : event.raisesIn future = false)
      (untracked : task.expectsResponse = true →
        ¬ s.correlation.Tracks task.request.requestId)
      (correlation : CorrelationEngine) (sequence : Nat)
      (tracked : task.expectsResponse = true →
        correlation.Tracks task.request.requestId) :
      AttemptStep s future task event
        (.call { task.started s.now with phase := .calling sequence } correlation sequence)
  | callFails (calling : task.called = 1) (error : PyError) (sample : Rat)
      (isAnswer : event = .answer future (.error error) sample) :
      AttemptStep s future task event ((task.started s.now).failed s.now error sample)
  | succeeds (calling : task.called = 1) (responseData : Bytes) (sample : Rat)
      (isAnswer : event = .answer future (.ok responseData) sample) (result : CommandResult)
      (status : result.status = .success) (retries : result.retriesUsed = task.retriesUsed) :
      AttemptStep s future task event (.report result)

theorem SendEvent.attempt_cases {s : Dispatcher} {future : FutureId} {task : SendTask}
    {event : DispatcherEvent} {done : SendStep} (sent : SendEvent s future task event done)
    (running : s.running = true) (live : task.request.isExpired s.now = false)
    (began : task.phase = .created ∨ task.startTime ≤ s.now) :
    AttemptStep s future task event done := by
  cases sent with
  | @advance sequence sample _ advanced =>
    obtain ⟨fresh, rfl⟩ := SendTask.advance_eq advanced
    have live' : (task.started s.now).request.isExpired s.now = false := by
      rw [SendTask.started_request, live]
    have expectation : (task.started s.now).expectsResponse = task.expectsResponse := by
      rw [SendTask.expectsResponse, SendTask.started_request, SendTask.expectsResponse]
    unfold SendTask.tryCall
    rw [running, live', expectation, if_neg (by decide)]
    cases sequence with
    | error error => exact .fails fresh error sample (.inl (decide_eq_true rfl))
    | ok sequence =>
      have given : (DispatcherEvent.advance future (.ok sequence) sample).raisesIn future = false :=
        rfl
      dsimp only
      split
      · next expects =>
        -- the request is registered before the call, or its id is taken
        rcases s.correlation.register_cases (task.started s.now).request sequence with
          ⟨tracked, conflict⟩ | ⟨correlation, untracked, registered, tracks⟩
        · rw [conflict]
          rw [SendTask.started_request] at tracked
          exact .fails fresh _ sample (.inr ⟨given, expects, tracked⟩)
        · rw [registered]
          rw [SendTask.started_request] at untracked tracks
          refine .calls fresh given (fun _ => untracked) correlation sequence fun _ => ?_
          exact (tracks _).mpr (.inl rfl)
      · next expects =>
        exact .calls fresh given (absurd · expects) s.correlation sequence (absurd · expects)
  | @answer outcome sample _ answered =>
    unfold SendTask.answered at answered
    split at answered
    · next sequence phase =>
      have calling : task.called = 1 := by rw [SendTask.called, phase]
      have unstarted : task.phase ≠ .created := by
        rw [phase]
        rintro ⟨⟩
      cases outcome with
      | error error =>
        cases answered
        have failed : AttemptStep s future task _ _ := .callFails calling error sample rfl
        rwa [SendTask.started_of_ne unstarted] at failed
      | ok responseData =>
        -- the task has started, so its latency is not negative and the result valid
        have start := began.resolve_left unstarted
        have nonneg : 0 ≤ task.latencyMs s.now := mul_nonneg (sub_nonneg.mpr start) (by norm_num)
        have accepted : ∃ result, commandResult task.request.requestId .success
            (some responseData) (task.latencyMs s.now) task.retriesUsed none = .ok result :=
          commandResult_success nonneg
        obtain ⟨result, valid⟩ := accepted
        obtain ⟨_, status, _, retries, _⟩ := commandResult_fields valid
        dsimp only at answered
        rw [valid] at answered
        cases answered
        exact .succeeds calling responseData sample rfl result status retries
    · cases answered

/-- How often a step calls `_send_callback`. -/
def SendStep.calls : SendStep → Nat
  | .call _ _ _ => 1
  | .retry _ => 0
  | .report _ => 0
  | .escape _ => 0

namespace Dispatcher

/-! ### The steps of others -/

section Others

variable {s s' : Dispatcher} {event : DispatcherEvent} {future : FutureId}

theorem callsOf_perform (other : FutureId) (request : CommandRequest) (done : SendStep) :
    (s.perform other request done).callsOf future =
      s.callsOf future + if other = future then done.calls else 0 := by
  cases done with
  | call task correlation sequence =>
    show (s.calls ++ [(other, sequence)]).countP _ = _
    simp only [List.countP_append, List.countP_singleton, decide_eq_true_eq]
    rfl
  | retry task => exact (ite_self 0).symm ▸ rfl
  | report result =>
    obtain ⟨_, _, _, _, _, _, frame⟩ := s.completeRequest_frame request result
    rw [perform, frame]
    exact (ite_self 0).symm ▸ rfl
  | escape error => exact (ite_self 0).symm ▸ rfl

theorem callsOf_kept (others : event.isOwn future = false) (stepped : s.step event = some s') :
    s'.callsOf future = s.callsOf future := by
  cases custody_cases stepped with
  | quiet tasks submitted calls unsent now => rw [callsOf, calls, callsOf]
  | submit request raises isEnqueue tasks submitted calls unsent now =>
    rw [callsOf, calls, callsOf]
  | launch entry tasks submitted calls unsent now running => rw [callsOf, calls, callsOf]
  | send other task done found sent after =>
    have different : other ≠ future := of_decide_eq_false ((sent.isOwn future).symm.trans others)
    rw [after, callsOf_perform, if_neg different, Nat.add_zero]

variable {entry : Submission}

/-- The request of a submission stays filed and registered as it is when another party takes a
step, as long as it does not expire and is not taken from the queue. -/
structure Untouched (s : Dispatcher) (event : DispatcherEvent) (s' : Dispatcher)
    (entry : Submission) : Prop where
  unstopped : event.stops = false
  others : event.isOwn entry.future = false
  unswept : s.correlation.Tracks entry.request.requestId → entry.request.isExpired s.now = false
  untaken : s'.tasks = s.tasks → ¬ (entry :: s'.unsent).Subperm s.unsent

/-- A sweep meets the request only when it has expired. -/
theorem Registry.not_stale (registry : s.Registry) (member : entry ∈ s.submitted)
    (unswept : s.correlation.Tracks entry.request.requestId →
      entry.request.isExpired s.now = false) :
    ∀ expired ∈ s.correlation.stale s.now,
      expired.val.requestId ≠ entry.request.requestId := by
  intro expired stale same
  have held := CorrelationEngine.mem_stale.mp stale
  obtain ⟨other, submitted, own⟩ := registry.registered expired.val held
  have itself : other = entry := registry.unique submitted member (by rw [own, same])
  have tracked := CorrelationEngine.tracks_iff_holds.mpr ⟨expired.val, held, same⟩
  have live := unswept tracked
  rw [← itself, own, expired.property] at live
  cases live

theorem Untouched.filed (untouched : Untouched s event s' entry) (registry : s.Registry)
    (member : entry ∈ s.submitted) (fresh : s.UsesFreshId event)
    (stepped : s.step event = some s') :
    s'.resultFutures.get? entry.request.requestId =
      s.resultFutures.get? entry.request.requestId := by
  -- completing other requests leaves the one in question filed
  have completed : ∀ completions : List (CommandRequest × CommandResult),
      s'.books = completions.foldl Books.complete s.books →
      (∀ completion ∈ completions, completion.1.requestId ≠ entry.request.requestId) →
      s'.resultFutures.get? entry.request.requestId =
        s.resultFutures.get? entry.request.requestId := by
    intro completions books spared
    have files : s'.resultFutures = (completions.foldl Books.complete s.books).resultFutures :=
      congrArg Books.resultFutures books
    rw [files]
    exact Books.get?_completeAll spared
  cases books_cases stepped with
  | same books submitted registers keeps =>
    rw [show s'.resultFutures = s.resultFutures from congrArg Books.resultFutures books]
  | reject request raises isEnqueue expired books submitted correlation =>
    rw [show s'.resultFutures = s.resultFutures from congrArg Books.resultFutures books]
  | submit request raises isEnqueue books submitted correlation =>
    subst isEnqueue
    have files : s'.resultFutures = s.resultFutures.set request.requestId s.submitted.length :=
      congrArg Books.resultFutures books
    rw [files, OrderedDict.get?_set, if_neg (fresh.1 entry member)]
  | abandon target pending issued books submitted correlation =>
    rw [show s'.resultFutures = s.resultFutures from congrArg Books.resultFutures books]
  | sweep isIterate running books submitted correlation =>
    apply completed _ books
    intro completion inside
    obtain ⟨expired, stale, rfl⟩ := mem_sweepCompletions.mp inside
    exact registry.not_stale member untouched.unswept expired stale
  | timeOut taken expired held tasks books submitted correlation =>
    apply completed [(taken.request, timeoutResult ⟨taken.request, expired⟩)] books
    intro completion inside same
    cases List.mem_singleton.mp inside
    have unsent : taken ∈ s.unsent := held.subset List.mem_cons_self
    -- ids are not used twice, so it would be the request in question
    have itself : taken = entry :=
      registry.unique (registry.custody.unsent_mem taken unsent) member same
    rw [itself] at held
    exact untouched.untaken tasks held
  | report target task result found sent books submitted correlation =>
    apply completed [(task.request, result)] books
    intro completion inside same
    cases List.mem_singleton.mp inside
    have itself := registry.unique (registry.custody.task_mem target task found) member same
    have own : target = entry.future := congrArg Submission.future itself
    have others := untouched.others
    rw [sent.isOwn, own, decide_eq_true rfl] at others
    cases others
  | cancel isStop submitted correlation =>
    have unstopped := untouched.unstopped
    rcases isStop with rfl | rfl
    · cases unstopped
    · cases unstopped

theorem Untouched.tracked (untouched : Untouched s event s' entry) (registry : s.Registry)
    (member : entry ∈ s.submitted) (stepped : s.step event = some s') :
    s'.correlation.Tracks entry.request.requestId ↔
      s.correlation.Tracks entry.request.requestId := by
  cases books_cases stepped with
  | same books submitted registers keeps =>
    simp only [CorrelationEngine.tracks_iff_holds]
    constructor
    · rintro ⟨request, held, same⟩
      rcases registers request held with before | ⟨target, task, found, own, rfl⟩
      · exact ⟨request, before, same⟩
      · -- the request that registers is another one
        have itself := registry.unique (registry.custody.task_mem target task found) member same
        have target_eq : target = entry.future := congrArg Submission.future itself
        rw [target_eq, untouched.others] at own
        cases own
    · rintro ⟨request, held, same⟩
      exact ⟨request, keeps request held, same⟩
  | reject request raises isEnqueue expired books submitted correlation => rw [correlation]
  | submit request raises isEnqueue books submitted correlation => rw [correlation]
  | abandon target pending issued books submitted correlation => rw [correlation]
  | sweep isIterate running books submitted correlation =>
    rw [correlation, CorrelationEngine.tracks_expireStale]
    exact and_iff_left (registry.not_stale member untouched.unswept)
  | timeOut taken expired held tasks books submitted correlation => rw [correlation]
  | report target task result found sent books submitted correlation => rw [correlation]
  | cancel isStop submitted correlation =>
    have unstopped := untouched.unstopped
    rcases isStop with rfl | rfl
    · cases unstopped
    · cases unstopped

end Others

/-! ### How many calls -/

/-- `_send_callback` has been called at most `max_retries + 1` times for every request. -/
def CallsWithin (s : Dispatcher) : Prop :=
  ∀ entry ∈ s.submitted, s.callsOf entry.future ≤ entry.request.retryPolicy.maxRetries + 1

/-- How many calls there are before and in each attempt. -/
structure Counted (s : Dispatcher) : Prop where
  custody : s.Custody
  issued : ∀ call ∈ s.calls, call.1 < s.submitted.length
  unsent : ∀ entry ∈ s.unsent, s.callsOf entry.future = 0
  sending : ∀ future task, s.tasks.get? future = some task →
    s.callsOf future ≤ task.attempt + task.called
  within : s.CallsWithin

section Counted

variable {s s' : Dispatcher} {event : DispatcherEvent}

/-- A future that no submission has yet has no calls. -/
theorem Counted.unissued (counted : s.Counted) {future : FutureId}
    (above : s.submitted.length ≤ future) : s.callsOf future = 0 := by
  refine List.countP_eq_zero.mpr fun call member same => ?_
  rw [decide_eq_true_eq] at same
  have below := counted.issued call member
  rw [same] at below
  exact Nat.not_lt.mpr above below

private theorem Counted.quiet (counted : s.Counted) (custody : s'.Custody)
    (tasks : s'.tasks = s.tasks) (submitted : s'.submitted = s.submitted)
    (calls : s'.calls = s.calls) (unsent : s'.unsent.Subperm s.unsent) : s'.Counted := by
  have same : s'.callsOf = s.callsOf := by
    funext future
    rw [callsOf, calls, callsOf]
  refine ⟨custody, ?_, ?_, ?_, ?_⟩
  · rw [calls, submitted]
    exact counted.issued
  · intro entry member
    rw [same]
    exact counted.unsent entry (unsent.subset member)
  · rw [tasks, same]
    exact counted.sending
  · rw [CallsWithin, submitted, same]
    exact counted.within

private theorem Counted.submit (counted : s.Counted) (custody : s'.Custody)
    {request : CommandRequest} (tasks : s'.tasks = s.tasks)
    (submitted : s'.submitted = s.submitted ++ [⟨request, s.submitted.length⟩])
    (calls : s'.calls = s.calls)
    (unsent : s'.unsent = s.unsent ++ [⟨request, s.submitted.length⟩]) : s'.Counted := by
  have same : s'.callsOf = s.callsOf := by
    funext future
    rw [callsOf, calls, callsOf]
  -- nothing has been sent yet under a future that is new
  have new : s.callsOf s.submitted.length = 0 := counted.unissued (le_refl _)
  refine ⟨custody, ?_, ?_, ?_, ?_⟩
  · intro call member
    rw [calls] at member
    rw [submitted, List.length_append]
    exact Nat.lt_add_right _ (counted.issued call member)
  · intro entry member
    rw [same]
    rw [unsent] at member
    rcases List.mem_append.mp member with old | last
    · exact counted.unsent entry old
    · rw [List.mem_singleton.mp last]
      exact new
  · rw [tasks, same]
    exact counted.sending
  · intro entry member
    rw [same]
    rw [submitted] at member
    rcases List.mem_append.mp member with old | last
    · exact counted.within entry old
    · rw [List.mem_singleton.mp last]
      exact new.le.trans (Nat.zero_le _)

private theorem Counted.launch (counted : s.Counted) (custody : s'.Custody) {entry : Submission}
    (tasks : s'.tasks = s.tasks.set entry.future { request := entry.request })
    (submitted : s'.submitted = s.submitted) (calls : s'.calls = s.calls)
    (unsent : (entry :: s'.unsent).Subperm s.unsent) : s'.Counted := by
  have same : s'.callsOf = s.callsOf := by
    funext future
    rw [callsOf, calls, callsOf]
  refine ⟨custody, ?_, ?_, ?_, ?_⟩
  · rw [calls, submitted]
    exact counted.issued
  · intro other member
    rw [same]
    exact counted.unsent other (unsent.subset (List.mem_cons_of_mem _ member))
  · intro future task found
    rw [tasks, OrderedDict.get?_set] at found
    rw [same]
    split at found
    · next own =>
      -- the task of an entry that was unsent begins without a call
      rw [own, counted.unsent entry (unsent.subset List.mem_cons_self)]
      exact Nat.zero_le _
    · exact counted.sending future task found
  · rw [CallsWithin, submitted, same]
    exact counted.within

private theorem Counted.send (counted : s.Counted) {future : FutureId} {task : SendTask}
    {done : SendStep} (custody : (s.perform future task.request done).Custody)
    (found : s.tasks.get? future = some task) (sent : SendEvent s future task event done) :
    (s.perform future task.request done).Counted := by
  obtain ⟨unsent, submitted, _, _⟩ := s.perform_frame future task.request done
  have member := counted.custody.task_mem future task found
  have attempts := counted.custody.attempts future task found
  have before := counted.sending future task found
  -- a call is made in an attempt that has made none
  have step : (s.perform future task.request done).callsOf future ≤ task.attempt + 1 ∧
      ∀ task', done.task? = some task' →
        (s.perform future task.request done).callsOf future ≤ task'.attempt + task'.called := by
    rw [callsOf_perform, if_pos rfl]
    have called : task.called ≤ 1 := by
      unfold SendTask.called
      split
      · exact le_refl 1
      · exact Nat.zero_le 1
    cases sent.moves with
    | call correlation sequence fresh =>
      rw [SendStep.calls]
      refine ⟨by omega, ?_⟩
      intro task' left
      cases left
      show _ ≤ (task.started s.now).attempt + 1
      rw [SendTask.started_attempt]
      omega
    | retry error delay more =>
      rw [SendStep.calls]
      refine ⟨by omega, ?_⟩
      intro task' left
      cases left
      show _ ≤ task.attempt + 1 + 0
      omega
    | report result =>
      rw [SendStep.calls]
      refine ⟨by omega, ?_⟩
      intro task' left
      cases left
    | escape error =>
      rw [SendStep.calls]
      refine ⟨by omega, ?_⟩
      intro task' left
      cases left
  have others : ∀ other, other ≠ future →
      (s.perform future task.request done).callsOf other = s.callsOf other := by
    intro other different
    exact callsOf_kept ((sent.isOwn other).trans (decide_eq_false different.symm))
      (sent.step_eq found)
  refine ⟨custody, ?_, ?_, ?_, ?_⟩
  · intro call inside
    rw [submitted]
    by_contra above
    have none := counted.unissued (Nat.le_of_not_lt above)
    have positive : 0 < (s.perform future task.request done).callsOf call.1 :=
      List.countP_pos_iff.mpr ⟨call, inside, decide_eq_true rfl⟩
    have different : call.1 ≠ future := by
      intro own
      exact above (own ▸ counted.custody.future_lt member)
    rw [others _ different, none] at positive
    cases positive
  · intro entry waiting
    rw [unsent] at waiting
    have different : entry.future ≠ future := by
      intro own
      have absent := counted.custody.apart entry waiting
      rw [own, found] at absent
      cases absent
    rw [others _ different]
    exact counted.unsent entry waiting
  · intro other task' found'
    rw [perform_get?] at found'
    split at found'
    · next own =>
      rw [own]
      exact step.2 task' found'
    · next different =>
      rw [others _ different]
      exact counted.sending other task' found'
  · intro entry entered
    rw [submitted] at entered
    by_cases own : entry.future = future
    · have itself : entry = ⟨task.request, future⟩ := counted.custody.unique entered member own
      rw [itself]
      exact step.1.trans (Nat.succ_le_succ attempts)
    · rw [others _ own]
      exact counted.within entry entered

theorem Counted.step (counted : s.Counted) (stepped : s.step event = some s') : s'.Counted := by
  have custody := counted.custody.step stepped
  cases custody_cases stepped with
  | quiet tasks submitted calls unsent now =>
    exact counted.quiet custody tasks submitted calls unsent
  | submit request raises isEnqueue tasks submitted calls unsent now =>
    exact counted.submit custody tasks submitted calls unsent
  | launch entry tasks submitted calls unsent now running =>
    exact counted.launch custody tasks submitted calls unsent
  | send future task done found sent after =>
    subst after
    exact counted.send custody found sent

/-- In every run. -/
theorem reachable_counted {limits : Limits} {now : Rat} {events : List DispatcherEvent}
    (ran : dispatcherSystem.exec (Dispatcher.new limits now) events = some s) : s.Counted := by
  apply dispatcherSystem.exec_invariant_of_step Counted _ _ ran
  · intro m event m' counted stepped
    exact counted.step stepped
  · refine ⟨custody_new limits now, ?_, ?_, ?_, ?_⟩
    · exact fun call member => (by cases member)
    · exact fun entry member => (by cases member)
    · exact fun future task found => (by cases found)
    · exact fun entry member => (by cases member)

end Counted

/-! ### A request on its way -/

/-- A run that leaves the sending of one request alone: the dispatcher is not stopped, ids are
used once, the request does not expire while it has a send task, the first `k` calls for it
fail with an error that is retried after, and the next one succeeds. -/
structure Lets (k : Nat) (future : FutureId) (s : Dispatcher) (event : DispatcherEvent) :
    Prop where
  unstopped : event.stops = false
  fresh : s.UsesFreshId event
  live : ∀ task ∈ s.tasks.get? future, task.request.isExpired s.now = false
  answers : ∀ outcome ∈ event.answerOf future,
    if s.callsOf future ≤ k then failsTransiently outcome = true else outcome.isOk = true

/-- What the send task of a request has done, after `own` steps of which `raised` found no
sequence number. -/
structure Sending (k : Nat) (entry : Submission) (s : Dispatcher) (task : SendTask)
    (own raised : Nat) : Prop where
  running : s.running = true
  filed : s.resultFutures.get? entry.request.requestId = some entry.future
  used : task.retriesUsed = task.attempt
  called_le : task.called ≤ s.callsOf entry.future
  calls_le : s.callsOf entry.future ≤ k + task.called
  attempts : s.callsOf entry.future + raised ≤ task.attempt + task.called
  /-- Without a registration every attempt comes to its call. -/
  counted : task.expectsResponse = false →
    s.callsOf entry.future + raised = task.attempt + task.called
  /-- Before the first answer only missing sequence numbers cost attempts. -/
  first : s.callsOf entry.future = task.called → raised = task.attempt
  /-- The registration of the first call is in the way of all others. -/
  once : task.expectsResponse = true → s.callsOf entry.future ≤ 1
  tracked : task.expectsResponse = true →
    (s.correlation.Tracks entry.request.requestId ↔ 0 < s.callsOf entry.future)
  steps : own ≤ 2 * task.attempt + task.called
  small : task.attempt ≤ _MAX_FLOAT_EXPONENT + 1

/-- The request of a submission, `es` after it was submitted. -/
structure OnItsWay (k : Nat) (entry : Submission) (es : List DispatcherEvent) (s : Dispatcher) :
    Prop where
  registry : s.Registry
  member : entry ∈ s.submitted
  waits : entry ∈ s.unsent →
    s.resultFutures.get? entry.request.requestId = some entry.future ∧
      s.callsOf entry.future = 0 ∧ es.countP (DispatcherEvent.isOwn entry.future) = 0 ∧
      es.countP (DispatcherEvent.raisesIn entry.future) = 0
  sends : ∀ task, s.tasks.get? entry.future = some task →
    Sending k entry s task (es.countP (DispatcherEvent.isOwn entry.future))
      (es.countP (DispatcherEvent.raisesIn entry.future))

section OnItsWay

variable {k : Nat} {entry : Submission} {s s' : Dispatcher} {event : DispatcherEvent}
  {task : SendTask} {own raised : Nat}

/-- Nothing changes for the request when its send task is left alone. -/
theorem Sending.kept (sending : Sending k entry s task own raised)
    (running : s'.running = true)
    (filed : s'.resultFutures.get? entry.request.requestId =
      s.resultFutures.get? entry.request.requestId)
    (calls : s'.callsOf entry.future = s.callsOf entry.future)
    (tracked : s'.correlation.Tracks entry.request.requestId ↔
      s.correlation.Tracks entry.request.requestId) :
    Sending k entry s' task own raised where
  running := running
  filed := filed.trans sending.filed
  used := sending.used
  called_le := calls ▸ sending.called_le
  calls_le := calls ▸ sending.calls_le
  attempts := calls ▸ sending.attempts
  counted := calls ▸ sending.counted
  first := calls ▸ sending.first
  once := calls ▸ sending.once
  tracked expects := by
    rw [tracked, calls]
    exact sending.tracked expects
  steps := sending.steps
  small := sending.small

/-- A task that has just been created. -/
theorem sending_launched (running : s.running = true)
    (filed : s.resultFutures.get? entry.request.requestId = some entry.future)
    (untracked : ¬ s.correlation.Tracks entry.request.requestId)
    (uncalled : s.callsOf entry.future = 0) :
    Sending k entry s { request := entry.request } 0 0 where
  running := running
  filed := filed
  used := rfl
  called_le := Nat.zero_le _
  calls_le := by rw [uncalled]; exact Nat.zero_le _
  attempts := by rw [uncalled]; exact Nat.zero_le _
  counted _ := uncalled
  first _ := rfl
  once _ := by rw [uncalled]; exact Nat.zero_le _
  tracked _ := by simp [uncalled, untracked]
  steps := Nat.zero_le _
  small := Nat.zero_le _

/-- The next attempt after a failed one. -/
theorem Sending.retried {task' : SendTask} (sending : Sending k entry s task own raised)
    (again : task.Retries task') {missing : Nat} (tasks : OrderedDict FutureId SendTask)
    (fails : s.callsOf entry.future ≤ k)
    (cause : task.called = 0 ∧ (missing = 1 ∨
        missing = 0 ∧ task.expectsResponse = true ∧
          s.correlation.Tracks entry.request.requestId) ∨
      task.called = 1 ∧ missing = 0) :
    Sending k entry { s with tasks } task' (own + 1) (raised + missing) := by
  have called := again.called
  have attempt := again.attempt
  have retries := again.retriesUsed
  have small := again.small
  have expects : task'.expectsResponse = task.expectsResponse := by
    rw [SendTask.expectsResponse, again.request, SendTask.expectsResponse]
  have calls : ({ s with tasks } : Dispatcher).callsOf entry.future = s.callsOf entry.future := rfl
  have ⟨_, _, used, called_le, calls_le, attempts, counted, first, once, tracked, steps, _⟩ :=
    sending
  -- each count is one call or one retry more, or the same
  refine ⟨sending.running, sending.filed, ?_, ?_, ?_, ?_, ?_, ?_, ?_, ?_, ?_, ?_⟩
  · omega
  · omega
  · omega
  · rw [calls]
    omega
  · intro unexpected
    rw [expects] at unexpected
    have counted := counted unexpected
    rw [calls]
    rcases cause with ⟨fresh, rfl | ⟨_, expected, _⟩⟩ | ⟨calling, rfl⟩
    · omega
    · rw [unexpected] at expected
      cases expected
    · omega
  · intro uncalled
    rw [calls] at uncalled
    rcases cause with ⟨fresh, rfl | ⟨_, expected, registered⟩⟩ | ⟨calling, rfl⟩
    · have first := first (by omega)
      omega
    · -- a registration stands for a call
      have positive := (tracked expected).mp registered
      omega
    · omega
  · rw [expects]
    exact once
  · rw [expects]
    exact tracked
  · omega
  · omega

/-- `_send_callback` has been called. -/
theorem Sending.calling (sending : Sending k entry s task own raised) (fresh : task.called = 0)
    (untracked : task.expectsResponse = true →
      ¬ s.correlation.Tracks entry.request.requestId)
    {correlation : CorrelationEngine} {sequence : Nat}
    (tracked' : task.expectsResponse = true →
      correlation.Tracks entry.request.requestId) (request : CommandRequest) :
    Sending k entry
      (s.perform entry.future request
        (.call { task.started s.now with phase := .calling sequence } correlation sequence))
      { task.started s.now with phase := .calling sequence } (own + 1) raised := by
  have calls : (s.perform entry.future request (.call
      { task.started s.now with phase := .calling sequence } correlation sequence)).callsOf
        entry.future = s.callsOf entry.future + 1 := by
    rw [callsOf_perform, if_pos rfl, SendStep.calls]
  have expects : ({ task.started s.now with phase := .calling sequence } : SendTask).expectsResponse
      = task.expectsResponse := by
    show ((task.started s.now).request.expectedResponseOpcode.isSome) = _
    rw [SendTask.started_request, SendTask.expectsResponse]
  have attempt : ({ task.started s.now with phase := .calling sequence } : SendTask).attempt =
      task.attempt := SendTask.started_attempt
  have used' : ({ task.started s.now with phase := .calling sequence } : SendTask).retriesUsed =
      task.retriesUsed := SendTask.started_retriesUsed
  have called : ({ task.started s.now with phase := .calling sequence } : SendTask).called = 1 :=
    rfl
  have ⟨_, _, used, called_le, calls_le, attempts, counted, first, once, tracked, steps, small⟩ :=
    sending
  refine ⟨sending.running, sending.filed, ?_, ?_, ?_, ?_, ?_, ?_, ?_, ?_, ?_, ?_⟩
  · omega
  · omega
  · omega
  · omega
  · intro unexpected
    have counted := counted (expects ▸ unexpected)
    omega
  · intro uncalled
    have first := first (by omega)
    omega
  · intro expected
    rw [expects] at expected
    -- were it not the first call, the registration would still be there
    have uncalled : ¬ 0 < s.callsOf entry.future :=
      fun positive => untracked expected ((tracked expected).mpr positive)
    omega
  · intro expected
    rw [expects] at expected
    rw [calls]
    exact ⟨fun _ => Nat.succ_pos _, fun _ => tracked' expected⟩
  · omega
  · omega

theorem submitted_kept (stepped : s.step event = some s') (member : entry ∈ s.submitted) :
    entry ∈ s'.submitted := by
  cases custody_cases stepped with
  | quiet tasks submitted calls unsent now => exact submitted ▸ member
  | submit request raises isEnqueue tasks submitted calls unsent now =>
    rw [submitted]
    exact List.mem_append_left _ member
  | launch launched tasks submitted calls unsent now running => exact submitted ▸ member
  | send future task done found sent after =>
    rw [after, (s.perform_frame future task.request done).2.1]
    exact member

/-- A submission does not come into the queue again. -/
theorem Registry.unsent_before (registry : s'.Registry) (stepped : s.step event = some s')
    (member : entry ∈ s.submitted) (unsent : entry ∈ s'.unsent) : entry ∈ s.unsent := by
  rcases unsent_cases stepped unsent with old | ⟨_, _, submitted⟩
  · exact old
  · have distinct := registry.distinct
    rw [submitted, List.map_append, List.map_singleton] at distinct
    have apart := List.disjoint_of_nodup_append distinct (List.mem_map_of_mem member)
    exact absurd (List.mem_singleton.mpr rfl) apart

/-- An entry that is still unsent has not been taken. -/
theorem Custody.untaken (custody : s.Custody) (unsent : entry ∈ s'.unsent) :
    ¬ (entry :: s'.unsent).Subperm s.unsent := by
  rintro ⟨kept, perm, sublist⟩
  have distinct := (perm.map Submission.future).nodup_iff.mp
    (custody.unsent_nodup.sublist (sublist.map _))
  rw [List.map_cons, List.nodup_cons] at distinct
  exact distinct.1 (List.mem_map_of_mem unsent)

theorem Lets.ne_stop {future : FutureId} (lets : Lets k future s event) : event ≠ .stop := by
  rintro rfl
  exact absurd lets.unstopped (by decide)

/-- A call that fails is one of the first `k`. -/
theorem Lets.failed {future : FutureId} {error : PyError} {sample : Rat}
    (lets : Lets k future s (.answer future (.error error) sample)) :
    s.callsOf future ≤ k ∧ error.isTransient = true := by
  have answer := lets.answers (.error error) (if_pos rfl)
  split at answer
  · next early => exact ⟨early, answer⟩
  · cases answer

/-- A call that returns is not one of the first `k`. -/
theorem Lets.returned {future : FutureId} {responseData : Bytes} {sample : Rat}
    (lets : Lets k future s (.answer future (.ok responseData) sample)) :
    k < s.callsOf future := by
  have answer := lets.answers (.ok responseData) (if_pos rfl)
  split at answer
  · cases answer
  · next late => exact Nat.lt_of_not_le late

theorem raisesIn_own {future : FutureId} (others : event.isOwn future = false) :
    event.raisesIn future = false := by
  cases event with
  | advance target sequence sample =>
    cases sequence with
    | error error => exact others
    | ok sequence => rfl
  | _ => rfl

/-- A step that is not one of the request's send task. -/
private theorem OnItsWay.others {es : List DispatcherEvent} (way : OnItsWay k entry es s)
    (lets : Lets k entry.future s event) (others : event.isOwn entry.future = false)
    (stepped : s.step event = some s') : OnItsWay k entry (es ++ [event]) s' := by
  have registry := way.registry.step lets.fresh stepped
  have custody := way.registry.custody
  have own : (es ++ [event]).countP (DispatcherEvent.isOwn entry.future) =
      es.countP (DispatcherEvent.isOwn entry.future) := by
    simp [List.countP_append, others]
  have raised : (es ++ [event]).countP (DispatcherEvent.raisesIn entry.future) =
      es.countP (DispatcherEvent.raisesIn entry.future) := by
    simp [List.countP_append, raisesIn_own others]
  have calls := callsOf_kept others stepped
  refine ⟨registry, submitted_kept stepped way.member, ?_, ?_⟩
  · -- it still waits
    intro unsent
    have before := registry.unsent_before stepped way.member unsent
    obtain ⟨filed, uncalled, still, given⟩ := way.waits before
    have untouched : Untouched s event s' entry :=
      ⟨lets.unstopped, others,
        fun tracked => absurd tracked (way.registry.unsent_untracked entry before),
        fun _ => custody.untaken unsent⟩
    rw [own, raised, calls, untouched.filed way.registry way.member lets.fresh stepped]
    exact ⟨filed, uncalled, still, given⟩
  · intro task found'
    rw [own, raised]
    have living : s.tasks.get? entry.future = some task →
        Sending k entry s' task (es.countP (DispatcherEvent.isOwn entry.future))
          (es.countP (DispatcherEvent.raisesIn entry.future)) := by
      intro found
      have sending := way.sends task found
      have itself : task.request = entry.request :=
        congrArg Submission.request (custody.unique (custody.task_mem _ task found) way.member rfl)
      have untouched : Untouched s event s' entry := by
        refine ⟨lets.unstopped, others, fun _ => itself ▸ lets.live task found, ?_⟩
        intro _ taken
        have absent := custody.apart entry (taken.subset List.mem_cons_self)
        rw [found] at absent
        cases absent
      exact sending.kept (running_kept lets.ne_stop stepped sending.running)
        (untouched.filed way.registry way.member lets.fresh stepped) calls
        (untouched.tracked way.registry way.member stepped)
    cases custody_cases stepped with
    | quiet tasks submitted calls unsent now => exact living (tasks ▸ found')
    | submit request raises isEnqueue tasks submitted calls unsent now =>
      exact living (tasks ▸ found')
    | send other task' done found sent after =>
      have different : other ≠ entry.future :=
        of_decide_eq_false ((sent.isOwn entry.future).symm.trans others)
      rw [after, perform_get?, if_neg different.symm] at found'
      exact living found'
    | launch launched tasks submitted calls' unsent now running =>
      rw [tasks, OrderedDict.get?_set] at found'
      split at found'
      · next same =>
        -- its own send task is created
        have before : launched ∈ s.unsent := unsent.subset List.mem_cons_self
        have itself : launched = entry :=
          custody.unique (custody.unsent_mem launched before) way.member same.symm
        subst itself
        cases found'
        obtain ⟨filed, uncalled, still, given⟩ := way.waits before
        have untracked := way.registry.unsent_untracked launched before
        have untouched : Untouched s event s' launched := by
          refine ⟨lets.unstopped, others, fun tracked => absurd tracked untracked, ?_⟩
          intro same' _
          have absent := custody.apart launched before
          rw [← same', tasks, OrderedDict.get?_set, if_pos rfl] at absent
          cases absent
        rw [still, given]
        apply sending_launched
        · exact running_kept lets.ne_stop stepped running
        · rw [untouched.filed way.registry way.member lets.fresh stepped, filed]
        · rw [untouched.tracked way.registry way.member stepped]
          exact untracked
        · rw [calls, uncalled]
      · exact living found'

/-- A step of the request's send task. -/
private theorem OnItsWay.advances {es : List DispatcherEvent} (way : OnItsWay k entry es s)
    (lets : Lets k entry.future s event) (own : event.isOwn entry.future = true)
    (stepped : s.step event = some s') : OnItsWay k entry (es ++ [event]) s' := by
  have registry := way.registry.step lets.fresh stepped
  have member := submitted_kept stepped way.member
  have custody := way.registry.custody
  obtain ⟨task, done, found, sent, rfl⟩ := event.own_step own stepped
  have owned : (es ++ [event]).countP (DispatcherEvent.isOwn entry.future) =
      es.countP (DispatcherEvent.isOwn entry.future) + 1 := by
    simp [List.countP_append, own]
  have raised : ∀ raises, event.raisesIn entry.future = raises →
      (es ++ [event]).countP (DispatcherEvent.raisesIn entry.future) =
        es.countP (DispatcherEvent.raisesIn entry.future) + if raises then 1 else 0 := by
    intro raises this
    simp [List.countP_append, this]
  refine ⟨registry, member, ?_, ?_⟩
  · intro unsent
    rw [(s.perform_frame entry.future task.request done).1] at unsent
    have absent := custody.apart entry unsent
    rw [found] at absent
    cases absent
  · intro task' found'
    rw [perform_get?, if_pos rfl] at found'
    have sending := way.sends task found
    have itself : task.request = entry.request :=
      congrArg Submission.request (custody.unique (custody.task_mem _ task found) way.member rfl)
    have again : ∀ error sample missing,
        done = (task.started s.now).failed s.now error sample → s.callsOf entry.future ≤ k →
        (task.called = 0 ∧ (missing = 1 ∨ missing = 0 ∧ task.expectsResponse = true ∧
          s.correlation.Tracks entry.request.requestId) ∨ task.called = 1 ∧ missing = 0) →
        Sending k entry (s.perform entry.future task.request done) task'
          (es.countP (DispatcherEvent.isOwn entry.future) + 1)
          (es.countP (DispatcherEvent.raisesIn entry.future) + missing) := by
      rintro error sample missing rfl fails cause
      have retried := SendTask.failed_task? found'
      rw [retried]
      exact sending.retried (SendTask.failed_retry retried) _ fails cause
    rw [owned]
    cases sent.attempt_cases sending.running (lets.live task found)
      (custody.began _ task found) with
    | fails fresh error sample cause =>
      have fails : s.callsOf entry.future ≤ k := by
        have bound := sending.calls_le
        omega
      rcases cause with raises | ⟨given, expects, tracked⟩
      · rw [raised true raises]
        exact again error sample 1 rfl fails (.inl ⟨fresh, .inl rfl⟩)
      · rw [raised false given]
        rw [itself] at tracked
        exact again error sample 0 rfl fails (.inl ⟨fresh, .inr ⟨rfl, expects, tracked⟩⟩)
    | calls fresh given untracked correlation sequence tracked =>
      rw [raised false given]
      rw [itself] at untracked tracked
      cases found'
      exact sending.calling fresh untracked tracked task.request
    | callFails calling error sample isAnswer =>
      have given : event.raisesIn entry.future = false := by
        rw [isAnswer]
        rfl
      subst isAnswer
      rw [raised false given]
      exact again error sample 0 rfl lets.failed.1 (.inr ⟨calling, rfl⟩)
    | succeeds calling responseData sample isAnswer result status retries => cases found'

theorem OnItsWay.step {es : List DispatcherEvent} (way : OnItsWay k entry es s)
    (lets : Lets k entry.future s event) (stepped : s.step event = some s') :
    OnItsWay k entry (es ++ [event]) s' := by
  cases own : event.isOwn entry.future with
  | true => exact way.advances lets own stepped
  | false => exact way.others lets own stepped

/-! ### The retry law -/

/-- After the run `before`, in which no id is used twice, the request of `entry` is submitted. -/
def Submits (limits : Limits) (now : Rat) (before : List DispatcherEvent) (entry : Submission)
    (s : Dispatcher) : Prop :=
  ∃ s₀ raises, dispatcherSystem.exec (Dispatcher.new limits now) before = some s₀ ∧
    dispatcherSystem.Guarded UsesFreshId (Dispatcher.new limits now)
      (before ++ [.enqueue entry.request raises]) ∧
    s₀.step (.enqueue entry.request raises) = some s ∧ s.submitted = s₀.submitted ++ [entry]

/-- The request is completed with status success, after `k + 1` calls and `k` retries, and its
future is resolved unless the caller has cancelled it. -/
def SucceedsAfter (k : Nat) (entry : Submission) (s s' : Dispatcher) : Prop :=
  ∃ result, s'.appended = s.appended ++ [(entry.request, result)] ∧ result.status = .success ∧
    result.retriesUsed = k ∧ s'.callsOf entry.future = k + 1 ∧
    (s.futures entry.future = .pending → s'.futures entry.future = .resolved result)

/-- Nothing but the first `k` calls has cost the request an attempt: it is not registered
again, every backoff is a `float`, and there is always a sequence number. -/
def Unhindered (k : Nat) (entry : Submission) (es : List DispatcherEvent) : Prop :=
  (entry.request.expectedResponseOpcode = none ∨ k = 0) ∧ k ≤ _MAX_FLOAT_EXPONENT + 1 ∧
    ∀ event ∈ es, event.raisesIn entry.future = false

theorem Submits.onItsWay {limits : Limits} {now : Rat} {before : List DispatcherEvent}
    (submits : Submits limits now before entry s) : OnItsWay k entry [] s := by
  obtain ⟨s₀, raises, reached, fresh, enqueued, submitted⟩ := submits
  have registry₀ : s₀.Registry := by
    apply dispatcherSystem.exec_invariant Registry _ (registry_new limits now)
      (EventSystem.Guarded.append_left _ fresh) reached
    intro m event m' registry fresh stepped
    exact registry.step fresh stepped
  have counted := reachable_counted reached
  have registry := registry₀.step (EventSystem.Guarded.at_step _ fresh reached) enqueued
  have member : entry ∈ s.submitted := by
    rw [submitted]
    exact List.mem_append_right _ List.mem_cons_self
  have grown : s.submitted ≠ s₀.submitted := by
    rw [submitted]
    simp
  cases custody_cases enqueued with
  | submit request raises' isEnqueue tasks submitted' calls unsent now' =>
    rw [submitted'] at submitted
    cases List.append_cancel_left submitted
    have uncalled : s.callsOf s₀.submitted.length = 0 := by
      rw [callsOf, calls]
      exact counted.unissued (le_refl _)
    refine ⟨registry, member, ?_, ?_⟩
    · intro _
      refine ⟨?_, uncalled, rfl, rfl⟩
      cases books_cases enqueued with
      | submit request' raises'' isEnqueue' books submitted'' correlation =>
        cases isEnqueue'
        have files : s.resultFutures = s₀.resultFutures.set request.requestId s₀.submitted.length :=
          congrArg Books.resultFutures books
        rw [files, OrderedDict.get?_set, if_pos rfl]
      | same books submitted'' registers keeps => exact absurd submitted'' grown
      | reject request' raises'' isEnqueue' expired books submitted'' correlation =>
        exact absurd submitted'' grown
      | abandon future pending issued books submitted'' correlation =>
        exact absurd submitted'' grown
      | sweep isIterate running books submitted'' correlation => exact absurd submitted'' grown
      | timeOut other expired held tasks' books submitted'' correlation =>
        exact absurd submitted'' grown
      | report future task result found sent books submitted'' correlation =>
        exact absurd submitted'' grown
      | cancel isStop submitted'' correlation => exact absurd submitted'' grown
    · -- its future is new
      intro task found
      rw [tasks] at found
      have old := registry₀.custody.task_mem _ task found
      exact absurd (registry₀.custody.future_lt old) (lt_irrefl _)
  | quiet tasks submitted' calls unsent now' => exact absurd submitted' grown
  | launch launched tasks submitted' calls unsent now' running => exact absurd submitted' grown
  | send future task done found sent after =>
    rw [after, (s₀.perform_frame future task.request done).2.1] at grown
    exact absurd rfl grown

/-- The next step of a send task can always be taken, whatever comes of it. -/
theorem step_own (found : s.tasks.get? entry.future = some task)
    (sequence : Except PyError Nat) (outcome : Except PyError Bytes) (sample : Rat) :
    (s.step (.advance entry.future sequence sample)).isSome = true ∨
      (s.step (.answer entry.future outcome sample)).isSome = true := by
  simp only [Dispatcher.step, found, Option.bind_eq_bind, Option.bind_some, Option.pure_def]
  unfold SendTask.advance SendTask.answered
  cases task.phase with
  | created => exact .inl rfl
  | backoff delay => exact .inl rfl
  | calling number =>
    right
    cases outcome with
    | error error => rfl
    | ok responseData =>
      dsimp only
      split
      · rfl
      · rfl

/-- What a reported result changes. -/
theorem perform_report (request : CommandRequest) (result : CommandResult) (future : FutureId) :
    (s.perform future request (.report result)).appended = s.appended ++ [(request, result)] ∧
      (s.resultFutures.get? request.requestId = some future → s.futures future = .pending →
        (s.perform future request (.report result)).futures future = .resolved result) := by
  have books : (s.perform future request (.report result)).books =
      s.books.complete (request, result) := s.books_completeRequest request result
  refine ⟨congrArg Books.appended books, ?_⟩
  intro filed pending
  have futures : (s.perform future request (.report result)).futures =
      (s.books.complete (request, result)).futures := congrArg Books.futures books
  rw [futures]
  have filed' : s.books.resultFutures.get? request.requestId = some future := filed
  have pending' : s.books.futures future = .pending := pending
  simp only [Books.complete, filed', pending']
  rw [if_neg (by decide), Function.update_self]

/-- The step that ends the send task. -/
private theorem OnItsWay.ends {es : List DispatcherEvent} (way : OnItsWay k entry es s)
    (lets : Lets k entry.future s event) (within : k ≤ entry.request.retryPolicy.maxRetries)
    (stepped : s.step event = some s') (ends : TaskEnds s s' entry.future task) :
    SucceedsAfter k entry s s' ↔ Unhindered k entry (es ++ [event]) := by
  have custody := way.registry.custody
  have sending := way.sends task ends.1
  have itself : task.request = entry.request :=
    congrArg Submission.request (custody.unique (custody.task_mem _ task ends.1) way.member rfl)
  obtain ⟨done, sent, ended, rfl⟩ := ends.sent stepped
  -- a failure that ends the task is no success, and hindered
  have failure : ∀ error sample, done = (task.started s.now).failed s.now error sample →
      ¬ SucceedsAfter k entry s (s.perform entry.future task.request done) := by
    rintro error sample rfl ⟨result, appended, status, _⟩
    cases failed : (task.started s.now).failed s.now error sample with
    | call other correlation sequence => exact absurd failed SendTask.failed_ne_call
    | retry other =>
      rw [failed] at ended
      cases ended
    | report other =>
      rw [failed, (perform_report task.request other entry.future).1, itself] at appended
      cases List.append_cancel_left appended
      rw [SendTask.failed_status failed] at status
      cases status
    | escape raised =>
      rw [failed] at appended
      exact absurd appended (by simp [perform, endTask])
  cases sent.attempt_cases sending.running (lets.live task ends.1)
    (custody.began _ task ends.1) with
  | fails fresh error sample cause =>
    refine ⟨fun succeeds => absurd succeeds (failure error sample rfl), ?_⟩
    rintro ⟨unregistered, _, given⟩
    rcases cause with raises | ⟨_, expects, tracked⟩
    · rw [given event (List.mem_append_right _ List.mem_cons_self)] at raises
      cases raises
    · -- what is registered has been called, but no call may fail
      rw [itself] at tracked
      have positive := (sending.tracked expects).mp tracked
      have bound := sending.calls_le
      rcases unregistered with absent | rfl
      · rw [SendTask.expectsResponse, itself, absent] at expects
        cases expects
      · omega
  | calls fresh given untracked correlation sequence tracked => cases ended
  | callFails calling error sample isAnswer =>
    refine ⟨fun succeeds => absurd succeeds (failure error sample rfl), ?_⟩
    rintro ⟨unregistered, small, given⟩
    subst isAnswer
    obtain ⟨early, transient⟩ := lets.failed
    have unraised : es.countP (DispatcherEvent.raisesIn entry.future) = 0 := by
      refine List.countP_eq_zero.mpr fun event member => ?_
      rw [given event (List.mem_append_left _ member)]
      exact Bool.false_ne_true
    have called := sending.called_le
    rcases unregistered with absent | rfl
    · -- there is another attempt
      have unexpected : task.expectsResponse = false := by
        rw [SendTask.expectsResponse, itself, absent]
        rfl
      have counted := sending.counted unexpected
      have more : (task.started s.now).attempt <
          (task.started s.now).request.retryPolicy.maxRetries := by
        rw [SendTask.started_attempt, SendTask.started_request, itself]
        omega
      have floats : (task.started s.now).attempt ≤ _MAX_FLOAT_EXPONENT := by
        rw [SendTask.started_attempt]
        omega
      obtain ⟨next, retried⟩ :=
        SendTask.failed_again s.now sample transient more floats
      rw [retried] at ended
      cases ended
    · omega
  | succeeds calling responseData sample isAnswer result status retries =>
    subst isAnswer
    have late := lets.returned
    have bound := sending.calls_le
    have calls : (s.perform entry.future task.request (.report result)).callsOf entry.future =
        k + 1 := by
      rw [callsOf_perform, if_pos rfl, SendStep.calls]
      omega
    obtain ⟨appended, resolves⟩ := perform_report (s := s) task.request result entry.future
    have used := sending.used
    constructor
    · rintro ⟨result', appended', _, retries', _⟩
      rw [appended, itself] at appended'
      cases List.append_cancel_left appended'
      have attempts := sending.attempts
      have small := sending.small
      have unraised : es.countP (DispatcherEvent.raisesIn entry.future) = 0 := by omega
      refine ⟨?_, by omega, ?_⟩
      · cases expects : entry.request.expectedResponseOpcode with
        | none => exact .inl rfl
        | some opcode =>
          have once := sending.once (by rw [SendTask.expectsResponse, itself, expects]; rfl)
          exact .inr (by omega)
      · intro event member
        rcases List.mem_append.mp member with old | last
        · exact Bool.eq_false_of_not_eq_true (List.countP_eq_zero.mp unraised event old)
        · rw [List.mem_singleton.mp last]
          rfl
    · rintro ⟨unregistered, _, given⟩
      have unraised : es.countP (DispatcherEvent.raisesIn entry.future) = 0 := by
        refine List.countP_eq_zero.mpr fun event member => ?_
        rw [given event (List.mem_append_left _ member)]
        exact Bool.false_ne_true
      have attempt : task.attempt = k := by
        rcases unregistered with absent | rfl
        · have counted := sending.counted (by rw [SendTask.expectsResponse, itself, absent]; rfl)
          omega
        · have first := sending.first (by omega)
          omega
      rw [itself] at appended resolves calls ⊢
      exact ⟨result, appended, status, by omega, calls, resolves sending.filed⟩

end OnItsWay

/-- In every run a request has at most `max_retries + 1` calls. A request whose first `k` calls
fail with errors that are retried after, whose next call succeeds, that does not expire and is
not stopped, comes to the end of its send task after finitely many steps of it, each of which
can be taken; and it ends with success after `k + 1` calls and `k` retries exactly when nothing
else costs it an attempt. -/
theorem retry_law (limits : Limits) (now : Rat) :
    (∀ events s, dispatcherSystem.exec (Dispatcher.new limits now) events = some s →
      s.CallsWithin) ∧
    ∀ before entry s₁ after s k, Submits limits now before entry s₁ →
      dispatcherSystem.exec s₁ after = some s →
      dispatcherSystem.Guarded (Lets k entry.future) s₁ after →
      k ≤ entry.request.retryPolicy.maxRetries →
      ∀ task, s.tasks.get? entry.future = some task →
        (after.countP (DispatcherEvent.isOwn entry.future) ≤
            2 * entry.request.retryPolicy.maxRetries + 1 ∧
          ∀ sequence outcome sample,
            (s.step (.advance entry.future sequence sample)).isSome = true ∨
              (s.step (.answer entry.future outcome sample)).isSome = true) ∧
        ∀ event s', s.step event = some s' → Lets k entry.future s event →
          TaskEnds s s' entry.future task →
          (SucceedsAfter k entry s s' ↔ Unhindered k entry (after ++ [event])) := by
  refine ⟨fun events s ran => (reachable_counted ran).within, ?_⟩
  intro before entry s₁ after s k submits ran lets within task found
  have way : OnItsWay k entry after s := by
    apply dispatcherSystem.exec_history (OnItsWay k entry) _ submits.onItsWay lets ran
    intro es m event m' way lets stepped
    exact way.step lets stepped
  constructor
  · refine ⟨?_, step_own found⟩
    have custody := way.registry.custody
    have itself : task.request = entry.request :=
      congrArg Submission.request (custody.unique (custody.task_mem _ task found) way.member rfl)
    have attempts := custody.attempts _ task found
    have steps := (way.sends task found).steps
    have called : task.called ≤ 1 := by
      unfold SendTask.called
      split
      · exact le_refl 1
      · exact Nat.zero_le 1
    rw [itself] at attempts
    omega
  · intro event s' stepped letsLast ends
    exact way.ends letsLast within stepped ends

/-! ### Two requests -/

instance (k : Nat) (future : FutureId) (s : Dispatcher) (event : DispatcherEvent) :
    Decidable (Lets k future s event) :=
  decidable_of_iff (event.stops = false ∧ s.UsesFreshId event ∧
      (∀ task ∈ s.tasks.get? future, task.request.isExpired s.now = false) ∧
      ∀ outcome ∈ event.answerOf future,
        if s.callsOf future ≤ k then failsTransiently outcome = true else outcome.isOk = true)
    ⟨fun ⟨unstopped, fresh, live, answers⟩ => ⟨unstopped, fresh, live, answers⟩,
      fun ⟨unstopped, fresh, live, answers⟩ => ⟨unstopped, fresh, live, answers⟩⟩

/-- Two calls fail. -/
def retriedRun : List DispatcherEvent :=
  [.iterate, .get ⟨sampleRequest 7 none, 0⟩ false, .advance 0 (.ok 1) 0,
    .answer 0 (.error .osError) 0, .advance 0 (.ok 2) 0, .answer 0 (.error .timeoutError) 0,
    .advance 0 (.ok 3) 0]

theorem retriedRun_succeeds : ∃ s s' : Dispatcher,
    s.step (.answer 0 (.ok []) 0) = some s' ∧
      SucceedsAfter 2 ⟨sampleRequest 7 none, 0⟩ s s' := by
  have ran : ∃ s₀ ∈ dispatcherSystem.exec (Dispatcher.new {} 0) [.start],
      ∃ s₁ ∈ s₀.step (.enqueue (sampleRequest 7 none) false),
        s₁.submitted = s₀.submitted ++ [⟨sampleRequest 7 none, 0⟩] ∧
        dispatcherSystem.Guarded (Lets 2 0) s₁ retriedRun ∧
        ∃ s ∈ dispatcherSystem.exec s₁ retriedRun, ∃ task ∈ s.tasks.get? 0,
          Lets 2 0 s (.answer 0 (.ok []) 0) ∧ ∃ s' ∈ s.step (.answer 0 (.ok []) 0),
            s'.tasks.get? 0 = none := by decide +kernel
  obtain ⟨s₀, started, s₁, enqueued, submitted, lets, s, ran, task, found, letsLast, s', stepped,
    gone⟩ := ran
  refine ⟨s, s', stepped, ?_⟩
  have submits : Submits {} 0 [.start] ⟨sampleRequest 7 none, 0⟩ s₁ :=
    ⟨s₀, false, started, by decide +kernel, enqueued, submitted⟩
  have law := (retry_law {} 0).2 [.start] ⟨sampleRequest 7 none, 0⟩ s₁ retriedRun s 2 submits ran
    lets (by decide) task found
  refine (law.2 _ s' stepped letsLast ⟨found, gone⟩).mpr ⟨.inl rfl, by decide, ?_⟩
  decide

/-- A request that expects a response and whose first call fails is registered already when it
is tried again. It ends with an error after one call. -/
theorem registeredRequest_fails :
    ∃ s₁ ∈ dispatcherSystem.exec (Dispatcher.new {} 0)
        [.start, .enqueue (sampleRequest 7 (some 0x8204)) false],
      dispatcherSystem.Guarded (Lets 1 0) s₁
        [.iterate, .get ⟨sampleRequest 7 (some 0x8204), 0⟩ false, .advance 0 (.ok 1) 0,
          .answer 0 (.error .osError) 0, .advance 0 (.ok 2) 0, .advance 0 (.ok 3) 0,
          .advance 0 (.ok 4) 0] ∧
      ∃ s ∈ dispatcherSystem.exec s₁
        [.iterate, .get ⟨sampleRequest 7 (some 0x8204), 0⟩ false, .advance 0 (.ok 1) 0,
          .answer 0 (.error .osError) 0, .advance 0 (.ok 2) 0, .advance 0 (.ok 3) 0,
          .advance 0 (.ok 4) 0],
        s.tasks.get? 0 = none ∧ s.callsOf 0 = 1 ∧
          s.appended.map (fun entry => (entry.2.status, entry.2.error)) =
            [(.error, some (.correlationConflictError "Request 7 already registered"))] := by
  decide +kernel

end Dispatcher

end TuyaBleMesh
