import TuyaBleMesh.Transport.Lifecycle

/-!
# The books of a dispatcher

What completions change: the table of futures, the futures, the recorded results and
the history. What one step does to the books, to the submissions and to the
correlation table, and what follows for every run.
-/

namespace TuyaBleMesh

/-! ### Books -/

/-- What completions change. -/
structure Books where
  resultFutures : OrderedDict RequestId FutureId
  futures : FutureId → FutureState
  recorded : List (CommandResult × Nat)
  appended : List (CommandRequest × CommandResult)

def Dispatcher.books (s : Dispatcher) : Books where
  resultFutures := s.resultFutures
  futures := s.futures
  recorded := s.recorded
  appended := s.appended

namespace Books

/-- All futures filed or done are among the first `n`. -/
structure Within (b : Books) (n : Nat) : Prop where
  filed : ∀ requestId future, b.resultFutures.get? requestId = some future → future < n
  unissued : ∀ future, n ≤ future → b.futures future = .pending

/-- The effect of one `_complete_request`. -/
def complete (b : Books) (completion : CommandRequest × CommandResult) : Books where
  resultFutures := b.resultFutures.erase completion.1.requestId
  futures :=
    match b.resultFutures.get? completion.1.requestId with
    | none => b.futures
    | some future =>
      if (b.futures future).done then b.futures
      else Function.update b.futures future (.resolved completion.2)
  recorded := b.recorded ++ [(completion.2, completion.1.opcode)]
  appended := b.appended ++ [completion]

/-- The results recorded for a request. -/
def recordings (b : Books) (requestId : RequestId) : List CommandResult :=
  (b.recorded.map Prod.fst).filter fun result => result.requestId = requestId

/-- The results appended to the history for a request. -/
def appendings (b : Books) (requestId : RequestId) : List CommandResult :=
  (b.appended.filter fun entry => entry.1.requestId = requestId).map Prod.snd

section Complete

variable {b : Books} {completion : CommandRequest × CommandResult}

theorem recordings_complete (own : completion.2.requestId = completion.1.requestId)
    (requestId : RequestId) : (b.complete completion).recordings requestId =
      b.recordings requestId ++
        if completion.1.requestId = requestId then [completion.2] else [] := by
  by_cases this : completion.1.requestId = requestId
  · simp [recordings, complete, own, this]
  · simp [recordings, complete, own, this]

theorem appendings_complete (requestId : RequestId) :
    (b.complete completion).appendings requestId =
      b.appendings requestId ++
        if completion.1.requestId = requestId then [completion.2] else [] := by
  by_cases this : completion.1.requestId = requestId
  · simp [appendings, complete, this]
  · simp [appendings, complete, this]

theorem Within.complete {n : Nat} (within : b.Within n)
    (completion : CommandRequest × CommandResult) : (b.complete completion).Within n := by
  constructor
  · intro requestId future found
    have kept := (OrderedDict.get?_erase b.resultFutures completion.1.requestId requestId).symm.trans
      found
    split at kept
    · cases kept
    · exact within.filed requestId future kept
  · intro future above
    simp only [Books.complete]
    cases filed : b.resultFutures.get? completion.1.requestId with
    | none => exact within.unissued future above
    | some target =>
      dsimp only
      split
      · exact within.unissued future above
      · have below := within.filed _ target filed
        have other : future ≠ target := (lt_of_lt_of_le below above).ne'
        rw [Function.update_of_ne other]
        exact within.unissued future above

/-- A completion resolves at most the future filed under its id. -/
theorem complete_futures {future : FutureId} :
    (b.complete completion).futures future = b.futures future ∨
      (b.complete completion).futures future = .resolved completion.2 := by
  unfold Books.complete
  cases b.resultFutures.get? completion.1.requestId with
  | none => exact .inl rfl
  | some target =>
    dsimp only
    split
    · exact .inl rfl
    · by_cases same : future = target
      · subst same
        exact .inr (Function.update_self _ _ _)
      · exact .inl (Function.update_of_ne same _ _)

end Complete

/-! ### Several completions -/

section CompleteAll

variable {b : Books} {completions : List (CommandRequest × CommandResult)}

theorem recordings_completeAll
    (own : ∀ completion ∈ completions, completion.2.requestId = completion.1.requestId)
    (requestId : RequestId) : (completions.foldl complete b).recordings requestId =
      b.recordings requestId ++
        (completions.filter fun completion => completion.1.requestId = requestId).map Prod.snd := by
  -- the completions are folded from the left, so each meets the books of those before
  induction completions generalizing b with
  | nil => simp
  | cons completion completions ih =>
    have first := recordings_complete (b := b) (own completion List.mem_cons_self) requestId
    have rest := ih (b := b.complete completion)
      fun other member => own other (List.mem_cons_of_mem _ member)
    rw [List.foldl_cons, rest, first, List.append_assoc, List.filter_cons]
    by_cases this : completion.1.requestId = requestId
    · simp [this]
    · simp [this]

theorem mem_keys_completeAll {requestId : RequestId} :
    requestId ∈ (completions.foldl complete b).resultFutures.keys ↔
      requestId ∈ b.resultFutures.keys ∧
        ∀ completion ∈ completions, completion.1.requestId ≠ requestId := by
  induction completions generalizing b with
  | nil => simp
  | cons completion completions ih =>
    have one : requestId ∈ (b.complete completion).resultFutures.keys ↔
        requestId ≠ completion.1.requestId ∧ requestId ∈ b.resultFutures.keys :=
      OrderedDict.mem_keys_erase
    rw [List.foldl_cons, ih, one, List.forall_mem_cons]
    constructor
    · rintro ⟨⟨other, filed⟩, rest⟩
      exact ⟨filed, other.symm, rest⟩
    · rintro ⟨filed, other, rest⟩
      exact ⟨⟨other.symm, filed⟩, rest⟩

/-- A request that is not completed stays filed as it is. -/
theorem get?_completeAll {requestId : RequestId}
    (spared : ∀ completion ∈ completions, completion.1.requestId ≠ requestId) :
    (completions.foldl complete b).resultFutures.get? requestId =
      b.resultFutures.get? requestId := by
  induction completions generalizing b with
  | nil => rfl
  | cons completion completions ih =>
    have one : (b.complete completion).resultFutures.get? requestId =
        b.resultFutures.get? requestId :=
      (OrderedDict.get?_erase _ _ _).trans
        (if_neg (spared completion List.mem_cons_self).symm)
    rw [List.foldl_cons, ih fun other member => spared other (List.mem_cons_of_mem _ member), one]

theorem Within.completeAll {n : Nat} (within : b.Within n) :
    (completions.foldl Books.complete b).Within n := by
  induction completions generalizing b with
  | nil => exact within
  | cons completion completions ih => exact ih (within.complete completion)

theorem completeAll_futures (b : Books) (completions : List (CommandRequest × CommandResult))
    {future : FutureId} :
    (completions.foldl Books.complete b).futures future = b.futures future ∨
      ∃ completion ∈ completions,
        (completions.foldl Books.complete b).futures future = .resolved completion.2 := by
  induction completions generalizing b with
  | nil => exact .inl rfl
  | cons completion completions ih =>
    rw [List.foldl_cons]
    rcases ih (b.complete completion) with same | ⟨other, member, resolved⟩
    · rw [same]
      rcases complete_futures (b := b) with same' | resolved
      · exact .inl same'
      · exact .inr ⟨completion, List.mem_cons_self, resolved⟩
    · exact .inr ⟨other, List.mem_cons_of_mem _ member, resolved⟩

end CompleteAll

end Books

/-! ### What a step does to the books -/

namespace Dispatcher

section BooksOf

variable (s : Dispatcher)

theorem books_completeRequest (request : CommandRequest) (result : CommandResult) :
    (s.completeRequest request result).books = s.books.complete (request, result) := by
  simp only [completeRequest, record]
  unfold books Books.complete
  -- a future that was popped before is not resolved again
  cases filed : s.resultFutures.get? request.requestId with
  | none =>
    rw [OrderedDict.erase_of_absent filed]
  | some future =>
    unfold settle
    dsimp only
    split
    · rfl
    · rfl

/-- The completions of a sweep. -/
def sweepCompletions : List (CommandRequest × CommandResult) :=
  (s.correlation.stale s.now).map fun expired => (expired.val, timeoutResult expired)

private theorem books_foldl {now : Rat} (stale : List (ExpiredRequest now)) :
    (stale.foldl (fun s expired => s.completeRequest expired.val (timeoutResult expired)) s).books =
      (stale.map fun expired => (expired.val, timeoutResult expired)).foldl
        Books.complete s.books := by
  induction stale generalizing s with
  | nil => rfl
  | cons expired stale ih =>
    rw [List.foldl_cons, List.map_cons, List.foldl_cons, ih, books_completeRequest]

theorem books_expireStale :
    s.expireStale.books = s.sweepCompletions.foldl Books.complete s.books :=
  books_foldl _ _

end BooksOf

end Dispatcher

namespace SendTask

/-- What a send task reports is about its own request, and is no cancellation. -/
def Reports (task : SendTask) (done : SendStep) : Prop :=
  ∀ result, done = .report result →
    result.requestId = task.request.requestId ∧ result.status ≠ .cancelled

variable {task : SendTask} {now : Rat} {done : SendStep}

theorem giveUp_own : task.Reports (task.giveUp now) := by
  intro result reported
  unfold giveUp at reported
  split at reported
  · next valid =>
    cases reported
    obtain ⟨own, status, _⟩ := commandResult_fields valid
    exact ⟨own, by rw [status]; decide⟩
  · cases reported

theorem failed_own (error : PyError) (sample : Rat) :
    task.Reports (task.failed now error sample) := by
  intro result reported
  unfold failed at reported
  -- retryable or not, and then with attempts left or not
  split at reported
  · dsimp only at reported
    split at reported
    · have own : (task.afterFailure error).Reports ((task.afterFailure error).giveUp now) :=
        giveUp_own
      exact own result reported
    · split at reported
      · cases reported
      · cases reported
  · cases reported

/-- A failed attempt calls nothing. -/
theorem failed_ne_call {task' : SendTask} {error : PyError} {sample : Rat}
    {correlation : CorrelationEngine} {sequence : Nat} :
    task.failed now error sample ≠ .call task' correlation sequence := by
  unfold failed giveUp
  split
  · dsimp only
    split
    · split <;> nofun
    · split <;> nofun
  · nofun

theorem tryCall_own (running : Bool) (correlation : CorrelationEngine)
    (sequence : Except PyError Nat) (sample : Rat) :
    task.Reports (task.tryCall running now correlation sequence sample) := by
  unfold tryCall
  -- a stopped dispatcher gives the request up
  split
  · exact giveUp_own
  · cases sequence with
    | error error => exact failed_own error sample
    | ok sequence =>
      dsimp only
      split
      · split
        · exact failed_own _ sample
        · intro result reported
          cases reported
      · intro result reported
        cases reported

theorem answered_own {outcome : Except PyError Bytes} {sample : Rat}
    (answered : task.answered now outcome sample = some done) : task.Reports done := by
  unfold SendTask.answered at answered
  -- only a call that is under way is answered
  split at answered
  · split at answered
    · cases answered
      exact failed_own _ sample
    · split at answered
      · next result' valid =>
        cases answered
        intro result reported
        cases reported
        obtain ⟨own, status, _⟩ := commandResult_fields valid
        exact ⟨own, by rw [status]; decide⟩
      · cases answered
        exact failed_own _ sample
  · cases answered

theorem sendEvent_own {s : Dispatcher} {future : FutureId} {event : DispatcherEvent}
    (sent : SendEvent s future task event done) : task.Reports done := by
  cases sent with
  | advance advanced =>
    obtain ⟨_, rfl⟩ := advance_eq advanced
    intro result reported
    rw [← (started_request : (task.started s.now).request = task.request)]
    exact tryCall_own _ _ _ _ result reported
  | answer answered => exact answered_own answered

end SendTask

/-- What a call of `_send_callback` has registered. -/
theorem SendTask.call_registers {task task' : SendTask} {running : Bool} {now : Rat}
    {correlation correlation' : CorrelationEngine} {sequence : Except PyError Nat} {sample : Rat}
    {number : Nat}
    (calls : task.tryCall running now correlation sequence sample =
      .call task' correlation' number) (request : CommandRequest) :
    (correlation'.Holds request → correlation.Holds request ∨ task.request = request) ∧
      (correlation.Holds request → correlation'.Holds request) := by
  unfold tryCall at calls
  split at calls
  -- giving up reports, it calls nothing
  · unfold giveUp at calls
    split at calls <;> cases calls
  · cases sequence with
    | error error => exact absurd calls failed_ne_call
    | ok sequence =>
      dsimp only at calls
      split at calls
      · cases registered : correlation.register task.request sequence with
        | error error =>
          rw [registered] at calls
          exact absurd calls failed_ne_call
        | ok engine =>
          rw [registered] at calls
          cases calls
          have holds := CorrelationEngine.register_holds registered request
          exact ⟨fun held => (holds.mp held).imp_right Eq.symm, fun held => holds.mpr (.inl held)⟩
      · cases calls
        exact ⟨.inl, id⟩

/-- What a step does to the books, the submissions and the correlation table. -/
inductive BooksStep (s : Dispatcher) (event : DispatcherEvent) (s' : Dispatcher) : Prop
  /-- At most a send task registers its request. -/
  | same (books : s'.books = s.books) (submitted : s'.submitted = s.submitted)
      (registers : ∀ request, s'.correlation.Holds request → s.correlation.Holds request ∨
        ∃ future task, s.tasks.get? future = some task ∧ event.isOwn future = true ∧
          task.request = request)
      (keeps : ∀ request, s.correlation.Holds request → s'.correlation.Holds request)
  | reject (request : CommandRequest) (raises : Bool) (isEnqueue : event = .enqueue request raises)
      (expired : request.isExpired s.now = true)
      (books : s'.books = { s.books with
        recorded := s.recorded ++ [(timeoutResult ⟨request, expired⟩, request.opcode)] })
      (submitted : s'.submitted = s.submitted) (correlation : s'.correlation = s.correlation)
  | submit (request : CommandRequest) (raises : Bool) (isEnqueue : event = .enqueue request raises)
      (books : s'.books = { s.books with
        resultFutures := s.resultFutures.set request.requestId s.submitted.length })
      (submitted : s'.submitted = s.submitted ++ [⟨request, s.submitted.length⟩])
      (correlation : s'.correlation = s.correlation)
  | abandon (future : FutureId) (pending : s.futures future = .pending)
      (issued : future < s.submitted.length)
      (books : s'.books = { s.books with futures := Function.update s.futures future .abandoned })
      (submitted : s'.submitted = s.submitted) (correlation : s'.correlation = s.correlation)
  | sweep (isIterate : event = .iterate) (running : s.running = true)
      (books : s'.books = s.sweepCompletions.foldl Books.complete s.books)
      (submitted : s'.submitted = s.submitted)
      (correlation : s'.correlation = (s.correlation.expireStale s.now).2)
  | timeOut (entry : Submission) (expired : entry.request.isExpired s.now = true)
      (held : (entry :: s'.unsent).Subperm s.unsent) (tasks : s'.tasks = s.tasks)
      (books : s'.books = s.books.complete (entry.request, timeoutResult ⟨entry.request, expired⟩))
      (submitted : s'.submitted = s.submitted) (correlation : s'.correlation = s.correlation)
  | report (future : FutureId) (task : SendTask) (result : CommandResult)
      (found : s.tasks.get? future = some task)
      (sent : SendEvent s future task event (.report result))
      (books : s'.books = s.books.complete (task.request, result))
      (submitted : s'.submitted = s.submitted) (correlation : s'.correlation = s.correlation)
  | cancel (isStop : event = .stop ∨ event = .stopResumes)
      (submitted : s'.submitted = s.submitted)
      (correlation : s'.correlation = s.correlation ∨ s'.correlation = .empty)

namespace Dispatcher

section BooksStep

variable {s s' : Dispatcher} {event : DispatcherEvent}

private theorem same_of_frame (books : s'.books = s.books) (submitted : s'.submitted = s.submitted)
    (correlation : s'.correlation = s.correlation) : BooksStep s event s' :=
  .same books submitted (fun _ held => .inl (correlation ▸ held)) fun _ held => correlation ▸ held

private theorem awaitCapacity_books {s₀ : Dispatcher} (books : s.books = s₀.books)
    (submitted : s.submitted = s₀.submitted) (correlation : s.correlation = s₀.correlation)
    (entry : Submission) : BooksStep s₀ event (s.awaitCapacity entry) := by
  unfold awaitCapacity
  split
  · exact same_of_frame books submitted correlation
  · split
    · exact same_of_frame books submitted correlation
    · exact same_of_frame books submitted correlation

private theorem perform_books {future : FutureId} {task : SendTask} {done : SendStep}
    (found : s.tasks.get? future = some task) (sent : SendEvent s future task event done) :
    BooksStep s event (s.perform future task.request done) := by
  cases done with
  | call task' correlation sequence =>
    cases sent with
    | advance advanced =>
      obtain ⟨_, calls⟩ := SendTask.advance_eq advanced
      have registers := SendTask.call_registers calls.symm
      refine .same rfl rfl (fun request held => ?_) fun request => (registers request).2
      refine ((registers request).1 held).imp_right fun own => ?_
      rw [SendTask.started_request] at own
      exact ⟨future, task, found, decide_eq_true rfl, own⟩
    | answer answered =>
      -- an answer makes no call
      have moved := SendTask.answered_moves answered
      cases moved with
      | call _ _ fresh =>
        unfold SendTask.answered at answered
        split at answered
        · next calling =>
          rw [SendTask.called, calling] at fresh
          cases fresh
        · cases answered
  | retry task' => exact same_of_frame rfl rfl rfl
  | report result =>
    have completed := s.books_completeRequest task.request result
    obtain ⟨_, _, _, _, _, _, frame⟩ := s.completeRequest_frame task.request result
    refine .report future task result found sent ?_ ?_ ?_
    · exact completed
    · rw [perform, frame]
      rfl
    · rw [perform, frame]
      rfl
  | escape error => exact same_of_frame rfl rfl rfl

private theorem timeOut_books {entry : Submission} {s₀ : Dispatcher} (books : s.books = s₀.books)
    (submitted : s.submitted = s₀.submitted) (correlation : s.correlation = s₀.correlation)
    (now : s.now = s₀.now) (tasks : s.tasks = s₀.tasks)
    (held : (entry :: s.queue).Subperm s₀.unsent)
    (expired : entry.request.isExpired s.now = true) :
    BooksStep s₀ event (s.timeOut entry expired) := by
  have completed := s.books_completeRequest entry.request (timeoutResult ⟨entry.request, expired⟩)
  obtain ⟨_, _, _, _, _, _, frame⟩ :=
    s.completeRequest_frame entry.request (timeoutResult ⟨entry.request, expired⟩)
  have expired₀ : entry.request.isExpired s₀.now = true := by rw [← now, expired]
  have result : timeoutResult ⟨entry.request, expired⟩ =
      timeoutResult (⟨entry.request, expired₀⟩ : ExpiredRequest s₀.now) := by
    simp only [timeoutResult, now]
  refine .timeOut entry expired₀ ?_ ?_ ?_ ?_ ?_
  · rw [timeOut, frame]
    exact held
  · rw [timeOut, frame]
    exact tasks
  · rw [← result, ← books]
    exact completed
  · rw [timeOut, frame]
    exact submitted
  · rw [timeOut, frame]
    exact correlation

private theorem stop_books : BooksStep s .stop s.stop := by
  obtain ⟨_, frame⟩ := ({ s with running := false } : Dispatcher).cancelAll_frame
  unfold stop
  split
  · exact .cancel (.inl rfl) rfl (.inl rfl)
  · dsimp only
    split
    · rw [frame]
      exact .cancel (.inl rfl) rfl (.inr rfl)
    · rw [frame]
      exact .cancel (.inl rfl) rfl (.inr rfl)
    · rw [frame]
      exact .cancel (.inl rfl) rfl (.inr rfl)
    · exact .cancel (.inl rfl) rfl (.inl rfl)
    · exact .cancel (.inl rfl) rfl (.inl rfl)

/-- Every step is one of these. -/
theorem books_cases (stepped : s.step event = some s') : BooksStep s event s' := by
  cases step_cases stepped with
  | start =>
    unfold start
    split
    · exact same_of_frame rfl rfl rfl
    · exact same_of_frame rfl rfl rfl
  | stop => exact stop_books
  | stopResumes halting =>
    obtain ⟨_, frame⟩ := s.cancelAll_frame
    rw [frame]
    exact .cancel (.inr rfl) rfl (.inr rfl)
  | enqueue request raises collides =>
    unfold enqueue
    split
    · next expired => exact .reject request raises rfl expired rfl rfl rfl
    · split
      · exact same_of_frame rfl rfl rfl
      · exact .submit request raises rfl rfl rfl rfl
  | abandon future pending below => exact .abandon future pending below rfl rfl rfl
  | iterate looping =>
    unfold iterate
    split
    · next running =>
      have books := s.books_expireStale
      obtain ⟨_, _, _, _, _, _, frame⟩ := s.expireStale_frame
      refine .sweep rfl running books ?_ ?_
      · rw [frame]
      · rw [frame]
    · exact same_of_frame rfl rfl rfl
  | take entry polling member least =>
    simp only [take]
    split
    · next expired =>
      refine timeOut_books (s := { s with queue := s.queue.erase entry }) ?_ ?_ ?_ ?_ ?_ ?_
        expired
      · rfl
      · rfl
      · rfl
      · rfl
      · rfl
      · exact polled_held polling member
    · apply awaitCapacity_books
      · rfl
      · rfl
      · rfl
  | recheck entry waiting =>
    unfold recheck
    split
    · exact same_of_frame rfl rfl rfl
    · split
      · next expired =>
        exact timeOut_books rfl rfl rfl rfl rfl (waiting_held waiting) expired
      · exact awaitCapacity_books rfl rfl rfl entry
  | send future task done found sent => exact perform_books found sent
  | _ => exact same_of_frame rfl rfl rfl

end BooksStep

/-! ### Submissions -/

section Submissions

variable {s s' : Dispatcher} {event : DispatcherEvent}

/-- Unsent entries are old ones, or the one just submitted. -/
theorem unsent_cases (stepped : s.step event = some s') {entry : Submission}
    (member : entry ∈ s'.unsent) : entry ∈ s.unsent ∨
      ∃ raises, event = .enqueue entry.request raises ∧
        s'.submitted = s.submitted ++ [entry] := by
  cases custody_cases stepped with
  | quiet tasks submitted calls unsent now => exact .inl (unsent.subset member)
  | submit request raises isEnqueue tasks submitted calls unsent now =>
    rw [unsent] at member
    rcases List.mem_append.mp member with old | new
    · exact .inl old
    · cases List.mem_singleton.mp new
      exact .inr ⟨raises, isEnqueue, submitted⟩
  | launch launched tasks submitted calls unsent now running =>
    exact .inl (unsent.subset (List.mem_cons_of_mem _ member))
  | send future task done found sent after =>
    rw [after, (s.perform_frame future task.request done).1] at member
    exact .inl member

theorem unsent_old (stepped : s.step event = some s') (submitted : s'.submitted = s.submitted) :
    ∀ entry ∈ s'.unsent, entry ∈ s.unsent := by
  intro entry member
  rcases unsent_cases stepped member with old | ⟨_, _, longer⟩
  · exact old
  · rw [submitted] at longer
    exact absurd longer (by simp)

theorem sweepCompletions_own :
    ∀ completion ∈ s.sweepCompletions, completion.2.requestId = completion.1.requestId := by
  intro completion member
  obtain ⟨expired, _, rfl⟩ := List.mem_map.mp member
  rfl

theorem mem_sweepCompletions {completion : CommandRequest × CommandResult} :
    completion ∈ s.sweepCompletions ↔
      ∃ expired ∈ s.correlation.stale s.now, (expired.val, timeoutResult expired) = completion :=
  List.mem_map

end Submissions

/-! ### Futures are numbered -/

section Issued

variable {s s' : Dispatcher} {event : DispatcherEvent} {future : FutureId}

theorem settle_futures (future target : FutureId) (result : CommandResult) :
    (s.settle target result).futures future = s.futures future ∨
      future = target ∧ s.futures future = .pending ∧
        (s.settle target result).futures future = .resolved result := by
  unfold settle
  cases state : s.futures target with
  | pending =>
    rw [if_neg (by simp [FutureState.done])]
    by_cases same : future = target
    · subst same
      exact .inr ⟨rfl, state, Function.update_self _ _ _⟩
    · exact .inl (Function.update_of_ne same _ _)
  | resolved other => exact .inl rfl
  | abandoned => exact .inl rfl

private theorem settleAll_futures (future : FutureId) (entries : List (RequestId × FutureId))
    (s : Dispatcher) :
    (entries.foldl (fun s (requestId, future) => s.settle future (cancelledResult requestId))
      s).futures future = s.futures future ∨
      s.futures future = .pending ∧ ∃ requestId, (requestId, future) ∈ entries := by
  -- on the futures still filed, each resolved only if it is open
  induction entries generalizing s with
  | nil => exact .inl rfl
  | cons entry entries ih =>
    rw [List.foldl_cons]
    rcases ih (s.settle entry.2 (cancelledResult entry.1)) with same | ⟨pending, id, member⟩
    · rcases s.settle_futures future entry.2 (cancelledResult entry.1) with
        same' | ⟨own, pending, _⟩
      · exact .inl (same.trans same')
      · exact .inr ⟨pending, entry.1, by rw [own]; exact List.mem_cons_self⟩
    · rcases s.settle_futures future entry.2 (cancelledResult entry.1) with
        same' | ⟨own, pending', _⟩
      · exact .inr ⟨same' ▸ pending, id, List.mem_cons_of_mem _ member⟩
      · exact .inr ⟨pending', id, List.mem_cons_of_mem _ member⟩

/-- `stop` resolves futures that are open and filed. -/
theorem cancelAll_futures (future : FutureId) : s.cancelAll.futures future = s.futures future ∨
    s.futures future = .pending ∧ ∃ requestId, s.resultFutures.get? requestId = some future := by
  rcases settleAll_futures future s.resultFutures.entries s with same | ⟨pending, requestId, member⟩
  · exact .inl same
  · exact .inr ⟨pending, requestId, OrderedDict.get?_eq_some_iff.mpr member⟩

/-- All futures filed or done belong to submissions. -/
def Issued (s : Dispatcher) : Prop := s.books.Within s.submitted.length

private theorem Issued.same (issued : s.Issued) (resultFutures : s'.resultFutures = s.resultFutures)
    (futures : s'.futures = s.futures) (submitted : s'.submitted = s.submitted) : s'.Issued := by
  constructor
  · intro requestId future found
    rw [submitted]
    apply issued.filed requestId future
    show s.resultFutures.get? requestId = some future
    rw [← resultFutures]
    exact found
  · intro future above
    rw [submitted] at above
    exact (congrFun futures future).trans (issued.unissued future above)

theorem Issued.cancelAll (issued : s.Issued) : s.cancelAll.Issued := by
  have submitted : s.cancelAll.submitted = s.submitted := by
    obtain ⟨_, frame⟩ := s.cancelAll_frame
    rw [frame]
  constructor
  · intro requestId future found
    cases found
  · intro future above
    rw [submitted] at above
    rcases s.cancelAll_futures future with same | ⟨_, requestId, filed⟩
    · exact same.trans (issued.unissued future above)
    · exact absurd (issued.filed requestId future filed) (Nat.not_lt.mpr above)

private theorem Issued.completed (issued : s.Issued)
    {completions : List (CommandRequest × CommandResult)}
    (books : s'.books = completions.foldl Books.complete s.books)
    (submitted : s'.submitted = s.submitted) : s'.Issued := by
  rw [Issued, books, submitted]
  exact Books.Within.completeAll issued

private theorem Issued.submit (issued : s.Issued) {request : CommandRequest}
    (books : s'.books = { s.books with
      resultFutures := s.resultFutures.set request.requestId s.submitted.length })
    (submitted : s'.submitted = s.submitted ++ [⟨request, s.submitted.length⟩]) : s'.Issued := by
  have files : s'.resultFutures = s.resultFutures.set request.requestId s.submitted.length :=
    congrArg Books.resultFutures books
  constructor
  · intro requestId future found
    have found' : s'.resultFutures.get? requestId = some future := found
    rw [files, OrderedDict.get?_set] at found'
    rw [submitted, List.length_append, List.length_singleton]
    -- the new request is filed under the number it gets
    split at found'
    · cases found'
      exact Nat.lt_succ_self _
    · exact Nat.lt_succ_of_lt (issued.filed requestId future found')
  · intro future above
    rw [submitted, List.length_append, List.length_singleton] at above
    have kept : s'.futures = s.futures := congrArg Books.futures books
    exact (congrFun kept future).trans (issued.unissued future (Nat.le_of_succ_le above))

private theorem Issued.abandon (issued : s.Issued) {target : FutureId}
    (below : target < s.submitted.length)
    (books : s'.books = { s.books with futures := Function.update s.futures target .abandoned })
    (submitted : s'.submitted = s.submitted) : s'.Issued := by
  rw [Issued, books, submitted]
  constructor
  · exact issued.filed
  · intro future above
    have different : future ≠ target := (lt_of_lt_of_le below above).ne'
    exact (Function.update_of_ne different _ _).trans (issued.unissued future above)

private theorem Issued.stop (issued : s.Issued) : s.stop.Issued := by
  have halted : ({ s with running := false } : Dispatcher).Issued := issued
  unfold Dispatcher.stop
  split
  · exact issued
  -- the futures are cancelled at once unless a worker has to end first
  · dsimp only
    split
    · exact halted.cancelAll
    · exact halted.cancelAll
    · exact halted.cancelAll
    · exact halted
    · exact issued

theorem Issued.step (issued : s.Issued) (stepped : s.step event = some s') : s'.Issued := by
  cases books_cases stepped with
  | same books submitted registers keeps =>
    exact issued.same (congrArg Books.resultFutures books) (congrArg Books.futures books) submitted
  | reject request raises isEnqueue expired books submitted correlation =>
    exact issued.same (congrArg Books.resultFutures books) (congrArg Books.futures books) submitted
  | submit request raises isEnqueue books submitted correlation =>
    exact issued.submit books submitted
  | abandon target pending below books submitted correlation =>
    exact issued.abandon below books submitted
  | sweep isIterate running books submitted correlation => exact issued.completed books submitted
  | timeOut entry expired held tasks books submitted correlation =>
    have books' : s'.books =
        [(entry.request, timeoutResult ⟨entry.request, expired⟩)].foldl Books.complete s.books :=
      books
    exact issued.completed books' submitted
  | report target task result found sent books submitted correlation =>
    have books' : s'.books = [(task.request, result)].foldl Books.complete s.books := books
    exact issued.completed books' submitted
  | cancel isStop submitted correlation =>
    rcases isStop with rfl | rfl
    · cases stepped
      exact issued.stop
    · cases step_cases stepped with
      | stopResumes halting => exact issued.cancelAll
      | send future task done found sent => cases sent

theorem issued_new (limits : Limits) (now : Rat) : (Dispatcher.new limits now).Issued :=
  ⟨fun requestId future found => (by cases found), fun _ _ => rfl⟩

end Issued

/-! ### Request ids -/

/-- No request or result has this id yet. -/
def Unused (s : Dispatcher) (requestId : RequestId) : Prop :=
  (∀ entry ∈ s.submitted, entry.request.requestId ≠ requestId) ∧
    s.books.recordings requestId = [] ∧ s.books.appendings requestId = []

/-- A request id is used for one request: ids are UUIDs. -/
def UsesFreshId (s : Dispatcher) : DispatcherEvent → Prop
  | .enqueue request _ => s.Unused request.requestId
  | _ => True

instance (s : Dispatcher) (requestId : RequestId) : Decidable (s.Unused requestId) :=
  inferInstanceAs (Decidable (_ ∧ _ ∧ _))

instance (s : Dispatcher) : ∀ event, Decidable (s.UsesFreshId event)
  | .enqueue request _ => inferInstanceAs (Decidable (s.Unused request.requestId))
  | .wait _ | .start | .stop | .stopResumes | .abandon _ | .iterate | .pollTimeout | .get _ _
  | .recheck | .advance _ _ _ | .answer _ _ _ => isTrue trivial

/-- What ties the ids of requests to the queue, the tasks and the correlation table. -/
structure Registry (s : Dispatcher) : Prop where
  custody : s.Custody
  distinct : (s.submitted.map fun entry => entry.request.requestId).Nodup
  registered : ∀ request, s.correlation.Holds request →
    ∃ entry ∈ s.submitted, entry.request = request
  unsent_untracked : ∀ entry ∈ s.unsent, ¬ s.correlation.Tracks entry.request.requestId

section Registry

variable {s s' : Dispatcher} {event : DispatcherEvent}

/-- An id belongs to one submission. -/
theorem Registry.unique (registry : s.Registry) {x y : Submission} (first : x ∈ s.submitted)
    (second : y ∈ s.submitted) (same : x.request.requestId = y.request.requestId) : x = y :=
  (List.nodup_map_iff_inj_on (List.Nodup.of_map _ registry.distinct)).mp registry.distinct
    x first y second same

/-- The request of a send task is not that of an unsent entry. -/
theorem Registry.task_apart (registry : s.Registry) {future : FutureId} {task : SendTask}
    (found : s.tasks.get? future = some task) {entry : Submission} (member : entry ∈ s.unsent) :
    task.request.requestId ≠ entry.request.requestId := by
  intro same
  -- two submissions of one id are one, and it cannot both wait and be under way
  have one := registry.unique (registry.custody.task_mem future task found)
    (registry.custody.unsent_mem entry member) same
  have absent := registry.custody.apart entry member
  rw [← one, found] at absent
  cases absent

private theorem Registry.quiet (registry : s.Registry) (stepped : s.step event = some s')
    (submitted : s'.submitted = s.submitted)
    (registers : ∀ request, s'.correlation.Holds request → s.correlation.Holds request ∨
      ∃ future task, s.tasks.get? future = some task ∧ event.isOwn future = true ∧
        task.request = request) :
    s'.Registry where
  custody := registry.custody.step stepped
  distinct := by
    rw [submitted]
    exact registry.distinct
  registered request held := by
    rw [submitted]
    rcases registers request held with before | ⟨future, task, found, _, rfl⟩
    · exact registry.registered request before
    · exact ⟨_, registry.custody.task_mem future task found, rfl⟩
  unsent_untracked entry member tracked := by
    have old := unsent_old stepped submitted entry member
    -- what is registered anew belongs to a send task
    obtain ⟨request, held, same⟩ := CorrelationEngine.tracks_iff_holds.mp tracked
    rcases registers request held with before | ⟨future, task, found, _, rfl⟩
    · apply registry.unsent_untracked entry old
      exact CorrelationEngine.tracks_iff_holds.mpr ⟨request, before, same⟩
    · exact registry.task_apart found old same

private theorem Registry.submit (registry : s.Registry) (stepped : s.step event = some s')
    {request : CommandRequest}
    (others : ∀ entry ∈ s.submitted, entry.request.requestId ≠ request.requestId)
    (submitted : s'.submitted = s.submitted ++ [⟨request, s.submitted.length⟩])
    (correlation : s'.correlation = s.correlation) : s'.Registry := by
  -- an id that no submission has is not in flight either
  have untracked : ¬ s.correlation.Tracks request.requestId := by
    intro tracked
    obtain ⟨other, held, same⟩ := CorrelationEngine.tracks_iff_holds.mp tracked
    obtain ⟨entry, old, rfl⟩ := registry.registered other held
    exact others entry old same
  refine ⟨registry.custody.step stepped, ?_, ?_, ?_⟩
  · rw [submitted, List.map_append]
    refine registry.distinct.append (List.nodup_singleton _) ?_
    rw [List.map_singleton, List.disjoint_singleton]
    intro member
    obtain ⟨entry, old, same⟩ := List.mem_map.mp member
    exact others entry old same
  · intro other held
    rw [correlation] at held
    obtain ⟨entry, old, same⟩ := registry.registered other held
    rw [submitted]
    exact ⟨entry, List.mem_append_left _ old, same⟩
  · intro entry member
    rw [correlation]
    rcases unsent_cases stepped member with old | ⟨_, _, longer⟩
    · exact registry.unsent_untracked entry old
    · rw [submitted] at longer
      cases List.append_cancel_left longer
      exact untracked

/-- Every step keeps it, as long as no id is used twice. -/
theorem Registry.step (registry : s.Registry) (fresh : s.UsesFreshId event)
    (stepped : s.step event = some s') : s'.Registry := by
  cases books_cases stepped with
  | same books submitted registers keeps => exact registry.quiet stepped submitted registers
  | reject request raises isEnqueue expired books submitted correlation =>
    exact registry.quiet stepped submitted fun _ held => .inl (correlation ▸ held)
  | submit request raises isEnqueue books submitted correlation =>
    subst isEnqueue
    exact registry.submit stepped fresh.1 submitted correlation
  | abandon future pending issued books submitted correlation =>
    exact registry.quiet stepped submitted fun _ held => .inl (correlation ▸ held)
  | sweep isIterate running books submitted correlation =>
    refine registry.quiet stepped submitted fun _ held => .inl ?_
    rw [correlation] at held
    exact CorrelationEngine.release_holds held
  | timeOut entry expired held tasks books submitted correlation =>
    exact registry.quiet stepped submitted fun _ held => .inl (correlation ▸ held)
  | report future task result found sent books submitted correlation =>
    exact registry.quiet stepped submitted fun _ held => .inl (correlation ▸ held)
  | cancel isStop submitted correlation =>
    refine registry.quiet stepped submitted fun request held => .inl ?_
    rcases correlation with same | cleared
    · exact same ▸ held
    · rw [cleared] at held
      exact absurd held CorrelationEngine.not_holds_empty

theorem registry_new (limits : Limits) (now : Rat) : (Dispatcher.new limits now).Registry where
  custody := custody_new limits now
  distinct := List.nodup_nil
  registered request held := absurd held CorrelationEngine.not_holds_empty
  unsent_untracked entry member := by cases member

end Registry

end Dispatcher

end TuyaBleMesh
