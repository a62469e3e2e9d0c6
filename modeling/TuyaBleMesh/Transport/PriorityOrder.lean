import TuyaBleMesh.Transport.InFlight

/-!
# The order of the starts

In which order the worker starts what is in the queue. The heap hands out a least
entry as long as its entries can be compared, and while the worker waits for capacity
it holds on to the entry that it has taken.
-/

namespace TuyaBleMesh

/-- The order in which requests of one priority are to be started: as they were created, and then
as they were enqueued. -/
def Submission.InTurn (a b : Submission) : Prop :=
  a.request.priority = b.request.priority →
    a.request.createdAt < b.request.createdAt ∨ a.request.createdAt = b.request.createdAt ∧
      (a.future < b.future ∨ a.request = b.request)

/-- The request that is enqueued. -/
def DispatcherEvent.enqueued? : DispatcherEvent → Option CommandRequest
  | .enqueue request _ => some request
  | _ => none

/-- A dispatcher with the entries that its worker has started, in their order. -/
abbrev StartedDispatcher := Dispatcher × List Submission

def startsSystem : EventSystem StartedDispatcher DispatcherEvent where
  step s event := (s.1.step event).map fun s' => (s', s.2 ++ (s.1.launches? event).toList)

namespace Dispatcher

variable {s s' : Dispatcher} {event : DispatcherEvent}

/-! ### What a step does to the queue -/

/-- The worker starts the entry, or drops it or keeps it. -/
def Dealt (s : Dispatcher) (event : DispatcherEvent) (s' : Dispatcher) (entry : Submission) :
    Prop :=
  s.launches? event = some entry ∧ s'.worker.holds = [] ∨
    s.launches? event = none ∧ s'.worker.holds ⊆ [entry]

/-- What a step does to the queue and to the entry in the worker's hands. -/
inductive QueueStep (s : Dispatcher) (event : DispatcherEvent) (s' : Dispatcher) : Prop
  | quiet (queue : s'.queue = s.queue) (holds : s'.worker.holds ⊆ s.worker.holds)
      (intact : s'.heapIntact = s.heapIntact) (submitted : s'.submitted = s.submitted)
      (unlaunched : s.launches? event = none)
  | submit (request : CommandRequest) (raises : Bool) (isEnqueue : event = .enqueue request raises)
      (live : request.isExpired s.now = false) (single : s.coalesceCheck request = none)
      (collides : raises = true →
        ∃ entry ∈ s.queue, entry.incomparable ⟨request, s.submitted.length⟩ = true)
      (queue : s'.queue = s.queue ++ [⟨request, s.submitted.length⟩])
      (holds : s'.worker = s.worker) (intact : s'.heapIntact = (s.heapIntact && !raises))
      (submitted : s'.submitted = s.submitted ++ [⟨request, s.submitted.length⟩])
  /-- A comparison fails when the worker takes an entry. -/
  | fail (collides : ∃ a ∈ s.queue, ∃ b ∈ s.queue, a.incomparable b = true)
  | take (entry : Submission) (idle : s.worker.holds = []) (member : entry ∈ s.queue)
      (least : s.heapIntact = true → ∀ other ∈ s.queue, entry.precedes other = true)
      (queue : s'.queue = s.queue.erase entry) (intact : s'.heapIntact = s.heapIntact)
      (submitted : s'.submitted = s.submitted) (dealt : Dealt s event s' entry)
  | goOn (entry : Submission) (held : s.worker = .waiting entry) (queue : s'.queue = s.queue)
      (intact : s'.heapIntact = s.heapIntact) (submitted : s'.submitted = s.submitted)
      (dealt : Dealt s event s' entry)

section Steps

theorem timeOut_frame (entry : Submission) (expired : entry.request.isExpired s.now = true) :
    (s.timeOut entry expired).queue = s.queue ∧
      (s.timeOut entry expired).heapIntact = s.heapIntact ∧
      (s.timeOut entry expired).submitted = s.submitted ∧
      (s.timeOut entry expired).worker = .looping := by
  obtain ⟨_, _, _, _, _, _, frame⟩ :=
    s.completeRequest_frame entry.request (timeoutResult ⟨entry.request, expired⟩)
  rw [timeOut, frame]
  exact ⟨rfl, rfl, rfl, rfl⟩

/-- The worker starts the entry when it admits it, and otherwise keeps it or ends. -/
theorem awaitCapacity_dealt (entry : Submission) (live : entry.request.isExpired s.now = false) :
    (s.awaitCapacity entry).queue = s.queue ∧
      (s.awaitCapacity entry).heapIntact = s.heapIntact ∧
      (s.awaitCapacity entry).submitted = s.submitted ∧
      (s.admits entry = true ∧ (s.awaitCapacity entry).worker.holds = [] ∨
        s.admits entry = false ∧ (s.awaitCapacity entry).worker.holds ⊆ [entry]) := by
  unfold awaitCapacity admits
  rw [live]
  -- over capacity it goes on waiting; a stopped worker drops the entry
  cases sends : s.canSend entry.request with
  | false => exact ⟨rfl, rfl, rfl, .inr ⟨rfl, fun _ member => member⟩⟩
  | true =>
    cases running : s.running with
    | false => exact ⟨rfl, rfl, rfl, .inr ⟨rfl, List.nil_subset _⟩⟩
    | true => exact ⟨rfl, rfl, rfl, .inl ⟨rfl, rfl⟩⟩

theorem cancelAll_quiet (unlaunched : s.launches? event = none) {stopping : Nat} :
    QueueStep s event { s.cancelAll with stopping } := by
  obtain ⟨_, frame⟩ := s.cancelAll_frame
  rw [frame]
  exact .quiet rfl (fun _ member => member) rfl rfl unlaunched

theorem perform_quiet (future : FutureId) (request : CommandRequest) (done : SendStep)
    (unlaunched : s.launches? event = none) :
    QueueStep s event (s.perform future request done) := by
  cases done with
  | call task correlation sequence =>
    exact .quiet rfl (fun _ member => member) rfl rfl unlaunched
  | retry task => exact .quiet rfl (fun _ member => member) rfl rfl unlaunched
  | report result =>
    obtain ⟨_, _, _, _, _, _, frame⟩ := s.completeRequest_frame request result
    rw [perform, frame]
    exact .quiet rfl (fun _ member => member) rfl rfl unlaunched
  | escape error => exact .quiet rfl (fun _ member => member) rfl rfl unlaunched

/-- The worker takes an entry, and starts it, drops it or waits with it. -/
theorem take_step {entry : Submission} (idle : s.worker.holds = []) (member : entry ∈ s.queue)
    (least : s.heapIntact = true → ∀ other ∈ s.queue, entry.precedes other = true) :
    QueueStep s (.get entry false) (s.take entry) := by
  simp only [take]
  split
  -- timed out before it is started: its result is recorded
  · next expired =>
    have declined : s.admits entry = false := by rw [admits, expired]; rfl
    obtain ⟨queue, intact, submitted, worker⟩ :=
      timeOut_frame (s := { s with queue := s.queue.erase entry }) entry expired
    refine .take entry idle member least queue intact submitted (.inr ⟨?_, ?_⟩)
    · rw [launches?, declined]
      rfl
    · rw [worker]
      exact List.nil_subset _
  · next live =>
    rw [Bool.not_eq_true] at live
    obtain ⟨queue, intact, submitted, dealt⟩ :=
      awaitCapacity_dealt (s := { s with queue := s.queue.erase entry }) entry live
    refine .take entry idle member least queue intact submitted ?_
    rcases dealt with ⟨accepted, holds⟩ | ⟨declined, holds⟩
    · have admitted : s.admits entry = true := accepted
      exact .inl ⟨by rw [launches?, admitted]; rfl, holds⟩
    · have declined : s.admits entry = false := declined
      exact .inr ⟨by rw [launches?, declined]; rfl, holds⟩

/-- The worker goes on with the entry in its hands. -/
theorem recheck_step {entry : Submission} (waiting : s.worker = .waiting entry) :
    QueueStep s .recheck (s.recheck entry) := by
  have launches : s.launches? .recheck = if s.admits entry then some entry else none := by
    rw [launches?, waiting]
  unfold recheck
  split
  -- `while self._running and not self._can_send(request)` ends with the worker
  · next stopped =>
    have declined : s.admits entry = false := by
      rw [Bool.not_eq_true'] at stopped
      rw [admits, stopped, Bool.and_false]
    refine .goOn entry waiting rfl rfl rfl (.inr ⟨?_, List.nil_subset _⟩)
    rw [launches, declined]
    rfl
  · split
    · next expired =>
      have declined : s.admits entry = false := by rw [admits, expired]; rfl
      obtain ⟨queue, intact, submitted, worker⟩ := timeOut_frame entry expired
      refine .goOn entry waiting queue intact submitted (.inr ⟨?_, ?_⟩)
      · rw [launches, declined]
        rfl
      · rw [worker]
        exact List.nil_subset _
    · next live =>
      rw [Bool.not_eq_true] at live
      obtain ⟨queue, intact, submitted, dealt⟩ := awaitCapacity_dealt entry live
      refine .goOn entry waiting queue intact submitted ?_
      rcases dealt with ⟨admitted, holds⟩ | ⟨declined, holds⟩
      · exact .inl ⟨by rw [launches, admitted]; rfl, holds⟩
      · exact .inr ⟨by rw [launches, declined]; rfl, holds⟩

/-- Every step is one of the five. -/
theorem queue_cases (stepped : s.step event = some s') : QueueStep s event s' := by
  have same {s' : Dispatcher} (queue : s'.queue = s.queue) (worker : s'.worker = s.worker)
      (intact : s'.heapIntact = s.heapIntact) (submitted : s'.submitted = s.submitted)
      (unlaunched : s.launches? event = none) : QueueStep s event s' :=
    .quiet queue (by rw [worker]; exact fun _ member => member) intact submitted unlaunched
  cases step_cases stepped with
  | wait duration forward => exact same rfl rfl rfl rfl rfl
  | start =>
    unfold start
    split
    · exact same rfl rfl rfl rfl rfl
    · exact .quiet rfl (List.nil_subset _) rfl rfl rfl
  | stop =>
    obtain ⟨_, frame⟩ := ({ s with running := false } : Dispatcher).cancelAll_frame
    unfold stop
    split
    · exact same rfl rfl rfl rfl rfl
    · dsimp only
      split
      · rw [frame]
        exact same rfl rfl rfl rfl rfl
      · rw [frame]
        exact same rfl rfl rfl rfl rfl
      · rw [frame]
        exact same rfl rfl rfl rfl rfl
      · exact same rfl rfl rfl rfl rfl
      · -- the worker is cancelled, with the entry in its hands
        exact .quiet rfl (List.nil_subset _) rfl rfl rfl
  -- the queue is left as it is, though its futures are cancelled
  | stopResumes halting => exact cancelAll_quiet rfl
  | enqueue request raises collides =>
    unfold enqueue
    split
    · exact same rfl rfl rfl rfl rfl
    -- an expired request and a coalesced one are answered without the queue
    · next live =>
      rw [Bool.not_eq_true] at live
      split
      · exact same rfl rfl rfl rfl rfl
      · next single =>
        exact .submit request raises rfl live single collides rfl rfl rfl rfl
  | abandon future pending below => exact same rfl rfl rfl rfl rfl
  -- the sweep completes what is in flight, not what waits
  | iterate looping =>
    obtain ⟨_, _, _, _, _, _, frame⟩ := s.expireStale_frame
    unfold iterate
    split
    · rw [frame]
      exact .quiet rfl (List.nil_subset _) rfl rfl rfl
    · exact .quiet rfl (List.nil_subset _) rfl rfl rfl
  | pollTimeout polling => exact .quiet rfl (List.nil_subset _) rfl rfl rfl
  | fail entry polling member collides => exact .fail collides
  | take entry polling member least =>
    have idle : s.worker.holds = [] := by rw [polling]; rfl
    exact take_step idle member least
  | recheck entry waiting => exact recheck_step waiting
  | send future task done found sent =>
    have unlaunched : s.launches? event = none := by
      cases sent with
      | advance advanced => rfl
      | answer answered => rfl
    exact perform_quiet future task.request done unlaunched

end Steps

/-! ### Priority order -/

/-- What is put into the queue can be compared with everything in it, is not older than what was
started of its priority, and does not overtake the entry in the worker's hands. -/
def Timely (s : StartedDispatcher) (event : DispatcherEvent) : Prop :=
  ∀ request ∈ event.enqueued?, request.isExpired s.1.now = false →
    s.1.coalesceCheck request = none →
      (∀ entry ∈ s.1.queue, entry.incomparable ⟨request, s.1.submitted.length⟩ = false) ∧
      (∀ entry ∈ s.2, entry.request.priority = request.priority →
        entry.request.createdAt ≤ request.createdAt) ∧
      ∀ entry ∈ s.1.worker.holds, entry.request.priority < request.priority ∨
        entry.request.priority = request.priority ∧ entry.request.createdAt ≤ request.createdAt

instance (s : StartedDispatcher) (event : DispatcherEvent) : Decidable (Timely s event) :=
  inferInstanceAs (Decidable (∀ request ∈ event.enqueued?, _ → _ → _ ∧ _ ∧ _))

/-- What is kept of the queue, of the entry in the worker's hands and of what was started. -/
structure Sorted (s : StartedDispatcher) : Prop where
  intact : s.1.heapIntact = true
  comparable : ∀ a ∈ s.1.queue, ∀ b ∈ s.1.queue, a.incomparable b = false
  bounded : ∀ entry ∈ s.2 ++ s.1.unsent, entry.future < s.1.submitted.length
  first : ∀ entry ∈ s.1.worker.holds, ∀ other ∈ s.1.queue,
    entry.request.priority ≤ other.request.priority
  next : ∀ entry ∈ s.1.worker.holds, ∀ other ∈ s.1.queue, entry.InTurn other
  past : ∀ entry ∈ s.2, ∀ other ∈ s.1.unsent, entry.InTurn other
  starts : s.2.Pairwise Submission.InTurn

section Sorted

variable {started : List Submission}

theorem incomparable_comm (a b : Submission) : a.incomparable b = b.incomparable a := by
  unfold Submission.incomparable
  rw [Bool.eq_iff_iff]
  simp only [Bool.and_eq_true, decide_eq_true_eq, ne_eq]
  constructor
  · exact fun ⟨⟨priority, createdAt⟩, other⟩ => ⟨⟨priority.symm, createdAt.symm⟩, Ne.symm other⟩
  · exact fun ⟨⟨priority, createdAt⟩, other⟩ => ⟨⟨priority.symm, createdAt.symm⟩, Ne.symm other⟩

/-- A least entry that can be compared with another one comes before it. -/
theorem precedes_inTurn {a b : Submission} (least : a.precedes b = true)
    (comparable : a.incomparable b = false) :
    a.request.priority ≤ b.request.priority ∧ a.InTurn b := by
  unfold Submission.precedes at least
  simp only [Bool.or_eq_true, Bool.and_eq_true, decide_eq_true_eq] at least
  rcases least with lower | ⟨same, older⟩
  · exact ⟨Nat.le_of_lt lower, fun same => absurd same (Nat.ne_of_lt lower)⟩
  · refine ⟨Nat.le_of_eq same, fun _ => ?_⟩
    rcases lt_or_eq_of_le older with older | equal
    · exact .inl older
    -- a tie that can be compared is the same submission
    · refine .inr ⟨equal, .inr ?_⟩
      by_contra other
      unfold Submission.incomparable at comparable
      simp [same, equal, other] at comparable

/-- What was created no later and enqueued before comes before. -/
theorem inTurn_of_older {a b : Submission}
    (older : a.request.priority = b.request.priority → a.request.createdAt ≤ b.request.createdAt)
    (earlier : a.future < b.future) : a.InTurn b := by
  intro same
  rcases lt_or_eq_of_le (older same) with older | equal
  · exact .inl older
  · exact .inr ⟨equal, .inl earlier⟩

/-- The worker deals with an entry that is first among those that wait. -/
theorem sorted_dealt {entry : Submission} (intact : s'.heapIntact = true)
    (comparable : ∀ a ∈ s'.queue, ∀ b ∈ s'.queue, a.incomparable b = false)
    (bounded : ∀ other ∈ started ++ entry :: s'.queue, other.future < s'.submitted.length)
    (first : ∀ other ∈ s'.queue,
      entry.request.priority ≤ other.request.priority ∧ entry.InTurn other)
    (past : ∀ one ∈ started, ∀ other ∈ entry :: s'.queue, one.InTurn other)
    (starts : started.Pairwise Submission.InTurn) (dealt : Dealt s event s' entry) :
    Sorted (s', started ++ (s.launches? event).toList) := by
  -- either it is started and the hands are empty, or it is held on to or dropped
  rcases dealt with ⟨launches, idle⟩ | ⟨launches, holds⟩
  · rw [launches]
    have unsent : s'.unsent = s'.queue := by rw [Dispatcher.unsent, idle, List.nil_append]
    constructor
    · exact intact
    · exact comparable
    · intro other member
      apply bounded
      rw [unsent, Option.toList_some, List.append_assoc] at member
      exact member
    · intro one member
      rw [idle] at member
      cases member
    · intro one member
      rw [idle] at member
      cases member
    · intro one member other waits
      rw [unsent] at waits
      rcases List.mem_append.mp member with member | member
      · exact past one member other (List.mem_cons_of_mem _ waits)
      · rw [Option.toList_some, List.mem_singleton] at member
        rw [member]
        exact (first other waits).2
    · rw [Option.toList_some, List.pairwise_append]
      refine ⟨starts, List.pairwise_singleton _ _, fun one member other new => ?_⟩
      rw [List.mem_singleton.mp new]
      exact past one member entry List.mem_cons_self
  · rw [launches, Option.toList_none, List.append_nil]
    have unsent : s'.unsent ⊆ entry :: s'.queue :=
      List.append_subset.mpr ⟨fun one member => List.mem_cons.mpr
        (.inl (List.mem_singleton.mp (holds member))), List.subset_cons_self _ _⟩
    constructor
    · exact intact
    · exact comparable
    · intro other member
      apply bounded
      rcases List.mem_append.mp member with member | member
      · exact List.mem_append_left _ member
      · exact List.mem_append_right _ (unsent member)
    · intro one member other waits
      rw [List.mem_singleton.mp (holds member)]
      exact (first other waits).1
    · intro one member other waits
      rw [List.mem_singleton.mp (holds member)]
      exact (first other waits).2
    · exact fun one member other waits => past one member other (unsent waits)
    · exact starts

/-- A step that neither starts an entry nor puts one into the queue. -/
theorem Sorted.quiet (sorted : Sorted (s, started)) (queue : s'.queue = s.queue)
    (holds : s'.worker.holds ⊆ s.worker.holds) (intact : s'.heapIntact = s.heapIntact)
    (submitted : s'.submitted = s.submitted) : Sorted (s', started) := by
  have comparable : ∀ a ∈ s.queue, ∀ b ∈ s.queue, a.incomparable b = false := sorted.comparable
  have bounded : ∀ entry ∈ started ++ s.unsent, entry.future < s.submitted.length := sorted.bounded
  have unsent : s'.unsent ⊆ s.unsent := by
    rw [Dispatcher.unsent, Dispatcher.unsent, queue]
    exact List.append_subset.mpr ⟨fun _ held => List.mem_append_left _ (holds held),
      List.subset_append_right _ _⟩
  constructor
  · exact intact.trans sorted.intact
  · exact queue ▸ comparable
  · intro entry member
    show entry.future < s'.submitted.length
    rw [submitted]
    apply bounded
    rcases List.mem_append.mp member with member | member
    · exact List.mem_append_left _ member
    · exact List.mem_append_right _ (unsent member)
  · intro entry held other waits
    exact sorted.first entry (holds held) other (queue ▸ waits)
  · intro entry held other waits
    exact sorted.next entry (holds held) other (queue ▸ waits)
  · exact fun entry member other waits => sorted.past entry member other (unsent waits)
  · exact sorted.starts

/-- A request is put into the queue, behind what is older. -/
theorem Sorted.submit {request : CommandRequest} {raises : Bool} (sorted : Sorted (s, started))
    (timely : Timely (s, started) (.enqueue request raises))
    (live : request.isExpired s.now = false) (single : s.coalesceCheck request = none)
    (collides : raises = true →
      ∃ entry ∈ s.queue, entry.incomparable ⟨request, s.submitted.length⟩ = true)
    (queue : s'.queue = s.queue ++ [⟨request, s.submitted.length⟩]) (holds : s'.worker = s.worker)
    (intact : s'.heapIntact = (s.heapIntact && !raises))
    (submitted : s'.submitted = s.submitted ++ [⟨request, s.submitted.length⟩]) :
    Sorted (s', started) := by
  have comparable : ∀ a ∈ s.queue, ∀ b ∈ s.queue, a.incomparable b = false := sorted.comparable
  have bounded : ∀ entry ∈ started ++ s.unsent, entry.future < s.submitted.length := sorted.bounded
  -- comparable with the queue, not older than the starts, behind the entry in hands
  obtain ⟨compares, notOlder, behind⟩ := timely request rfl live single
  have compares : ∀ entry ∈ s.queue,
      entry.incomparable ⟨request, s.submitted.length⟩ = false := compares
  have notOlder : ∀ entry ∈ started, entry.request.priority = request.priority →
      entry.request.createdAt ≤ request.createdAt := notOlder
  have behind : ∀ entry ∈ s.worker.holds, entry.request.priority < request.priority ∨
      entry.request.priority = request.priority ∧
        entry.request.createdAt ≤ request.createdAt := behind
  -- `heappush` raises only for a tie of priority and time
  have quiet : raises = false := by
    rw [← Bool.not_eq_true]
    intro fails
    obtain ⟨entry, waits, clash⟩ := collides fails
    rw [compares entry waits] at clash
    cases clash
  have unsent : s'.unsent = s.unsent ++ [⟨request, s.submitted.length⟩] := by
    rw [Dispatcher.unsent, queue, holds, ← List.append_assoc]
    rfl
  constructor
  · show s'.heapIntact = true
    rw [intact, quiet, show s.heapIntact = true from sorted.intact]
    rfl
  · show ∀ a ∈ s'.queue, ∀ b ∈ s'.queue, a.incomparable b = false
    rw [queue]
    intro a one b two
    rcases List.mem_append.mp one with one | one
    · rcases List.mem_append.mp two with two | two
      · exact comparable a one b two
      · rw [List.mem_singleton.mp two]
        exact compares a one
    · rcases List.mem_append.mp two with two | two
      · rw [List.mem_singleton.mp one, incomparable_comm]
        exact compares b two
      · rw [List.mem_singleton.mp one, List.mem_singleton.mp two]
        simp [Submission.incomparable]
  · intro entry member
    show entry.future < s'.submitted.length
    rw [submitted, List.length_append, List.length_singleton]
    have member : entry ∈ started ++ s'.unsent := member
    rw [unsent, ← List.append_assoc] at member
    rcases List.mem_append.mp member with member | member
    · exact Nat.lt_succ_of_lt (bounded entry member)
    · rw [List.mem_singleton.mp member]
      exact Nat.lt_succ_self _
  · show ∀ entry ∈ s'.worker.holds, ∀ other ∈ s'.queue,
      entry.request.priority ≤ other.request.priority
    rw [holds, queue]
    intro entry held other waits
    rcases List.mem_append.mp waits with waits | new
    · exact sorted.first entry held other waits
    · rw [List.mem_singleton.mp new]
      rcases behind entry held with lower | ⟨same, -⟩
      · exact Nat.le_of_lt lower
      · exact Nat.le_of_eq same
  · show ∀ entry ∈ s'.worker.holds, ∀ other ∈ s'.queue, entry.InTurn other
    rw [holds, queue]
    intro entry held other waits
    rcases List.mem_append.mp waits with waits | new
    · exact sorted.next entry held other waits
    · rw [List.mem_singleton.mp new]
      refine inTurn_of_older (fun same => ?_) (bounded entry
        (List.mem_append_right _ (List.mem_append_left _ held)))
      exact ((behind entry held).resolve_left (Nat.lt_irrefl _ <| same ▸ ·)).2
  · show ∀ entry ∈ started, ∀ other ∈ s'.unsent, entry.InTurn other
    rw [unsent]
    intro entry member other waits
    rcases List.mem_append.mp waits with waits | new
    · exact sorted.past entry member other waits
    · rw [List.mem_singleton.mp new]
      exact inTurn_of_older (notOlder entry member) (bounded entry (List.mem_append_left _ member))
  · exact sorted.starts

/-- What a timely step preserves. -/
theorem Sorted.step (sorted : Sorted (s, started)) (timely : Timely (s, started) event)
    (stepped : s.step event = some s') : Sorted (s', started ++ (s.launches? event).toList) := by
  have comparable : ∀ a ∈ s.queue, ∀ b ∈ s.queue, a.incomparable b = false := sorted.comparable
  have bounded : ∀ entry ∈ started ++ s.unsent, entry.future < s.submitted.length := sorted.bounded
  cases queue_cases stepped with
  | quiet queue holds intact submitted unlaunched =>
    rw [unlaunched, Option.toList_none, List.append_nil]
    exact sorted.quiet queue holds intact submitted
  | submit request raises isEnqueue live single collides queue holds intact submitted =>
    subst isEnqueue
    rw [show s.launches? (.enqueue request raises) = none from rfl, Option.toList_none,
      List.append_nil]
    exact sorted.submit timely live single collides queue holds intact submitted
  -- `heappop` has nothing to compare in vain
  | fail collides =>
    obtain ⟨a, one, b, two, clash⟩ := collides
    rw [comparable a one b two] at clash
    cases clash
  -- the least entry of an intact heap
  | take entry idle member least queue intact submitted dealt =>
    have rest : s'.queue ⊆ s.queue := by
      rw [queue]
      exact List.erase_subset
    have unsent : entry :: s'.queue ⊆ s.unsent := by
      rw [Dispatcher.unsent, idle, List.nil_append]
      exact List.cons_subset.mpr ⟨member, rest⟩
    refine sorted_dealt (intact.trans sorted.intact) ?_ ?_ ?_ ?_ sorted.starts dealt
    · exact fun a one b two => comparable a (rest one) b (rest two)
    · intro other among
      rw [submitted]
      apply bounded
      rcases List.mem_append.mp among with among | among
      · exact List.mem_append_left _ among
      · exact List.mem_append_right _ (unsent among)
    · exact fun other waits => precedes_inTurn (least sorted.intact other (rest waits))
        (comparable entry member other (rest waits))
    · exact fun one before other waits => sorted.past one before other (unsent waits)
  -- the entry in hands was first when it was taken, and still is
  | goOn entry held queue intact submitted dealt =>
    have holds : s.worker.holds = [entry] := by rw [held]; rfl
    have unsent : s.unsent = entry :: s'.queue := by
      rw [Dispatcher.unsent, holds, queue]
      rfl
    refine sorted_dealt (intact.trans sorted.intact) ?_ ?_ ?_ ?_ sorted.starts dealt
    · exact queue ▸ comparable
    · rw [submitted, ← unsent]
      exact bounded
    · intro other waits
      have inHands : entry ∈ s.worker.holds := by rw [holds]; exact List.mem_singleton_self entry
      exact ⟨sorted.first entry inHands other (queue ▸ waits),
        sorted.next entry inHands other (queue ▸ waits)⟩
    · rw [← unsent]
      exact sorted.past

theorem sorted_new (limits : Limits) (now : Rat) : Sorted (Dispatcher.new limits now, []) where
  intact := rfl
  comparable a member := by cases member
  bounded entry member := by cases member
  first entry member := by cases member
  next entry member := by cases member
  past entry member := by cases member
  starts := List.Pairwise.nil

end Sorted

/-! ### Every run -/

/-- What is promised of the starts in a run. -/
structure PriorityOrder (s : StartedDispatcher) (events : List DispatcherEvent) : Prop where
  accepts : ∀ m request raises m', startsSystem.StepOf s events m (.enqueue request raises) m' →
    ∀ error, (m.1.enqueue request raises).1 ≠ .raised error
  inTurn : ∀ t, startsSystem.exec s events = some t → t.2.Pairwise Submission.InTurn
  first : ∀ m event m' entry, startsSystem.StepOf s events m event m' →
    m.1.launches? event = some entry → ∀ other ∈ m'.1.queue,
      other.request.isExpired m.1.now = false → entry.request.priority ≤ other.request.priority

theorem startsSystem_step {s s' : StartedDispatcher}
    (stepped : startsSystem.step s event = some s') :
    s.1.step event = some s'.1 ∧ s'.2 = s.2 ++ (s.1.launches? event).toList := by
  obtain ⟨d, moved, rfl⟩ := Option.map_eq_some_iff.mp stepped
  exact ⟨moved, rfl⟩

theorem sorted_kept (s : StartedDispatcher) (event : DispatcherEvent) (s' : StartedDispatcher)
    (sorted : Sorted s) (timely : Timely s event) (stepped : startsSystem.step s event = some s') :
    Sorted s' := by
  obtain ⟨moved, started⟩ := startsSystem_step stepped
  have kept := Sorted.step sorted timely moved
  rw [← started] at kept
  exact kept

/-- Nothing of a higher priority waits when an entry is started. -/
theorem Sorted.first_started {started : List Submission} (sorted : Sorted (s, started))
    (stepped : s.step event = some s') {entry : Submission}
    (launches : s.launches? event = some entry) :
    ∀ other ∈ s'.queue, entry.request.priority ≤ other.request.priority := by
  cases queue_cases stepped with
  | quiet queue holds intact submitted unlaunched =>
    rw [unlaunched] at launches
    cases launches
  | submit request raises isEnqueue live single collides queue holds intact submitted =>
    subst isEnqueue
    cases launches
  | fail collides =>
    obtain ⟨a, one, b, two, clash⟩ := collides
    rw [sorted.comparable a one b two] at clash
    cases clash
  | take one idle member least queue intact submitted dealt =>
    intro other waits
    have waited : other ∈ s.queue := List.mem_of_mem_erase (queue ▸ waits)
    rcases dealt with ⟨launched, -⟩ | ⟨unlaunched, -⟩
    · rw [launched] at launches
      cases launches
      exact (precedes_inTurn (least sorted.intact other waited)
        (sorted.comparable entry member other waited)).1
    · rw [unlaunched] at launches
      cases launches
  | goOn one held queue intact submitted dealt =>
    intro other waits
    rcases dealt with ⟨launched, -⟩ | ⟨unlaunched, -⟩
    · rw [launched] at launches
      cases launches
      refine sorted.first entry ?_ other (queue ▸ waits)
      show entry ∈ s.worker.holds
      rw [held]
      exact List.mem_singleton_self entry
    · rw [unlaunched] at launches
      cases launches

/-- `enqueue` does not raise when what it puts into the queue can be compared with the rest. -/
theorem enqueue_accepts {started : List Submission} {request : CommandRequest} {raises : Bool}
    (timely : Timely (s, started) (.enqueue request raises))
    (stepped : s.step (.enqueue request raises) = some s') (error : PyError) :
    (s.enqueue request raises).1 ≠ .raised error := by
  cases step_cases stepped with
  | enqueue request raises collides =>
    unfold enqueue
    split
    · exact EnqueueReply.noConfusion
    · next live =>
      rw [Bool.not_eq_true] at live
      split
      · exact EnqueueReply.noConfusion
      · next single =>
        have compares := (timely request rfl live single).1
        cases raises with
        | false => exact EnqueueReply.noConfusion
        | true =>
          obtain ⟨entry, waits, clash⟩ := collides rfl
          rw [compares entry waits] at clash
          cases clash
  | send future task done found sent => cases sent

/-- In a run whose enqueued requests are timely the starts are in their order. -/
theorem timely_priorityOrder {limits : Limits} {now : Rat} {events : List DispatcherEvent}
    (timely : startsSystem.Guarded Timely (Dispatcher.new limits now, []) events) :
    PriorityOrder (Dispatcher.new limits now, []) events where
  accepts m request raises m' occurs := by
    have guard := (occurs.invariant startsSystem Sorted sorted_kept (sorted_new limits now)
      timely).2
    obtain ⟨_, _, -, -, stepped⟩ := occurs
    exact enqueue_accepts guard (startsSystem_step stepped).1
  inTurn t ran :=
    (startsSystem.exec_invariant Sorted sorted_kept (sorted_new limits now) timely ran).starts
  first m event m' entry occurs launches other waits _ := by
    have sorted := (occurs.invariant startsSystem Sorted sorted_kept (sorted_new limits now)
      timely).1
    obtain ⟨_, _, -, -, stepped⟩ := occurs
    exact Sorted.first_started sorted (startsSystem_step stepped).1 launches other waits

/-! ### Sample runs -/

/-- A request of a priority, made at time 0. -/
def samplePriority (requestId : RequestId) (priority : Nat) : CommandRequest :=
  { sampleRequest requestId none with priority, params := [UInt8.ofNat requestId] }

def sampleEntry (number : FutureId) (priority : Nat) : Submission :=
  ⟨samplePriority number priority, number⟩

/-- Three requests are enqueued, the critical one last. -/
def urgentRun : List DispatcherEvent :=
  [.start, .enqueue (samplePriority 0 2) false, .enqueue (samplePriority 1 1) false,
    .enqueue (samplePriority 2 0) false, .iterate, .get (sampleEntry 2 0) false, .iterate,
    .get (sampleEntry 1 1) false, .iterate, .get (sampleEntry 0 2) false]

theorem urgentRun_ordered :
    PriorityOrder (Dispatcher.new {} 0, []) urgentRun ∧
      (startsSystem.exec (Dispatcher.new {} 0, []) urgentRun).map (·.2) =
        some [sampleEntry 2 0, sampleEntry 1 1, sampleEntry 0 2] :=
  ⟨timely_priorityOrder (by decide +kernel), by decide +kernel⟩

/-- The second of two requests that were made at the same time. -/
def tiedRun : List DispatcherEvent :=
  [.enqueue (samplePriority 0 1) false, .enqueue (samplePriority 1 1) true]

/-- The critical request arrives while the worker waits for capacity. -/
def overtakenRun : List DispatcherEvent :=
  [.start, .enqueue (samplePriority 0 1) false, .iterate, .get (sampleEntry 0 1) false, .iterate,
    .enqueue (samplePriority 1 1) false, .get (sampleEntry 1 1) false,
    .enqueue (samplePriority 2 0) false, .advance 0 (.ok 0) 0, .answer 0 (.ok []) 0]

/-- `enqueue` raises for a tie, and a critical request waits while another one is started. -/
theorem priorityOrder_broken :
    (¬PriorityOrder (Dispatcher.new {} 0, []) tiedRun) ∧
      ¬PriorityOrder (Dispatcher.new { totalLimit := 1 } 0, []) (overtakenRun ++ [.recheck]) := by
  constructor
  · intro order
    have tie : ∃ m ∈ startsSystem.exec (Dispatcher.new {} 0, [])
        [.enqueue (samplePriority 0 1) false],
        ∃ m' ∈ startsSystem.step m (.enqueue (samplePriority 1 1) true),
          (m.1.enqueue (samplePriority 1 1) true).1 = .raised .typeError := by decide +kernel
    obtain ⟨m, reached, m', stepped, raises⟩ := tie
    exact order.accepts m _ true m' ⟨_, [], rfl, reached, stepped⟩ .typeError raises
  · intro order
    have late : ∃ m ∈ startsSystem.exec (Dispatcher.new { totalLimit := 1 } 0, []) overtakenRun,
        ∃ m' ∈ startsSystem.step m .recheck,
          m.1.launches? .recheck = some (sampleEntry 1 1) ∧ sampleEntry 2 0 ∈ m'.1.queue ∧
            (samplePriority 2 0).isExpired m.1.now = false := by decide +kernel
    obtain ⟨m, reached, m', stepped, launches, waits, live⟩ := late
    have overtaken := order.first m _ m' _ ⟨_, [], rfl, reached, stepped⟩ launches _ waits live
    exact absurd overtaken (by decide)

end Dispatcher

end TuyaBleMesh
