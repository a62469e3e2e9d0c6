import TuyaBleMesh.Transport.Lifecycle

/-!
# The last request

What a node was told last, beside what was asked for it last. Requests for one node
run side by side and are retried, and a request may be merged into an older one, so
the two agree only as long as neither brings an older command after a newer one.
-/

namespace TuyaBleMesh

/-- What the device is told to do. -/
def CommandRequest.command (request : CommandRequest) : Nat × Bytes :=
  (request.opcode, request.params)

/-- The request that the event enqueues for the node. -/
def DispatcherEvent.asks? (node : Nat) : DispatcherEvent → Option CommandRequest
  | .enqueue request _ => if request.targetNode = node then some request else none
  | _ => none

/-- The request whose send task wakes up. -/
def DispatcherEvent.wakes? : DispatcherEvent → Option FutureId
  | .advance future _ _ => some future
  | _ => none

/-- What was asked for the node, in order. -/
def asked (node : Nat) (events : List DispatcherEvent) : List CommandRequest :=
  events.filterMap (DispatcherEvent.asks? node)

theorem asked_append (node : Nat) (events : List DispatcherEvent) (event : DispatcherEvent) :
    asked node (events ++ [event]) = asked node events ++ (event.asks? node).toList := by
  rw [asked, asked, List.filterMap_append]
  cases added : event.asks? node with
  | none => simp [added]
  | some request => simp [added]

theorem DispatcherEvent.asks?_eq_some {node : Nat} {event : DispatcherEvent}
    {request : CommandRequest} (asks : event.asks? node = some request) :
    (∃ raises, event = .enqueue request raises) ∧ request.targetNode = node := by
  cases event with
  | enqueue other raises =>
    rw [asks?] at asks
    split at asks
    · next addressed =>
      cases asks
      exact ⟨⟨raises, rfl⟩, addressed⟩
    · cases asks
  | _ => cases asks

namespace Dispatcher

/-- The requests for the node that were put into the queue. -/
def submittedTo (s : Dispatcher) (node : Nat) : List Submission :=
  s.submitted.filter fun entry => entry.request.targetNode = node

/-- The calls of `_send_callback` for the node, each with the submission it was made for. -/
def sentTo (s : Dispatcher) (node : Nat) : List Submission :=
  (s.calls.filterMap fun call => s.submitted[call.1]?).filter
    fun entry => entry.request.targetNode = node

/-- No request for the node is enqueued after its deadline. -/
def Unexpired (node : Nat) (s : Dispatcher) (event : DispatcherEvent) : Prop :=
  ∀ request ∈ event.asks? node, request.isExpired s.now = false

/-- The step leaves the commands of the node in the order in which they were asked for: a request
is merged into an older one only if the newest one in the queue has the same command, and a send
task goes into an attempt only if no other command has been sent for a later request. -/
def KeepsOrder (node : Nat) (s : Dispatcher) (event : DispatcherEvent) : Prop :=
  (∀ request ∈ event.asks? node, (s.coalesceCheck request).isSome = true →
    (s.submittedTo node).getLast?.map (·.request.command) = some request.command) ∧
    ∀ future ∈ event.wakes?, ∀ task ∈ s.tasks.get? future, task.request.targetNode = node →
      s.running = true → task.request.isExpired s.now = false →
        ∀ entry ∈ s.sentTo node, future < entry.future →
          entry.request.command = task.request.command

instance (node : Nat) (s : Dispatcher) (event : DispatcherEvent) :
    Decidable (s.Unexpired node event) :=
  inferInstanceAs (Decidable (∀ request ∈ event.asks? node, _))

instance (node : Nat) (s : Dispatcher) (event : DispatcherEvent) :
    Decidable (s.KeepsOrder node event) :=
  inferInstanceAs (Decidable (_ ∧ ∀ future ∈ event.wakes?, ∀ task ∈ s.tasks.get? future,
    task.request.targetNode = node → _))

/-- Each request that was put into the queue for the node has been answered. -/
def Answered (node : Nat) (events : List DispatcherEvent) (s : Dispatcher) : Prop :=
  ∀ entry ∈ s.submittedTo node,
    ∃ responseData sample, .answer entry.future (.ok responseData) sample ∈ events

/-! ### What steps do to the two lists -/

section Steps

variable {node : Nat} {event : DispatcherEvent} {s s' : Dispatcher}

/-- The list of calls only grows, and grows by the calls that tasks make when they wake up. -/
inductive CallStep (s : Dispatcher) (event : DispatcherEvent) (s' : Dispatcher) : Prop
  | silent (calls : s'.calls = s.calls)
      (tasks : ∀ future task, s'.tasks.get? future = some task → task.called = 1 →
        s.tasks.get? future = some task)
  | call (future : FutureId) (task task' : SendTask) (sequence : Nat)
      (found : s.tasks.get? future = some task)
      (wakes : event.wakes? = some future)
      (running : s.running = true) (live : task.request.isExpired s.now = false)
      (calls : s'.calls = s.calls ++ [(future, sequence)])
      (submitted : s'.submitted = s.submitted)
      (tasks : ∀ other, other ≠ future → s'.tasks.get? other = s.tasks.get? other)

theorem call_cases (stepped : s.step event = some s') : CallStep s event s' := by
  cases custody_cases stepped with
  | quiet tasks submitted calls unsent now =>
    exact .silent calls fun future task found _ => by rwa [tasks] at found
  | submit request raises isEnqueue tasks submitted calls unsent now =>
    exact .silent calls fun future task found _ => by rwa [tasks] at found
  | launch entry tasks submitted calls unsent now running =>
    refine .silent calls fun future task found called => ?_
    rw [tasks, OrderedDict.get?_set] at found
    split at found
    · -- a new task has called nothing
      cases found
      cases called
    · exact found
  | send future task done found sent after =>
    have calls := s.perform_calls future task.request done
    have others : ∀ other, other ≠ future → s'.tasks.get? other = s.tasks.get? other := by
      intro other different
      rw [after, perform_get?, if_neg different]
    rw [← after] at calls
    cases done with
    | call task' correlation sequence =>
      obtain ⟨⟨_, _, rfl⟩, fresh, running, live⟩ := sent.call_live
      obtain ⟨_, submitted, _, _⟩ := s.perform_frame future task.request
        (.call task' correlation sequence)
      rw [← after] at submitted
      exact .call future task task' sequence found rfl running live calls submitted others
    | retry task' =>
      refine .silent (calls.trans (List.append_nil _)) fun other task'' found' called => ?_
      by_cases same : other = future
      · -- a task that backs off has no call under way
        rw [after, perform_get?, if_pos same] at found'
        cases found'
        cases sent.moves with
        | retry error delay more => cases called
      · rwa [others other same] at found'
    | report result =>
      refine .silent (calls.trans (List.append_nil _)) fun other task'' found' _ => ?_
      by_cases same : other = future
      · rw [after, perform_get?, if_pos same] at found'
        cases found'
      · rwa [others other same] at found'
    | escape error =>
      refine .silent (calls.trans (List.append_nil _)) fun other task'' found' _ => ?_
      by_cases same : other = future
      · rw [after, perform_get?, if_pos same] at found'
        cases found'
      · rwa [others other same] at found'

/-- A request that is not put into the queue has expired or is merged into another one. -/
private theorem unsubmitted (stepped : s.step event = some s') (same : s'.submitted = s.submitted) :
    ∀ request ∈ event.asks? node,
      request.isExpired s.now = true ∨ (s.coalesceCheck request).isSome = true := by
  intro request asks
  obtain ⟨⟨raises, rfl⟩, _⟩ := DispatcherEvent.asks?_eq_some asks
  cases step_cases stepped with
  | enqueue request raises collides =>
    unfold enqueue at same
    split at same
    · next expired => exact .inl expired
    · split at same
      · next future coalesced => exact .inr (by rw [coalesced]; rfl)
      · exact absurd same (by simp)
  | send future task done found sent => cases sent

/-- What a step adds to the submissions, and when it adds nothing. -/
theorem submitted_cases (node : Nat) (stepped : s.step event = some s') :
    (s'.submitted = s.submitted ∧ ∀ request ∈ event.asks? node,
      request.isExpired s.now = true ∨ (s.coalesceCheck request).isSome = true) ∨
    ∃ request raises, event = .enqueue request raises ∧
      s'.submitted = s.submitted ++ [⟨request, s.submitted.length⟩] := by
  cases custody_cases stepped with
  | quiet tasks submitted calls unsent now => exact .inl ⟨submitted, unsubmitted stepped submitted⟩
  | submit request raises isEnqueue tasks submitted calls unsent now =>
    exact .inr ⟨request, raises, isEnqueue, submitted⟩
  | launch entry tasks submitted calls unsent now running =>
    exact .inl ⟨submitted, unsubmitted stepped submitted⟩
  | send future task done found sent after =>
    obtain ⟨_, submitted, _, _⟩ := s.perform_frame future task.request done
    rw [← after] at submitted
    exact .inl ⟨submitted, unsubmitted stepped submitted⟩

theorem submittedTo_append {request : CommandRequest} {future : FutureId}
    (submitted : s'.submitted = s.submitted ++ [⟨request, future⟩]) :
    s'.submittedTo node = s.submittedTo node ++
      if request.targetNode = node then [⟨request, future⟩] else [] := by
  rw [submittedTo, submitted, List.filter_append]
  simp [submittedTo, List.filter_cons]

/-- New submissions change nothing about the calls that were made. -/
theorem sentTo_of_submitted (lt : ∀ call ∈ s.calls, call.1 < s.submitted.length)
    {entries : List Submission} (submitted : s'.submitted = s.submitted ++ entries)
    (calls : s'.calls = s.calls) : s'.sentTo node = s.sentTo node := by
  rw [sentTo, sentTo, calls, submitted]
  congr 1
  apply List.filterMap_congr
  intro call member
  rw [List.getElem?_append_left (lt call member)]

/-- One more call. -/
theorem sentTo_append (node : Nat) {request : CommandRequest} {future : FutureId} {sequence : Nat}
    (submitted : s'.submitted = s.submitted)
    (found : s.submitted[future]? = some ⟨request, future⟩)
    (calls : s'.calls = s.calls ++ [(future, sequence)]) :
    s'.sentTo node = s.sentTo node ++
      if request.targetNode = node then [⟨request, future⟩] else [] := by
  rw [sentTo, calls, submitted, List.filterMap_append, List.filter_append]
  simp [sentTo, found, List.filter_cons]

theorem mem_sentTo {entry : Submission} : entry ∈ s.sentTo node ↔
    entry.request.targetNode = node ∧ ∃ call ∈ s.calls, s.submitted[call.1]? = some entry := by
  rw [sentTo, List.mem_filter, List.mem_filterMap, decide_eq_true_eq, and_comm]

theorem mem_submittedTo {entry : Submission} :
    entry ∈ s.submittedTo node ↔ entry.request.targetNode = node ∧ entry ∈ s.submitted := by
  rw [submittedTo, List.mem_filter, decide_eq_true_eq, and_comm]

/-- The newest submission has the largest number. -/
theorem Custody.future_le (custody : s.Custody) {newest entry : Submission}
    (last : (s.submittedTo node).getLast? = some newest) (member : entry ∈ s.submittedTo node) :
    entry.future ≤ newest.future := by
  have numbers : s.submitted.map Submission.future = List.range s.submitted.length := by
    apply List.ext_getElem
    · rw [List.length_map, List.length_range]
    · intro i bound _
      rw [List.getElem_map, List.getElem_range]
      exact custody.numbered i _ (List.getElem?_eq_getElem (by simpa using bound))
  have increasing : s.submitted.Pairwise (·.future < ·.future) := by
    rw [← List.pairwise_map, numbers]
    exact List.pairwise_lt_range
  have increasing' : (s.submittedTo node).Pairwise (·.future < ·.future) := increasing.filter _
  obtain ⟨before, split⟩ := List.getLast?_eq_some_iff.mp last
  rw [split] at increasing' member
  rcases List.mem_append.mp member with earlier | same
  · exact le_of_lt ((List.pairwise_append.mp increasing').2.2 entry earlier newest
      (List.mem_singleton_self _))
  · rw [List.mem_singleton.mp same]

end Steps

/-! ### What is kept -/

/-- The calls, and how they stand to what was asked. -/
structure Ordered (node : Nat) (events : List DispatcherEvent) (s : Dispatcher) : Prop where
  custody : s.Custody
  /-- Calls are made for submissions. -/
  calls_lt : ∀ call ∈ s.calls, call.1 < s.submitted.length
  /-- A task that waits for an answer has made its call. -/
  calling : ∀ future task, s.tasks.get? future = some task → task.called = 1 →
    future ∈ s.calls.map Prod.fst
  answered : ∀ future responseData sample, .answer future (.ok responseData) sample ∈ events →
    future ∈ s.calls.map Prod.fst
  /-- The newest submission asks for what was asked for last. -/
  newest : (s.submittedTo node).getLast?.map (·.request.command) =
    (asked node events).getLast?.map CommandRequest.command
  /-- Nothing newer than the last call was sent with another command. -/
  overtaken : ∀ last ∈ (s.sentTo node).getLast?, ∀ entry ∈ s.sentTo node,
    last.future ≤ entry.future → entry.request.command = last.request.command

section Ordered

variable {node : Nat} {events : List DispatcherEvent} {event : DispatcherEvent} {s s' : Dispatcher}

private theorem Ordered.newest_step (ordered : s.Ordered node events)
    (unexpired : s.Unexpired node event) (keeps : s.KeepsOrder node event)
    (stepped : s.step event = some s') :
    (s'.submittedTo node).getLast?.map (·.request.command) =
      (asked node (events ++ [event])).getLast?.map CommandRequest.command := by
  rw [asked_append]
  rcases submitted_cases node stepped with ⟨submitted, reason⟩ | ⟨request, raises, rfl, submitted⟩
  · have same : s'.submittedTo node = s.submittedTo node := by
      rw [submittedTo, submitted, submittedTo]
    rw [same]
    cases asks : event.asks? node with
    | none =>
      rw [Option.toList_none, List.append_nil]
      exact ordered.newest
    | some request =>
      -- the request is merged, and the newest one has the same command
      have live := unexpired request asks
      have merged : (s.coalesceCheck request).isSome = true := by
        rcases reason request asks with expired | merged
        · rw [live] at expired
          cases expired
        · exact merged
      rw [keeps.1 request asks merged, Option.toList_some, List.getLast?_concat, Option.map_some]
  · rw [submittedTo_append submitted, DispatcherEvent.asks?]
    split
    · rw [Option.toList_some, List.getLast?_concat, List.getLast?_concat]
      rfl
    · rw [Option.toList_none, List.append_nil, List.append_nil]
      exact ordered.newest

/-- The submission a send task works for. -/
private theorem Custody.submitted_at (custody : s.Custody) {future : FutureId} {task : SendTask}
    (found : s.tasks.get? future = some task) :
    s.submitted[future]? = some ⟨task.request, future⟩ := by
  have member := custody.task_mem future task found
  obtain ⟨i, at_⟩ := List.getElem?_of_mem member
  have same : future = i := custody.numbered i _ at_
  rw [same] at at_ ⊢
  exact at_

private theorem Ordered.overtaken_step (ordered : s.Ordered node events)
    (keeps : s.KeepsOrder node event) (stepped : s.step event = some s') :
    ∀ last ∈ (s'.sentTo node).getLast?, ∀ entry ∈ s'.sentTo node,
      last.future ≤ entry.future → entry.request.command = last.request.command := by
  cases call_cases stepped with
  | silent calls tasks =>
    have same : s'.sentTo node = s.sentTo node := by
      rcases submitted_cases node stepped with ⟨submitted, _⟩ | ⟨_, _, _, submitted⟩
      · exact sentTo_of_submitted ordered.calls_lt (by rw [submitted, List.append_nil]) calls
      · exact sentTo_of_submitted ordered.calls_lt submitted calls
    rw [same]
    exact ordered.overtaken
  | call future task task' sequence found wakes running live calls submitted tasks =>
    have at_ := ordered.custody.submitted_at found
    have appended := sentTo_append node submitted at_ calls
    rw [appended]
    split
    · next addressed =>
      intro last isLast entry member later
      rw [List.getLast?_concat] at isLast
      cases isLast
      rcases List.mem_append.mp member with earlier | same
      · rcases Nat.lt_or_eq_of_le later with newer | equal
        · -- a later request that was sent before
          exact keeps.2 future wakes task found addressed running live entry earlier newer
        · -- the same request in an earlier attempt
          obtain ⟨_, call, _, found'⟩ := mem_sentTo.mp earlier
          have own : entry = ⟨task.request, future⟩ :=
            ordered.custody.unique (List.mem_of_getElem? found') (List.mem_of_getElem? at_)
              equal.symm
          rw [own]
      · rw [List.mem_singleton.mp same]
    · rw [List.append_nil]
      exact ordered.overtaken

theorem Ordered.step (ordered : s.Ordered node events)
    (guard : s.Unexpired node event ∧ s.KeepsOrder node event)
    (stepped : s.step event = some s') : s'.Ordered node (events ++ [event]) where
  custody := ordered.custody.step stepped
  calls_lt := by
    have grown : s.submitted.length ≤ s'.submitted.length := by
      rcases submitted_cases node stepped with ⟨submitted, _⟩ | ⟨_, _, _, submitted⟩
      · rw [submitted]
      · simp [submitted]
    intro call member
    cases call_cases stepped with
    | silent calls tasks =>
      rw [calls] at member
      exact lt_of_lt_of_le (ordered.calls_lt call member) grown
    | call future task task' sequence found wakes running live calls submitted tasks =>
      rw [calls] at member
      rcases List.mem_append.mp member with earlier | now
      · exact lt_of_lt_of_le (ordered.calls_lt call earlier) grown
      · rw [List.mem_singleton.mp now]
        exact lt_of_lt_of_le
          (ordered.custody.future_lt (ordered.custody.task_mem future task found)) grown
  calling other task' found' called := by
    cases call_cases stepped with
    | silent calls tasks =>
      rw [calls]
      exact ordered.calling other task' (tasks other task' found' called) called
    | call future task _ sequence found wakes running live calls submitted tasks =>
      rw [calls, List.map_append, List.mem_append]
      by_cases same : other = future
      · exact .inr (by rw [same]; exact List.mem_singleton_self _)
      · rw [tasks other same] at found'
        exact .inl (ordered.calling other task' found' called)
  answered future responseData sample member := by
    have kept : ∀ f ∈ s.calls.map Prod.fst, f ∈ s'.calls.map Prod.fst := by
      intro f before
      cases call_cases stepped with
      | silent calls tasks => rwa [calls]
      | call _ _ _ _ _ _ _ _ calls _ _ =>
        rw [calls, List.map_append]
        exact List.mem_append_left _ before
    rcases List.mem_append.mp member with earlier | now
    · exact kept future (ordered.answered future responseData sample earlier)
    · -- an answer comes to a call that was made
      cases List.mem_singleton.mp now
      obtain ⟨task, done, found, sent, _⟩ := step_answer stepped
      cases sent with
      | answer answered =>
        unfold SendTask.answered at answered
        split at answered
        · next calling =>
          exact kept future (ordered.calling future task found (by rw [SendTask.called, calling]))
        · cases answered
  newest := ordered.newest_step guard.1 guard.2 stepped
  overtaken := ordered.overtaken_step guard.2 stepped

theorem ordered_new (limits : Limits) (now : Rat) (node : Nat) :
    (Dispatcher.new limits now).Ordered node [] where
  custody := custody_new limits now
  calls_lt call member := by cases member
  calling future task found := by cases found
  answered future responseData sample member := by cases member
  newest := rfl
  overtaken last isLast := by cases isLast

end Ordered

/-- In a run that leaves the commands of a node in order, the last call for the node carries the
command that was asked for last, whenever all its requests have been answered. -/
theorem lastCall_command {limits : Limits} {now : Rat} {node : Nat} {events : List DispatcherEvent}
    {s : Dispatcher}
    (guarded : dispatcherSystem.Guarded (fun s event => s.Unexpired node event ∧
      s.KeepsOrder node event) (Dispatcher.new limits now) events)
    (ran : dispatcherSystem.exec (Dispatcher.new limits now) events = some s)
    (answered : s.Answered node events) :
    (s.sentTo node).getLast?.map (·.request.command) =
      (asked node events).getLast?.map CommandRequest.command := by
  have ordered : s.Ordered node events :=
    dispatcherSystem.exec_history (Ordered node)
      (fun _ _ _ _ ordered guard stepped => ordered.step guard stepped)
      (ordered_new limits now node) guarded ran
  rw [← ordered.newest]
  cases final : (s.submittedTo node).getLast? with
  | none =>
    -- nothing was submitted, so nothing was sent
    have none_ : s.sentTo node = [] := by
      apply List.eq_nil_iff_forall_not_mem.mpr
      intro entry member
      obtain ⟨addressed, call, _, found⟩ := mem_sentTo.mp member
      have submitted := mem_submittedTo.mpr ⟨addressed, List.mem_of_getElem? found⟩
      rw [List.getLast?_eq_none_iff.mp final] at submitted
      cases submitted
    rw [none_]
    rfl
  | some newest =>
    have member : newest ∈ s.submittedTo node := List.mem_of_getLast? final
    obtain ⟨addressed, submitted⟩ := mem_submittedTo.mp member
    -- the newest request has been sent at least once
    have sent : newest ∈ s.sentTo node := by
      obtain ⟨responseData, sample, happened⟩ := answered newest member
      obtain ⟨call, called, same⟩ :=
        List.mem_map.mp (ordered.answered newest.future responseData sample happened)
      obtain ⟨i, at_⟩ := List.getElem?_of_mem submitted
      rw [← ordered.custody.numbered i newest at_] at at_
      rw [← same] at at_
      exact mem_sentTo.mpr ⟨addressed, call, called, at_⟩
    cases lastSent : (s.sentTo node).getLast? with
    | none =>
      rw [List.getLast?_eq_none_iff.mp lastSent] at sent
      cases sent
    | some last =>
      obtain ⟨target, call, _, found⟩ := mem_sentTo.mp (List.mem_of_getLast? lastSent)
      have older : last.future ≤ newest.future :=
        ordered.custody.future_le final (mem_submittedTo.mpr ⟨target, List.mem_of_getElem? found⟩)
      rw [Option.map_some, Option.map_some]
      exact congrArg some (ordered.overtaken last lastSent newest sent older).symm

/-! ### Sample runs -/

/-- A request for one of the settings of the sample node. -/
def sampleSetting (requestId : RequestId) (value : UInt8) (createdAt : Rat) : CommandRequest :=
  { sampleRequest requestId none with params := [value], createdAt }

/-- The node is switched on and off, and the third request is merged into the second. -/
def switchedRun : List DispatcherEvent :=
  [.start, .enqueue (sampleSetting 0 1 0) false, .iterate, .get ⟨sampleSetting 0 1 0, 0⟩ false,
    .advance 0 (.ok 7) 0, .answer 0 (.error .osError) 0, .wait (1 / 2), .advance 0 (.ok 8) 0,
    .enqueue (sampleSetting 1 0 (1 / 2)) false, .iterate,
    .get ⟨sampleSetting 1 0 (1 / 2), 1⟩ false, .wait (1 / 50),
    .enqueue (sampleSetting 2 0 (13 / 25)) false, .advance 1 (.ok 9) 0,
    .answer 0 (.ok [0x00]) 0, .answer 1 (.ok [0x00]) 0]

theorem switchedRun_command : ∃ s ∈ dispatcherSystem.exec (Dispatcher.new {} 0) switchedRun,
    (s.sentTo 0xB0).getLast?.map (·.request.command) =
      (asked 0xB0 switchedRun).getLast?.map CommandRequest.command := by
  have ran : ∃ s ∈ dispatcherSystem.exec (Dispatcher.new {} 0) switchedRun,
      s.submittedTo 0xB0 = [⟨sampleSetting 0 1 0, 0⟩, ⟨sampleSetting 1 0 (1 / 2), 1⟩] := by
    decide +kernel
  obtain ⟨s, ran, submitted⟩ := ran
  refine ⟨s, ran, lastCall_command (by decide +kernel) ran ?_⟩
  intro entry member
  rw [submitted] at member
  refine ⟨[0x00], 0, ?_⟩
  rcases List.mem_pair.mp member with rfl | rfl
  · simp [switchedRun]
  · simp [switchedRun]

/-- The node is to be switched on, off and on again while the first request is being sent. The
third request is merged into the first, so the node is told to switch off last. Without merging,
the first request fails once and is sent again after the second. -/
theorem olderCommand_last :
    (∃ s ∈ dispatcherSystem.exec (Dispatcher.new {} 0)
      [.start, .enqueue (sampleSetting 0 1 0) false, .iterate,
        .get ⟨sampleSetting 0 1 0, 0⟩ false, .advance 0 (.ok 7) 0, .wait (1 / 100),
        .enqueue (sampleSetting 1 0 (1 / 100)) false, .iterate,
        .get ⟨sampleSetting 1 0 (1 / 100), 1⟩ false, .advance 1 (.ok 8) 0, .wait (1 / 100),
        .enqueue (sampleSetting 2 1 (1 / 50)) false, .answer 0 (.ok [0x00]) 0,
        .answer 1 (.ok [0x00]) 0],
      s.submittedTo 0xB0 = [⟨sampleSetting 0 1 0, 0⟩, ⟨sampleSetting 1 0 (1 / 100), 1⟩] ∧
        s.metrics.commandsCoalesced = 1 ∧
          (s.sentTo 0xB0).map (·.request.params) = [[1], [0]]) ∧
    ∃ s ∈ dispatcherSystem.exec (Dispatcher.new { coalesceWindowMs := 0 } 0)
      [.start, .enqueue (sampleSetting 0 1 0) false, .iterate,
        .get ⟨sampleSetting 0 1 0, 0⟩ false, .advance 0 (.ok 7) 0, .wait (1 / 100),
        .enqueue (sampleSetting 1 0 (1 / 100)) false, .iterate,
        .get ⟨sampleSetting 1 0 (1 / 100), 1⟩ false, .advance 1 (.ok 8) 0,
        .answer 0 (.error .osError) 0, .answer 1 (.ok [0x00]) 0, .wait (1 / 2),
        .advance 0 (.ok 9) 0, .answer 0 (.ok [0x00]) 0],
      s.submittedTo 0xB0 = [⟨sampleSetting 0 1 0, 0⟩, ⟨sampleSetting 1 0 (1 / 100), 1⟩] ∧
        s.metrics.commandsCoalesced = 0 ∧
          (s.sentTo 0xB0).map (·.request.params) = [[1], [0], [1]] := by
  constructor
  · decide +kernel
  · decide +kernel

end Dispatcher

end TuyaBleMesh
