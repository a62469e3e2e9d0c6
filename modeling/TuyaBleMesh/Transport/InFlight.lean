import TuyaBleMesh.Transport.Lifecycle

/-!
# In-flight accounting

The map of requests in flight and the counters of the nodes, beside the send tasks
that they stand for. The worker adds to all three, a send task takes itself out of
all three when it ends, and `stop` clears the map and the counters only.
-/

namespace TuyaBleMesh

/-- The send tasks and what is kept about them. -/
structure Flight where
  limits : Limits
  inFlight : OrderedDict RequestId CommandRequest
  inFlightPerDevice : OrderedDict Nat Nat
  tasks : OrderedDict FutureId SendTask

namespace Flight

variable {f : Flight}

/-- The counter of a node. -/
def deviceCount (f : Flight) (node : Nat) : Nat := (f.inFlightPerDevice.get? node).getD 0

/-- The live send tasks for a node. -/
def liveTasks (f : Flight) (node : Nat) : Nat :=
  f.tasks.entries.countP fun entry => entry.2.request.targetNode = node

/-- The request of a live send task under its id. -/
def listed (entry : FutureId × SendTask) : RequestId × CommandRequest :=
  (entry.2.request.requestId, entry.2.request)

/-! ### What happens to it -/

def launch (f : Flight) (entry : Submission) : Flight :=
  { f with
    inFlight := f.inFlight.set entry.request.requestId entry.request
    inFlightPerDevice :=
      f.inFlightPerDevice.set entry.request.targetNode (f.deviceCount entry.request.targetNode + 1)
    tasks := f.tasks.set entry.future { request := entry.request } }

/-- A send task goes on, or ends and takes itself out. -/
def perform (f : Flight) (future : FutureId) (request : CommandRequest) : Option SendTask → Flight
  | some task => { f with tasks := f.tasks.set future task }
  | none =>
    { f with
      inFlight := f.inFlight.erase request.requestId
      inFlightPerDevice :=
        if f.deviceCount request.targetNode > 0 then
          f.inFlightPerDevice.set request.targetNode (f.deviceCount request.targetNode - 1)
        else f.inFlightPerDevice
      tasks := f.tasks.erase future }

def clear (f : Flight) : Flight := { f with inFlight := .empty, inFlightPerDevice := .empty }

/-! ### What should hold of it -/

/-- The counters and the map agree with the live send tasks and stay within the limits. -/
structure Exact (f : Flight) : Prop where
  perDevice : ∀ node, f.deviceCount node = f.liveTasks node
  total : f.inFlight.size = f.tasks.size
  deviceLimit : ∀ node, f.deviceCount node ≤ f.limits.perDeviceLimit
  totalLimit : f.inFlight.size ≤ f.limits.totalLimit

/-- The map has exactly the requests of the live send tasks. -/
structure Matching (f : Flight) : Prop extends f.Exact where
  listed : f.inFlight.entries.Perm (f.tasks.entries.map listed)

/-! ### What keeps it -/

theorem deviceCount_set (f : Flight) (node count other : Nat)
    {inFlight : OrderedDict RequestId CommandRequest} {tasks : OrderedDict FutureId SendTask} :
    ({ f with
      inFlight
      inFlightPerDevice := f.inFlightPerDevice.set node count
      tasks } : Flight).deviceCount other = if other = node then count else f.deviceCount other := by
  rw [deviceCount, OrderedDict.get?_set]
  split
  · rfl
  · rfl

/-- One more task for its node. -/
theorem liveTasks_launch {entry : Submission} (fresh : f.tasks.get? entry.future = none)
    (node : Nat) : (f.launch entry).liveTasks node =
      f.liveTasks node + if node = entry.request.targetNode then 1 else 0 := by
  rw [liveTasks, launch, OrderedDict.entries_set_of_absent fresh, List.countP_append,
    List.countP_singleton]
  simp [liveTasks, eq_comm]

theorem Matching.launch (matching : f.Matching) {entry : Submission}
    (fresh : f.tasks.get? entry.future = none)
    (unlisted : f.inFlight.get? entry.request.requestId = none)
    (room : f.deviceCount entry.request.targetNode < f.limits.perDeviceLimit)
    (total : f.inFlight.size < f.limits.totalLimit) : (f.launch entry).Matching := by
  -- a new id and a new future make both maps longer by one
  have size : (f.launch entry).inFlight.size = f.inFlight.size + 1 := by
    rw [OrderedDict.size, Flight.launch, OrderedDict.entries_set_of_absent unlisted,
      List.length_append]
    rfl
  have tasks : (f.launch entry).tasks.size = f.tasks.size + 1 := by
    rw [OrderedDict.size, Flight.launch, OrderedDict.entries_set_of_absent fresh,
      List.length_append]
    rfl
  refine ⟨⟨?_, ?_, ?_, ?_⟩, ?_⟩
  · intro node
    rw [liveTasks_launch fresh, ← matching.perDevice, Flight.launch, deviceCount_set]
    split
    · next same => rw [same]
    · rfl
  · rw [size, tasks, matching.total]
  · intro node
    rw [Flight.launch, deviceCount_set]
    split
    · exact room
    · exact matching.deviceLimit node
  · rw [size]
    exact total
  · rw [Flight.launch, OrderedDict.entries_set_of_absent unlisted,
      OrderedDict.entries_set_of_absent fresh, List.map_append]
    exact matching.listed.append_right _

/-- A second request under an id takes the place of the first in the map. -/
theorem sizes_launch {entry : Submission} (fresh : f.tasks.get? entry.future = none)
    {request : CommandRequest} (known : f.inFlight.get? entry.request.requestId = some request) :
    (f.launch entry).inFlight.size + f.tasks.size + 1 =
      f.inFlight.size + (f.launch entry).tasks.size := by
  -- the keys stay the same while there is one task more
  have keys : (f.launch entry).inFlight.entries.map Prod.fst = f.inFlight.entries.map Prod.fst :=
    OrderedDict.map_set_of_same known rfl
  have tasks : (f.launch entry).tasks.entries =
      f.tasks.entries ++ [(entry.future, { request := entry.request })] :=
    OrderedDict.entries_set_of_absent fresh
  have sizes := congrArg List.length keys
  rw [List.length_map, List.length_map] at sizes
  simp only [OrderedDict.size, tasks, List.length_append, List.length_singleton]
  omega

/-- A task that goes on is the same for the books. -/
theorem Matching.goesOn (matching : f.Matching) {future : FutureId} {task task' : SendTask}
    (found : f.tasks.get? future = some task) (same : task'.request = task.request) :
    (f.perform future task.request (some task')).Matching := by
  -- what does not look at more than the request is the same of the new task
  have entries : ∀ {α : Type} (g : FutureId × SendTask → α),
      (∀ future task task', task'.request = task.request → g (future, task') = g (future, task)) →
        (f.tasks.set future task').entries.map g = f.tasks.entries.map g :=
    fun g alike => OrderedDict.map_set_of_same found (alike future task task' same)
  have nodes : ∀ node, (f.perform future task.request (some task')).liveTasks node =
      f.liveTasks node := by
    intro node
    have mapped := entries (fun entry => decide (entry.2.request.targetNode = node))
      (fun _ _ _ same => by simp only [same])
    have counted := congrArg (List.countP (· = true)) mapped
    simpa [List.countP_map, Function.comp_def, liveTasks, perform] using counted
  have listed := entries Flight.listed (fun _ _ _ same => by simp only [Flight.listed, same])
  refine ⟨⟨?_, ?_, matching.deviceLimit, matching.totalLimit⟩, ?_⟩
  · intro node
    rw [nodes]
    exact matching.perDevice node
  · have sizes := congrArg List.length listed
    rw [List.length_map, List.length_map] at sizes
    exact matching.total.trans sizes.symm
  · rw [perform, listed]
    exact matching.listed

/-- A task that ends takes itself out of the map and of its node's counter. -/
theorem Matching.ends (matching : f.Matching) {future : FutureId} {task : SendTask}
    (found : f.tasks.get? future = some task) : (f.perform future task.request none).Matching := by
  have tasks := OrderedDict.perm_cons_erase found
  have member : Flight.listed (future, task) ∈ f.inFlight.entries := by
    apply matching.listed.symm.subset
    exact List.mem_map_of_mem (OrderedDict.get?_eq_some_iff.mp found)
  have inFlight := OrderedDict.perm_cons_erase (OrderedDict.get?_eq_some_iff.mpr member)
  -- an id and its task are taken out together, so what is left still agrees
  have rest : (f.inFlight.erase task.request.requestId).entries.Perm
      ((f.tasks.erase future).entries.map Flight.listed) := by
    apply List.Perm.cons_inv (a := Flight.listed (future, task))
    exact inFlight.symm.trans (matching.listed.trans (tasks.map Flight.listed))
  have live : ∀ node, f.liveTasks node =
      (f.perform future task.request none).liveTasks node +
        if node = task.request.targetNode then 1 else 0 := by
    intro node
    rw [liveTasks, tasks.countP_eq, List.countP_cons]
    simp [liveTasks, perform, eq_comm]
  -- its own task is among those that the counter counts
  have counted : f.deviceCount task.request.targetNode > 0 := by
    rw [matching.perDevice, live, if_pos rfl]
    exact Nat.succ_pos _
  have counts : ∀ node, f.deviceCount node =
      (f.perform future task.request none).deviceCount node +
        if node = task.request.targetNode then 1 else 0 := by
    intro node
    rw [perform, if_pos counted, deviceCount_set]
    split
    · next same =>
      rw [same]
      omega
    · rfl
  have perDevice : ∀ node, (f.perform future task.request none).deviceCount node =
      (f.perform future task.request none).liveTasks node := by
    intro node
    have before := matching.perDevice node
    rw [counts, live] at before
    exact Nat.add_right_cancel before
  have fewer : (f.inFlight.erase task.request.requestId).size ≤ f.inFlight.size :=
    List.length_filter_le _ _
  refine ⟨⟨perDevice, ?_, ?_, fewer.trans matching.totalLimit⟩, rest⟩
  · have sizes := rest.length_eq
    rw [List.length_map] at sizes
    exact sizes
  · intro node
    have bound := matching.deviceLimit node
    rw [counts] at bound
    exact (Nat.le_add_right _ _).trans bound

theorem matching_clear (idle : f.tasks.entries = []) : f.clear.Matching := by
  refine ⟨⟨?_, ?_, fun _ => Nat.zero_le _, Nat.zero_le _⟩, ?_⟩
  · intro node
    simp [liveTasks, Flight.clear, idle, deviceCount, OrderedDict.get?, OrderedDict.empty]
  · simp [Flight.clear, OrderedDict.size, idle, OrderedDict.empty]
  · simp [Flight.clear, idle, OrderedDict.empty]

end Flight

/-! ### The dispatcher's books -/

/-- `stop` need not wait for the worker. -/
def Worker.halted : Worker → Bool
  | .absent => true
  | .ended none => true
  | .ended (some .cancelledError) => true
  | _ => false

namespace Dispatcher

def flight (s : Dispatcher) : Flight where
  limits := s.limits
  inFlight := s.inFlight
  inFlightPerDevice := s.inFlightPerDevice
  tasks := s.tasks

/-- The worker puts the entry in flight when it deals with it now. -/
def admits (s : Dispatcher) (entry : Submission) : Bool :=
  !entry.request.isExpired s.now && s.canSend entry.request && s.running

/-- The entry that the worker puts in flight. -/
def launches? (s : Dispatcher) : DispatcherEvent → Option Submission
  | .get entry false => if s.admits entry then some entry else none
  | .recheck =>
    match s.worker with
    | .waiting entry => if s.admits entry then some entry else none
    | _ => none
  | _ => none

/-- `stop` clears the map and the counters. -/
def clears (s : Dispatcher) : DispatcherEvent → Bool
  | .stop => s.running && s.worker.halted
  | .stopResumes => true
  | _ => false

/-- A request is put in flight under an id that no request in flight has, and the map and the
counters are cleared when no send task is alive. -/
def Accountable (s : Dispatcher) (event : DispatcherEvent) : Prop :=
  (∀ entry ∈ s.launches? event, s.inFlight.get? entry.request.requestId = none) ∧
    (s.clears event = true → s.tasks.entries = [])

instance (s : Dispatcher) (event : DispatcherEvent) : Decidable (s.Accountable event) :=
  inferInstanceAs (Decidable (_ ∧ _))

/-- What a step does to the books of what is in flight. -/
inductive InFlightStep (s : Dispatcher) (event : DispatcherEvent) (s' : Dispatcher) : Prop
  | same (kept : s'.flight = s.flight) (unlaunched : s.launches? event = none)
      (unclear : s.clears event = false)
  | launch (entry : Submission) (launches : s.launches? event = some entry)
      (unclear : s.clears event = false) (held : entry ∈ s.unsent)
      (kept : s'.flight = s.flight.launch entry)
  | send (future : FutureId) (task : SendTask) (done : SendStep)
      (found : s.tasks.get? future = some task) (sent : SendEvent s future task event done)
      (kept : s'.flight = s.flight.perform future task.request done.task?)
  | clear (clears : s.clears event = true) (kept : s'.flight = s.flight.clear)

section Steps

variable {s s' : Dispatcher} {event : DispatcherEvent}

theorem perform_flight (s : Dispatcher) (future : FutureId) (request : CommandRequest)
    (done : SendStep) :
    (s.perform future request done).flight = s.flight.perform future request done.task? := by
  cases done with
  | call task correlation sequence => rfl
  | retry task => rfl
  | report result =>
    obtain ⟨_, _, _, _, _, _, frame⟩ := s.completeRequest_frame request result
    rw [Dispatcher.perform, frame]
    rfl
  | escape error => rfl

theorem cancelAll_flight : s.cancelAll.flight = s.flight.clear := by
  obtain ⟨_, frame⟩ := s.cancelAll_frame
  rw [frame]
  rfl

private theorem timeOut_flight (entry : Submission)
    (expired : entry.request.isExpired s.now = true) :
    (s.timeOut entry expired).flight = s.flight := by
  obtain ⟨_, _, _, _, _, _, frame⟩ :=
    s.completeRequest_frame entry.request (timeoutResult ⟨entry.request, expired⟩)
  rw [timeOut, frame]
  rfl

/-- The worker launches the entry it deals with exactly when it admits it. -/
private theorem awaitCapacity_flight (entry : Submission)
    (live : entry.request.isExpired s.now = false) :
    (s.awaitCapacity entry).flight =
      if s.admits entry then s.flight.launch entry else s.flight := by
  unfold awaitCapacity admits
  rw [live]
  -- no capacity, or not running any more: nothing is put in flight
  cases sends : s.canSend entry.request with
  | false => rfl
  | true =>
    cases running : s.running with
    | false => rfl
    | true => rfl

private theorem InFlightStep.of_admits {entry : Submission} (held : entry ∈ s.unsent)
    (launches : s.launches? event = if s.admits entry then some entry else none)
    (unclear : s.clears event = false)
    (kept : s'.flight = if s.admits entry then s.flight.launch entry else s.flight) :
    InFlightStep s event s' := by
  split at kept
  · next admits =>
    rw [if_pos admits] at launches
    exact .launch entry launches unclear held kept
  · next declined =>
    rw [if_neg declined] at launches
    exact .same kept launches unclear

/-- Every step is one of the four. -/
theorem inFlight_cases (stepped : s.step event = some s') : InFlightStep s event s' := by
  cases step_cases stepped with
  | start =>
    unfold start
    split
    · exact .same rfl rfl rfl
    · exact .same rfl rfl rfl
  | stop =>
    cases running : s.running with
    | false =>
      have unclear : s.clears .stop = false := by rw [clears, running]; rfl
      exact .same (by rw [stop, running]; rfl) rfl unclear
    | true =>
      -- `stop` clears at once when there is no worker to wait for
      have cleared (halted : s.clears .stop = true)
          (stops : s.stop = ({ s with running := false } : Dispatcher).cancelAll) :
          InFlightStep s .stop s.stop := by
        refine .clear halted ?_
        rw [stops, cancelAll_flight]
        rfl
      cases worker : s.worker with
      | absent =>
        exact cleared (by rw [clears, running, worker]; rfl) (by simp [stop, running, worker])
      | ended error =>
        cases error with
        | none =>
          exact cleared (by rw [clears, running, worker]; rfl) (by simp [stop, running, worker])
        | some error =>
          cases error with
          | cancelledError =>
            exact cleared (by rw [clears, running, worker]; rfl)
              (by simp [stop, running, worker])
          | _ =>
            exact .same (by simp [stop, running, worker, flight]) rfl
              (by rw [clears, running, worker]; rfl)
      | _ =>
        exact .same (by simp [stop, running, worker, flight]) rfl
          (by rw [clears, running, worker]; rfl)
  | stopResumes halting => exact .clear rfl cancelAll_flight
  | enqueue request raises collides =>
    unfold enqueue
    split
    · exact .same rfl rfl rfl
    · split
      · exact .same rfl rfl rfl
      · exact .same rfl rfl rfl
  | iterate looping =>
    obtain ⟨_, _, _, _, _, _, frame⟩ := s.expireStale_frame
    unfold iterate
    split
    · rw [frame]
      exact .same rfl rfl rfl
    · exact .same rfl rfl rfl
  | take entry polling member least =>
    have held : entry ∈ s.unsent := (polled_held polling member).subset List.mem_cons_self
    simp only [take]
    split
    · next expired =>
      have declined : s.admits entry = false := by rw [admits, expired]; rfl
      exact .same (timeOut_flight entry _) (by rw [launches?, declined]; rfl) rfl
    · next live =>
      rw [Bool.not_eq_true] at live
      exact InFlightStep.of_admits held rfl rfl (awaitCapacity_flight entry live)
  | recheck entry waiting =>
    have held : entry ∈ s.unsent := (waiting_held waiting).subset List.mem_cons_self
    unfold recheck
    have launches : s.launches? .recheck = if s.admits entry then some entry else none := by
      rw [launches?, waiting]
    split
    -- a stopped worker leaves its loop without the entry
    · next stopped =>
      have declined : s.admits entry = false := by
        rw [Bool.not_eq_true'] at stopped
        rw [admits, stopped, Bool.and_false]
      exact .same rfl (by rw [launches, declined]; rfl) rfl
    · split
      · next expired =>
        have declined : s.admits entry = false := by rw [admits, expired]; rfl
        exact .same (timeOut_flight entry _) (by rw [launches, declined]; rfl) rfl
      · next live =>
        rw [Bool.not_eq_true] at live
        exact InFlightStep.of_admits held launches rfl (awaitCapacity_flight entry live)
  | send future task done found sent =>
    exact .send future task done found sent (perform_flight s future task.request done)
  | _ => exact .same rfl rfl rfl

theorem launches_admits {entry : Submission} (launches : s.launches? event = some entry) :
    s.admits entry = true := by
  unfold launches? at launches
  split at launches
  · split at launches
    · next admits =>
      cases launches
      exact admits
    · cases launches
  · split at launches
    · split at launches
      · next admits =>
        cases launches
        exact admits
      · cases launches
    · cases launches
  · cases launches

/-- There is room for what the worker admits. -/
theorem admits_room {entry : Submission} (admits : s.admits entry = true) :
    s.flight.deviceCount entry.request.targetNode < s.flight.limits.perDeviceLimit ∧
      s.flight.inFlight.size < s.flight.limits.totalLimit := by
  unfold Dispatcher.admits canSend at admits
  rw [Bool.and_eq_true, Bool.and_eq_true] at admits
  obtain ⟨⟨_, sends⟩, _⟩ := admits
  split at sends
  · cases sends
  -- `_can_send` compares with both limits
  · next room =>
    exact ⟨of_decide_eq_true sends, Nat.lt_of_not_le room⟩

/-! ### Every run -/

/-- The requests in custody, and the books of those in flight. -/
structure Booked (s : Dispatcher) : Prop where
  custody : s.Custody
  matching : s.flight.Matching

/-- The future of an unsent entry is that of no send task. -/
theorem Booked.fresh (booked : s.Booked) {entry : Submission} (held : entry ∈ s.unsent) :
    s.flight.tasks.get? entry.future = none :=
  booked.custody.apart entry held

theorem Booked.step (booked : s.Booked) (accountable : s.Accountable event)
    (stepped : s.step event = some s') : s'.Booked := by
  refine ⟨booked.custody.step stepped, ?_⟩
  cases inFlight_cases stepped with
  | same kept unlaunched unclear =>
    rw [kept]
    exact booked.matching
  | launch entry launches unclear held kept =>
    -- the id is new in the map, and there is room for one more
    obtain ⟨room, total⟩ := admits_room (launches_admits launches)
    rw [kept]
    exact booked.matching.launch (booked.fresh held) (accountable.1 entry launches) room total
  | send future task done found sent kept =>
    rw [kept]
    cases left : done.task? with
    | none => exact booked.matching.ends found
    | some task' =>
      have attempts := booked.custody.attempts future task found
      have began := booked.custody.began future task found
      exact booked.matching.goesOn found (sent.moves.left left attempts began).1
  | clear clears kept =>
    rw [kept]
    exact Flight.matching_clear (accountable.2 clears)

/-- A launch under an id in use adds a task but no entry to the map, and so does a clear that
leaves tasks behind. -/
theorem Booked.accountable (booked : s.Booked) (stepped : s.step event = some s')
    (exact_ : s'.flight.Exact) : s.Accountable event := by
  have total := exact_.total
  cases inFlight_cases stepped with
  | same kept unlaunched unclear =>
    constructor
    · intro entry launches
      rw [unlaunched] at launches
      cases launches
    · intro clears
      rw [unclear] at clears
      cases clears
  | launch entry launches unclear held kept =>
    constructor
    · intro other launches'
      rw [launches] at launches'
      cases launches'
      rw [kept] at total
      cases known : s.inFlight.get? entry.request.requestId with
      | none => rfl
      | some request =>
        -- an entry is replaced but a task added, and the counts differ
        have sizes := Flight.sizes_launch (booked.fresh held) known
        rw [total, booked.matching.total] at sizes
        omega
    · intro clears
      rw [unclear] at clears
      cases clears
  | send future task done found sent kept =>
    constructor
    · intro entry launches
      cases sent <;> cases launches
    · intro clears
      cases sent <;> cases clears
  | clear clears kept =>
    constructor
    · intro entry launches
      cases event <;> first | cases launches | cases clears
    · intro _
      rw [kept] at total
      exact List.length_eq_zero_iff.mp total.symm

theorem booked_new (limits : Limits) (now : Rat) : (Dispatcher.new limits now).Booked where
  custody := custody_new limits now
  matching :=
    { perDevice := fun _ => rfl
      total := rfl
      deviceLimit := fun _ => Nat.zero_le _
      totalLimit := Nat.zero_le _
      listed := .nil }

end Steps

/-- In a run all states of which have exact books, they are matching as well. -/
private theorem booked_of_exact {limits : Limits} {now : Rat} {events : List DispatcherEvent}
    (exact_ : ∀ before m, before <+: events →
      dispatcherSystem.exec (Dispatcher.new limits now) before = some m → m.flight.Exact)
    {s : Dispatcher} (ran : dispatcherSystem.exec (Dispatcher.new limits now) events = some s) :
    s.Booked := by
  -- the last step starts from a state reached by the others
  induction events using List.reverseRecOn generalizing s with
  | nil =>
    cases ran
    exact booked_new limits now
  | append_singleton events event ih =>
    obtain ⟨m, reached, last⟩ := (dispatcherSystem.exec_append_iff _ _ _ _).mp ran
    obtain ⟨s', stepped, done⟩ := (dispatcherSystem.exec_cons_iff _ _ _ _).mp last
    cases done
    have booked : m.Booked := by
      apply ih _ reached
      intro before m' part
      exact exact_ before m' (part.trans (List.prefix_append events [event]))
    exact booked.step (booked.accountable stepped (exact_ _ s List.prefix_rfl ran)) stepped

/-- In a run, the counter of each node and the map agree with the live send tasks and stay within
their limits in every state reached if and only if every step is accountable. -/
theorem inFlight_exact_iff {limits : Limits} {now : Rat} {events : List DispatcherEvent}
    {s : Dispatcher} (ran : dispatcherSystem.exec (Dispatcher.new limits now) events = some s) :
    (∀ before m, before <+: events →
      dispatcherSystem.exec (Dispatcher.new limits now) before = some m → m.flight.Exact) ↔
        dispatcherSystem.Guarded Accountable (Dispatcher.new limits now) events := by
  constructor
  · intro exact_
    apply dispatcherSystem.guarded_of_steps
    rintro before event after m rfl reached
    have booked : m.Booked := by
      apply booked_of_exact _ reached
      intro earlier m' part
      exact exact_ earlier m' (part.trans (List.prefix_append before _))
    obtain ⟨m', reached', rest⟩ := (dispatcherSystem.exec_append_iff _ _ _ _).mp ran
    rw [reached] at reached'
    cases reached'
    obtain ⟨next, stepped, _⟩ := (dispatcherSystem.exec_cons_iff _ _ _ _).mp rest
    -- the books are exact after the step too, so it was accountable
    apply booked.accountable stepped
    apply exact_ (before ++ [event]) next
    · exact ⟨after, by rw [List.append_assoc, List.singleton_append]⟩
    · apply (dispatcherSystem.exec_append_iff _ _ _ _).mpr
      exact ⟨m, reached, (dispatcherSystem.exec_cons_iff _ _ _ _).mpr ⟨next, stepped, rfl⟩⟩
  · rintro accountable before m ⟨after, rfl⟩ reached
    have guarded := EventSystem.Guarded.append_left dispatcherSystem accountable
    have booked : m.Booked := by
      apply dispatcherSystem.exec_invariant Booked _ (booked_new limits now) guarded reached
      intro s event s' booked accountable stepped
      exact booked.step accountable stepped
    exact booked.matching.toExact

/-- A request is sent, answered and followed by another one to the same node. -/
def successiveRun : List DispatcherEvent :=
  [.start, .enqueue (sampleRequest 0 none) false, .iterate, .get ⟨sampleRequest 0 none, 0⟩ false,
    .advance 0 (.ok 7) 0, .wait 1, .enqueue (sampleRequest 1 none) false, .iterate,
    .get ⟨sampleRequest 1 none, 1⟩ false, .answer 0 (.ok [0x00]) 0, .advance 1 (.ok 8) 0,
    .answer 1 (.ok [0x00]) 0, .stop, .stopResumes]

theorem successiveRun_exact :
    (dispatcherSystem.exec (Dispatcher.new {} 0) successiveRun).isSome = true ∧
      ∀ before m, before <+: successiveRun →
        dispatcherSystem.exec (Dispatcher.new {} 0) before = some m → m.flight.Exact := by
  have ran : (dispatcherSystem.exec (Dispatcher.new {} 0) successiveRun).isSome = true := by
    decide +kernel
  obtain ⟨s, reached⟩ := Option.isSome_iff_exists.mp ran
  exact ⟨ran, (inFlight_exact_iff reached).mpr (by decide +kernel)⟩

/-- With room for one request per device: `stop` is called while a request is being sent, and
after the restart another one is put in flight beside it. -/
theorem restartedRequest_uncounted : ∃ s ∈ dispatcherSystem.exec
    (Dispatcher.new { perDeviceLimit := 1 } 0)
    [.start, .enqueue (sampleRequest 0 none) false, .iterate, .get ⟨sampleRequest 0 none, 0⟩ false,
      .advance 0 (.ok 7) 0, .stop, .stopResumes, .start, .enqueue (sampleRequest 1 none) false,
      .iterate, .get ⟨sampleRequest 1 none, 1⟩ false, .advance 1 (.ok 8) 0],
    s.flight.deviceCount 0xB0 = 1 ∧ s.inFlight.size = 1 ∧ s.flight.liveTasks 0xB0 = 2 ∧
      s.tasks.size = 2 ∧ s.limits.perDeviceLimit = 1 ∧ ¬ s.flight.Exact := by
  have ran : ∃ s ∈ dispatcherSystem.exec (Dispatcher.new { perDeviceLimit := 1 } 0)
      [.start, .enqueue (sampleRequest 0 none) false, .iterate,
        .get ⟨sampleRequest 0 none, 0⟩ false, .advance 0 (.ok 7) 0, .stop, .stopResumes, .start,
        .enqueue (sampleRequest 1 none) false, .iterate, .get ⟨sampleRequest 1 none, 1⟩ false,
        .advance 1 (.ok 8) 0],
      s.flight.deviceCount 0xB0 = 1 ∧ s.inFlight.size = 1 ∧ s.flight.liveTasks 0xB0 = 2 ∧
        s.tasks.size = 2 ∧ s.limits.perDeviceLimit = 1 := by decide +kernel
  obtain ⟨s, ran, count, size, live, tasks, limit⟩ := ran
  refine ⟨s, ran, count, size, live, tasks, limit, fun exact_ => ?_⟩
  have same := exact_.perDevice 0xB0
  rw [count, live] at same
  cases same

end Dispatcher

end TuyaBleMesh
