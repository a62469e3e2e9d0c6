import Mathlib.Logic.Function.Basic
import Mathlib.Tactic.NormNum
import TuyaBleMesh.Lib.EventSystem
import TuyaBleMesh.Transport.Correlation
import TuyaBleMesh.Transport.Metrics

/-!
# The command dispatcher

`dispatcher.py`: the queue, the worker that takes requests from it, and one send
task for each request in flight. A step runs one task from an await point to its
next one. The clock, the timers and the answers of the callbacks are choices of
the environment.
-/

namespace TuyaBleMesh

/-- The exceptions that `_send_with_retry` retries after. -/
def PyError.isTransient (error : PyError) : Bool :=
  error = .osError || error = .timeoutError || error.isTuyaBleMeshError

/-! ### Send tasks -/

/-- Where a send task is suspended. -/
inductive SendPhase
  /-- `create_task` has scheduled it. -/
  | created
  /-- In `_send_callback`. -/
  | calling (sequence : Nat)
  /-- In `asyncio.sleep(backoff)`. -/
  | backoff (delay : Rat)
  deriving DecidableEq

/-- The local variables of `_send_with_retry`. -/
structure SendTask where
  request : CommandRequest
  phase : SendPhase := .created
  attempt : Nat := 0
  retriesUsed : Nat := 0
  lastError : Option PyError := none
  startTime : Rat := 0
  deriving DecidableEq

/-- What a step of a send task comes to. -/
inductive SendStep
  /-- It calls `_send_callback`. -/
  | call (task : SendTask) (correlation : CorrelationEngine) (sequence : Nat)
  /-- It sleeps before the next attempt. -/
  | retry (task : SendTask)
  /-- It completes its request and ends. -/
  | report (result : CommandResult)
  /-- It ends with an exception. -/
  | escape (error : PyError)

namespace SendTask

def latencyMs (task : SendTask) (now : Rat) : Rat := (now - task.startTime) * 1000

/-- After the loop: all retries are exhausted. -/
def giveUp (task : SendTask) (now : Rat) : SendStep :=
  match commandResult task.request.requestId .error none (task.latencyMs now) task.retriesUsed
    task.lastError with
  | .ok result => .report result
  | .error error => .escape error

/-- The `except` clauses of an attempt; `sample` is the random number of the jitter. -/
def failed (task : SendTask) (now : Rat) (error : PyError) (sample : Rat) : SendStep :=
  if error.isTransient then
    let task := { task with lastError := some error, retriesUsed := task.retriesUsed + 1 }
    if task.attempt ≥ task.request.retryPolicy.maxRetries then task.giveUp now
    else
      match task.request.retryPolicy.backoff task.attempt sample with
      | .error error => .escape error
      | .ok delay => .retry { task with attempt := task.attempt + 1, phase := .backoff delay }
  else .escape error

def expectsResponse (task : SendTask) : Bool := task.request.expectedResponseOpcode.isSome

/-- From the head of the loop to the call; `sequence` is what `next_sequence_callback` gives. -/
def tryCall (task : SendTask) (running : Bool) (now : Rat) (correlation : CorrelationEngine)
    (sequence : Except PyError Nat) (sample : Rat) : SendStep :=
  if !running || task.request.isExpired now then task.giveUp now
  else
    match sequence with
    | .error error => task.failed now error sample
    | .ok sequence =>
      if task.expectsResponse then
        match correlation.register task.request sequence with
        | .error error => task.failed now error sample
        | .ok correlation => .call { task with phase := .calling sequence } correlation sequence
      else .call { task with phase := .calling sequence } correlation sequence

/-- The next step of a task that runs for the first time or wakes up. -/
def advance (task : SendTask) (running : Bool) (now : Rat) (correlation : CorrelationEngine)
    (sequence : Except PyError Nat) (sample : Rat) : Option SendStep :=
  match task.phase with
  | .created =>
    some ({ task with startTime := now }.tryCall running now correlation sequence sample)
  | .calling _ => none
  | .backoff _ => some (task.tryCall running now correlation sequence sample)

/-- `_send_callback` returns or raises. -/
def answered (task : SendTask) (now : Rat) (outcome : Except PyError Bytes) (sample : Rat) :
    Option SendStep :=
  match task.phase with
  | .calling _ =>
    match outcome with
    | .error error => some (task.failed now error sample)
    | .ok responseData =>
      match commandResult task.request.requestId .success (some responseData) (task.latencyMs now)
        task.retriesUsed none with
      | .ok result => some (.report result)
      -- `InvalidResultError` is one of the errors that are retried after
      | .error error => some (task.failed now error sample)
  | _ => none

end SendTask

/-! ### The dispatcher -/

/-- A future object. -/
abbrev FutureId := Nat

inductive FutureState
  | pending
  | resolved (result : CommandResult)
  /-- Cancelled by its caller. -/
  | abandoned
  deriving DecidableEq

def FutureState.done : FutureState → Bool
  | .pending => false
  | .resolved _ => true
  | .abandoned => true

/-- A request with the future that `enqueue` made for it. -/
structure Submission where
  request : CommandRequest
  future : FutureId
  deriving DecidableEq

/-- The order of the queue's entries `(priority, created_at, request)`. -/
def Submission.precedes (a b : Submission) : Bool :=
  a.request.priority < b.request.priority ||
    a.request.priority = b.request.priority && a.request.createdAt ≤ b.request.createdAt

/-- Comparing the entries compares the requests, which raises `TypeError`. -/
def Submission.incomparable (a b : Submission) : Bool :=
  a.request.priority = b.request.priority && a.request.createdAt = b.request.createdAt &&
    a.request ≠ b.request

inductive Worker
  | absent
  /-- At the head of the loop. -/
  | looping
  /-- In `queue.get()`. -/
  | polling
  /-- Waiting for in-flight capacity. -/
  | waiting (submission : Submission)
  | ended (error : Option PyError)
  deriving DecidableEq

structure Limits where
  perDeviceLimit : Nat := 3
  totalLimit : Nat := 32
  coalesceWindowMs : Nat := 50

def _HISTORY_MAX : Nat := 100

structure Dispatcher where
  limits : Limits
  now : Rat
  running : Bool := false
  worker : Worker := .absent
  /-- The calls of `stop` that wait for the worker they have cancelled. -/
  stopping : Nat := 0
  queue : List Submission := []
  /-- No comparison has failed in the middle of a heap operation. -/
  heapIntact : Bool := true
  inFlight : OrderedDict RequestId CommandRequest := .empty
  inFlightPerDevice : OrderedDict Nat Nat := .empty
  resultFutures : OrderedDict RequestId FutureId := .empty
  history : List (CommandRequest × CommandResult) := []
  correlation : CorrelationEngine := .empty
  metrics : TransportMetrics := {}
  /-- The send tasks that have not ended. -/
  tasks : OrderedDict FutureId SendTask := .empty
  futures : FutureId → FutureState := fun _ => .pending
  /-- All requests ever put into the queue; their futures are numbered in this order. -/
  submitted : List Submission := []
  /-- All calls of `record_result`, with the opcode. -/
  recorded : List (CommandResult × Nat) := []
  /-- All that was ever appended to the history. -/
  appended : List (CommandRequest × CommandResult) := []
  /-- All calls of `_send_callback`, with the sequence number. -/
  calls : List (FutureId × Nat) := []

inductive EnqueueReply
  | rejected (result : CommandResult)
  | coalesced (future : FutureId)
  | queued (future : FutureId)
  | raised (error : PyError)
  deriving DecidableEq

namespace Dispatcher

def record (s : Dispatcher) (result : CommandResult) (opcode : Nat) : Dispatcher :=
  { s with
    metrics := s.metrics.recordResult result opcode
    recorded := s.recorded ++ [(result, opcode)] }

/-- `future.set_result(result)` unless the future is done. -/
def settle (s : Dispatcher) (future : FutureId) (result : CommandResult) : Dispatcher :=
  if (s.futures future).done then s
  else { s with futures := Function.update s.futures future (.resolved result) }

/-- `_complete_request`. -/
def completeRequest (s : Dispatcher) (request : CommandRequest) (result : CommandResult) :
    Dispatcher :=
  let s := s.record result request.opcode
  let s := { s with
    history := appendBounded _HISTORY_MAX s.history (request, result)
    appended := s.appended ++ [(request, result)] }
  match s.resultFutures.get? request.requestId with
  | none => s
  | some future =>
    { s with resultFutures := s.resultFutures.erase request.requestId }.settle future result

/-- `_coalesce_check`. -/
def coalesceCheck (s : Dispatcher) (request : CommandRequest) : Option FutureId :=
  let windowStart := s.now - s.limits.coalesceWindowMs / 1000
  s.inFlight.entries.findSome? fun (_, inFlight) =>
    if inFlight.opcode = request.opcode ∧ inFlight.targetNode = request.targetNode ∧
        inFlight.params = request.params ∧ inFlight.protocol = request.protocol ∧
        inFlight.createdAt ≥ windowStart then
      (s.resultFutures.get? inFlight.requestId).filter fun future => !(s.futures future).done
    else none

/-- `enqueue`; `raises` if a comparison of the heap fails when the entry is already in it. -/
def enqueue (s : Dispatcher) (request : CommandRequest) (raises : Bool) :
    EnqueueReply × Dispatcher :=
  if expired : request.isExpired s.now = true then
    let result := timeoutResult ⟨request, expired⟩
    (.rejected result, s.record result request.opcode)
  else
    match s.coalesceCheck request with
    | some future =>
      (.coalesced future,
        { s with metrics := { s.metrics with
            commandsCoalesced := s.metrics.commandsCoalesced + 1 } })
    | none =>
      let future := s.submitted.length
      let entry := ⟨request, future⟩
      (if raises then .raised .typeError else .queued future,
        { s with
          resultFutures := s.resultFutures.set request.requestId future
          queue := s.queue ++ [entry]
          heapIntact := s.heapIntact && !raises
          submitted := s.submitted ++ [entry] })

/-! ### The worker -/

/-- `_can_send`. -/
def canSend (s : Dispatcher) (request : CommandRequest) : Bool :=
  if s.inFlight.size ≥ s.limits.totalLimit then false
  else (s.inFlightPerDevice.get? request.targetNode).getD 0 < s.limits.perDeviceLimit

/-- Mark as in flight and create the send task. -/
def launch (s : Dispatcher) (entry : Submission) : Dispatcher :=
  let request := entry.request
  let inFlight := s.inFlight.set request.requestId request
  { s with
    inFlight
    inFlightPerDevice := s.inFlightPerDevice.set request.targetNode
      ((s.inFlightPerDevice.get? request.targetNode).getD 0 + 1)
    metrics := s.metrics.recordInFlight inFlight.size
    tasks := s.tasks.set entry.future { request }
    worker := .looping }

/-- A request whose deadline has passed is completed without being sent. -/
def timeOut (s : Dispatcher) (entry : Submission)
    (expired : entry.request.isExpired s.now = true) : Dispatcher :=
  { s.completeRequest entry.request (timeoutResult ⟨entry.request, expired⟩) with
    worker := .looping }

/-- From `while not self._can_send(request)` on. -/
def awaitCapacity (s : Dispatcher) (entry : Submission) : Dispatcher :=
  if !s.canSend entry.request then { s with worker := .waiting entry }
  else if !s.running then { s with worker := .ended none }
  else s.launch entry

/-- The worker has got an entry of the queue. -/
def take (s : Dispatcher) (entry : Submission) : Dispatcher :=
  let s := { s with queue := s.queue.erase entry }
  if expired : entry.request.isExpired s.now = true then s.timeOut entry expired
  else s.awaitCapacity entry

/-- The worker has slept for `QUEUE_POLL_INTERVAL` with an entry that had no capacity. -/
def recheck (s : Dispatcher) (entry : Submission) : Dispatcher :=
  if !s.running then { s with worker := .ended none }
  else if expired : entry.request.isExpired s.now = true then s.timeOut entry expired
  else s.awaitCapacity entry

/-- Complete the requests whose registration has expired. -/
def expireStale (s : Dispatcher) : Dispatcher :=
  (s.correlation.stale s.now).foldl
    (fun s expired => s.completeRequest expired.val (timeoutResult expired))
    { s with correlation := (s.correlation.expireStale s.now).2 }

/-- From the head of the loop to `queue.get()`. -/
def iterate (s : Dispatcher) : Dispatcher :=
  if s.running then { s.expireStale with worker := .polling } else { s with worker := .ended none }

/-! ### Send tasks in the dispatcher -/

/-- The `finally` of `_send_with_retry`. -/
def endTask (s : Dispatcher) (future : FutureId) (request : CommandRequest) : Dispatcher :=
  let deviceCount := (s.inFlightPerDevice.get? request.targetNode).getD 0
  { s with
    inFlight := s.inFlight.erase request.requestId
    inFlightPerDevice :=
      if deviceCount > 0 then s.inFlightPerDevice.set request.targetNode (deviceCount - 1)
      else s.inFlightPerDevice
    tasks := s.tasks.erase future }

def perform (s : Dispatcher) (future : FutureId) (request : CommandRequest) :
    SendStep → Dispatcher
  | .call task correlation sequence =>
    { s with
      correlation
      tasks := s.tasks.set future task
      calls := s.calls ++ [(future, sequence)] }
  | .retry task => { s with tasks := s.tasks.set future task }
  | .report result => (s.completeRequest request result).endTask future request
  | .escape _ => s.endTask future request

/-! ### Start and stop -/

def start (s : Dispatcher) : Dispatcher :=
  if s.running then s else { s with running := true, worker := .looping }

/-- Resolve the futures and clear everything but the queue. -/
def cancelAll (s : Dispatcher) : Dispatcher :=
  { s.resultFutures.entries.foldl
      (fun s (requestId, future) => s.settle future (cancelledResult requestId)) s with
    resultFutures := .empty
    inFlight := .empty
    inFlightPerDevice := .empty
    correlation := .empty }

/-- `stop` up to `await self._worker_task`. -/
def stop (s : Dispatcher) : Dispatcher :=
  if !s.running then s
  else
    let s := { s with running := false }
    match s.worker with
    | .absent => s.cancelAll
    | .ended none => s.cancelAll
    | .ended (some .cancelledError) => s.cancelAll
    -- awaiting a worker that has failed raises its exception again
    | .ended (some _) => s
    | _ => { s with worker := .ended (some .cancelledError), stopping := s.stopping + 1 }

end Dispatcher

/-! ### Events -/

/-- One thing that happens to a dispatcher. -/
inductive DispatcherEvent
  | wait (duration : Rat)
  | start
  | stop
  /-- A `stop` goes on, whose worker has ended. -/
  | stopResumes
  | enqueue (request : CommandRequest) (raises : Bool)
  /-- A caller cancels the future it was given. -/
  | abandon (future : FutureId)
  | iterate
  /-- `queue.get()` times out. -/
  | pollTimeout
  /-- `queue.get()` returns the entry, or loses it as a comparison fails. -/
  | get (entry : Submission) (raises : Bool)
  | recheck
  | advance (future : FutureId) (sequence : Except PyError Nat) (sample : Rat)
  | answer (future : FutureId) (outcome : Except PyError Bytes) (sample : Rat)

namespace Dispatcher

def step (s : Dispatcher) : DispatcherEvent → Option Dispatcher
  | .wait duration => if 0 ≤ duration then some { s with now := s.now + duration } else none
  | .start => some s.start
  | .stop => some s.stop
  | .stopResumes =>
    if s.stopping = 0 then none
    else some { s.cancelAll with stopping := s.stopping - 1 }
  | .enqueue request raises =>
    if raises = true →
        ∃ entry ∈ s.queue, entry.incomparable ⟨request, s.submitted.length⟩ = true then
      some (s.enqueue request raises).2
    else none
  | .abandon future =>
    if s.futures future = .pending ∧ future < s.submitted.length then
      some { s with futures := Function.update s.futures future .abandoned }
    else none
  | .iterate => if s.worker = .looping then some s.iterate else none
  | .pollTimeout => if s.worker = .polling then some { s with worker := .looping } else none
  | .get entry raises =>
    -- the heap hands out a least entry as long as no comparison has failed
    if s.worker = .polling ∧ entry ∈ s.queue ∧
        (s.heapIntact = true → ∀ other ∈ s.queue, entry.precedes other = true) then
      if raises then
        if ∃ a ∈ s.queue, ∃ b ∈ s.queue, a.incomparable b = true then
          some { s with
            queue := s.queue.erase entry
            heapIntact := false
            worker := .ended (some .typeError) }
        else none
      else some (s.take entry)
    else none
  | .recheck =>
    match s.worker with
    | .waiting entry => some (s.recheck entry)
    | _ => none
  | .advance future sequence sample => do
    let task ← s.tasks.get? future
    let done ← task.advance s.running s.now s.correlation sequence sample
    return s.perform future task.request done
  | .answer future outcome sample => do
    let task ← s.tasks.get? future
    let done ← task.answered s.now outcome sample
    return s.perform future task.request done

end Dispatcher

def dispatcherSystem : EventSystem Dispatcher DispatcherEvent where
  step := Dispatcher.step

/-- `AsyncCommandDispatcher.__init__`, at time `now`. -/
def Dispatcher.new (limits : Limits) (now : Rat) : Dispatcher where
  limits := limits
  now := now

/-! ### A sample request -/

/-- The default policy, without jitter. -/
def samplePolicy : RetryPolicy where
  maxRetries := 3
  backoffBase := 1 / 2
  backoffMax := 10
  jitter := 0
  backoffBase_pos := by norm_num
  backoffBase_le := by norm_num
  jitter_nonneg := by norm_num
  jitter_le := by norm_num

/-- A request made at time 0 that lives for 60 seconds. -/
def sampleRequest (requestId : RequestId) (expectedResponseOpcode : Option Nat) :
    CommandRequest where
  requestId
  protocol := .sig
  targetNode := 0xB0
  opcode := 0x8202
  params := [0x01]
  expectedResponseOpcode
  ttl := 60
  retryPolicy := samplePolicy
  priority := 1
  createdAt := 0
  targetNode_le := by decide
  opcode_le := by decide
  ttl_pos := by norm_num

end TuyaBleMesh
