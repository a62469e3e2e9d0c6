import TuyaBleMesh.Telink.Connection

/-!
# A Telink device and its command queue

`device.py` and `device_dispatcher.py`: sending with retries, the queue of commands,
the worker that takes commands from it and waits for the connection, and connecting
and disconnecting the device with its worker.
-/

namespace TuyaBleMesh

namespace Telink

open Coroutine

variable (c : TelinkConfig)

/-! ### Sending -/

def DEFAULT_COMMAND_MAX_RETRIES : Nat := 3

def _COMMAND_RETRY_INITIAL_BACKOFF : Rat := 1 / 2

def _COMMAND_RETRY_BACKOFF_MULTIPLIER : Rat := 2

/-- One attempt to send: the error after which another one may follow. -/
def sendAttempt (command : QueuedCommand) : Telink (Option PyError) := do
  let s ← device
  match s.sessionKey with
  | none => raise (.disconnectedError "Not connected")
  | some key =>
    let sequence ← nextSequence
    let packet ← fromAnswer (encodeCommandPacket c.suite key c.macBytes sequence command.destId
      command.opcode command.params c.vendorId)
    let s ← device
    note (.attempted command s.now)
    onError (do writeCommand c (some command) packet; return none) fun error =>
      if error.isDisconnectedError then raise error
      else if error.isMeshConnectionError || error.isOsError then pure (some error)
      else raise error

/-- The attempts of `_send_now` after the first, of which `left` are left. -/
def sendAgain (command : QueuedCommand) (error : PyError) :
    (left : Nat) → (backoff : Rat) → Telink Unit
  | 0, _ => raise error
  | left + 1, backoff => do
    Telink.call (.retrySleep backoff command)
    match ← sendAttempt c command with
    | none => pure ()
    | some error => sendAgain command error left (backoff * _COMMAND_RETRY_BACKOFF_MULTIPLIER)

/-- `_send_now`, with the default number of attempts. -/
def sendNow (command : QueuedCommand) : Telink Unit := do
  match ← sendAttempt c command with
  | none => pure ()
  | some error =>
    sendAgain c command error (DEFAULT_COMMAND_MAX_RETRIES - 1) _COMMAND_RETRY_INITIAL_BACKOFF

/-! ### The worker -/

/-- The head of the loop of `_worker`, up to `queue.get()`. -/
def workerHead : Telink Unit := do
  let s ← device
  if s.running then .park .queueGet .workerGot else pure ()

/-- The `except` clauses at the end of an iteration. -/
def workerIteration (body : Telink Unit) : Telink Unit :=
  onError body fun error =>
    if error.isException then .park .errorSleep .workerRested else raise error

/-- Send the command that the worker has taken, and go on with the next one. -/
def sendTaken (command : QueuedCommand) : Telink Unit := do
  let s ← device
  if s.running then
    onError (sendNow c command) fun error =>
      if error.isMeshConnectionError then pure () else raise error
    workerHead
  else pure ()

/-- The loop that waits for the connection. -/
def awaitConnection (command : QueuedCommand) : Telink Unit := do
  let s ← device
  if s.running = true ∧ s.state ≠ .ready then
    note (.waits s.connectedEvent)
    .park (.connectedWait command) (.workerWaited command)
  else sendTaken c command

/-- From the age check of a command on. -/
def takeCommand (command : QueuedCommand) : Telink Unit := do
  let s ← device
  -- expired commands are dropped
  if s.now - command.createdAt > c.commandTtl then workerHead
  else awaitConnection c command

/-- `queue.get()` has returned, or timed out. -/
def workerGot (answer : Except PyError Unit) : Telink Unit :=
  workerIteration <|
    match answer with
    | .error error => if error = .timeoutError then workerHead else raise error
    | .ok _ => do
      let s ← device
      match s.queue with
      -- another worker has taken the item
      | [] => .park .queueGet .workerGot
      | command :: queue =>
        let me ← currentTask
        update fun s => { s with queue, history := s.history ++ [.taken me command] }
        takeCommand c command

/-- The wait for the connection has ended, or timed out. -/
def workerWaited (command : QueuedCommand) (answer : Except PyError Unit) : Telink Unit :=
  workerIteration <|
    match answer with
    | .error error => if error = .timeoutError then awaitConnection c command else raise error
    | .ok _ => awaitConnection c command

def workerRested (answer : Except PyError Unit) : Telink Unit := do
  fromAnswer answer
  workerHead

/-! ### The dispatcher -/

/-- `_CommandDispatcher.start`. -/
def start : Telink Unit := do
  let s ← device
  if s.running then pure ()
  else
    update fun s => { s with running := true }
    let task ← createTask .worker
    update fun s => { s with workerTask := some task }

/-- Cancel the worker and wait for its end. -/
def stopWorker (worker : Option TaskId) : Telink Unit :=
  match worker with
  | none => pure ()
  | some task => do
    cancelTask task
    suppressCancelled (joinTask .stop task)

/-- `_CommandDispatcher.stop`; the commands that are left are dropped. -/
def stop : Telink Unit := do
  let s ← device
  if s.running then
    update fun s => { s with running := false }
    stopWorker s.workerTask
    update fun s => { s with queue := [] }
  else pure ()

/-- `enqueue`; a queue with room takes the command at once. -/
def enqueue (opcode : Nat) (params : Bytes) (destId : Nat) : Telink Unit := do
  let s ← device
  if s.queue.length ≥ c.queueMaxSize then
    raise (.commandQueueFullError s!"Command queue full ({c.queueMaxSize})")
  else
    let command : QueuedCommand := { number := s.created, opcode, params, destId, createdAt := s.now }
    update fun s => { s with queue := s.queue ++ [command], created := s.created + 1 }
    note (.enqueued command)

/-! ### The device -/

/-- `MeshDevice.connect`. -/
def connect (maxRetries : Nat) : Telink Unit := do
  linkConnect c maxRetries
  update fun s => { s with connectedEvent := true }
  start

/-- `MeshDevice.disconnect`. -/
def disconnect : Telink Unit := do
  stop
  linkDisconnect

/-! ### The program -/

def body : TelinkCode → Telink Unit
  | .linkConnect maxRetries => linkConnect c maxRetries
  | .linkDisconnect => linkDisconnect
  | .linkWrite packet => writeCommand c none packet
  | .connect maxRetries => connect c maxRetries
  | .disconnect => disconnect
  | .sendCommand opcode params destId => enqueue c opcode params destId
  | .keepAliveLoop => keepAliveLoop
  | .keepAliveAwake answer => keepAliveAwake c answer
  | .worker => workerHead
  | .workerGot answer => workerGot c answer
  | .workerWaited command answer => workerWaited c command answer
  | .workerRested answer => workerRested answer

/-- Time passes. -/
def elapse (duration : Rat) (s : MeshDevice) : Option MeshDevice :=
  if 0 ≤ duration then some { s with now := s.now + duration } else none

end Telink

instance : DecidableEq telinkSignature.Op := inferInstanceAs (DecidableEq TelinkOp)

/-- The calls of `BLEConnection`. -/
def TelinkCode.isLinkCall : TelinkCode → Bool
  | .linkConnect _ => true
  | .linkDisconnect => true
  | .linkWrite _ => true
  | _ => false

/-- The keep-alive task. -/
def TelinkCode.isKeepAlive : TelinkCode → Bool
  | .keepAliveLoop => true
  | .keepAliveAwake _ => true
  | _ => false

/-- The calls of `MeshDevice`. -/
def TelinkCode.isDeviceCall : TelinkCode → Bool
  | .connect _ => true
  | .disconnect => true
  | .sendCommand _ _ _ => true
  | _ => false

/-- A device whose callers make the calls of `entries`. -/
def telinkProgram (c : TelinkConfig) (entries : TelinkCode → Bool) :
    AsyncProgram telinkSignature Rat where
  body := Telink.body c
  isEntry := entries
  environment := Telink.elapse

/-- A device that is used through `MeshDevice`. -/
def telinkSystem (c : TelinkConfig) :
    EventSystem (EventLoop telinkSignature) (LoopEvent telinkSignature Rat) :=
  (telinkProgram c TelinkCode.isDeviceCall).system

/-- A device of which the connection is used as well. -/
def telinkLinkSystem (c : TelinkConfig) :
    EventSystem (EventLoop telinkSignature) (LoopEvent telinkSignature Rat) :=
  (telinkProgram c fun code => code.isLinkCall || code.isDeviceCall).system

/-- A device that nobody has connected to yet. -/
def MeshDevice.idle : EventLoop telinkSignature := ⟨{}, []⟩

/-! ### A sample device -/

def sampleTelink : TelinkConfig where
  suite := nonceTagSuite
  address := "DC:23:4D:21:43:A5"
  macBytes := [0xDC, 0x23, 0x4D, 0x21, 0x43, 0xA5]

def sampleSessionKey : Bytes := List.range 16 |>.map UInt8.ofNat

/-- A command that switches the sample device, as the queue has it. -/
def sampleSwitch (number : Nat) (power : UInt8) : QueuedCommand :=
  { number, opcode := 0xD0, params := [power], destId := 5, createdAt := 0 }

/-- The packet for a command, under the sample key. -/
def samplePacket (sequence opcode : Nat) (params : Bytes) (destId : Nat) : Bytes :=
  (Telink.encodeCommandPacket sampleTelink.suite sampleSessionKey sampleTelink.macBytes sequence
    destId opcode params sampleTelink.vendorId).toOption.getD []

/-- The answers that connect a task to the client. -/
def connectAnswers (task : TaskId) (client : Client) :
    List (LoopEvent telinkSignature Rat) :=
  [.answer task .findDevice (.ok true), .answer task .establishConnection (.ok client),
    .answer task (.provision client) (.ok sampleSessionKey),
    .answer task (.readFirmware client) (.ok ())]

end TuyaBleMesh
