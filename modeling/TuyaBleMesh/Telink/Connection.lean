import Mathlib.Algebra.Order.Field.Rat
import TuyaBleMesh.Telink.Packet
import TuyaBleMesh.Lib.RelyGuarantee

/-!
# The connection to a Telink device

`connection.py`: connecting, cleaning up, writing, keep-alive probes and the detection
of a lost connection, as coroutines over the fields that all callers and the
keep-alive task share. What the Bluetooth library answers, and when, is left open.
-/

namespace TuyaBleMesh

inductive ConnectionState
  | disconnected
  | connecting
  | pairing
  | ready
  | disconnecting
  deriving DecidableEq, Repr

/-- A `BleakClient` object. -/
abbrev Client := Nat

/-- A command in the queue of the dispatcher; `number` tells the objects apart. -/
structure QueuedCommand where
  number : Nat
  opcode : Nat
  params : Bytes
  destId : Nat
  createdAt : Rat
  deriving DecidableEq

/-- What the claims about a run speak of, as it happens. -/
inductive Moment
  /-- `connect` goes on to connect. -/
  | connectBegins (task : TaskId)
  /-- `connect` sets the state to READY, from the state. -/
  | becomesReady (task : TaskId) (state : ConnectionState)
  /-- `connect` returns, in the state. -/
  | connectReturns (task : TaskId) (state : ConnectionState)
  /-- `connect` raises. -/
  | connectRaises (task : TaskId)
  /-- `disconnect` goes on to disconnect, from the state. -/
  | disconnectBegins (task : TaskId) (state : ConnectionState)
  | disconnectEnds (task : TaskId)
  /-- `_handle_disconnect` goes on to clean up, from the state. -/
  | lossBegins (task : TaskId) (state : ConnectionState)
  | lossEnds (task : TaskId)
  /-- The disconnect callbacks are invoked. -/
  | callbacks (task : TaskId)
  /-- The worker goes to wait for the connection; `event` tells whether the event is set. -/
  | waits (event : Bool)
  | enqueued (command : QueuedCommand)
  /-- A worker takes the command from the queue. -/
  | taken (task : TaskId) (command : QueuedCommand)
  /-- `write_command` is called for a queued command, at the time. -/
  | attempted (command : QueuedCommand) (now : Rat)
  /-- The command is written. -/
  | written (command : QueuedCommand)
  deriving DecidableEq

/-- The fields of a `MeshDevice`, its `BLEConnection` and its `_CommandDispatcher`. -/
structure MeshDevice where
  -- `BLEConnection`
  state : ConnectionState := .disconnected
  client : Option Client := none
  sessionKey : Option Bytes := none
  sequence : Nat := 0
  keepAliveTask : Option TaskId := none
  notifyActive : Bool := false
  -- `MeshDevice`
  connectedEvent : Bool := false
  -- `_CommandDispatcher`
  queue : List QueuedCommand := []
  workerTask : Option TaskId := none
  running : Bool := false
  /-- How many commands have been created. -/
  created : Nat := 0
  /-- `time.monotonic()`. -/
  now : Rat := 0
  /-- The keys that `provision` has returned. -/
  keys : List Bytes := []
  history : List Moment := []

/-- Where `_cleanup` or the keep-alive timer is called from. -/
inductive CallSite
  | disconnect
  | loss
  | provisioning
  | connect
  | restart
  /-- `_CommandDispatcher.stop` waits for the worker. -/
  | stop
  deriving DecidableEq

inductive TelinkOp
  /-- The scan, or the callback that finds the device. -/
  | findDevice
  | establishConnection
  /-- The pause after a failed attempt, with `left` attempts to come. -/
  | connectPause (delay : Rat) (left : Nat)
  | provision (client : Client)
  | readFirmware (client : Client)
  | startNotify (client : Client)
  | disconnectClient (client : Client) (site : CallSite)
  | writeCommand (client : Client) (packet : Bytes)
  | writeKeepAlive (client : Client) (packet : Bytes)
  | keepAliveSleep
  /-- `wait_for(queue.get(), …)`. -/
  | queueGet
  /-- `wait_for(connected_event.wait(), …)`, with the command that is to be sent. -/
  | connectedWait (command : QueuedCommand)
  /-- The pause before the next attempt to send the command. -/
  | retrySleep (delay : Rat) (command : QueuedCommand)
  /-- The pause after an error in the worker. -/
  | errorSleep
  deriving DecidableEq

abbrev TelinkOp.Answer : TelinkOp → Type
  | .findDevice => Bool
  | .establishConnection => Client
  | .provision _ => Bytes
  | _ => Unit

/-- The calls of a device, its tasks, and the points where their loops go on. -/
inductive TelinkCode
  /-- `BLEConnection.connect`. -/
  | linkConnect (maxRetries : Nat)
  /-- `BLEConnection.disconnect`. -/
  | linkDisconnect
  /-- `BLEConnection.write_command`. -/
  | linkWrite (packet : Bytes)
  | connect (maxRetries : Nat)
  | disconnect
  | sendCommand (opcode : Nat) (params : Bytes) (destId : Nat)
  | keepAliveLoop
  | keepAliveAwake (answer : Except PyError Unit)
  | worker
  | workerGot (answer : Except PyError Unit)
  | workerWaited (command : QueuedCommand) (answer : Except PyError Unit)
  | workerRested (answer : Except PyError Unit)

abbrev telinkSignature : Signature where
  State := MeshDevice
  Op := TelinkOp
  Answer := TelinkOp.Answer
  Site := CallSite
  Code := TelinkCode
  Error := PyError
  cancelledError := .cancelledError
  selfJoinError := .runtimeError

abbrev Telink := Coroutine telinkSignature

/-- What a device is made with. -/
structure TelinkConfig where
  suite : CipherSuite
  address : String
  /-- `mac_to_bytes(address)`. -/
  macBytes : Bytes
  vendorId : Bytes := Telink.TELINK_VENDOR_ID
  queueMaxSize : Nat := 32
  commandTtl : Rat := 60

namespace Telink

open Coroutine

abbrev device : Telink MeshDevice := read

abbrev call (op : TelinkOp) : Telink op.Answer := Coroutine.call (S := telinkSignature) op

abbrev update (f : MeshDevice → MeshDevice) : Telink Unit := modify f

/-- Written down in the history of the run. -/
abbrev note (moment : Moment) : Telink Unit := update fun s => { s with history := s.history ++ [moment] }

/-- A change of the state that is written down with it. -/
abbrev enter (state : ConnectionState) (moment : ConnectionState → Moment) : Telink Unit :=
  update fun s => { s with state, history := s.history ++ [moment s.state] }

/-- The answer of what was awaited. -/
abbrev fromAnswer {α : Type} (answer : Except PyError α) : Telink α :=
  Coroutine.done (S := telinkSignature) answer

/-- `contextlib.suppress(asyncio.CancelledError)`. -/
def suppressCancelled (body : Telink Unit) : Telink Unit :=
  onError body fun error => if error = .cancelledError then pure () else raise error

/-! ### Sequence numbers -/

def _MAX_SEQUENCE : Nat := 0xFFFFFF

/-- `next_sequence`; nothing is awaited while the lock is held. -/
def nextSequence : Telink Nat := do
  let s ← device
  update fun s => { s with sequence := (s.sequence + 1) &&& _MAX_SEQUENCE }
  return s.sequence

/-! ### Cleaning up -/

def stopKeepAlive (site : CallSite) : Telink Unit := do
  let s ← device
  match s.keepAliveTask with
  | none => pure ()
  | some task =>
    cancelTask task
    suppressCancelled (joinTask site task)
    update fun s => { s with keepAliveTask := none }

/-- Zero-fill the session key, then clear the reference. -/
def clearSessionKey : Telink Unit := do
  update fun s => { s with sessionKey := s.sessionKey.map fun key => List.replicate key.length 0 }
  update fun s => { s with sessionKey := none }

/-- Disconnect the client and clear the reference. -/
def dropClient (site : CallSite) : Telink Unit := do
  let s ← device
  match s.client with
  | none => pure ()
  | some client =>
    onError (Telink.call (.disconnectClient client site)) fun error =>
      if error.isOsError then pure () else raise error
    update fun s => { s with client := none }

/-- `_cleanup`. -/
def cleanup (site : CallSite) : Telink Unit := do
  stopKeepAlive site
  update fun s => { s with notifyActive := false }
  clearSessionKey
  dropClient site
  update fun s => { s with state := .disconnected }

/-- `BLEConnection.disconnect`. -/
def linkDisconnect : Telink Unit := do
  let s ← device
  if s.state = .disconnected then pure ()
  else
    let me ← currentTask
    enter .disconnecting (.disconnectBegins me)
    ensuring (cleanup .disconnect) (note (.disconnectEnds me))

/-- The callback that `MeshDevice` registers: `_on_disconnect`. The callbacks of the device in
turn are called here as well. -/
def onDisconnect (me : TaskId) : Telink Unit := do
  update fun s => { s with connectedEvent := false }
  note (.callbacks me)

/-- `_handle_disconnect`. -/
def handleDisconnect : Telink Unit := do
  let s ← device
  -- already disconnecting
  if s.state = .disconnecting then pure ()
  else
    let me ← currentTask
    note (.lossBegins me s.state)
    ensuring (do cleanup .loss; onDisconnect me) (note (.lossEnds me))

/-! ### Keep-alive -/

def KEEP_ALIVE_DESTINATION : Nat := 0xFFFF

def TELINK_CMD_STATUS_QUERY : Nat := 0xDA

def _STATUS_QUERY_PARAM : Bytes := [0x10]

def startKeepAlive (site : CallSite) : Telink Unit := do
  stopKeepAlive site
  let task ← createTask .keepAliveLoop
  update fun s => { s with keepAliveTask := some task }

def restartKeepAlive : Telink Unit := do
  let s ← device
  if s.state = .ready then startKeepAlive .restart else pure ()

def sendKeepAlive (c : TelinkConfig) : Telink Unit := do
  let s ← device
  match s.state, s.client, s.sessionKey with
  | .ready, some client, some key =>
    onError
      (do
        let sequence ← nextSequence
        let packet ← fromAnswer (encodeCommandPacket c.suite key c.macBytes sequence
          KEEP_ALIVE_DESTINATION TELINK_CMD_STATUS_QUERY _STATUS_QUERY_PARAM c.vendorId)
        Telink.call (.writeKeepAlive client packet))
      fun error => if error.isOsError then handleDisconnect else raise error
  | _, _, _ => pure ()

/-- The head of the loop of `_keep_alive_loop`. -/
def keepAliveHead : Telink Unit := do
  let s ← device
  if s.state = .ready then .park .keepAliveSleep .keepAliveAwake else pure ()

def keepAliveLoop : Telink Unit := suppressCancelled keepAliveHead

/-- The loop goes on after its sleep. -/
def keepAliveAwake (c : TelinkConfig) (answer : Except PyError Unit) : Telink Unit :=
  suppressCancelled do
    fromAnswer answer
    let s ← device
    if s.state ≠ .ready then pure ()
    else
      sendKeepAlive c
      keepAliveHead

/-! ### Writing -/

/-- The packet that was written was one for a command of the queue, or not. -/
def noteWritten (command : Option QueuedCommand) : Telink Unit :=
  match command with
  | some command => note (.written command)
  | none => pure ()

/-- `write_command`, for a command of the queue or for an outside caller. -/
def writeCommand (c : TelinkConfig) (command : Option QueuedCommand) (packet : Bytes) :
    Telink Unit := do
  let s ← device
  match s.state, s.client with
  | .ready, some client =>
    onError (Telink.call (.writeCommand client packet)) fun error =>
      if error.isOsError then do
        handleDisconnect
        raise (.meshConnectionError s!"Write failed to {c.address}")
      else raise error
    noteWritten command
    restartKeepAlive
  | _, _ => raise (.disconnectedError "Not connected")

/-! ### Connecting -/

/-- One attempt, up to the client. -/
def connectAttempt (c : TelinkConfig) : Telink Unit := do
  let found : Bool ← Telink.call .findDevice
  if found = false then
    raise (.meshConnectionError (s!"Device {c.address} not found in BLE scan. " ++
      "Ensure device is powered on and in range of a BLE adapter or ESPHome proxy."))
  else
    let client : Client ← Telink.call .establishConnection
    update fun s => { s with client := some client }

/-- The exceptions after which the next attempt is made. -/
def isRetried (error : PyError) : Bool :=
  error.isOsError || error = .bleakError || error = .cancelledError

/-- `_connect_with_retry`, with `left` of the attempts left. -/
def connectWithRetry (c : TelinkConfig) (maxRetries : Nat) : (left : Nat) → Telink Unit
  | 0 => raise (.meshConnectionError
      s!"Failed to connect to {c.address} after {maxRetries} attempts")
  | left + 1 => do
    let connected ← onError (do connectAttempt c; return true) fun error => do
      if error.isMeshConnectionError then
        update fun s => { s with client := none }
        raise error
      else if isRetried error then
        update fun s => { s with client := none }
        Telink.call (.connectPause (min (2 * (maxRetries - left : Nat)) 8) left)
        return false
      else raise error
    if connected then pure () else connectWithRetry c maxRetries left

/-- `_read_firmware_version`; the version itself is not kept here. -/
def readFirmwareVersion : Telink Unit := do
  let s ← device
  match s.client with
  | none => pure ()
  | some client =>
    onError (Telink.call (.readFirmware client)) fun error =>
      if error.isOsError then pure () else raise error

/-- `_start_notify_safe`, with the handler that `MeshDevice` sets. -/
def startNotifySafe : Telink Unit := do
  let s ← device
  match s.client with
  | none => pure ()
  | some client =>
    onError
      (do
        Telink.call (.startNotify client)
        update fun s => { s with notifyActive := true })
      fun error =>
        if error.isOsError || error = .bleakError || error = .eofError then
          update fun s => { s with notifyActive := false }
        else raise error

/-- Pair with the device: the session key is set. -/
def pair (c : TelinkConfig) (client : Client) : Telink Unit :=
  onError
    (do
      let key : Bytes ← Telink.call (.provision client)
      update fun s => { s with sessionKey := some key, keys := s.keys ++ [key] })
    fun error =>
      if error.isException then do
        cleanup .provisioning
        raise (.meshConnectionError s!"Provisioning failed for {c.address}")
      else raise error

/-- `connect` from the CONNECTING state on. -/
def establish (c : TelinkConfig) (me : TaskId) (maxRetries : Nat) : Telink Unit := do
  onError (connectWithRetry c maxRetries maxRetries) fun error =>
    if error.isOsError || error.isMeshConnectionError then do
      update fun s => { s with state := .disconnected }
      raise error
    else raise error
  let s ← device
  match s.client with
  | none =>
    update fun s => { s with state := .disconnected }
    raise (.meshConnectionError "BLE client not set after connect")
  | some client =>
    update fun s => { s with state := .pairing }
    pair c client
    readFirmwareVersion
    enter .ready (.becomesReady me)
    startKeepAlive .connect
    startNotifySafe

/-- `BLEConnection.connect`. -/
def linkConnect (c : TelinkConfig) (maxRetries : Nat) : Telink Unit := do
  let s ← device
  let me ← currentTask
  if s.state = .ready then note (.connectReturns me s.state)
  else
    enter .connecting fun _ => .connectBegins me
    onError (establish c me maxRetries) fun error => do
      note (.connectRaises me)
      raise error
    let s ← device
    note (.connectReturns me s.state)

end Telink

end TuyaBleMesh
