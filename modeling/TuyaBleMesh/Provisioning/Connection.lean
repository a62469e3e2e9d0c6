import Mathlib.Algebra.Order.Field.Rat
import TuyaBleMesh.Exceptions
import TuyaBleMesh.Lib.Coroutine

/-!
# Connecting to the provisioning service

`_connect` and `_cleanup_stale_connections` of `sig_mesh_provisioner_connection.py`. Each
attempt has a client of its own, which goes by the number of the attempt: the variable for
it is `None` again before the next attempt begins.
-/

namespace TuyaBleMesh

/-- An exception as the handlers see it: what it is an instance of, `type(exc).__name__` and
`str(exc)`. -/
structure Raised where
  error : PyError
  typeName : String
  text : String
  deriving DecidableEq

def Raised.provisioning (msg : String) : Raised :=
  ⟨.provisioningError msg, "ProvisioningError", msg⟩

/-- A collection of services, with the UUIDs of its members. -/
structure Services where
  truthy : Bool
  uuids : List String

/-- What is read of a client. -/
structure LinkClient where
  isConnected : Bool
  hasGetServices : Bool
  /-- Reading the property may raise. -/
  services : Except Raised (Option Services)

inductive LinkOp
  /-- The scan, or the callback that finds the device. -/
  | findDevice
  /-- `client.connect()` or the connect callback, within the timeout. -/
  | connectClient (attempt : Nat)
  | getServices (attempt : Nat)
  /-- `client.disconnect()`, in the handler for a `ProvisioningError` or in another one. -/
  | disconnect (attempt : Nat) (rejected : Bool)
  | sleep (seconds : Rat)
  | createProcess
  | communicate
  /-- The process is killed and waited for. -/
  | killProcess

abbrev LinkOp.Answer : LinkOp → Type
  | .findDevice => Bool
  | .connectClient _ => Option LinkClient
  | .getServices _ => Option Services
  | _ => Unit

abbrev linkSignature : Signature where
  State := Unit
  Op := LinkOp
  Answer := LinkOp.Answer
  Site := Empty
  Code := Empty
  Error := Raised
  cancelledError := ⟨.cancelledError, "CancelledError", ""⟩
  selfJoinError := ⟨.runtimeError, "RuntimeError", "Task cannot await on itself"⟩

abbrev Connecting := Coroutine linkSignature

/-- What the attempts share. -/
structure LinkConfig where
  /-- In upper case. -/
  address : String
  /-- There is a callback that returns connected clients. -/
  connectCallback : Bool

/-- The attempts that have failed. -/
structure LinkFailures where
  scan : Nat := 0
  connect : Nat := 0
  outOfSlots : Nat := 0
  last : Option Raised := none

namespace ProvisionerConnection

open Coroutine

def PROV_SERVICE : String := "00001827-0000-1000-8000-00805f9b34fb"

def _BLUEZ_CACHE_SETTLE_DELAY : Rat := 1 / 2

/-- `min(base * 1.5 ** (attempt - 1), longest)`; the exponent is the same for all of them. -/
def backoff (base longest : Rat) (attempt : Nat) : Rat := min (base * (3 / 2) ^ (attempt - 1)) longest

def scanBackoff : Nat → Rat := backoff 2 10

def connectBackoff : Nat → Rat := backoff 3 15

def slotsBackoff : Nat → Rat := backoff 5 20

abbrev call (op : LinkOp) : Connecting op.Answer := Coroutine.call (S := linkSignature) op

/-- `contextlib.suppress`. -/
def suppress (suppressed : PyError → Bool) (body : Connecting Unit) : Connecting Unit :=
  onError body fun exc => if suppressed exc.error then pure () else raise exc

def cleanupStaleConnections : Connecting Unit :=
  suppress PyError.isOsError do
    call .createProcess
    onError (call .communicate) fun exc =>
      if exc.error = .timeoutError then call .killProcess else raise exc
    call (.sleep _BLUEZ_CACHE_SETTLE_DELAY)

/-- `str(exc).lower()` contains one of the texts. -/
def isSlotError (exc : Raised) : Bool :=
  ["out of connection slots", "bleakoutofconnectionslotserror",
    "no backend with an available connection slot"].any fun text =>
      exc.text.toLower.toList.tails.any text.toList.isPrefixOf

variable (c : LinkConfig)

/-- The client is disconnected, if there is one. A `BleakError` is only suppressed where a
`ProvisioningError` is handled. -/
def closeClient (attempt : Nat) (created rejected : Bool) : Connecting Unit :=
  if created then
    suppress (fun error => error.isOsError || rejected && error = .bleakError)
      (call (.disconnect attempt rejected))
  else pure ()

/-- The handlers of an attempt, which raise the exception again or count it. -/
def attemptFailed (attempt : Nat) (created : Bool) (failures : LinkFailures) (exc : Raised) :
    Connecting LinkFailures :=
  if exc.error.isProvisioningError then do
    closeClient attempt created true
    raise exc
  else if exc.error = .timeoutError then do
    closeClient attempt created false
    call (.sleep (connectBackoff attempt))
    return { failures with last := some exc, connect := failures.connect + 1 }
  else if exc.error.isOsError || exc.error = .bleakError then do
    closeClient attempt created false
    let failures := { failures with last := some exc, connect := failures.connect + 1 }
    if isSlotError exc then do
      if c.connectCallback then pure () else cleanupStaleConnections
      call (.sleep (slotsBackoff attempt))
      return { failures with outOfSlots := failures.outOfSlots + 1 }
    else do
      call (.sleep (connectBackoff attempt))
      return failures
  else raise exc

/-- A part of the `try` block, during which there is a client or not. -/
def tried {β : Type} (attempt : Nat) (created : Bool) (failures : LinkFailures)
    (body : Connecting β) : Connecting (LinkFailures ⊕ β) :=
  onError (do
      let value ← body
      return .inr value)
    fun exc => do
      let failures ← attemptFailed c attempt created failures exc
      return .inl failures

/-- `get_services()` of an older library, or the property. -/
def readServices (attempt : Nat) (client : LinkClient) : Connecting (Option Services) :=
  if client.hasGetServices then call (.getServices attempt)
  else Coroutine.done (S := linkSignature) client.services

/-- A client without the service is rejected, unless it takes too long to find its services. -/
def checkServices (attempt : Nat) (client : LinkClient) : Connecting Unit :=
  onError (do
      let services ← readServices attempt client
      match services with
      | none => pure ()
      | some services =>
        if services.truthy && !services.uuids.contains PROV_SERVICE then
          raise (.provisioning
            s!"Device {c.address} does not expose Provisioning Service (0x1827)")
        else pure ())
    fun exc => if exc.error = .timeoutError then pure () else raise exc

/-- The checks of what has been connected. -/
def checkClient (attempt : Nat) (client : Option LinkClient) : Connecting Unit :=
  match client with
  | none => raise (.provisioning "BLE connect callback returned None client")
  | some client =>
    if client.isConnected then checkServices c attempt client
    else raise (.provisioning "BleakClient reported connected but is_connected=False")

/-- One attempt: it has connected, or the failures are those with its own. -/
def connectAttempt (attempt : Nat) (failures : LinkFailures) : Connecting (LinkFailures ⊕ Unit) := do
  let found : LinkFailures ⊕ Bool ← tried c attempt false failures (call .findDevice)
  match found with
  | .inl failures => return .inl failures
  | .inr false =>
    let failures := { failures with scan := failures.scan + 1 }
    let waited : LinkFailures ⊕ Unit ←
      tried c attempt false failures (call (.sleep (scanBackoff attempt)))
    match waited with
    | .inl failures => return .inl failures
    | .inr () => return .inl failures
  | .inr true =>
    -- without the callback there is a client before it connects
    let made : LinkFailures ⊕ Option LinkClient ←
      tried c attempt (!c.connectCallback) failures (call (.connectClient attempt))
    match made with
    | .inl failures => return .inl failures
    | .inr client => tried c attempt client.isSome failures (checkClient c attempt client)

def failureMessage (maxRetries : Nat) (failures : LinkFailures) : String :=
  let details := s!"scan_failures={failures.scan}, connect_failures={failures.connect}, " ++
    s!"out_of_slots={failures.outOfSlots}"
  let advice :=
    if failures.outOfSlots > 0 then
      "BLE adapter ran out of connection slots. " ++
        "Try: 1) Reduce number of concurrent BLE connections, " ++
        "2) Restart Bluetooth service, or 3) Use a different BLE adapter. "
    else "Check device is in range, not already provisioned, and advertising. "
  let lastError :=
    match failures.last with
    | none => "unknown"
    | some exc => exc.typeName
  s!"Failed to connect to {c.address} after {maxRetries} attempts ({details}). " ++ advice ++
    s!"Last error: {lastError}"

/-- The attempts of `_connect`, of which `left` are left. -/
def connectFrom (maxRetries : Nat) : (left : Nat) → LinkFailures → Connecting Nat
  | 0, failures => raise (.provisioning (failureMessage c maxRetries failures))
  | left + 1, failures => do
    let ended : LinkFailures ⊕ Unit ← connectAttempt c (maxRetries - left) failures
    match ended with
    | .inl failures => connectFrom maxRetries left failures
    | .inr () => return maxRetries - left

/-- `_connect`: the attempt whose client is returned. -/
def connect (maxRetries : Nat) : Connecting Nat := connectFrom c maxRetries maxRetries {}

end ProvisionerConnection

end TuyaBleMesh
