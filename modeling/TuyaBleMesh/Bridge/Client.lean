import TuyaBleMesh.Bridge.Daemon
import TuyaBleMesh.Lib.Hex
import TuyaBleMesh.Lib.OrderedDict

/-!
# Bridge clients

`_send_and_wait` of `SIGMeshBridgeDevice` and `_send_telink_cmd_once` of
`TelinkBridgeDevice` in `sig_mesh_bridge.py`: a call posts its command and then polls
the one result that the daemon keeps. Any number of calls run against one daemon.
-/

namespace TuyaBleMesh

inductive BridgeDevice
  | sigMesh (targetAddr : Nat)
  | telink (params : List (String × Json))

/-- A call of `_send_and_wait` or `_send_telink_cmd_once`. -/
structure BridgeCall where
  /-- The device object, whose lock serializes its calls. -/
  client : Nat
  device : BridgeDevice
  address : String
  action : String

namespace BridgeCall

/-- What is posted to the bridge. -/
def command (call : BridgeCall) : Json :=
  match call.device with
  | .sigMesh targetAddr =>
    .object [("action", .string call.action), ("target", .string (hexUpper 4 targetAddr)),
      ("mac", .string call.address)]
  | .telink params =>
    .object ([("action", .string call.action), ("mac", .string call.address),
      ("device_type", .string "telink")] ++
      if params.isEmpty then [] else [("params", .object params)])

/-- Whether a polled result passes for the result of the call. -/
def recognises (call : BridgeCall) (result : Json) : Except PyError Bool := do
  let action ← result.get "action"
  let deviceType ← result.get "device_type"
  let timestamp ← result.get "timestamp"
  let sameDevice :=
    match call.device with
    | .sigMesh _ => true
    | .telink _ => deviceType.any fun value => value.is "telink"
  return (action.any fun value => value.is call.action) && sameDevice &&
    timestamp.any Json.truthy

end BridgeCall

def _MAX_POLL_ATTEMPTS : Nat := 30

inductive CallOutcome
  /-- The call returns the result, or raises the error of one that failed (Telink). -/
  | accepted (result : BridgeResult)
  /-- All polls were in vain. -/
  | timedOut
  | raised (error : PyError)

/-- How far a call is; `own` is its command once the daemon has got it. -/
inductive CallPhase
  | posting
  /-- The daemon handles the request, or its answer is on the way. -/
  | handled (own : Option Command)
  | polling (own : Option Command) (attempt : Nat)
  /-- The answer to a poll is on the way. -/
  | answered (own : Option Command) (attempt : Nat) (file : StateFile BridgeResult)
  | ended (own : Option Command) (outcome : CallOutcome)

namespace CallPhase

def own : CallPhase → Option Command
  | .posting => none
  | .handled own => own
  | .polling own _ => own
  | .answered own _ _ => own
  | .ended own _ => own

/-- The daemon has got the request, and the call has not ended. -/
def isOpen : CallPhase → Bool
  | .posting => false
  | .handled _ => true
  | .polling _ _ => true
  | .answered _ _ _ => true
  | .ended _ _ => false

def hasEnded : CallPhase → Bool
  | .ended _ _ => true
  | _ => false

def accepted? : CallPhase → Option BridgeResult
  | .ended _ (.accepted result) => some result
  | _ => none

/-- After a poll without the result. -/
def pollAgain (own : Option Command) (attempt : Nat) : CallPhase :=
  if attempt + 1 < _MAX_POLL_ATTEMPTS then .polling own (attempt + 1) else .ended own .timedOut

end CallPhase

/-- The call gets the content of the result file. -/
def BridgeCall.poll (call : BridgeCall) (own : Option Command) (attempt : Nat) :
    StateFile BridgeResult → CallPhase
  -- `{"error": "No result available"}`
  | .absent => .pollAgain own attempt
  -- no JSON
  | .broken => .ended own (.raised .valueError)
  | .whole result =>
    match call.recognises result.body with
    | .error error => .ended own (.raised error)
    | .ok true => .ended own (.accepted result)
    | .ok false => .pollAgain own attempt

/-- The daemon and the calls that have been made. -/
structure Bridge where
  daemon : Daemon := {}
  calls : OrderedDict Nat (BridgeCall × CallPhase) := .empty

inductive BridgeEvent
  /-- A call takes the lock of its device and sends its request. -/
  | submit (call : BridgeCall)
  /-- The daemon handles the request, whole or cut short. -/
  | post (id : Nat) (whole fails : Bool)
  /-- The daemon does anything else, or handles a request of somebody else. -/
  | daemon (event : DaemonEvent)
  /-- The call gets the answer to its request. -/
  | respond (id : Nat)
  /-- The daemon answers a poll. -/
  | serve (id : Nat)
  | deliver (id : Nat)
  /-- A poll fails with an error that is caught. -/
  | miss (id : Nat)
  /-- The call ends with an exception: a request fails, or the call is cancelled. -/
  | abort (id : Nat) (error : PyError)

namespace Bridge

def setPhase (s : Bridge) (id : Nat) (call : BridgeCall) (phase : CallPhase) : Bridge :=
  { s with calls := s.calls.set id (call, phase) }

/-- No call of the device is under way. -/
def unlocked (s : Bridge) (client : Nat) : Bool :=
  s.calls.entries.all fun (_, call, phase) => call.client ≠ client || phase.hasEnded

def step (s : Bridge) : BridgeEvent → Option Bridge
  | .submit call =>
    if s.unlocked call.client then some (s.setPhase s.calls.size call .posting) else none
  | .post id whole fails =>
    match s.calls.get? id with
    | some (call, .posting) =>
      let body := if whole then .parsed call.command else .absent
      let own := if whole then some ⟨s.daemon.posts, call.command⟩ else none
      (s.daemon.step (.post body fails)).map fun daemon =>
        ({ s with daemon } : Bridge).setPhase id call (.handled own)
    | _ => none
  | .daemon event => (s.daemon.step event).map fun daemon => { s with daemon }
  | .respond id =>
    match s.calls.get? id with
    | some (call, .handled own) =>
      -- a handler that fails does not answer
      if own.all fun command => s.daemon.accepted.contains command.number then
        some (s.setPhase id call (.polling own 0))
      else none
    | _ => none
  | .serve id =>
    match s.calls.get? id with
    | some (call, .polling own attempt) =>
      -- the event loop is not in the middle of another request
      if s.daemon.posting.isNone then
        some (s.setPhase id call (.answered own attempt s.daemon.lastResult))
      else none
    | _ => none
  | .deliver id =>
    match s.calls.get? id with
    | some (call, .answered own attempt file) =>
      some (s.setPhase id call (call.poll own attempt file))
    | _ => none
  | .miss id =>
    match s.calls.get? id with
    | some (call, .polling own attempt) => some (s.setPhase id call (.pollAgain own attempt))
    | _ => none
  | .abort id error =>
    match s.calls.get? id with
    | some (call, phase) =>
      if phase.hasEnded then none
      else some (s.setPhase id call (.ended phase.own (.raised error)))
    | none => none

end Bridge

def bridgeSystem : EventSystem Bridge BridgeEvent where
  step := Bridge.step

end TuyaBleMesh
