import TuyaBleMesh.Bridge.Client

/-!
# Which results a client recognises

Every command that a bridge client submits has a result in the daemon, whatever goes
wrong. The client recognises it by fields that only the last phase of
`execute_ble_command` adds, so it does not recognise the failures before that phase.
-/

namespace TuyaBleMesh

/-- The commands of `SIGMeshBridgeDevice` and of `TelinkBridgeDevice`. -/
inductive BridgeSend
  /-- `SIGMeshBridgeDevice.send_power`. -/
  | sigPower (targetAddr : Nat) (on : Bool)
  -- `TelinkBridgeDevice`
  | sendPower (on : Bool)
  | sendBrightness (level : Int)
  | sendColorTemp (temp : Int)
  | sendColor (red green blue : Int)
  | sendLightMode (mode : Int)
  | sendColorBrightness (level : Int)

namespace BridgeSend

def powerAction (on : Bool) : String := if on then "on" else "off"

def action : BridgeSend → String
  | .sigPower _ on => powerAction on
  | .sendPower on => powerAction on
  | .sendBrightness _ => "brightness"
  | .sendColorTemp _ => "color_temp"
  | .sendColor _ _ _ => "color"
  | .sendLightMode _ => "light_mode"
  | .sendColorBrightness _ => "color_brightness"

def device : BridgeSend → BridgeDevice
  | .sigPower targetAddr _ => .sigMesh targetAddr
  | .sendPower _ => .telink []
  | .sendBrightness level => .telink [("level", .number level)]
  | .sendColorTemp temp => .telink [("temp", .number temp)]
  | .sendColor red green blue =>
    .telink [("r", .number red), ("g", .number green), ("b", .number blue)]
  | .sendLightMode mode => .telink [("mode", .number mode)]
  | .sendColorBrightness level => .telink [("level", .number level)]

/-- The call of a client with the address. -/
def call (send : BridgeSend) (client : Nat) (address : String) : BridgeCall where
  client
  device := send.device
  address
  action := send.action

end BridgeSend

/-- The daemon writes a result, and the client recognises it. -/
def BridgeCall.Learns (call : BridgeCall) (execution : Execution) : Prop :=
  ∃ body, executeBleCommand call.command execution = .ok body ∧ call.recognises body = .ok true

/-- No phase before the command itself fails, and WiFi comes back. -/
structure Execution.RunsThrough (execution : Execution) : Prop where
  wifiDown : execution.wifiDown = true
  restarted : execution.restarted = true
  wifiUp : execution.wifiUp = .ok ()
  /-- `time.time()` is not `0.0`. -/
  time : execution.time ≠ 0

namespace BridgeCall

variable {call : BridgeCall} {execution : Execution}

/-- No client recognises a bare failure, which has no fields but two. -/
theorem recognises_failure (error : String) : call.recognises (failure error) = .ok false := rfl

/-- What the last phase adds to a result. -/
def labels (call : BridgeCall) (execution : Execution) : Labels :=
  match call.device with
  | .sigMesh targetAddr =>
    ⟨.string call.action, .string (hexUpper 4 targetAddr), .string "sig_mesh",
      .string call.address, execution.time⟩
  | .telink _ =>
    ⟨.string call.action, .string "00B0", .string "telink", .string call.address, execution.time⟩

theorem labels_action (call : BridgeCall) (execution : Execution) :
    (call.labels execution).action = .string call.action := by
  unfold labels
  cases call.device with
  | sigMesh targetAddr => rfl
  | telink params => rfl

theorem labels_time (call : BridgeCall) (execution : Execution) :
    (call.labels execution).time = execution.time := by
  unfold labels
  cases call.device with
  | sigMesh targetAddr => rfl
  | telink params => rfl

/-- Whatever the subprocess returns, the result of the client's own command is labelled for it. -/
theorem recognises_labelled (ran : List (String × Json)) :
    call.recognises (.object (Json.update ran (call.labels execution).fields)) =
      .ok (execution.time ≠ 0) := by
  have found : ∀ name value, (call.labels execution).fields.lookup name = some value →
      (Json.object (Json.update ran (call.labels execution).fields)).get name =
        .ok (some value) := by
    intro name value labelled
    rw [Json.get, Json.lookup_update labelled]
  unfold recognises
  rw [found "action" _ rfl, found "device_type" _ rfl, found "timestamp" _ rfl, labels_action,
    labels_time]
  cases device : call.device with
  | sigMesh targetAddr => simp [bind, Except.bind, pure, Except.pure, Json.is, Json.truthy]
  | telink params =>
    have telink : (call.labels execution).deviceType = .string "telink" := by
      rw [labels, device]
    simp [bind, Except.bind, pure, Except.pure, Json.is, Json.truthy, telink]

/-! ### Executing the command of a client -/

/-- The daemon has the action in its list. -/
def Known (call : BridgeCall) : Prop :=
  match call.device with
  | .sigMesh _ => call.action ∈ sigActions
  | .telink _ => call.action ∈ telinkActions

theorem any_is {actions : List String} {action : String} (known : action ∈ actions) :
    actions.any (Json.string action).is = true :=
  List.any_eq_true.mpr ⟨action, known, decide_eq_true rfl⟩

/-- What the daemon reads in the command. -/
theorem command_labels (call : BridgeCall) (execution : Execution) :
    call.command.getD "action" (.string "") = .ok (call.labels execution).action ∧
      call.command.getD "target" (.string "00B0") = .ok (call.labels execution).target ∧
        call.command.getD "mac" (.string "DC:23:4F:10:52:C4") = .ok (call.labels execution).mac ∧
          call.command.getD "device_type" (.string "sig_mesh") =
            .ok (call.labels execution).deviceType := by
  unfold command labels
  cases call.device with
  | sigMesh targetAddr => exact ⟨rfl, rfl, rfl, rfl⟩
  | telink params =>
    cases params with
    | nil => exact ⟨rfl, rfl, rfl, rfl⟩
    | cons param params => exact ⟨rfl, rfl, rfl, rfl⟩

/-- No check refuses a known command. -/
theorem not_refused (execution : Execution) (known : call.Known) :
    ((call.labels execution).deviceType.is "telink" &&
        !telinkActions.any (call.labels execution).action.is) = false ∧
      ((call.labels execution).deviceType.is "sig_mesh" &&
        !sigActions.any (call.labels execution).action.is) = false := by
  rw [labels_action]
  unfold Known at known
  unfold labels
  cases device : call.device with
  | sigMesh targetAddr =>
    rw [device] at known
    rw [any_is known]
    exact ⟨rfl, rfl⟩
  | telink params =>
    rw [device] at known
    rw [any_is known]
    exact ⟨rfl, rfl⟩

/-- The parameters of a client are an object, with which the script can be formatted. -/
theorem runs (call : BridgeCall) (execution : Execution) :
    runCommand call.command (call.labels execution).deviceType execution = .ok execution.ran := by
  unfold command labels
  cases call.device with
  | sigMesh targetAddr => rfl
  | telink params =>
    cases params with
    | nil => rfl
    | cons param params => rfl

/-- What comes of a known command depends on the phases alone. -/
theorem executes (known : call.Known) : executeBleCommand call.command execution =
    if execution.wifiDown = false then .ok (failure "Failed to disable WiFi")
    else if execution.restarted = false then
      execution.wifiUp.bind fun _ => .ok (failure "Bluetooth restart failed")
    else
      execution.wifiUp.bind fun _ => .ok
        (.object (Json.update execution.ran (call.labels execution).fields)) := by
  obtain ⟨action, target, mac, deviceType⟩ := call.command_labels execution
  obtain ⟨telink, sigMesh⟩ := not_refused execution known
  unfold executeBleCommand
  rw [action, target, mac, deviceType]
  simp only [bind, Except.bind, telink, sigMesh, runs, pure, Except.pure]
  cases execution.wifiDown with
  | false => rfl
  | true =>
    cases execution.restarted with
    | false => rfl
    | true =>
      rw [Labels.fields, labels_time]
      rfl

/-- A known command gives a result that the client recognises if and only if every phase but the
command itself goes well. -/
theorem learns_iff (known : call.Known) : call.Learns execution ↔ execution.RunsThrough := by
  constructor
  · rintro ⟨body, executed, recognised⟩
    rw [executes known] at executed
    split at executed
    · -- the failure has no action
      cases executed
      rw [recognises_failure] at recognised
      cases recognised
    · next down =>
      cases up : execution.wifiUp with
      | error error =>
        rw [up] at executed
        split at executed
        · cases executed
        · cases executed
      | ok _ =>
        rw [up] at executed
        split at executed
        · cases executed
          rw [recognises_failure] at recognised
          cases recognised
        · next restarted =>
          cases executed
          rw [recognises_labelled] at recognised
          refine ⟨eq_true_of_ne_false down, eq_true_of_ne_false restarted, up, ?_⟩
          exact of_decide_eq_true (Except.ok.inj recognised)
  · rintro ⟨down, restarted, up, time⟩
    refine ⟨.object (Json.update execution.ran (call.labels execution).fields), ?_, ?_⟩
    · rw [executes known, down, restarted, up]
      rfl
    · rw [recognises_labelled]
      exact congrArg Except.ok (decide_eq_true time)

end BridgeCall

theorem BridgeSend.powerAction_mem (on : Bool) :
    powerAction on ∈ sigActions ∧ powerAction on ∈ telinkActions := by
  cases on with
  | false => decide
  | true => decide

theorem BridgeSend.known (send : BridgeSend) (client : Nat) (address : String) :
    (send.call client address).Known := by
  cases send with
  | sigPower targetAddr on => exact (powerAction_mem on).1
  | sendPower on => exact (powerAction_mem on).2
  | sendBrightness level => exact (by decide : "brightness" ∈ telinkActions)
  | sendColorTemp temp => exact (by decide : "color_temp" ∈ telinkActions)
  | sendColor red green blue => exact (by decide : "color" ∈ telinkActions)
  | sendLightMode mode => exact (by decide : "light_mode" ∈ telinkActions)
  | sendColorBrightness level => exact (by decide : "color_brightness" ∈ telinkActions)

namespace BridgeSend

/-- A client learns what has become of its command if and only if WiFi was disabled, Bluetooth
restarted and WiFi brought back without an exception; how the command itself ends makes no
difference. -/
theorem learns_outcome_iff (send : BridgeSend) (client : Nat) (address : String)
    (execution : Execution) :
    (send.call client address).Learns execution ↔ execution.RunsThrough :=
  BridgeCall.learns_iff (send.known client address)

/-- WiFi cannot be disabled. -/
def failedExecution : Execution where
  wifiDown := false
  restarted := true
  ran := []
  wifiUp := .ok ()
  str _ := ""
  time := 1000

/-- The daemon writes the failure, and neither client recognises it: the poll goes on. -/
theorem wifiFailure_unrecognised :
    (∃ body, executeBleCommand ((sigPower 0xB0 true).call 0 "DC:23:4F:10:52:C4").command
        failedExecution = .ok body ∧
      ((sigPower 0xB0 true).call 0 "DC:23:4F:10:52:C4").recognises body = .ok false) ∧
    (∃ body, executeBleCommand ((sendBrightness 50).call 0 "DC:23:4F:10:52:C4").command
        failedExecution = .ok body ∧
      ((sendBrightness 50).call 0 "DC:23:4F:10:52:C4").recognises body = .ok false) ∧
    ¬((sigPower 0xB0 true).call 0 "DC:23:4F:10:52:C4").Learns failedExecution ∧
    ¬((sendBrightness 50).call 0 "DC:23:4F:10:52:C4").Learns failedExecution := by
  have unlearnt : ∀ send : BridgeSend,
      ¬(send.call 0 "DC:23:4F:10:52:C4").Learns failedExecution := by
    intro send learns
    cases ((BridgeCall.learns_iff (send.known 0 _)).mp learns).wifiDown
  have fails : ∀ send : BridgeSend, ∃ body,
      executeBleCommand (send.call 0 "DC:23:4F:10:52:C4").command failedExecution = .ok body ∧
        (send.call 0 "DC:23:4F:10:52:C4").recognises body = .ok false := by
    intro send
    exact ⟨_, BridgeCall.executes (send.known 0 _), BridgeCall.recognises_failure _⟩
  exact ⟨fails _, fails _, unlearnt _, unlearnt _⟩

end BridgeSend

end TuyaBleMesh
