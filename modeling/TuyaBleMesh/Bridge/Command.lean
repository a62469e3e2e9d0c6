import TuyaBleMesh.Bridge.Json

/-!
# Commands and results of the bridge

`execute_ble_command` of `ble_mesh_daemon.py`: from the body of a command to the
result that is written for it. What the operating system and the subprocess do is
a choice of the environment.
-/

namespace TuyaBleMesh

/-- What happens while a command is executed. -/
structure Execution where
  wifiDown : Bool
  restarted : Bool
  /-- The dictionary that `_execute_telink` or `_execute_sig_mesh` makes of its subprocess. -/
  ran : List (String × Json)
  /-- The exception of the commands that poll for an address, if one is raised. -/
  wifiUp : Except PyError Unit
  /-- Python's `str` of a value that is not a string. -/
  str : Json → String
  time : Rat

def sigActions : List String := ["on", "off", "status", "setup", "composition"]

def telinkActions : List String :=
  ["on", "off", "brightness", "color_temp", "color", "light_mode", "color_brightness"]

def Execution.format (execution : Execution) : Json → String
  | .string text => text
  | value => execution.str value

/-- `{"success": False, "error": error}`. -/
def failure (error : String) : Json :=
  .object [("success", .bool false), ("error", .string error)]

/-- `_execute_telink`: the script is formatted with the parameters before anything is tried. -/
def executeTelink (params : Json) (execution : Execution) :
    Except PyError (List (String × Json)) := do
  let _ ← params.get "level"
  return execution.ran

/-- The third phase: the command itself. -/
def runCommand (cmd deviceType : Json) (execution : Execution) :
    Except PyError (List (String × Json)) :=
  if deviceType.is "telink" then do
    executeTelink (← cmd.getD "params" (.object [])) execution
  else .ok execution.ran

/-- `execute_ble_command`. -/
def executeBleCommand (cmd : Json) (execution : Execution) : Except PyError Json := do
  let action ← cmd.getD "action" (.string "")
  let target ← cmd.getD "target" (.string "00B0")
  let mac ← cmd.getD "mac" (.string "DC:23:4F:10:52:C4")
  let deviceType ← cmd.getD "device_type" (.string "sig_mesh")
  if deviceType.is "telink" && !telinkActions.any action.is then
    return failure s!"Unknown telink action: {execution.format action}"
  if deviceType.is "sig_mesh" && !sigActions.any action.is then
    return failure s!"Unknown sig_mesh action: {execution.format action}"
  if !execution.wifiDown then
    return failure "Failed to disable WiFi"
  if !execution.restarted then
    execution.wifiUp
    return failure "Bluetooth restart failed"
  let result ← runCommand cmd deviceType execution
  execution.wifiUp
  return .object (Json.update result
    [("action", action), ("target", target), ("device_type", deviceType), ("mac", mac),
      ("timestamp", .number execution.time)])

/-- The fields that a command which has been run adds to its result. -/
structure Labels where
  action : Json
  target : Json
  deviceType : Json
  mac : Json
  time : Rat

def Labels.fields (labels : Labels) : List (String × Json) :=
  [("action", labels.action), ("target", labels.target), ("device_type", labels.deviceType),
    ("mac", labels.mac), ("timestamp", .number labels.time)]

/-- A result is a bare failure, or what was run, labelled with the action and the device type of
the command. -/
theorem executeBleCommand_cases {cmd body : Json} {execution : Execution}
    (done : executeBleCommand cmd execution = .ok body) :
    (∃ error, body = failure error) ∨
      ∃ (result : List (String × Json)) (labels : Labels),
        body = .object (Json.update result labels.fields) ∧
        cmd.getD "action" (.string "") = .ok labels.action ∧
        cmd.getD "device_type" (.string "sig_mesh") = .ok labels.deviceType := by
  unfold executeBleCommand at done
  obtain ⟨action, hasAction, done⟩ := bind_eq_ok.mp done
  obtain ⟨target, _, done⟩ := bind_eq_ok.mp done
  obtain ⟨mac, _, done⟩ := bind_eq_ok.mp done
  obtain ⟨deviceType, hasDeviceType, done⟩ := bind_eq_ok.mp done
  split at done
  · cases done
    exact .inl ⟨_, rfl⟩
  · split at done
    · cases done
      exact .inl ⟨_, rfl⟩
    · split at done
      · cases done
        exact .inl ⟨_, rfl⟩
      · split at done
        · obtain ⟨_, _, done⟩ := bind_eq_ok.mp done
          cases done
          exact .inl ⟨_, rfl⟩
        · obtain ⟨result, _, done⟩ := bind_eq_ok.mp done
          obtain ⟨_, _, done⟩ := bind_eq_ok.mp done
          cases done
          exact .inr ⟨result, ⟨action, target, deviceType, mac, execution.time⟩, rfl, hasAction,
            hasDeviceType⟩

/-- A command that is an object has a result when WiFi cannot be disabled. -/
theorem executeBleCommand_returns {cmd : Json} (object : cmd.isObject = true) :
    ∃ execution, (executeBleCommand cmd execution).isOk = true := by
  refine ⟨⟨false, false, [], .ok (), fun _ => "", 0⟩, ?_⟩
  cases cmd with
  | object members =>
    simp only [executeBleCommand, Json.getD, Json.get, pure, bind, Except.pure, Except.bind,
      Bool.not_false, if_true]
    split
    · rfl
    · split
      · rfl
      · rfl
  | _ => cases object

end TuyaBleMesh
