import Mathlib.Algebra.Order.Field.Rat
import Mathlib.Data.Rat.Floor
import TuyaBleMesh.Lib.EventSystem

/-!
# The light entity

`TuyaBLEMeshLight` of `light.py`: the calls that turn the light on and off, the tasks
they start, and the lock under which these send their commands. A call runs to its
end at once but for the command that it sends itself; a task runs from an await point
to its next one.
-/

namespace TuyaBleMesh

/-! ### Scales -/

def DEVICE_BRIGHTNESS_MIN : Int := 1

def DEVICE_BRIGHTNESS_MAX : Int := 100

def HA_BRIGHTNESS_MIN : Int := 1

def HA_BRIGHTNESS_MAX : Int := 255

def DEVICE_COLOR_TEMP_MIN : Int := 0

def DEVICE_COLOR_TEMP_MAX : Int := 127

def HA_MIRED_MIN : Int := 153

def HA_MIRED_MAX : Int := 370

def MESH_SCENES : List (Nat × String) :=
  [(1, "Warm Candlelight"), (2, "Ocean Breeze"), (3, "Forest Dawn"), (4, "Sunset Glow"),
    (5, "Arctic Aurora")]

/-- `_SCENES_BY_NAME.get(effect)`. -/
def sceneByName (effect : String) : Option Nat :=
  (MESH_SCENES.find? fun scene => scene.2 = effect).map (·.1)

/-- Python's `round`: to the nearest integer, and halfway to the even one. -/
def roundHalfEven (x : Rat) : Int :=
  let below := ⌊x⌋
  let rest := x - below
  if rest < 1 / 2 then below
  else if 1 / 2 < rest then below + 1
  else if below % 2 = 0 then below else below + 1

/-- `max(low, min(value, high))`. -/
def clampTo (low high value : Int) : Int := max low (min value high)

def brightnessToDevice (haValue : Int) : Int :=
  let clamped := clampTo HA_BRIGHTNESS_MIN HA_BRIGHTNESS_MAX haValue
  roundHalfEven (DEVICE_BRIGHTNESS_MIN + ((clamped - HA_BRIGHTNESS_MIN) *
    (DEVICE_BRIGHTNESS_MAX - DEVICE_BRIGHTNESS_MIN) : Rat) / (HA_BRIGHTNESS_MAX - HA_BRIGHTNESS_MIN))

def colorTempToDevice (miredValue : Int) : Int :=
  let clamped := clampTo HA_MIRED_MIN HA_MIRED_MAX miredValue
  roundHalfEven (DEVICE_COLOR_TEMP_MAX - ((clamped - HA_MIRED_MIN) *
    (DEVICE_COLOR_TEMP_MAX - DEVICE_COLOR_TEMP_MIN) : Rat) / (HA_MIRED_MAX - HA_MIRED_MIN))

/-- What a transition computes with `float`. -/
structure FloatOps where
  /-- `int(duration * 10)`. -/
  tenths : Rat → Nat
  /-- `round(start + (target - start) * (i / steps))`. -/
  interpolate : (start target : Int) → (i steps : Nat) → Int

/-! ### Commands -/

structure Rgb where
  red : Int
  green : Int
  blue : Int
  deriving DecidableEq

/-- The calls of the device's methods. -/
inductive DeviceCommand
  | sendColor (rgb : Rgb)
  | sendLightMode (mode : Nat)
  | sendColorBrightness (value : Int)
  | sendColorTemp (value : Int)
  | sendBrightness (value : Int)
  | sendPower (on : Bool)
  | sendScene (sceneId : Nat)
  deriving DecidableEq

/-- What the entity reads of `coordinator.state`. -/
structure LightState where
  mode : Nat := 0
  brightness : Int := 1
  colorTemp : Int := 0
  rgb : Rgb := ⟨0, 0, 0⟩
  deriving DecidableEq

/-- What a task does next under the lock, with an await in each. -/
inductive Instruction
  | send (command : DeviceCommand)
  /-- `if self.coordinator.state.mode == 1: await device.send_light_mode(0)`. -/
  | leaveColorMode
  /-- `send_color_brightness` in colour mode, and otherwise `send_brightness`. -/
  | matchBrightness (brightness : Int)
  | sleep (interval : Rat)
  deriving DecidableEq

/-- A task that a call has created. -/
inductive LightCode
  /-- `_debounced_send_turn_on`. -/
  | debounced (brightness colorTemp : Option Int) (rgbColor : Option Rgb) (hasTarget : Bool)
  /-- `_run_transition`. -/
  | transition (targetBrightness targetColorTemp : Option Int) (duration : Rat)
    (powerOffAfter : Bool) (targetRgb : Option Rgb)
  deriving DecidableEq

def LightCode.isTransition : LightCode → Bool
  | .debounced _ _ _ _ => false
  | .transition _ _ _ _ _ => true

/-- `_debounced_send_turn_on` under the lock. -/
def debouncedBody (brightness colorTemp : Option Int) (rgbColor : Option Rgb) (hasTarget : Bool) :
    List Instruction :=
  match rgbColor with
  | some rgb =>
    [.send (.sendColor rgb), .send (.sendLightMode 1)] ++
      (brightness.map fun value => .send (.sendColorBrightness value)).toList
  | none =>
    (match colorTemp with
      | some mireds => [.leaveColorMode, .send (.sendColorTemp (colorTempToDevice mireds))]
      | none => []) ++
    (brightness.map .matchBrightness).toList ++
    if hasTarget then [] else [.send (.sendPower true)]

/-- `_apply_transition_step`. -/
def transitionStep (ops : FloatOps) (start : LightState) (i steps : Nat)
    (targetBrightness targetColorTemp : Option Int) (targetRgb : Option Rgb) : List Instruction :=
  (targetBrightness.map fun target => .send (.sendBrightness
    (clampTo DEVICE_BRIGHTNESS_MIN DEVICE_BRIGHTNESS_MAX
      (ops.interpolate start.brightness target i steps)))).toList ++
  (targetColorTemp.map fun target => .send (.sendColorTemp
    (clampTo DEVICE_COLOR_TEMP_MIN DEVICE_COLOR_TEMP_MAX
      (ops.interpolate start.colorTemp target i steps)))).toList ++
  (targetRgb.map fun target => .send (.sendColor
    ⟨clampTo 0 255 (ops.interpolate start.rgb.red target.red i steps),
      clampTo 0 255 (ops.interpolate start.rgb.green target.green i steps),
      clampTo 0 255 (ops.interpolate start.rgb.blue target.blue i steps)⟩)).toList

/-- `_run_transition` under the lock, from the state in which it got it. -/
def transitionBody (ops : FloatOps) (start : LightState)
    (targetBrightness targetColorTemp : Option Int) (duration : Rat) (powerOffAfter : Bool)
    (targetRgb : Option Rgb) : List Instruction :=
  let steps := max 2 (min (ops.tenths duration) 50)
  let interval := duration / steps
  ((List.range' 1 steps).flatMap fun i =>
    transitionStep ops start i steps targetBrightness targetColorTemp targetRgb ++
      if i < steps then [.sleep interval] else []) ++
  if powerOffAfter then [.send (.sendPower false)] else []

def LightCode.body (ops : FloatOps) (state : LightState) : LightCode → List Instruction
  | .debounced brightness colorTemp rgbColor hasTarget =>
    debouncedBody brightness colorTemp rgbColor hasTarget
  | .transition targetBrightness targetColorTemp duration powerOffAfter targetRgb =>
    transitionBody ops state targetBrightness targetColorTemp duration powerOffAfter targetRgb

/-! ### The entity -/

/-- Where a task is. -/
inductive LightPhase
  /-- `create_task` has scheduled it. -/
  | fresh
  /-- In the sleep of `_COMMAND_DEBOUNCE_INTERVAL`. -/
  | window
  /-- Waiting for the lock. -/
  | queued
  /-- In an await under the lock, with what comes after it. -/
  | working (left : List Instruction)
  | ended
  deriving DecidableEq

def LightPhase.isWorking : LightPhase → Bool
  | .working _ => true
  | _ => false

structure LightTask where
  /-- The number of the call that has created it. -/
  call : Nat
  code : LightCode
  phase : LightPhase := .fresh
  /-- `cancel` has been called. -/
  cancelling : Bool := false
  deriving DecidableEq

structure Light where
  state : LightState := {}
  transitionTask : Option Nat := none
  pendingCommandTask : Option Nat := none
  /-- The task that holds `_transition_lock`. -/
  holder : Option Nat := none
  /-- The tasks that wait for the lock, in their order. -/
  waiters : List Nat := []
  /-- All tasks that were ever created. -/
  tasks : List LightTask := []
  calls : Nat := 0
  /-- The commands, with the number of the call that they belong to. -/
  sent : List (Nat × DeviceCommand) := []

/-- What `async_turn_on` is called with. -/
structure TurnOn where
  effect : Option String := none
  transition : Option Rat := none
  brightness : Option Int := none
  colorTempKelvin : Option Int := none
  rgbColor : Option Rgb := none

inductive LightCall
  | turnOn (kwargs : TurnOn)
  | turnOff (transition : Option Rat)

/-- `round(1_000_000 / color_temp_kelvin) if color_temp_kelvin else None`. -/
def TurnOn.colorTemp (kwargs : TurnOn) : Option Int :=
  kwargs.colorTempKelvin.bind fun kelvin =>
    if kelvin = 0 then none else some (roundHalfEven (1000000 / kelvin))

def TurnOn.hasTarget (kwargs : TurnOn) : Bool :=
  kwargs.brightness.isSome || kwargs.colorTemp.isSome || kwargs.rgbColor.isSome

/-- The duration, when the call asks for a transition. -/
def positive? (transition : Option Rat) : Option Rat :=
  transition.filter fun duration => 0 < duration

namespace Light

variable (s : Light)

/-- `cancel` of a task that is not done. -/
def cancel (task : Nat) : Light :=
  { s with tasks := s.tasks.modify task fun t =>
      if t.phase = .ended then t else { t with cancelling := true } }

def cancelTransition : Light :=
  match s.transitionTask with
  | none => s
  | some task => { s.cancel task with transitionTask := none }

def cancelPendingCommand : Light :=
  match s.pendingCommandTask with
  | none => s
  | some task => { s.cancel task with pendingCommandTask := none }

/-- A command of the call. -/
def note (call : Nat) (command : DeviceCommand) : Light :=
  { s with sent := s.sent ++ [(call, command)] }

def setPhase (task : Nat) (phase : LightPhase) : Light :=
  { s with tasks := s.tasks.modify task fun t => { t with phase } }

/-- A task of the call that is made. -/
def createTransition (code : LightCode) : Light :=
  { s with tasks := s.tasks ++ [{ call := s.calls, code }], transitionTask := some s.tasks.length }

def createDebounced (code : LightCode) : Light :=
  { s with
    tasks := s.tasks ++ [{ call := s.calls, code }]
    pendingCommandTask := some s.tasks.length }

/-- `async_turn_on`. -/
def turnOn (kwargs : TurnOn) : Light :=
  let s := s.cancelTransition.cancelPendingCommand
  match kwargs.effect with
  | some effect =>
    match sceneByName effect with
    | some sceneId => s.note s.calls (.sendScene sceneId)
    | none => s
  | none =>
    match positive? kwargs.transition, kwargs.hasTarget with
    | some duration, true =>
      s.createTransition (.transition (kwargs.brightness.map brightnessToDevice)
        (kwargs.colorTemp.map colorTempToDevice) duration false kwargs.rgbColor)
    | _, _ =>
      s.createDebounced (.debounced kwargs.brightness kwargs.colorTemp kwargs.rgbColor
        kwargs.hasTarget)

/-- `async_turn_off`. -/
def turnOff (transition : Option Rat) : Light :=
  let s := s.cancelTransition.cancelPendingCommand
  match positive? transition with
  | some duration =>
    s.createTransition (.transition (some DEVICE_BRIGHTNESS_MIN) none duration true none)
  | none => s.note s.calls (.sendPower false)

def perform (call : LightCall) : Light :=
  let s := match call with
    | .turnOn kwargs => s.turnOn kwargs
    | .turnOff transition => s.turnOff transition
  { s with calls := s.calls + 1 }

/-! ### The tasks -/

/-- The task ends, and leaves the lock. -/
def finish (task : Nat) : Light :=
  { s.setPhase task .ended with
    holder := if s.holder = some task then none else s.holder
    waiters := s.waiters.erase task }

/-- The task goes on under the lock to its next await. -/
def proceed (task call : Nat) : List Instruction → Light
  | [] => s.finish task
  | .send command :: left => (s.note call command).setPhase task (.working left)
  | .leaveColorMode :: left =>
    if s.state.mode = 1 then (s.note call (.sendLightMode 0)).setPhase task (.working left)
    else proceed task call left
  | .matchBrightness brightness :: left =>
    let command : DeviceCommand :=
      if s.state.mode = 1 then .sendColorBrightness brightness
      else .sendBrightness (brightnessToDevice brightness)
    (s.note call command).setPhase task (.working left)
  | .sleep _ :: left => s.setPhase task (.working left)

variable (ops : FloatOps)

/-- The task has got the lock. -/
def enter (task : Nat) (t : LightTask) : Light :=
  { s with holder := some task }.proceed task t.call (t.code.body ops s.state)

def isCancelling (task : Nat) : Bool := (s.tasks[task]?.map LightTask.cancelling).getD false

/-- `async with self._transition_lock`. Those that wait before are overtaken when all of them are
being cancelled. -/
def acquire (task : Nat) (t : LightTask) : Light :=
  if s.holder = none ∧ s.waiters.all s.isCancelling then s.enter ops task t
  else { s.setPhase task .queued with waiters := s.waiters ++ [task] }

end Light

inductive LightEvent
  | call (call : LightCall)
  /-- `async_will_remove_from_hass`. -/
  | removed
  | start (task : Nat)
  /-- The debounce window of a task has passed. -/
  | elapsed (task : Nat)
  /-- The lock goes to the task that has waited longest. -/
  | granted (task : Nat)
  /-- What a task awaits under the lock returns. -/
  | resumed (task : Nat)
  /-- A command of a task raises an exception. -/
  | raised (task : Nat)
  /-- `CancelledError` is thrown into a task, or the task never begins. -/
  | cancelled (task : Nat)
  /-- The coordinator's state has changed. -/
  | updated (state : LightState)

namespace Light

/-- The task, if it is in a phase and not being cancelled. -/
def ready? (s : Light) (task : Nat) (phase : LightPhase → Bool) : Option LightTask :=
  s.tasks[task]?.filter fun t => phase t.phase && !t.cancelling

def step (ops : FloatOps) (s : Light) : LightEvent → Option Light
  | .call call => some (s.perform call)
  | .removed => some s.cancelTransition.cancelPendingCommand
  | .start task => do
    let t ← s.ready? task (· = .fresh)
    return if t.code.isTransition then s.acquire ops task t else s.setPhase task .window
  | .elapsed task => do
    let t ← s.ready? task (· = .window)
    return { s with pendingCommandTask := none }.acquire ops task t
  | .granted task => do
    let t ← s.ready? task (· = .queued)
    guard (s.holder = none ∧ (s.waiters.find? fun other => !s.isCancelling other) = some task)
    return { s with waiters := s.waiters.erase task }.enter ops task t
  | .resumed task => do
    let t ← s.ready? task LightPhase.isWorking
    match t.phase with
    | .working left => return s.proceed task t.call left
    | _ => none
  | .raised task => do
    let _ ← s.ready? task LightPhase.isWorking
    return s.finish task
  | .cancelled task => do
    let t ← s.tasks[task]?
    guard (t.cancelling = true ∧ t.phase ≠ .ended)
    return s.finish task
  | .updated state => some { s with state }

end Light

def lightSystem (ops : FloatOps) : EventSystem Light LightEvent where
  step := Light.step ops

end TuyaBleMesh
