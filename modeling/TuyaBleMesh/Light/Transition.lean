import TuyaBleMesh.Light.Command

/-!
# Transitions

`_run_transition` of `light.py`: the values that it sends on the way to a target, and the
state in which it leaves the device, beside the state after the same call without a
transition.
-/

namespace TuyaBleMesh

open Light (exactOps)

/-! ### Rounding -/

theorem roundHalfEven_bounds (x : Rat) : ⌊x⌋ ≤ roundHalfEven x ∧ roundHalfEven x ≤ ⌊x⌋ + 1 := by
  unfold roundHalfEven
  dsimp only
  split_ifs
  · omega
  · omega
  · omega
  · omega

@[simp] theorem roundHalfEven_intCast (n : Int) : roundHalfEven (n : Rat) = n := by
  simp [roundHalfEven]

theorem roundHalfEven_mono {x y : Rat} (le : x ≤ y) : roundHalfEven x ≤ roundHalfEven y := by
  have floors : ⌊x⌋ ≤ ⌊y⌋ := Int.floor_le_floor le
  rcases Int.lt_or_eq_of_le floors with below | same
  · -- the rounded numbers lie on different sides of an integer
    exact (roundHalfEven_bounds x).2.trans (Int.le_trans below (roundHalfEven_bounds y).1)
  · unfold roundHalfEven
    dsimp only
    rw [same]
    split_ifs <;> first | omega | (exfalso; linarith)

theorem le_roundHalfEven {n : Int} {x : Rat} (le : (n : Rat) ≤ x) : n ≤ roundHalfEven x := by
  have rounded := roundHalfEven_mono le
  rwa [roundHalfEven_intCast] at rounded

theorem roundHalfEven_le {n : Int} {x : Rat} (le : x ≤ (n : Rat)) : roundHalfEven x ≤ n := by
  have rounded := roundHalfEven_mono le
  rwa [roundHalfEven_intCast] at rounded

/-! ### Scales -/

theorem clampTo_mono (low high : Int) {a b : Int} (le : a ≤ b) :
    clampTo low high a ≤ clampTo low high b := by
  unfold clampTo
  omega

theorem clampTo_within (low high value : Int) (nonempty : low ≤ high) :
    low ≤ clampTo low high value ∧ clampTo low high value ≤ high := by
  unfold clampTo
  omega

theorem clampTo_eq_iff {low high value : Int} (nonempty : low ≤ high) :
    clampTo low high value = value ↔ low ≤ value ∧ value ≤ high := by
  unfold clampTo
  omega

/-- A value that lies as far between `0` and `span` as `part` lies between `0` and `whole`. -/
theorem proportion_within (part whole span : Rat) (positive : 0 < whole) (spans : 0 ≤ span)
    (low : 0 ≤ part) (high : part ≤ whole) :
    0 ≤ part * span / whole ∧ part * span / whole ≤ span := by
  constructor
  · positivity
  · rw [div_le_iff₀ positive]
    calc part * span ≤ whole * span := mul_le_mul_of_nonneg_right high spans
      _ = span * whole := mul_comm _ _

theorem brightnessToDevice_within (haValue : Int) :
    DEVICE_BRIGHTNESS_MIN ≤ brightnessToDevice haValue ∧
      brightnessToDevice haValue ≤ DEVICE_BRIGHTNESS_MAX := by
  obtain ⟨low, high⟩ := clampTo_within HA_BRIGHTNESS_MIN HA_BRIGHTNESS_MAX haValue (by decide)
  unfold brightnessToDevice
  generalize clampTo HA_BRIGHTNESS_MIN HA_BRIGHTNESS_MAX haValue = clamped at low high
  have low : (HA_BRIGHTNESS_MIN : Rat) ≤ clamped := Int.cast_le.mpr low
  have high : (clamped : Rat) ≤ HA_BRIGHTNESS_MAX := Int.cast_le.mpr high
  simp only [HA_BRIGHTNESS_MIN, HA_BRIGHTNESS_MAX, DEVICE_BRIGHTNESS_MIN, DEVICE_BRIGHTNESS_MAX]
    at *
  push_cast at *
  obtain ⟨above, below⟩ := proportion_within (clamped - 1) (255 - 1) (100 - 1)
    (by norm_num) (by norm_num) (by linarith) (by linarith)
  constructor
  · apply le_roundHalfEven
    push_cast
    linarith
  · apply roundHalfEven_le
    push_cast
    linarith

theorem colorTempToDevice_within (miredValue : Int) :
    DEVICE_COLOR_TEMP_MIN ≤ colorTempToDevice miredValue ∧
      colorTempToDevice miredValue ≤ DEVICE_COLOR_TEMP_MAX := by
  obtain ⟨low, high⟩ := clampTo_within HA_MIRED_MIN HA_MIRED_MAX miredValue (by decide)
  unfold colorTempToDevice
  generalize clampTo HA_MIRED_MIN HA_MIRED_MAX miredValue = clamped at low high
  have low : (HA_MIRED_MIN : Rat) ≤ clamped := Int.cast_le.mpr low
  have high : (clamped : Rat) ≤ HA_MIRED_MAX := Int.cast_le.mpr high
  simp only [HA_MIRED_MIN, HA_MIRED_MAX, DEVICE_COLOR_TEMP_MIN, DEVICE_COLOR_TEMP_MAX] at *
  push_cast at *
  obtain ⟨above, below⟩ := proportion_within (clamped - 153) (370 - 153) (127 - 0)
    (by norm_num) (by norm_num) (by linarith) (by linarith)
  constructor
  · apply le_roundHalfEven
    push_cast
    linarith
  · apply roundHalfEven_le
    push_cast
    linarith

/-! ### The values on the way -/

/-- The steps of a transition. -/
def transitionSteps (ops : FloatOps) (duration : Rat) : Nat := max 2 (min (ops.tenths duration) 50)

theorem transitionSteps_within (ops : FloatOps) (duration : Rat) :
    2 ≤ transitionSteps ops duration ∧ transitionSteps ops duration ≤ 50 := by
  unfold transitionSteps
  omega

/-- What the commands of a list set one parameter to, in their order. -/
def valuesSent (pick : DeviceCommand → Option Int) (left : List Instruction) : List Int :=
  left.filterMap fun instruction => (instruction.command 0).bind pick

structure TransitionTargets where
  brightness : Option Int
  colorTemp : Option Int
  rgb : Option Rgb

/-- One number that a transition moves, and the range that the device has for it. -/
structure LightParameter where
  low : Int
  high : Int
  start : LightState → Int
  target : TransitionTargets → Option Int
  /-- The number in a command that sets it. -/
  sent : DeviceCommand → Option Int

def brightnessParameter : LightParameter where
  low := DEVICE_BRIGHTNESS_MIN
  high := DEVICE_BRIGHTNESS_MAX
  start := LightState.brightness
  target := TransitionTargets.brightness
  sent
    | .sendBrightness value => some value
    | _ => none

def colorTempParameter : LightParameter where
  low := DEVICE_COLOR_TEMP_MIN
  high := DEVICE_COLOR_TEMP_MAX
  start := LightState.colorTemp
  target := TransitionTargets.colorTemp
  sent
    | .sendColorTemp value => some value
    | _ => none

def channelParameter (channel : Rgb → Int) : LightParameter where
  low := 0
  high := 255
  start state := channel state.rgb
  target targets := targets.rgb.map channel
  sent
    | .sendColor rgb => some (channel rgb)
    | _ => none

def lightParameters : List LightParameter :=
  [brightnessParameter, colorTempParameter, channelParameter Rgb.red, channelParameter Rgb.green,
    channelParameter Rgb.blue]

/-- The sleeps of a list. -/
def sleeps (left : List Instruction) : List Rat :=
  left.filterMap fun instruction =>
    match instruction with
    | .sleep interval => some interval
    | _ => none

/-- The values that a parameter takes from `start` to `target`. -/
def path (ops : FloatOps) (low high start target : Int) (steps : Nat) : List Int :=
  (List.range' 1 steps).map fun i => clampTo low high (ops.interpolate start target i steps)

/-- `values` lead from `start` to `target`, within the range of the device. -/
structure SoundMove (low high start target : Int) (values : List Int) : Prop where
  within : ∀ value ∈ values, low ≤ value ∧ value ≤ high
  rising : start ≤ target → (clampTo low high start :: values).Pairwise (· ≤ ·)
  falling : target ≤ start → (clampTo low high start :: values).Pairwise (· ≥ ·)
  last : values.getLast? = some target

/-- The way is the interpolation, step by step. -/
theorem interpolate_eq (start target : Int) (i steps : Nat) :
    exactOps.interpolate start target i steps =
      roundHalfEven (start + (target - start : Rat) * (i / steps : Rat)) := rfl

theorem interpolate_last (start target : Int) {steps : Nat} (positive : 0 < steps) :
    exactOps.interpolate start target steps steps = target := by
  have whole : (steps / steps : Rat) = 1 := div_self (Nat.cast_ne_zero.mpr positive.ne')
  rw [interpolate_eq, whole, mul_one, add_sub_cancel, roundHalfEven_intCast]

/-- A later step is not behind an earlier one. -/
theorem interpolate_mono {start target : Int} {i j steps : Nat} (le : i ≤ j)
    (rises : start ≤ target) :
    exactOps.interpolate start target i steps ≤ exactOps.interpolate start target j steps := by
  have up : (0 : Rat) ≤ target - start := sub_nonneg.mpr (Int.cast_le.mpr rises)
  have part : (i / steps : Rat) ≤ j / steps :=
    div_le_div_of_nonneg_right (Nat.cast_le.mpr le) (Nat.cast_nonneg _)
  exact roundHalfEven_mono (add_le_add_right (mul_le_mul_of_nonneg_left part up) _)

theorem interpolate_anti {start target : Int} {i j steps : Nat} (le : i ≤ j)
    (falls : target ≤ start) :
    exactOps.interpolate start target j steps ≤ exactOps.interpolate start target i steps := by
  have down : (target - start : Rat) ≤ 0 := sub_nonpos.mpr (Int.cast_le.mpr falls)
  have part : (i / steps : Rat) ≤ j / steps :=
    div_le_div_of_nonneg_right (Nat.cast_le.mpr le) (Nat.cast_nonneg _)
  exact roundHalfEven_mono (add_le_add_right (mul_le_mul_of_nonpos_left part down) _)

theorem interpolate_first (start target : Int) (steps : Nat) :
    exactOps.interpolate start target 0 steps = start := by
  rw [interpolate_eq, Nat.cast_zero, zero_div, mul_zero, add_zero, roundHalfEven_intCast]

/-- Every step of the way, the start before the first one included. -/
theorem path_from_start (low high start target : Int) (steps : Nat) :
    clampTo low high start :: path exactOps low high start target steps =
      (List.range' 0 (steps + 1)).map fun i =>
        clampTo low high (exactOps.interpolate start target i steps) := by
  rw [List.range'_succ, List.map_cons, interpolate_first]
  rfl

theorem path_sound {low high start target : Int} {steps : Nat} (positive : 0 < steps)
    (inRange : low ≤ target ∧ target ≤ high) :
    SoundMove low high start target (path exactOps low high start target steps) where
  within := by
    intro value member
    obtain ⟨i, -, rfl⟩ := List.mem_map.mp member
    exact clampTo_within low high _ (inRange.1.trans inRange.2)
  rising := by
    intro rises
    have ordered : (List.range' 0 (steps + 1)).Pairwise (· < ·) := List.pairwise_lt_range'
    -- from the start on, each step is not below the one before
    rw [path_from_start]
    apply List.pairwise_map.mpr
    exact ordered.imp fun before => clampTo_mono low high (interpolate_mono before.le rises)
  falling := by
    intro falls
    have ordered : (List.range' 0 (steps + 1)).Pairwise (· < ·) := List.pairwise_lt_range'
    rw [path_from_start]
    apply List.pairwise_map.mpr
    exact ordered.imp fun before => clampTo_mono low high (interpolate_anti before.le falls)
  last := by
    -- the last step is the target itself, which the range keeps
    have inside : clampTo low high target = target :=
      (clampTo_eq_iff (inRange.1.trans inRange.2)).mpr inRange
    rw [path, List.getLast?_map, List.getLast?_range', if_neg positive.ne', Option.map_some,
      Nat.add_sub_cancel_left, interpolate_last start target positive, inside]

section Body

variable (ops : FloatOps) (start : LightState) (targets : TransitionTargets) (duration : Rat)
  (powerOffAfter : Bool)

/-- What a transition issues. -/
def TransitionTargets.body : List Instruction :=
  transitionBody ops start targets.brightness targets.colorTemp duration powerOffAfter targets.rgb

/-- One step sends the value on the way, if the parameter has a target. -/
theorem valuesSent_step {parameter : LightParameter} (member : parameter ∈ lightParameters)
    (i steps : Nat) :
    valuesSent parameter.sent (transitionStep ops start i steps targets.brightness
        targets.colorTemp targets.rgb) =
      ((parameter.target targets).map fun target => clampTo parameter.low parameter.high
        (ops.interpolate (parameter.start start) target i steps)).toList := by
  obtain ⟨brightness, colorTemp, rgb⟩ := targets
  simp only [lightParameters, List.mem_cons, List.not_mem_nil, or_false] at member
  rcases member with rfl | rfl | rfl | rfl | rfl
  all_goals cases brightness <;> cases colorTemp <;> cases rgb <;> rfl

/-- A parameter with a target goes along its path, and another one stays. -/
theorem valuesSent_body {parameter : LightParameter} (member : parameter ∈ lightParameters) :
    valuesSent parameter.sent (targets.body ops start duration powerOffAfter) =
      ((parameter.target targets).map fun target => path ops parameter.low parameter.high
        (parameter.start start) target (transitionSteps ops duration)).getD [] := by
  -- the command at the end sets none of the numbers
  have power : parameter.sent (.sendPower false) = none := by
    simp only [lightParameters, List.mem_cons, List.not_mem_nil, or_false] at member
    rcases member with rfl | rfl | rfl | rfl | rfl
    all_goals rfl
  have final : valuesSent parameter.sent
      (if powerOffAfter then [.send (.sendPower false)] else []) = [] := by
    cases powerOffAfter with
    | false => rfl
    | true => simp [valuesSent, Instruction.command, power]
  have step (i : Nat) : valuesSent parameter.sent (transitionStep ops start i
        (transitionSteps ops duration) targets.brightness targets.colorTemp targets.rgb ++
        if i < transitionSteps ops duration then [.sleep (duration / transitionSteps ops duration)]
        else []) = ((parameter.target targets).map fun target =>
          clampTo parameter.low parameter.high (ops.interpolate (parameter.start start) target i
            (transitionSteps ops duration))).toList := by
    rw [valuesSent, List.filterMap_append, ← valuesSent, valuesSent_step ops start targets member]
    split
    · exact List.append_nil _
    · exact List.append_nil _
  -- the values of the steps, one after the other
  have parts : valuesSent parameter.sent (targets.body ops start duration powerOffAfter) =
      ((List.range' 1 (transitionSteps ops duration)).flatMap fun i =>
        ((parameter.target targets).map fun target => clampTo parameter.low parameter.high
          (ops.interpolate (parameter.start start) target i
            (transitionSteps ops duration))).toList) ++ [] := by
    rw [← final, ← funext step]
    unfold TransitionTargets.body transitionBody valuesSent
    rw [List.filterMap_append, List.filterMap_flatMap]
    rfl
  rw [parts, List.append_nil]
  cases parameter.target targets with
  | none => simp
  | some target => exact List.map_eq_flatMap.symm

/-- Between the steps, and not after the last one, the transition sleeps. -/
theorem sleeps_body : sleeps (targets.body ops start duration powerOffAfter) =
    List.replicate (transitionSteps ops duration - 1)
      (duration / transitionSteps ops duration) := by
  obtain ⟨n, count⟩ : ∃ n, transitionSteps ops duration = n + 1 :=
    Nat.exists_eq_succ_of_ne_zero (by have := transitionSteps_within ops duration; omega)
  have step (i steps : Nat) (interval : Rat) : sleeps (transitionStep ops start i steps
        targets.brightness targets.colorTemp targets.rgb ++
        if i < steps then [.sleep interval] else []) = if i < steps then [interval] else [] := by
    have none : sleeps (transitionStep ops start i steps targets.brightness targets.colorTemp
        targets.rgb) = [] := by
      obtain ⟨brightness, colorTemp, rgb⟩ := targets
      cases brightness <;> cases colorTemp <;> cases rgb <;> rfl
    rw [sleeps, List.filterMap_append, ← sleeps, none]
    split
    · rfl
    · rfl
  have final : sleeps (if powerOffAfter then [.send (.sendPower false)] else []) = [] := by
    cases powerOffAfter with
    | false => rfl
    | true => rfl
  have parts : sleeps (targets.body ops start duration powerOffAfter) =
      ((List.range' 1 (transitionSteps ops duration)).flatMap fun i =>
        if i < transitionSteps ops duration then [duration / transitionSteps ops duration]
        else []) ++ [] := by
    have each := funext fun i => step i (transitionSteps ops duration)
      (duration / transitionSteps ops duration)
    unfold TransitionTargets.body transitionBody sleeps
    rw [List.filterMap_append, List.filterMap_flatMap]
    exact congrArg₂ (· ++ ·)
      (congrArg (fun f => (List.range' 1 (transitionSteps ops duration)).flatMap f) each) final
  -- only the last step is not followed by a sleep
  have before : ∀ i ∈ List.range' 1 n,
      (if i < n + 1 then [duration / ((n + 1 : Nat) : Rat)] else []) =
        [duration / ((n + 1 : Nat) : Rat)] := by
    intro i member
    have inside := (List.mem_range'_1.mp member).2
    rw [if_pos (by omega)]
  have last : ¬1 + n < n + 1 := by omega
  rw [parts, count, List.append_nil, List.range'_1_concat, List.flatMap_append,
    List.flatMap_congr before, List.flatMap_singleton, if_neg last, List.append_nil,
    ← List.map_eq_flatMap, List.map_const', List.length_range', Nat.add_sub_cancel]

end Body

/-- A transition sends between 2 and 50 steps in less than its duration. Each number that has a
target goes there step by step, within the device's range. -/
theorem transition_sound (start : LightState) (targets : TransitionTargets) (duration : Rat)
    (powerOffAfter : Bool) (positive : 0 < duration)
    (inRange : ∀ parameter ∈ lightParameters, ∀ target ∈ parameter.target targets,
      parameter.low ≤ target ∧ target ≤ parameter.high) :
    ∃ steps, 2 ≤ steps ∧ steps ≤ 50 ∧
      (∀ parameter ∈ lightParameters, ∀ target ∈ parameter.target targets,
        let values := valuesSent parameter.sent
          (transitionBody exactOps start targets.brightness targets.colorTemp duration
            powerOffAfter targets.rgb)
        values.length = steps ∧
        SoundMove parameter.low parameter.high (parameter.start start) target values) ∧
      (sleeps (transitionBody exactOps start targets.brightness targets.colorTemp duration
        powerOffAfter targets.rgb)).sum < duration := by
  obtain ⟨two, fifty⟩ := transitionSteps_within exactOps duration
  refine ⟨transitionSteps exactOps duration, two, fifty, ?_, ?_⟩
  · intro parameter member target wanted
    have values := valuesSent_body exactOps start targets duration powerOffAfter member
    rw [Option.mem_def.mp wanted, Option.map_some, Option.getD_some, TransitionTargets.body]
      at values
    dsimp only
    rw [values]
    refine ⟨?_, path_sound (by omega) (inRange parameter member target wanted)⟩
    rw [path, List.length_map, List.length_range']
  · have slept := sleeps_body exactOps start targets duration powerOffAfter
    rw [TransitionTargets.body] at slept
    rw [slept, List.sum_replicate, nsmul_eq_mul]
    generalize transitionSteps exactOps duration = steps at two
    have some : (0 : Rat) < steps := Nat.cast_pos.mpr (by omega)
    -- there is one sleep less than steps
    have fewer : ((steps - 1 : Nat) : Rat) < steps := Nat.cast_lt.mpr (by omega)
    calc ((steps - 1 : Nat) : Rat) * (duration / steps)
        < steps * (duration / steps) := mul_lt_mul_of_pos_right fewer (div_pos positive some)
      _ = duration := mul_div_cancel₀ duration some.ne'

/-- To half the brightness and to red, in a second. -/
theorem transition_sound_red :
    ∃ steps, 2 ≤ steps ∧ steps ≤ 50 ∧
      (∀ parameter ∈ lightParameters, ∀ target ∈ parameter.target ⟨some 50, none, some ⟨255, 0, 0⟩⟩,
        let values := valuesSent parameter.sent
          (transitionBody exactOps {} (some 50) none 1 false (some ⟨255, 0, 0⟩))
        values.length = steps ∧
        SoundMove parameter.low parameter.high (parameter.start {}) target values) ∧
      (sleeps (transitionBody exactOps {} (some 50) none 1 false (some ⟨255, 0, 0⟩))).sum < 1 :=
  transition_sound {} ⟨some 50, none, some ⟨255, 0, 0⟩⟩ 1 false (by decide) (by decide)

/-! ### Where a call leaves the device -/

/-- The device as far as the commands of the entity set it. -/
structure LightDevice where
  power : Bool
  scene : Nat
  mode : Nat
  brightness : Int
  colorTemp : Int
  colorBrightness : Int
  rgb : Rgb
  deriving DecidableEq

/-- Each command sets its own field. -/
def LightDevice.after (device : LightDevice) : DeviceCommand → LightDevice
  | .sendColor rgb => { device with rgb }
  | .sendLightMode mode => { device with mode }
  | .sendColorBrightness value => { device with colorBrightness := value }
  | .sendColorTemp value => { device with colorTemp := value }
  | .sendBrightness value => { device with brightness := value }
  | .sendPower on => { device with power := on }
  | .sendScene sceneId => { device with scene := sceneId }

/-- The coordinator's state that shows the device. -/
def LightDevice.shown (device : LightDevice) : LightState where
  mode := device.mode
  brightness := device.brightness
  colorTemp := device.colorTemp
  rgb := device.rgb

/-- What an uninterrupted `async_turn_on` does, from the state that the coordinator has. -/
def TurnOn.instructions (kwargs : TurnOn) (ops : FloatOps) (state : LightState) :
    List Instruction :=
  match kwargs.effect with
  | some effect => ((sceneByName effect).map fun sceneId => .send (.sendScene sceneId)).toList
  | none =>
    match positive? kwargs.transition, kwargs.hasTarget with
    | some duration, true =>
      transitionBody ops state (kwargs.brightness.map brightnessToDevice)
        (kwargs.colorTemp.map colorTempToDevice) duration false kwargs.rgbColor
    | _, _ => debouncedBody kwargs.brightness kwargs.colorTemp kwargs.rgbColor kwargs.hasTarget

/-- The coordinator shows the device's mode at first, and then what comes of the commands. -/
def LightDevice.modeSeen (device : LightDevice) (later : ModeSeen) : ModeSeen :=
  fun sent => if sent = [] then device.mode else later sent

/-- The state of the device after the call. -/
def TurnOn.result (kwargs : TurnOn) (ops : FloatOps) (later : ModeSeen) (device : LightDevice) :
    LightDevice :=
  (issued (device.modeSeen later) [] (kwargs.instructions ops device.shown)).foldl
    LightDevice.after device

/-- With the transition the device ends up as without. -/
def ReachesImmediate (ops : FloatOps) (later : ModeSeen) (device : LightDevice) (kwargs : TurnOn) :
    Prop :=
  kwargs.result ops later device = { kwargs with transition := none }.result ops later device

/-- Without an effect, the call creates the task that follows these instructions. -/
theorem turnOn_creates (s : Light) (kwargs : TurnOn) (plain : kwargs.effect = none) :
    ∃ code : LightCode,
      (s.turnOn kwargs).tasks = s.cancelTransition.cancelPendingCommand.tasks ++
        [{ call := s.cancelTransition.cancelPendingCommand.calls, code }] ∧
      ∀ ops state, code.body ops state = kwargs.instructions ops state := by
  unfold Light.turnOn TurnOn.instructions
  cases wish : positive? kwargs.transition with
  | none =>
    simp only [plain]
    exact ⟨_, rfl, fun _ _ => rfl⟩
  | some duration =>
    cases target : kwargs.hasTarget with
    | false =>
      simp only [plain]
      exact ⟨_, rfl, fun _ _ => rfl⟩
    | true =>
      simp only [plain]
      exact ⟨_, rfl, fun _ _ => rfl⟩

/-! ### After the transition -/

def Rgb.clamped (rgb : Rgb) : Rgb :=
  ⟨clampTo 0 255 rgb.red, clampTo 0 255 rgb.green, clampTo 0 255 rgb.blue⟩

/-- An instruction that does not look at the mode. -/
def LightDevice.follow (device : LightDevice) (instruction : Instruction) : LightDevice :=
  ((instruction.command 0).map device.after).getD device

theorem issued_foldl (mode : ModeSeen) (left : List Instruction)
    (plain : ∀ instruction ∈ left, ∀ now, instruction.command now = instruction.command 0)
    (sent : List DeviceCommand) (device : LightDevice) :
    (issued mode sent left).foldl LightDevice.after device =
      left.foldl LightDevice.follow (sent.foldl LightDevice.after device) := by
  induction left generalizing sent with
  | nil => rfl
  | cons instruction left ih =>
    rw [issued, ih fun later member => plain later (List.mem_cons_of_mem _ member),
      plain instruction List.mem_cons_self, List.foldl_append, List.foldl_cons]
    congr 1
    unfold LightDevice.follow
    cases instruction.command 0 with
    | none => rfl
    | some command => rfl

section Transition

variable (ops : FloatOps) (start : LightState) (targets : TransitionTargets) (steps : Nat)

/-- The device after step `i`. -/
def TransitionTargets.reached (i : Nat) (device : LightDevice) : LightDevice :=
  { device with
    brightness := (targets.brightness.map fun target =>
      clampTo DEVICE_BRIGHTNESS_MIN DEVICE_BRIGHTNESS_MAX
        (ops.interpolate start.brightness target i steps)).getD device.brightness
    colorTemp := (targets.colorTemp.map fun target =>
      clampTo DEVICE_COLOR_TEMP_MIN DEVICE_COLOR_TEMP_MAX
        (ops.interpolate start.colorTemp target i steps)).getD device.colorTemp
    rgb := (targets.rgb.map fun target => Rgb.clamped
      ⟨ops.interpolate start.rgb.red target.red i steps,
        ops.interpolate start.rgb.green target.green i steps,
        ops.interpolate start.rgb.blue target.blue i steps⟩).getD device.rgb }

theorem foldl_step (i : Nat) (interval : Rat) (device : LightDevice) :
    (transitionStep ops start i steps targets.brightness targets.colorTemp targets.rgb ++
      if i < steps then [Instruction.sleep interval] else []).foldl LightDevice.follow device =
      targets.reached ops start steps i device := by
  have asleep (device : LightDevice) :
      (if i < steps then [Instruction.sleep interval] else []).foldl LightDevice.follow device =
        device := by
    split
    · rfl
    · rfl
  rw [List.foldl_append, asleep]
  obtain ⟨brightness, colorTemp, rgb⟩ := targets
  cases brightness <;> cases colorTemp <;> cases rgb <;> rfl

/-- Of the steps only the last one counts. -/
theorem reached_reached (i j : Nat) (device : LightDevice) :
    targets.reached ops start steps j (targets.reached ops start steps i device) =
      targets.reached ops start steps j device := by
  obtain ⟨brightness, colorTemp, rgb⟩ := targets
  cases brightness <;> cases colorTemp <;> cases rgb <;> rfl

theorem foldl_reached (n : Nat) (device : LightDevice) :
    (List.range' 1 (n + 1)).foldl (fun device i => targets.reached ops start steps i device)
        device =
      targets.reached ops start steps (n + 1) device := by
  induction n with
  | zero => rfl
  | succ n ih =>
    rw [List.range'_1_concat, List.foldl_append, ih, Nat.add_comm 1 (n + 1)]
    exact reached_reached ops start targets steps _ _ device

/-- No instruction of a transition looks at the mode. -/
theorem body_plain (duration : Rat) :
    ∀ instruction ∈ targets.body ops start duration false,
      ∀ now, instruction.command now = instruction.command 0 := by
  intro instruction member now
  simp only [TransitionTargets.body, transitionBody, List.mem_append, List.mem_flatMap] at member
  rcases member with ⟨i, -, step | slept⟩ | final
  · simp only [transitionStep, List.mem_append, Option.mem_toList, Option.map_eq_some_iff] at step
    rcases step with (⟨_, -, rfl⟩ | ⟨_, -, rfl⟩) | ⟨_, -, rfl⟩
    · rfl
    · rfl
    · rfl
  · split at slept
    · rw [List.mem_singleton.mp slept]
      rfl
    · cases slept
  · cases final

theorem foldl_body (duration : Rat) (device : LightDevice) :
    (targets.body ops start duration false).foldl LightDevice.follow device =
      targets.reached ops start (transitionSteps ops duration) (transitionSteps ops duration)
        device := by
  obtain ⟨n, count⟩ : ∃ n, transitionSteps ops duration = n + 1 :=
    Nat.exists_eq_succ_of_ne_zero (by have := transitionSteps_within ops duration; omega)
  -- each step is a change of the device of its own
  have each := funext fun device => funext fun i =>
    foldl_step ops start targets (transitionSteps ops duration) i
      (duration / transitionSteps ops duration) device
  unfold TransitionTargets.body transitionBody
  rw [List.foldl_append, List.foldl_flatMap]
  calc (List.range' 1 (transitionSteps ops duration)).foldl (fun device i =>
        (transitionStep ops start i (transitionSteps ops duration) targets.brightness
          targets.colorTemp targets.rgb ++
          if i < transitionSteps ops duration then
            [Instruction.sleep (duration / transitionSteps ops duration)]
          else []).foldl LightDevice.follow device) device
      = (List.range' 1 (transitionSteps ops duration)).foldl (fun device i =>
          targets.reached ops start (transitionSteps ops duration) i device) device := by rw [each]
    _ = targets.reached ops start (transitionSteps ops duration) (transitionSteps ops duration)
          device := by
        rw [count]
        exact foldl_reached ops start targets (n + 1) n device

end Transition

section Calls

variable {ops : FloatOps} (later : ModeSeen) (device : LightDevice) (kwargs : TurnOn)

/-- A transition ends with the targets. -/
theorem result_transition {duration : Rat}
    (ends : ∀ start target steps, 0 < steps → ops.interpolate start target steps steps = target)
    (plain : kwargs.effect = none) (wish : positive? kwargs.transition = some duration)
    (target : kwargs.hasTarget = true) :
    kwargs.result ops later device =
      { device with
        brightness := (kwargs.brightness.map brightnessToDevice).getD device.brightness
        colorTemp := (kwargs.colorTemp.map colorTempToDevice).getD device.colorTemp
        rgb := (kwargs.rgbColor.map Rgb.clamped).getD device.rgb } := by
  let targets : TransitionTargets :=
    ⟨kwargs.brightness.map brightnessToDevice, kwargs.colorTemp.map colorTempToDevice,
      kwargs.rgbColor⟩
  have instructions : kwargs.instructions ops device.shown =
      targets.body ops device.shown duration false := by
    unfold TurnOn.instructions
    simp only [plain, wish, target]
    rfl
  -- the targets are in range, so the last step reaches them
  have last (start target : Int) : ops.interpolate start target (transitionSteps ops duration)
      (transitionSteps ops duration) = target :=
    ends start target _ (by have := transitionSteps_within ops duration; omega)
  have bright (value : Int) : clampTo DEVICE_BRIGHTNESS_MIN DEVICE_BRIGHTNESS_MAX
      (brightnessToDevice value) = brightnessToDevice value :=
    (clampTo_eq_iff (by decide)).mpr (brightnessToDevice_within value)
  have warm (value : Int) : clampTo DEVICE_COLOR_TEMP_MIN DEVICE_COLOR_TEMP_MAX
      (colorTempToDevice value) = colorTempToDevice value :=
    (clampTo_eq_iff (by decide)).mpr (colorTempToDevice_within value)
  rw [TurnOn.result, instructions, issued_foldl _ _ (body_plain ops _ targets duration),
    List.foldl_nil, foldl_body, TransitionTargets.reached]
  simp only [last, targets, Option.map_map, Function.comp_def, bright, warm]

theorem instructions_immediate (plain : kwargs.effect = none) (state : LightState) :
    ({ kwargs with transition := none } : TurnOn).instructions ops state =
      debouncedBody kwargs.brightness kwargs.colorTemp kwargs.rgbColor kwargs.hasTarget := by
  unfold TurnOn.instructions
  simp only [plain]
  rfl

/-- Without a transition, a colour. -/
theorem result_rgb {rgb : Rgb} (plain : kwargs.effect = none) (color : kwargs.rgbColor = some rgb) :
    ({ kwargs with transition := none } : TurnOn).result ops later device =
      { device with
        rgb
        mode := 1
        colorBrightness := kwargs.brightness.getD device.colorBrightness } := by
  rw [TurnOn.result, instructions_immediate kwargs plain, color, issued_rgb]
  cases kwargs.brightness with
  | none => rfl
  | some value => rfl

/-- The mode that the brightness of a request without a colour is matched to. -/
def TurnOn.matchedMode : Nat :=
  device.modeSeen later (beforeBrightness (device.modeSeen later) kwargs.colorTemp)

/-- Without a transition, a colour temperature or a brightness. -/
theorem result_white (plain : kwargs.effect = none) (white : kwargs.rgbColor = none)
    (target : kwargs.hasTarget = true) :
    ({ kwargs with transition := none } : TurnOn).result ops later device =
      { device with
        mode := if kwargs.colorTemp.isSome ∧ device.mode = 1 then 0 else device.mode
        colorTemp := (kwargs.colorTemp.map colorTempToDevice).getD device.colorTemp
        brightness := if kwargs.matchedMode later device = 1 then device.brightness
          else (kwargs.brightness.map brightnessToDevice).getD device.brightness
        colorBrightness := if kwargs.matchedMode later device = 1 then
            kwargs.brightness.getD device.colorBrightness
          else device.colorBrightness } := by
  -- what comes before the brightness leaves colour mode, if there is a temperature
  have first : (beforeBrightness (device.modeSeen later) kwargs.colorTemp).foldl LightDevice.after
      device = { device with
        mode := if kwargs.colorTemp.isSome ∧ device.mode = 1 then 0 else device.mode
        colorTemp := (kwargs.colorTemp.map colorTempToDevice).getD device.colorTemp } := by
    have now : device.modeSeen later [] = device.mode := if_pos rfl
    unfold beforeBrightness
    cases kwargs.colorTemp with
    | none => simp
    | some mireds =>
      by_cases color : device.mode = 1
      · simp [now, color, LightDevice.after]
      · simp [now, color, LightDevice.after]
  rw [TurnOn.result, instructions_immediate kwargs plain, white, target, issued_white,
    List.foldl_append, List.foldl_append, first]
  cases kwargs.brightness with
  | none => simp
  | some value =>
    by_cases matched : kwargs.matchedMode later device = 1
    · have here := matched
      rw [TurnOn.matchedMode] at here
      simp [brightnessCommand, matched, here, LightDevice.after]
    · have here := matched
      rw [TurnOn.matchedMode] at here
      simp [brightnessCommand, matched, here, LightDevice.after]

/-- For a colour, the device already shows it; otherwise a colour temperature finds it outside
colour mode, and so does a brightness, unless both scales already have it. -/
def TransitionCondition : Prop :=
  kwargs.effect = none → (positive? kwargs.transition).isSome →
    match kwargs.rgbColor with
    | some rgb =>
      rgb.clamped = rgb ∧ device.mode = 1 ∧
      (∀ value, kwargs.brightness = some value →
        device.colorBrightness = value ∧ device.brightness = brightnessToDevice value) ∧
      (∀ mireds, kwargs.colorTemp = some mireds → device.colorTemp = colorTempToDevice mireds)
    | none =>
      (kwargs.colorTemp.isSome → device.mode ≠ 1) ∧
      (∀ value, kwargs.brightness = some value → kwargs.matchedMode later device ≠ 1 ∨
        device.colorBrightness = value ∧ device.brightness = brightnessToDevice value)

/-- Where no transition is made, the calls are the same. -/
theorem reaches_of_none (none : kwargs.effect ≠ none ∨ positive? kwargs.transition = none) :
    ReachesImmediate ops later device kwargs := by
  have same : kwargs.instructions ops device.shown =
      ({ kwargs with transition := .none } : TurnOn).instructions ops device.shown := by
    rcases none with effect | wish
    · obtain ⟨name, effect⟩ := Option.ne_none_iff_exists'.mp effect
      unfold TurnOn.instructions
      simp only [effect]
    · cases plain : kwargs.effect with
      | none =>
        rw [← plain, instructions_immediate kwargs plain]
        unfold TurnOn.instructions
        simp only [plain, wish]
      | some name =>
        unfold TurnOn.instructions
        simp only [plain]
  rw [ReachesImmediate, TurnOn.result, TurnOn.result, same]

/-- Without a target the light is turned on at once. -/
theorem reaches_of_no_target (plain : kwargs.effect = none) (target : kwargs.hasTarget = false) :
    ReachesImmediate ops later device kwargs := by
  have same : kwargs.instructions ops device.shown =
      ({ kwargs with transition := none } : TurnOn).instructions ops device.shown := by
    rw [instructions_immediate kwargs plain]
    unfold TurnOn.instructions
    cases positive? kwargs.transition with
    | none => simp only [plain]
    | some duration => simp only [plain, target]
  rw [ReachesImmediate, TurnOn.result, TurnOn.result, same]

section Wished

variable {duration : Rat}
  (ends : ∀ start target steps, 0 < steps → ops.interpolate start target steps steps = target)
  (plain : kwargs.effect = none) (wish : positive? kwargs.transition = some duration)
  (target : kwargs.hasTarget = true)

include ends plain wish target

theorem reaches_rgb_iff {rgb : Rgb} (color : kwargs.rgbColor = some rgb) :
    ReachesImmediate ops later device kwargs ↔
      rgb.clamped = rgb ∧ device.mode = 1 ∧
      (∀ value, kwargs.brightness = some value →
        device.colorBrightness = value ∧ device.brightness = brightnessToDevice value) ∧
      (∀ mireds, kwargs.colorTemp = some mireds → device.colorTemp = colorTempToDevice mireds) := by
  rw [ReachesImmediate, result_transition later device kwargs ends plain wish target,
    result_rgb later device kwargs plain color, color]
  cases kwargs.brightness with
  | none => cases kwargs.colorTemp <;> simp <;> tauto
  | some value => cases kwargs.colorTemp <;> simp <;> tauto

theorem reaches_white_iff (white : kwargs.rgbColor = none) :
    ReachesImmediate ops later device kwargs ↔
      (kwargs.colorTemp.isSome → device.mode ≠ 1) ∧
      (∀ value, kwargs.brightness = some value → kwargs.matchedMode later device ≠ 1 ∨
        device.colorBrightness = value ∧ device.brightness = brightnessToDevice value) := by
  rw [ReachesImmediate, result_transition later device kwargs ends plain wish target,
    result_white later device kwargs plain white target, white]
  -- the mode is the same unless the temperature finds the device in colour mode
  have modes :
      device.mode = (if kwargs.colorTemp.isSome ∧ device.mode = 1 then 0 else device.mode) ↔
      (kwargs.colorTemp.isSome → device.mode ≠ 1) := by
    split
    · next left => simp [left]
    · next stays => simpa using not_and.mp stays
  rw [LightDevice.mk.injEq, ← modes]
  by_cases matched : kwargs.matchedMode later device = 1
  · cases kwargs.brightness with
    | none => simp [matched]
    | some value =>
      simp [matched, eq_comm (a := brightnessToDevice value), and_comm]
  · simp [matched]

end Wished

/-- A call with a transition leaves the device as the call without, exactly under the
condition. -/
theorem reachesImmediate_iff
    (ends : ∀ start target steps, 0 < steps → ops.interpolate start target steps steps = target) :
    ReachesImmediate ops later device kwargs ↔ TransitionCondition later device kwargs := by
  unfold TransitionCondition
  by_cases plain : kwargs.effect = none
  · cases wish : positive? kwargs.transition with
    | none => simp [reaches_of_none later device kwargs (.inr wish)]
    | some duration =>
      cases target : kwargs.hasTarget with
      | false =>
        have nothing : kwargs.brightness = none ∧ kwargs.colorTemp = none ∧
            kwargs.rgbColor = none := by
          simpa [TurnOn.hasTarget, and_assoc] using target
        simp [reaches_of_no_target later device kwargs plain target, nothing]
      | true =>
        cases color : kwargs.rgbColor with
        | some rgb =>
          simpa [plain] using reaches_rgb_iff later device kwargs ends plain wish target color
        | none =>
          simpa [plain] using reaches_white_iff later device kwargs ends plain wish target color
  · simp [reaches_of_none later device kwargs (.inl plain), plain]

end Calls

/-- A device that shows white light. -/
def whiteDevice : LightDevice where
  power := true
  scene := 0
  mode := 0
  brightness := 50
  colorTemp := 64
  colorBrightness := 0
  rgb := ⟨0, 0, 0⟩

theorem reachesImmediate_brightness :
    ReachesImmediate exactOps (fun _ => 0) whiteDevice
      { transition := some 2, brightness := some 200 } :=
  (reachesImmediate_iff (fun _ => 0) whiteDevice { transition := some 2, brightness := some 200 }
    fun start target _ positive => interpolate_last start target positive).mpr
    fun _ _ => ⟨by decide, fun _ _ => .inl (by decide)⟩

/-- After a transition to red the device still is in white mode. -/
theorem transition_stays_white :
    (({ transition := some 1, rgbColor := some ⟨255, 0, 0⟩ } : TurnOn).result exactOps (fun _ => 1)
        whiteDevice).mode = 0 ∧
      (({ rgbColor := some ⟨255, 0, 0⟩ } : TurnOn).result exactOps (fun _ => 1)
        whiteDevice).mode = 1 ∧
      ¬ReachesImmediate exactOps (fun _ => 1) whiteDevice
        { transition := some 1, rgbColor := some ⟨255, 0, 0⟩ } := by
  unfold ReachesImmediate
  decide +kernel

end TuyaBleMesh
