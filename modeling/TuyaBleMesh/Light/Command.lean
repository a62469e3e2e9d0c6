import TuyaBleMesh.Light.Order

/-!
# The turn-on command

`_build_turn_on_command` of `light.py`, and the commands that `_debounced_send_turn_on`
issues for the same arguments. The second reads the coordinator's mode between its own
commands, so the mode is a function of what has been issued.
-/

namespace TuyaBleMesh

structure TurnOnCommand where
  powerOn : Bool
  brightness : Option Int
  colorTemp : Option Int
  rgb : Option Rgb
  useColorBrightness : Bool
  deriving DecidableEq

def buildTurnOnCommand (brightness colorTemp : Option Int) (rgbColor : Option Rgb)
    (hasTarget : Bool) (currentMode : Nat) : TurnOnCommand :=
  if ¬hasTarget then
    { powerOn := true, brightness := none, colorTemp := none, rgb := none
      useColorBrightness := false }
  else
    let useColor :=
      if colorTemp.isSome then false
      else if rgbColor.isSome then true
      else currentMode = 1
    { powerOn := false
      brightness := brightness.map fun value =>
        if useColor then value else brightnessToDevice value
      colorTemp := colorTemp.map colorTempToDevice
      rgb := rgbColor
      useColorBrightness := useColor }

/-- The device commands that a turn-on command describes. -/
def TurnOnCommand.described (command : TurnOnCommand) : List DeviceCommand :=
  (command.rgb.map DeviceCommand.sendColor).toList ++
  (command.colorTemp.map DeviceCommand.sendColorTemp).toList ++
  (command.brightness.map fun value =>
    if command.useColorBrightness then DeviceCommand.sendColorBrightness value
    else .sendBrightness value).toList ++
  if command.powerOn then [.sendPower true] else []

/-- The coordinator's mode, after the commands that have been issued. -/
abbrev ModeSeen := List DeviceCommand → Nat

/-- The command for a brightness, on the scale of the mode. -/
def brightnessCommand (mode : Nat) (brightness : Int) : DeviceCommand :=
  if mode = 1 then .sendColorBrightness brightness
  else .sendBrightness (brightnessToDevice brightness)

/-- The command of an instruction, if it sends one. -/
def Instruction.command (mode : Nat) : Instruction → Option DeviceCommand
  | .send command => some command
  | .leaveColorMode => if mode = 1 then some (.sendLightMode 0) else none
  | .matchBrightness brightness => some (brightnessCommand mode brightness)
  | .sleep _ => none

/-- What is issued in all, when nothing interrupts the task. -/
def issued (mode : ModeSeen) (sent : List DeviceCommand) : List Instruction → List DeviceCommand
  | [] => sent
  | instruction :: left =>
    issued mode (sent ++ (instruction.command (mode sent)).toList) left

/-- The commands without those that switch the mode, of which a turn-on command says nothing. -/
def withoutModes (commands : List DeviceCommand) : List DeviceCommand :=
  commands.filter fun command =>
    match command with
    | .sendLightMode _ => false
    | _ => true

/-- The commands issued are those that the turn-on command describes. -/
def FollowsCommand (brightness colorTemp : Option Int) (rgbColor : Option Rgb) (hasTarget : Bool)
    (mode : ModeSeen) : Prop :=
  withoutModes (issued mode [] (debouncedBody brightness colorTemp rgbColor hasTarget)) =
    (buildTurnOnCommand brightness colorTemp rgbColor hasTarget (mode [])).described

/-- What is issued before the brightness of a request without a colour. -/
def beforeBrightness (mode : ModeSeen) (colorTemp : Option Int) : List DeviceCommand :=
  match colorTemp with
  | some mireds =>
    (if mode [] = 1 then [.sendLightMode 0] else []) ++ [.sendColorTemp (colorTempToDevice mireds)]
  | none => []

/-- No target without the flag, not two kinds of colour, and no brightness that goes with a
colour temperature while the coordinator still is in colour mode. -/
def CommandCondition (brightness colorTemp : Option Int) (rgbColor : Option Rgb)
    (hasTarget : Bool) (mode : ModeSeen) : Prop :=
  if hasTarget then
    ∀ mireds, colorTemp = some mireds →
      rgbColor = none ∧ (brightness.isSome → mode (beforeBrightness mode colorTemp) ≠ 1)
  else brightness = none ∧ colorTemp = none ∧ rgbColor = none

theorem issued_append (mode : ModeSeen) (sent : List DeviceCommand)
    (first second : List Instruction) :
    issued mode sent (first ++ second) = issued mode (issued mode sent first) second := by
  induction first generalizing sent with
  | nil => rfl
  | cons instruction first ih => exact ih _

@[simp] theorem withoutModes_nil : withoutModes [] = [] := rfl

@[simp] theorem withoutModes_power (on : Bool) :
    withoutModes [.sendPower on] = [.sendPower on] := rfl

theorem withoutModes_append (first second : List DeviceCommand) :
    withoutModes (first ++ second) = withoutModes first ++ withoutModes second :=
  List.filter_append _ _

theorem withoutModes_beforeBrightness (mode : ModeSeen) (colorTemp : Option Int) :
    withoutModes (beforeBrightness mode colorTemp) =
      (colorTemp.map fun mireds =>
        DeviceCommand.sendColorTemp (colorTempToDevice mireds)).toList := by
  unfold beforeBrightness
  cases colorTemp with
  | none => rfl
  | some mireds =>
    dsimp only
    split
    · rfl
    · rfl

theorem withoutModes_brightness (mode : Nat) (brightness : Int) :
    withoutModes [brightnessCommand mode brightness] = [brightnessCommand mode brightness] := by
  unfold brightnessCommand
  split
  · rfl
  · rfl

/-- The body up to the brightness. -/
theorem issued_colorTemp (mode : ModeSeen) (colorTemp : Option Int) :
    issued mode [] (debouncedBody none colorTemp none true) = beforeBrightness mode colorTemp := by
  cases colorTemp with
  | none => rfl
  | some mireds =>
    by_cases color : mode [] = 1
    · simp [debouncedBody, issued, Instruction.command, beforeBrightness, color]
    · simp [debouncedBody, issued, Instruction.command, beforeBrightness, color]

/-- The body for a colour. -/
theorem issued_rgb (mode : ModeSeen) (brightness colorTemp : Option Int) (rgb : Rgb)
    (hasTarget : Bool) :
    issued mode [] (debouncedBody brightness colorTemp (some rgb) hasTarget) =
      [.sendColor rgb, .sendLightMode 1] ++ (brightness.map .sendColorBrightness).toList := by
  cases brightness with
  | none => rfl
  | some value => rfl

/-- The body without a colour. -/
theorem issued_white (mode : ModeSeen) (brightness colorTemp : Option Int) (hasTarget : Bool) :
    issued mode [] (debouncedBody brightness colorTemp none hasTarget) =
      beforeBrightness mode colorTemp ++
      (brightness.map (brightnessCommand (mode (beforeBrightness mode colorTemp)))).toList ++
      if hasTarget then [] else [.sendPower true] := by
  have parts : debouncedBody brightness colorTemp none hasTarget =
      debouncedBody none colorTemp none true ++
        (brightness.map Instruction.matchBrightness).toList ++
        if hasTarget then [] else [.send (.sendPower true)] := by
    cases colorTemp with
    | none => simp [debouncedBody]
    | some mireds => simp [debouncedBody]
  rw [parts, issued_append, issued_append, issued_colorTemp]
  cases brightness with
  | none =>
    cases hasTarget with
    | false => simp [issued, Instruction.command]
    | true => simp [issued]
  | some value =>
    cases hasTarget with
    | false => simp [issued, Instruction.command]
    | true => simp [issued, Instruction.command]

/-- A request with a target, described. -/
theorem described_target (brightness colorTemp : Option Int) (rgbColor : Option Rgb)
    (currentMode : Nat) :
    (buildTurnOnCommand brightness colorTemp rgbColor true currentMode).described =
      (rgbColor.map DeviceCommand.sendColor).toList ++
      (colorTemp.map fun mireds => DeviceCommand.sendColorTemp (colorTempToDevice mireds)).toList ++
      (brightness.map (brightnessCommand
        (if colorTemp.isSome then 0 else if rgbColor.isSome then 1 else currentMode))).toList := by
  cases brightness with
  | none => simp [buildTurnOnCommand, TurnOnCommand.described, Function.comp_def]
  | some value =>
    cases colorTemp with
    | some mireds =>
      simp [buildTurnOnCommand, TurnOnCommand.described, brightnessCommand]
    | none =>
      cases rgbColor with
      | some rgb => simp [buildTurnOnCommand, TurnOnCommand.described, brightnessCommand]
      | none =>
        by_cases color : currentMode = 1
        · simp [buildTurnOnCommand, TurnOnCommand.described, brightnessCommand, color]
        · simp [buildTurnOnCommand, TurnOnCommand.described, brightnessCommand, color]

theorem brightnessCommand_eq_iff {mode other : Nat} {value : Int} :
    brightnessCommand mode value = brightnessCommand other value ↔ (mode = 1 ↔ other = 1) := by
  unfold brightnessCommand
  by_cases one : mode = 1
  · by_cases two : other = 1
    · simp [one, two]
    · simp [one, two]
  · by_cases two : other = 1
    · simp [one, two]
    · simp [one, two]

/-- The two agree exactly under the condition. -/
theorem followsCommand_iff (brightness colorTemp : Option Int) (rgbColor : Option Rgb)
    (hasTarget : Bool) (mode : ModeSeen) :
    FollowsCommand brightness colorTemp rgbColor hasTarget mode ↔
      CommandCondition brightness colorTemp rgbColor hasTarget mode := by
  unfold FollowsCommand CommandCondition
  cases hasTarget with
  | false =>
    -- without a target only the power is described
    have described : (buildTurnOnCommand brightness colorTemp rgbColor false (mode [])).described =
        [.sendPower true] := rfl
    rw [described]
    cases rgbColor with
    | some rgb => simp [issued_rgb, withoutModes]
    | none =>
      rw [issued_white, withoutModes_append, withoutModes_append, withoutModes_beforeBrightness]
      cases colorTemp with
      | some mireds => simp
      | none =>
        cases brightness with
        | some value => simp [withoutModes_brightness]
        | none => simp
  | true =>
    rw [described_target]
    cases rgbColor with
    | some rgb =>
      -- the colour is issued alone, and a colour temperature beside it is described too
      rw [issued_rgb]
      cases colorTemp with
      | some mireds => cases brightness <;> simp [withoutModes]
      | none => cases brightness <;> simp [withoutModes, brightnessCommand]
    | none =>
      rw [issued_white, withoutModes_append, withoutModes_append, withoutModes_beforeBrightness]
      cases brightness with
      | none => simp
      | some value =>
        cases colorTemp with
        | none => simp [withoutModes_brightness, beforeBrightness]
        | some mireds => simp [withoutModes_brightness, brightnessCommand_eq_iff]

/-- The light is in colour mode, and the coordinator does not know yet that it is being left:
the brightness is sent on the scale of the colours. -/
theorem stale_mode_scale :
    issued (fun _ => 1) [] (debouncedBody (some 128) (some 300) none true) =
        [.sendLightMode 0, .sendColorTemp 41, .sendColorBrightness 128] ∧
      ¬FollowsCommand (some 128) (some 300) none true (fun _ => 1) := by
  unfold FollowsCommand
  decide +kernel

/-! ### In the system -/

namespace Light

variable {s : Light} {i : Nat} {t : LightTask}

/-- A run in which a task that holds the lock issues the rest of its commands. -/
def Issues (ops : FloatOps) (s : Light) (i call : Nat) (more : List DeviceCommand) (s₀ : Light) :
    Prop :=
  ∃ events s', (lightSystem ops).exec s₀ events = some s' ∧
    (∀ event ∈ events, event = .resumed i ∨ ∃ state, event = .updated state) ∧
    s'.sent = s.sent ++ more.map (call, ·)

/-- The coordinator's state changes, and what the task awaits returns. -/
theorem issues_of_resumed {ops : FloatOps} {left : List Instruction} {more : List DeviceCommand}
    (here : s.live? i = some t) (works : t.phase = .working left) (state : LightState)
    (rest : Issues ops s i t.call more (({ s with state } : Light).proceed i t.call left)) :
    Issues ops s i t.call more s := by
  obtain ⟨events, s', ran, own, sent⟩ := rest
  refine ⟨.updated state :: .resumed i :: events, s', ?_, ?_, sent⟩
  · -- the environment may set the state at any time, and then the await returns
    have ready : ({ s with state } : Light).ready? i LightPhase.isWorking = some t := by
      obtain ⟨found, -, kept⟩ := live?_iff.mp here
      apply Option.filter_eq_some_iff.mpr
      exact ⟨found, by simp [works, kept, LightPhase.isWorking]⟩
    have resumed : ({ s with state } : Light).step ops (.resumed i) =
        some (({ s with state } : Light).proceed i t.call left) := by
      simp only [Light.step, ready, works, Option.bind_eq_bind, Option.bind_some]
      rfl
    exact (EventSystem.exec_cons_iff _ _ _ _ _).mpr ⟨_, rfl,
      (EventSystem.exec_cons_iff _ _ _ _ _).mpr ⟨_, resumed, ran⟩⟩
  · intro event member
    rcases List.mem_cons.mp member with rfl | member
    · exact .inr ⟨state, rfl⟩
    · rcases List.mem_cons.mp member with rfl | member
      · exact .inl rfl
      · exact own event member

/-- Under the lock, with the mode as given after each command, a task issues what `issued` says. -/
theorem proceed_issues (ops : FloatOps) (mode : ModeSeen) (left : List Instruction)
    (sent : List DeviceCommand) (here : s.live? i = some t) (now : s.state.mode = mode sent) :
    ∃ more, issued mode sent left = sent ++ more ∧
      Issues ops s i t.call more (s.proceed i t.call left) := by
  induction left generalizing s t sent with
  | nil => exact ⟨[], (List.append_nil _).symm, [], _, rfl, by simp, (List.append_nil _).symm⟩
  | cons instruction left ih =>
    -- a command is sent, and the rest follows when it returns
    have send (command : DeviceCommand)
        (is : (instruction.command (mode sent)).toList = [command]) :
        ∃ more, issued mode sent (instruction :: left) = sent ++ more ∧
          Issues ops s i t.call more ((s.note t.call command).setPhase i (.working left)) := by
      let state : LightState := { s.state with mode := mode (sent ++ [command]) }
      let s₁ : Light := (s.note t.call command).setPhase i (.working left)
      have here₁ : s₁.live? i = some { t with phase := .working left } :=
        live?_setPhase_self (s := s.note t.call command) here LightPhase.noConfusion
      obtain ⟨more, rest, run⟩ := ih (s := { s₁ with state }) (sent ++ [command]) here₁ rfl
      refine ⟨command :: more, ?_, ?_⟩
      · rw [issued, is, rest, List.append_assoc]
        rfl
      · obtain ⟨events, s', ran, own, after⟩ := issues_of_resumed here₁ rfl state run
        refine ⟨events, s', ran, own, ?_⟩
        rw [after]
        exact List.append_assoc _ _ _
    cases instruction with
    | send command => exact send command rfl
    | leaveColorMode =>
      unfold proceed
      split
      · next color =>
        apply send
        rw [Instruction.command, if_pos (now ▸ color)]
        rfl
      · next white =>
        obtain ⟨more, rest, run⟩ := ih sent here now
        refine ⟨more, ?_, run⟩
        rw [issued, Instruction.command, if_neg (now ▸ white)]
        simpa using rest
    | matchBrightness brightness =>
      have scale : brightnessCommand (mode sent) brightness =
          if s.state.mode = 1 then .sendColorBrightness brightness
          else .sendBrightness (brightnessToDevice brightness) := by
        rw [now]
        rfl
      exact send _ (congrArg (fun command => (some command).toList) scale)
    | sleep interval =>
      have here₁ : (s.setPhase i (.working left)).live? i =
          some { t with phase := .working left } :=
        live?_setPhase_self here LightPhase.noConfusion
      obtain ⟨more, rest, run⟩ := ih (s := s.setPhase i (.working left)) sent here₁ now
      have resumed := issues_of_resumed here₁ rfl s.state run
      refine ⟨more, ?_, resumed⟩
      rw [issued]
      simpa [Instruction.command] using rest

end Light

end TuyaBleMesh
