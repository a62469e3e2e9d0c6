import TuyaBleMesh.Connection.Manager
import Mathlib.Data.List.Induction

/-!
# What a bridge light tracks

`TelinkBridgeDevice` remembers what it was last commanded, and fires a synthetic status
for the coordinator after each command. The status does not carry the power; the
coordinator infers it from the brightness. The two agree after a command exactly where a
positive brightness goes with it.
-/

namespace TuyaBleMesh

/-- The commands of a `TelinkBridgeDevice`. -/
inductive TelinkSend
  | sendPower (on : Bool)
  | sendBrightness (level : Int)
  | sendColorTemp (temp : Int)
  | sendColor (rgb : Rgb)
  | sendLightMode (mode : Int)
  | sendColorBrightness (level : Int)
  deriving DecidableEq

/-- What a `TelinkBridgeDevice` tracks. -/
structure TelinkBridgeDevice where
  mode : Int := 0
  brightness : Int := 0
  colorTemp : Int := 0
  colorBrightness : Int := 0
  rgb : Rgb := ⟨0, 0, 0⟩
  isOn : Bool := false
  deriving DecidableEq

namespace TelinkBridgeDevice

variable (d : TelinkBridgeDevice)

/-- What a command that the bridge has executed changes. -/
def send : TelinkSend → TelinkBridgeDevice
  | .sendPower on =>
    { d with
      isOn := on
      -- the default brightness when turning on
      brightness := if on ∧ d.brightness = 0 then 100 else d.brightness }
  | .sendBrightness level => { d with brightness := level, isOn := true }
  | .sendColorTemp temp => { d with colorTemp := temp, isOn := true }
  | .sendColor rgb => { d with rgb, isOn := true }
  -- the mode alone does not turn the light on
  | .sendLightMode mode => { d with mode }
  | .sendColorBrightness level => { d with colorBrightness := level, isOn := true }

/-- `_fire_status`. -/
def fireStatus : LightStatus where
  mode := d.mode
  whiteBrightness := if d.isOn then d.brightness else 0
  whiteTemp := d.colorTemp
  colorBrightness := if d.isOn then d.colorBrightness else 0
  rgb := d.rgb

end TelinkBridgeDevice

/-- A bridge light and the coordinator that listens to it. -/
structure BridgeLight where
  device : TelinkBridgeDevice := {}
  state : TuyaBLEMeshDeviceState := {}

/-- A command succeeds, and the coordinator processes the synthetic status. -/
def BridgeLight.command (s : BridgeLight) (timed : Rat × TelinkSend) : BridgeLight :=
  let device := s.device.send timed.2
  { device, state := s.state.update timed.1 (.status device.fireStatus) }

/-- After a run of commands, from a device that has had none. -/
def BridgeLight.after (state : TuyaBLEMeshDeviceState) (commands : List (Rat × TelinkSend)) :
    BridgeLight :=
  commands.foldl BridgeLight.command { state }

/-! ### What was last commanded -/

namespace TelinkSend

def mode? : TelinkSend → Option Int
  | .sendLightMode mode => some mode
  | _ => none

def colorTemp? : TelinkSend → Option Int
  | .sendColorTemp temp => some temp
  | _ => none

def rgb? : TelinkSend → Option Rgb
  | .sendColor rgb => some rgb
  | _ => none

def colorBrightness? : TelinkSend → Option Int
  | .sendColorBrightness level => some level
  | _ => none

end TelinkSend

/-- The last value that one of the commands has set. -/
def lastCommanded {α : Type} (value? : TelinkSend → Option α) (sends : List TelinkSend) :
    Option α :=
  sends.reverse.findSome? value?

/-- Turning on commands the default brightness where there is none. -/
def brightnessAfter (brightness : Int) : TelinkSend → Int
  | .sendBrightness level => level
  | .sendPower true => if brightness = 0 then 100 else brightness
  | _ => brightness

/-- The brightness last commanded. -/
def commandedBrightness (sends : List TelinkSend) : Int := sends.foldl brightnessAfter 0

/-- The readings are those last commanded. -/
structure DeviceReadings.AsCommanded (readings : DeviceReadings) (sends : List TelinkSend) :
    Prop where
  mode : ∀ mode, lastCommanded TelinkSend.mode? sends = some mode → readings.mode = mode
  brightness : readings.brightness = commandedBrightness sends
  colorTemp : ∀ temp, lastCommanded TelinkSend.colorTemp? sends = some temp →
    readings.colorTemp = temp
  rgb : ∀ rgb, lastCommanded TelinkSend.rgb? sends = some rgb → readings.rgb = rgb
  colorBrightness : ∀ level, lastCommanded TelinkSend.colorBrightness? sends = some level →
    readings.colorBrightness = level

/-- The coordinator and the device agree on the power, and while the light is on the coordinator
has what was last commanded. -/
structure BridgeLight.Agrees (s : BridgeLight) (sends : List TelinkSend) : Prop where
  power : s.state.readings.isOn = s.device.isOn
  commanded : s.device.isOn = true → s.state.readings.AsCommanded sends

/-- A positive brightness goes with the command, if the light is on after it. -/
def TelinkBridgeDevice.Lit (d : TelinkBridgeDevice) : TelinkSend → Prop
  | .sendPower on => on = true → 0 ≤ d.brightness ∨ 0 < d.colorBrightness
  | .sendBrightness level => 0 < level ∨ 0 < d.colorBrightness
  | .sendColorBrightness level => 0 < d.brightness ∨ 0 < level
  | .sendLightMode _ => d.isOn = true → 0 < d.brightness ∨ 0 < d.colorBrightness
  | .sendColorTemp _ | .sendColor _ => 0 < d.brightness ∨ 0 < d.colorBrightness

/-! ### Power -/

namespace TelinkBridgeDevice

variable (d : TelinkBridgeDevice) (state : TuyaBLEMeshDeviceState) (now : Rat)

/-- What the coordinator infers is the tracked power exactly where a light that is on has a
positive brightness. -/
theorem inferred_iff :
    (state.update now (.status d.fireStatus)).readings.isOn = d.isOn ↔
      (d.isOn = true → 0 < d.brightness ∨ 0 < d.colorBrightness) := by
  have inferred : (state.update now (.status d.fireStatus)).readings.isOn =
      (decide (0 < if d.isOn then d.brightness else 0) ||
        decide (0 < if d.isOn then d.colorBrightness else 0)) := rfl
  rw [inferred]
  cases d.isOn with
  | false => simp
  | true => simp only [if_true, Bool.or_eq_true, decide_eq_true_eq, forall_const]

/-- The condition on a command is what the device then has. -/
theorem lit_iff (send : TelinkSend) :
    d.Lit send ↔
      ((d.send send).isOn = true →
        0 < (d.send send).brightness ∨ 0 < (d.send send).colorBrightness) := by
  cases send with
  | sendPower on =>
    cases on with
    | false => exact ⟨nofun, nofun⟩
    | true =>
      -- turning on raises a brightness of zero, and no other
      have raised : (d.send (.sendPower true)).brightness =
          if d.brightness = 0 then 100 else d.brightness := by
        simp only [TelinkBridgeDevice.send, true_and]
      have kept : (d.send (.sendPower true)).colorBrightness = d.colorBrightness := rfl
      rw [raised, kept]
      simp only [Lit, TelinkBridgeDevice.send, forall_const]
      split
      · omega
      · omega
  | sendLightMode mode => exact Iff.rfl
  | _ => simp only [Lit, TelinkBridgeDevice.send, forall_const]

end TelinkBridgeDevice

/-! ### What is commanded -/

section

variable {α : Type} (value? : TelinkSend → Option α) (sends : List TelinkSend) (send : TelinkSend)

/-- A command that sets the value hides the earlier ones, and any other keeps it. -/
theorem lastCommanded_append :
    lastCommanded value? (sends ++ [send]) = (value? send <|> lastCommanded value? sends) := by
  unfold lastCommanded
  rw [List.reverse_append, List.reverse_singleton, List.singleton_append, List.findSome?_cons]
  cases value? send with
  | none => rfl
  | some value => rfl

theorem commandedBrightness_append :
    commandedBrightness (sends ++ [send]) = brightnessAfter (commandedBrightness sends) send := by
  unfold commandedBrightness
  rw [List.foldl_append]
  rfl

end

namespace TelinkBridgeDevice

/-- What a coordinator would read of a light that is on. -/
def readings (d : TelinkBridgeDevice) : DeviceReadings where
  isOn := d.isOn
  mode := d.mode
  brightness := d.brightness
  colorTemp := d.colorTemp
  rgb := d.rgb
  colorBrightness := d.colorBrightness

variable {d : TelinkBridgeDevice} {sends : List TelinkSend}

/-- A field is what was last commanded, if each command that sets it is obeyed and every other
one keeps it. -/
theorem field_commanded {α : Type} {value? : TelinkSend → Option α}
    (field : TelinkBridgeDevice → α) (send : TelinkSend)
    (tracked : ∀ value, lastCommanded value? sends = some value → field d = value)
    (obeys : ∀ value, value? send = some value → field (d.send send) = value)
    (keeps : value? send = none → field (d.send send) = field d) (value : α)
    (last : lastCommanded value? (sends ++ [send]) = some value) :
    field (d.send send) = value := by
  rw [lastCommanded_append] at last
  cases sets : value? send with
  | none =>
    rw [sets] at last
    -- the command leaves the field alone, and so the last value
    exact (keeps sets).trans (tracked value last)
  | some value' =>
    rw [sets] at last
    cases last
    exact obeys value sets

theorem brightness_send (send : TelinkSend) :
    (d.send send).brightness = brightnessAfter d.brightness send := by
  cases send with
  | sendPower on =>
    cases on with
    | false => simp [TelinkBridgeDevice.send, brightnessAfter]
    | true => simp [TelinkBridgeDevice.send, brightnessAfter]
  | _ => rfl

/-- The device tracks what it is commanded. -/
theorem asCommanded_send (tracked : d.readings.AsCommanded sends) (send : TelinkSend) :
    (d.send send).readings.AsCommanded (sends ++ [send]) where
  mode := by
    apply field_commanded TelinkBridgeDevice.mode send tracked.mode
    · intro mode sets
      cases send <;> cases sets
      rfl
    · intro keeps
      cases send <;> first | rfl | cases keeps
  brightness := by
    have before : d.brightness = commandedBrightness sends := tracked.brightness
    have after : (d.send send).readings.brightness = (d.send send).brightness := rfl
    rw [after, brightness_send, before, commandedBrightness_append]
  colorTemp := by
    apply field_commanded TelinkBridgeDevice.colorTemp send tracked.colorTemp
    · intro temp sets
      cases send <;> cases sets
      rfl
    · intro keeps
      cases send <;> first | rfl | cases keeps
  rgb := by
    apply field_commanded TelinkBridgeDevice.rgb send tracked.rgb
    · intro rgb sets
      cases send <;> cases sets
      rfl
    · intro keeps
      cases send <;> first | rfl | cases keeps
  colorBrightness := by
    apply field_commanded TelinkBridgeDevice.colorBrightness send tracked.colorBrightness
    · intro level sets
      cases send <;> cases sets
      rfl
    · intro keeps
      cases send <;> first | rfl | cases keeps

end TelinkBridgeDevice

/-! ### Runs -/

namespace BridgeLight

variable (state : TuyaBLEMeshDeviceState) (commands : List (Rat × TelinkSend))
  (timed : Rat × TelinkSend)

theorem after_append :
    after state (commands ++ [timed]) = (after state commands).command timed := by
  unfold after
  rw [List.foldl_append]
  rfl

theorem asCommanded_after :
    (after state commands).device.readings.AsCommanded (commands.map Prod.snd) := by
  -- from the end of the run, where the last command is
  induction commands using List.reverseRecOn with
  | nil => exact ⟨nofun, rfl, nofun, nofun, nofun⟩
  | append_singleton commands timed ih =>
    rw [after_append, List.map_append]
    exact TelinkBridgeDevice.asCommanded_send ih timed.2

/-- While the light is on, the coordinator reads what the device tracks. -/
theorem readings_of_on (s : BridgeLight) (on : (s.command timed).device.isOn = true)
    {sends : List TelinkSend} (tracked : (s.command timed).device.readings.AsCommanded sends) :
    (s.command timed).state.readings.AsCommanded sends := by
  have white : (s.command timed).state.readings.brightness =
      if (s.command timed).device.isOn then (s.command timed).device.brightness else 0 := rfl
  have color : (s.command timed).state.readings.colorBrightness =
      if (s.command timed).device.isOn then (s.command timed).device.colorBrightness else 0 := rfl
  -- the synthetic status has the brightnesses only of a light that is on
  rw [if_pos on] at white color
  refine ⟨tracked.mode, white.trans tracked.brightness, tracked.colorTemp, tracked.rgb, ?_⟩
  intro level last
  exact color.trans (tracked.colorBrightness level last)

/-- After one command. -/
theorem agrees_iff :
    (after state (commands ++ [timed])).Agrees ((commands ++ [timed]).map Prod.snd) ↔
      (after state commands).device.Lit timed.2 := by
  have inferred := ((after state commands).device.send timed.2).inferred_iff
    (after state commands).state timed.1
  rw [TelinkBridgeDevice.lit_iff, ← inferred]
  have tracked := asCommanded_after state (commands ++ [timed])
  rw [after_append] at tracked ⊢
  constructor
  · intro agrees
    exact agrees.power
  · intro power
    -- the readings are right without a condition
    exact ⟨power, fun on => readings_of_on timed _ on tracked⟩

end BridgeLight

/-- The coordinator agrees with the device after every command of a run exactly where every
command finds the device with a positive brightness to go with it. -/
theorem bridgeLight_agrees_iff (state : TuyaBLEMeshDeviceState)
    (commands : List (Rat × TelinkSend)) :
    (∀ before timed, before ++ [timed] <+: commands →
      (BridgeLight.after state (before ++ [timed])).Agrees ((before ++ [timed]).map Prod.snd)) ↔
    ∀ before timed, before ++ [timed] <+: commands →
      (BridgeLight.after state before).device.Lit timed.2 := by
  constructor
  · intro agrees before timed reached
    exact (BridgeLight.agrees_iff state before timed).mp (agrees before timed reached)
  · intro lit before timed reached
    exact (BridgeLight.agrees_iff state before timed).mpr (lit before timed reached)

/-- A colour temperature turns a new light on, and the coordinator takes it for off. -/
theorem fresh_colorTemp_disagrees :
    ¬∀ (state : TuyaBLEMeshDeviceState) (commands : List (Rat × TelinkSend)) before timed,
      before ++ [timed] <+: commands →
      (BridgeLight.after state (before ++ [timed])).Agrees ((before ++ [timed]).map Prod.snd) := by
  intro agrees
  have power := (agrees {} [(0, .sendColorTemp 100)] [] (0, .sendColorTemp 100)
    (List.prefix_refl _)).power
  revert power
  decide

end TuyaBleMesh
