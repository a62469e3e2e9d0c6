import TuyaBleMesh.Connection.Manager
import TuyaBleMesh.Lib.Bytes
import TuyaBleMesh.SigMesh.VendorFrame

/-!
# Updates for the listeners

The notification handlers of `coordinator.py` and `assume_state`, with what they dispatch.
Each handler has a test of its own for a change. That of `_on_status_update` does not
look at the power, which an assumed state can set apart from the brightness.
-/

namespace TuyaBleMesh

open Bytes

/-- What a handler does besides setting the state. -/
inductive CoordinatorEffect
  | resetBackoff
  | recordStateChange
  | maybePersistSeq
  | sendTimestampResponse
  | dispatchUpdate
  deriving DecidableEq

/-- The state and the effects that a handler leaves. -/
structure Handled where
  state : TuyaBLEMeshDeviceState
  effects : List CoordinatorEffect

/-- What `assume_state` takes from `sent`. -/
structure SentState where
  isOn : Option Bool := none
  brightness : Option Int := none
  colorTemp : Option Int := none
  red : Option Int := none
  green : Option Int := none
  blue : Option Int := none
  colorBrightness : Option Int := none
  mode : Option Int := none
  deriving DecidableEq

inductive CoordinatorInput
  | assumed (sent : SentState)
  | level (level : Int)
  | onoff (on : Bool)
  | status (status : LightStatus)
  | vendor (opcode : Nat) (params : Bytes)
  | composition
  deriving DecidableEq

/-- On/off, level, status and vendor notifications. -/
def CoordinatorInput.isNotification : CoordinatorInput → Bool
  | .level _ | .onoff _ | .status _ | .vendor _ _ => true
  | .assumed _ | .composition => false

def TUYA_VENDOR_OPCODE : Nat := 0xCDD007

def DP_ID_ENERGY_KWH : UInt8 := 17

def DP_ID_POWER_W : UInt8 := 18

/-- The power and the energy that data points bring, if they do. -/
structure Metered where
  powerW : Option Rat := none
  energyKwh : Option Rat := none

/-- `int / float`, or nothing if the integer is too large for a `float`. -/
abbrev FloatQuotient := Nat → Nat → Option Rat

def FloatQuotient.divide (quotient : FloatQuotient) (value scale : Nat) : Except PyError Rat :=
  match quotient value scale with
  | some result => .ok result
  | none => .error .overflowError

/-- The loop over the data points of a vendor frame. -/
def meter (quotient : FloatQuotient) (metered : Metered) (dp : SigMesh.TuyaVendorDP) :
    Except PyError Metered :=
  if dp.dpId = DP_ID_POWER_W ∧ 1 ≤ dp.value.length then do
    return { metered with powerW := some (← quotient.divide (beValue dp.value) 10) }
  else if dp.dpId = DP_ID_ENERGY_KWH ∧ 1 ≤ dp.value.length then do
    return { metered with energyKwh := some (← quotient.divide (beValue dp.value) 100) }
  else .ok metered

namespace TuyaBLEMeshDeviceState

variable (s : TuyaBLEMeshDeviceState) (now : Rat)

def assumeState (sent : SentState) : Handled where
  state := { s with
    readings := { s.readings with
      isOn := sent.isOn.getD s.readings.isOn
      brightness := sent.brightness.getD s.readings.brightness
      colorTemp := sent.colorTemp.getD s.readings.colorTemp
      rgb :=
        ⟨sent.red.getD s.readings.rgb.red, sent.green.getD s.readings.rgb.green,
          sent.blue.getD s.readings.rgb.blue⟩
      colorBrightness := sent.colorBrightness.getD s.readings.colorBrightness
      mode := sent.mode.getD s.readings.mode }
    deviceAvailability := .assumedOnline }
  effects := [.dispatchUpdate]

/-- The end of the handlers for lights and plugs, after their test for a change. -/
def notified (update : DeviceUpdate) (changed persists : Bool) : Handled where
  state := s.update now update
  effects :=
    [.resetBackoff] ++ (if changed then [.recordStateChange] else []) ++
      (if persists then [.maybePersistSeq] else []) ++
      if changed || !s.available then [.dispatchUpdate] else []

def onLevelUpdate (level : Int) : Handled :=
  let brightness := roundHalfEven ((level + 32768 : Rat) * 255 / 65535)
  let isOn := decide (0 < brightness)
  s.notified now (.level level)
    (s.readings.brightness ≠ brightness || s.readings.isOn ≠ isOn) true

def onOnoffUpdate (on : Bool) : Handled :=
  s.notified now (.onoff on) (s.readings.isOn ≠ on) true

/-- The test of `_on_status_update`. -/
def statusChanges (status : LightStatus) : Bool :=
  s.readings.mode ≠ status.mode ||
  s.readings.brightness ≠ status.whiteBrightness ||
  s.readings.colorTemp ≠ status.whiteTemp ||
  s.readings.rgb.red ≠ status.rgb.red ||
  s.readings.rgb.green ≠ status.rgb.green ||
  s.readings.rgb.blue ≠ status.rgb.blue ||
  s.readings.colorBrightness ≠ status.colorBrightness

def onStatusUpdate (status : LightStatus) : Handled :=
  s.notified now (.status status) (s.statusChanges status) false

def onVendorUpdate (quotient : FloatQuotient) (opcode : Nat) (params : Bytes) :
    Except PyError Handled :=
  if opcode ≠ TUYA_VENDOR_OPCODE then .ok ⟨s, []⟩
  else
    let frame := SigMesh.parseTuyaVendorFrame params
    if frame.command = SigMesh.TUYA_CMD_TIMESTAMP_SYNC then .ok ⟨s, [.sendTimestampResponse]⟩
    else do
      let metered ← frame.dps.foldlM (meter quotient) {}
      return {
        state := s.update now (.vendor metered.powerW metered.energyKwh)
        effects :=
          if metered.powerW.isSome || metered.energyKwh.isSome then [.dispatchUpdate] else [] }

def handle (quotient : FloatQuotient) : CoordinatorInput → Except PyError Handled
  | .assumed sent => .ok (s.assumeState sent)
  | .level level => .ok (s.onLevelUpdate now level)
  | .onoff on => .ok (s.onOnoffUpdate now on)
  | .status status => .ok (s.onStatusUpdate now status)
  | .vendor opcode params => s.onVendorUpdate now quotient opcode params
  | .composition => .ok ⟨s.update now .composition, [.dispatchUpdate]⟩

/-- A handler that raises has set nothing. -/
def outcome (quotient : FloatQuotient) (timed : Rat × CoordinatorInput) : Handled :=
  match s.handle timed.1 quotient timed.2 with
  | .ok handled => handled
  | .error _ => ⟨s, []⟩

/-- After a run. -/
def afterInputs (quotient : FloatQuotient) (inputs : List (Rat × CoordinatorInput)) :
    TuyaBLEMeshDeviceState :=
  inputs.foldl (fun s timed => (s.outcome quotient timed).state) s

/-- The fields that entities render. -/
def rendered : DeviceReadings × Bool := (s.readings, s.available)

/-- If the input changes what entities render, it dispatches one update. -/
def Announces (quotient : FloatQuotient) (timed : Rat × CoordinatorInput) : Prop :=
  (s.outcome quotient timed).state.rendered ≠ s.rendered →
    (s.outcome quotient timed).effects.count .dispatchUpdate = 1

/-- The status that repeats the readings. -/
def repeated : LightStatus where
  mode := s.readings.mode
  whiteBrightness := s.readings.brightness
  whiteTemp := s.readings.colorTemp
  colorBrightness := s.readings.colorBrightness
  rgb := s.readings.rgb

/-- The status repeats the readings of an available device, and the power is not the one that
the brightness stands for. -/
def Conceals (status : LightStatus) : Prop :=
  s.available = true ∧ status = s.repeated ∧
    s.readings.isOn ≠
      (decide (0 < s.readings.brightness) || decide (0 < s.readings.colorBrightness))

/-! ### One input -/

variable (quotient : FloatQuotient)

theorem notified_dispatches (update : DeviceUpdate) (changed persists : Bool) :
    (s.notified now update changed persists).effects.count .dispatchUpdate =
      (changed || !s.available).toNat := by
  unfold notified
  dsimp only
  cases changed || !s.available with
  | _ => cases changed <;> cases persists <;> rfl

/-- A handler announces what it changes if its test finds every change of a reading. -/
theorem notified_announces (update : DeviceUpdate) (changed persists : Bool)
    (marks : (s.update now update).available = true) :
    ((s.notified now update changed persists).state.rendered ≠ s.rendered →
      (s.notified now update changed persists).effects.count .dispatchUpdate = 1) ↔
    (changed = false → s.available = true → (s.update now update).readings = s.readings) := by
  have shown : (s.notified now update changed persists).state.rendered =
      ((s.update now update).readings, true) := Prod.ext rfl marks
  rw [notified_dispatches, shown, rendered]
  cases changed with
  -- the test alone dispatches
  | true => exact ⟨fun _ => nofun, fun _ _ => rfl⟩
  | false =>
    cases s.available with
    -- a device that was not available is announced in any case
    | false => exact ⟨fun _ _ => nofun, fun _ _ => rfl⟩
    | true =>
      -- nothing is dispatched, so nothing may have changed
      constructor
      · intro announces _ _
        by_contra differ
        have counted := announces fun same => differ (congrArg Prod.fst same)
        cases counted
      · intro found differ
        exact (differ (congrArg (·, true) (found rfl rfl))).elim

theorem level_announces (level : Int) : s.Announces quotient (now, .level level) := by
  refine (s.notified_announces now (.level level) _ true rfl).mpr ?_
  intro unchanged _
  rw [Bool.or_eq_false_iff, decide_eq_false_iff_not, decide_eq_false_iff_not, not_not, not_not]
    at unchanged
  obtain ⟨brightness, isOn⟩ := unchanged
  simp only [update, makeNotifyState]
  rw [← isOn, ← brightness]

theorem onoff_announces (on : Bool) : s.Announces quotient (now, .onoff on) := by
  refine (s.notified_announces now (.onoff on) _ true rfl).mpr ?_
  intro unchanged _
  rw [decide_eq_false_iff_not, not_not] at unchanged
  simp only [update, makeNotifyState]
  rw [← unchanged]

theorem statusChanges_eq_false (status : LightStatus) :
    s.statusChanges status = false ↔ status = s.repeated := by
  constructor
  · intro unchanged
    obtain ⟨mode, whiteBrightness, whiteTemp, colorBrightness, red, green, blue⟩ := status
    simp only [statusChanges, Bool.or_eq_false_iff, decide_eq_false_iff_not, not_not] at unchanged
    obtain ⟨⟨⟨⟨⟨⟨rfl, rfl⟩, rfl⟩, rfl⟩, rfl⟩, rfl⟩, rfl⟩ := unchanged
    rfl
  · rintro rfl
    simp [statusChanges, repeated]

theorem status_announces_iff (status : LightStatus) :
    s.Announces quotient (now, .status status) ↔ ¬s.Conceals status := by
  refine (s.notified_announces now (.status status) _ false rfl).trans ?_
  rw [statusChanges_eq_false, Conceals]
  -- all that the test compares is the same, and only the power is left
  have readings : status = s.repeated →
      ((s.update now (.status status)).readings = s.readings ↔
        s.readings.isOn =
          (decide (0 < s.readings.brightness) || decide (0 < s.readings.colorBrightness))) := by
    rintro rfl
    constructor
    · intro same
      exact (congrArg DeviceReadings.isOn same).symm
    · intro agrees
      have only : (s.update now (.status s.repeated)).readings = { s.readings with
          isOn := decide (0 < s.readings.brightness) ||
            decide (0 < s.readings.colorBrightness) } := rfl
      rw [only, ← agrees]
  constructor
  · rintro found ⟨available, repeats, differ⟩
    exact differ ((readings repeats).mp (found repeats available))
  · intro shows repeats available
    apply (readings repeats).mpr
    by_contra differ
    exact shows ⟨available, repeats, differ⟩

/-- A vendor frame changes nothing, or is announced. -/
theorem vendor_cases (opcode : Nat) (params : Bytes) :
    (s.outcome quotient (now, .vendor opcode params)).state = s ∨
      (s.outcome quotient (now, .vendor opcode params)).effects = [.dispatchUpdate] := by
  have handled : s.outcome quotient (now, .vendor opcode params) =
      match s.onVendorUpdate now quotient opcode params with
      | .ok handled => handled
      | .error _ => ⟨s, []⟩ := rfl
  rw [handled]
  unfold onVendorUpdate
  by_cases other : opcode ≠ TUYA_VENDOR_OPCODE
  · rw [if_pos other]
    exact .inl rfl
  · rw [if_neg other]
    dsimp only
    by_cases sync : (SigMesh.parseTuyaVendorFrame params).command = SigMesh.TUYA_CMD_TIMESTAMP_SYNC
    · rw [if_pos sync]
      exact .inl rfl
    · rw [if_neg sync]
      cases (SigMesh.parseTuyaVendorFrame params).dps.foldlM (meter quotient) {} with
      -- an integer too large for a `float`: the handler raises before it sets the state
      | error error => exact .inl rfl
      | ok metered =>
        dsimp only [bind, Except.bind, pure, Except.pure, update]
        by_cases brought : metered.powerW.isSome || metered.energyKwh.isSome
        · exact .inr (if_pos brought)
        · exact .inl (if_neg brought)

theorem vendor_announces (opcode : Nat) (params : Bytes) :
    s.Announces quotient (now, .vendor opcode params) := by
  intro differ
  rcases s.vendor_cases now quotient opcode params with same | dispatched
  · rw [same] at differ
    exact absurd rfl differ
  · rw [dispatched]
    rfl

/-- A notification is announced, unless it is a status that conceals its change. -/
theorem announces_iff (timed : Rat × CoordinatorInput) (notification : timed.2.isNotification) :
    s.Announces quotient timed ↔ ∀ status, timed.2 = .status status → ¬s.Conceals status := by
  obtain ⟨now, input⟩ := timed
  cases input with
  | level level => exact ⟨fun _ => nofun, fun _ => s.level_announces now quotient level⟩
  | onoff on => exact ⟨fun _ => nofun, fun _ => s.onoff_announces now quotient on⟩
  | vendor opcode params =>
    exact ⟨fun _ => nofun, fun _ => s.vendor_announces now quotient opcode params⟩
  | status status =>
    rw [status_announces_iff]
    constructor
    · rintro shows _ ⟨⟩
      exact shows
    · intro shows
      exact shows status rfl
  | assumed sent => cases notification
  | composition => cases notification

end TuyaBLEMeshDeviceState

/-- Every notification of a run that changes what entities render dispatches one update exactly
where no status of the run conceals its change. -/
theorem notifications_announced_iff (quotient : FloatQuotient) (s : TuyaBLEMeshDeviceState)
    (inputs : List (Rat × CoordinatorInput)) :
    (∀ before timed, before ++ [timed] <+: inputs → timed.2.isNotification = true →
      (s.afterInputs quotient before).Announces quotient timed) ↔
    ∀ before now status, before ++ [(now, .status status)] <+: inputs →
      ¬(s.afterInputs quotient before).Conceals status := by
  constructor
  · intro announced before now status reached
    exact (TuyaBLEMeshDeviceState.status_announces_iff _ now quotient status).mp
      (announced before _ reached rfl)
  · intro shows before timed reached notification
    apply (TuyaBLEMeshDeviceState.announces_iff _ quotient timed notification).mpr
    rintro status same
    obtain ⟨now, _⟩ := timed
    cases same
    exact shows before now status reached

/-- A light at brightness 50, which is then assumed to be off. -/
def assumedOff : List (Rat × CoordinatorInput) :=
  [(0, .status ⟨0, 50, 0, 0, ⟨0, 0, 0⟩⟩), (1, .assumed { isOn := some false })]

/-- The same status again turns the light on, and nothing is dispatched. -/
theorem assumed_off_conceals :
    ¬∀ (quotient : FloatQuotient) (inputs : List (Rat × CoordinatorInput)) before timed,
      before ++ [timed] <+: inputs → timed.2.isNotification = true →
      (TuyaBLEMeshDeviceState.afterInputs {} quotient before).Announces quotient timed := by
  intro announced
  have dispatched := announced (fun _ _ => none)
    (assumedOff ++ [(2, .status ⟨0, 50, 0, 0, ⟨0, 0, 0⟩⟩)]) assumedOff _ (List.prefix_refl _) rfl
    (by decide)
  revert dispatched
  decide

end TuyaBleMesh
