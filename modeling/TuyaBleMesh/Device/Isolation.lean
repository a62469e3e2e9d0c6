import TuyaBleMesh.Device.Robustness

/-!
# Whose messages a device acts on

`_dispatch_access_payload` has the source address of a message for the log only. So
what a message does depends on its opcode and parameters and on who listens to
them, and messages of other nodes do the same as the device's own. Reassembly is
where sources are told apart.
-/

namespace TuyaBleMesh

/-! ### Messages and their effects -/

/-- The access message that a notification delivers, with its source: the one in the PDU, or
the one that its segment completes. -/
def Device.delivers (suite : CipherSuite) (d : Device) (clock : Clock) (data : Bytes) :
    Option (Nat × Nat × Bytes) :=
  match d.keys with
  | none => none
  | some keys =>
    match receive suite keys data with
    | .access src opcode params => some (src, opcode, params)
    | .segment src dst header =>
      let buf := d.storedBuffer src dst clock.now header
      if buf.complete then
        match buf.received suite keys with
        | .access sender opcode params => some (sender, opcode, params)
        | _ => none
      else none
    | _ => none

def Device.withoutBuffers (d : Device) : Device := { d with segmentBuffers := .empty }

/-- The part of an outcome that is not about reassembly buffers. -/
structure Observation where
  device : Device
  effects : List Effect
  raised : Option PyError

def Outcome.observed (outcome : Outcome) : Observation where
  device := outcome.device.withoutBuffers
  effects := outcome.effects.filter fun effect => effect.buffer?.isNone
  raised := outcome.raised

/-- No callback is called, no response future is resolved or consumed, and the composition
and all other attributes are what they were. -/
structure Device.Unaffected (d : Device) (seen : Observation) : Prop where
  device : seen.device = d.withoutBuffers
  effects : seen.effects = []

/-- Nobody listens to the message: no future waits for its opcode, and no callback is
registered for what it reports. -/
def Device.Inert (d : Device) (opcode : Nat) (params : Bytes) : Prop :=
  d.matchedKey opcode = none ∧
    if opcode = _OPCODE_ONOFF_STATUS ∧ params ≠ [] then d.onoffCallbacks = []
    else if opcode = _OPCODE_LEVEL_STATUS ∧ params.length ≥ 2 then d.levelCallbacks = []
    else if opcode = OP_LIGHT_LIGHTNESS_STATUS ∧ params.length ≥ 2 then d.levelCallbacks = []
    else if opcode = OP_CONFIG_COMPOSITION_STATUS then
      ∀ comp, parseCompositionData params = .ok comp →
        d.compositionCallbacks = [] ∧ d.composition = some comp ∧
          d.firmwareVersion = some comp.firmwareVersion
    else opcode > 0xFFFF → d.vendorCallbacks = []

section Dispatch

variable {d : Device} {answers : Answers} {src opcode : Nat} {params : Bytes}

theorem callAll_eq_nil (calls : List Effect) : (callAll answers calls).1 = [] ↔ calls = [] := by
  cases calls with
  | nil => simp [callAll]
  | cons call calls =>
    simp only [callAll]
    split
    · split <;> simp
    · simp

/-- Dispatch does not look at the buffers. -/
theorem dispatch_segmentBuffers (segmentBuffers : OrderedDict BufferKey ReassemblyBuffer) :
    (({ d with segmentBuffers } : Device).dispatchAccessPayloadUnlocked answers src opcode
        params).observed =
      (d.dispatchAccessPayloadUnlocked answers src opcode params).observed := by
  unfold Device.dispatchAccessPayloadUnlocked Device.handleCompositionData
  have same : ({ d with segmentBuffers } : Device).matchedKey opcode = d.matchedKey opcode := rfl
  rw [same]
  cases d.matchedKey opcode with
  | some key => rfl
  | none =>
    dsimp only
    split
    · rfl
    · split
      · rfl
      · split
        · rfl
        · split
          · split <;> rfl
          · split <;> rfl

/-- Calling callbacks shows no effect exactly when there are none to call. -/
private theorem callback_effects_eq_nil {make : Nat → Effect} (callbacks : List Nat)
    (is : ∀ n, (make n).isCallback = true) :
    (d.callback answers (callbacks.map make)).observed.effects = [] ↔ callbacks = [] := by
  have all : (callAll answers (callbacks.map make)).1.filter (fun effect => effect.buffer?.isNone) =
      (callAll answers (callbacks.map make)).1 := by
    apply List.filter_eq_self.mpr
    intro effect member
    obtain ⟨n, _, rfl⟩ := List.mem_map.mp ((callAll_spec answers _).1.subset member)
    rw [Effect.buffer?_of_isCallback (is n)]
    rfl
  rw [Outcome.observed, Device.callback]
  dsimp only
  rw [all, callAll_eq_nil, List.map_eq_nil_iff]

private theorem callback_unaffected_iff {make : Nat → Effect} (callbacks : List Nat)
    (is : ∀ n, (make n).isCallback = true) :
    d.Unaffected (d.callback answers (callbacks.map make)).observed ↔ callbacks = [] := by
  constructor
  · intro unaffected
    exact (callback_effects_eq_nil callbacks is).mp unaffected.effects
  · intro none
    exact ⟨rfl, (callback_effects_eq_nil callbacks is).mpr none⟩

private theorem handleCompositionData_unaffected_iff :
    d.Unaffected (d.handleCompositionData answers params).observed ↔
      ∀ comp, parseCompositionData params = .ok comp →
        d.compositionCallbacks = [] ∧ d.composition = some comp ∧
          d.firmwareVersion = some comp.firmwareVersion := by
  unfold Device.handleCompositionData
  cases parsed : parseCompositionData params with
  | error error =>
    obtain ⟨msg, rfl⟩ := parseCompositionData_error parsed
    exact ⟨fun _ comp absent => (by cases absent), fun _ => ⟨rfl, rfl⟩⟩
  | ok comp =>
    constructor
    · -- the new composition is stored before the callbacks are called
      rintro ⟨device, effects⟩ _ ⟨⟩
      have composition := congrArg Device.composition device
      have firmwareVersion := congrArg Device.firmwareVersion device
      exact ⟨(callback_effects_eq_nil _ fun _ => rfl).mp effects, composition.symm,
        firmwareVersion.symm⟩
    · intro known
      obtain ⟨none, composition, firmwareVersion⟩ := known comp rfl
      refine ⟨?_, (callback_effects_eq_nil _ fun _ => rfl).mpr none⟩
      simp only [Outcome.observed, Device.callback, Device.withoutBuffers, ← composition,
        ← firmwareVersion]

/-- A message leaves a device unaffected exactly when nobody listens to it. -/
theorem dispatch_unaffected_iff :
    d.Unaffected (d.dispatchAccessPayloadUnlocked answers src opcode params).observed ↔
      d.Inert opcode params := by
  unfold Device.Inert Device.dispatchAccessPayloadUnlocked
  cases matched : d.matchedKey opcode with
  | some key =>
    -- the future is consumed, resolved or not
    have pending : key ∈ d.pendingResponses.keys := List.mem_of_find?_eq_some matched
    constructor
    · intro unaffected
      have same : d.pendingResponses.erase key = d.pendingResponses :=
        congrArg Device.pendingResponses unaffected.device
      rw [← OrderedDict.get?_isSome_iff, ← same, OrderedDict.get?_erase, if_pos rfl] at pending
      cases pending
    · rintro ⟨absent, _⟩
      cases absent
  | none =>
    simp only [true_and]
    split
    · exact callback_unaffected_iff d.onoffCallbacks fun _ => rfl
    · split
      · exact callback_unaffected_iff d.levelCallbacks fun _ => rfl
      · split
        · exact callback_unaffected_iff d.levelCallbacks fun _ => rfl
        · split
          · exact handleCompositionData_unaffected_iff
          · split
            · next vendor =>
              rw [callback_unaffected_iff d.vendorCallbacks fun _ => rfl]
              exact ⟨fun none _ => none, fun none => none vendor⟩
            · next other =>
              exact ⟨fun _ vendor => absurd vendor other, fun _ => ⟨rfl, rfl⟩⟩

end Dispatch

/-! ### Notifications -/

section Notify

variable (suite : CipherSuite) {d : Device} {answers : Answers} {clock : Clock} {data : Bytes}

/-- The observable part of what a segment does is what its message does. -/
private theorem collectSegment_observed {keys : MeshKeys} (loaded : d.keys = some keys)
    {src dst : Nat} {header : SegmentHeader}
    (complete : (d.storedBuffer src dst clock.now header).complete = true) :
    (d.collectSegment suite answers clock src dst header).observed =
      ((d.popped clock src dst header).act suite answers clock
        ((d.storedBuffer src dst clock.now header).received suite keys)).observed := by
  rw [collectSegment_complete suite d answers clock src dst header loaded complete]
  simp only [Outcome.observed, Effect.buffer?, Option.isNone_some, List.filter_cons]
  split <;> rfl

/-- A notification that delivers a message does what dispatching the message does, whoever
sent it. -/
theorem processNotify_observed {sender : Nat} {opcode : Nat} {params : Bytes}
    (delivers : d.delivers suite clock data = some (sender, opcode, params)) (src : Nat) :
    (d.processNotify suite answers clock data).observed =
      (d.dispatchAccessPayloadUnlocked answers src opcode params).observed := by
  unfold Device.delivers at delivers
  split at delivers
  · cases delivers
  · next keys loaded =>
    rw [processNotify_eq suite d answers clock loaded]
    split at delivers
    · -- the message is in the PDU
      next access =>
      cases delivers
      rw [access]
      rfl
    · next src' dst header segment =>
      rw [segment]
      dsimp only at delivers
      split at delivers
      · -- the message is the one that the segment completes
        next complete =>
        split at delivers
        · next access =>
          cases delivers
          rw [Device.act, collectSegment_observed suite loaded complete, access]
          exact dispatch_segmentBuffers _
        · cases delivers
      · cases delivers
    · cases delivers

/-- A notification that delivers no message affects nothing but the buffers. -/
theorem unaffected_of_delivers_none (delivers : d.delivers suite clock data = none) :
    d.Unaffected (d.processNotify suite answers clock data).observed := by
  cases loaded : d.keys with
  | none =>
    simp only [Device.processNotify, loaded]
    exact ⟨rfl, rfl⟩
  | some keys =>
    rw [processNotify_eq suite d answers clock loaded]
    simp only [Device.delivers, loaded] at delivers
    cases received : receive suite keys data with
    | rejected => exact ⟨rfl, rfl⟩
    | raised error => exact ⟨rfl, rfl⟩
    | access src opcode params =>
      rw [received] at delivers
      cases delivers
    | segment src dst header =>
      rw [received] at delivers
      dsimp only at delivers
      by_cases complete : (d.storedBuffer src dst clock.now header).complete = true
      · rw [if_pos complete] at delivers
        rw [Device.act, collectSegment_observed suite loaded complete]
        cases message : (d.storedBuffer src dst clock.now header).received suite keys with
        | rejected => exact ⟨rfl, rfl⟩
        | raised error => exact ⟨rfl, rfl⟩
        | access sender opcode params =>
          rw [message] at delivers
          cases delivers
        | segment src dst header =>
          exact absurd message (ReassemblyBuffer.received_ne_segment _ suite keys _ _ _)
      · rw [Device.act, collectSegment_incomplete suite d answers clock src dst header
          (Bool.eq_false_of_not_eq_true complete)]
        exact ⟨rfl, rfl⟩

theorem processNotify_unaffected_iff :
    d.Unaffected (d.processNotify suite answers clock data).observed ↔
      ∀ sender opcode params, d.delivers suite clock data = some (sender, opcode, params) →
        d.Inert opcode params := by
  cases delivers : d.delivers suite clock data with
  | none =>
    constructor
    · intro _ sender opcode params absent
      cases absent
    · intro _
      exact unaffected_of_delivers_none suite delivers
  | some message =>
    obtain ⟨sender, opcode, params⟩ := message
    rw [processNotify_observed suite delivers sender, dispatch_unaffected_iff]
    constructor
    · rintro inert _ _ _ ⟨⟩
      exact inert
    · intro all
      exact all sender opcode params rfl

/-- A message is made of segments of its own source. -/
theorem handedOver_src {keys : MeshKeys} (filed : d.BuffersFiled) (loaded : d.keys = some keys)
    {src dst : Nat} {header : SegmentHeader}
    (segment : receive suite keys data = .segment src dst header) :
    ∀ buf ∈ (d.processNotify suite answers clock data).handedOver, buf.src = src := by
  have decoded : Decoded (.segment src dst header) := by
    rcases receive_decoded suite keys data with decoded | ⟨_, _, _, _, raised⟩
    · rwa [segment] at decoded
    · rw [segment] at raised
      cases raised
  have stored := (storedBuffer_filed filed decoded clock.now).key_eq
  intro buf member
  rw [processNotify_eq suite d answers clock loaded, segment, Device.act,
    collectSegment_handedOver] at member
  split at member
  · rw [List.mem_singleton] at member
    rw [member]
    exact (Prod.mk.inj stored).1.symm
  · cases member

/-- Segments of one source leave the buffers of the others alone, but for the sweep. -/
theorem collectSegment_other_source {src dst : Nat} {header : SegmentHeader} {key : BufferKey}
    (other : key.1 ≠ src) :
    (d.collectSegment suite answers clock src dst header).device.segmentBuffers.get? key =
        d.segmentBuffers.get? key ∨
      (d.collectSegment suite answers clock src dst header).device.segmentBuffers.get? key = none ∧
        ∃ buf, d.segmentBuffers.get? key = some buf ∧ buf.stale clock.sweep = true := by
  have different : key ≠ segmentKey src dst header := by
    rintro rfl
    exact other rfl
  have before : ∀ buf,
      (d.collectSegment suite answers clock src dst header).device.segmentBuffers.get? key =
        some buf → d.segmentBuffers.get? key = some buf := by
    intro buf found
    rcases collectSegment_get? suite d answers clock src dst header found with
      ⟨own, _⟩ | ⟨_, before⟩
    · exact absurd own different
    · exact before
  cases after : (d.collectSegment suite answers clock src dst header).device.segmentBuffers.get?
      key with
  | some buf => exact .inl (before buf after).symm
  | none =>
    cases found : d.segmentBuffers.get? key with
    | none => exact .inl rfl
    | some buf =>
      rcases collectSegment_get?_of_ne suite d answers clock src dst header different found with
        kept | stale
      · rw [after] at kept
        cases kept
      · exact .inr ⟨rfl, buf, rfl, stale⟩

end Notify

/-- In every reachable state and for every notification, the source of a message plays no
part in what it does: it affects the device exactly when somebody listens to its opcode and
parameters, and from another source it does the same. Only reassembly tells the sources
apart. -/
theorem source_plays_no_part (suite : CipherSuite) {targetAddr : Nat}
    {levelTargetAddr : Option Nat} {events : List DeviceEvent} {d : Device}
    (reached : (deviceSystem suite).exec (Device.new targetAddr levelTargetAddr) events = some d)
    (answers : Answers) (clock : Clock) (data : Bytes) :
    (d.Unaffected (d.processNotify suite answers clock data).observed ↔
      ∀ sender opcode params, d.delivers suite clock data = some (sender, opcode, params) →
        d.Inert opcode params) ∧
    (∀ data' sender sender' opcode params,
      d.delivers suite clock data = some (sender, opcode, params) →
      d.delivers suite clock data' = some (sender', opcode, params) →
        (d.processNotify suite answers clock data).observed =
          (d.processNotify suite answers clock data').observed) ∧
    ∀ keys src dst header, d.keys = some keys →
      receive suite keys data = .segment src dst header →
        (∀ buf ∈ (d.processNotify suite answers clock data).handedOver, buf.src = src) ∧
        ∀ key : BufferKey, key.1 ≠ src →
          let after := (d.processNotify suite answers clock data).device
          after.segmentBuffers.get? key = d.segmentBuffers.get? key ∨
            after.segmentBuffers.get? key = none ∧
              ∃ buf, d.segmentBuffers.get? key = some buf ∧ buf.stale clock.sweep = true := by
  refine ⟨processNotify_unaffected_iff suite, ?_, ?_⟩
  · intro data' sender sender' opcode params first second
    rw [processNotify_observed suite first sender, processNotify_observed suite second sender]
  · intro keys src dst header loaded segment
    refine ⟨handedOver_src suite (reachable_buffersFiled suite reached) loaded segment, ?_⟩
    intro key other
    rw [processNotify_eq suite d answers clock loaded, segment]
    exact collectSegment_other_source suite other

/-- A status of another node is not heard as long as nobody listens. -/
theorem foreignStatus_unheard : sampleDevice.Unaffected
    (sampleDevice.processNotify nonceTagSuite (fun _ => none) ⟨0, 0⟩
      (onoffStatusFrom 0xC0)).observed := by
  have reached : (deviceSystem nonceTagSuite).exec (Device.new 0xB0 none)
      [.loadKeys sampleKeys] = some sampleDevice := rfl
  apply (source_plays_no_part nonceTagSuite reached (fun _ => none) ⟨0, 0⟩
    (onoffStatusFrom 0xC0)).1.mpr
  intro sender opcode params delivers
  have status : sampleDevice.delivers nonceTagSuite ⟨0, 0⟩ (onoffStatusFrom 0xC0) =
      some (0xC0, 0x8204, [0x01]) := by decide
  rw [status] at delivers
  cases delivers
  exact ⟨rfl, rfl⟩

/-- The status of the node `0xC0` calls the on/off callback of the device at `0xB0`. -/
theorem foreignStatus_fires : ∃ d,
    (deviceSystem nonceTagSuite).exec (Device.new 0xB0 none)
        [.loadKeys sampleKeys, .register .onoff 0] = some d ∧
      d.targetAddr = 0xB0 ∧ d.levelTargetAddr = 0xB0 ∧
      receive nonceTagSuite sampleKeys (onoffStatusFrom 0xC0) = .access 0xC0 0x8204 [0x01] ∧
      (d.processNotify nonceTagSuite (fun _ => none) ⟨0, 0⟩ (onoffStatusFrom 0xC0)).effects =
        [.onoffCallback 0 true] :=
  ⟨_, rfl, rfl, rfl, by decide, by decide⟩

end TuyaBleMesh
