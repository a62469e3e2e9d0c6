import TuyaBleMesh.Device.Layers

/-!
# The life of a device

Everything that changes the attributes of the receive path: connecting, the
configuration requests, the callback registrations, and the notifications. A run
of the device is a run of these events.
-/

namespace TuyaBleMesh

def _OPCODE_APPKEY_STATUS : Nat := 0x8003
def _OPCODE_MODEL_APP_STATUS : Nat := 0x803E

inductive ConfigRequest
  | appKeyAdd
  | modelAppBind
  deriving DecidableEq, Repr

/-- The opcode of the response that the request waits for. -/
def ConfigRequest.statusOpcode : ConfigRequest → Nat
  | .appKeyAdd => _OPCODE_APPKEY_STATUS
  | .modelAppBind => _OPCODE_MODEL_APP_STATUS

inductive CallbackKind
  | onoff
  | level
  | vendor
  | composition
  deriving DecidableEq, Repr

/-- The lists that `register_*_callback` and `unregister_*_callback` change. -/
def Device.updateCallbacks (d : Device) (update : List Nat → List Nat) : CallbackKind → Device
  | .onoff => { d with onoffCallbacks := update d.onoffCallbacks }
  | .level => { d with levelCallbacks := update d.levelCallbacks }
  | .vendor => { d with vendorCallbacks := update d.vendorCallbacks }
  | .composition => { d with compositionCallbacks := update d.compositionCallbacks }

/-- A request registers its response future before it sends anything. -/
def Device.expectStatus (d : Device) (request : ConfigRequest) : Device :=
  let key := (request.statusOpcode, d.correlationId)
  { d with
    correlationId := d.correlationId + 1
    pendingResponses := d.pendingResponses.set key {} }

/-- One thing that happens to a device. -/
inductive DeviceEvent
  /-- `_load_keys`, at the start of `connect`. -/
  | loadKeys (keys : MeshKeys)
  | disconnect
  | expectStatus (request : ConfigRequest)
  /-- The `finally` of a request: answered, timed out or cancelled. -/
  | withdraw (key : Nat × Nat)
  | register (kind : CallbackKind) (callback : Nat)
  | unregister (kind : CallbackKind) (callback : Nat)
  | notify (answers : Answers) (clock : Clock) (data : Bytes)

def Device.after (suite : CipherSuite) (d : Device) : DeviceEvent → Device
  | .loadKeys keys => { d with keys := some keys }
  | .disconnect => { d with keys := none }
  | .expectStatus request => d.expectStatus request
  | .withdraw key => { d with pendingResponses := d.pendingResponses.erase key }
  | .register kind callback => d.updateCallbacks (· ++ [callback]) kind
  | .unregister kind callback => d.updateCallbacks (·.erase callback) kind
  | .notify answers clock data => (d.processNotify suite answers clock data).device

def deviceSystem (suite : CipherSuite) : EventSystem Device DeviceEvent where
  step d event := some (d.after suite event)

/-- `SIGMeshDevice.__init__`. -/
def Device.new (targetAddr : Nat) (levelTargetAddr : Option Nat) : Device where
  targetAddr := targetAddr
  levelTargetAddr := levelTargetAddr.getD targetAddr

/-- A connected device at element address `0xB0`. -/
def sampleDevice : Device := { Device.new 0xB0 none with keys := some sampleKeys }

/-- A GenericOnOff Status (on) with sequence number 1 from the address `src`, under
`sampleKeys` and `nonceTagSuite`. -/
def onoffStatusFrom (src : UInt8) : Bytes :=
  [0x00, 0x2A, 0x05, 0x00, 0x00, 0x01, 0x00, src, 0x00, 0x01, 0x66, 0x82, 0x04, 0x01, 0x00, 0x00,
    0x01, 0x00, 0x00, 0x00, 0x01, 0x00]

/-! ### What dispatch can do -/

/-- Calls of status, vendor and composition callbacks. -/
def Effect.isCallback : Effect → Bool
  | .handedOver _ => false
  | .resolved _ _ => false
  | _ => true

def Effect.buffer? : Effect → Option ReassemblyBuffer
  | .handedOver buf => some buf
  | _ => none

theorem Effect.buffer?_of_isCallback {effect : Effect} (callback : effect.isCallback = true) :
    effect.buffer? = none := by
  cases effect <;> first | rfl | cases callback

/-- The buffers handed to `_complete_reassembly` during a call. -/
def Outcome.handedOver (outcome : Outcome) : List ReassemblyBuffer :=
  outcome.effects.filterMap Effect.buffer?

/-- What one dispatch does: it consumes a response future, or it calls callbacks, perhaps
after storing composition data. -/
inductive Dispatched (d : Device) (answers : Answers) (opcode : Nat) (params : Bytes) :
    Outcome → Prop
  | consumed (key : Nat × Nat) (effects : List Effect) (matched : d.matchedKey opcode = some key)
      (resolved : effects = [] ∨ effects = [.resolved key params]) :
    Dispatched d answers opcode params
      { device := { d with pendingResponses := d.pendingResponses.erase key }, effects }
  | called (composition : Option CompositionData) (firmwareVersion : Option String)
      (calls : List Effect) (unmatched : d.matchedKey opcode = none)
      (callbacks : ∀ call ∈ calls, call.isCallback = true) :
    Dispatched d answers opcode params
      (({ d with composition, firmwareVersion } : Device).callback answers calls)

section Dispatch

variable {d : Device} {answers : Answers} {opcode : Nat} {params : Bytes} {outcome : Outcome}

private theorem isCallback_of_map {make : Nat → Effect} (callbacks : List Nat)
    (is : ∀ n, (make n).isCallback = true) : ∀ call ∈ callbacks.map make, call.isCallback = true := by
  intro call member
  obtain ⟨n, _, rfl⟩ := List.mem_map.mp member
  exact is n

private theorem handleCompositionData_dispatched (unmatched : d.matchedKey opcode = none) :
    Dispatched d answers opcode params (d.handleCompositionData answers params) := by
  unfold Device.handleCompositionData
  cases parsed : parseCompositionData params with
  | error error =>
    obtain ⟨msg, rfl⟩ := parseCompositionData_error parsed
    exact .called d.composition d.firmwareVersion [] unmatched (by simp)
  | ok comp =>
    exact .called _ _ _ unmatched (isCallback_of_map _ fun _ => rfl)

theorem dispatched (d : Device) (answers : Answers) (src opcode : Nat) (params : Bytes) :
    Dispatched d answers opcode params
      (d.dispatchAccessPayloadUnlocked answers src opcode params) := by
  unfold Device.dispatchAccessPayloadUnlocked
  cases matched : d.matchedKey opcode with
  | some key =>
    apply Dispatched.consumed key _ matched
    cases d.pendingResponses.get? key with
    | none => exact .inl rfl
    | some future =>
      by_cases done : future.done = true
      · exact .inl (if_pos done)
      · exact .inr (if_neg done)
  | none =>
    -- every branch but the composition one leaves the attributes alone
    have called : ∀ calls : List Effect, (∀ call ∈ calls, call.isCallback = true) →
        Dispatched d answers opcode params (d.callback answers calls) :=
      fun calls callbacks => .called d.composition d.firmwareVersion calls matched callbacks
    dsimp only
    split
    · exact called _ (isCallback_of_map _ fun _ => rfl)
    · split
      · exact called _ (isCallback_of_map _ fun _ => rfl)
      · split
        · exact called _ (isCallback_of_map _ fun _ => rfl)
        · split
          · exact handleCompositionData_dispatched matched
          · split
            · exact called _ (isCallback_of_map _ fun _ => rfl)
            · exact called [] (by simp)

/-- Only a callback's `CancelledError` ends the loop; until then the calls are made in
order. -/
theorem callAll_spec (answers : Answers) (calls : List Effect) :
    (callAll answers calls).1 <+: calls ∧
      ∀ error, (callAll answers calls).2 = some error →
        error.isException = false ∧ ∃ call ∈ (callAll answers calls).1, answers call = some error := by
  induction calls with
  | nil => simp [callAll]
  | cons call calls ih =>
    obtain ⟨made, raised⟩ := ih
    -- the loop goes on after this call
    have continued : call :: (callAll answers calls).1 <+: call :: calls ∧
        ∀ error, (callAll answers calls).2 = some error → error.isException = false ∧
          ∃ made ∈ call :: (callAll answers calls).1, answers made = some error := by
      refine ⟨List.cons_prefix_cons.mpr ⟨rfl, made⟩, fun error raised' => ?_⟩
      obtain ⟨escapes, call', member, answer⟩ := raised error raised'
      exact ⟨escapes, call', List.mem_cons_of_mem _ member, answer⟩
    cases answer : answers call with
    | none => simpa only [callAll, answer] using continued
    | some error =>
      by_cases exception : error.isException = true
      · simpa only [callAll, answer, exception, if_true] using continued
      · simp only [callAll, answer, exception]
        constructor
        · exact List.cons_prefix_cons.mpr ⟨rfl, List.nil_prefix⟩
        · rintro _ ⟨⟩
          exact ⟨Bool.eq_false_of_not_eq_true exception, call, List.mem_singleton_self _, answer⟩

theorem Dispatched.frame (done : Dispatched d answers opcode params outcome) :
    ∃ pendingResponses composition firmwareVersion, outcome.device =
      { d with pendingResponses, composition, firmwareVersion } := by
  cases done with
  | consumed key effects => exact ⟨_, d.composition, d.firmwareVersion, rfl⟩
  | called composition firmwareVersion calls => exact ⟨d.pendingResponses, _, _, rfl⟩

theorem Dispatched.effect (done : Dispatched d answers opcode params outcome) :
    ∀ effect ∈ outcome.effects, effect.isCallback = true ∨
      ∃ key, d.matchedKey opcode = some key ∧ effect = .resolved key params := by
  cases done with
  | consumed key effects matched resolved =>
    intro effect member
    rcases resolved with rfl | rfl
    · cases member
    · exact .inr ⟨key, matched, List.mem_singleton.mp member⟩
  | called composition firmwareVersion calls unmatched callbacks =>
    intro effect member
    exact .inl (callbacks effect ((callAll_spec answers calls).1.subset member))

theorem Dispatched.handedOver_eq (done : Dispatched d answers opcode params outcome) :
    outcome.handedOver = [] := by
  apply List.filterMap_eq_nil_iff.mpr
  intro effect member
  rcases done.effect effect member with callback | ⟨key, _, rfl⟩
  · exact Effect.buffer?_of_isCallback callback
  · rfl

/-- A cancellation that a callback raised and nothing else. -/
def Outcome.CancelledByCallback (outcome : Outcome) (answers : Answers) : Prop :=
  outcome.raised = some .cancelledError ∧
    ∃ call ∈ outcome.effects, call.isCallback = true ∧ answers call = some .cancelledError

theorem Dispatched.raised (done : Dispatched d answers opcode params outcome) :
    outcome.raised = none ∨ outcome.CancelledByCallback answers := by
  cases done with
  | consumed key effects => exact .inl rfl
  | called composition firmwareVersion calls unmatched callbacks =>
    cases raised : (callAll answers calls).2 with
    | none => exact .inl raised
    | some error =>
      obtain ⟨made, all⟩ := callAll_spec answers calls
      obtain ⟨escapes, call, member, answer⟩ := all error raised
      have cancelled : error = .cancelledError := by
        cases error <;> first | rfl | cases escapes
      subst cancelled
      exact .inr ⟨raised, call, member, callbacks call (made.subset member), answer⟩

end Dispatch

/-! ### What one segment can do -/

section Collect

variable (suite : CipherSuite) (d : Device) (answers : Answers) (clock : Clock) (src dst : Nat)
  (header : SegmentHeader)

/-- The device once the segment is stored. -/
def Device.stored : Device :=
  { d with
    segmentBuffers := d.segmentBuffers.set (segmentKey src dst header)
      (d.storedBuffer src dst clock.now header) }

/-- The device once the buffer of the segment is popped. -/
def Device.popped : Device :=
  { d with
    segmentBuffers := (d.stored clock src dst header).segmentBuffers.erase
      (segmentKey src dst header) }

theorem collectSegment_incomplete
    (incomplete : (d.storedBuffer src dst clock.now header).complete = false) :
    d.collectSegment suite answers clock src dst header =
      { device := (d.stored clock src dst header).cleanStaleBuffers clock.sweep } := by
  simp only [Device.collectSegment, incomplete]
  rfl

/-- A message that is complete is acted on, and then the expired buffers are swept, unless
a callback was cancelled. -/
theorem collectSegment_complete {keys : MeshKeys} (loaded : d.keys = some keys)
    (complete : (d.storedBuffer src dst clock.now header).complete = true) :
    let buf := d.storedBuffer src dst clock.now header
    let completed := (d.popped clock src dst header).act suite answers clock
      (buf.received suite keys)
    d.collectSegment suite answers clock src dst header =
      { completed with
        effects := .handedOver buf :: completed.effects
        device := match completed.raised with
          | some _ => completed.device
          | none => completed.device.cleanStaleBuffers clock.sweep } := by
  -- the segment has just been stored, so `_complete_reassembly` finds its buffer
  have found : (d.stored clock src dst header).segmentBuffers.get? (segmentKey src dst header) =
      some (d.storedBuffer src dst clock.now header) := by
    rw [Device.stored, OrderedDict.get?_set, if_pos rfl]
  have acted : (d.stored clock src dst header).completeReassembly suite answers
      (segmentKey src dst header) = (d.popped clock src dst header).act suite answers clock
        ((d.storedBuffer src dst clock.now header).received suite keys) :=
    completeReassembly_eq suite (d.stored clock src dst header) answers clock loaded found
  rw [Device.stored] at acted
  simp only [Device.collectSegment, complete, if_true, acted]
  split <;> next raised => simp only [raised]

/-- Whatever becomes of the message, `_complete_reassembly` only pops its buffer. -/
theorem completeReassembly_frame (bufKey : BufferKey) :
    (d.completeReassembly suite answers bufKey).device.segmentBuffers =
        d.segmentBuffers.erase bufKey ∧
      (d.completeReassembly suite answers bufKey).handedOver = [] := by
  unfold Device.completeReassembly
  dsimp only
  split
  · split
    · exact ⟨rfl, rfl⟩
    · exact ⟨rfl, rfl⟩
    · split
      · exact ⟨rfl, rfl⟩
      · exact ⟨rfl, rfl⟩
      · next buf _ _ _ _ _ _ _ opcode params _ =>
        have done := dispatched { d with segmentBuffers := d.segmentBuffers.erase bufKey } answers
          buf.src opcode params
        obtain ⟨pendingResponses, composition, firmwareVersion, frame⟩ := done.frame
        exact ⟨by rw [frame], done.handedOver_eq⟩
  · exact ⟨rfl, rfl⟩

/-- The buffers after a segment: its own buffer stored, or popped when it was complete, and
the expired ones swept, unless a callback was cancelled. -/
theorem collectSegment_buffers :
    (d.collectSegment suite answers clock src dst header).device.segmentBuffers =
      let kept := if (d.storedBuffer src dst clock.now header).complete then
        (d.popped clock src dst header).segmentBuffers
        else (d.stored clock src dst header).segmentBuffers
      match (d.collectSegment suite answers clock src dst header).raised with
      | some _ => kept
      | none => kept.filter fun _ buf => !buf.stale clock.sweep := by
  by_cases complete : (d.storedBuffer src dst clock.now header).complete = true
  · have popped := (completeReassembly_frame suite (d.stored clock src dst header) answers
      (segmentKey src dst header)).1
    rw [Device.stored] at popped
    simp only [Device.collectSegment, complete, if_true]
    split <;> next raised => simp only [raised, popped, Device.cleanStaleBuffers, Device.popped,
      Device.stored]
  · rw [collectSegment_incomplete suite d answers clock src dst header
      (Bool.eq_false_of_not_eq_true complete)]
    simp only [complete, Device.cleanStaleBuffers]
    rfl

/-- A buffer after a segment is the segment's own, still incomplete, or was there before. -/
theorem collectSegment_get? {key : BufferKey} {buf : ReassemblyBuffer}
    (found : (d.collectSegment suite answers clock src dst header).device.segmentBuffers.get? key =
      some buf) :
    (key = segmentKey src dst header ∧ buf = d.storedBuffer src dst clock.now header ∧
      buf.complete = false) ∨
      (key ≠ segmentKey src dst header ∧ d.segmentBuffers.get? key = some buf) := by
  rw [collectSegment_buffers] at found
  -- the sweep only takes buffers away
  have kept : (if (d.storedBuffer src dst clock.now header).complete then
      (d.popped clock src dst header).segmentBuffers
      else (d.stored clock src dst header).segmentBuffers).get? key = some buf := by
    dsimp only at found
    split at found
    · exact found
    · rw [OrderedDict.get?_filter, Option.filter_eq_some_iff] at found
      exact found.1
  split at kept
  · rw [Device.popped, OrderedDict.get?_erase, Device.stored, OrderedDict.get?_set] at kept
    by_cases own : key = segmentKey src dst header
    · rw [if_pos own] at kept
      cases kept
    · rw [if_neg own, if_neg own] at kept
      exact .inr ⟨own, kept⟩
  · next incomplete =>
    rw [Device.stored, OrderedDict.get?_set] at kept
    by_cases own : key = segmentKey src dst header
    · rw [if_pos own] at kept
      cases kept
      exact .inl ⟨own, rfl, Bool.eq_false_of_not_eq_true incomplete⟩
    · rw [if_neg own] at kept
      exact .inr ⟨own, kept⟩

private theorem get?_of_swept {kept : OrderedDict BufferKey ReassemblyBuffer} {key : BufferKey}
    {buf : ReassemblyBuffer} (found : kept.get? key = some buf) (raised : Option PyError)
    (sweep : Rat) :
    (match raised with
      | some _ => kept
      | none => kept.filter fun _ buf => !buf.stale sweep).get? key = some buf ∨
      buf.stale sweep = true := by
  cases raised with
  | some error => exact .inl found
  | none =>
    by_cases stale : buf.stale sweep = true
    · exact .inr stale
    · refine .inl ?_
      dsimp only
      rw [OrderedDict.get?_filter, Option.filter_eq_some_iff]
      exact ⟨found, by simpa using stale⟩

/-- Buffers under other keys stay, until they expire. -/
theorem collectSegment_get?_of_ne {key : BufferKey} {buf : ReassemblyBuffer}
    (other : key ≠ segmentKey src dst header) (found : d.segmentBuffers.get? key = some buf) :
    (d.collectSegment suite answers clock src dst header).device.segmentBuffers.get? key =
      some buf ∨ buf.stale clock.sweep = true := by
  rw [collectSegment_buffers]
  apply get?_of_swept
  split
  · rw [Device.popped, OrderedDict.get?_erase, if_neg other, Device.stored, OrderedDict.get?_set,
      if_neg other, found]
  · rw [Device.stored, OrderedDict.get?_set, if_neg other, found]

/-- The buffer of the segment stays while it is incomplete. -/
theorem collectSegment_get?_self
    (incomplete : (d.storedBuffer src dst clock.now header).complete = false) :
    (d.collectSegment suite answers clock src dst header).device.segmentBuffers.get?
        (segmentKey src dst header) = some (d.storedBuffer src dst clock.now header) ∨
      (d.storedBuffer src dst clock.now header).stale clock.sweep = true := by
  rw [collectSegment_buffers]
  apply get?_of_swept
  rw [if_neg (by simp [incomplete]), Device.stored, OrderedDict.get?_set, if_pos rfl]

/-- Only the buffer that a segment completes is handed over. -/
theorem collectSegment_handedOver :
    (d.collectSegment suite answers clock src dst header).handedOver =
      if (d.storedBuffer src dst clock.now header).complete then
        [d.storedBuffer src dst clock.now header]
      else [] := by
  by_cases complete : (d.storedBuffer src dst clock.now header).complete = true
  · have others := (completeReassembly_frame suite (d.stored clock src dst header) answers
      (segmentKey src dst header)).2
    rw [Outcome.handedOver, Device.stored] at others
    simp only [Device.collectSegment, complete, if_true, Outcome.handedOver]
    split <;> simp only [List.filterMap_cons, Effect.buffer?, others]
  · rw [collectSegment_incomplete suite d answers clock src dst header
      (Bool.eq_false_of_not_eq_true complete), if_neg complete]
    rfl

end Collect

end TuyaBleMesh
