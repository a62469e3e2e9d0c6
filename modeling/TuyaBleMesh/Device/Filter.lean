import TuyaBleMesh.Device.Isolation

/-!
# Proxy PDUs that carry no access message

`parse_proxy_pdu` reads the SAR field and the PDU type, and `decrypt_network_pdu` the
CTL bit, but the receive path looks at none of them. What a fragment, another PDU
type or a transport control message does to a device.
-/

namespace TuyaBleMesh

/-- A network PDU with the CTL bit set, for all that its header tells. -/
def ControlPdu (suite : CipherSuite) (keys : MeshKeys) (pdu : Bytes) : Prop :=
  ∃ long, ((deobfuscate suite keys pdu long).headD 0).toNat >>> MESH_CTL_SHIFT &&& 1 = 1

/-- A proxy PDU that is not a complete network PDU, or a network PDU that is a transport
control message. -/
def Device.CarriesNoAccess (suite : CipherSuite) (d : Device) (data : Bytes) : Prop :=
  ∃ proxy, parseProxyPdu data = .ok proxy ∧
    (proxy.sar ≠ PROXY_SAR_COMPLETE ∨ proxy.pduType ≠ PROXY_TYPE_NETWORK ∨
      ∃ keys, d.keys = some keys ∧ ControlPdu suite keys proxy.payload)

/-- The buffers, the pending responses and all other attributes are what they were, no
callback is called and no response future resolved. -/
structure Device.Untouched (d : Device) (outcome : Outcome) : Prop where
  device : outcome.device = d
  silent : outcome.observed.effects = []

/-- A segment that leaves the buffers as they are: it repeats what an incomplete buffer
holds, or it finds none and its own does not outlive the call, and nothing has expired. -/
structure Device.Absorbs (d : Device) (clock : Clock) (src dst : Nat) (header : SegmentHeader) :
    Prop where
  live : ∀ key buf, d.segmentBuffers.get? key = some buf → buf.stale clock.sweep = false
  repeated : ∀ buf, d.segmentBuffers.get? (segmentKey src dst header) = some buf →
    buf.segments.get? header.segO = some header.segmentData ∧ buf.complete = false
  passing : d.segmentBuffers.get? (segmentKey src dst header) = none →
    header.segN = 0 ∨ _REASSEMBLY_TIMEOUT < clock.sweep - clock.now

/-- What the layers make of the PDU finds no listener and no use in a buffer. -/
structure Device.Ignores (suite : CipherSuite) (d : Device) (clock : Clock) (data : Bytes) :
    Prop where
  unheard : ∀ sender opcode params,
    d.delivers suite clock data = some (sender, opcode, params) → d.Inert opcode params
  absorbed : ∀ keys src dst header, d.keys = some keys →
    receive suite keys data = .segment src dst header → d.Absorbs clock src dst header

section Segment

variable {d : Device} {clock : Clock} {src dst : Nat} {header : SegmentHeader}

/-- Sweeping the stored segment undoes storing it. -/
theorem swept_stored_iff :
    ((d.stored clock src dst header).segmentBuffers.filter fun _ buf => !buf.stale clock.sweep) =
        d.segmentBuffers ↔
      (∀ key buf, d.segmentBuffers.get? key = some buf → buf.stale clock.sweep = false) ∧
        (d.segmentBuffers.get? (segmentKey src dst header) =
            some (d.storedBuffer src dst clock.now header) ∨
          d.segmentBuffers.get? (segmentKey src dst header) = none ∧
            (d.storedBuffer src dst clock.now header).stale clock.sweep = true) := by
  constructor
  · intro same
    constructor
    · intro key buf found
      rw [← same, OrderedDict.get?_filter, Option.filter_eq_some_iff] at found
      simpa using found.2
    · have own := congrArg (fun buffers => buffers.get? (segmentKey src dst header)) same
      rw [OrderedDict.get?_filter, Device.stored, OrderedDict.get?_set, if_pos rfl] at own
      by_cases stale : (d.storedBuffer src dst clock.now header).stale clock.sweep = true
      · rw [Option.filter_some, if_neg (by simp [stale])] at own
        exact .inr ⟨own.symm, stale⟩
      · rw [Option.filter_some, if_pos (by simpa using stale)] at own
        exact .inl own.symm
  · rintro ⟨live, held | ⟨absent, stale⟩⟩
    · rw [Device.stored, OrderedDict.set_eq_self.mpr held]
      exact OrderedDict.filter_eq_self.mpr fun key buf found => by simp [live key buf found]
    · rw [Device.stored, OrderedDict.filter_set_of_absent absent (by simp [stale])]
      exact OrderedDict.filter_eq_self.mpr fun key buf found => by simp [live key buf found]

/-- Sweeping what is left once the buffer of the segment is popped. -/
theorem swept_popped_iff :
    ((d.popped clock src dst header).segmentBuffers.filter fun _ buf => !buf.stale clock.sweep) =
        d.segmentBuffers ↔
      (∀ key buf, d.segmentBuffers.get? key = some buf → buf.stale clock.sweep = false) ∧
        d.segmentBuffers.get? (segmentKey src dst header) = none := by
  constructor
  · intro same
    constructor
    · intro key buf found
      rw [← same, OrderedDict.get?_filter, Option.filter_eq_some_iff] at found
      simpa using found.2
    · rw [← same, OrderedDict.get?_filter, Device.popped, OrderedDict.get?_erase, if_pos rfl]
      rfl
  · rintro ⟨live, absent⟩
    have restored : (d.popped clock src dst header).segmentBuffers = d.segmentBuffers := by
      rw [Device.popped, Device.stored, OrderedDict.erase,
        OrderedDict.filter_set_of_absent absent (by simp)]
      exact OrderedDict.erase_of_absent absent
    rw [restored]
    exact OrderedDict.filter_eq_self.mpr fun key buf found => by simp [live key buf found]

theorem store_eq_self {buf : ReassemblyBuffer} :
    buf.store header = buf ↔ buf.segments.get? header.segO = some header.segmentData := by
  rw [← OrderedDict.set_eq_self]
  constructor
  · exact fun same => congrArg ReassemblyBuffer.segments same
  · intro same
    rw [ReassemblyBuffer.store, same]

/-- The buffer that a first segment makes is complete when it is the only one. -/
theorem first_complete_iff (absent : d.segmentBuffers.get? (segmentKey src dst header) = none) :
    (d.storedBuffer src dst clock.now header).complete = true ↔ header.segN = 0 := by
  rw [Device.storedBuffer, absent]
  simp [ReassemblyBuffer.receive, ReassemblyBuffer.ofHeader, ReassemblyBuffer.store,
    ReassemblyBuffer.complete, OrderedDict.set, OrderedDict.empty, OrderedDict.keys,
    OrderedDict.size]

/-- The sweep at the end of `_handle_segment` restores the buffers exactly when the segment
is absorbed. -/
theorem swept_iff_absorbs :
    ((if (d.storedBuffer src dst clock.now header).complete then
        (d.popped clock src dst header).segmentBuffers
      else (d.stored clock src dst header).segmentBuffers).filter fun _ buf =>
        !buf.stale clock.sweep) = d.segmentBuffers ↔ d.Absorbs clock src dst header := by
  cases found : d.segmentBuffers.get? (segmentKey src dst header) with
  | none =>
    have complete : (d.storedBuffer src dst clock.now header).complete = true ↔ header.segN = 0 :=
      first_complete_iff found
    have created : (d.storedBuffer src dst clock.now header).createdAt = clock.now := by
      rw [Device.storedBuffer, found]
      rfl
    by_cases single : header.segN = 0
    · rw [if_pos (complete.mpr single), swept_popped_iff]
      constructor
      · rintro ⟨live, absent⟩
        exact ⟨live, (fun buf present => by rw [found] at present; cases present),
          fun _ => .inl single⟩
      · intro absorbs
        exact ⟨absorbs.live, found⟩
    · rw [if_neg (mt complete.mp single), swept_stored_iff]
      constructor
      · rintro ⟨live, held | ⟨absent, stale⟩⟩
        · rw [found] at held
          cases held
        · rw [ReassemblyBuffer.stale, decide_eq_true_eq, created] at stale
          exact ⟨live, (fun buf present => by rw [found] at present; cases present),
            fun _ => .inr stale⟩
      · intro absorbs
        have late := (absorbs.passing found).resolve_left single
        refine ⟨absorbs.live, .inr ⟨found, ?_⟩⟩
        rw [ReassemblyBuffer.stale, decide_eq_true_eq, created]
        exact late
  | some buf =>
    have stored : d.storedBuffer src dst clock.now header = buf.store header := by
      rw [Device.storedBuffer, found]
      rfl
    by_cases complete : (d.storedBuffer src dst clock.now header).complete = true
    · rw [if_pos complete, swept_popped_iff]
      constructor
      · rintro ⟨_, absent⟩
        rw [found] at absent
        cases absent
      · intro absorbs
        -- a repeated segment does not complete a buffer
        obtain ⟨held, incomplete⟩ := absorbs.repeated buf found
        rw [stored, store_eq_self.mpr held, incomplete] at complete
        cases complete
    · rw [if_neg complete, swept_stored_iff]
      constructor
      · rintro ⟨live, held | ⟨absent, _⟩⟩
        · rw [found, stored, Option.some.injEq] at held
          rw [stored, ← held] at complete
          refine ⟨live, fun buf' present => ?_, fun absent => ?_⟩
          · cases found.symm.trans present
            exact ⟨store_eq_self.mp held.symm, Bool.eq_false_of_not_eq_true complete⟩
          · rw [found] at absent
            cases absent
        · rw [found] at absent
          cases absent
      · intro absorbs
        refine ⟨absorbs.live, .inl ?_⟩
        rw [found, stored, store_eq_self.mpr (absorbs.repeated buf found).1]

end Segment

section Notify

variable (suite : CipherSuite) {d : Device} {answers : Answers} {clock : Clock} {data : Bytes}

/-- A device is its buffers and the rest. -/
theorem untouched_iff {outcome : Outcome} :
    d.Untouched outcome ↔
      d.Unaffected outcome.observed ∧ outcome.device.segmentBuffers = d.segmentBuffers := by
  constructor
  · rintro ⟨device, silent⟩
    refine ⟨⟨?_, silent⟩, congrArg Device.segmentBuffers device⟩
    rw [Outcome.observed, device]
  · rintro ⟨⟨rest, silent⟩, buffers⟩
    refine ⟨?_, silent⟩
    have whole : ∀ e : Device, e = { e.withoutBuffers with segmentBuffers := e.segmentBuffers } :=
      fun _ => rfl
    rw [whole outcome.device, whole d, buffers]
    exact congrArg (fun e : Device => { e with segmentBuffers := d.segmentBuffers }) rest

/-- An exception that escapes a call without effects is none of the callbacks'. -/
theorem raised_eq_none {outcome : Outcome} (silent : outcome.observed.effects = [])
    (contained : outcome.raised = none ∨ outcome.CancelledByCallback answers) :
    outcome.raised = none := by
  rcases contained with quiet | ⟨_, call, member, callback, _⟩
  · exact quiet
  · have seen : call ∈ outcome.observed.effects := by
      apply List.mem_filter.mpr
      exact ⟨member, by rw [Effect.buffer?_of_isCallback callback]; rfl⟩
    rw [silent] at seen
    cases seen

/-- Where no segment is received and the buffers stay as they are, a device ignores what nobody
hears. -/
theorem ignores_of_no_segment {same : Prop} (stays : same)
    (other : ∀ keys src dst header, d.keys = some keys →
      receive suite keys data ≠ .segment src dst header) :
    ((∀ sender opcode params, d.delivers suite clock data = some (sender, opcode, params) →
      d.Inert opcode params) ∧ same) ↔ d.Ignores suite clock data := by
  constructor
  · rintro ⟨unheard, _⟩
    refine ⟨unheard, fun keys src dst header present segment => ?_⟩
    exact absurd segment (other keys src dst header present)
  · intro ignores
    exact ⟨ignores.unheard, stays⟩

theorem processNotify_untouched_iff (filed : d.BuffersFiled) :
    d.Untouched (d.processNotify suite answers clock data) ↔ d.Ignores suite clock data := by
  rw [untouched_iff, processNotify_unaffected_iff]
  cases loaded : d.keys with
  | none =>
    have same : (d.processNotify suite answers clock data).device.segmentBuffers =
        d.segmentBuffers := by
      simp only [Device.processNotify, loaded]
    apply ignores_of_no_segment suite same
    intro keys src dst header present
    rw [loaded] at present
    cases present
  | some keys =>
    rw [processNotify_eq suite d answers clock loaded]
    cases received : receive suite keys data with
    | segment src dst header =>
      have decoded : Decoded (.segment src dst header) := by
        rcases receive_decoded suite keys data with decoded | ⟨_, _, _, _, raised⟩
        · rwa [received] at decoded
        · rw [received] at raised
          cases raised
      have contained := act_raised suite loaded filed answers clock decoded
      -- nobody hears the message, so no callback keeps the sweep from running
      have swept : (∀ sender opcode params,
          d.delivers suite clock data = some (sender, opcode, params) → d.Inert opcode params) →
          ((d.act suite answers clock (.segment src dst header)).device.segmentBuffers =
            d.segmentBuffers ↔ d.Absorbs clock src dst header) := by
        intro unheard
        have unaffected : d.Unaffected (d.processNotify suite answers clock data).observed :=
          (processNotify_unaffected_iff suite).mpr unheard
        rw [processNotify_eq suite d answers clock loaded, received] at unaffected
        have quiet := raised_eq_none unaffected.effects contained
        rw [Device.act] at quiet ⊢
        rw [collectSegment_buffers, quiet]
        exact swept_iff_absorbs
      constructor
      · rintro ⟨unheard, same⟩
        refine ⟨unheard, fun keys' src' dst' header' present segment => ?_⟩
        cases loaded.symm.trans present
        cases received.symm.trans segment
        exact (swept unheard).mp same
      · intro ignores
        exact ⟨ignores.unheard,
          (swept ignores.unheard).mpr (ignores.absorbed keys src dst header loaded received)⟩
    | rejected =>
      apply ignores_of_no_segment suite rfl
      intro keys' src' dst' header' present segment
      cases loaded.symm.trans present
      cases received.symm.trans segment
    | raised error =>
      apply ignores_of_no_segment suite rfl
      intro keys' src' dst' header' present segment
      cases loaded.symm.trans present
      cases received.symm.trans segment
    | access src opcode params =>
      obtain ⟨pendingResponses, composition, firmwareVersion, frame⟩ :=
        (dispatched d answers src opcode params).frame
      apply ignores_of_no_segment suite (by rw [Device.act, frame])
      intro keys' src' dst' header' present segment
      cases loaded.symm.trans present
      cases received.symm.trans segment

end Notify

/-- At every step of every run of a device, the notifications without an access message leave
it untouched exactly when it ignores them: nothing of the kind is filtered out. -/
theorem noAccess_untouched_iff (suite : CipherSuite) (targetAddr : Nat)
    (levelTargetAddr : Option Nat) (events : List DeviceEvent) :
    (∀ d answers clock data after,
      (deviceSystem suite).StepOf (Device.new targetAddr levelTargetAddr) events d
        (.notify answers clock data) after →
      d.CarriesNoAccess suite data → d.Untouched (d.processNotify suite answers clock data)) ↔
    ∀ d answers clock data after,
      (deviceSystem suite).StepOf (Device.new targetAddr levelTargetAddr) events d
        (.notify answers clock data) after →
      d.CarriesNoAccess suite data → d.Ignores suite clock data := by
  have untouched : ∀ d answers clock data after,
      (deviceSystem suite).StepOf (Device.new targetAddr levelTargetAddr) events d
        (.notify answers clock data) after →
      (d.Untouched (d.processNotify suite answers clock data) ↔ d.Ignores suite clock data) := by
    rintro d answers clock data after ⟨before, _, _, reached, _⟩
    exact processNotify_untouched_iff suite (reachable_buffersFiled suite reached)
  constructor
  · intro filtered d answers clock data after occurs noAccess
    exact (untouched d answers clock data after occurs).mp
      (filtered d answers clock data after occurs noAccess)
  · intro ignored d answers clock data after occurs noAccess
    exact (untouched d answers clock data after occurs).mpr
      (ignored d answers clock data after occurs noAccess)

/-- The on/off status under another proxy header. -/
def relabelledStatus (header : UInt8) : Bytes := header :: (onoffStatusFrom 0xB0).drop 1

/-- A transport control message: network PDU with CTL set and an authentic 8-byte MIC, whose
transport PDU has the SEG bit. -/
def controlSegment : Bytes :=
  [0x00, 0x2A, 0x85, 0x00, 0x00, 0x01, 0x00, 0xB0, 0x00, 0x01, 0x80, 0x00, 0x00, 0x01, 0x11, 0x00,
    0x00, 0x01, 0x00, 0xB0, 0x00, 0x00, 0x00]

/-- A first fragment and a mesh beacon with the bytes of a status call the callback, and a
control message becomes a reassembly buffer. -/
theorem noAccess_acts : ∃ d,
    (deviceSystem nonceTagSuite).exec (Device.new 0xB0 none)
        [.loadKeys sampleKeys, .register .onoff 0] = some d ∧
      (d.CarriesNoAccess nonceTagSuite (relabelledStatus 0x40) ∧
        (d.processNotify nonceTagSuite (fun _ => none) ⟨0, 0⟩ (relabelledStatus 0x40)).effects =
          [.onoffCallback 0 true]) ∧
      (d.CarriesNoAccess nonceTagSuite (relabelledStatus 0x01) ∧
        (d.processNotify nonceTagSuite (fun _ => none) ⟨0, 0⟩ (relabelledStatus 0x01)).effects =
          [.onoffCallback 0 true]) ∧
      (d.CarriesNoAccess nonceTagSuite controlSegment ∧
        (d.processNotify nonceTagSuite (fun _ => none) ⟨0, 0⟩
          controlSegment).device.segmentBuffers.size = 1 ∧
        d.segmentBuffers.size = 0) := by
  refine ⟨_, rfl, ⟨⟨⟨1, 0, _⟩, rfl, .inl (by decide)⟩, by decide⟩,
    ⟨⟨⟨0, 1, _⟩, rfl, .inr (.inl (by decide))⟩, by decide⟩,
    ⟨⟨⟨0, 0, _⟩, rfl, .inr (.inr ⟨sampleKeys, rfl, by decide, by decide⟩)⟩, by decide +kernel,
      by decide⟩⟩

end TuyaBleMesh
