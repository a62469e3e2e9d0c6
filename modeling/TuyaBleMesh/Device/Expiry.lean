import TuyaBleMesh.Device.Reassembly

/-!
# Segments of different times

`_handle_segment` sweeps the expired buffers after it has looked its own buffer up
and filled it. When the segments of one message stay within the timeout.
-/

namespace TuyaBleMesh

/-- When the segment with this index was last received under this key. -/
def lastReceived (history : List (Fragment MessageId Bytes)) (key : BufferKey) (i : Nat) :
    Option Rat :=
  (history.find? fun f => f.message.key = key ∧ f.index = i).map Fragment.time

theorem lastReceived_cons (f : Fragment MessageId Bytes)
    (history : List (Fragment MessageId Bytes)) (key : BufferKey) (i : Nat) :
    lastReceived (f :: history) key i =
      if f.message.key = key ∧ f.index = i then some f.time else lastReceived history key i := by
  rw [lastReceived, List.find?_cons]
  by_cases own : f.message.key = key ∧ f.index = i
  · simp [own]
  · rw [if_neg own, decide_eq_false own]
    rfl

/-- What one call of `_handle_segment` promises about time. -/
structure Reception.TimelySegment (suite : CipherSuite) (s : Reception) (answers : Answers)
    (clock : Clock) (src dst : Nat) (header : SegmentHeader) : Prop where
  /-- A message handed over has no two segments received more than the timeout apart. -/
  together : ∀ buf ∈ (s.device.collectSegment suite answers clock src dst header).handedOver,
    ∀ i ∈ buf.segments.keys, ∀ j ∈ buf.segments.keys, ∃ ti tj,
      let history := segmentFragment clock.now src dst header :: s.history
      lastReceived history (segmentKey src dst header) i = some ti ∧
        lastReceived history (segmentKey src dst header) j = some tj ∧ ti - tj ≤ _REASSEMBLY_TIMEOUT
  /-- A segment whose buffer has expired starts a fresh one. -/
  fresh : ∀ buf, s.device.segmentBuffers.get? (segmentKey src dst header) = some buf →
    _REASSEMBLY_TIMEOUT < clock.now - buf.createdAt →
      s.device.storedBuffer src dst clock.now header =
        (ReassemblyBuffer.ofHeader src dst clock.now header).store header

def Reception.Timely (suite : CipherSuite) (s : Reception) : SegmentEvent → Prop
  | .handleSegment src dst transportPdu answers clock =>
    ∀ header, parseSegmentHeader transportPdu = .ok header →
      s.TimelySegment suite answers clock src dst header
  | .elsewhere _ => True

/-- A segment does not find an expired buffer under its key. -/
def Reception.FindsNoneExpired (s : Reception) : SegmentEvent → Prop
  | .handleSegment src dst transportPdu _ clock =>
    ∀ header, parseSegmentHeader transportPdu = .ok header →
      ∀ buf, s.device.segmentBuffers.get? (segmentKey src dst header) = some buf →
        clock.now - buf.createdAt ≤ _REASSEMBLY_TIMEOUT
  | .elsewhere _ => True

/-- Every segment in a buffer was received during the timeout of the buffer. -/
structure ReassemblyBuffer.Timed (buf : ReassemblyBuffer) (key : BufferKey)
    (history : List (Fragment MessageId Bytes)) (now : Rat) : Prop where
  created : buf.createdAt ≤ now
  received : ∀ i ∈ buf.segments.keys, ∃ t, lastReceived history key i = some t ∧
    buf.createdAt ≤ t ∧ t - buf.createdAt ≤ _REASSEMBLY_TIMEOUT

def Reception.Timed (s : Reception) : Prop :=
  ∀ key buf, s.device.segmentBuffers.get? key = some buf → buf.Timed key s.history s.now

section Step

variable {s s' : Reception} {clock : Clock} {src dst : Nat} {header : SegmentHeader}

/-- The buffer of a segment that finds no expired one. -/
theorem Reception.Timed.storedBuffer (timed : s.Timed) (now_le : s.now ≤ clock.now)
    (live : ∀ buf, s.device.segmentBuffers.get? (segmentKey src dst header) = some buf →
      clock.now - buf.createdAt ≤ _REASSEMBLY_TIMEOUT) :
    (s.device.storedBuffer src dst clock.now header).Timed (segmentKey src dst header)
      (segmentFragment clock.now src dst header :: s.history) clock.now := by
  have stored : ∀ buf : ReassemblyBuffer, buf.createdAt ≤ clock.now →
      clock.now - buf.createdAt ≤ _REASSEMBLY_TIMEOUT →
      (∀ i ∈ buf.segments.keys, ∃ t, lastReceived s.history (segmentKey src dst header) i = some t ∧
        buf.createdAt ≤ t ∧ t - buf.createdAt ≤ _REASSEMBLY_TIMEOUT) →
      (buf.store header).Timed (segmentKey src dst header)
        (segmentFragment clock.now src dst header :: s.history) clock.now := by
    intro buf created within received
    refine ⟨created, fun i member => ?_⟩
    rw [lastReceived_cons]
    -- the segment itself was received now, the others as before
    by_cases same : header.segO = i
    · exact ⟨clock.now, if_pos ⟨rfl, same⟩, created, within⟩
    · rw [if_neg fun own => same own.2]
      rcases OrderedDict.mem_keys_set.mp member with own | before
      · exact absurd own.symm same
      · exact received i before
  unfold Device.storedBuffer ReassemblyBuffer.receive
  cases found : s.device.segmentBuffers.get? (segmentKey src dst header) with
  | some buf =>
    -- the buffer found is not expired, so this segment is within its timeout
    have before := timed _ buf found
    exact stored buf (le_trans before.created now_le) (live buf found) before.received
  | none =>
    apply stored (ReassemblyBuffer.ofHeader src dst clock.now header)
    · exact le_refl clock.now
    · rw [ReassemblyBuffer.ofHeader, sub_self]
      exact timeout_nonneg
    · intro i member
      cases member

theorem Reception.Timed.collect (suite : CipherSuite) (answers : Answers) (timed : s.Timed)
    (now_le : s.now ≤ clock.now) (now_le_sweep : clock.now ≤ clock.sweep)
    (live : ∀ buf, s.device.segmentBuffers.get? (segmentKey src dst header) = some buf →
      clock.now - buf.createdAt ≤ _REASSEMBLY_TIMEOUT) :
    (s.collect suite answers clock src dst header).Timed := by
  intro key buf found
  rcases collectSegment_get? suite s.device answers clock src dst header found with
    ⟨rfl, rfl, _⟩ | ⟨other, before⟩
  · obtain ⟨created, received⟩ := timed.storedBuffer now_le live
    exact ⟨le_trans created now_le_sweep, received⟩
  · -- the segment came under another key
    obtain ⟨created, received⟩ := timed key buf before
    refine ⟨le_trans created (le_trans now_le now_le_sweep), fun i member => ?_⟩
    show ∃ t, lastReceived (segmentFragment clock.now src dst header :: s.history) key i = some t ∧ _
    rw [lastReceived_cons, if_neg fun own => other own.1.symm]
    exact received i member

theorem Reception.Timed.step {suite : CipherSuite} {event : SegmentEvent} (timed : s.Timed)
    (live : s.FindsNoneExpired event) (stepped : (receptionSystem suite).step s event = some s') :
    s'.Timed := by
  rcases reception_step_cases stepped with ⟨buffers, now_le, history, _⟩ |
    ⟨src, dst, transportPdu, answers, clock, header, rfl, parsed, now_le, now_le_sweep, rfl⟩
  · intro key buf found
    rw [buffers] at found
    obtain ⟨created, received⟩ := timed key buf found
    rw [history]
    exact ⟨le_trans created now_le, received⟩
  · exact timed.collect suite answers now_le now_le_sweep (live header parsed)

theorem Reception.Timed.timely {suite : CipherSuite} {event : SegmentEvent} (timed : s.Timed)
    (live : s.FindsNoneExpired event) (stepped : (receptionSystem suite).step s event = some s') :
    s.Timely suite event := by
  cases event with
  | elsewhere device => trivial
  | handleSegment src dst transportPdu answers clock =>
    intro header parsed
    have inOrder : s.now ≤ clock.now := by
      by_contra late
      simp only [receptionSystem, late, false_and, if_false] at stepped
      cases stepped
    have live' := live header parsed
    obtain ⟨_, received⟩ := timed.storedBuffer inOrder live'
    constructor
    · intro buf member i hi j hj
      rw [collectSegment_handedOver] at member
      split at member
      · rw [List.mem_singleton] at member
        subst member
        -- both lie in the timeout that starts with the buffer
        obtain ⟨ti, last_i, _, within_i⟩ := received i hi
        obtain ⟨tj, last_j, after_j, _⟩ := received j hj
        exact ⟨ti, tj, last_i, last_j, by linarith⟩
      · cases member
    · intro buf found expired
      exact absurd (live' buf found) (not_le.mpr expired)

/-- The segment that finds an expired buffer is added to it. -/
theorem Reception.Timely.findsNoneExpired {suite : CipherSuite} {event : SegmentEvent}
    (timely : s.Timely suite event) : s.FindsNoneExpired event := by
  cases event with
  | elsewhere device => trivial
  | handleSegment src dst transportPdu answers clock =>
    intro header parsed buf found
    by_contra expired
    rw [not_le] at expired
    have fresh := (timely header parsed).fresh buf found expired
    -- the segment is stored into the expired buffer, which keeps its time
    have kept : (s.device.storedBuffer src dst clock.now header).createdAt = buf.createdAt := by
      rw [Device.storedBuffer, found]
      rfl
    have created : buf.createdAt = clock.now := by
      rw [← kept, fresh]
      rfl
    rw [created, sub_self] at expired
    exact absurd expired (not_lt.mpr timeout_nonneg)

end Step

/-- Over any run: the segments of a message handed over are never more than the timeout
apart, and a segment whose buffer has expired starts a fresh one, exactly when no segment
comes before the sweep that takes its expired buffer away. -/
theorem segments_together_iff (suite : CipherSuite) {d : Device} {now : Rat}
    {events : List SegmentEvent} {s : Reception}
    (ran : (receptionSystem suite).exec (.start d now) events = some s) :
    (receptionSystem suite).Guarded (Reception.Timely suite) (.start d now) events ↔
      (receptionSystem suite).Guarded Reception.FindsNoneExpired (.start d now) events := by
  constructor
  · intro timely
    exact EventSystem.Guarded.weaken _ (fun _ _ _ timely => timely.findsNoneExpired) timely
  · intro live
    apply EventSystem.Guarded.along _ Reception.Timed _ _ _ ran live
    · intro s event s' timed live stepped
      exact timed.step live stepped
    · intro s event s' timed live stepped
      exact timed.timely live stepped
    · intro key buf found
      cases found

instance (s : Reception) : ∀ event, Decidable (s.FindsNoneExpired event)
  | .handleSegment src dst transportPdu _ clock =>
    have : DecidablePred fun header : SegmentHeader =>
        ∀ buf, s.device.segmentBuffers.get? (segmentKey src dst header) = some buf →
          clock.now - buf.createdAt ≤ _REASSEMBLY_TIMEOUT := fun header =>
      inferInstanceAs (Decidable
        (∀ buf ∈ s.device.segmentBuffers.get? (segmentKey src dst header),
          clock.now - buf.createdAt ≤ _REASSEMBLY_TIMEOUT))
    decidableForallParsed transportPdu _
  | .elsewhere _ => isTrue trivial

theorem interleavedSegments_together : (receptionSystem nonceTagSuite).Guarded
    (Reception.Timely nonceTagSuite) (.start sampleDevice 0) interleavedSegments := by
  have ran : ∃ s, (receptionSystem nonceTagSuite).exec (.start sampleDevice 0)
      interleavedSegments = some s := ⟨_, rfl⟩
  obtain ⟨s, ran⟩ := ran
  exact (segments_together_iff nonceTagSuite ran).mpr (by decide +kernel)

/-- Eleven seconds after the first segment its expired buffer takes the second one, and the
two are handed over together. -/
theorem expiredBuffer_completes : ∃ s,
    (receptionSystem nonceTagSuite).exec (.start sampleDevice 0)
        [sampleSegment 0xB0 1 0 0, sampleSegment 0xB0 1 1 11] = some s ∧
      s.handed.map (fun buf => buf.segments.keys) = [[0, 1]] ∧
      lastReceived s.history (0xB0, 1, 7, 0x26) 0 = some 0 ∧
      lastReceived s.history (0xB0, 1, 7, 0x26) 1 = some 11 ∧
      ¬ (receptionSystem nonceTagSuite).Guarded (Reception.Timely nonceTagSuite)
        (.start sampleDevice 0) [sampleSegment 0xB0 1 0 0, sampleSegment 0xB0 1 1 11] := by
  refine ⟨_, rfl, by decide +kernel, by decide +kernel, by decide +kernel, ?_⟩
  intro timely
  have live : (receptionSystem nonceTagSuite).Guarded Reception.FindsNoneExpired
      (.start sampleDevice 0) [sampleSegment 0xB0 1 0 0, sampleSegment 0xB0 1 1 11] :=
    EventSystem.Guarded.weaken _ (fun _ _ _ timely => timely.findsNoneExpired) timely
  exact absurd live (by decide +kernel)

end TuyaBleMesh
