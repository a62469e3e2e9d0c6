import TuyaBleMesh.Provisioning.Session

/-!
# Segments of provisioning PDUs

The segments of `_wrap_provisioning_pdu`, fed to `_process_notify` in their order: nothing
is signalled before the last one, which signals the PDU.
-/

namespace TuyaBleMesh

/-- The kind of segment `i` of `count`. -/
def sarAt (count i : Nat) : UInt8 :=
  if i = 0 then _SAR_FIRST else if i = count - 1 then _SAR_LAST else _SAR_CONTINUATION

def provisioningSegment (pdu : Bytes) (maxPayload count i : Nat) : Bytes :=
  (sarAt count i <<< 6 ||| 0x03) :: (pdu.drop (i * maxPayload)).take maxPayload

/-- The kind that the header of a segment names. -/
def segmentSar (segment : Bytes) : UInt8 := (segment.headD 0 >>> 6) &&& 0x03

/-- The segments are one Complete segment, or a First and a Last segment with Continuation
segments between them. -/
def Framed (segments : List Bytes) : Prop :=
  segments.map segmentSar = [_SAR_COMPLETE] ∨ ∃ between, segments.map segmentSar =
    [_SAR_FIRST] ++ List.replicate between _SAR_CONTINUATION ++ [_SAR_LAST]

namespace Session

/-- Segments arrive one after the other. -/
def feed {β : Type} (suite : ProvisionerSuite β) (s : Session β) (segments : List (List β)) :
    Session β :=
  segments.foldl (processNotify suite) s

end Session

section Segments

variable (suite : CipherSuite) (ecdh : Bytes → Except String Bytes) {pdu : Bytes} {mtu : Nat}

theorem wrapProvisioningPdu_short (short : pdu.length ≤ mtu - 4) :
    wrapProvisioningPdu (codeSuite suite ecdh) pdu mtu = [0x03 :: pdu] :=
  if_pos short

theorem wrapProvisioningPdu_long (long : mtu - 4 < pdu.length) :
    wrapProvisioningPdu (codeSuite suite ecdh) pdu mtu =
      (List.range ((pdu.length + (mtu - 4) - 1) / (mtu - 4))).map
        (provisioningSegment pdu (mtu - 4) ((pdu.length + (mtu - 4) - 1) / (mtu - 4))) :=
  if_neg (Nat.not_le_of_lt long)

/-! ### How a PDU is cut -/

variable {maxPayload : Nat}

/-- More than one chunk, and the last one is not empty. -/
theorem count_bounds (positive : 0 < maxPayload) (long : maxPayload < pdu.length) :
    2 ≤ (pdu.length + maxPayload - 1) / maxPayload ∧
      ((pdu.length + maxPayload - 1) / maxPayload - 1) * maxPayload < pdu.length ∧
      pdu.length ≤ (pdu.length + maxPayload - 1) / maxPayload * maxPayload := by
  have whole := Nat.div_add_mod (pdu.length + maxPayload - 1) maxPayload
  have rest := Nat.mod_lt (pdu.length + maxPayload - 1) positive
  have two : 2 ≤ (pdu.length + maxPayload - 1) / maxPayload := by
    rw [Nat.le_div_iff_mul_le positive]
    omega
  generalize (pdu.length + maxPayload - 1) / maxPayload = count at whole two ⊢
  obtain ⟨n, rfl⟩ : ∃ n, count = n + 1 := ⟨count - 1, by omega⟩
  rw [Nat.mul_comm, Nat.succ_mul] at whole
  rw [Nat.add_sub_cancel, Nat.succ_mul]
  omega

theorem provisioningSegment_length (pdu : Bytes) (maxPayload count i : Nat) :
    (provisioningSegment pdu maxPayload count i).length ≤ maxPayload + 1 :=
  Nat.succ_le_succ (List.length_take_le _ _)

/-! ### What the receiver makes of a segment -/

variable (s : Session UInt8) (count : Nat)

theorem segmentSar_provisioningSegment (pdu : Bytes) (maxPayload count i : Nat) :
    segmentSar (provisioningSegment pdu maxPayload count i) = sarAt count i := by
  change ((sarAt count i <<< 6 ||| 0x03) >>> 6) &&& 0x03 = sarAt count i
  unfold sarAt
  split
  · rfl
  · split
    · rfl
    · rfl

theorem segmentSar_complete (pdu : Bytes) : segmentSar (0x03 :: pdu) = _SAR_COMPLETE := by
  change ((0x03 : UInt8) >>> 6) &&& 0x03 = 0x00
  decide

theorem process_complete (pdu : Bytes) :
    s.processNotify (codeSuite suite ecdh) (0x03 :: pdu) = s.receive pdu :=
  if_pos (segmentSar_complete pdu)

/-- A segment by its kind. -/
theorem process_segment (i : Nat) :
    s.processNotify (codeSuite suite ecdh) (provisioningSegment pdu maxPayload count i) =
      let chunk := (pdu.drop (i * maxPayload)).take maxPayload
      if i = 0 then { s with rxSarBuffer := chunk }
      else if i = count - 1 then { s.receive (s.rxSarBuffer ++ chunk) with rxSarBuffer := [] }
      else { s with rxSarBuffer := s.rxSarBuffer ++ chunk } := by
  have kind : Session.sarOf (codeSuite suite ecdh) (sarAt count i <<< 6 ||| 0x03) = sarAt count i :=
    segmentSar_provisioningSegment pdu maxPayload count i
  rw [provisioningSegment, Session.processNotify, kind]
  dsimp only
  unfold sarAt
  split
  · rw [if_neg (by decide), if_pos rfl]
  · split
    · rw [if_neg (by decide), if_neg (by decide), if_neg (by decide), if_pos rfl]
    · rw [if_neg (by decide), if_neg (by decide), if_pos rfl]

variable (pdu maxPayload) in
/-- Before the last segment the buffer holds what has come in, and nothing else changes. -/
theorem feed_segments (k : Nat) (some : 0 < k) (more : k < count) :
    s.feed (codeSuite suite ecdh) ((List.range k).map (provisioningSegment pdu maxPayload count)) =
      { s with rxSarBuffer := pdu.take (k * maxPayload) } := by
  induction k with
  | zero => exact absurd some (Nat.lt_irrefl 0)
  | succ k ih =>
    rw [Session.feed, List.range_succ, List.map_append, List.foldl_append, List.map_singleton,
      List.foldl_cons, List.foldl_nil]
    by_cases first : k = 0
    · subst first
      rw [process_segment, if_pos rfl, Nat.zero_add, Nat.one_mul, Nat.zero_mul, List.drop_zero]
      rfl
    · have before := ih (Nat.pos_of_ne_zero first) (Nat.lt_of_succ_lt more)
      rw [Session.feed] at before
      rw [before, process_segment, if_neg first, if_neg (by omega), Nat.succ_mul, List.take_add]

/-- The kinds of the segments in their order. -/
theorem segments_framed (two : 2 ≤ count) :
    Framed ((List.range count).map (provisioningSegment pdu maxPayload count)) := by
  obtain ⟨n, rfl⟩ : ∃ n, count = n + 2 := ⟨count - 2, by omega⟩
  refine .inr ⟨n, ?_⟩
  have kinds : segmentSar ∘ provisioningSegment pdu maxPayload (n + 2) = sarAt (n + 2) :=
    funext (segmentSar_provisioningSegment pdu maxPayload (n + 2))
  have between : ∀ i ∈ List.range n, (sarAt (n + 2) ∘ Nat.succ) i = _SAR_CONTINUATION := by
    intro i member
    have inside := List.mem_range.mp member
    rw [Function.comp_apply, sarAt, if_neg (Nat.succ_ne_zero i), if_neg (by omega)]
  have last : sarAt (n + 2) (n + 1) = _SAR_LAST := by
    rw [sarAt, if_neg (Nat.succ_ne_zero n)]
    exact if_pos rfl
  rw [List.map_map, kinds, List.range_succ, List.map_append, List.range_succ_eq_map, List.map_cons,
    List.map_map, List.map_congr_left between, List.map_const', List.length_range,
    List.map_singleton, last]
  rfl

end Segments

/-- Segments fed in their order: the PDU is signalled once, with the last segment, whatever an
abandoned transfer has left in the partial buffer. -/
theorem provisioning_segments_round_trip (suite : CipherSuite)
    (ecdh : Bytes → Except String Bytes) (pdu : Bytes) (mtu : Nat) (room : 5 ≤ mtu)
    (s : Session UInt8) :
    let segments := wrapProvisioningPdu (codeSuite suite ecdh) pdu mtu
    (∀ k < segments.length, ∃ rxSarBuffer,
      s.feed (codeSuite suite ecdh) (segments.take k) = { s with rxSarBuffer }) ∧
    (∃ rxSarBuffer,
      s.feed (codeSuite suite ecdh) segments = { s.receive pdu with rxSarBuffer }) ∧
    (∀ segment ∈ segments, segment.length ≤ mtu - 3) ∧ Framed segments := by
  intro segments
  by_cases short : pdu.length ≤ mtu - 4
  · have one : segments = [0x03 :: pdu] := wrapProvisioningPdu_short suite ecdh short
    rw [one]
    refine ⟨?_, ⟨s.rxSarBuffer, process_complete suite ecdh s pdu⟩, ?_, .inl ?_⟩
    · intro k first
      have none : k = 0 := Nat.lt_one_iff.mp first
      exact ⟨s.rxSarBuffer, by rw [none]; rfl⟩
    · intro segment member
      rw [List.mem_singleton.mp member, List.length_cons]
      omega
    · rw [List.map_singleton, segmentSar_complete]
  · have long := Nat.lt_of_not_le short
    have positive : 0 < mtu - 4 := by omega
    -- there are at least two segments, and the last one is not empty
    obtain ⟨two, lastChunk, whole⟩ := count_bounds positive long
    have many := wrapProvisioningPdu_long suite ecdh long
    change segments = _ at many
    generalize (pdu.length + (mtu - 4) - 1) / (mtu - 4) = count at two lastChunk whole many
    rw [many]
    refine ⟨?_, ?_, ?_, segments_framed count two⟩
    · intro k more
      rw [List.length_map, List.length_range] at more
      rw [← List.map_take, List.take_range, Nat.min_eq_left (Nat.le_of_lt more)]
      -- the partial buffer is only begun with the first segment
      by_cases none : k = 0
      · exact ⟨s.rxSarBuffer, by rw [none]; rfl⟩
      · exact ⟨_, feed_segments suite ecdh pdu (mtu - 4) s count k (Nat.pos_of_ne_zero none) more⟩
    · obtain ⟨n, rfl⟩ : ∃ n, count = n + 1 := ⟨count - 1, by omega⟩
      have before := feed_segments suite ecdh pdu (mtu - 4) s (n + 1) n (by omega) (by omega)
      rw [Session.feed] at before
      refine ⟨[], ?_⟩
      -- the last segment completes what those before it have put together
      rw [Session.feed, List.range_succ, List.map_append, List.foldl_append, before,
        List.map_singleton, List.foldl_cons, List.foldl_nil, process_segment, if_neg (by omega)]
      dsimp only
      rw [if_pos (Nat.add_sub_cancel n 1).symm, ← List.take_add, ← Nat.succ_mul,
        List.take_of_length_le whole]
      rfl
    · intro segment member
      obtain ⟨i, _, rfl⟩ := List.mem_map.mp member
      have length := provisioningSegment_length pdu (mtu - 4) count i
      omega

/-- Two bytes of an abandoned transfer are left. -/
def interrupted : Session UInt8 := { sampleStart with rxSarBuffer := [0xAA, 0xBB] }

theorem samplePublicKey_received : ∃ rxSarBuffer,
    interrupted.feed sampleSuite (wrapProvisioningPdu sampleSuite samplePublicKey 23) =
      { interrupted.receive samplePublicKey with rxSarBuffer } :=
  (provisioning_segments_round_trip nonceTagSuite (fun _ => .ok (List.replicate 32 0x2A))
    samplePublicKey 23 (by decide) interrupted).2.1

end TuyaBleMesh
