import TuyaBleMesh.Mesh.Messages

/-!
# The layout of segments

What `make_access_segmented` makes and `parse_segment_header` reads of it. The indexes have
five bits each and nothing checks that the segments are at most 32.
-/

namespace TuyaBleMesh

/-! ### What the steps accept and raise -/

theorem byteOf_eq_ok {v : Nat} {byte : UInt8} (made : byteOf v = .ok byte) : v < 256 := by
  unfold byteOf at made
  split at made
  · next fits => exact fits
  · cases made

theorem packBE_eq_ok {n v : Nat} {bytes : Bytes} (made : packBE n v = .ok bytes) : v < 256 ^ n := by
  unfold packBE at made
  split at made
  · next fits => exact fits
  · cases made

theorem validateKey_eq_ok {key : Bytes} {block : Block} (valid : validateKey key = .ok block) :
    key.length = _AES_BLOCK_SIZE := by
  unfold validateKey at valid
  split at valid
  · next length => exact length
  · cases valid

/-- What Python's conversions to bytes and the encryption raise. -/
def isEncodingError : PyError → Bool
  | .valueError => true
  | .structError => true
  | .cryptoError _ => true
  | _ => false

theorem byteOf_errors (v : Nat) : OnlyRaises isEncodingError (byteOf v) :=
  .ite (fun _ => .ok _) fun _ => .error rfl

theorem packBE_errors (n v : Nat) : OnlyRaises isEncodingError (packBE n v) :=
  .ite (fun _ => .ok _) fun _ => .error rfl

theorem makeAppNonce_encoding (akf szmic seq src dst ivIndex : Nat) :
    OnlyRaises isEncodingError (makeAppNonce akf szmic seq src dst ivIndex) :=
  .bind (byteOf_errors _) fun _ _ => .bind (packBE_errors _ _) fun _ _ =>
    .bind (packBE_errors _ _) fun _ _ => .bind (packBE_errors _ _) fun _ _ =>
      .bind (packBE_errors _ _) fun _ _ => .ok _

theorem meshAesCcmEncrypt_encoding (suite : CipherSuite) (key nonce plaintext : Bytes) (micLen : Nat) :
    OnlyRaises isEncodingError (meshAesCcmEncrypt suite key nonce plaintext micLen) := by
  refine .bind ?_ fun _ _ => .ite (fun _ => .ok _) fun _ => .error rfl
  unfold validateKey
  split
  · exact .ok _
  · exact .error rfl

theorem makeSegment_encoding (upperTransport : Bytes) (akf aid szmic seqStart segN segO : Nat) :
    OnlyRaises isEncodingError (makeSegment upperTransport akf aid szmic seqStart segN segO) :=
  .bind (byteOf_errors _) fun _ _ => .bind (packBE_errors _ _) fun _ _ => .ok _

/-- The first byte of a segment, for every field that it has room for. -/
theorem segmentHdr_lt {akf : Nat} (akf_le : akf ≤ 3) (aid : Nat) :
    MESH_SEG_BIT ||| (akf <<< MESH_AKF_SHIFT) ||| (aid &&& MESH_AID_MASK) < 2 ^ 8 := by
  have key : akf <<< MESH_AKF_SHIFT < 2 ^ 8 := by
    rw [Nat.shiftLeft_eq, MESH_AKF_SHIFT]
    omega
  have id : aid &&& MESH_AID_MASK < 2 ^ 8 := Nat.lt_of_le_of_lt Nat.and_le_right (by decide)
  exact Nat.or_lt_two_pow (Nat.or_lt_two_pow (by decide) key) id

theorem akf_le_of_hdr {akf aid : Nat}
    (fits : MESH_SEG_BIT ||| (akf <<< MESH_AKF_SHIFT) ||| (aid &&& MESH_AID_MASK) < 256) : akf ≤ 3 := by
  have part : akf <<< MESH_AKF_SHIFT < 256 :=
    Nat.lt_of_le_of_lt (Nat.le_trans Nat.right_le_or Nat.left_le_or) fits
  rw [Nat.shiftLeft_eq, MESH_AKF_SHIFT] at part
  omega

namespace Transmission

variable (suite : CipherSuite) (ivIndex : Nat) (t : Transmission)

/-- The call of `make_access_segmented`. -/
def make : Except PyError (List (Nat × Bytes)) :=
  makeAccessSegmented suite t.key t.src t.dst t.seqStart ivIndex t.payload t.akf t.aid t.szmic

/-- The encrypted upper transport PDU, where there is one. -/
def encryptedUpper : Except PyError Bytes := do
  let nonce ← makeAppNonce t.akf t.szmic t.seqStart t.src t.dst ivIndex
  meshAesCcmEncrypt suite t.key nonce t.payload t.micLen

/-- The PDUs have consecutive sequence numbers, headers that are read back, and parts of the
upper transport PDU that make it up. -/
def LaidOut (produced : List (Nat × Bytes)) : Prop :=
  ∃ chunks : List Bytes, t.encryptedUpper suite ivIndex = .ok chunks.flatten ∧
    produced.length = chunks.length ∧
    ∀ i chunk, chunks[i]? = some chunk → chunk ≠ [] ∧ chunk.length ≤ 12 ∧
      ∃ pdu, produced[i]? = some (t.seqStart + i, pdu) ∧ parseSegmentHeader pdu = .ok {
        akf := t.akf
        aid := t.aid
        szmic := t.szmic
        seqZero := t.seqStart % 2 ^ 13
        segO := i
        segN := produced.length - 1
        segmentData := chunk }

/-- What is made is laid out, and what needs more indexes than there are is rejected. -/
structure Segmented : Prop where
  laidOut : ∀ produced, t.make suite ivIndex = .ok produced → t.LaidOut suite ivIndex produced
  rejected : 32 < t.segments → ∃ msg, t.make suite ivIndex = .error (.protocolError msg)

/-- The key and what goes into the nonce have the sizes that there is room for. -/
structure Encryptable : Prop where
  key_length : t.key.length = _AES_BLOCK_SIZE
  szmic_le : t.szmic ≤ 1
  seqStart_lt : t.seqStart < 256 ^ 4
  src_lt : t.src < 256 ^ 2
  dst_lt : t.dst < 256 ^ 2
  ivIndex_lt : ivIndex < 256 ^ 4

/-- So has the first byte of the segments, where the AKF may also lie on the SEG bit. -/
structure Admissible : Prop extends t.Encryptable ivIndex where
  akf_le : t.akf ≤ 3

variable {suite ivIndex t}

theorem make_encoding : OnlyRaises isEncodingError (t.make suite ivIndex) :=
  .bind (makeAppNonce_encoding _ _ _ _ _ _) fun _ _ =>
    .bind (meshAesCcmEncrypt_encoding _ _ _ _ _) fun _ _ =>
      .mapM fun _ _ => makeSegment_encoding _ _ _ _ _ _ _

/-- Where the upper transport PDU is encrypted, the segments are made of it one by one. -/
theorem make_eq {upper : Bytes} (encrypted : t.encryptedUpper suite ivIndex = .ok upper) :
    t.make suite ivIndex =
      (List.range ((upper.length + 11) / 12)).mapM
        (makeSegment upper t.akf t.aid t.szmic t.seqStart ((upper.length + 11) / 12 - 1)) := by
  obtain ⟨nonce, made, sealed⟩ := bind_eq_ok.mp encrypted
  simp only [make, makeAccessSegmented, made]
  change (meshAesCcmEncrypt suite t.key nonce t.payload t.micLen >>= _) = _
  rw [sealed]
  rfl

variable (suite) in
theorem encryptedUpper_ok [LawfulCcm suite] (fits : t.Encryptable ivIndex) :
    ∃ upper, t.encryptedUpper suite ivIndex = .ok upper ∧
      upper.length = t.payload.length + t.micLen := by
  have parameters := appNonce_parameters t.micLen_eq t.akf t.szmic t.seqStart t.src t.dst ivIndex
  have length : (suite.ccmEncrypt ⟨t.key, fits.key_length⟩ t.micLen
      (appNonce t.akf t.szmic t.seqStart t.src t.dst ivIndex) t.payload).length =
      t.payload.length + t.micLen :=
    LawfulCcm.encrypt_length _ _ _ _ parameters
  refine ⟨_, ?_, length⟩
  rw [encryptedUpper, makeAppNonce_ok t.akf fits.szmic_le fits.seqStart_lt fits.src_lt fits.dst_lt
    fits.ivIndex_lt]
  exact meshAesCcmEncrypt_ok suite fits.key_length parameters

theorem encryptedUpper_of_make {produced : List (Nat × Bytes)}
    (made : t.make suite ivIndex = .ok produced) :
    ∃ upper, t.encryptedUpper suite ivIndex = .ok upper := by
  obtain ⟨nonce, made, rest⟩ := bind_eq_ok.mp made
  obtain ⟨upper, sealed, _⟩ := bind_eq_ok.mp rest
  exact ⟨upper, by rw [encryptedUpper, made]; exact sealed⟩

theorem encryptable_of_ok {upper : Bytes} (encrypted : t.encryptedUpper suite ivIndex = .ok upper) :
    t.Encryptable ivIndex := by
  obtain ⟨nonce, made, sealed⟩ := bind_eq_ok.mp encrypted
  obtain ⟨szmic, szmicMade, made⟩ := bind_eq_ok.mp made
  obtain ⟨seq, seqMade, made⟩ := bind_eq_ok.mp made
  obtain ⟨src, srcMade, made⟩ := bind_eq_ok.mp made
  obtain ⟨dst, dstMade, made⟩ := bind_eq_ok.mp made
  obtain ⟨iv, ivMade, made⟩ := bind_eq_ok.mp made
  obtain ⟨key, keyValid, _⟩ := bind_eq_ok.mp sealed
  have szmic_lt := byteOf_eq_ok szmicMade
  rw [Nat.shiftLeft_eq] at szmic_lt
  exact {
    key_length := validateKey_eq_ok keyValid
    szmic_le := by omega
    seqStart_lt := packBE_eq_ok seqMade
    src_lt := packBE_eq_ok srcMade
    dst_lt := packBE_eq_ok dstMade
    ivIndex_lt := packBE_eq_ok ivMade }

/-- As many segments are made as the lengths say. -/
theorem count_eq [LawfulCcm suite] {upper : Bytes}
    (encrypted : t.encryptedUpper suite ivIndex = .ok upper) :
    (upper.length + 11) / 12 = t.segments := by
  obtain ⟨upper', same, length⟩ := encryptedUpper_ok suite (encryptable_of_ok encrypted)
  cases encrypted.symm.trans same
  rw [length]
  rfl

variable (suite) in
/-- With arguments of these sizes and few enough segments, the call returns. -/
theorem make_returns [LawfulCcm suite] (admissible : t.Admissible ivIndex) (few : t.segments ≤ 32) :
    ∃ produced, t.make suite ivIndex = .ok produced := by
  obtain ⟨upper, encrypted, _⟩ := encryptedUpper_ok suite admissible.toEncryptable
  have szmic_le := admissible.szmic_le
  have each (i : Nat) (member : i ∈ List.range t.segments) :
      ∃ segment, makeSegment upper t.akf t.aid t.szmic t.seqStart (t.segments - 1) i = .ok segment := by
    have i_lt := List.mem_range.mp member
    have info_lt : t.szmic * 2 ^ 23 + t.seqStart % 8192 * 2 ^ 10 + i * 2 ^ 5 + (t.segments - 1) <
        256 ^ 4 := by omega
    cases returned : makeSegment upper t.akf t.aid t.szmic t.seqStart (t.segments - 1) i with
    | ok segment => exact ⟨segment, rfl⟩
    | error error =>
      simp only [makeSegment, byteOf_ok (segmentHdr_lt admissible.akf_le t.aid),
        segmentInfo_eq t.seqStart (show i < 32 by omega) (show t.segments - 1 < 32 by omega),
        packBE_ok info_lt, bind, Except.bind, pure, Except.pure] at returned
      cases returned
  choose! segment returns using each
  refine ⟨(List.range t.segments).map segment, ?_⟩
  rw [make_eq encrypted, count_eq encrypted]
  exact mapM_eq_pure returns

/-- Whatever returns has made a first segment. -/
theorem admissible_of_make [LawfulCcm suite] {produced : List (Nat × Bytes)}
    (made : t.make suite ivIndex = .ok produced) : t.Admissible ivIndex ∧ produced ≠ [] := by
  obtain ⟨upper, encrypted⟩ := encryptedUpper_of_make made
  obtain ⟨others, counted⟩ := Nat.exists_eq_succ_of_ne_zero (Nat.ne_of_gt t.segments_pos)
  rw [make_eq encrypted, count_eq encrypted, counted, List.range_succ_eq_map, List.mapM_cons] at made
  obtain ⟨segment, first, rest⟩ := bind_eq_ok.mp made
  obtain ⟨hdr, hdrMade, _⟩ := bind_eq_ok.mp first
  refine ⟨⟨encryptable_of_ok encrypted, akf_le_of_hdr (byteOf_eq_ok hdrMade)⟩, ?_⟩
  rintro rfl
  obtain ⟨_, _, rest⟩ := bind_eq_ok.mp rest
  cases rest

/-! ### The layout -/

theorem laidOut_of_few [LawfulCcm suite] (few : t.segments ≤ 32) (akf_le : t.akf ≤ 1)
    (aid_lt : t.aid < 64) {produced : List (Nat × Bytes)}
    (made : t.make suite ivIndex = .ok produced) : t.LaidOut suite ivIndex produced := by
  obtain ⟨upper, encrypted⟩ := encryptedUpper_of_make made
  have szmic_le := (encryptable_of_ok encrypted).szmic_le
  have count := count_eq encrypted
  have fine : ∀ i ∈ List.range t.segments,
      makeSegment upper t.akf t.aid t.szmic t.seqStart (t.segments - 1) i =
        .ok (t.seqStart + i, segmentPdu upper t.akf t.aid t.szmic t.seqStart (t.segments - 1) i) := by
    intro i member
    have i_lt := List.mem_range.mp member
    exact makeSegment_ok upper t.aid t.seqStart akf_le szmic_le (by omega) (by omega)
  rw [make_eq encrypted, count, mapM_eq_pure fine] at made
  cases made
  have whole : upper.length ≤ t.segments * 12 := by omega
  refine ⟨(List.range t.segments).map fun i => (upper.drop (i * 12)).take 12, ?_, by simp, ?_⟩
  · rw [encrypted, flatten_chunks, List.take_of_length_le whole]
  · intro i chunk here
    rw [List.getElem?_map] at here
    obtain ⟨j, found, rfl⟩ := Option.map_eq_some_iff.mp here
    obtain ⟨inside, same⟩ := List.getElem?_eq_some_iff.mp found
    rw [List.getElem_range] at same
    subst same
    rw [List.length_range] at inside
    have later : i * 12 < upper.length := by omega
    refine ⟨?_, List.length_take_le _ _,
      segmentPdu upper t.akf t.aid t.szmic t.seqStart (t.segments - 1) i, ?_, ?_⟩
    · apply List.ne_nil_of_length_pos
      rw [List.length_take, List.length_drop]
      omega
    · rw [List.getElem?_map, found]
      rfl
    · rw [parseSegmentHeader_segmentPdu upper t.aid t.seqStart akf_le szmic_le (by omega)
        (by omega), segmentHeader, Nat.mod_eq_of_lt aid_lt, List.length_map, List.length_range]
      rfl

/-- Every layout has a first header, and its fields hold one bit and six bits. -/
theorem fields_of_laidOut {produced : List (Nat × Bytes)} (some : produced ≠ [])
    (laidOut : t.LaidOut suite ivIndex produced) : t.akf ≤ 1 ∧ t.aid < 64 := by
  obtain ⟨chunks, _, lengths, each⟩ := laidOut
  cases chunks with
  | nil => exact absurd (List.eq_nil_of_length_eq_zero lengths) some
  | cons chunk chunks =>
    obtain ⟨_, _, pdu, _, parsed⟩ := each 0 chunk rfl
    obtain ⟨akf_le, aid_lt, _⟩ := parseSegmentHeader_ok parsed
    exact ⟨akf_le, aid_lt⟩

end Transmission

/-- The layout is as it should be exactly when 32 segments are enough and the fields of the
key fit: more segments are never rejected with a `ProtocolError`. -/
theorem segmented_iff (suite : CipherSuite) [LawfulCcm suite] (ivIndex : Nat) (t : Transmission) :
    t.Segmented suite ivIndex ↔
      t.segments ≤ 32 ∧ (t.Admissible ivIndex → t.akf ≤ 1 ∧ t.aid < 64) := by
  constructor
  · intro segmented
    have few : t.segments ≤ 32 := by
      by_contra many
      obtain ⟨msg, rejected⟩ := segmented.rejected (Nat.lt_of_not_le many)
      cases Transmission.make_encoding _ rejected
    refine ⟨few, fun admissible => ?_⟩
    obtain ⟨produced, made⟩ := Transmission.make_returns suite admissible few
    exact Transmission.fields_of_laidOut (Transmission.admissible_of_make made).2
      (segmented.laidOut produced made)
  · rintro ⟨few, fields⟩
    refine ⟨?_, fun many => absurd few (Nat.not_le_of_lt many)⟩
    intro produced made
    obtain ⟨akf_le, aid_lt⟩ := fields (Transmission.admissible_of_make made).1
    exact Transmission.laidOut_of_few few akf_le aid_lt made

theorem sampleTransmission_segmented : (sampleTransmission 8191).Segmented nonceTagSuite 7 :=
  (segmented_iff nonceTagSuite 7 (sampleTransmission 8191)).mpr
    ⟨by decide, fun _ => ⟨by decide, by decide⟩⟩

/-- A payload of 381 bytes needs 33 segments. -/
def longTransmission : Transmission :=
  { sampleTransmission 0 with payload := List.replicate 381 0x5A, szmic := 0 }

/-- The 33 segments are made, and no header names that many. -/
theorem longTransmission_not_segmented :
    (∃ produced, longTransmission.make nonceTagSuite 7 = .ok produced ∧
      ¬longTransmission.LaidOut nonceTagSuite 7 produced) ∧
    ¬longTransmission.Segmented nonceTagSuite 7 := by
  have count : (longTransmission.make nonceTagSuite 7).map List.length = .ok 33 := by
    decide +kernel
  cases made : longTransmission.make nonceTagSuite 7 with
  | error error =>
    rw [made] at count
    cases count
  | ok produced =>
    rw [made] at count
    have length : produced.length = 33 := Except.ok.inj count
    have astray : ¬longTransmission.LaidOut nonceTagSuite 7 produced := by
      rintro ⟨chunks, _, lengths, each⟩
      have inside : 0 < chunks.length := by omega
      obtain ⟨_, _, pdu, _, parsed⟩ := each 0 chunks[0] (List.getElem?_eq_getElem inside)
      have segN_lt := (parseSegmentHeader_ok parsed).2.2.2.2.2
      simp only [length] at segN_lt
      omega
    exact ⟨⟨produced, rfl, astray⟩, fun segmented => astray (segmented.laidOut produced made)⟩

end TuyaBleMesh
