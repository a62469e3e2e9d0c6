import TuyaBleMesh.Lib.OrderedDict
import TuyaBleMesh.Mesh.NetworkRoundTrip
import Mathlib.Data.Rat.Defs

/-!
# Segmented messages

The reassembly buffer of the receive path, and the way of an access payload
through `make_access_segmented`, any order and repetition of its segments, and
`reassemble_and_decrypt_segments`.
-/

namespace TuyaBleMesh

/-- `_ReassemblyBuffer`. -/
structure ReassemblyBuffer where
  src : Nat
  dst : Nat
  akf : Nat
  aid : Nat
  szmic : Nat
  seqZero : Nat
  segN : Nat
  segments : OrderedDict Nat Bytes
  createdAt : Rat
  deriving DecidableEq

namespace ReassemblyBuffer

/-- The buffer that the first segment under a key creates. -/
def ofHeader (src dst : Nat) (now : Rat) (header : SegmentHeader) : ReassemblyBuffer where
  src := src
  dst := dst
  akf := header.akf
  aid := header.aid
  szmic := header.szmic
  seqZero := header.seqZero
  segN := header.segN
  segments := .empty
  createdAt := now

/-- `buf.segments[seg_hdr.seg_o] = seg_hdr.segment_data`. -/
def store (buf : ReassemblyBuffer) (header : SegmentHeader) : ReassemblyBuffer :=
  { buf with segments := buf.segments.set header.segO header.segmentData }

/-- Get or create the buffer, then store the segment: `buf` is the one found, if any. -/
def receive (buf : Option ReassemblyBuffer) (src dst : Nat) (now : Rat)
    (header : SegmentHeader) : ReassemblyBuffer :=
  (buf.getD (ofHeader src dst now header)).store header

/-- `len(buf.segments) == buf.seg_n + 1`. -/
def complete (buf : ReassemblyBuffer) : Bool := buf.segments.size = buf.segN + 1

/-- The call of `reassemble_and_decrypt_segments` in `_complete_reassembly`. -/
def reassemble (buf : ReassemblyBuffer) (suite : CipherSuite) (keys : MeshKeys) :
    Except PyError (Option Bytes) :=
  reassembleAndDecryptSegments suite keys buf.src buf.dst buf.segments.get? buf.segN buf.szmic
    buf.seqZero buf.akf

end ReassemblyBuffer

/-- The buffer after the segments `received` from `src` to `dst`, all under one key. -/
def collectSegments (src dst : Nat) (now : Rat) (received : List Bytes) :
    Except PyError (Option ReassemblyBuffer) := do
  let headers ← received.mapM parseSegmentHeader
  return headers.foldl (fun buf header => some (.receive buf src dst now header)) none

/-! ### Encoding and parsing one segment -/

/-- The lower transport PDU of segment `segO`. -/
def segmentPdu (upperTransport : Bytes) (akf aid szmic seqStart segN segO : Nat) : Bytes :=
  UInt8.ofNat (128 + akf * 64 + aid % 64) ::
    (Bytes.beBytes 3 (szmic * 2 ^ 23 + seqStart % 8192 * 2 ^ 10 + segO * 2 ^ 5 + segN) ++
      (upperTransport.drop (segO * 12)).take 12)

/-- The header fields the receiver reads back. -/
def segmentHeader (upperTransport : Bytes) (akf aid szmic seqStart segN segO : Nat) :
    SegmentHeader where
  akf := akf
  aid := aid % 64
  szmic := szmic
  seqZero := seqStart % 8192
  segO := segO
  segN := segN
  segmentData := (upperTransport.drop (segO * 12)).take 12

theorem segmentHdr_eq {akf : Nat} (akf_le : akf ≤ 1) (aid : Nat) :
    MESH_SEG_BIT ||| (akf <<< MESH_AKF_SHIFT) ||| (aid &&& MESH_AID_MASK) =
      128 + akf * 64 + aid % 64 := by
  obtain ⟨low, low_lt⟩ := accessHeader_eq akf_le aid
  rw [Nat.or_assoc, low]
  have high : (1 <<< 7) ||| (akf * 64 + aid % 64) = 1 * 2 ^ 7 + (akf * 64 + aid % 64) :=
    Bytes.shiftLeft_or 1 _ 7 low_lt
  rw [show MESH_SEG_BIT = 1 <<< 7 from rfl, high]
  omega

theorem segmentInfo_eq {szmic segO segN : Nat} (seqStart : Nat) (segO_lt : segO < 32)
    (segN_lt : segN < 32) :
    (szmic <<< MESH_SZMIC_SHIFT) ||| ((seqStart &&& MESH_SEQ_ZERO_MASK) <<< MESH_SEQ_ZERO_SHIFT) |||
        (segO <<< MESH_SEG_O_SHIFT) ||| segN =
      szmic * 2 ^ 23 + seqStart % 8192 * 2 ^ 10 + segO * 2 ^ 5 + segN := by
  have seqZero : seqStart &&& MESH_SEQ_ZERO_MASK = seqStart % 8192 :=
    Nat.and_two_pow_sub_one_eq_mod seqStart 13
  have indexes : (segO <<< MESH_SEG_O_SHIFT) ||| segN = segO * 2 ^ 5 + segN :=
    Bytes.shiftLeft_or segO segN 5 segN_lt
  have below : (seqStart % 8192) <<< MESH_SEQ_ZERO_SHIFT ||| (segO * 2 ^ 5 + segN) =
      seqStart % 8192 * 2 ^ 10 + (segO * 2 ^ 5 + segN) :=
    Bytes.shiftLeft_or _ _ 10 (by omega)
  have all : szmic <<< MESH_SZMIC_SHIFT ||| (seqStart % 8192 * 2 ^ 10 + (segO * 2 ^ 5 + segN)) =
      szmic * 2 ^ 23 + (seqStart % 8192 * 2 ^ 10 + (segO * 2 ^ 5 + segN)) :=
    Bytes.shiftLeft_or _ _ 23 (by omega)
  rw [seqZero, Nat.or_assoc, Nat.or_assoc, indexes, below, all]
  omega

section Segment

variable {akf szmic segO segN : Nat} (upperTransport : Bytes) (aid seqStart : Nat)

theorem makeSegment_ok (akf_le : akf ≤ 1) (szmic_le : szmic ≤ 1) (segO_lt : segO < 32)
    (segN_lt : segN < 32) :
    makeSegment upperTransport akf aid szmic seqStart segN segO =
      .ok (seqStart + segO, segmentPdu upperTransport akf aid szmic seqStart segN segO) := by
  have hdr_lt : 128 + akf * 64 + aid % 64 < 256 := by omega
  have info_lt : szmic * 2 ^ 23 + seqStart % 8192 * 2 ^ 10 + segO * 2 ^ 5 + segN < 256 ^ 4 := by
    omega
  simp only [makeSegment, segmentHdr_eq akf_le, segmentInfo_eq seqStart segO_lt segN_lt,
    byteOf_ok hdr_lt, packBE_ok info_lt, Bytes.beBytes_tail, bind, Except.bind, pure, Except.pure]
  rfl

/-- `parse_segment_header` reads back what `make_access_segmented` wrote: the sequence
number only modulo 8192. -/
theorem parseSegmentHeader_segmentPdu (akf_le : akf ≤ 1) (szmic_le : szmic ≤ 1)
    (segO_lt : segO < 32) (segN_lt : segN < 32) :
    parseSegmentHeader (segmentPdu upperTransport akf aid szmic seqStart segN segO) =
      .ok (segmentHeader upperTransport akf aid szmic seqStart segN segO) := by
  have hdr : (UInt8.ofNat (128 + akf * 64 + aid % 64)).toNat = 128 + akf * 64 + aid % 64 := by
    rw [UInt8.toNat_ofNat']
    omega
  have segmented : (UInt8.ofNat (128 + akf * 64 + aid % 64)).toNat &&& MESH_SEG_BIT ≠ 0 := by
    rw [hdr, show MESH_SEG_BIT = 2 ^ 7 from rfl, Bytes.and_bit]
    omega
  have info_lt : szmic * 2 ^ 23 + seqStart % 8192 * 2 ^ 10 + segO * 2 ^ 5 + segN < 256 ^ 3 := by
    omega
  have info := Bytes.beValue_beBytes info_lt
  simp only [segmentPdu, Bytes.beBytes, List.cons_append, List.nil_append] at info ⊢
  rw [parseSegmentHeader_fields _ _ _ _ _ segmented, hdr, info]
  simp only [segmentHeader, Except.ok.injEq, SegmentHeader.mk.injEq, and_true]
  omega

end Segment

/-- A traversal in which no step fails is a map. -/
theorem mapM_eq_pure {m : Type → Type} [Monad m] [LawfulMonad m] {α β : Type} {f : α → m β}
    {g : α → β} {xs : List α} (fine : ∀ x ∈ xs, f x = pure (g x)) :
    xs.mapM f = pure (xs.map g) := by
  induction xs with
  | nil => rfl
  | cons x xs ih =>
    have rest := ih fun y member => fine y (List.mem_cons_of_mem x member)
    rw [List.mapM_cons, fine x List.mem_cons_self, rest]
    simp

/-! ### Joining -/

/-- Twelve bytes at a time, `n` chunks hold the first `12 * n` bytes. -/
theorem flatten_chunks (upperTransport : Bytes) (n : Nat) :
    ((List.range n).map fun i => (upperTransport.drop (i * 12)).take 12).flatten =
      upperTransport.take (n * 12) := by
  induction n with
  | zero => simp
  | succ n ih =>
    rw [List.range_succ, List.map_append, List.flatten_append, ih, Nat.succ_mul, List.take_add]
    simp

theorem joinSegments_eq {segments : Nat → Option Bytes} {chunk : Nat → Bytes} {n : Nat}
    (present : ∀ i < n, segments i = some (chunk i)) :
    joinSegments segments n = some ((List.range n).map chunk).flatten := by
  have all : (List.range n).mapM segments = some ((List.range n).map chunk) :=
    mapM_eq_pure fun i member => present i (List.mem_range.mp member)
  rw [joinSegments, all]
  rfl

/-! ### Collecting -/

namespace ReassemblyBuffer

/-- Segments of one message, in any order and repetition: each index received holds its
chunk, and everything else of the buffer comes from the first header. -/
theorem foldl_store (chunk : Nat → Bytes) (headers : List SegmentHeader) (buf : ReassemblyBuffer)
    (ofMessage : ∀ header ∈ headers, header.segmentData = chunk header.segO) (i : Nat) :
    (headers.foldl store buf).segments.get? i =
      if ∃ header ∈ headers, header.segO = i then some (chunk i) else buf.segments.get? i := by
  induction headers generalizing buf with
  | nil => simp
  | cons header headers ih =>
    have data := ofMessage header List.mem_cons_self
    rw [List.foldl_cons, ih _ fun h member => ofMessage h (List.mem_cons_of_mem header member)]
    simp only [store, OrderedDict.get?_set, data, List.mem_cons, exists_eq_or_imp]
    -- a repeated index is stored again with the same chunk
    by_cases later : ∃ h ∈ headers, h.segO = i
    · simp only [later, if_true, or_true]
    · by_cases here : header.segO = i
      · simp [later, here]
      · simp [later, here, Ne.symm here]

theorem foldl_store_frame (headers : List SegmentHeader) (buf : ReassemblyBuffer) :
    ∃ segments, headers.foldl store buf = { buf with segments } := by
  induction headers generalizing buf with
  | nil => exact ⟨buf.segments, rfl⟩
  | cons header headers ih =>
    obtain ⟨segments, rest⟩ := ih (buf.store header)
    exact ⟨segments, rest⟩

theorem foldl_receive (src dst : Nat) (now : Rat) (headers : List SegmentHeader)
    (buf : ReassemblyBuffer) :
    headers.foldl (fun buf header => some (receive buf src dst now header)) (some buf) =
      some (headers.foldl store buf) := by
  induction headers generalizing buf with
  | nil => rfl
  | cons header headers ih => exact ih (buf.store header)

end ReassemblyBuffer

/-! ### The round trip -/

section RoundTrip

variable (suite : CipherSuite) (keys : MeshKeys)

/-- The key set and the message parameters of one segmented transmission. -/
structure Transmission where
  key : Bytes
  src : Nat
  dst : Nat
  seqStart : Nat
  payload : Bytes
  akf : Nat
  aid : Nat
  szmic : Nat

namespace Transmission

variable (t : Transmission)

def micLen : Nat := if t.szmic ≠ 0 then MIC_LEN_CONTROL else MIC_LEN_ACCESS

/-- How many segments carry the payload and its MIC. -/
def segments : Nat := (t.payload.length + t.micLen + 11) / 12

structure Valid (keys : MeshKeys) : Prop where
  selected : keys.accessKey t.akf = some t.key
  key_length : t.key.length = _AES_BLOCK_SIZE
  akf_le : t.akf ≤ 1
  szmic_le : t.szmic ≤ 1
  src_lt : t.src < 256 ^ 2
  dst_lt : t.dst < 256 ^ 2
  segments_le : t.segments ≤ 32
  seqStart_le : t.seqStart + t.segments ≤ 256 ^ 3

variable {t} {keys}

theorem micLen_eq : t.micLen = 4 ∨ t.micLen = 8 := micLen_valid t.szmic

theorem segments_pos : 0 < t.segments := by
  have mic := t.micLen_eq
  simp only [segments]
  omega

/-- The encrypted upper transport PDU. -/
def upperTransport (valid : t.Valid keys) : Bytes :=
  suite.ccmEncrypt ⟨t.key, valid.key_length⟩ t.micLen
    (appNonce t.akf t.szmic t.seqStart t.src t.dst keys.ivIndex) t.payload

/-- The lower transport PDU of segment `i`. -/
def pdu (valid : t.Valid keys) (i : Nat) : Bytes :=
  segmentPdu (upperTransport suite valid) t.akf t.aid t.szmic t.seqStart (t.segments - 1) i

def header (valid : t.Valid keys) (i : Nat) : SegmentHeader :=
  segmentHeader (upperTransport suite valid) t.akf t.aid t.szmic t.seqStart (t.segments - 1) i

theorem parse_pdu (valid : t.Valid keys) {i : Nat} (i_lt : i < t.segments) :
    parseSegmentHeader (t.pdu suite valid i) = .ok (t.header suite valid i) := by
  have n_le := valid.segments_le
  apply parseSegmentHeader_segmentPdu _ _ _ valid.akf_le valid.szmic_le <;> omega

theorem seqStart_lt (valid : t.Valid keys) : t.seqStart < 256 ^ 3 := by
  have bound := valid.seqStart_le
  have some := t.segments_pos
  omega

theorem upperTransport_length [LawfulCcm suite] (valid : t.Valid keys) :
    (t.upperTransport suite valid).length = t.payload.length + t.micLen :=
  LawfulCcm.encrypt_length _ _ _ _ (appNonce_parameters t.micLen_eq _ _ _ _ _ _)

theorem makeAccessSegmented_ok [LawfulCcm suite] (valid : t.Valid keys) :
    makeAccessSegmented suite t.key t.src t.dst t.seqStart keys.ivIndex t.payload t.akf t.aid
        t.szmic =
      .ok ((List.range t.segments).map fun i => (t.seqStart + i, t.pdu suite valid i)) := by
  have seq_lt : t.seqStart < 256 ^ 4 := Nat.lt_trans (seqStart_lt valid) (by decide)
  have nonce := makeAppNonce_ok t.akf valid.szmic_le seq_lt valid.src_lt valid.dst_lt
    keys.ivIndex_lt
  have encrypted : meshAesCcmEncrypt suite t.key _ t.payload t.micLen =
      .ok (t.upperTransport suite valid) :=
    meshAesCcmEncrypt_ok suite valid.key_length (appNonce_parameters t.micLen_eq _ _ _ _ _ _)
  have count : ((t.upperTransport suite valid).length + SEG_DATA_SIZE - 1) / SEG_DATA_SIZE =
      t.segments := by
    rw [upperTransport_length]
    rfl
  have n_le := valid.segments_le
  rw [micLen] at encrypted
  simp only [makeAccessSegmented, nonce, encrypted, count, bind, Except.bind]
  apply mapM_eq_pure
  intro i member
  rw [List.mem_range] at member
  apply makeSegment_ok _ _ _ valid.akf_le valid.szmic_le <;> omega

/-! #### Receiving -/

/-- `received` holds every segment, in some order, with any repetitions, and nothing else. -/
def Covers (valid : t.Valid keys) (received : List Bytes) : Prop :=
  ∀ pdu, pdu ∈ received ↔ ∃ i < t.segments, t.pdu suite valid i = pdu

private theorem exists_indices {f : Nat → Bytes} {n : Nat} (received : List Bytes)
    (made : ∀ pdu ∈ received, ∃ i < n, f i = pdu) :
    ∃ indices : List Nat, (∀ i ∈ indices, i < n) ∧ indices.map f = received := by
  induction received with
  | nil => exact ⟨[], by simp, rfl⟩
  | cons pdu received ih =>
    obtain ⟨i, i_lt, rfl⟩ := made pdu List.mem_cons_self
    obtain ⟨indices, below, rest⟩ := ih fun other member => made other (List.mem_cons_of_mem _ member)
    refine ⟨i :: indices, ?_, by rw [List.map_cons, rest]⟩
    intro j member
    rcases List.mem_cons.mp member with rfl | later
    · exact i_lt
    · exact below j later

/-- The headers of what is received: every index of the message occurs. -/
theorem exists_headers (valid : t.Valid keys) {received : List Bytes}
    (covers : t.Covers suite valid received) :
    ∃ indices : List Nat, (∀ i, i ∈ indices ↔ i < t.segments) ∧
      received.mapM parseSegmentHeader = .ok (indices.map (t.header suite valid)) := by
  obtain ⟨indices, below, rfl⟩ := exists_indices received fun pdu member => (covers pdu).mp member
  refine ⟨indices, fun i => ⟨below i, fun i_lt => ?_⟩, ?_⟩
  · have member := (covers _).mpr ⟨i, i_lt, rfl⟩
    obtain ⟨j, present, same⟩ := List.mem_map.mp member
    -- equal PDUs parse to equal headers, and these carry the index
    have headers := parse_pdu suite valid (below j present)
    rw [same, parse_pdu suite valid i_lt, Except.ok.injEq] at headers
    have index : i = j := congrArg SegmentHeader.segO headers
    rwa [index]
  · rw [List.mapM_map]
    exact mapM_eq_pure fun i member => parse_pdu suite valid (below i member)

/-- The buffer is complete and holds the chunks of the message; from the sequence number
it knows the low 13 bits. -/
theorem collect_spec (valid : t.Valid keys) {received : List Bytes}
    (covers : t.Covers suite valid received) (now : Rat) :
    ∃ segments, collectSegments t.src t.dst now received =
        .ok (some ⟨t.src, t.dst, t.akf, t.aid % 64, t.szmic, t.seqStart % 8192, t.segments - 1,
          segments, now⟩) ∧
      ∀ i, segments.get? i =
        if i < t.segments then some ((t.header suite valid i).segmentData) else none := by
  obtain ⟨indices, all, parsed⟩ := exists_headers suite valid covers
  cases indices with
  | nil => exact absurd ((all 0).mpr t.segments_pos) (List.not_mem_nil)
  -- the first segment makes the buffer, whichever it is, and the others only fill it
  | cons i indices =>
    have data := ReassemblyBuffer.foldl_store (fun j => (t.header suite valid j).segmentData)
      ((i :: indices).map (t.header suite valid))
      (.ofHeader t.src t.dst now (t.header suite valid i)) (by
        intro header member
        obtain ⟨j, _, rfl⟩ := List.mem_map.mp member
        rfl)
    obtain ⟨segments, frame⟩ := ReassemblyBuffer.foldl_store_frame
      ((i :: indices).map (t.header suite valid))
      (.ofHeader t.src t.dst now (t.header suite valid i))
    refine ⟨segments, ?_, ?_⟩
    · simp only [collectSegments, parsed, bind, Except.bind, pure, Except.pure]
      rw [List.map_cons, List.foldl_cons, ReassemblyBuffer.foldl_receive]
      rw [List.map_cons, List.foldl_cons] at frame
      exact congrArg (fun buf => Except.ok (some buf)) frame
    · intro j
      have present := data j
      rw [frame] at present
      rw [present]
      by_cases inside : j < t.segments
      · have occurs : ∃ header ∈ (i :: indices).map (t.header suite valid), header.segO = j :=
          ⟨t.header suite valid j, List.mem_map_of_mem ((all j).mpr inside), rfl⟩
        rw [if_pos occurs, if_pos inside]
      · have absent : ¬ ∃ header ∈ (i :: indices).map (t.header suite valid), header.segO = j := by
          rintro ⟨header, member, rfl⟩
          obtain ⟨k, index, rfl⟩ := List.mem_map.mp member
          exact inside ((all k).mp index)
        rw [if_neg absent, if_neg inside]
        rfl

theorem complete_of_get {segments : OrderedDict Nat Bytes} {chunk : Nat → Bytes} {n : Nat}
    (get : ∀ i, segments.get? i = if i < n then some (chunk i) else none) : segments.size = n := by
  have keys : ∀ i, i ∈ segments.keys ↔ i < n := by
    intro i
    rw [← OrderedDict.get?_isSome_iff, get]
    by_cases inside : i < n <;> simp [inside]
  exact (OrderedDict.size_eq_iff fun i member => (keys i).mp member).mpr
    fun i inside => (keys i).mpr inside

/-- Reassembly decrypts the whole upper transport PDU, under a nonce with the truncated
sequence number. -/
theorem reassemble_spec [LawfulCcm suite] (valid : t.Valid keys) {segments : OrderedDict Nat Bytes}
    (get : ∀ i, segments.get? i =
      if i < t.segments then some ((t.header suite valid i).segmentData) else none) (now : Rat) :
    (ReassemblyBuffer.mk t.src t.dst t.akf (t.aid % 64) t.szmic (t.seqStart % 8192) (t.segments - 1)
      segments now).reassemble suite keys =
      .ok (suite.ccmDecrypt ⟨t.key, valid.key_length⟩ t.micLen
        (appNonce t.akf t.szmic (t.seqStart % 8192) t.src t.dst keys.ivIndex)
        (t.upperTransport suite valid)) := by
  have positive := t.segments_pos
  have joined : joinSegments segments.get? (t.segments - 1 + 1) =
      some (t.upperTransport suite valid) := by
    rw [Nat.sub_add_cancel positive, joinSegments_eq fun i inside => (get i).trans (if_pos inside)]
    -- the segments leave no byte out: the last one may be short
    have whole : (t.upperTransport suite valid).length ≤ t.segments * 12 := by
      rw [upperTransport_length]
      simp only [Transmission.segments]
      omega
    rw [← List.take_of_length_le whole]
    exact congrArg some (flatten_chunks _ _)
  have seq_lt : t.seqStart % 8192 < 256 ^ 4 := by omega
  have nonce := makeAppNonce_ok t.akf valid.szmic_le seq_lt valid.src_lt valid.dst_lt
    keys.ivIndex_lt
  have parameters := appNonce_parameters t.micLen_eq t.akf t.szmic (t.seqStart % 8192) t.src t.dst
    keys.ivIndex
  simp only [ReassemblyBuffer.reassemble, reassembleAndDecryptSegments, joined, valid.selected,
    nonce, bind, Except.bind, pure, Except.pure]
  cases opened : suite.ccmDecrypt ⟨t.key, valid.key_length⟩ t.micLen
      (appNonce t.akf t.szmic (t.seqStart % 8192) t.src t.dst keys.ivIndex)
      (t.upperTransport suite valid) with
  | none =>
    have raised := meshAesCcmDecrypt_none suite valid.key_length parameters opened
    rw [micLen] at raised
    rw [raised]
  | some payload =>
    have returned := meshAesCcmDecrypt_some suite valid.key_length parameters opened
    rw [micLen] at returned
    rw [returned]

variable (keys t) in
/-- Whatever order and repetition the segments arrive in, the receiver gets the payload. -/
def Returned : Prop :=
  ∃ produced, makeAccessSegmented suite t.key t.src t.dst t.seqStart keys.ivIndex t.payload t.akf
      t.aid t.szmic = .ok produced ∧
    ∀ received now, (∀ pdu, pdu ∈ received ↔ pdu ∈ produced.map Prod.snd) →
      ∃ buffer, collectSegments t.src t.dst now received = .ok (some buffer) ∧
        buffer.complete = true ∧ buffer.reassemble suite keys = .ok (some t.payload)

theorem returned_iff_decrypts [LawfulCcm suite] (valid : t.Valid keys) :
    t.Returned suite keys ↔
      suite.ccmDecrypt ⟨t.key, valid.key_length⟩ t.micLen
        (appNonce t.akf t.szmic (t.seqStart % 8192) t.src t.dst keys.ivIndex)
        (t.upperTransport suite valid) = some t.payload := by
  have made := makeAccessSegmented_ok suite valid
  have covers : ∀ received : List Bytes,
      (∀ pdu, pdu ∈ received ↔ pdu ∈ ((List.range t.segments).map fun i =>
        (t.seqStart + i, t.pdu suite valid i)).map Prod.snd) ↔ t.Covers suite valid received := by
    intro received
    simp [Covers]
  constructor
  · rintro ⟨produced, made', returned⟩
    cases made.symm.trans made'
    -- the order of production is one of the orders
    obtain ⟨buffer, collected, _, payload⟩ := returned _ 0 fun pdu => Iff.rfl
    obtain ⟨segments, collected', get⟩ := collect_spec suite valid
      ((covers _).mp fun pdu => Iff.rfl) 0
    cases collected'.symm.trans collected
    rw [reassemble_spec suite valid get 0] at payload
    exact Except.ok.inj payload
  · intro opened
    refine ⟨_, made, ?_⟩
    intro received now all
    obtain ⟨segments, collected, get⟩ := collect_spec suite valid ((covers received).mp all) now
    refine ⟨_, collected, ?_, ?_⟩
    · have size := complete_of_get get
      have positive := t.segments_pos
      simp only [ReassemblyBuffer.complete, size, decide_eq_true_eq]
      omega
    · rw [reassemble_spec suite valid get now, opened]

/-- The tag of `nonceTagSuite` tells any two 24-bit sequence numbers apart. -/
theorem nonceTag_appNonce_inj {akf szmic seq seq' src dst ivIndex : Nat} (seq_lt : seq < 256 ^ 3)
    (seq_lt' : seq' < 256 ^ 3) (same : nonceTag t.micLen (appNonce akf szmic seq src dst ivIndex) =
      nonceTag t.micLen (appNonce akf szmic seq' src dst ivIndex)) : seq = seq' := by
  have three : ∀ s, (nonceTag t.micLen (appNonce akf szmic s src dst ivIndex)).take 3 =
      Bytes.beBytes 3 s := by
    intro s
    rcases t.micLen_eq with four | eight
    · rw [four]
      rfl
    · rw [eight]
      rfl
  have bytes : Bytes.beBytes 3 seq = Bytes.beBytes 3 seq' := by
    rw [← three seq, ← three seq', same]
  rw [← Bytes.beValue_beBytes seq_lt, ← Bytes.beValue_beBytes seq_lt', bytes]

end Transmission

end RoundTrip

/-- The receiver rebuilds the nonce from SeqZero, the low 13 bits of the first sequence
number. So the payload comes back, under every lawful AES-CCM and in every order and
repetition of the segments, exactly when those 13 bits are the whole number. -/
theorem segmented_round_trip_iff (keys : MeshKeys) (t : Transmission) (valid : t.Valid keys) :
    (∀ (suite : CipherSuite), LawfulCcm suite → t.Returned suite keys) ↔ t.seqStart < 8192 := by
  constructor
  · intro returned
    -- one lawful suite that tells nonces apart decides the question
    have opened := (Transmission.returned_iff_decrypts nonceTagSuite valid).mp
      (returned nonceTagSuite inferInstance)
    have parameters := appNonce_parameters t.micLen_eq t.akf t.szmic t.seqStart t.src t.dst
      keys.ivIndex
    rw [Transmission.upperTransport, nonceTagSuite_decrypt _ _ parameters] at opened
    split at opened
    · next same =>
      have seq_lt := Transmission.seqStart_lt valid
      have equal := Transmission.nonceTag_appNonce_inj seq_lt
        (Nat.lt_of_le_of_lt (Nat.mod_le t.seqStart 8192) seq_lt) same
      rw [equal]
      exact Nat.mod_lt _ (by decide)
    · cases opened
  · intro small suite lawful
    apply (Transmission.returned_iff_decrypts suite valid).mpr
    rw [Nat.mod_eq_of_lt small]
    exact LawfulCcm.decrypt_encrypt _ _ _ _ (appNonce_parameters t.micLen_eq _ _ _ _ _ _)

/-- A vendor message of 30 bytes under the application key of `sampleKeys`. -/
def sampleTransmission (seqStart : Nat) : Transmission where
  key := List.replicate 16 0x22
  src := 0xB0
  dst := 1
  seqStart := seqStart
  payload := 0xCD :: 0xD0 :: 0x07 :: List.replicate 27 0x5A
  akf := 1
  aid := 0x26
  szmic := 1

theorem sampleTransmission_valid {seqStart : Nat} (fits : seqStart + 4 ≤ 2 ^ 24) :
    (sampleTransmission seqStart).Valid sampleKeys where
  selected := rfl
  key_length := rfl
  akf_le := Nat.le_refl 1
  szmic_le := Nat.le_refl 1
  src_lt := show 0xB0 < 256 ^ 2 by decide
  dst_lt := show 1 < 256 ^ 2 by decide
  segments_le := show (30 + 8 + 11) / 12 ≤ 32 by decide
  seqStart_le := show seqStart + (30 + 8 + 11) / 12 ≤ 256 ^ 3 from fits

theorem segmented_round_trip_last :
    (sampleTransmission 8191).Returned nonceTagSuite sampleKeys := by
  have returned := (segmented_round_trip_iff sampleKeys (sampleTransmission 8191)
    (sampleTransmission_valid (by decide))).mpr (by decide)
  exact returned nonceTagSuite inferInstance

/-- From sequence number 8192 on the receiver decrypts under another nonce. -/
theorem segmented_round_trip_fails : (sampleTransmission 8192).Valid sampleKeys ∧
    ¬ ∀ (suite : CipherSuite), LawfulCcm suite →
      (sampleTransmission 8192).Returned suite sampleKeys := by
  have valid : (sampleTransmission 8192).Valid sampleKeys := sampleTransmission_valid (by decide)
  refine ⟨valid, fun returned => ?_⟩
  have opened := (Transmission.returned_iff_decrypts nonceTagSuite valid).mp
    (returned nonceTagSuite inferInstance)
  rw [Transmission.upperTransport, nonceTagSuite_decrypt _ _ (appNonce_parameters
    (sampleTransmission 8192).micLen_eq _ _ _ _ _ _), if_neg (by decide)] at opened
  cases opened

end TuyaBleMesh
