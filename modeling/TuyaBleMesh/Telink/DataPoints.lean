import Mathlib.Data.List.Sort
import TuyaBleMesh.Mesh.Crypto
import TuyaBleMesh.Lib.OrderedDict
import TuyaBleMesh.Lib.Records
import TuyaBleMesh.Lib.Utf8

/-!
# Tuya data points

`encode_dp_value`, `decode_dp_value`, `encode_dps_command` and `decode_dps_response` of
`protocol.py`. The decoder accepts what is a sequence of whole TLVs, and a dictionary that
can be encoded is read back.
-/

namespace TuyaBleMesh

namespace Telink

/-! ### Values and their wire types -/

def DP_TYPE_RAW : UInt8 := 0x00

def DP_TYPE_BOOLEAN : UInt8 := 0x01

def DP_TYPE_VALUE : UInt8 := 0x02

def DP_TYPE_STRING : UInt8 := 0x03

def DP_TYPE_ENUM : UInt8 := 0x04

def _DP_HEADER_SIZE : Nat := 4

/-- `bool | int | str | bytes`. -/
inductive DpValue
  | bool (value : Bool)
  | int (value : Int)
  | str (value : List CodePoint)
  | bytes (value : Bytes)
  deriving DecidableEq

/-- `struct.pack(">i", value)`. -/
def packSigned (value : Int) : Except PyError Bytes :=
  if -(2 ^ 31) ≤ value ∧ value ≤ 2 ^ 31 - 1 then .ok (Bytes.beBytes 4 (value % 2 ^ 32).toNat)
  else .error .structError

def signedValue (bytes : Bytes) : Int :=
  let unsigned := Bytes.beValue bytes
  if unsigned < 2 ^ 31 then unsigned else unsigned - 2 ^ 32

/-- `struct.unpack(">i", raw)`. -/
def unpackSigned (raw : Bytes) : Except PyError Int :=
  if raw.length = 4 then .ok (signedValue raw) else .error .structError

/-- `struct.unpack(">BBH", header)`. -/
def unpackHeader : Bytes → Except PyError (UInt8 × UInt8 × Nat)
  | [dpId, dpType, high, low] => .ok (dpId, dpType, Bytes.beValue [high, low])
  | _ => .error .structError

/-! ### Encoding -/

/-- The wire type of a value and its bytes. -/
def encodeValue : DpValue → Except PyError (UInt8 × Bytes)
  | .bool value => .ok (DP_TYPE_BOOLEAN, [if value then 0x01 else 0x00])
  | .int value =>
    if ¬(-(2 ^ 31) ≤ value ∧ value ≤ 2 ^ 31 - 1) then
      .error (.protocolError s!"int value out of 32-bit range: {value}")
    else (packSigned value).map ((DP_TYPE_VALUE, ·))
  | .str value =>
    match Utf8.encode value with
    | some encoded => .ok (DP_TYPE_STRING, encoded)
    -- `UnicodeEncodeError`: a surrogate
    | none => .error .valueError
  | .bytes value => .ok (DP_TYPE_RAW, value)

def encodeDpValue (dpId : Int) (value : DpValue) : Except PyError Bytes :=
  if ¬(1 ≤ dpId ∧ dpId ≤ 0xFF) then
    .error (.protocolError s!"dp_id must be 1..255, got {dpId}")
  else do
    let (dpType, encoded) ← encodeValue value
    let first ← packBE 1 dpId.toNat
    let length ← packBE 2 encoded.length
    return first ++ [dpType] ++ length ++ encoded

/-- `dps[dp_id]` for `dp_id in sorted(dps)`. -/
def sortedItems (dps : OrderedDict Int DpValue) : List (Int × DpValue) :=
  dps.entries.insertionSort (·.1 ≤ ·.1)

def encodeItems : List (Int × DpValue) → Except PyError Bytes
  | [] => .ok []
  | (dpId, value) :: items => do
    let tlv ← encodeDpValue dpId value
    let rest ← encodeItems items
    return tlv ++ rest

def encodeDpsCommand (dps : OrderedDict Int DpValue) : Except PyError Bytes :=
  encodeItems (sortedItems dps)

/-! ### Decoding -/

/-- The branches of `decode_dp_value` over the wire type. -/
def decodeRaw (dpType : UInt8) (length : Nat) (raw : Bytes) : Except PyError DpValue :=
  if dpType = DP_TYPE_BOOLEAN then
    if length ≠ 1 then .error (.malformedPacketError s!"Boolean DP must be 1 byte, got {length}")
    else (index raw 0).map fun byte => .bool (byte ≠ 0)
  else if dpType = DP_TYPE_VALUE then
    if length ≠ 4 then .error (.malformedPacketError s!"Value DP must be 4 bytes, got {length}")
    else (unpackSigned raw).map .int
  else if dpType = DP_TYPE_STRING then .ok (.str (Utf8.decode raw))
  else if dpType = DP_TYPE_ENUM then
    if length ≠ 1 then .error (.malformedPacketError s!"Enum DP must be 1 byte, got {length}")
    else (index raw 0).map fun byte => .int byte.toNat
  else .ok (.bytes raw)

def decodeDpValue (data : Bytes) : Except PyError (UInt8 × UInt8 × DpValue) :=
  if data.length < _DP_HEADER_SIZE then
    .error (.malformedPacketError s!"DP TLV too short: {data.length} < {_DP_HEADER_SIZE}")
  else do
    let (dpId, dpType, length) ← unpackHeader (data.take _DP_HEADER_SIZE)
    if data.length < _DP_HEADER_SIZE + length then
      .error (.malformedPacketError
        s!"DP TLV truncated: need {_DP_HEADER_SIZE + length} bytes, got {data.length}")
    else
      let raw := (data.drop _DP_HEADER_SIZE).take length
      let value ← decodeRaw dpType length raw
      return (dpId, dpType, value)

/-- The loop of `decode_dps_response`. -/
def decodeDpsFrom (data : Bytes) (offset : Nat) (result : OrderedDict Int DpValue) :
    Except PyError (OrderedDict Int DpValue) :=
  if offset < data.length then
    let remaining := data.drop offset
    if remaining.length < _DP_HEADER_SIZE then
      .error (.malformedPacketError s!"Trailing bytes in DP response at offset {offset}")
    else do
      let (_, _, length) ← unpackHeader (remaining.take _DP_HEADER_SIZE)
      let tlvSize := _DP_HEADER_SIZE + length
      if remaining.length < tlvSize then
        .error (.malformedPacketError s!"DP TLV truncated at offset {offset}")
      else
        let (dpId, _, value) ← decodeDpValue (remaining.take tlvSize)
        decodeDpsFrom data (offset + tlvSize) (result.set dpId.toNat value)
  else .ok result
  termination_by data.length - offset
  decreasing_by
    have header : 0 < _DP_HEADER_SIZE := by decide
    omega

def decodeDpsResponse (data : Bytes) : Except PyError (OrderedDict Int DpValue) :=
  decodeDpsFrom data 0 .empty

/-! ### The grammar -/

/-- The rule of a type for the length of its values. -/
def LengthRule (dpType : UInt8) (length : Nat) : Prop :=
  (dpType = DP_TYPE_BOOLEAN → length = 1) ∧ (dpType = DP_TYPE_VALUE → length = 4) ∧
    (dpType = DP_TYPE_ENUM → length = 1)

instance (dpType : UInt8) (length : Nat) : Decidable (LengthRule dpType length) := by
  unfold LengthRule
  infer_instance

/-- A TLV that is complete and keeps the rule of its type. -/
structure Tlv where
  dpId : UInt8
  dpType : UInt8
  raw : Bytes
  short : raw.length < 256 ^ 2
  rule : LengthRule dpType raw.length

namespace Tlv

def bytes (tlv : Tlv) : Bytes :=
  tlv.dpId :: tlv.dpType :: Bytes.beBytes 2 tlv.raw.length ++ tlv.raw

/-- What the value bytes of a type stand for. -/
def value (tlv : Tlv) : DpValue :=
  if tlv.dpType = DP_TYPE_BOOLEAN then .bool (tlv.raw.headD 0 ≠ 0)
  else if tlv.dpType = DP_TYPE_VALUE then .int (signedValue tlv.raw)
  else if tlv.dpType = DP_TYPE_STRING then .str (Utf8.decode tlv.raw)
  else if tlv.dpType = DP_TYPE_ENUM then .int (tlv.raw.headD 0).toNat
  else .bytes tlv.raw

/-- The entry a TLV makes in the decoded dictionary. -/
def item (tlv : Tlv) : Int × DpValue := (tlv.dpId.toNat, tlv.value)

theorem bytes_length (tlv : Tlv) : tlv.bytes.length = _DP_HEADER_SIZE + tlv.raw.length := by
  simp only [bytes, List.length_append, List.length_cons, Bytes.beBytes_length, _DP_HEADER_SIZE]

/-- The TLV in front. -/
def read : Bytes → Option (Tlv × Bytes)
  | dpId :: dpType :: high :: low :: body =>
    let length := Bytes.beValue [high, low]
    if whole : length ≤ body.length ∧ LengthRule dpType length then
      have same : (body.take length).length = length := List.length_take_of_le whole.1
      some (⟨dpId, dpType, body.take length, by rw [same]; exact Bytes.beValue_lt _,
        by rw [same]; exact whole.2⟩, body.drop length)
    else none
  | _ => none

theorem read_iff {input rest : Bytes} {tlv : Tlv} :
    read input = some (tlv, rest) ↔ input = tlv.bytes ++ rest := by
  constructor
  · intro found
    -- the header is read back from the length that it gives
    unfold read at found
    split at found
    · next dpId dpType high low body =>
      dsimp only at found
      split at found
      · next whole =>
        cases found
        have same : (body.take (Bytes.beValue [high, low])).length = Bytes.beValue [high, low] :=
          List.length_take_of_le whole.1
        have header : Bytes.beBytes 2 (Bytes.beValue [high, low]) = [high, low] :=
          Bytes.beBytes_beValue [high, low]
        simp [bytes, same, header]
      · cases found
    · cases found
  · rintro rfl
    obtain ⟨dpId, dpType, raw, short, rule⟩ := tlv
    -- the two bytes of a length below 65536 stand for it
    have header : Bytes.beBytes 2 raw.length =
        [UInt8.ofNat (raw.length / 256), UInt8.ofNat raw.length] := by
      simp [Bytes.beBytes]
    have length : Bytes.beValue [UInt8.ofNat (raw.length / 256), UInt8.ofNat raw.length] =
        raw.length := by
      rw [← header]
      exact Bytes.beValue_beBytes short
    simp [bytes, header, read, length, rule]

end Tlv

/-- TLVs one after another. -/
def tlvFormat : RecordFormat UInt8 Tlv where
  write := Tlv.bytes
  read := Tlv.read
  nonempty := fun _ => List.cons_ne_nil _ _
  read_iff := Tlv.read_iff

/-! ### What the decoder makes of a TLV -/

theorem decodeRaw_ok (tlv : Tlv) : decodeRaw tlv.dpType tlv.raw.length tlv.raw = .ok tlv.value := by
  obtain ⟨dpId, dpType, raw, short, boolean, number, enum⟩ := tlv
  have first (one : raw.length = 1) : index raw 0 = .ok (raw.headD 0) := by
    obtain ⟨byte, rfl⟩ := List.length_eq_one_iff.mp one
    rfl
  dsimp only [decodeRaw, Tlv.value]
  by_cases isBoolean : dpType = DP_TYPE_BOOLEAN
  · simp [isBoolean, boolean isBoolean, first, Except.map]
  · by_cases isNumber : dpType = DP_TYPE_VALUE
    · simp [isNumber, number isNumber, unpackSigned, Except.map, DP_TYPE_BOOLEAN, DP_TYPE_VALUE]
    · by_cases isEnum : dpType = DP_TYPE_ENUM
      · simp [isEnum, enum isEnum, first, Except.map, DP_TYPE_BOOLEAN, DP_TYPE_VALUE,
          DP_TYPE_STRING, DP_TYPE_ENUM]
      · by_cases isString : dpType = DP_TYPE_STRING
        · simp [isString, DP_TYPE_BOOLEAN, DP_TYPE_VALUE, DP_TYPE_STRING]
        · simp [isBoolean, isNumber, isEnum, isString]

theorem decodeRaw_raises {dpType : UInt8} {raw : Bytes} (broken : ¬LengthRule dpType raw.length) :
    ∃ msg, decodeRaw dpType raw.length raw = .error (.malformedPacketError msg) := by
  unfold decodeRaw
  by_cases boolean : dpType = DP_TYPE_BOOLEAN ∧ raw.length ≠ 1
  · exact ⟨_, by rw [if_pos boolean.1, if_pos boolean.2]⟩
  · by_cases number : dpType = DP_TYPE_VALUE ∧ raw.length ≠ 4
    · exact ⟨_, by rw [number.1, if_neg (by decide), if_pos rfl, if_pos number.2]⟩
    · by_cases enum : dpType = DP_TYPE_ENUM ∧ raw.length ≠ 1
      · exact ⟨_, by rw [enum.1, if_neg (by decide), if_neg (by decide), if_neg (by decide),
          if_pos rfl, if_pos enum.2]⟩
      · exact absurd ⟨by tauto, by tauto, by tauto⟩ broken

/-! ### The loop reads TLVs -/

section Loop

variable {data rest : Bytes} {offset : Nat} {result : OrderedDict Int DpValue}

theorem decodeDpsFrom_end (done : data.drop offset = []) :
    decodeDpsFrom data offset result = .ok result := by
  rw [decodeDpsFrom, if_neg (Nat.not_lt.mpr (List.drop_eq_nil_iff.mp done))]

theorem decodeDpsFrom_trailing (more : data.drop offset ≠ [])
    (few : (data.drop offset).length < _DP_HEADER_SIZE) :
    decodeDpsFrom data offset result =
      .error (.malformedPacketError s!"Trailing bytes in DP response at offset {offset}") := by
  have inside : offset < data.length := Nat.lt_of_not_le fun past => more (List.drop_eq_nil_iff.mpr past)
  rw [decodeDpsFrom, if_pos inside]
  exact if_pos few

theorem decodeDpValue_whole {dpId dpType high low : UInt8} {raw : Bytes}
    (whole : raw.length = Bytes.beValue [high, low]) :
    decodeDpValue (dpId :: dpType :: high :: low :: raw) =
      (decodeRaw dpType raw.length raw).map fun value => (dpId, dpType, value) := by
  have size : (dpId :: dpType :: high :: low :: raw).length = _DP_HEADER_SIZE + raw.length := by
    rw [Nat.add_comm]
    rfl
  have header : unpackHeader ((dpId :: dpType :: high :: low :: raw).take _DP_HEADER_SIZE) =
      .ok (dpId, dpType, raw.length) := by
    rw [whole]
    rfl
  have value : ((dpId :: dpType :: high :: low :: raw).drop _DP_HEADER_SIZE).take raw.length = raw :=
    List.take_length
  unfold decodeDpValue
  rw [if_neg (by omega), header]
  dsimp only [bind, Except.bind]
  rw [if_neg (by omega), value]
  cases decodeRaw dpType raw.length raw with
  | ok value => rfl
  | error error => rfl

theorem decodeDpsFrom_header {dpId dpType high low : UInt8} {body : Bytes}
    (front : data.drop offset = dpId :: dpType :: high :: low :: body) :
    decodeDpsFrom data offset result =
      if body.length < Bytes.beValue [high, low] then
        .error (.malformedPacketError s!"DP TLV truncated at offset {offset}")
      else
        decodeRaw dpType (Bytes.beValue [high, low]) (body.take (Bytes.beValue [high, low])) >>=
          fun value => decodeDpsFrom data (offset + (_DP_HEADER_SIZE + Bytes.beValue [high, low]))
            (result.set dpId.toNat value) := by
  have inside : offset < data.length := by
    apply Nat.lt_of_not_le
    intro past
    rw [List.drop_eq_nil_iff.mpr past] at front
    cases front
  have long : ¬(dpId :: dpType :: high :: low :: body).length < _DP_HEADER_SIZE :=
    Nat.not_lt.mpr (Nat.le_add_left 4 body.length)
  generalize value : Bytes.beValue [high, low] = length
  have header : unpackHeader ((dpId :: dpType :: high :: low :: body).take _DP_HEADER_SIZE) =
      .ok (dpId, dpType, length) := by
    rw [← value]
    rfl
  -- the loop compares with the header, the format with what is behind it
  have truncated : (dpId :: dpType :: high :: low :: body).length < _DP_HEADER_SIZE + length ↔
      body.length < length := by
    simp only [List.length_cons, _DP_HEADER_SIZE]
    omega
  rw [decodeDpsFrom, if_pos inside]
  dsimp only
  rw [front, if_neg long, header]
  dsimp only [bind, Except.bind]
  simp only [truncated]
  split
  · rfl
  · next complete =>
    have tlv : (dpId :: dpType :: high :: low :: body).take (_DP_HEADER_SIZE + length) =
        dpId :: dpType :: high :: low :: body.take length := by
      rw [Nat.add_comm]
      rfl
    have taken : (body.take length).length = length :=
      List.length_take_of_le (Nat.le_of_not_lt complete)
    rw [tlv, decodeDpValue_whole (by rw [taken, value]), taken]
    cases decodeRaw dpType length (body.take length) with
    | ok value => rfl
    | error error => rfl

/-- A round of the loop over a TLV. -/
theorem decodeDpsFrom_tlv {tlv : Tlv} (front : data.drop offset = tlv.bytes ++ rest) :
    decodeDpsFrom data offset result =
      decodeDpsFrom data (offset + tlv.bytes.length) (result.set tlv.item.1 tlv.item.2) := by
  have header : tlv.bytes ++ rest = tlv.dpId :: tlv.dpType :: UInt8.ofNat (tlv.raw.length / 256) ::
      UInt8.ofNat tlv.raw.length :: (tlv.raw ++ rest) := by
    simp [Tlv.bytes, Bytes.beBytes]
  have length : Bytes.beValue [UInt8.ofNat (tlv.raw.length / 256), UInt8.ofNat tlv.raw.length] =
      tlv.raw.length := by
    have same := Bytes.beValue_beBytes tlv.short
    simpa [Bytes.beBytes] using same
  have complete : ¬(tlv.raw ++ rest).length < tlv.raw.length := by
    rw [List.length_append]
    omega
  rw [decodeDpsFrom_header (front.trans header), length, if_neg complete, List.take_left,
    decodeRaw_ok, ← Tlv.bytes_length]
  rfl

/-- A round of the loop where no TLV is. -/
theorem decodeDpsFrom_raises (more : data.drop offset ≠ [])
    (broken : Tlv.read (data.drop offset) = none) :
    ∃ msg, decodeDpsFrom data offset result = .error (.malformedPacketError msg) := by
  match front : data.drop offset with
  | dpId :: dpType :: high :: low :: body =>
    rw [decodeDpsFrom_header front]
    by_cases truncated : body.length < Bytes.beValue [high, low]
    · exact ⟨_, if_pos truncated⟩
    · have same : (body.take (Bytes.beValue [high, low])).length = Bytes.beValue [high, low] :=
        List.length_take_of_le (Nat.le_of_not_lt truncated)
      have rule : ¬LengthRule dpType (body.take (Bytes.beValue [high, low])).length := by
        intro rule
        rw [same] at rule
        rw [front, Tlv.read, dif_pos ⟨Nat.le_of_not_lt truncated, rule⟩] at broken
        cases broken
      obtain ⟨msg, raised⟩ := decodeRaw_raises rule
      rw [same] at raised
      exact ⟨msg, by rw [if_neg truncated, raised]; rfl⟩
  | [] => exact absurd front more
  | [_] => exact ⟨_, decodeDpsFrom_trailing more (by simp [front, _DP_HEADER_SIZE])⟩
  | [_, _] => exact ⟨_, decodeDpsFrom_trailing more (by simp [front, _DP_HEADER_SIZE])⟩
  | [_, _, _] => exact ⟨_, decodeDpsFrom_trailing more (by simp [front, _DP_HEADER_SIZE])⟩

end Loop

/-- The entries of TLVs, assigned in turn. -/
def setItems (result : OrderedDict Int DpValue) (tlvs : List Tlv) : OrderedDict Int DpValue :=
  (tlvs.map Tlv.item).foldl (fun result item => result.set item.1 item.2) result

/-- The loop reads what the format reads. -/
theorem decodeDpsFrom_readAll (data : Bytes) (offset : Nat) (result : OrderedDict Int DpValue) :
    match tlvFormat.readAll (data.drop offset) with
    | some tlvs => decodeDpsFrom data offset result = .ok (setItems result tlvs)
    | none => ∃ msg, decodeDpsFrom data offset result = .error (.malformedPacketError msg) := by
  generalize remaining : data.drop offset = rest
  fun_induction tlvFormat.readAll rest generalizing offset result with
  | case1 => exact decodeDpsFrom_end remaining
  | case2 rest more broken =>
    subst remaining
    exact decodeDpsFrom_raises more broken
  -- a whole TLV is stored, and the loop goes on behind it
  | case3 rest more tlv others found ih =>
    have front := Tlv.read_iff.mp found
    have next : data.drop (offset + tlv.bytes.length) = others := by
      rw [← List.drop_drop, remaining, front, List.drop_left]
    rw [decodeDpsFrom_tlv (remaining.trans front)]
    have round := ih _ (result.set tlv.item.1 tlv.item.2) next
    cases read : tlvFormat.readAll others with
    | some tlvs =>
      rw [read] at round
      exact round
    | none =>
      rw [read] at round
      exact round

/-! ### Acceptance -/

/-- `decode_dps_response` accepts the sequences of whole TLVs and nothing else, and rejects
the rest as malformed. -/
theorem decodeDpsResponse_grammar (data : Bytes) :
    ((∃ result, decodeDpsResponse data = .ok result) ↔
      ∃ tlvs : List Tlv, data = tlvs.flatMap Tlv.bytes) ∧
    (∀ result, decodeDpsResponse data = .ok result →
      ∃ tlvs : List Tlv, data = tlvs.flatMap Tlv.bytes ∧
        (∀ others : List Tlv, data = others.flatMap Tlv.bytes → others = tlvs) ∧
        ∀ dpId, result.get? dpId = (tlvs.map Tlv.item).reverse.lookup dpId) ∧
    ∀ error, decodeDpsResponse data = .error error → ∃ msg, error = .malformedPacketError msg := by
  have whole := decodeDpsFrom_readAll data 0 .empty
  rw [List.drop_zero] at whole
  cases read : tlvFormat.readAll data with
  | some tlvs =>
    rw [read] at whole
    have accepted : decodeDpsResponse data = .ok (setItems .empty tlvs) := whole
    have split : data = tlvs.flatMap Tlv.bytes := tlvFormat.readAll_iff.mp read
    refine ⟨⟨fun _ => ⟨tlvs, split⟩, fun _ => ⟨_, accepted⟩⟩, ?_, ?_⟩
    · intro result done
      cases accepted.symm.trans done
      refine ⟨tlvs, split, ?_, ?_⟩
      · intro others same
        -- a TLV says how long it is, so the bytes split in one way
        exact tlvFormat.writeAll_injective (same.symm.trans split)
      · intro dpId
        rw [setItems, OrderedDict.get?_foldl_set]
        exact Option.or_none
    · intro error failed
      cases accepted.symm.trans failed
  | none =>
    rw [read] at whole
    obtain ⟨msg, rejected⟩ := whole
    have rejected : decodeDpsResponse data = .error (.malformedPacketError msg) := rejected
    refine ⟨⟨?_, ?_⟩, ?_, ?_⟩
    · rintro ⟨result, done⟩
      cases rejected.symm.trans done
    · rintro ⟨tlvs, split⟩
      cases read.symm.trans (tlvFormat.readAll_iff.mpr split)
    · intro result done
      cases rejected.symm.trans done
    · intro error failed
      cases rejected.symm.trans failed
      exact ⟨msg, rfl⟩

/-! ### The round trip -/

theorem signedValue_beBytes {value : Int} (low : -(2 ^ 31) ≤ value) (high : value ≤ 2 ^ 31 - 1) :
    signedValue (Bytes.beBytes 4 (value % 2 ^ 32).toNat) = value := by
  have unsigned : Bytes.beValue (Bytes.beBytes 4 (value % 2 ^ 32).toNat) = (value % 2 ^ 32).toNat :=
    Bytes.beValue_beBytes (by omega)
  rw [signedValue, unsigned]
  split
  · omega
  · omega

theorem encodeValue_ok {value : DpValue} {dpType : UInt8} {encoded : Bytes}
    (done : encodeValue value = .ok (dpType, encoded)) :
    LengthRule dpType encoded.length ∧
      ∀ tlv : Tlv, tlv.dpType = dpType → tlv.raw = encoded → tlv.value = value := by
  cases value with
  | bool value =>
    cases done
    refine ⟨by simp [LengthRule, DP_TYPE_BOOLEAN, DP_TYPE_VALUE, DP_TYPE_ENUM], ?_⟩
    intro tlv isBoolean raw
    rw [Tlv.value, if_pos isBoolean, raw]
    cases value with
    | true => rfl
    | false => rfl
  | int value =>
    dsimp only [encodeValue] at done
    split at done
    · cases done
    · next inRange =>
      have inRange := not_not.mp inRange
      rw [packSigned, if_pos inRange] at done
      cases done
      refine ⟨by simp [LengthRule, DP_TYPE_BOOLEAN, DP_TYPE_VALUE, DP_TYPE_ENUM], ?_⟩
      intro tlv isNumber raw
      rw [Tlv.value, isNumber, if_neg (by decide), if_pos rfl, raw,
        signedValue_beBytes inRange.1 inRange.2]
  | str value =>
    dsimp only [encodeValue] at done
    split at done
    · next encoded text =>
      cases done
      refine ⟨by simp [LengthRule, DP_TYPE_BOOLEAN, DP_TYPE_VALUE, DP_TYPE_STRING, DP_TYPE_ENUM], ?_⟩
      intro tlv isString raw
      rw [Tlv.value, isString, if_neg (by decide), if_neg (by decide), if_pos rfl, raw,
        Utf8.decode_encode text]
    · cases done
  | bytes value =>
    cases done
    refine ⟨by simp [LengthRule, DP_TYPE_BOOLEAN, DP_TYPE_VALUE, DP_TYPE_RAW, DP_TYPE_ENUM], ?_⟩
    intro tlv isRaw raw
    rw [Tlv.value, isRaw, if_neg (by decide), if_neg (by decide), if_neg (by decide),
      if_neg (by decide), raw]

theorem encodeDpValue_ok {dpId : Int} {value : DpValue} {bytes : Bytes}
    (done : encodeDpValue dpId value = .ok bytes) :
    ∃ tlv : Tlv, bytes = tlv.bytes ∧ tlv.item = (dpId, value) := by
  unfold encodeDpValue at done
  split at done
  · cases done
  · next inRange =>
    have inRange := not_not.mp inRange
    obtain ⟨⟨dpType, encoded⟩, ofValue, done⟩ := bind_eq_ok.mp done
    obtain ⟨first, id, done⟩ := bind_eq_ok.mp done
    obtain ⟨length, packed, done⟩ := bind_eq_ok.mp done
    cases done
    rw [packBE_ok (by omega)] at id
    cases id
    -- a longer value does not fit its two bytes, and is refused
    have short : encoded.length < 256 ^ 2 := by
      by_contra long
      rw [packBE, if_neg long] at packed
      cases packed
    rw [packBE_ok short] at packed
    cases packed
    have ⟨rule, same⟩ := encodeValue_ok ofValue
    have back : ((UInt8.ofNat dpId.toNat).toNat : Int) = dpId := by
      rw [Utf8.toNat_ofNat (show dpId.toNat < 256 by omega)]
      omega
    refine ⟨⟨UInt8.ofNat dpId.toNat, dpType, encoded, short, rule⟩, ?_, ?_⟩
    · simp [Tlv.bytes, Bytes.beBytes]
    · rw [Tlv.item, back, same _ rfl rfl]

theorem encodeItems_ok {items : List (Int × DpValue)} {data : Bytes}
    (done : encodeItems items = .ok data) :
    ∃ tlvs : List Tlv, data = tlvs.flatMap Tlv.bytes ∧ tlvs.map Tlv.item = items := by
  induction items generalizing data with
  | nil =>
    cases done
    exact ⟨[], rfl, rfl⟩
  | cons item items ih =>
    obtain ⟨first, encoded, done⟩ := bind_eq_ok.mp done
    obtain ⟨others, rest, done⟩ := bind_eq_ok.mp done
    cases done
    obtain ⟨tlv, rfl, one⟩ := encodeDpValue_ok encoded
    obtain ⟨tlvs, rfl, all⟩ := ih rest
    exact ⟨tlv :: tlvs, List.flatMap_cons.symm, by rw [List.map_cons, one, all]⟩

/-- What `encode_dps_command` makes of a mapping, `decode_dps_response` reads back as an
equal one, each value of its own kind. -/
theorem decode_encodeDpsCommand (dps : OrderedDict Int DpValue) (data : Bytes)
    (encoded : encodeDpsCommand dps = .ok data) :
    ∃ decoded, decodeDpsResponse data = .ok decoded ∧ ∀ dpId, decoded.get? dpId = dps.get? dpId := by
  obtain ⟨tlvs, split, items⟩ := encodeItems_ok encoded
  have whole := decodeDpsFrom_readAll data 0 .empty
  rw [List.drop_zero, tlvFormat.readAll_iff.mpr split] at whole
  refine ⟨setItems .empty tlvs, whole, ?_⟩
  intro dpId
  have sorted : (sortedItems dps).Perm dps.entries := List.perm_insertionSort _ _
  rw [setItems, OrderedDict.get?_foldl_set, items, OrderedDict.lookup_reverse_of_perm sorted]
  exact Option.or_none

/-- A switch, a colour temperature below zero, a mode in two bytes a character, and raw bytes. -/
def sampleDps : OrderedDict Int DpValue :=
  (((OrderedDict.empty.set 9 (.bytes [0x01, 0x02])).set 5
    (.str [Utf8.point 0xE9, Utf8.point 0x1F4A1])).set 3 (.int (-500))).set 1 (.bool true)

theorem sampleDps_decodes : ∃ decoded,
    decodeDpsResponse ([1, 1, 0, 1, 1] ++ [3, 2, 0, 4, 0xFF, 0xFF, 0xFE, 0x0C] ++
      [5, 3, 0, 6, 0xC3, 0xA9, 0xF0, 0x9F, 0x92, 0xA1] ++ [9, 0, 0, 2, 1, 2]) = .ok decoded ∧
    ∀ dpId, decoded.get? dpId = sampleDps.get? dpId :=
  decode_encodeDpsCommand sampleDps _ (by decide +kernel)

end Telink

end TuyaBleMesh
