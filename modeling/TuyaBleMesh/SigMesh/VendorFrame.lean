import TuyaBleMesh.Lib.Records
import TuyaBleMesh.Telink.CompactDp

/-!
# Tuya vendor frames

`_parse_dp_bytes` and `parse_tuya_vendor_frame` of `sig_mesh_protocol_codec.py`. The parser
reads the compact data points in front of its bytes; a frame is parsed to its end, whatever
length it declares.
-/

namespace TuyaBleMesh

namespace SigMesh

def TUYA_CMD_DP_DATA : UInt8 := 0x01

def TUYA_CMD_TIMESTAMP_SYNC : UInt8 := 0x02

structure TuyaVendorDP where
  dpId : UInt8
  dpType : UInt8
  value : Bytes
  deriving DecidableEq, Repr

structure TuyaVendorFrame where
  command : UInt8
  data : Bytes
  dps : List TuyaVendorDP
  deriving DecidableEq, Repr

/-- The loop of `_parse_dp_bytes`, from `offset` on. -/
def parseDpBytesFrom (data : Bytes) (offset : Nat) : List TuyaVendorDP :=
  if _more : offset < data.length then
    if _short : offset + 3 > data.length then []
    else
      let dpId := data[offset]
      let dpType := data[offset + 1]
      let dpLen := data[offset + 2].toNat
      if offset + 3 + dpLen > data.length then []
      else
        ⟨dpId, dpType, (data.drop (offset + 3)).take dpLen⟩ ::
          parseDpBytesFrom data (offset + 3 + dpLen)
  else []
  termination_by data.length - offset

def parseDpBytes (data : Bytes) : List TuyaVendorDP := parseDpBytesFrom data 0

def parseTuyaVendorFrame (params : Bytes) : TuyaVendorFrame :=
  match params with
  | command :: _ :: data =>
    if command = TUYA_CMD_TIMESTAMP_SYNC then ⟨command, data, []⟩
    else if command = TUYA_CMD_DP_DATA then ⟨command, data, parseDpBytes data⟩
    else ⟨command, params, parseDpBytes params⟩
  -- `len(params) < 2`
  | _ => ⟨0, params, []⟩

/-! ### The wire format -/

/-- A data point that one byte of length is enough for. -/
structure CompactDp extends TuyaVendorDP where
  short : value.length ≤ 255

namespace CompactDp

theorem ext_point {dp other : CompactDp} (same : dp.toTuyaVendorDP = other.toTuyaVendorDP) :
    dp = other := by
  cases dp
  cases other
  cases same
  rfl

def dpLen (dp : CompactDp) : UInt8 := UInt8.ofNat dp.value.length

@[simp] theorem dpLen_toNat (dp : CompactDp) : dp.dpLen.toNat = dp.value.length := by
  rw [dpLen, UInt8.toNat_ofNat', Nat.mod_eq_of_lt (Nat.lt_succ_of_le dp.short)]

/-- `[dp_id][dp_type][dp_len][value]`. -/
def bytes (dp : CompactDp) : Bytes := dp.dpId :: dp.dpType :: dp.dpLen :: dp.value

/-- The complete data point in front, and what follows it. -/
def split : Bytes → Option (CompactDp × Bytes)
  | dpId :: dpType :: dpLen :: rest =>
    if dpLen.toNat ≤ rest.length then
      some (⟨⟨dpId, dpType, rest.take dpLen.toNat⟩,
        (List.length_take_le _ _).trans (Nat.le_of_lt_succ dpLen.toNat_lt)⟩,
        rest.drop dpLen.toNat)
    else none
  | _ => none

theorem split_iff {input rest : Bytes} {dp : CompactDp} :
    split input = some (dp, rest) ↔ input = dp.bytes ++ rest := by
  constructor
  · intro found
    match input, found with
    | dpId :: dpType :: dpLen :: tail, found =>
      rw [split] at found
      split at found
      · next complete =>
        cases found
        -- the length byte is that of the value that was taken
        have length : UInt8.ofNat (tail.take dpLen.toNat).length = dpLen := by
          rw [List.length_take_of_le complete, UInt8.ofNat_toNat]
        rw [bytes, CompactDp.dpLen, length, List.cons_append, List.cons_append, List.cons_append,
          List.take_append_drop]
      · cases found
  · rintro rfl
    have complete : dp.dpLen.toNat ≤ (dp.value ++ rest).length := by
      rw [dpLen_toNat, List.length_append]
      exact Nat.le_add_right _ _
    have value : dp.value = (dp.value ++ rest).take dp.dpLen.toNat := by
      rw [dpLen_toNat, List.take_left]
    have same : dp = ⟨⟨dp.dpId, dp.dpType, (dp.value ++ rest).take dp.dpLen.toNat⟩,
        (List.length_take_le _ _).trans (Nat.le_of_lt_succ dp.dpLen.toNat_lt)⟩ :=
      ext_point (congrArg (TuyaVendorDP.mk dp.dpId dp.dpType) value)
    rw [bytes, List.cons_append, List.cons_append, List.cons_append, split, if_pos complete,
      ← same, dpLen_toNat, List.drop_left]

end CompactDp

def compactFormat : RecordFormat UInt8 CompactDp where
  write := CompactDp.bytes
  read := CompactDp.split
  nonempty _ := List.cons_ne_nil _ _
  read_iff := CompactDp.split_iff

theorem drop_three {data : Bytes} {offset : Nat} (header : offset + 3 ≤ data.length) :
    data.drop offset = data[offset] :: data[offset + 1] :: data[offset + 2] ::
      data.drop (offset + 3) := by
  rw [List.drop_eq_getElem_cons, List.drop_eq_getElem_cons, List.drop_eq_getElem_cons]

/-- The loop reads the complete data points in front of what is left. -/
theorem parseDpBytesFrom_eq (data : Bytes) (offset : Nat) :
    parseDpBytesFrom data offset =
      (compactFormat.readFront (data.drop offset)).1.map (·.toTuyaVendorDP) := by
  fun_induction parseDpBytesFrom data offset with
  | case1 offset more short =>
    -- not even a header is left
    have few : (data.drop offset).length < 3 := by
      rw [List.length_drop]
      omega
    have none : compactFormat.read (data.drop offset) = none := by
      match left : data.drop offset, few with
      | [], _ => rfl
      | [_], _ => rfl
      | [_, _], _ => rfl
    rw [compactFormat.readFront_of_none none]
    rfl
  | case2 offset more short dpLen truncated =>
    -- the value is cut off
    have beyond : ¬dpLen ≤ (data.drop (offset + 3)).length := by
      rw [List.length_drop]
      omega
    have none : compactFormat.read (data.drop offset) = none := by
      rw [drop_three (by omega)]
      exact if_neg beyond
    rw [compactFormat.readFront_of_none none]
    rfl
  | case3 offset more short dpId dpType dpLen complete ih =>
    have inside : dpLen ≤ (data.drop (offset + 3)).length := by
      rw [List.length_drop]
      omega
    have found : compactFormat.read (data.drop offset) =
        some (⟨⟨dpId, dpType, (data.drop (offset + 3)).take dpLen⟩,
          (List.length_take_le _ _).trans (Nat.le_of_lt_succ data[offset + 2].toNat_lt)⟩,
          data.drop (offset + 3 + dpLen)) := by
      have after : data.drop (offset + 3 + dpLen) = (data.drop (offset + 3)).drop dpLen :=
        List.drop_drop.symm
      rw [drop_three (by omega), after]
      exact if_pos inside
    rw [compactFormat.readFront_of_some found, ih]
    rfl
  | case4 offset done =>
    have nothing : data.drop offset = [] := List.drop_of_length_le (Nat.le_of_not_lt done)
    rw [nothing, compactFormat.readFront_nil]
    rfl

theorem parseDpBytes_eq (data : Bytes) :
    parseDpBytes data = (compactFormat.readFront data).1.map (·.toTuyaVendorDP) :=
  parseDpBytesFrom_eq data 0

/-! ### What is read -/

theorem parseDpBytes_flatMap (dps : List CompactDp) :
    parseDpBytes (dps.flatMap CompactDp.bytes) = dps.map (·.toTuyaVendorDP) := by
  rw [parseDpBytes_eq]
  exact congrArg _ (compactFormat.readFront_writeAll dps)

/-- The arguments of `encode_compact_dp`. -/
structure CompactArguments where
  dpId : Int
  dpType : Int
  value : Int
  deriving DecidableEq, Repr

def CompactArguments.encode (point : CompactArguments) : Except PyError Bytes :=
  Telink.encodeCompactDp point.dpId point.dpType point.value

/-- The data point that is encoded. -/
def CompactArguments.dp (point : CompactArguments) : CompactDp where
  dpId := UInt8.ofNat point.dpId.toNat
  dpType := UInt8.ofNat point.dpType.toNat
  value := Telink.compactValue point.dpType point.value
  short := (Telink.compactValue_length _ _).trans (by decide)

theorem flatten_encode {points : List CompactArguments} {outputs : List Bytes}
    (done : points.mapM CompactArguments.encode = .ok outputs) :
    outputs.flatten = compactFormat.writeAll (points.map CompactArguments.dp) := by
  induction points generalizing outputs with
  | nil =>
    cases done
    rfl
  | cons point points ih =>
    rw [List.mapM_cons] at done
    obtain ⟨output, encoded, done⟩ := bind_eq_ok.mp done
    obtain ⟨others, rest, done⟩ := bind_eq_ok.mp done
    cases done
    rw [List.flatten_cons, ih rest, Telink.encodeCompactDp_eq encoded]
    rfl

/-- A list of data points is read back in order. Of any bytes the data points of the longest
prefix that consists of complete ones are read, and one that is cut off is left out. -/
theorem parseDpBytes_longest_prefix :
    (∀ dps : List CompactDp,
      parseDpBytes (dps.flatMap CompactDp.bytes) = dps.map (·.toTuyaVendorDP)) ∧
    (∀ (points : List CompactArguments) (outputs : List Bytes),
      points.mapM CompactArguments.encode = .ok outputs →
      parseDpBytes outputs.flatten = points.map fun point => point.dp.toTuyaVendorDP) ∧
    (∀ data, ∃ (dps : List CompactDp) (rest : Bytes),
      parseDpBytes data = dps.map (·.toTuyaVendorDP) ∧
      data = dps.flatMap CompactDp.bytes ++ rest ∧
      ∀ others : List CompactDp, others.flatMap CompactDp.bytes <+: data → others <+: dps) ∧
    (∀ (dps : List CompactDp) (last : CompactDp) (n : Nat), n < last.bytes.length →
      parseDpBytes (dps.flatMap CompactDp.bytes ++ last.bytes.take n) =
        dps.map (·.toTuyaVendorDP)) := by
  refine ⟨parseDpBytes_flatMap, ?_, ?_, ?_⟩
  · intro points outputs done
    calc parseDpBytes outputs.flatten
        = parseDpBytes ((points.map CompactArguments.dp).flatMap CompactDp.bytes) :=
          congrArg _ (flatten_encode done)
      _ = (points.map CompactArguments.dp).map (·.toTuyaVendorDP) := parseDpBytes_flatMap _
      _ = points.map fun point => point.dp.toTuyaVendorDP := List.map_map
  · intro data
    refine ⟨_, _, parseDpBytes_eq data, (compactFormat.writeAll_readFront data).symm, ?_⟩
    intro others starts
    exact compactFormat.prefix_readFront starts
  · intro dps last n cut
    -- the data point that is cut off is not read, and so ends the list
    have none : compactFormat.read (last.bytes.take n) = none := compactFormat.read_take cut
    have front := compactFormat.readFront_writeAll_append dps (last.bytes.take n)
    rw [compactFormat.readFront_of_none none, List.append_nil] at front
    rw [parseDpBytes_eq]
    exact congrArg _ (congrArg Prod.fst front)

/-! ### The declared length -/

/-- The data points of a frame lie within the bytes it declares, and what follows these has
no effect on them. -/
def HonoursLength (dataLength : UInt8) (data : Bytes) : Prop :=
  (∃ dps : List CompactDp,
    (parseTuyaVendorFrame (TUYA_CMD_DP_DATA :: dataLength :: data)).dps =
      dps.map (·.toTuyaVendorDP) ∧
    dps.flatMap CompactDp.bytes <+: data.take dataLength.toNat) ∧
  (parseTuyaVendorFrame (TUYA_CMD_DP_DATA :: dataLength :: data)).dps =
    (parseTuyaVendorFrame (TUYA_CMD_DP_DATA :: dataLength :: data.take dataLength.toNat)).dps

theorem parseTuyaVendorFrame_dps (dataLength : UInt8) (data : Bytes) :
    (parseTuyaVendorFrame (TUYA_CMD_DP_DATA :: dataLength :: data)).dps = parseDpBytes data := rfl

theorem map_point_injective :
    Function.Injective (List.map fun dp : CompactDp => dp.toTuyaVendorDP) :=
  List.map_injective_iff.mpr fun _ _ same => CompactDp.ext_point same

/-- The length is honoured exactly when the complete data points in front of the data are
not longer. -/
theorem honoursLength_iff (dataLength : UInt8) (data : Bytes) :
    HonoursLength dataLength data ↔
      ∀ dps : List CompactDp, dps.flatMap CompactDp.bytes <+: data →
        (dps.flatMap CompactDp.bytes).length ≤ dataLength.toNat := by
  have part := compactFormat.readFront_take data dataLength.toNat
  rw [HonoursLength, parseTuyaVendorFrame_dps, parseTuyaVendorFrame_dps, parseDpBytes_eq,
    parseDpBytes_eq]
  constructor
  · rintro ⟨-, same⟩
    exact part.mp (map_point_injective same).symm
  · intro fits
    have same := part.mpr fits
    refine ⟨⟨_, rfl, ?_⟩, congrArg _ same.symm⟩
    rw [← same]
    exact ⟨_, compactFormat.writeAll_readFront _⟩

/-- Data points that fill exactly the declared bytes, and more of them behind. -/
def samplePower : CompactDp := ⟨⟨18, 2, [5]⟩, by decide⟩

def samplePadding : CompactDp := ⟨⟨18, 2, [99]⟩, by decide⟩

/-- The four bytes behind the declared ones are read as a second power reading. -/
theorem trailing_bytes_are_read :
    (parseTuyaVendorFrame [0x01, 0x04, 18, 2, 1, 5, 18, 2, 1, 99]).dps =
        [⟨18, 2, [5]⟩, ⟨18, 2, [99]⟩] ∧
      ¬HonoursLength 0x04 [18, 2, 1, 5, 18, 2, 1, 99] := by
  have all := parseDpBytes_flatMap [samplePower, samplePadding]
  have declared := parseDpBytes_flatMap [samplePower]
  constructor
  · exact all
  · rintro ⟨-, same⟩
    have equal := all.symm.trans (same.trans declared)
    revert equal
    decide

end SigMesh

end TuyaBleMesh
