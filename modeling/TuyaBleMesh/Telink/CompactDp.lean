import TuyaBleMesh.Telink.DataPoints
import TuyaBleMesh.Lib.Hex

/-!
# Compact data points

`encode_compact_dp` of `protocol.py`: one byte for the length of the value, where the
standard format has two.
-/

namespace TuyaBleMesh

namespace Telink

/-- The value of a data point, by its type. -/
def encodeCompactValue (dpType value : Int) : Except PyError Bytes :=
  if dpType = DP_TYPE_BOOLEAN.toNat then .ok [if value ≠ 0 then 1 else 0]
  else if dpType = DP_TYPE_VALUE.toNat then
    if ¬(0 ≤ value ∧ value ≤ 0xFFFFFFFF) then
      .error (.protocolError s!"Value must be 0..0xFFFFFFFF for dp_type VALUE, got {value}")
    else packBE 4 value.toNat
  else .error (.protocolError s!"Unsupported compact dp_type: 0x{hexUpper 2 dpType.toNat}")

def encodeCompactDp (dpId dpType value : Int) : Except PyError Bytes :=
  if ¬(1 ≤ dpId ∧ dpId ≤ 0xFF) then
    .error (.protocolError s!"dp_id must be 1..255, got {dpId}")
  else if ¬(0 ≤ dpType ∧ dpType ≤ 0xFF) then
    .error (.protocolError s!"dp_type must be 0..255, got {dpType}")
  else do
    let encoded ← encodeCompactValue dpType value
    let first ← packBE 1 dpId.toNat
    let second ← packBE 1 dpType.toNat
    let length ← packBE 1 encoded.length
    return first ++ second ++ length ++ encoded

/-- The bytes of a value that can be sent. -/
def compactValue (dpType value : Int) : Bytes :=
  if dpType = DP_TYPE_BOOLEAN.toNat then [if value ≠ 0 then 1 else 0]
  else Bytes.beBytes 4 value.toNat

theorem encodeCompactValue_eq {dpType value : Int} {encoded : Bytes}
    (done : encodeCompactValue dpType value = .ok encoded) :
    encoded = compactValue dpType value := by
  unfold encodeCompactValue at done
  unfold compactValue
  split at done
  · next boolean =>
    cases done
    rw [if_pos boolean]
  · next other =>
    split at done
    · split at done
      · cases done
      · next inside =>
        have fits : value.toNat < 256 ^ 4 := by omega
        rw [packBE, if_pos fits] at done
        cases done
        rw [if_neg other]
    · cases done

theorem compactValue_length (dpType value : Int) : (compactValue dpType value).length ≤ 4 := by
  unfold compactValue
  split
  · exact Nat.le_of_ble_eq_true rfl
  · exact (Bytes.beBytes_length _ _).le

/-- What a data point that is encoded consists of. -/
theorem encodeCompactDp_eq {dpId dpType value : Int} {bytes : Bytes}
    (done : encodeCompactDp dpId dpType value = .ok bytes) :
    bytes = UInt8.ofNat dpId.toNat :: UInt8.ofNat dpType.toNat ::
      UInt8.ofNat (compactValue dpType value).length :: compactValue dpType value := by
  unfold encodeCompactDp at done
  split at done
  · cases done
  · next idInside =>
    split at done
    · cases done
    · next typeInside =>
      obtain ⟨encoded, sendable, done⟩ := bind_eq_ok.mp done
      have short := compactValue_length dpType value
      rw [← encodeCompactValue_eq sendable] at short ⊢
      have first : dpId.toNat < 256 ^ 1 := by omega
      have second : dpType.toNat < 256 ^ 1 := by omega
      have third : encoded.length < 256 ^ 1 := by omega
      simp only [packBE, if_pos first, if_pos second, if_pos third] at done
      cases done
      simp [Bytes.beBytes]

end Telink

end TuyaBleMesh
