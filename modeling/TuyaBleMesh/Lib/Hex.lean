/-!
# Hexadecimal numbers in texts
-/

namespace TuyaBleMesh

/-- `f"{value:0{width}X}"`. -/
def hexUpper (width value : Nat) : String :=
  let digits := (Nat.toDigits 16 value).map Char.toUpper
  String.ofList (List.replicate (width - digits.length) '0' ++ digits)

example : hexUpper 4 0xB0 = "00B0" := by decide

/-- `bytes.hex()`. -/
def hexBytes (bytes : List UInt8) : String :=
  String.ofList <| bytes.flatMap fun byte =>
    [(byte.toNat / 16).digitChar, (byte.toNat % 16).digitChar]

example : hexBytes [0x0A, 0xF3] = "0af3" := by decide

def hexDigitValue (c : Char) : Option Nat :=
  if c.isDigit then some (c.toNat - '0'.toNat)
  else if 'a' ≤ c ∧ c ≤ 'f' then some (c.toNat - 'a'.toNat + 10)
  else if 'A' ≤ c ∧ c ≤ 'F' then some (c.toNat - 'A'.toNat + 10)
  else none

/-- The white space that `bytes.fromhex` skips. -/
def isAsciiSpace (c : Char) : Bool :=
  c = ' ' || c = '\t' || c = '\n' || c = '\r' || c.toNat = 11 || c.toNat = 12

/-- `bytes.fromhex`; `none` is its `ValueError`. -/
def bytesFromHex : List Char → Option (List UInt8)
  | [] => some []
  | [c] => if isAsciiSpace c then some [] else none
  | c :: d :: rest =>
    if isAsciiSpace c then bytesFromHex (d :: rest)
    else do
      let high ← hexDigitValue c
      let low ← hexDigitValue d
      let bytes ← bytesFromHex rest
      return UInt8.ofNat (high * 16 + low) :: bytes

theorem hexDigitValue_digitChar {digit : Nat} (small : digit < 16) :
    isAsciiSpace digit.digitChar = false ∧ hexDigitValue digit.digitChar = some digit := by
  have all : ∀ digit : Fin 16, isAsciiSpace digit.val.digitChar = false ∧
      hexDigitValue digit.val.digitChar = some digit.val := by decide
  exact all ⟨digit, small⟩

/-- `bytes.fromhex` reads what `hex()` writes. -/
theorem bytesFromHex_hexBytes (bytes : List UInt8) :
    bytesFromHex (hexBytes bytes).toList = some bytes := by
  rw [hexBytes, String.toList_ofList]
  induction bytes with
  | nil => rfl
  | cons byte bytes ih =>
    have high : byte.toNat / 16 < 16 := by
      have := byte.toNat_lt
      omega
    have low : byte.toNat % 16 < 16 := Nat.mod_lt _ (by decide)
    obtain ⟨digit, highValue⟩ := hexDigitValue_digitChar high
    obtain ⟨-, lowValue⟩ := hexDigitValue_digitChar low
    have whole : UInt8.ofNat (byte.toNat / 16 * 16 + byte.toNat % 16) = byte := by
      rw [Nat.div_add_mod', UInt8.ofNat_toNat]
    rw [List.flatMap_cons, List.cons_append, List.cons_append, List.nil_append, bytesFromHex]
    simp only [digit, Bool.false_eq_true, if_false, highValue, lowValue, ih]
    exact congrArg (fun byte => some (byte :: bytes)) whole

end TuyaBleMesh
