import Mathlib.Data.List.Basic

/-!
# UTF-8

Texts as lists of code points, with surrogates among them. Encoding refuses a
surrogate. Decoding reads byte by byte and puts U+FFFD for every beginning of a
character that the next byte, or the end, does not complete.
-/

abbrev CodePoint := Fin 0x110000

namespace Utf8

/-! ### Encoding -/

/-- `none` for a surrogate. -/
def encodePoint (point : CodePoint) : Option (List UInt8) :=
  if valid : point.val.isValidChar then some (String.utf8EncodeChar (Char.ofNatAux point.val valid))
  else none

def encode (text : List CodePoint) : Option (List UInt8) := (text.mapM encodePoint).map List.flatten

/-! ### Decoding -/

/-- The beginning of a character: how many bytes it still needs, where the next one has to lie,
and the bits so far. -/
structure Beginning where
  left : Nat
  low : Nat
  high : Nat
  value : Nat
  deriving DecidableEq

def replacement : CodePoint := 0xFFFD

def point (value : Nat) : CodePoint := Fin.ofNat 0x110000 value

/-- The first byte of a character: the points that are read, and the beginning after it. -/
def start (byte : UInt8) : List CodePoint × Option Beginning :=
  let b := byte.toNat
  if b ≤ 0x7F then ([point b], none)
  else if b < 0xC2 then ([replacement], none)
  else if b ≤ 0xDF then ([], some ⟨1, 0x80, 0xBF, b % 32⟩)
  else if b ≤ 0xEF then
    -- no overlong forms, no surrogates
    ([], some ⟨2, if b = 0xE0 then 0xA0 else 0x80, if b = 0xED then 0x9F else 0xBF, b % 16⟩)
  else if b ≤ 0xF4 then
    ([], some ⟨3, if b = 0xF0 then 0x90 else 0x80, if b = 0xF4 then 0x8F else 0xBF, b % 8⟩)
  else ([replacement], none)

def step (begun : Option Beginning) (byte : UInt8) : List CodePoint × Option Beginning :=
  match begun with
  | none => start byte
  | some ⟨left, low, high, value⟩ =>
    let b := byte.toNat
    if low ≤ b ∧ b ≤ high then
      let value := value * 64 + b % 64
      if left ≤ 1 then ([point value], none) else ([], some ⟨left - 1, 0x80, 0xBF, value⟩)
    else
      -- the byte begins the next character
      let (points, next) := start byte
      (replacement :: points, next)

def decodeFrom : Option Beginning → List UInt8 → List CodePoint
  | none, [] => []
  | some _, [] => [replacement]
  | begun, byte :: bytes =>
    let (points, next) := step begun byte
    points ++ decodeFrom next bytes

def decode (bytes : List UInt8) : List CodePoint := decodeFrom none bytes

/-! ### Decoding what was encoded -/

section RoundTrip

theorem decodeFrom_step {begun next : Option Beginning} {byte : UInt8} (points : List CodePoint)
    (stepped : step begun byte = (points, next)) (bytes : List UInt8) :
    decodeFrom begun (byte :: bytes) = points ++ decodeFrom next bytes := by
  cases begun with
  | none => simp only [decodeFrom, stepped]
  | some beginning => simp only [decodeFrom, stepped]

theorem toNat_ofNat {b : Nat} (small : b < 256) : (UInt8.ofNat b).toNat = b :=
  UInt8.toNat_ofNat_of_lt small

/-- A byte that continues a character. -/
theorem decodeFrom_continue {left low high value b : Nat} (bytes : List UInt8) (more : 1 < left)
    (small : b < 256) (above : low ≤ b) (below : b ≤ high) :
    decodeFrom (some ⟨left, low, high, value⟩) (UInt8.ofNat b :: bytes) =
      decodeFrom (some ⟨left - 1, 0x80, 0xBF, value * 64 + b % 64⟩) bytes := by
  apply decodeFrom_step []
  simp only [step, toNat_ofNat small]
  rw [if_pos ⟨above, below⟩, if_neg (Nat.not_le_of_lt more)]

/-- The last byte of a character. -/
theorem decodeFrom_finish {low high value b : Nat} (bytes : List UInt8) (small : b < 256)
    (above : low ≤ b) (below : b ≤ high) :
    decodeFrom (some ⟨1, low, high, value⟩) (UInt8.ofNat b :: bytes) =
      point (value * 64 + b % 64) :: decodeFrom none bytes := by
  apply decodeFrom_step [_]
  simp only [step, toNat_ofNat small]
  rw [if_pos ⟨above, below⟩, if_pos (Nat.le_refl 1)]

theorem point_val (c : CodePoint) : point c.val = c :=
  Fin.ext (Nat.mod_eq_of_lt c.isLt)

/-! One lemma for each length of a character. -/

section Lengths

variable {v : Nat} (rest : List UInt8)

theorem decodeFrom_one (small : v ≤ 0x7F) :
    decodeFrom none (UInt8.ofNat v :: rest) = point v :: decodeFrom none rest := by
  have toNat := toNat_ofNat (Nat.lt_of_le_of_lt small (by decide : 0x7F < 256))
  apply decodeFrom_step [_]
  simp only [step, start, toNat]
  rw [if_pos small]

theorem decodeFrom_two (low : 0x7F < v) (high : v ≤ 0x7FF) :
    decodeFrom none (UInt8.ofNat (v / 64 % 32 + 0xC0) :: UInt8.ofNat (v % 64 + 0x80) :: rest) =
      point v :: decodeFrom none rest := by
  have begun : step none (UInt8.ofNat (v / 64 % 32 + 0xC0)) =
      ([], some ⟨1, 0x80, 0xBF, v / 64⟩) := by
    have bits : (v / 64 % 32 + 0xC0) % 32 = v / 64 := by omega
    simp only [step, start, toNat_ofNat (show v / 64 % 32 + 0xC0 < 256 by omega), bits]
    rw [if_neg (by omega), if_neg (by omega), if_pos (by omega)]
  have whole : v / 64 * 64 + (v % 64 + 0x80) % 64 = v := by omega
  rw [decodeFrom_step [] begun, decodeFrom_finish rest (by omega) (by omega) (by omega), whole]
  rfl

theorem decodeFrom_three (low : 0x7FF < v) (high : v ≤ 0xFFFF) (valid : v < 0xD800 ∨ 0xDFFF < v) :
    decodeFrom none (UInt8.ofNat (v / 4096 % 16 + 0xE0) :: UInt8.ofNat (v / 64 % 64 + 0x80) ::
      UInt8.ofNat (v % 64 + 0x80) :: rest) = point v :: decodeFrom none rest := by
  have begun : step none (UInt8.ofNat (v / 4096 % 16 + 0xE0)) =
      ([], some ⟨2, if v / 4096 = 0 then 0xA0 else 0x80, if v / 4096 = 13 then 0x9F else 0xBF,
        v / 4096⟩) := by
    have overlong : v / 4096 % 16 + 0xE0 = 0xE0 ↔ v / 4096 = 0 := by omega
    have surrogate : v / 4096 % 16 + 0xE0 = 0xED ↔ v / 4096 = 13 := by omega
    have bits : (v / 4096 % 16 + 0xE0) % 16 = v / 4096 := by omega
    simp only [step, start, toNat_ofNat (show v / 4096 % 16 + 0xE0 < 256 by omega), overlong,
      surrogate, bits]
    rw [if_neg (by omega), if_neg (by omega), if_neg (by omega), if_pos (by omega)]
  have whole : (v / 4096 * 64 + (v / 64 % 64 + 0x80) % 64) * 64 + (v % 64 + 0x80) % 64 = v := by
    omega
  rw [decodeFrom_step [] begun, decodeFrom_continue _ (by decide) (by omega) (by split <;> omega)
    (by split <;> omega), decodeFrom_finish rest (by omega) (by omega) (by omega), whole]
  rfl

theorem decodeFrom_four (low : 0xFFFF < v) (high : v < 0x110000) :
    decodeFrom none (UInt8.ofNat (v / 262144 % 8 + 0xF0) :: UInt8.ofNat (v / 4096 % 64 + 0x80) ::
      UInt8.ofNat (v / 64 % 64 + 0x80) :: UInt8.ofNat (v % 64 + 0x80) :: rest) =
        point v :: decodeFrom none rest := by
  have begun : step none (UInt8.ofNat (v / 262144 % 8 + 0xF0)) =
      ([], some ⟨3, if v / 262144 = 0 then 0x90 else 0x80, if v / 262144 = 4 then 0x8F else 0xBF,
        v / 262144⟩) := by
    have overlong : v / 262144 % 8 + 0xF0 = 0xF0 ↔ v / 262144 = 0 := by omega
    have beyond : v / 262144 % 8 + 0xF0 = 0xF4 ↔ v / 262144 = 4 := by omega
    have bits : (v / 262144 % 8 + 0xF0) % 8 = v / 262144 := by omega
    simp only [step, start, toNat_ofNat (show v / 262144 % 8 + 0xF0 < 256 by omega), overlong,
      beyond, bits]
    rw [if_neg (by omega), if_neg (by omega), if_neg (by omega), if_neg (by omega),
      if_pos (by omega)]
  have whole : ((v / 262144 * 64 + (v / 4096 % 64 + 0x80) % 64) * 64 +
      (v / 64 % 64 + 0x80) % 64) * 64 + (v % 64 + 0x80) % 64 = v := by omega
  rw [decodeFrom_step [] begun, decodeFrom_continue _ (by decide) (by omega) (by split <;> omega)
    (by split <;> omega), decodeFrom_continue _ (by decide) (by omega) (by omega) (by omega),
    decodeFrom_finish rest (by omega) (by omega) (by omega), whole]
  rfl

end Lengths

theorem decodeFrom_encodePoint {c : CodePoint} {bytes : List UInt8}
    (encoded : encodePoint c = some bytes) (rest : List UInt8) :
    decodeFrom none (bytes ++ rest) = c :: decodeFrom none rest := by
  by_cases valid : c.val.isValidChar
  · rw [encodePoint, dif_pos valid] at encoded
    cases encoded
    have notSurrogate : c.val < 0xD800 ∨ 0xDFFF < c.val ∧ c.val < 0x110000 := valid
    have value : (Char.ofNatAux c.val valid).val.toNat = c.val := rfl
    generalize Char.ofNatAux c.val valid = char at value
    simp only [String.utf8EncodeChar, value]
    conv_rhs => rw [← point_val c]
    split
    · next one => exact decodeFrom_one rest one
    · split
      · next one two => exact decodeFrom_two rest (Nat.lt_of_not_le one) two
      · split
        · next two three =>
          exact decodeFrom_three rest (Nat.lt_of_not_le two) three
            (notSurrogate.imp id And.left)
        · next three => exact decodeFrom_four rest (Nat.lt_of_not_le three) c.isLt
  · rw [encodePoint, dif_neg valid] at encoded
    cases encoded

theorem decodeFrom_mapM {text : List CodePoint} {parts : List (List UInt8)}
    (encoded : text.mapM encodePoint = some parts) : decodeFrom none parts.flatten = text := by
  induction text generalizing parts with
  | nil =>
    cases encoded
    rfl
  | cons c text ih =>
    rw [List.mapM_cons] at encoded
    obtain ⟨first, point, encoded⟩ := Option.bind_eq_some_iff.mp encoded
    obtain ⟨others, rest, encoded⟩ := Option.bind_eq_some_iff.mp encoded
    cases encoded
    rw [List.flatten_cons, decodeFrom_encodePoint point, ih rest]

/-- A text that can be encoded is read back. -/
theorem decode_encode {text : List CodePoint} {bytes : List UInt8}
    (encoded : encode text = some bytes) : decode bytes = text := by
  obtain ⟨parts, parted, rfl⟩ := Option.map_eq_some_iff.mp encoded
  exact decodeFrom_mapM parted

end RoundTrip

end Utf8
