import Mathlib.Data.List.TakeWhile
import Mathlib.Tactic.Ring
import TuyaBleMesh.Lib.Hex
import TuyaBleMesh.Lib.Regex

/-!
# Numbers in texts

`int` of a text, as Python reads it: white space around it, a sign, the prefix of base 16
and single underscores between the digits. `int` and `strip` do not agree about what is
white space.
-/

namespace TuyaBleMesh

/-- What Unicode says of the letters and digits beyond ASCII. -/
structure TextTables extends CharTables where
  upper : Char → List Char
  digit : Char → Option Nat
  upper_space : ∀ c, space c = true → upper c = [c]

namespace TextTables

variable (tables : TextTables)

/-- `str.upper` of one character. -/
def upperChar (c : Char) : List Char := if c.toNat < 128 then [c.toUpper] else tables.upper c

/-- `str.upper`. -/
def upperText (text : List Char) : List Char := text.flatMap tables.upperChar

/-- What `int` skips around a number. -/
def isIntSpace (c : Char) : Bool :=
  9 ≤ c.toNat && c.toNat ≤ 13 || c.toNat = 32 || 127 < c.toNat && tables.space c

def digitValue (base : Nat) (c : Char) : Option Nat :=
  (if c.toNat < 128 then hexDigitValue c else tables.digit c).filter (· < base)

/-- Digits, with single underscores between them. -/
def digits (base : Nat) : List Char → Option (List Nat)
  | [] => none
  | [c] => (tables.digitValue base c).map ([·])
  | c :: '_' :: rest => do return (← tables.digitValue base c) :: (← digits base rest)
  | c :: rest => do return (← tables.digitValue base c) :: (← digits base rest)

/-- The text behind the prefix of the base. -/
def withoutPrefix (base : Nat) (text : List Char) : List Char :=
  match text with
  | '0' :: x :: '_' :: rest => if base = 16 ∧ (x = 'x' ∨ x = 'X') then rest else text
  | '0' :: x :: rest => if base = 16 ∧ (x = 'x' ∨ x = 'X') then rest else text
  | _ => text

def ofDigits (base : Nat) (values : List Nat) : Nat :=
  values.foldl (fun value digit => value * base + digit) 0

def readNat (base : Nat) (text : List Char) : Option Nat :=
  (tables.digits base (withoutPrefix base text)).map (ofDigits base)

def readSigned (base : Nat) : List Char → Option Int
  | '-' :: rest => (tables.readNat base rest).map fun value => -(value : Int)
  | '+' :: rest => (tables.readNat base rest).map Int.ofNat
  | rest => (tables.readNat base rest).map Int.ofNat

/-- `int(text, base)`, for a base of 10 or 16; `none` is its `ValueError`. -/
def readInt (base : Nat) (text : List Char) : Option Int :=
  tables.readSigned base
    ((text.dropWhile tables.isIntSpace).reverse.dropWhile tables.isIntSpace).reverse

/-! ### White space around a text -/

section Around

variable {space : Char → Bool} {before core after text : List Char}

/-- What is left when white space is taken away on both sides. -/
theorem stripped_around (first : ∀ c ∈ before, space c = true) (last : ∀ c ∈ after, space c = true)
    (bare : ∀ c ∈ core, space c = false) :
    (((before ++ core ++ after).dropWhile space).reverse.dropWhile space).reverse = core := by
  have plain : ∀ c ∈ core.reverse, space c = false := fun c member => bare c (List.mem_reverse.mp member)
  have front (rest : List Char) (core : List Char) (bare : ∀ c ∈ core, space c = false)
      (some : core ≠ []) : (core ++ rest).dropWhile space = core ++ rest := by
    obtain ⟨c, core, rfl⟩ := List.exists_cons_of_ne_nil some
    exact List.dropWhile_cons_of_neg (by rw [bare c List.mem_cons_self]; exact Bool.false_ne_true)
  rw [List.append_assoc, List.dropWhile_append_of_pos first]
  by_cases empty : core = []
  · subst empty
    have gone : after.dropWhile space = [] := List.dropWhile_eq_nil_iff.mpr last
    rw [List.nil_append, gone]
    rfl
  · rw [front after core bare empty, List.reverse_append,
      List.dropWhile_append_of_pos fun c member => last c (List.mem_reverse.mp member)]
    have same : core.reverse.dropWhile space = core.reverse := by
      have := front [] core.reverse plain (fun none => empty (List.reverse_eq_nil_iff.mp none))
      rwa [List.append_nil] at this
    rw [same, List.reverse_reverse]

/-- A text is what is left, between white space. -/
theorem exists_around (space : Char → Bool) (text : List Char) : ∃ before after,
    text = before ++ ((text.dropWhile space).reverse.dropWhile space).reverse ++ after ∧
      (∀ c ∈ before, space c = true) ∧ ∀ c ∈ after, space c = true := by
  refine ⟨text.takeWhile space, ((text.dropWhile space).reverse.takeWhile space).reverse, ?_, ?_, ?_⟩
  · rw [List.append_assoc, ← List.reverse_append, List.takeWhile_append_dropWhile,
      List.reverse_reverse, List.takeWhile_append_dropWhile]
  · exact fun c member => List.mem_takeWhile_imp member
  · exact fun c member => List.mem_takeWhile_imp (List.mem_reverse.mp member)

end Around

/-! ### Hexadecimal numbers -/

/-- `[0-9A-Fa-f]`. -/
def isHexDigit (c : Char) : Bool := (hexDigitValue c).isSome

theorem toNat_of_isHexDigit {c : Char} (hex : isHexDigit c = true) : c.toNat < 128 := by
  have below {c d : Char} (le : c ≤ d) : c.toNat ≤ d.toNat := UInt32.le_iff_toNat_le.mp le
  unfold isHexDigit hexDigitValue at hex
  split at hex
  · next digit =>
    have := (Char.isDigit_iff_toNat.mp digit).2
    have : '9'.toNat = 57 := rfl
    omega
  · split at hex
    · next letter =>
      have := below letter.2
      have : 'f'.toNat = 102 := rfl
      omega
    · split at hex
      · next letter =>
        have := below letter.2
        have : 'F'.toNat = 70 := rfl
        omega
      · cases hex

/-- What holds of the digits in ASCII. -/
theorem of_isHexDigit {P : Char → Prop} {c : Char} (hex : isHexDigit c = true)
    (table : ∀ n : Fin 128, isHexDigit (Char.ofNat n) = true → P (Char.ofNat n)) : P c := by
  have small := toNat_of_isHexDigit hex
  have same : Char.ofNat c.toNat = c := Char.ofNat_toNat c
  rw [← same] at hex ⊢
  exact table ⟨c.toNat, small⟩ hex

theorem ofDigits_lt {base : Nat} {values : List Nat} (small : ∀ v ∈ values, v < base) :
    ofDigits base values < base ^ values.length := by
  have general : ∀ start, values.foldl (fun value digit => value * base + digit) start + 1 ≤
      (start + 1) * base ^ values.length := by
    intro start
    induction values generalizing start with
    | nil => simp
    | cons v values ih =>
      obtain ⟨digit, others⟩ := List.forall_mem_cons.mp small
      calc (v :: values).foldl (fun value digit => value * base + digit) start + 1
        _ ≤ (start * base + v + 1) * base ^ values.length := ih others (start * base + v)
        _ ≤ ((start + 1) * base) * base ^ values.length := by
          apply Nat.mul_le_mul_right
          rw [Nat.succ_mul]
          omega
        _ = (start + 1) * base ^ (v :: values).length := by
          rw [List.length_cons, Nat.pow_succ]
          ring
  have bound := general 0
  rw [Nat.zero_add, Nat.one_mul] at bound
  exact bound

section Hex

variable {word before after : List Char}

/-- The value of hexadecimal digits. -/
def hexValue (word : List Char) : Nat := ofDigits 16 (word.filterMap hexDigitValue)

theorem digitValue_hex {c : Char} (hex : isHexDigit c = true) :
    tables.digitValue 16 c = hexDigitValue c ∧ c ≠ '_' := by
  rw [digitValue, if_pos (toNat_of_isHexDigit hex)]
  refine of_isHexDigit (P := fun c => (hexDigitValue c).filter (· < 16) = hexDigitValue c ∧ c ≠ '_')
    hex ?_
  decide

theorem digits_hex (hex : ∀ c ∈ word, isHexDigit c = true) (some : word ≠ []) :
    tables.digits 16 word = .some (word.filterMap hexDigitValue) := by
  induction word with
  | nil => exact absurd rfl some
  | cons c rest ih =>
    obtain ⟨digit, others⟩ := List.forall_mem_cons.mp hex
    obtain ⟨value, -⟩ := tables.digitValue_hex digit
    obtain ⟨v, isValue⟩ := Option.isSome_iff_exists.mp (show (hexDigitValue c).isSome = true from digit)
    cases rest with
    | nil => simp [digits, value, isValue]
    | cons d rest =>
      obtain ⟨-, plain⟩ := tables.digitValue_hex (others d List.mem_cons_self)
      rw [digits, ih others (List.cons_ne_nil d rest), value, isValue]
      · simp [isValue]
      · exact nofun
      · exact fun _ same => plain (List.cons.inj same).1

theorem length_filterMap_hex (hex : ∀ c ∈ word, isHexDigit c = true) :
    (word.filterMap hexDigitValue).length = word.length := by
  induction word with
  | nil => rfl
  | cons c rest ih =>
    obtain ⟨digit, others⟩ := List.forall_mem_cons.mp hex
    obtain ⟨v, isValue⟩ := Option.isSome_iff_exists.mp (show (hexDigitValue c).isSome = true from digit)
    rw [List.filterMap_cons_some isValue, List.length_cons, List.length_cons, ih others]

theorem hexDigitValue_lt {c : Char} {v : Nat} (isValue : hexDigitValue c = some v) : v < 16 := by
  have hex : isHexDigit c = true := by rw [isHexDigit, isValue]; rfl
  have small : ∀ v ∈ hexDigitValue c, v < 16 :=
    of_isHexDigit (P := fun c => ∀ v ∈ hexDigitValue c, v < 16) hex (by decide)
  exact small v isValue

theorem hexValue_lt (hex : ∀ c ∈ word, isHexDigit c = true) : hexValue word < 16 ^ word.length := by
  rw [← length_filterMap_hex hex]
  apply ofDigits_lt
  intro v member
  obtain ⟨c, -, isValue⟩ := List.mem_filterMap.mp member
  exact hexDigitValue_lt isValue

theorem plain_of_hex {c : Char} (hex : isHexDigit c = true) :
    48 ≤ c.toNat ∧ c ≠ '-' ∧ c ≠ '+' ∧ c ≠ 'x' ∧ c ≠ 'X' := by
  refine of_isHexDigit
    (P := fun c => 48 ≤ c.toNat ∧ c ≠ '-' ∧ c ≠ '+' ∧ c ≠ 'x' ∧ c ≠ 'X') hex ?_
  decide

theorem not_isIntSpace {c : Char} (hex : isHexDigit c = true) : tables.isIntSpace c = false := by
  have low := (plain_of_hex hex).1
  have high := toNat_of_isHexDigit hex
  rw [isIntSpace, decide_eq_false (p := c.toNat ≤ 13) (by omega),
    decide_eq_false (p := c.toNat = 32) (by omega), decide_eq_false (p := 127 < c.toNat) (by omega)]
  simp

theorem withoutPrefix_hex (hex : ∀ c ∈ word, isHexDigit c = true) : withoutPrefix 16 word = word := by
  unfold withoutPrefix
  split
  · next x rest =>
    obtain ⟨-, -, -, lower, upper⟩ := plain_of_hex (hex x (by simp))
    exact if_neg fun both => both.2.elim lower upper
  · next x rest _ =>
    obtain ⟨-, -, -, lower, upper⟩ := plain_of_hex (hex x (by simp))
    exact if_neg fun both => both.2.elim lower upper
  · rfl

theorem readInt_hex (hex : ∀ c ∈ word, isHexDigit c = true) (some : word ≠ [])
    (first : ∀ c ∈ before, tables.isIntSpace c = true)
    (last : ∀ c ∈ after, tables.isIntSpace c = true) :
    tables.readInt 16 (before ++ word ++ after) = .some (hexValue word : Int) := by
  rw [readInt, stripped_around first last fun c member => tables.not_isIntSpace (hex c member)]
  have unsigned : tables.readNat 16 word = .some (hexValue word) := by
    rw [readNat, withoutPrefix_hex hex, tables.digits_hex hex some]
    rfl
  unfold readSigned
  split
  · exact absurd rfl (plain_of_hex (hex '-' List.mem_cons_self)).2.1
  · exact absurd rfl (plain_of_hex (hex '+' List.mem_cons_self)).2.2.1
  · rw [unsigned]
    rfl

/-- A number with nothing around it. -/
theorem readInt_word (hex : ∀ c ∈ word, isHexDigit c = true) (some : word ≠ []) :
    tables.readInt 16 word = .some (hexValue word : Int) := by
  have read : tables.readInt 16 ([] ++ word ++ []) = .some (hexValue word : Int) :=
    tables.readInt_hex hex some nofun nofun
  rwa [List.nil_append, List.append_nil] at read

/-- A number with the prefix `0x`. -/
theorem readInt_prefixed {x : Char} (isPrefix : x = 'x' ∨ x = 'X')
    (hex : ∀ c ∈ word, isHexDigit c = true) (some : word ≠ [])
    (first : ∀ c ∈ before, tables.isIntSpace c = true)
    (last : ∀ c ∈ after, tables.isIntSpace c = true) :
    tables.readInt 16 (before ++ ('0' :: x :: word) ++ after) = .some (hexValue word : Int) := by
  have letter : tables.isIntSpace x = false := by
    rcases isPrefix with rfl | rfl <;> rfl
  have bare : ∀ c ∈ '0' :: x :: word, tables.isIntSpace c = false :=
    List.forall_mem_cons.mpr ⟨rfl, List.forall_mem_cons.mpr
      ⟨letter, fun c member => tables.not_isIntSpace (hex c member)⟩⟩
  have behind : withoutPrefix 16 ('0' :: x :: word) = word := by
    unfold withoutPrefix
    split
    · next x rest same =>
      obtain ⟨rfl, rfl⟩ : _ = x ∧ word = '_' :: rest := by simpa using same
      exact absurd rfl (tables.digitValue_hex (hex '_' List.mem_cons_self)).2
    · next x rest _ same =>
      obtain ⟨rfl, rfl⟩ : _ = x ∧ word = rest := by simpa using same
      exact if_pos ⟨rfl, isPrefix⟩
    · next other => exact absurd rfl (other x word)
  rw [readInt, stripped_around first last bare, readSigned, readNat, behind,
    tables.digits_hex hex some]
  · rfl
  · exact fun _ same => absurd (List.cons.inj same).1 (by decide)
  · exact fun _ same => absurd (List.cons.inj same).1 (by decide)

/-! ### Capitals -/

theorem upperChar_hex {c : Char} (hex : isHexDigit c = true) :
    tables.upperChar c = [c.toUpper] ∧ isHexDigit c.toUpper = true ∧
      hexDigitValue c.toUpper = hexDigitValue c := by
  refine ⟨if_pos (toNat_of_isHexDigit hex), ?_⟩
  refine of_isHexDigit (P := fun c => isHexDigit c.toUpper = true ∧
    hexDigitValue c.toUpper = hexDigitValue c) hex ?_
  decide

/-- The capitals are digits with the same value. -/
theorem upperText_hex (hex : ∀ c ∈ word, isHexDigit c = true) :
    (∀ c ∈ tables.upperText word, isHexDigit c = true) ∧
      (tables.upperText word).length = word.length ∧
      hexValue (tables.upperText word) = hexValue word := by
  have same : tables.upperText word = word.map Char.toUpper := by
    rw [upperText, List.flatMap_congr fun c member => (tables.upperChar_hex (hex c member)).1,
      List.map_eq_flatMap]
  rw [same]
  refine ⟨?_, List.length_map _, ?_⟩
  · intro c member
    obtain ⟨d, inside, rfl⟩ := List.mem_map.mp member
    exact (tables.upperChar_hex (hex d inside)).2.1
  · rw [hexValue, hexValue, List.filterMap_map]
    refine congrArg _ (List.filterMap_congr fun c member => ?_)
    exact (tables.upperChar_hex (hex c member)).2.2

theorem upperText_space (first : ∀ c ∈ before, tables.isIntSpace c = true) :
    tables.upperText before = before := by
  have kept : ∀ c ∈ before, tables.upperChar c = [c] := by
    intro c member
    have space := first c member
    rw [upperChar]
    split
    · next small =>
      have table : ∀ n : Fin 128, (9 ≤ n.val ∧ n.val ≤ 13 ∨ n.val = 32) →
          (Char.ofNat n).toUpper = Char.ofNat n := by decide
      have ascii : 9 ≤ c.toNat ∧ c.toNat ≤ 13 ∨ c.toNat = 32 := by
        rw [isIntSpace, decide_eq_false (p := 127 < c.toNat) (by omega)] at space
        simpa using space
      have same := table ⟨c.toNat, small⟩ ascii
      rw [Char.ofNat_toNat] at same
      rw [same]
    · next large =>
      have unicode : tables.space c = true := by
        rw [isIntSpace, decide_eq_false (p := c.toNat ≤ 13) (by omega),
          decide_eq_false (p := c.toNat = 32) (by omega)] at space
        simp only [Bool.and_false, Bool.false_or, Bool.and_eq_true] at space
        exact space.2
      exact tables.upper_space c unicode
  rw [upperText, List.flatMap_congr kept, List.flatMap_singleton']

/-! ### Texts that are written and typed -/

/-- A number in hexadecimal digits, as `f"{value:0{width}X}"` writes it. -/
theorem hexUpper_hex (width value : Nat) :
    (∀ c ∈ (hexUpper width value).toList, isHexDigit c = true) ∧
      (hexUpper width value).toList ≠ [] ∧ hexValue (hexUpper width value).toList = value := by
  have digit {v : Nat} (small : v < 16) : isHexDigit v.digitChar.toUpper = true ∧
      hexDigitValue v.digitChar.toUpper = some v := by
    have all : ∀ v : Fin 16, isHexDigit v.val.digitChar.toUpper = true ∧
        hexDigitValue v.val.digitChar.toUpper = some v.val := by decide
    exact all ⟨v, small⟩
  have number : (∀ c ∈ (Nat.toDigits 16 value).map Char.toUpper, isHexDigit c = true) ∧
      hexValue ((Nat.toDigits 16 value).map Char.toUpper) = value := by
    induction value using Nat.strongRecOn with
    | ind value ih =>
      rw [Nat.toDigits_eq_if (by decide)]
      split
      · next small =>
        obtain ⟨hex, isValue⟩ := digit small
        refine ⟨by simpa using hex, ?_⟩
        rw [List.map_singleton, hexValue, List.filterMap_cons_some isValue]
        exact Nat.zero_add value
      · next large =>
        have less : value / 16 < value := Nat.div_lt_self (by omega) (by decide)
        obtain ⟨hexes, values⟩ := ih _ less
        obtain ⟨hex, isValue⟩ := digit (Nat.mod_lt value (by decide : 0 < 16))
        rw [List.map_append, List.map_singleton]
        refine ⟨?_, ?_⟩
        · intro c member
          rcases List.mem_append.mp member with left | right
          · exact hexes c left
          · rw [List.mem_singleton.mp right]
            exact hex
        · rw [hexValue, ofDigits, List.filterMap_append, List.foldl_append,
            List.filterMap_cons_some isValue]
          change hexValue _ * 16 + value % 16 = value
          rw [values]
          exact Nat.div_add_mod' value 16
  have zeros (k : Nat) (word : List Char) : hexValue (List.replicate k '0' ++ word) = hexValue word := by
    induction k with
    | zero => rfl
    | succ k ih =>
      have zero : hexDigitValue '0' = some 0 := rfl
      rw [List.replicate_succ, List.cons_append, hexValue, List.filterMap_cons_some zero]
      exact ih
  rw [hexUpper, String.toList_ofList]
  refine ⟨?_, ?_, (zeros _ _).trans number.2⟩
  · intro c member
    rcases List.mem_append.mp member with zero | digits
    · rw [List.eq_of_mem_replicate zero]
      rfl
    · exact number.1 c digits
  · intro empty
    have none := (List.append_eq_nil_iff.mp empty).2
    exact Nat.toDigits_ne_nil (List.map_eq_nil_iff.mp none)

/-- `int` reads what is written. -/
theorem readInt_hexUpper (width value : Nat) :
    tables.readInt 16 (hexUpper width value).toList = some (value : Int) := by
  obtain ⟨hex, some, isValue⟩ := hexUpper_hex width value
  rw [tables.readInt_word hex some, isValue]

/-- `bytes.fromhex` reads any even number of digits. -/
theorem bytesFromHex_word {n : Nat} (length : word.length = 2 * n)
    (hex : ∀ c ∈ word, isHexDigit c = true) :
    ∃ bytes, bytesFromHex word = some bytes ∧ bytes.length = n := by
  induction n generalizing word with
  | zero =>
    rw [List.eq_nil_of_length_eq_zero length]
    exact ⟨[], rfl, rfl⟩
  | succ n ih =>
    obtain ⟨high, low, rest, rfl⟩ : ∃ high low rest, word = high :: low :: rest := by
      rcases word with _ | ⟨high, _ | ⟨low, rest⟩⟩
      · rw [List.length_nil] at length
        omega
      · rw [List.length_singleton] at length
        omega
      · exact ⟨high, low, rest, rfl⟩
    simp only [List.forall_mem_cons] at hex
    obtain ⟨isHigh, isLow, others⟩ := hex
    rw [List.length_cons, List.length_cons] at length
    obtain ⟨bytes, read, count⟩ := ih (by omega) others
    obtain ⟨h, highValue⟩ := Option.isSome_iff_exists.mp (show (hexDigitValue high).isSome = true from isHigh)
    obtain ⟨l, lowValue⟩ := Option.isSome_iff_exists.mp (show (hexDigitValue low).isSome = true from isLow)
    have plain : isAsciiSpace high = false :=
      of_isHexDigit (P := fun c => isAsciiSpace c = false) isHigh (by decide)
    refine ⟨UInt8.ofNat (h * 16 + l) :: bytes, ?_, by rw [List.length_cons, count]⟩
    rw [bytesFromHex, plain, highValue, lowValue, read]
    rfl

/-- `hex()` writes two digits for each byte. -/
theorem hexBytes_word (bytes : List UInt8) : (hexBytes bytes).toList.length = 2 * bytes.length ∧
    ∀ c ∈ (hexBytes bytes).toList, isHexDigit c = true := by
  rw [hexBytes, String.toList_ofList]
  constructor
  · simp [Nat.mul_comm]
  · intro c member
    obtain ⟨byte, -, digit⟩ := List.mem_flatMap.mp member
    have high : byte.toNat / 16 < 16 := by
      have := byte.toNat_lt
      omega
    have low : byte.toNat % 16 < 16 := Nat.mod_lt _ (by decide)
    rcases List.mem_cons.mp digit with rfl | digit
    · rw [isHexDigit, (hexDigitValue_digitChar high).2]
      rfl
    · rw [List.mem_singleton.mp digit, isHexDigit, (hexDigitValue_digitChar low).2]
      rfl

/-- There are no control characters in it. -/
def Typed (text : List Char) : Prop := ∀ c ∈ text, 32 ≤ c.toNat

/-- In a typed text, `strip` and `int` skip the same characters. -/
theorem exists_typed {text : List Char} (typed : Typed text) : ∃ before after,
    text = before ++ tables.strip text ++ after ∧
      (∀ c ∈ before, tables.isIntSpace c = true) ∧ ∀ c ∈ after, tables.isIntSpace c = true := by
  obtain ⟨before, after, around, first, last⟩ := exists_around tables.isSpace text
  have intSpace {c : Char} (inside : c ∈ text) (space : tables.isSpace c = true) :
      tables.isIntSpace c = true := by
    have printable := typed c inside
    unfold CharTables.isSpace at space
    unfold isIntSpace
    rw [decide_eq_false (p := c.toNat ≤ 13) (by omega)] at space ⊢
    simp only [Bool.and_false, Bool.false_or, Bool.or_eq_true, Bool.and_eq_true,
      decide_eq_true_eq] at space ⊢
    rcases space with ascii | unicode
    · exact .inl (by omega)
    · exact .inr unicode
  refine ⟨before, after, around, fun c member => ?_, fun c member => ?_⟩
  · exact intSpace (around ▸ by simp [member]) (first c member)
  · exact intSpace (around ▸ by simp [member]) (last c member)

end Hex

end TextTables

end TuyaBleMesh
