import Mathlib.Algebra.Group.Nat.Defs
import Mathlib.Data.List.Forall2
import Mathlib.Data.List.TakeWhile

/-!
# Addresses and their spellings

Python's `ipaddress`, as far as addresses, networks and the texts of addresses go, and the
spellings of an address that a system resolver reads besides: what `inet_aton` takes for an
IPv4 address, and the textual forms of an IPv6 address.
-/

inductive IpAddress
  | v4 (value : Nat)
  | v6 (value : Nat)
  deriving DecidableEq

/-- An `ip_network`. -/
structure IpNetwork where
  address : IpAddress
  prefixLength : Nat

/-- `addr in net`; an address is in no network of the other version. -/
def IpNetwork.contains (net : IpNetwork) : IpAddress → Bool
  | .v4 value =>
    match net.address with
    | .v4 base => value >>> (32 - net.prefixLength) = base >>> (32 - net.prefixLength)
    | .v6 _ => false
  | .v6 value =>
    match net.address with
    | .v4 _ => false
    | .v6 base => value >>> (128 - net.prefixLength) = base >>> (128 - net.prefixLength)

namespace IpAddress

/-! ### Numerals -/

def isDecimalDigit (c : Char) : Bool := '0' ≤ c && c ≤ '9'

def isOctalDigit (c : Char) : Bool := '0' ≤ c && c ≤ '7'

def isHexDigit (c : Char) : Bool :=
  isDecimalDigit c || 'a' ≤ c && c ≤ 'f' || 'A' ≤ c && c ≤ 'F'

def digitValue (c : Char) : Nat :=
  if isDecimalDigit c then c.toNat - '0'.toNat
  else if 'a' ≤ c && c ≤ 'f' then c.toNat - 'a'.toNat + 10
  else c.toNat - 'A'.toNat + 10

/-- The number that the digits spell. -/
def numeral (base : Nat) (digits : List Char) : Nat :=
  digits.foldl (fun n c => n * base + digitValue c) 0

/-- The number whose places to the base are given, the highest first. -/
def fromPlaces (base : Nat) (places : List Nat) : Nat :=
  places.foldl (fun n place => n * base + place) 0

/-! ### `ipaddress` -/

/-- `IPv4Address._parse_octet`. -/
def parseOctet (text : List Char) : Option Nat :=
  if text = [] ∨ text.all isDecimalDigit = false ∨ 3 < text.length then none
  else if text ≠ ['0'] ∧ text.head? = some '0' then none
  else if 255 < numeral 10 text then none
  else some (numeral 10 text)

/-- `IPv4Address`. -/
def parseIpv4 (text : List Char) : Option Nat :=
  let octets := text.splitOn '.'
  if octets.length ≠ 4 then none
  else (octets.mapM parseOctet).map (fromPlaces 256)

/-- `IPv6Address._parse_hextet`. -/
def parseHextet (text : List Char) : Option Nat :=
  if text = [] ∨ text.all isHexDigit = false ∨ 4 < text.length then none
  else some (numeral 16 text)

/-- A dotted last part is replaced by two hextets. -/
def replaceDotted (parts : List (List Char)) : Option (List (List Char)) :=
  let last := parts.getLast?.getD []
  if '.' ∈ last then
    (parseIpv4 last).map fun value =>
      parts.dropLast ++ [Nat.toDigits 16 (value / 0x10000), Nat.toDigits 16 (value % 0x10000)]
  else some parts

/-- Where the hextets of an address stand: the parts in front of the zeros that are left out,
and those behind them. -/
def hextets (parts : List (List Char)) : Option (List (List Char) × List (List Char)) :=
  let interior := parts.tail.dropLast
  let before := interior.takeWhile (· ≠ [])
  match interior.dropWhile (· ≠ []) with
  | [] =>
    if parts.length ≠ 8 ∨ parts.head? = some [] ∨ parts.getLast? = some [] then none
    else some (parts, [])
  | _ :: more =>
    if [] ∈ more then none
    else
      let skipIndex := before.length + 1
      let high := parts.take skipIndex
      let low := parts.drop (skipIndex + 1)
      -- an address begins or ends with two colons, never with one
      if high.head? = some [] ∧ high.length ≠ 1 then none
      else if low.getLast? = some [] ∧ low.length ≠ 1 then none
      else
        let high := if high.head? = some [] then [] else high
        let low := if low.getLast? = some [] then [] else low
        if 8 ≤ high.length + low.length then none else some (high, low)

/-- `IPv6Address`, for a text without a scope. -/
def parseIpv6 (text : List Char) : Option Nat := do
  let parts := text.splitOn ':'
  if parts.length < 3 then none
  let parts ← replaceDotted parts
  if 9 < parts.length then none
  let (high, low) ← hextets parts
  let high ← high.mapM parseHextet
  let low ← low.mapM parseHextet
  return fromPlaces 0x10000 (high ++ List.replicate (8 - (high.length + low.length)) 0 ++ low)

/-- `ip_address`. -/
def ipAddress (text : List Char) : Option IpAddress :=
  match parseIpv4 text with
  | some value => some (.v4 value)
  | none => (parseIpv6 text).map .v6

/-! ### Other readings -/

/-- One number of an IPv4 address, as `inet_aton` reads it. -/
def atonPart (text : List Char) : Option Nat :=
  match text with
  | [] => none
  | '0' :: rest =>
    match rest with
    | 'x' :: digits | 'X' :: digits =>
      if digits = [] ∨ digits.all isHexDigit = false then none else some (numeral 16 digits)
    | digits => if digits.all isOctalDigit then some (numeral 8 digits) else none
  | digits => if digits.all isDecimalDigit then some (numeral 10 digits) else none

/-- `inet_aton`: one to four numbers, of which the last one fills what is left. -/
def inetAton (text : List Char) : Option Nat := do
  let numbers ← (text.splitOn '.').mapM atonPart
  let last ← numbers.getLast?
  let places := numbers.dropLast
  if 3 < places.length ∨ places.any (255 < ·) ∨ 256 ^ (4 - places.length) ≤ last then none
  return fromPlaces 256 places * 256 ^ (4 - places.length) + last

/-- The hextets of an address, or of a part of one, joined by colons. -/
def Hextets (text : List Char) (values : List Nat) : Prop :=
  text = [] ∧ values = [] ∨
    ∃ parts, parts ≠ [] ∧ text = [':'].intercalate parts ∧ parts.mapM parseHextet = some values

/-- Hextets of which the last two may be spelled as an IPv4 address. -/
def Tail (text : List Char) (values : List Nat) : Prop :=
  Hextets text values ∨
    ∃ first values' quad value, Hextets first values' ∧ parseIpv4 quad = some value ∧
      text = (if first = [] then quad else first ++ ':' :: quad) ∧
      values = values' ++ [value / 0x10000, value % 0x10000]

/-- The text is a spelling of the IPv6 address. -/
inductive SpellsIpv6 : List Char → Nat → Prop
  | full (text : List Char) (values : List Nat) (spelled : Tail text values)
      (length : values.length = 8) : SpellsIpv6 text (fromPlaces 0x10000 values)
  /-- Two colons stand for one or more hextets that are zero. -/
  | compressed (high low : List Char) (before after : List Nat) (spelledHigh : Hextets high before)
      (spelledLow : Tail low after) (room : before.length + after.length < 8) :
      SpellsIpv6 (high ++ ':' :: ':' :: low) (fromPlaces 0x10000
        (before ++ List.replicate (8 - (before.length + after.length)) 0 ++ after))
  | zoned (text zone : List Char) (value : Nat) (spelled : SpellsIpv6 text value) :
      SpellsIpv6 (text ++ '%' :: zone) value

/-- The text may be read as the address. An IPv6 address to which an IPv4 address is mapped
denotes that address as well. -/
inductive Denotes : List Char → IpAddress → Prop
  | aton (text : List Char) (value : Nat) (read : inetAton text = some value) :
      Denotes text (.v4 value)
  | ipv6 (text : List Char) (value : Nat) (spelled : SpellsIpv6 text value) :
      Denotes text (.v6 value)
  | mapped (text : List Char) (value : Nat) (small : value < 2 ^ 32)
      (spelled : SpellsIpv6 text (0xFFFF * 2 ^ 32 + value)) : Denotes text (.v4 value)

/-! ### Lists of parts -/

section Parts

variable {α β : Type*} {f g : α → Option β} {xs : List α} {ys : List β}

theorem mapM_eq_some_iff :
    xs.mapM f = some ys ↔ List.Forall₂ (fun x y => f x = some y) xs ys := by
  induction xs generalizing ys with
  | nil =>
    rw [List.forall₂_nil_left_iff]
    exact ⟨fun same => (Option.some.inj same).symm, fun same => same ▸ rfl⟩
  | cons x xs ih =>
    simp only [List.mapM_cons, List.forall₂_cons_left_iff, Option.bind_eq_bind,
      Option.bind_eq_some_iff, Option.pure_def, Option.some.injEq, ih]
    constructor
    · rintro ⟨y, first, rest, others, rfl⟩
      exact ⟨y, rest, first, others, rfl⟩
    · rintro ⟨y, rest, first, others, rfl⟩
      exact ⟨y, first, rest, others, rfl⟩

theorem mapM_eq_some_of (implies : ∀ x y, f x = some y → g x = some y)
    (mapped : xs.mapM f = some ys) : xs.mapM g = some ys :=
  mapM_eq_some_iff.mpr ((mapM_eq_some_iff.mp mapped).imp fun x y => implies x y)

theorem exists_of_mapM {x : α} (mapped : xs.mapM f = some ys) (member : x ∈ xs) :
    ∃ y, f x = some y := by
  have related := mapM_eq_some_iff.mp mapped
  induction related with
  | nil => cases member
  | cons first _ ih =>
    rcases List.mem_cons.mp member with rfl | later
    · exact ⟨_, first⟩
    · exact ih (mapM_eq_some_iff.mpr (by assumption)) later

theorem forall₂_exists_left {R : α → β → Prop} (related : List.Forall₂ R xs ys) {y : β}
    (member : y ∈ ys) : ∃ x, R x y := by
  induction related with
  | nil => cases member
  | cons first _ ih =>
    rcases List.mem_cons.mp member with rfl | later
    · exact ⟨_, first⟩
    · exact ih later

/-- What is in a joined text is in one of its parts, or is the separator. -/
theorem mem_intercalate {sep c : α} {parts : List (List α)} (member : c ∈ [sep].intercalate parts) :
    c = sep ∨ ∃ part ∈ parts, c ∈ part := by
  induction parts with
  | nil => cases member
  | cons part parts ih =>
    by_cases last : parts = []
    · rw [last, List.intercalate_singleton] at member
      exact .inr ⟨part, List.mem_cons_self, member⟩
    · rw [List.intercalate_cons_of_ne_nil last, List.mem_append, List.mem_append,
        List.mem_singleton] at member
      rcases member with (here | same) | later
      · exact .inr ⟨part, List.mem_cons_self, here⟩
      · exact .inl same
      · rcases ih later with same | ⟨part', member, inside⟩
        · exact .inl same
        · exact .inr ⟨part', List.mem_cons_of_mem part member, inside⟩

theorem mem_intercalate_of_mem {sep c : α} {part : List α} {parts : List (List α)}
    (member : part ∈ parts) (inside : c ∈ part) : c ∈ [sep].intercalate parts := by
  induction parts with
  | nil => cases member
  | cons first parts ih =>
    by_cases last : parts = []
    · rw [last, List.mem_singleton] at member
      rw [last, List.intercalate_singleton, ← member]
      exact inside
    · rw [List.intercalate_cons_of_ne_nil last]
      rcases List.mem_cons.mp member with rfl | later
      · exact List.mem_append_left _ (List.mem_append_left _ inside)
      · exact List.mem_append_right _ (ih later)

theorem mem_of_mem_splitOn [BEq α] [LawfulBEq α] {sep c : α} {text part : List α}
    (member : part ∈ text.splitOn sep) (inside : c ∈ part) : c ∈ text := by
  have joined : [sep].intercalate (text.splitOn sep) = text := List.intercalate_splitOn sep
  rw [← joined]
  exact mem_intercalate_of_mem member inside

end Parts

/-! ### IPv4 -/

theorem fromPlaces_snoc (base : Nat) (places : List Nat) (last : Nat) :
    fromPlaces base (places ++ [last]) = fromPlaces base places * base + last := by
  rw [fromPlaces, List.foldl_append]
  rfl

/-- An octet without leading zeros is a decimal number for `inet_aton`, too. -/
theorem parseOctet_aton (text : List Char) (value : Nat) (parsed : parseOctet text = some value) :
    atonPart text = some value ∧ value ≤ 255 := by
  unfold parseOctet at parsed
  split at parsed
  · cases parsed
  · next digits =>
    simp only [not_or, Bool.not_eq_false, Nat.not_lt] at digits
    obtain ⟨some, all, _⟩ := digits
    split at parsed
    · cases parsed
    · next zero =>
      split at parsed
      · cases parsed
      · next small =>
        cases parsed
        refine ⟨?_, Nat.not_lt.mp small⟩
        cases text with
        | nil => exact absurd rfl some
        | cons c rest =>
          by_cases leading : c = '0'
          · -- the only octet that begins with a zero
            have alone : c :: rest = ['0'] := by
              by_contra other
              exact zero ⟨other, by rw [leading]; rfl⟩
            rw [alone]
            rfl
          · unfold atonPart
            split
            · next same => cases same
            · next same => exact absurd (List.cons.inj same).1 leading
            · rw [if_pos all]

/-- What Python reads as an IPv4 address, `inet_aton` reads as the same one. -/
theorem parseIpv4_aton {text : List Char} {value : Nat} (parsed : parseIpv4 text = some value) :
    inetAton text = some value := by
  simp only [parseIpv4] at parsed
  split at parsed
  · cases parsed
  · next four =>
    obtain ⟨numbers, mapped, rfl⟩ := Option.map_eq_some_iff.mp parsed
    have related := mapM_eq_some_iff.mp mapped
    have length : numbers.length = 4 := related.length_eq.symm.trans (not_not.mp four)
    have small : ∀ number ∈ numbers, number ≤ 255 := by
      intro number member
      obtain ⟨part, octet⟩ := forall₂_exists_left related member
      exact (parseOctet_aton part number octet).2
    have aton : (text.splitOn '.').mapM atonPart = some numbers :=
      mapM_eq_some_of (fun part number octet => (parseOctet_aton part number octet).1) mapped
    -- four octets: `inet_aton` gives the last one a single byte, too
    obtain ⟨a, b, c, d, rfl⟩ : ∃ a b c d, numbers = [a, b, c, d] := by
      match numbers, length with
      | [a, b, c, d], _ => exact ⟨a, b, c, d, rfl⟩
    have fits : ¬ (3 < [a, b, c].length ∨ [a, b, c].any (255 < ·) ∨
        256 ^ (4 - [a, b, c].length) ≤ d) := by
      simp only [List.mem_cons, List.not_mem_nil, or_false, forall_eq_or_imp, forall_eq] at small
      simp
      omega
    simp only [inetAton, aton, Option.bind_eq_bind, Option.bind_some, List.getLast?_cons_cons,
      List.getLast?_singleton, List.dropLast_cons_cons, List.dropLast_singleton, if_neg fits]
    exact congrArg some (fromPlaces_snoc 256 [a, b, c] d).symm

theorem not_mem_of_all {accepts : Char → Bool} {digits : List Char}
    (all : digits.all accepts = true) {c : Char} (other : accepts c = false) : c ∉ digits := by
  intro member
  have accepted := List.all_eq_true.mp all c member
  rw [other] at accepted
  cases accepted

theorem colon_not_mem_of_atonPart {text : List Char} {number : Nat}
    (read : atonPart text = some number) : ':' ∉ text := by
  unfold atonPart at read
  split at read
  · cases read
  · next rest =>
    have inside : ':' ∉ rest := by
      split at read
      · next digits =>
        split at read
        · cases read
        · next hex =>
          rw [not_or, Bool.not_eq_false] at hex
          simpa using not_mem_of_all hex.2 (c := ':') (by decide)
      · next digits =>
        split at read
        · cases read
        · next hex =>
          rw [not_or, Bool.not_eq_false] at hex
          simpa using not_mem_of_all hex.2 (c := ':') (by decide)
      · split at read
        · next octal => exact not_mem_of_all octal (by decide)
        · cases read
    simpa using inside
  · split at read
    · next decimal => exact not_mem_of_all decimal (by decide)
    · cases read

/-- A text that `inet_aton` reads has no colon. -/
theorem colon_not_mem_of_aton {text : List Char} {value : Nat}
    (read : inetAton text = some value) : ':' ∉ text := by
  intro member
  obtain ⟨numbers, mapped, _⟩ := Option.bind_eq_some_iff.mp read
  have joined : ['.'].intercalate (text.splitOn '.') = text := List.intercalate_splitOn '.'
  rw [← joined] at member
  rcases mem_intercalate member with same | ⟨part, inside, colon⟩
  · cases same
  · obtain ⟨number, spelled⟩ := exists_of_mapM mapped inside
    exact colon_not_mem_of_atonPart spelled colon

/-! ### IPv6 -/

theorem parseIpv4_eq_none {text : List Char} (undotted : '.' ∉ text) : parseIpv4 text = none := by
  simp [parseIpv4, List.splitOn_eq_singleton undotted]

theorem parseIpv6_eq_none {text : List Char} (plain : ':' ∉ text) : parseIpv6 text = none := by
  simp [parseIpv6, List.splitOn_eq_singleton plain]

theorem parseHextet_some {text : List Char} {value : Nat} (parsed : parseHextet text = some value) :
    text ≠ [] ∧ text.all isHexDigit = true := by
  unfold parseHextet at parsed
  split at parsed
  · cases parsed
  · next hex =>
    rw [not_or, not_or, Bool.not_eq_false] at hex
    exact ⟨hex.1, hex.2.1⟩

/-- The parts that a text without hextets, or one of hextets, is split into. -/
def padded (parts : List (List Char)) : List (List Char) := if parts = [] then [[]] else parts

/-- Splitting recovers the hextets. -/
theorem Hextets.split {text : List Char} {values : List Nat} (spelled : Hextets text values) :
    ∃ parts, parts.mapM parseHextet = some values ∧ text.splitOn ':' = padded parts := by
  rcases spelled with ⟨rfl, rfl⟩ | ⟨parts, some, rfl, mapped⟩
  · exact ⟨[], rfl, rfl⟩
  · refine ⟨parts, mapped, ?_⟩
    rw [padded, if_neg some]
    apply List.splitOn_intercalate _ _ some
    intro part member
    obtain ⟨value, parsed⟩ := exists_of_mapM mapped member
    exact not_mem_of_all (parseHextet_some parsed).2 (by decide)

/-- A tail without a dot is one of hextets. -/
theorem Tail.hextets {text : List Char} {values : List Nat} (spelled : Tail text values)
    (undotted : '.' ∉ text) : Hextets text values := by
  rcases spelled with plain | ⟨first, values', quad, value, _, parsed, rfl, _⟩
  · exact plain
  · have inside : '.' ∈ quad := by
      by_contra missing
      rw [parseIpv4_eq_none missing] at parsed
      cases parsed
    exfalso
    apply undotted
    split
    · exact inside
    · exact List.mem_append_right _ (List.mem_cons_of_mem _ inside)

section Split

variable {parts high low : List (List Char)}

theorem replaceDotted_eq (undotted : ∀ part ∈ parts, '.' ∉ part) :
    replaceDotted parts = some parts := by
  simp only [replaceDotted]
  rw [if_neg]
  cases last : parts.getLast? with
  | none => exact List.not_mem_nil
  | some part => exact undotted part (List.mem_of_getLast? last)

/-- Eight hextets stand for themselves. -/
theorem hextets_full (filled : ∀ part ∈ parts, part ≠ []) (length : parts.length = 8) :
    hextets parts = some (parts, []) := by
  have interior : parts.tail.dropLast.dropWhile (· ≠ []) = [] := by
    rw [List.dropWhile_eq_nil_iff]
    intro part member
    simpa using filled part (List.mem_of_mem_tail (List.dropLast_subset _ member))
  simp only [hextets, interior]
  rw [if_neg]
  rintro (short | head | last)
  · exact short length
  · exact filled [] (List.mem_of_head? head) rfl
  · exact filled [] (List.mem_of_getLast? last) rfl

theorem unpadded (parts : List (List Char)) :
    (if parts = [] then [] else padded parts) = parts := by
  by_cases empty : parts = []
  · rw [if_pos empty, empty]
  · rw [if_neg empty, padded, if_neg empty]

theorem padded_length (parts : List (List Char)) :
    (padded parts).length = max 1 parts.length := by
  cases parts with
  | nil => rfl
  | cons first rest => exact (Nat.max_eq_right (Nat.le_add_left 1 rest.length)).symm

theorem padded_of_nil (parts : List (List Char)) :
    ¬ (parts = [] ∧ (padded parts).length ≠ 1) := by
  rintro ⟨rfl, long⟩
  exact long rfl

theorem padded_cons (filled : ∀ part ∈ high, part ≠ []) :
    ∃ first rest, padded high = first :: rest ∧ (∀ part ∈ rest, part ≠ []) ∧
      (first = [] ↔ high = []) := by
  cases high with
  | nil => exact ⟨[], [], rfl, by simp, by simp⟩
  | cons first rest =>
    refine ⟨first, rest, rfl, fun part member => filled part (List.mem_cons_of_mem _ member), ?_⟩
    simpa using filled first List.mem_cons_self

theorem padded_snoc (filled : ∀ part ∈ low, part ≠ []) :
    ∃ rest last, padded low = rest ++ [last] ∧ (∀ part ∈ rest, part ≠ []) ∧
      (last = [] ↔ low = []) := by
  rcases List.eq_nil_or_concat low with rfl | ⟨rest, last, rfl⟩
  · exact ⟨[], [], rfl, by simp, by simp⟩
  · refine ⟨rest, last, ?_, fun part member => filled part (by simp [member]), ?_⟩
    · simp [padded]
    · simpa using filled last (by simp)

/-- Two colons leave the hextets on both sides of them. -/
theorem hextets_compressed (filledHigh : ∀ part ∈ high, part ≠ [])
    (filledLow : ∀ part ∈ low, part ≠ []) (room : high.length + low.length < 8) :
    hextets (padded high ++ [] :: padded low) = some (high, low) := by
  obtain ⟨first, front, splitHigh, filledFront, emptyFirst⟩ := padded_cons filledHigh
  obtain ⟨back, last, splitLow, filledBack, emptyLast⟩ := padded_snoc filledLow
  -- the search for the empty part leaves out the first and the last one
  have interior : (padded high ++ [] :: padded low).tail.dropLast = front ++ [] :: back := by
    rw [splitHigh, splitLow, List.cons_append, List.tail_cons, ← List.cons_append,
      ← List.append_assoc, List.dropLast_concat]
  have before : (front ++ [] :: back).takeWhile (· ≠ []) = front := by
    rw [List.takeWhile_append_of_pos (by simpa using filledFront)]
    simp
  have after : (front ++ [] :: back).dropWhile (· ≠ []) = [] :: back := by
    rw [List.dropWhile_append_of_pos (by simpa using filledFront)]
    simp
  have single : ([] : List Char) ∉ back := fun member => filledBack [] member rfl
  have length : front.length + 1 = (padded high).length := by rw [splitHigh, List.length_cons]
  have headEmpty : (padded high).head? = some [] ↔ high = [] := by
    rw [splitHigh, List.head?_cons, Option.some.injEq, emptyFirst]
  have lastEmpty : (padded low).getLast? = some [] ↔ low = [] := by
    rw [splitLow, List.getLast?_concat, Option.some.injEq, emptyLast]
  have take : (padded high ++ [] :: padded low).take (front.length + 1) = padded high := by
    rw [length, List.take_left]
  have drop : (padded high ++ [] :: padded low).drop (front.length + 1 + 1) = padded low := by
    rw [length, ← List.drop_drop, List.drop_left]
    rfl
  simp only [hextets, interior, before, after, if_neg single, take, drop, headEmpty, lastEmpty]
  rw [if_neg (padded_of_nil high), if_neg (padded_of_nil low), unpadded, unpadded,
    if_neg (Nat.not_le.mpr room)]

end Split

theorem filled_of_hextets {parts : List (List Char)} {values : List Nat}
    (mapped : parts.mapM parseHextet = some values) : ∀ part ∈ parts, part ≠ [] := by
  intro part member
  obtain ⟨value, parsed⟩ := exists_of_mapM mapped member
  exact (parseHextet_some parsed).1

theorem parseIpv6_eq {text : List Char} {parts high low : List (List Char)}
    {before after : List Nat} (split : text.splitOn ':' = parts) (undotted : '.' ∉ text)
    (colons : 3 ≤ parts.length) (few : parts.length ≤ 9)
    (found : hextets parts = some (high, low)) (mapHigh : high.mapM parseHextet = some before)
    (mapLow : low.mapM parseHextet = some after) :
    parseIpv6 text = some (fromPlaces 0x10000
      (before ++ List.replicate (8 - (before.length + after.length)) 0 ++ after)) := by
  have plain : replaceDotted parts = some parts := by
    apply replaceDotted_eq
    intro part member dot
    rw [← split] at member
    exact undotted (mem_of_mem_splitOn member dot)
  simp only [parseIpv6, split, if_neg (Nat.not_lt.mpr colons), plain,
    if_neg (Nat.not_lt.mpr few), found, mapHigh, mapLow, Option.bind_eq_bind, Option.bind_some]
  rfl

/-- Every spelling with neither a dot nor a zone is read as the address that it spells. -/
theorem parseIpv6_of_spells {text : List Char} {value : Nat} (spelled : SpellsIpv6 text value)
    (undotted : '.' ∉ text) (unzoned : '%' ∉ text) : parseIpv6 text = some value := by
  cases spelled with
  | full _ values tail length =>
    obtain ⟨parts, mapped, split⟩ := (tail.hextets undotted).split
    have eight : parts.length = 8 := (mapM_eq_some_iff.mp mapped).length_eq.trans length
    have some : parts ≠ [] := by
      rintro rfl
      cases eight
    rw [padded, if_neg some] at split
    rw [parseIpv6_eq split undotted (by omega) (by omega)
      (hextets_full (filled_of_hextets mapped) eight) mapped rfl, length]
    simp
  | compressed high low before after spelledHigh spelledLow room =>
    have undottedLow : '.' ∉ low := fun dot => undotted (by simp [dot])
    obtain ⟨highParts, mapHigh, splitHigh⟩ := spelledHigh.split
    obtain ⟨lowParts, mapLow, splitLow⟩ := (spelledLow.hextets undottedLow).split
    have split : (high ++ ':' :: ':' :: low).splitOn ':' =
        padded highParts ++ [] :: padded lowParts := by
      rw [List.splitOn_append_cons_self, ← List.nil_append (':' :: low),
        List.splitOn_append_cons_self, splitHigh, splitLow]
      rfl
    have lengthHigh := (mapM_eq_some_iff.mp mapHigh).length_eq
    have lengthLow := (mapM_eq_some_iff.mp mapLow).length_eq
    have length : (padded highParts ++ [] :: padded lowParts).length =
        max 1 before.length + (max 1 after.length + 1) := by
      rw [List.length_append, List.length_cons, padded_length, padded_length, lengthHigh, lengthLow]
    exact parseIpv6_eq split undotted (by omega) (by omega)
      (hextets_compressed (filled_of_hextets mapHigh) (filled_of_hextets mapLow) (by omega))
      mapHigh mapLow
  | zoned text zone value spelled =>
    exact absurd (List.mem_append_right _ List.mem_cons_self) unzoned

theorem Hextets.length_le {text : List Char} {values : List Nat} (spelled : Hextets text values)
    (plain : ':' ∉ text) : values.length ≤ 1 := by
  obtain ⟨parts, mapped, split⟩ := spelled.split
  have length : max 1 parts.length = 1 := by
    rw [← padded_length, ← split, List.splitOn_eq_singleton plain, List.length_singleton]
  rw [← (mapM_eq_some_iff.mp mapped).length_eq]
  omega

/-- A spelling of an IPv6 address has a colon. -/
theorem colon_mem_of_spells {text : List Char} {value : Nat} (spelled : SpellsIpv6 text value) :
    ':' ∈ text := by
  induction spelled with
  | full text values tail length =>
    by_contra plain
    -- without a colon there is one hextet or one quad, and not eight values
    rcases tail with hextets | ⟨first, values', quad, value, hextets, _, rfl, rfl⟩
    · have few := hextets.length_le plain
      omega
    · rw [List.length_append, List.length_cons, List.length_singleton] at length
      split at plain
      · next empty =>
        have few := hextets.length_le (by rw [empty]; exact List.not_mem_nil)
        omega
      · exact plain (List.mem_append_right _ List.mem_cons_self)
  | compressed high low _ _ _ _ _ => exact List.mem_append_right _ List.mem_cons_self
  | zoned text zone value _ ih => exact List.mem_append_left _ ih

end IpAddress
