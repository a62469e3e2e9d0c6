import Mathlib.Data.List.Basic

/-!
# Regular expressions

The dialect of Python's `re`, as far as greedy patterns without groups go: a backtracking
matcher that lists the ends of the matches in the order in which they are tried, `match`
and `sub`. What Unicode says of the characters beyond ASCII is a parameter.
-/

/-- What Unicode says of the characters beyond ASCII. -/
structure CharTables where
  decimal : Char → Bool
  alphanumeric : Char → Bool
  space : Char → Bool

namespace CharTables

variable (tables : CharTables)

/-- `\d`. -/
def isDecimal (c : Char) : Bool := c.isDigit || 127 < c.toNat && tables.decimal c

/-- `\w`. -/
def isWord (c : Char) : Bool :=
  c.isAlphanum || c = '_' || 127 < c.toNat && tables.alphanumeric c

/-- `str.isspace` of one character. -/
def isSpace (c : Char) : Bool :=
  9 ≤ c.toNat && c.toNat ≤ 13 || 28 ≤ c.toNat && c.toNat ≤ 32 ||
    127 < c.toNat && tables.space c

/-- `str.strip`. -/
def strip (text : List Char) : List Char :=
  ((text.dropWhile tables.isSpace).reverse.dropWhile tables.isSpace).reverse

/-- A stripped text does not end with white space. -/
theorem strip_ne_append {text word : List Char} {c : Char} (space : tables.isSpace c = true) :
    tables.strip text ≠ word ++ [c] := by
  intro same
  have kept : (text.dropWhile tables.isSpace).reverse.dropWhile tables.isSpace =
      c :: word.reverse := by
    rw [← List.reverse_reverse (List.dropWhile _ _), ← strip, same, List.reverse_concat]
  have first := List.head?_dropWhile_not tables.isSpace (text.dropWhile tables.isSpace).reverse
  rw [kept, List.head?_cons] at first
  exact Bool.noConfusion (space.symm.trans first)

end CharTables

inductive Regex
  | char (accepts : Char → Bool)
  | seq (first second : Regex)
  | alt (first second : Regex)
  /-- `r{n}`. -/
  | times (n : Nat) (r : Regex)
  /-- `r{0,n}`. -/
  | upTo (n : Nat) (r : Regex)
  /-- `r*`, for an `r` that matches no empty text. -/
  | star (r : Regex)
  /-- `\b`. -/
  | boundary
  /-- `$`. -/
  | atEnd

/-- A position in a text, with the character before it. -/
structure Position where
  before : Option Char
  rest : List Char
  deriving DecidableEq

namespace Regex

def literal (c : Char) : Regex := .char (· = c)

/-- `[first-last]`. -/
def range (first last : Char) : Regex := .char fun c => first ≤ c && c ≤ last

/-- `r?`. -/
def opt (r : Regex) : Regex := .upTo 1 r

/-- `r+`. -/
def plus (r : Regex) : Regex := .seq r (.star r)

/-- `r{m,n}`. -/
def between (m n : Nat) (r : Regex) : Regex := .seq (.times m r) (.upTo (n - m) r)

/-- The alternatives, the first of which is tried first. -/
def oneOf (first : Regex) (others : List Regex) : Regex := others.foldl .alt first

/-- One after the other. -/
def inTurn (first : Regex) (others : List Regex) : Regex := others.foldl .seq first

/-! ### Matching -/

def repeated (step : Position → List Position) : Nat → Position → List Position
  | 0, p => [p]
  | n + 1, p => (step p).flatMap (repeated step n)

/-- As often as possible first. -/
def greedy (step : Position → List Position) : Nat → Position → List Position
  | 0, p => [p]
  | n + 1, p => (step p).flatMap (greedy step n) ++ [p]

/-- Where a match from the position ends, in the order in which it is tried. -/
def ends (isWord : Char → Bool) : Regex → Position → List Position
  | .char accepts, p =>
    match p.rest with
    | [] => []
    | c :: rest => if accepts c then [⟨some c, rest⟩] else []
  | .seq first second, p => (first.ends isWord p).flatMap (second.ends isWord)
  | .alt first second, p => first.ends isWord p ++ second.ends isWord p
  | .times n r, p => repeated (r.ends isWord) n p
  | .upTo n r, p => greedy (r.ends isWord) n p
  | .star r, p => greedy (r.ends isWord) p.rest.length p
  | .boundary, p =>
    if p.before.any isWord != p.rest.head?.any isWord then [p] else []
  | .atEnd, p => if p.rest = [] ∨ p.rest = ['\n'] then [p] else []

/-- `re.match`. -/
def isMatch (isWord : Char → Bool) (r : Regex) (text : List Char) : Bool :=
  !(r.ends isWord ⟨none, text⟩).isEmpty

/-- `re.sub`, with the length of what is left as fuel, for an `r` that matches no empty text. -/
def subFrom (isWord : Char → Bool) (r : Regex) (replacement : List Char) :
    Nat → Position → List Char
  | 0, p => p.rest
  | fuel + 1, p =>
    match r.ends isWord p, p.rest with
    | stop :: _, _ => replacement ++ subFrom isWord r replacement fuel stop
    | [], [] => []
    | [], c :: rest => c :: subFrom isWord r replacement fuel ⟨some c, rest⟩

def sub (isWord : Char → Bool) (r : Regex) (replacement text : List Char) : List Char :=
  subFrom isWord r replacement (text.length + 1) ⟨none, text⟩

/-! ### What is matched -/

/-- Some character class of the pattern accepts the character. -/
def allows (c : Char) : Regex → Bool
  | .char accepts => accepts c
  | .seq first second => first.allows c || second.allows c
  | .alt first second => first.allows c || second.allows c
  | .times _ r => r.allows c
  | .upTo _ r => r.allows c
  | .star r => r.allows c
  | .boundary => false
  | .atEnd => false

/-- The text from one position to the other is of characters with the property. -/
def Spans (property : Char → Prop) (p q : Position) : Prop :=
  ∃ word, p.rest = word ++ q.rest ∧ ∀ c ∈ word, property c

section Spans

variable {property : Char → Prop} {p q s : Position} {step : Position → List Position}

theorem Spans.refl (p : Position) : Spans property p p := ⟨[], rfl, by simp⟩

theorem Spans.trans (first : Spans property p q) (second : Spans property q s) :
    Spans property p s := by
  obtain ⟨word, split, all⟩ := first
  obtain ⟨word', split', all'⟩ := second
  refine ⟨word ++ word', by rw [split, split', List.append_assoc], ?_⟩
  intro c member
  rcases List.mem_append.mp member with left | right
  · exact all c left
  · exact all' c right

theorem Spans.mono {property' : Char → Prop} (weaker : ∀ c, property c → property' c)
    (spans : Spans property p q) : Spans property' p q := by
  obtain ⟨word, split, all⟩ := spans
  exact ⟨word, split, fun c member => weaker c (all c member)⟩

theorem spans_repeated (steps : ∀ p, ∀ q ∈ step p, Spans property p q) (n : Nat) (p : Position) :
    ∀ q ∈ repeated step n p, Spans property p q := by
  induction n generalizing p with
  | zero =>
    intro q same
    rw [List.mem_singleton.mp same]
    exact .refl p
  | succ n ih =>
    intro q member
    obtain ⟨next, first, rest⟩ := List.mem_flatMap.mp member
    exact (steps p next first).trans (ih next q rest)

theorem spans_greedy (steps : ∀ p, ∀ q ∈ step p, Spans property p q) (n : Nat) (p : Position) :
    ∀ q ∈ greedy step n p, Spans property p q := by
  -- one more step is tried before the position itself
  induction n generalizing p with
  | zero =>
    intro q same
    rw [List.mem_singleton.mp same]
    exact .refl p
  | succ n ih =>
    intro q member
    rcases List.mem_append.mp member with more | same
    · obtain ⟨next, first, rest⟩ := List.mem_flatMap.mp more
      exact (steps p next first).trans (ih next q rest)
    · rw [List.mem_singleton.mp same]
      exact .refl p

end Spans

/-- A match is made of the characters that the pattern allows. -/
theorem spans_ends (isWord : Char → Bool) (r : Regex) (p q : Position)
    (member : q ∈ r.ends isWord p) : Spans (fun c => r.allows c = true) p q := by
  induction r generalizing p q with
  | char accepts =>
    rw [ends] at member
    cases split : p.rest with
    | nil =>
      rw [split] at member
      cases member
    | cons c rest =>
      rw [split] at member
      by_cases accepted : accepts c = true
      · simp only [accepted, if_true, List.mem_singleton] at member
        rw [member]
        exact ⟨[c], split, by simp [allows, accepted]⟩
      · simp [accepted] at member
  | seq first second ihFirst ihSecond =>
    obtain ⟨middle, one, two⟩ := List.mem_flatMap.mp member
    exact ((ihFirst p middle one).mono fun _ yes => Bool.or_eq_true_iff.mpr (.inl yes)).trans
      ((ihSecond middle q two).mono fun _ yes => Bool.or_eq_true_iff.mpr (.inr yes))
  | alt first second ihFirst ihSecond =>
    rcases List.mem_append.mp member with one | two
    · exact (ihFirst p q one).mono fun _ yes => Bool.or_eq_true_iff.mpr (.inl yes)
    · exact (ihSecond p q two).mono fun _ yes => Bool.or_eq_true_iff.mpr (.inr yes)
  | times n r ih => exact spans_repeated ih n p q member
  | upTo n r ih => exact spans_greedy ih n p q member
  | star r ih => exact spans_greedy ih _ p q member
  | boundary =>
    rw [ends] at member
    split at member
    · rw [List.mem_singleton.mp member]
      exact .refl p
    · cases member
  | atEnd =>
    rw [ends] at member
    split at member
    · rw [List.mem_singleton.mp member]
      exact .refl p
    · cases member

/-- The words that the pattern stands for, if it is not about positions. -/
def Word : Regex → List Char → Prop
  | .char accepts, word => ∃ c, accepts c = true ∧ word = [c]
  | .seq first second, word => ∃ u v, word = u ++ v ∧ first.Word u ∧ second.Word v
  | .alt first second, word => first.Word word ∨ second.Word word
  | .times n r, word =>
    ∃ parts : List (List Char), parts.length = n ∧ word = parts.flatten ∧ ∀ part ∈ parts, r.Word part
  | .upTo n r, word =>
    ∃ parts : List (List Char), parts.length ≤ n ∧ word = parts.flatten ∧ ∀ part ∈ parts, r.Word part
  | .star r, word => ∃ parts : List (List Char), word = parts.flatten ∧ ∀ part ∈ parts, r.Word part
  | .boundary, word => word = []
  | .atEnd, word => word = []

section Word

variable {isWord : Char → Bool} {r : Regex} {step : Position → List Position} {p q : Position}

/-- What is consumed between two positions. -/
theorem parts_of_repeated
    (steps : ∀ p, ∀ q ∈ step p, ∃ word, p.rest = word ++ q.rest ∧ r.Word word) (n : Nat)
    (member : q ∈ repeated step n p) :
    ∃ parts : List (List Char), parts.length = n ∧ p.rest = parts.flatten ++ q.rest ∧
      ∀ part ∈ parts, r.Word part := by
  induction n generalizing p with
  | zero =>
    rw [List.mem_singleton.mp member]
    exact ⟨[], rfl, rfl, by simp⟩
  | succ n ih =>
    obtain ⟨next, first, rest⟩ := List.mem_flatMap.mp member
    obtain ⟨word, split, isWord⟩ := steps p next first
    obtain ⟨parts, length, split', all⟩ := ih rest
    refine ⟨word :: parts, by rw [List.length_cons, length], ?_, ?_⟩
    · rw [split, split', List.flatten_cons, List.append_assoc]
    · exact List.forall_mem_cons.mpr ⟨isWord, all⟩

theorem parts_of_greedy
    (steps : ∀ p, ∀ q ∈ step p, ∃ word, p.rest = word ++ q.rest ∧ r.Word word) (n : Nat)
    (member : q ∈ greedy step n p) :
    ∃ parts : List (List Char), parts.length ≤ n ∧ p.rest = parts.flatten ++ q.rest ∧
      ∀ part ∈ parts, r.Word part := by
  induction n generalizing p with
  | zero =>
    rw [List.mem_singleton.mp member]
    exact ⟨[], Nat.le_refl 0, rfl, by simp⟩
  | succ n ih =>
    rcases List.mem_append.mp member with more | same
    · obtain ⟨next, first, rest⟩ := List.mem_flatMap.mp more
      obtain ⟨word, split, isWord⟩ := steps p next first
      obtain ⟨parts, length, split', all⟩ := ih rest
      refine ⟨word :: parts, Nat.succ_le_succ length, ?_, ?_⟩
      · rw [split, split', List.flatten_cons, List.append_assoc]
      · exact List.forall_mem_cons.mpr ⟨isWord, all⟩
    · rw [List.mem_singleton.mp same]
      exact ⟨[], Nat.zero_le _, rfl, by simp⟩

/-- A match is a word of the pattern. -/
theorem word_of_ends (member : q ∈ r.ends isWord p) :
    ∃ word, p.rest = word ++ q.rest ∧ r.Word word := by
  induction r generalizing p q with
  | char accepts =>
    rw [ends] at member
    cases split : p.rest with
    | nil =>
      rw [split] at member
      cases member
    | cons c rest =>
      rw [split] at member
      by_cases accepted : accepts c = true
      · simp only [accepted, if_true, List.mem_singleton] at member
        rw [member]
        exact ⟨[c], rfl, c, accepted, rfl⟩
      · simp [accepted] at member
  | seq first second ihFirst ihSecond =>
    obtain ⟨middle, one, two⟩ := List.mem_flatMap.mp member
    obtain ⟨u, split, isFirst⟩ := ihFirst one
    obtain ⟨v, split', isSecond⟩ := ihSecond two
    exact ⟨u ++ v, by rw [split, split', List.append_assoc], u, v, rfl, isFirst, isSecond⟩
  | alt first second ihFirst ihSecond =>
    rcases List.mem_append.mp member with one | two
    · obtain ⟨word, split, isFirst⟩ := ihFirst one
      exact ⟨word, split, .inl isFirst⟩
    · obtain ⟨word, split, isSecond⟩ := ihSecond two
      exact ⟨word, split, .inr isSecond⟩
  | times n r ih =>
    obtain ⟨parts, length, split, all⟩ := parts_of_repeated (fun _ _ => ih) n member
    exact ⟨_, split, parts, length, rfl, all⟩
  | upTo n r ih =>
    obtain ⟨parts, length, split, all⟩ := parts_of_greedy (fun _ _ => ih) n member
    exact ⟨_, split, parts, length, rfl, all⟩
  | star r ih =>
    obtain ⟨parts, -, split, all⟩ := parts_of_greedy (fun _ _ => ih) _ member
    exact ⟨_, split, parts, rfl, all⟩
  | boundary =>
    rw [ends] at member
    split at member
    · rw [List.mem_singleton.mp member]
      exact ⟨[], rfl, rfl⟩
    · cases member
  | atEnd =>
    rw [ends] at member
    split at member
    · rw [List.mem_singleton.mp member]
      exact ⟨[], rfl, rfl⟩
    · cases member

/-- So many characters of a class. -/
theorem word_of_chars {accepts : Char → Bool} {parts : List (List Char)}
    (all : ∀ part ∈ parts, (Regex.char accepts).Word part) :
    parts.flatten.length = parts.length ∧ ∀ c ∈ parts.flatten, accepts c = true := by
  induction parts with
  | nil => exact ⟨rfl, by simp⟩
  | cons part parts ih =>
    obtain ⟨⟨c, accepted, single⟩, others⟩ := List.forall_mem_cons.mp all
    obtain ⟨length, accepts⟩ := ih others
    subst single
    refine ⟨by rw [List.flatten_cons, List.length_append, length, Nat.add_comm]; rfl, ?_⟩
    exact List.forall_mem_cons.mpr ⟨accepted, accepts⟩

end Word

/-- A match up to `$` leaves nothing, or a last line feed. -/
theorem exists_end_of_isMatch {isWord : Char → Bool} {r : Regex} {text : List Char}
    (isMatch : Regex.isMatch isWord (.seq r .atEnd) text = true) :
    ∃ stop ∈ r.ends isWord ⟨none, text⟩, stop.rest = [] ∨ stop.rest = ['\n'] := by
  rw [Regex.isMatch, Bool.not_eq_true', List.isEmpty_eq_false_iff_exists_mem] at isMatch
  obtain ⟨_, member⟩ := isMatch
  obtain ⟨stop, reached, last⟩ := List.mem_flatMap.mp member
  refine ⟨stop, reached, ?_⟩
  rw [ends] at last
  split at last
  · assumption
  · cases last

/-- What matches up to `$` is a word of the pattern, but for a last line feed. -/
theorem word_of_isMatch {isWord : Char → Bool} {r : Regex} {text : List Char}
    (isMatch : Regex.isMatch isWord (.seq r .atEnd) text = true) :
    ∃ word, r.Word word ∧ (text = word ∨ text = word ++ ['\n']) := by
  obtain ⟨stop, member, last⟩ := exists_end_of_isMatch isMatch
  obtain ⟨word, split, isWord⟩ := word_of_ends member
  refine ⟨word, isWord, ?_⟩
  rcases last with nothing | lineFeed
  · rw [nothing, List.append_nil] at split
    exact .inl split
  · rw [lineFeed] at split
    exact .inr split

end Regex
