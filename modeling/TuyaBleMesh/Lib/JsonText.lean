import Mathlib.Data.List.Basic

/-!
# The texts that a JSON decoder accepts

The decoder of Python's `json` module as an automaton that reads one character after
the other: its place in the text, and what it is inside of. Besides the standard it
accepts `NaN`, `Infinity` and `-Infinity`. What is accepted and ends with a brace has
no proper beginning that is accepted.
-/

namespace JsonText

inductive Container
  | object
  | array
  deriving DecidableEq

inductive Place
  /-- Before a value. -/
  | value
  /-- Behind the opening bracket of an array. -/
  | firstItem
  /-- Behind the opening brace of an object. -/
  | firstName
  | name
  /-- Behind a name. -/
  | colon
  /-- Behind a value. -/
  | after
  | string (isName : Bool)
  /-- Behind a backslash in a string. -/
  | escape (isName : Bool)
  /-- Before a hexadecimal digit of an escape, after which `left` follow. -/
  | hex (isName : Bool) (left : Nat)
  /-- In a constant, before its rest. -/
  | constant (rest : List Char)
  | minus
  | zero
  | digits
  | point
  | fraction
  | exponent
  | exponentSign
  | exponentDigits
  deriving DecidableEq

structure Reader where
  place : Place := .value
  /-- What the place is inside of, the innermost first. -/
  inside : List Container := []
  deriving DecidableEq

def quote : Char := Char.ofNat 0x22

def backslash : Char := Char.ofNat 0x5C

def isSpace (c : Char) : Bool := c = ' ' || c = '\t' || c = '\n' || c = '\r'

def isHexDigit (c : Char) : Bool :=
  c.isDigit || ('a' ≤ c && c ≤ 'f') || ('A' ≤ c && c ≤ 'F')

/-- The characters that may follow a backslash, but for `u`. -/
def isEscaped (c : Char) : Bool :=
  c = quote || c = backslash || c = '/' || c = 'b' || c = 'f' || c = 'n' || c = 'r' || c = 't'

/-- The first character of a value. -/
def beginValue (inside : List Container) (c : Char) : Option Reader :=
  if c = quote then some ⟨.string false, inside⟩
  else if c = '{' then some ⟨.firstName, .object :: inside⟩
  else if c = '[' then some ⟨.firstItem, .array :: inside⟩
  else if c = 'n' then some ⟨.constant ['u', 'l', 'l'], inside⟩
  else if c = 't' then some ⟨.constant ['r', 'u', 'e'], inside⟩
  else if c = 'f' then some ⟨.constant ['a', 'l', 's', 'e'], inside⟩
  else if c = 'N' then some ⟨.constant ['a', 'N'], inside⟩
  else if c = 'I' then some ⟨.constant ['n', 'f', 'i', 'n', 'i', 't', 'y'], inside⟩
  else if c = '-' then some ⟨.minus, inside⟩
  else if c = '0' then some ⟨.zero, inside⟩
  else if c.isDigit then some ⟨.digits, inside⟩
  else none

/-- A character behind a value. -/
def behindValue (inside : List Container) (c : Char) : Option Reader :=
  if isSpace c then some ⟨.after, inside⟩
  else
    match inside with
    | [] => none
    | .object :: outer =>
      if c = ',' then some ⟨.name, inside⟩
      else if c = '}' then some ⟨.after, outer⟩
      else none
    | .array :: outer =>
      if c = ',' then some ⟨.value, inside⟩
      else if c = ']' then some ⟨.after, outer⟩
      else none

/-- What may follow the digits of a whole number. -/
def behindInteger (inside : List Container) (c : Char) : Option Reader :=
  if c = '.' then some ⟨.point, inside⟩
  else if c = 'e' || c = 'E' then some ⟨.exponent, inside⟩
  else behindValue inside c

/-- The end of a string. -/
def closeString (inside : List Container) (isName : Bool) : Reader :=
  if isName then ⟨.colon, inside⟩ else ⟨.after, inside⟩

def Reader.step (r : Reader) (c : Char) : Option Reader :=
  match r.place with
  | .value => if isSpace c then some r else beginValue r.inside c
  | .firstItem =>
    if isSpace c then some r
    else if c = ']' then some ⟨.after, r.inside.tail⟩
    else beginValue r.inside c
  | .firstName =>
    if isSpace c then some r
    else if c = quote then some { r with place := .string true }
    else if c = '}' then some ⟨.after, r.inside.tail⟩
    else none
  | .name =>
    if isSpace c then some r
    else if c = quote then some { r with place := .string true }
    else none
  | .colon =>
    if isSpace c then some r
    else if c = ':' then some { r with place := .value }
    else none
  | .after => behindValue r.inside c
  | .string isName =>
    if c = quote then some (closeString r.inside isName)
    else if c = backslash then some { r with place := .escape isName }
    else if c.toNat < 0x20 then none
    else some r
  | .escape isName =>
    if c = 'u' then some { r with place := .hex isName 3 }
    else if isEscaped c then some { r with place := .string isName }
    else none
  | .hex isName left =>
    if isHexDigit c then
      match left with
      | 0 => some { r with place := .string isName }
      | left + 1 => some { r with place := .hex isName left }
    else none
  | .constant rest =>
    match rest with
    | [] => none
    | expected :: rest =>
      if c = expected then
        some { r with place := if rest = [] then .after else .constant rest }
      else none
  | .minus =>
    if c = '0' then some { r with place := .zero }
    else if c.isDigit then some { r with place := .digits }
    else if c = 'I' then some { r with place := .constant ['n', 'f', 'i', 'n', 'i', 't', 'y'] }
    else none
  | .zero => behindInteger r.inside c
  | .digits => if c.isDigit then some r else behindInteger r.inside c
  | .point => if c.isDigit then some { r with place := .fraction } else none
  | .fraction =>
    if c.isDigit then some r
    else if c = 'e' || c = 'E' then some { r with place := .exponent }
    else behindValue r.inside c
  | .exponent =>
    if c = '+' || c = '-' then some { r with place := .exponentSign }
    else if c.isDigit then some { r with place := .exponentDigits }
    else none
  | .exponentSign => if c.isDigit then some { r with place := .exponentDigits } else none
  | .exponentDigits => if c.isDigit then some r else behindValue r.inside c

/-- The text may end here. -/
def Reader.isFinal (r : Reader) : Bool :=
  r.inside = [] && (r.place = .after || r.place = .zero || r.place = .digits ||
    r.place = .fraction || r.place = .exponentDigits)

def Reader.read (r : Reader) (text : List Char) : Option Reader := text.foldlM Reader.step r

/-- `json.loads` returns a value. -/
def isJson (text : List Char) : Bool := (Reader.read {} text).any Reader.isFinal

/-! ### Beginnings -/

/-- Behind a value or in a number. -/
def Place.isBehind : Place → Bool
  | .after | .zero | .digits | .point | .fraction | .exponent | .exponentSign
  | .exponentDigits => true
  | _ => false

/-- Behind the value that is the whole text, or in the number that it is. -/
def Reader.Closed (r : Reader) : Prop := r.inside = [] ∧ r.place.isBehind = true

variable {r r' : Reader} {c : Char}

theorem Reader.isFinal_closed (final : r.isFinal = true) : r.Closed := by
  unfold Reader.isFinal at final
  simp only [Bool.and_eq_true, Bool.or_eq_true, decide_eq_true_eq] at final
  obtain ⟨top, place⟩ := final
  refine ⟨top, ?_⟩
  rcases place with (((place | place) | place) | place) | place
  all_goals
    rw [place]
    rfl

/-- At the top nothing but space follows a value. -/
theorem behindValue_closed (stepped : behindValue [] c = some r') : r'.Closed ∧ c ≠ '}' := by
  unfold behindValue at stepped
  split at stepped
  · next space =>
    cases stepped
    refine ⟨⟨rfl, rfl⟩, ?_⟩
    rintro rfl
    cases space
  · cases stepped

theorem digit_ne_brace (digit : c.isDigit = true) : c ≠ '}' := by
  rintro rfl
  cases digit

theorem behindInteger_closed (stepped : behindInteger [] c = some r') : r'.Closed ∧ c ≠ '}' := by
  unfold behindInteger at stepped
  split at stepped
  · next dot =>
    cases stepped
    subst dot
    exact ⟨⟨rfl, rfl⟩, by decide⟩
  · split at stepped
    · next exponent =>
      cases stepped
      refine ⟨⟨rfl, rfl⟩, ?_⟩
      rintro rfl
      cases exponent
    · exact behindValue_closed stepped

/-- Behind the value at the top no step leads back into one, and no brace is accepted. -/
theorem Reader.Closed.step (closed : r.Closed) (stepped : r.step c = some r') :
    r'.Closed ∧ c ≠ '}' := by
  obtain ⟨place, inside⟩ := r
  obtain ⟨top, behind⟩ := closed
  dsimp only at top behind
  subst top
  cases place with
  | after => exact behindValue_closed stepped
  | zero => exact behindInteger_closed stepped
  | digits =>
    simp only [step] at stepped
    split at stepped
    · next digit =>
      cases stepped
      exact ⟨⟨rfl, rfl⟩, digit_ne_brace digit⟩
    · exact behindInteger_closed stepped
  | point =>
    simp only [step] at stepped
    split at stepped
    · next digit =>
      cases stepped
      exact ⟨⟨rfl, rfl⟩, digit_ne_brace digit⟩
    · cases stepped
  | fraction =>
    simp only [step] at stepped
    split at stepped
    · next digit =>
      cases stepped
      exact ⟨⟨rfl, rfl⟩, digit_ne_brace digit⟩
    · split at stepped
      · next exponent =>
        cases stepped
        refine ⟨⟨rfl, rfl⟩, ?_⟩
        rintro rfl
        cases exponent
      · exact behindValue_closed stepped
  | exponent =>
    simp only [step] at stepped
    split at stepped
    · next sign =>
      cases stepped
      refine ⟨⟨rfl, rfl⟩, ?_⟩
      rintro rfl
      cases sign
    · split at stepped
      · next digit =>
        cases stepped
        exact ⟨⟨rfl, rfl⟩, digit_ne_brace digit⟩
      · cases stepped
  | exponentSign =>
    simp only [step] at stepped
    split at stepped
    · next digit =>
      cases stepped
      exact ⟨⟨rfl, rfl⟩, digit_ne_brace digit⟩
    · cases stepped
  | exponentDigits =>
    simp only [step] at stepped
    split at stepped
    · next digit =>
      cases stepped
      exact ⟨⟨rfl, rfl⟩, digit_ne_brace digit⟩
    · exact behindValue_closed stepped
  | _ => cases behind

theorem Reader.read_append (r : Reader) (front back : List Char) :
    r.read (front ++ back) = (r.read front).bind fun m => m.read back :=
  List.foldlM_append

theorem Reader.Closed.read (closed : r.Closed) {text : List Char} (reads : r.read text = some r') :
    r'.Closed ∧ '}' ∉ text := by
  induction text generalizing r with
  | nil =>
    cases reads
    exact ⟨closed, List.not_mem_nil⟩
  | cons c text ih =>
    obtain ⟨m, stepped, rest⟩ := Option.bind_eq_some_iff.mp reads
    obtain ⟨closed', other⟩ := closed.step stepped
    obtain ⟨last, absent⟩ := ih closed' rest
    refine ⟨last, fun member => ?_⟩
    rcases List.mem_cons.mp member with same | member
    · exact other same.symm
    · exact absent member

/-- No proper beginning of a text that ends with a brace is accepted with it. -/
theorem isJson_beginning {front back : List Char} (whole : isJson (front ++ back) = true)
    (beginning : isJson front = true) (brace : back.getLast? = some '}') : False := by
  obtain ⟨m, read, final⟩ := (Option.any_eq_true _ _).mp beginning
  obtain ⟨last, reads, -⟩ := (Option.any_eq_true _ _).mp whole
  rw [Reader.read_append, read, Option.bind_some] at reads
  have absent := ((Reader.isFinal_closed final).read reads).2
  exact absent (List.mem_of_getLast? brace)

end JsonText
