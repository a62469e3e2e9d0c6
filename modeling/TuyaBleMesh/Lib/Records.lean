import Mathlib.Data.List.Infix

/-!
# Records one after another

A format whose records are not empty and show where they end. An input is read as a
whole number of records in at most one way, and the records at its front are the longest
sequence of whole records it starts with.
-/

structure RecordFormat (α ρ : Type*) where
  write : ρ → List α
  /-- The record in front and what follows it. -/
  read : List α → Option (ρ × List α)
  nonempty : ∀ record, write record ≠ []
  read_iff : ∀ {input record rest}, read input = some (record, rest) ↔ input = write record ++ rest

namespace RecordFormat

variable {α ρ : Type*} (format : RecordFormat α ρ)

def writeAll (records : List ρ) : List α := records.flatMap format.write

theorem rest_shorter {input rest : List α} {record : ρ}
    (found : format.read input = some (record, rest)) : rest.length < input.length := by
  rw [format.read_iff.mp found, List.length_append]
  have positive := List.length_pos_of_ne_nil (format.nonempty record)
  omega

def readAll (input : List α) : Option (List ρ) :=
  if input = [] then some []
  else
    match _found : format.read input with
    | none => none
    | some (record, rest) => (readAll rest).map (record :: ·)
  termination_by input.length
  decreasing_by exact format.rest_shorter ‹_›

theorem readAll_nil : format.readAll [] = some [] := by
  rw [readAll, if_pos rfl]

theorem readAll_of_some {input rest : List α} {record : ρ}
    (found : format.read input = some (record, rest)) :
    format.readAll input = (format.readAll rest).map (record :: ·) := by
  have present : input ≠ [] := by
    rintro rfl
    exact Nat.not_lt_zero _ (format.rest_shorter found)
  rw [readAll, if_neg present]
  split
  · next missing => cases found.symm.trans missing
  · next found' =>
    cases found.symm.trans found'
    rfl

theorem readAll_writeAll (records : List ρ) :
    format.readAll (format.writeAll records) = some records := by
  induction records with
  | nil => exact format.readAll_nil
  | cons record records ih =>
    have front : format.read (format.writeAll (record :: records)) =
        some (record, format.writeAll records) :=
      format.read_iff.mpr (List.flatMap_cons)
    rw [format.readAll_of_some front, ih]
    rfl

/-- What is read is what was written, and nothing else can be read. -/
theorem readAll_iff {input : List α} {records : List ρ} :
    format.readAll input = some records ↔ input = format.writeAll records := by
  constructor
  · intro done
    -- along the recursion of the reader
    fun_induction format.readAll input generalizing records with
    | case1 =>
      cases done
      rfl
    | case2 => cases done
    | case3 input _ record rest found ih =>
      obtain ⟨others, read, rfl⟩ := Option.map_eq_some_iff.mp done
      rw [format.read_iff.mp found, ih read]
      exact List.flatMap_cons.symm
  · rintro rfl
    exact format.readAll_writeAll records

theorem writeAll_injective : Function.Injective format.writeAll := by
  intro records others same
  apply Option.some.inj
  rw [← format.readAll_writeAll, ← format.readAll_writeAll, same]

/-! ### The records in front -/

/-- The records in front, as many as there are, and what remains. -/
def readFront (input : List α) : List ρ × List α :=
  match _found : format.read input with
  | none => ([], input)
  | some (record, rest) => (record :: (readFront rest).1, (readFront rest).2)
  termination_by input.length
  decreasing_by all_goals exact format.rest_shorter ‹_›

theorem readFront_of_none {input : List α} (none : format.read input = none) :
    format.readFront input = ([], input) := by
  rw [readFront]
  split
  · rfl
  · next found => cases none.symm.trans found

theorem readFront_of_some {input rest : List α} {record : ρ}
    (found : format.read input = some (record, rest)) :
    format.readFront input = (record :: (format.readFront rest).1, (format.readFront rest).2) := by
  rw [readFront]
  split
  · next missing => cases found.symm.trans missing
  · next found' =>
    cases found.symm.trans found'
    rfl

/-- The records in front and what remains make up the input. -/
theorem writeAll_readFront (input : List α) :
    format.writeAll (format.readFront input).1 ++ (format.readFront input).2 = input := by
  fun_induction format.readFront input with
  | case1 => rfl
  | case2 input record rest found ih =>
    calc format.writeAll (record :: (format.readFront rest).1) ++ (format.readFront rest).2
        = format.write record ++
            (format.writeAll (format.readFront rest).1 ++ (format.readFront rest).2) := by
          rw [writeAll, List.flatMap_cons, List.append_assoc, ← writeAll]
      _ = input := by rw [ih, format.read_iff.mp found]

/-- What is written in front is read, whatever follows. -/
theorem readFront_writeAll_append (records : List ρ) (rest : List α) :
    format.readFront (format.writeAll records ++ rest) =
      (records ++ (format.readFront rest).1, (format.readFront rest).2) := by
  induction records with
  | nil => rfl
  | cons record records ih =>
    have front : format.read (format.writeAll (record :: records) ++ rest) =
        some (record, format.writeAll records ++ rest) := by
      apply format.read_iff.mpr
      rw [writeAll, List.flatMap_cons, List.append_assoc, ← writeAll]
    rw [format.readFront_of_some front, ih]
    rfl

theorem readFront_nil : format.readFront [] = ([], []) := by
  apply format.readFront_of_none
  cases found : format.read [] with
  | none => rfl
  | some front => exact absurd (format.rest_shorter found) (Nat.not_lt_zero _)

theorem readFront_writeAll (records : List ρ) :
    (format.readFront (format.writeAll records)).1 = records := by
  have whole := format.readFront_writeAll_append records []
  rw [List.append_nil, readFront_nil] at whole
  rw [whole, List.append_nil]

/-- Whole records that the input starts with are among those in front. -/
theorem prefix_readFront {input : List α} {records : List ρ}
    (starts : format.writeAll records <+: input) : records <+: (format.readFront input).1 := by
  obtain ⟨rest, rfl⟩ := starts
  rw [readFront_writeAll_append]
  exact List.prefix_append _ _

/-- A record that is cut off is not read. -/
theorem read_take {record : ρ} {n : Nat} (cut : n < (format.write record).length) :
    format.read ((format.write record).take n) = none := by
  rw [Option.eq_none_iff_forall_ne_some]
  rintro ⟨other, rest⟩ found
  -- what is read of the part would be read of the whole
  have whole : format.write record ++ [] =
      format.write other ++ (rest ++ (format.write record).drop n) := by
    rw [List.append_nil, ← List.append_assoc, ← format.read_iff.mp found, List.take_append_drop]
  have same := (format.read_iff.mpr rfl).symm.trans (format.read_iff.mpr whole)
  have record_eq : record = other := congrArg Prod.fst (Option.some.inj same)
  have part := congrArg List.length (format.read_iff.mp found)
  rw [List.length_append, List.length_take_of_le (Nat.le_of_lt cut)] at part
  rw [record_eq] at cut
  omega

/-- No more than a part of the input is read of it when that part holds the records in front. -/
theorem readFront_take (input : List α) (n : Nat) :
    (format.readFront (input.take n)).1 = (format.readFront input).1 ↔
      ∀ records, format.writeAll records <+: input → (format.writeAll records).length ≤ n := by
  constructor
  · intro same records starts
    -- the records are among those in front, which the part still holds
    have among : format.writeAll records <+: format.writeAll (format.readFront input).1 := by
      obtain ⟨others, all⟩ := format.prefix_readFront starts
      rw [← all]
      exact (List.prefix_append records others).flatMap format.write
    have inside : format.writeAll (format.readFront (input.take n)).1 <+: input.take n :=
      ⟨_, format.writeAll_readFront _⟩
    rw [same] at inside
    exact Nat.le_trans (among.trans inside).length_le (List.length_take_le _ _)
  · intro fits
    have front : format.writeAll (format.readFront input).1 <+: input :=
      ⟨_, format.writeAll_readFront _⟩
    have inside : format.writeAll (format.readFront input).1 <+: input.take n :=
      List.prefix_take_iff.mpr ⟨front, fits _ front⟩
    have part : format.writeAll (format.readFront (input.take n)).1 <+: input :=
      List.IsPrefix.trans ⟨_, format.writeAll_readFront _⟩ (List.take_prefix _ _)
    have shorter := (format.prefix_readFront part).length_le
    exact ((format.prefix_readFront inside).eq_of_length_le shorter).symm

end RecordFormat

/-! ### Words of one width -/

section Words

variable {α : Type*} {w : Nat}

theorem exists_words {n : Nat} {items : List α} (length : items.length = n * w) :
    ∃ words : List (Vector α w), words.length = n ∧ items = words.flatMap (·.toList) := by
  induction n generalizing items with
  | zero => exact ⟨[], rfl, List.length_eq_zero_iff.mp (by omega)⟩
  | succ n ih =>
    rw [Nat.succ_mul] at length
    have first : (items.take w).length = w := List.length_take_of_le (by omega)
    obtain ⟨words, count, rest⟩ : ∃ words : List (Vector α w), words.length = n ∧
        items.drop w = words.flatMap (·.toList) := ih (by rw [List.length_drop]; omega)
    refine ⟨⟨⟨items.take w⟩, first⟩ :: words, congrArg Nat.succ count, ?_⟩
    rw [List.flatMap_cons, ← rest]
    exact (List.take_append_drop w items).symm

theorem length_words (words : List (Vector α w)) :
    (words.flatMap (·.toList)).length = words.length * w := by
  simp [List.length_flatMap]

/-- Each word is found at its place. -/
theorem slice_words (words : List (Vector α w)) (rest : List α) (i : Nat)
    (inside : i < words.length) :
    ((words.flatMap (·.toList) ++ rest).drop (i * w)).take w = words[i].toList := by
  induction words generalizing i with
  | nil => cases inside
  | cons word words ih =>
    have width : word.toList.length = w := Vector.length_toList
    rw [List.flatMap_cons, List.append_assoc]
    cases i with
    | zero =>
      rw [Nat.zero_mul, List.drop_zero, List.take_append_of_le_length width.ge]
      exact List.take_of_length_le width.le
    | succ i =>
      have skip : (i + 1) * w = word.toList.length + i * w := by
        rw [width, Nat.succ_mul, Nat.add_comm]
      rw [skip, ← List.drop_drop, List.drop_left]
      exact ih i (Nat.lt_of_succ_lt_succ inside)

end Words
