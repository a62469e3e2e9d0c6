import Mathlib.Data.List.Basic

/-!
# Streams cut at a delimiter

A reader appends what it gets to a buffer and takes every part out of it that a
delimiter ends. Which parts it takes depends on the stream and not on the chunks in
which the stream arrives.
-/

namespace Delimited

variable {α : Type*} [DecidableEq α] (d : α)

/-- The complete parts of a buffer, and what is left of it. -/
def parts (buf : List α) : List (List α) × List α :=
  if d ∈ buf then
    let (rest, left) := parts (buf.drop (buf.idxOf d + 1))
    (buf.take (buf.idxOf d) :: rest, left)
  else ([], buf)
termination_by buf.length
decreasing_by
  rw [List.length_drop]
  have inside : buf.idxOf d < buf.length := List.idxOf_lt_length_of_mem ‹_›
  omega

variable {d}

theorem parts_of_not_mem {buf : List α} (absent : d ∉ buf) : parts d buf = ([], buf) := by
  rw [parts, if_neg absent]

/-- A part without the delimiter, the delimiter, and whatever follows. -/
theorem parts_append_cons {part : List α} (absent : d ∉ part) (buf : List α) :
    parts d (part ++ d :: buf) = (part :: (parts d buf).1, (parts d buf).2) := by
  have present : d ∈ part ++ d :: buf := List.mem_append_right _ List.mem_cons_self
  have index : (part ++ d :: buf).idxOf d = part.length := by
    rw [List.idxOf_append_of_notMem absent, List.idxOf_cons_self, Nat.add_zero]
  have first : (part ++ d :: buf).take part.length = part := List.take_left
  have after : (part ++ d :: buf).drop (part.length + 1) = buf := by
    rw [← List.drop_drop, List.drop_left]
    rfl
  rw [parts, if_pos present, index, first, after]

/-- Rule: what holds of a buffer without the delimiter, and of one that begins with a part if it
holds of the rest, holds of every buffer. -/
theorem rec_on_parts {holds : List α → Prop} (none : ∀ buf, d ∉ buf → holds buf)
    (part : ∀ part buf, d ∉ part → holds buf → holds (part ++ d :: buf)) (buf : List α) :
    holds buf := by
  by_cases present : d ∈ buf
  · obtain ⟨first, rest, rfl, absent⟩ := List.eq_append_cons_of_mem present
    exact part first rest absent (rec_on_parts none part rest)
  · exact none buf present
termination_by buf.length
decreasing_by
  have split : buf = first ++ d :: rest := by assumption
  rw [split, List.length_append, List.length_cons]
  omega

/-- More arrives: the parts taken before stay, and what was left is read with the new. -/
theorem parts_append (buf more : List α) :
    parts d (buf ++ more) =
      ((parts d buf).1 ++ (parts d ((parts d buf).2 ++ more)).1,
        (parts d ((parts d buf).2 ++ more)).2) := by
  induction buf using rec_on_parts (d := d) with
  | none buf absent => rw [parts_of_not_mem absent, List.nil_append]
  | part part buf absent ih =>
    rw [List.append_assoc, List.cons_append, parts_append_cons absent, parts_append_cons absent, ih]
    rfl

/-- A stream of parts that are ended one by one. -/
theorem parts_flatMap {words : List (List α)} (clean : ∀ word ∈ words, d ∉ word) :
    parts d (words.flatMap fun word => word ++ [d]) = (words, []) := by
  induction words with
  | nil => exact parts_of_not_mem List.not_mem_nil
  | cons word words ih =>
    rw [List.flatMap_cons, List.append_assoc, List.singleton_append,
      parts_append_cons (clean word List.mem_cons_self),
      ih fun other member => clean other (List.mem_cons_of_mem word member)]

end Delimited
