import Mathlib.Data.List.Basic
import Mathlib.Data.List.Range
import Mathlib.Data.List.Pairwise

/-!
# Ranges handed out by a counter

A counter that hands out consecutive ranges never hands out a number twice as
long as every range starts at or above the end of each earlier one.
-/

/-- The numbers from `start` up to, and without, `start + length`. -/
structure NumberRange where
  start : Nat
  length : Nat
  deriving DecidableEq, Repr

namespace NumberRange

/-- The first number after the range. -/
def stop (r : NumberRange) : Nat := r.start + r.length

def numbers (r : NumberRange) : List Nat := List.range' r.start r.length

@[simp] theorem mem_numbers {r : NumberRange} {q : Nat} :
    q ∈ r.numbers ↔ r.start ≤ q ∧ q < r.stop := by
  simp [numbers, stop, List.mem_range'_1]

def Disjoint (a b : NumberRange) : Prop := ∀ q, q ∈ a.numbers → q ∉ b.numbers

/-- In the order of the list, every range ends before the next ones start. -/
def Ascending (rs : List NumberRange) : Prop := rs.Pairwise fun a b => a.stop ≤ b.start

/-- All numbers of the ranges, in order. -/
def allNumbers (rs : List NumberRange) : List Nat := rs.flatMap numbers

@[simp] theorem allNumbers_append (rs ts : List NumberRange) :
    allNumbers (rs ++ ts) = allNumbers rs ++ allNumbers ts := List.flatMap_append

@[simp] theorem mem_allNumbers {rs : List NumberRange} {q : Nat} :
    q ∈ allNumbers rs ↔ ∃ r ∈ rs, r.start ≤ q ∧ q < r.stop := by
  simp [allNumbers, List.mem_flatMap]

/-- Every range ends at or below `bound`: a counter standing at `bound` is past them. -/
def Below (rs : List NumberRange) (bound : Nat) : Prop := ∀ r ∈ rs, r.stop ≤ bound

theorem below_nil (bound : Nat) : Below [] bound := by
  intro r member
  cases member

theorem Below.mono {rs : List NumberRange} {a b : Nat} (below : Below rs a) (le : a ≤ b) :
    Below rs b :=
  fun r member => Nat.le_trans (below r member) le

theorem below_append {rs ts : List NumberRange} {bound : Nat} :
    Below (rs ++ ts) bound ↔ Below rs bound ∧ Below ts bound := by
  simp only [Below, List.mem_append]
  constructor
  · intro all
    exact ⟨fun r member => all r (Or.inl member), fun r member => all r (Or.inr member)⟩
  · rintro ⟨left, right⟩ r (member | member)
    · exact left r member
    · exact right r member

theorem below_singleton {r : NumberRange} {bound : Nat} : Below [r] bound ↔ r.stop ≤ bound := by
  simp [Below]

/-- Drawing the next range from a counter that is past all earlier ones. -/
theorem Ascending.snoc {rs : List NumberRange} {r : NumberRange} (ascending : Ascending rs)
    (past : Below rs r.start) : Ascending (rs ++ [r]) := by
  refine List.pairwise_append.mpr ⟨ascending, List.pairwise_singleton _ _, ?_⟩
  intro a member b last
  rw [List.mem_singleton] at last
  subst last
  exact past a member

theorem Ascending.pairwise_disjoint {rs : List NumberRange} (ascending : Ascending rs) :
    rs.Pairwise Disjoint := by
  refine ascending.imp fun {a b} ordered q inA inB => ?_
  rw [mem_numbers] at inA inB
  omega

/-- The numbers of ascending ranges are strictly increasing in the order of the list. -/
theorem Ascending.allNumbers_sorted {rs : List NumberRange} (ascending : Ascending rs) :
    (allNumbers rs).Pairwise (· < ·) := by
  refine List.pairwise_flatMap.mpr ⟨fun r _ => ?_, ?_⟩
  · exact List.pairwise_lt_range'
  · refine ascending.imp fun {a b} ordered x inA y inB => ?_
    rw [mem_numbers] at inA inB
    omega

theorem Ascending.allNumbers_nodup {rs : List NumberRange} (ascending : Ascending rs) :
    (allNumbers rs).Nodup :=
  ascending.allNumbers_sorted.imp fun less => Nat.ne_of_lt less

end NumberRange
