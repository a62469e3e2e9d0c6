import Mathlib.Data.List.TakeWhile
import Mathlib.Order.Defs.LinearOrder
import Mathlib.Order.MinMax

/-!
# Bounded logs of times

A log keeps the last `maxlen` times, and drops at its front what is older than a cutoff.
With a clock that does not go back, and cutoffs that do not either, what is left after a
cutoff can be counted in the full record of all times.
-/

namespace BoundedLog

variable {τ : Type*} [LinearOrder τ]

def push (maxlen : Nat) (log : List τ) (t : τ) : List τ :=
  (log ++ [t]).drop (log.length + 1 - maxlen)

def expire (cutoff : τ) (log : List τ) : List τ := log.dropWhile fun t => decide (t < cutoff)

/-- The log is what is left of all the times, whose clock did not go back. -/
structure Follows (maxlen : Nat) (all : List τ) (floor : τ) (log : List τ) : Prop where
  sorted : all.Pairwise (· ≤ ·)
  left : ∃ expired ≤ all.length, log = all.drop (max (all.length - maxlen) expired) ∧
    ∀ t ∈ all.take expired, t < floor

variable {maxlen : Nat} {all log : List τ} {floor cutoff t : τ}

theorem Follows.nil (maxlen : Nat) (floor : τ) : Follows maxlen [] floor [] where
  sorted := .nil
  left := ⟨0, Nat.le_refl 0, List.drop_nil.symm, nofun⟩

theorem Follows.later (follows : Follows maxlen all floor log) (later : floor ≤ cutoff) :
    Follows maxlen all cutoff log where
  sorted := follows.sorted
  left := by
    obtain ⟨expired, le, rest, old⟩ := follows.left
    exact ⟨expired, le, rest, fun t member => (old t member).trans_le later⟩

theorem Follows.push (follows : Follows maxlen all floor log) (latest : ∀ s ∈ all, s ≤ t) :
    Follows maxlen (all ++ [t]) floor (push maxlen log t) where
  sorted := by
    refine List.pairwise_append.mpr ⟨follows.sorted, List.pairwise_singleton _ _, ?_⟩
    intro s member t' last
    cases List.mem_singleton.mp last
    exact latest s member
  left := by
    obtain ⟨expired, le, rest, old⟩ := follows.left
    refine ⟨expired, by rw [List.length_append]; omega, ?_, ?_⟩
    · have shorter : max (all.length - maxlen) expired ≤ all.length := by omega
      have whole : log ++ [t] = (all ++ [t]).drop (max (all.length - maxlen) expired) := by
        rw [rest, List.drop_append_of_le_length shorter]
      have length : log.length = all.length - max (all.length - maxlen) expired := by
        rw [rest, List.length_drop]
      rw [BoundedLog.push, whole, List.drop_drop, length, List.length_append, List.length_singleton]
      congr 1
      omega
    · rwa [List.take_append_of_le_length le]

section Front

variable {α : Type*} {old : α → Bool} {all : List α}

/-- Behind what is new there is nothing old. -/
theorem new_of_front_new {t : α} {rest : List α}
    (down : (t :: rest).Pairwise fun s t => old t = true → old s = true) (new : ¬old t = true) :
    ∀ s ∈ t :: rest, ¬old s = true := by
  intro s member holds
  rcases List.mem_cons.mp member with rfl | later
  · exact new holds
  · exact new ((List.pairwise_cons.mp down).1 s later holds)

variable (down : all.Pairwise fun s t => old t = true → old s = true)

include down

theorem dropWhile_drop (k : Nat) :
    (all.drop k).dropWhile old = all.drop (max k (all.countP old)) := by
  induction all generalizing k with
  | nil => rw [List.drop_nil, List.drop_nil, List.dropWhile_nil]
  | cons t rest ih =>
    have ih := ih (List.pairwise_cons.mp down).2
    by_cases first : old t = true
    · rw [List.countP_cons_of_pos first]
      cases k with
      | zero =>
        have tail := ih 0
        rw [List.drop_zero, Nat.zero_max] at tail
        rw [List.drop_zero, List.dropWhile_cons_of_pos first, tail, Nat.zero_max,
          List.drop_succ_cons]
      | succ k => rw [List.drop_succ_cons, ih k, Nat.add_max_add_right, List.drop_succ_cons]
    · have new := new_of_front_new down first
      rw [List.countP_eq_zero.mpr new, Nat.max_zero, List.dropWhile_eq_self_iff]
      intro nonempty
      exact new _ (List.mem_of_mem_drop (List.getElem_mem nonempty))

theorem old_of_mem_take : ∀ t ∈ all.take (all.countP old), old t = true := by
  induction all with
  | nil => exact nofun
  | cons t rest ih =>
    by_cases first : old t = true
    · rw [List.countP_cons_of_pos first, List.take_succ_cons]
      intro s member
      rcases List.mem_cons.mp member with rfl | later
      · exact first
      · exact ih (List.pairwise_cons.mp down).2 s later
    · rw [List.countP_eq_zero.mpr (new_of_front_new down first)]
      exact nofun

end Front

/-- After a cutoff, the log holds all times from there on, unless there are too many. -/
theorem Follows.expire (follows : Follows maxlen all floor log) (later : floor ≤ cutoff) :
    Follows maxlen all cutoff (expire cutoff log) ∧
      (BoundedLog.expire cutoff log).length = min maxlen (all.countP fun t => decide (cutoff ≤ t)) := by
  obtain ⟨expired, le, rest, old⟩ := follows.left
  let before : Nat := all.countP fun t => decide (t < cutoff)
  have down : all.Pairwise fun s t => decide (t < cutoff) = true → decide (s < cutoff) = true :=
    follows.sorted.imp fun le holds => decide_eq_true (le.trans_lt (of_decide_eq_true holds))
  have counted : expired ≤ before := by
    have all_before : ∀ t ∈ all.take expired, decide (t < cutoff) = true :=
      fun t member => decide_eq_true ((old t member).trans_le later)
    have taken := List.countP_eq_length.mpr all_before
    rw [List.length_take, Nat.min_eq_left le] at taken
    exact taken ▸ (List.take_sublist expired all).countP_le
  have left : BoundedLog.expire cutoff log = all.drop (max (all.length - maxlen) before) := by
    rw [BoundedLog.expire, rest, dropWhile_drop down, Nat.max_assoc, Nat.max_eq_right counted]
  have short : before ≤ all.length := List.countP_le_length
  constructor
  · refine ⟨follows.sorted, before, short, left, fun t member => ?_⟩
    exact of_decide_eq_true (old_of_mem_take down t member)
  · have split := all.length_eq_countP_add_countP (fun t => decide (t < cutoff))
    have others : (all.countP fun t => decide ¬decide (t < cutoff) = true) =
        all.countP fun t => decide (cutoff ≤ t) := by
      apply List.countP_congr
      intro t _
      simp
    rw [others] at split
    rw [left, List.length_drop]
    omega

end BoundedLog
