import Mathlib.Algebra.Polynomial.Degree.Operations
import Mathlib.Algebra.Polynomial.Div
import Mathlib.Algebra.Polynomial.OfFn

/-!
# Words as polynomials

The words of `w` coefficients are the residues modulo a monic polynomial of degree `w`.
Multiplication by `X` there is a shift, and a subtraction of the lower part of the modulus
as often as the coefficient that leaves the word says.
-/

open Polynomial

namespace QuotientWord

variable {R : Type*} [CommRing R] [DecidableEq R] {w : Nat}

/-- `X ^ w` and what lies below it. -/
noncomputable def modulus (low : Fin w → R) : R[X] := X ^ w + ofFn w low

/-- Multiplication by `X` modulo `modulus low`. -/
noncomputable def timesX (low word : Fin w → R) : Fin w → R :=
  toFn w ((X * ofFn w word) %ₘ modulus low)

theorem monic_modulus (low : Fin w → R) : (modulus low).Monic :=
  monic_X_pow_add (ofFn_degree_lt low)

theorem degree_modulus [Nontrivial R] (low : Fin w → R) : (modulus low).degree = w := by
  have lower : (ofFn w low).degree < (X ^ w : R[X]).degree := by
    rw [degree_X_pow]
    exact ofFn_degree_lt low
  rw [modulus, degree_add_eq_left_of_degree_lt lower, degree_X_pow]

/-- The coefficient before the one at `i`. -/
def shifted (word : Fin w → R) (i : Fin w) : R :=
  if first : i.val = 0 then 0 else word ⟨i.val - 1, by omega⟩

/-- The coefficient that a shift pushes out. -/
def top (word : Fin w → R) : R :=
  if empty : w = 0 then 0 else word ⟨w - 1, by omega⟩

/-- What multiplication by `X` leaves: the shifted word less a multiple of the lower part. -/
def reduced (low word : Fin w → R) (i : Fin w) : R := shifted word i - top word * low i

theorem coeff_ofFn (word : Fin w → R) (n : Nat) :
    (ofFn w word).coeff n = if inside : n < w then word ⟨n, inside⟩ else 0 := by
  split
  · next inside => exact ofFn_coeff_eq_val_of_lt word inside
  · next beyond => exact ofFn_coeff_eq_zero_of_ge word (Nat.le_of_not_lt beyond)

theorem X_mul_ofFn (positive : 0 < w) (low word : Fin w → R) :
    ofFn w (reduced low word) + modulus low * C (top word) = X * ofFn w word := by
  have filled : w ≠ 0 := Nat.pos_iff_ne_zero.mp positive
  ext n
  rw [coeff_add, coeff_mul_C, modulus, coeff_add, coeff_X_pow, coeff_ofFn, coeff_ofFn]
  cases n with
  | zero =>
    -- nothing is shifted into the lowest coefficient
    rw [mul_coeff_zero, coeff_X_zero, zero_mul, dif_pos positive, dif_pos positive,
      if_neg filled.symm, reduced, shifted, dif_pos rfl]
    ring
  | succ n =>
    rw [coeff_X_mul, coeff_ofFn]
    by_cases inside : n + 1 < w
    · have before : n < w := Nat.lt_of_succ_lt inside
      have low_part : n + 1 ≠ w := Nat.ne_of_lt inside
      rw [dif_pos inside, dif_pos inside, dif_pos before, if_neg low_part, reduced, shifted,
        dif_neg (Nat.succ_ne_zero n)]
      simp only [Nat.add_sub_cancel]
      ring
    · rw [dif_neg inside, dif_neg inside]
      -- the highest coefficient leaves the word; there is none above it
      by_cases last : n + 1 = w
      · subst last
        rw [if_pos rfl, dif_pos (Nat.lt_succ_self n), top, dif_neg filled]
        simp
      · have beyond : ¬n < w := by omega
        rw [if_neg last, dif_neg beyond]
        ring

/-- Multiplication by `X`, coefficient by coefficient. -/
theorem timesX_eq [Nontrivial R] (positive : 0 < w) (low word : Fin w → R) :
    timesX low word = reduced low word := by
  have smaller : (ofFn w (reduced low word)).degree < (modulus low).degree := by
    rw [degree_modulus]
    exact ofFn_degree_lt _
  have remainder := (div_modByMonic_unique (C (top word)) (ofFn w (reduced low word))
    (monic_modulus low) ⟨X_mul_ofFn positive low word, smaller⟩).2
  rw [timesX, remainder, toFn_comp_ofFn_eq_id]

end QuotientWord
