import Mathlib.Data.Nat.Bitwise
import Mathlib.Data.Nat.Init
import Mathlib.Tactic.Ring

/-!
# Byte strings and bit fields

Big-endian fields of a byte string, exclusive or, and the sums and remainders
behind shifted, combined and masked numbers.
-/

abbrev Bytes := List UInt8

namespace Bytes

/-! ### Big-endian fields -/

/-- The low `n` bytes of `v`, most significant first. -/
def beBytes : Nat → Nat → Bytes
  | 0, _ => []
  | n + 1, v => UInt8.ofNat (v / 256 ^ n) :: beBytes n v

/-- The number the bytes denote, most significant first. -/
def beValue : Bytes → Nat
  | [] => 0
  | b :: bs => b.toNat * 256 ^ bs.length + beValue bs

@[simp] theorem beBytes_length (n v : Nat) : (beBytes n v).length = n := by
  induction n with
  | zero => rfl
  | succ n ih => rw [beBytes, List.length_cons, ih]

theorem beBytes_tail (n v : Nat) : (beBytes (n + 1) v).drop 1 = beBytes n v := rfl

theorem beValue_beBytes_mod (n v : Nat) : beValue (beBytes n v) = v % 256 ^ n := by
  induction n with
  | zero => rw [beBytes, beValue, Nat.pow_zero, Nat.mod_one]
  | succ n ih =>
    rw [beBytes, beValue, ih, beBytes_length, UInt8.toNat_ofNat']
    calc v / 256 ^ n % 256 * 256 ^ n + v % 256 ^ n
        = v % 256 ^ n + 256 ^ n * (v / 256 ^ n % 256) := by
          rw [Nat.mul_comm, Nat.add_comm]
      _ = v % (256 ^ n * 256) := (Nat.mod_mul).symm
      _ = v % 256 ^ (n + 1) := by rw [Nat.pow_succ]

theorem beValue_beBytes {n v : Nat} (fits : v < 256 ^ n) : beValue (beBytes n v) = v := by
  rw [beValue_beBytes_mod, Nat.mod_eq_of_lt fits]

theorem beValue_lt (bs : Bytes) : beValue bs < 256 ^ bs.length := by
  induction bs with
  | nil => exact Nat.one_pos
  | cons b bs ih =>
    have byte : b.toNat + 1 ≤ 256 := b.toNat_lt
    calc beValue (b :: bs) < b.toNat * 256 ^ bs.length + 256 ^ bs.length :=
          Nat.add_lt_add_left ih _
      _ = (b.toNat + 1) * 256 ^ bs.length := by ring
      _ ≤ 256 * 256 ^ bs.length := Nat.mul_le_mul_right _ byte
      _ = 256 ^ (b :: bs).length := by rw [List.length_cons, Nat.pow_succ, Nat.mul_comm]

/-- The bytes of a number that they denote. -/
theorem beBytes_beValue (bs : Bytes) : beBytes bs.length (beValue bs) = bs := by
  have mod_of_front (k n v : Nat) : beBytes n (k * 256 ^ n + v) = beBytes n v := by
    induction n generalizing k with
    | zero => rfl
    | succ n ih =>
      have whole : k * 256 ^ (n + 1) + v = (k * 256) * 256 ^ n + v := by rw [Nat.pow_succ]; ring
      have first : ((k * 256) * 256 ^ n + v) / 256 ^ n = v / 256 ^ n + 256 * k := by
        rw [Nat.add_comm, Nat.add_mul_div_right _ _ (Nat.pow_pos (by decide)), Nat.mul_comm k]
      rw [beBytes, beBytes, whole, first, ih (k * 256)]
      simp
  induction bs with
  | nil => rfl
  | cons b bs ih =>
    have low : beValue bs / 256 ^ bs.length = 0 := Nat.div_eq_of_lt (beValue_lt bs)
    have top : (b.toNat * 256 ^ bs.length + beValue bs) / 256 ^ bs.length = b.toNat := by
      rw [Nat.add_comm, Nat.add_mul_div_right _ _ (Nat.pow_pos (by decide)), low, Nat.zero_add]
    rw [List.length_cons, beBytes, beValue, top, mod_of_front, ih]
    simp

/-! ### Exclusive or -/

def xor (a b : Bytes) : Bytes := List.zipWith (· ^^^ ·) a b

theorem xor_length (a b : Bytes) : (xor a b).length = min a.length b.length :=
  List.length_zipWith

/-- The same key stream twice is the identity. -/
theorem xor_cancel (a b : Bytes) (covered : a.length ≤ b.length) : xor (xor a b) b = a := by
  induction a generalizing b with
  | nil => rfl
  | cons x xs ih =>
    cases b with
    | nil => cases covered
    | cons y ys =>
      have rest : xor (xor xs ys) ys = xs := ih ys (Nat.le_of_succ_le_succ covered)
      have head : x ^^^ y ^^^ y = x := by
        rw [UInt8.xor_assoc, UInt8.xor_self, UInt8.xor_zero]
      exact congrArg₂ List.cons head rest

/-- Exclusive or of byte strings is the one of the numbers they denote. -/
theorem beValue_xor {a b : Bytes} (same : a.length = b.length) :
    beValue (xor a b) = beValue a ^^^ beValue b := by
  induction a generalizing b with
  | nil =>
    cases b with
    | nil => rfl
    | cons y ys => cases same
  | cons x xs ih =>
    cases b with
    | nil => cases same
    | cons y ys =>
      have rest : xs.length = ys.length := Nat.succ.inj same
      have width : (xor xs ys).length = ys.length := by rw [xor_length, rest, Nat.min_self]
      have power (n : Nat) : 256 ^ n = 2 ^ (8 * n) := by rw [Nat.pow_mul]
      have low (z : Bytes) : beValue z < 2 ^ (8 * z.length) := power z.length ▸ beValue_lt z
      apply Nat.eq_of_testBit_eq
      intro i
      have tail : xor (x :: xs) (y :: ys) = (x ^^^ y) :: xor xs ys := rfl
      have lowX := low xs
      have lowXor := low (xor xs ys)
      rw [rest] at lowX
      rw [width] at lowXor
      rw [tail, beValue, beValue, beValue, width, rest, ih rest, power, Nat.mul_comm x.toNat,
        Nat.mul_comm y.toNat, Nat.mul_comm (x ^^^ y).toNat, Nat.testBit_xor,
        Nat.testBit_two_pow_mul_add _ lowX, Nat.testBit_two_pow_mul_add _ (low ys),
        Nat.testBit_two_pow_mul_add _ (ih rest ▸ lowXor), UInt8.toNat_xor]
      split
      · exact Nat.testBit_xor _ _ _
      · exact Nat.testBit_xor _ _ _

/-! ### Bit fields -/

theorem shiftLeft_or (a b k : Nat) (small : b < 2 ^ k) : a <<< k ||| b = a * 2 ^ k + b := by
  rw [← Nat.shiftLeft_add_eq_or_of_lt small, Nat.shiftLeft_eq]

theorem shiftRight_and (x k w : Nat) : (x >>> k) &&& (2 ^ w - 1) = x / 2 ^ k % 2 ^ w := by
  rw [Nat.and_two_pow_sub_one_eq_mod, Nat.shiftRight_eq_div_pow]

/-- Testing one bit. -/
theorem and_bit (x k : Nat) : x &&& 2 ^ k = x / 2 ^ k % 2 * 2 ^ k := by
  rw [Nat.and_two_pow, Nat.testBit_eq_decide_div_mod_eq]
  rcases Nat.mod_two_eq_zero_or_one (x / 2 ^ k) with clear | set
  · rw [clear]
    rfl
  · rw [set]
    rfl

/-- `(a << 8) | b`. -/
theorem beValue_two (a b : UInt8) : a.toNat <<< 8 ||| b.toNat = beValue [a, b] := by
  rw [shiftLeft_or _ _ _ b.toNat_lt]
  simp [beValue]

/-- `(a << 16) | (b << 8) | c`. -/
theorem beValue_three (a b c : UInt8) :
    a.toNat <<< 16 ||| b.toNat <<< 8 ||| c.toNat = beValue [a, b, c] := by
  have low : b.toNat <<< 8 ||| c.toNat = b.toNat * 256 + c.toNat := shiftLeft_or _ _ _ c.toNat_lt
  have bound : b.toNat * 256 + c.toNat < 2 ^ 16 := by
    have hb := b.toNat_lt
    have hc := c.toNat_lt
    omega
  rw [Nat.or_assoc, low, shiftLeft_or _ _ _ bound]
  simp only [beValue, List.length_cons, List.length_nil]
  omega

/-! ### Shifts by one bit -/

/-- Each byte takes the highest bit of the next one in. -/
def shiftOne : Bytes → Bytes
  | [] => []
  | b :: bs => (b <<< 1 ||| bs.headD 0 >>> 7) :: shiftOne bs

@[simp] theorem shiftOne_length (bs : Bytes) : (shiftOne bs).length = bs.length := by
  induction bs with
  | nil => rfl
  | cons b bs ih => rw [shiftOne, List.length_cons, ih, List.length_cons]

theorem shiftOne_getElem? (bs : Bytes) (i : Nat) (inside : i < bs.length) :
    (shiftOne bs)[i]? = some (bs.getD i 0 <<< 1 ||| bs.getD (i + 1) 0 >>> 7) := by
  induction bs generalizing i with
  | nil => cases inside
  | cons b bs ih =>
    cases i with
    | zero =>
      cases bs with
      | nil => rfl
      | cons c cs => rfl
    | succ i => exact ih i (Nat.lt_of_succ_lt_succ inside)

/-- The bit that a shift pushes out is the highest one of the first byte. -/
theorem shifted_out (bs : Bytes) :
    2 * beValue bs / 256 ^ bs.length = (bs.headD 0).toNat / 128 := by
  cases bs with
  | nil => rfl
  | cons b bs =>
    have low := beValue_lt bs
    have carry : 2 * beValue bs / 256 ^ bs.length < 2 := by
      apply Nat.div_lt_of_lt_mul
      omega
    have whole : 2 * beValue (b :: bs) = 2 * beValue bs + 256 ^ bs.length * (2 * b.toNat) := by
      rw [beValue]
      ring
    have positive : 0 < 256 ^ bs.length := Nat.pow_pos (by decide)
    rw [whole, List.length_cons, Nat.pow_succ, ← Nat.div_div_eq_div_mul,
      Nat.add_mul_div_left _ _ positive, List.headD_cons]
    generalize 2 * beValue bs / 256 ^ bs.length = bit at carry ⊢
    omega

private theorem shiftOne_byte (b c : UInt8) :
    (b <<< 1 ||| c >>> 7).toNat = 2 * b.toNat % 256 + c.toNat / 128 := by
  have small : c.toNat / 128 < 2 ^ 1 := by
    have := c.toNat_lt
    omega
  have even : 2 * b.toNat % 256 = (b.toNat % 128) <<< 1 := by
    rw [Nat.shiftLeft_eq]
    omega
  have left : (b <<< 1).toNat = 2 * b.toNat % 256 := by
    rw [UInt8.toNat_shiftLeft, Nat.shiftLeft_eq]
    exact congrArg (· % 256) (Nat.mul_comm _ _)
  have right : (c >>> 7).toNat = c.toNat / 128 := by
    rw [UInt8.toNat_shiftRight, Nat.shiftRight_eq_div_pow]
    rfl
  rw [UInt8.toNat_or, left, right, even, shiftLeft_or _ _ _ small]
  omega

/-- The shift doubles the number, as far as it fits. -/
theorem beValue_shiftOne (bs : Bytes) :
    beValue (shiftOne bs) = 2 * beValue bs % 256 ^ bs.length := by
  induction bs with
  | nil => rfl
  | cons b bs ih =>
    have out := shifted_out bs
    have low := beValue_lt bs
    have even : 2 * b.toNat % 256 ≤ 254 := by omega
    have fits : 2 * b.toNat % 256 * 256 ^ bs.length + 2 * beValue bs < 256 ^ bs.length * 256 := by
      have part := Nat.mul_le_mul_right (256 ^ bs.length) even
      omega
    calc beValue (shiftOne (b :: bs))
        = (2 * b.toNat % 256 + 2 * beValue bs / 256 ^ bs.length) * 256 ^ bs.length +
            2 * beValue bs % 256 ^ bs.length := by
          rw [shiftOne, beValue, shiftOne_byte, shiftOne_length, ih, out]
      _ = 2 * b.toNat % 256 * 256 ^ bs.length + 2 * beValue bs := by
          rw [Nat.add_mul, Nat.add_assoc, Nat.div_add_mod']
      _ = (2 * b.toNat % 256 * 256 ^ bs.length + 2 * beValue bs +
            256 ^ bs.length * 256 * (2 * b.toNat / 256)) % (256 ^ bs.length * 256) := by
          rw [Nat.add_mul_mod_self_left, Nat.mod_eq_of_lt fits]
      _ = 2 * beValue (b :: bs) % 256 ^ (b :: bs).length := by
          have whole := Nat.div_add_mod (2 * b.toNat) 256
          rw [List.length_cons, Nat.pow_succ, beValue]
          congr 1
          calc 2 * b.toNat % 256 * 256 ^ bs.length + 2 * beValue bs +
                256 ^ bs.length * 256 * (2 * b.toNat / 256)
              = (256 * (2 * b.toNat / 256) + 2 * b.toNat % 256) * 256 ^ bs.length +
                  2 * beValue bs := by ring
            _ = 2 * (b.toNat * 256 ^ bs.length + beValue bs) := by
              rw [whole]
              ring

end Bytes
