import CueScript.Decimal.Fixed
import Mathlib.Tactic.Ring

set_option autoImplicit false

namespace CueScript

namespace Decimal

section Division

variable {a b d k : Nat}

theorem roundDiv_bounds (a d : Nat) : a / d ≤ roundDiv a d ∧ roundDiv a d ≤ a / d + 1 := by
  simp only [roundDiv]
  split <;> omega

theorem roundDiv_mul (k : Nat) (positive : 0 < d) : roundDiv (k * d) d = k := by
  simp only [roundDiv, Nat.mul_mod_left, Nat.mul_div_cancel k positive]
  rw [if_neg (by omega)]

theorem roundDiv_one (a : Nat) : roundDiv a 1 = a := by
  simpa using roundDiv_mul a Nat.one_pos

theorem roundDiv_mono (le : a ≤ b) (d : Nat) : roundDiv a d ≤ roundDiv b d := by
  have quotients : a / d ≤ b / d := Nat.div_le_div_right le
  by_cases same : a / d = b / d
  next =>
    -- Of two numbers with one quotient the greater has the greater remainder.
    have remainders : a % d ≤ b % d := by
      have left := Nat.div_add_mod a d
      have right := Nat.div_add_mod b d
      rw [same] at left
      omega
    simp only [roundDiv, same]
    split <;> split <;> omega
  next =>
    have upper := (roundDiv_bounds a d).2
    have lower := (roundDiv_bounds b d).1
    omega

theorem le_roundDiv (le : k * d ≤ a) (positive : 0 < d) : k ≤ roundDiv a d := by
  rw [← roundDiv_mul k positive]
  exact roundDiv_mono le d

theorem roundDiv_le (le : a ≤ k * d) (positive : 0 < d) : roundDiv a d ≤ k := by
  rw [← roundDiv_mul k positive]
  exact roundDiv_mono le d

theorem roundDiv_near (a : Nat) (positive : 0 < d) :
    2 * (roundDiv a d * d) ≤ 2 * a + d ∧ 2 * a ≤ 2 * (roundDiv a d * d) + d := by
  have parts := Nat.div_add_mod a d
  have remainder := Nat.mod_lt a positive
  have product : (a / d + 1) * d = d * (a / d) + d := by ring
  have product' : a / d * d = d * (a / d) := Nat.mul_comm _ _
  simp only [roundDiv]
  split <;> omega

end Division

section Naturals

variable {m n k r : Nat}

def excess (n : Nat) : Nat :=
  n.log2 - 52

def roundedNat (n : Nat) : Nat :=
  roundDiv n (2 ^ excess n) * 2 ^ excess n

theorem excess_le (n : Nat) : excess n ≤ n.log2 :=
  Nat.sub_le _ _

theorem pow_log2_le_roundedNat (positive : 0 < n) : 2 ^ n.log2 ≤ roundedNat n := by
  have split : 2 ^ n.log2 = 2 ^ (n.log2 - excess n) * 2 ^ excess n := by
    rw [← Nat.pow_add, Nat.sub_add_cancel (excess_le n)]
  have least : 2 ^ n.log2 ≤ n := Nat.log2_self_le positive.ne'
  rw [split] at least ⊢
  exact Nat.mul_le_mul_right _ (le_roundDiv least (Nat.two_pow_pos _))

theorem roundedNat_le_pow_log2 (n : Nat) : roundedNat n ≤ 2 ^ (n.log2 + 1) := by
  have split : 2 ^ (n.log2 + 1) = 2 ^ (n.log2 + 1 - excess n) * 2 ^ excess n := by
    rw [← Nat.pow_add, Nat.sub_add_cancel ((excess_le n).trans (Nat.le_succ _))]
  have greatest : n ≤ 2 ^ (n.log2 + 1) := Nat.lt_log2_self.le
  rw [split] at greatest ⊢
  exact Nat.mul_le_mul_right _ (roundDiv_le greatest (Nat.two_pow_pos _))

theorem roundedNat_mono (le : n ≤ k) : roundedNat n ≤ roundedNat k := by
  rcases Nat.eq_zero_or_pos n with rfl | positive
  next => exact Nat.zero_le _
  have logs : n.log2 ≤ k.log2 :=
    (Nat.le_log2 (positive.trans_le le).ne').mpr ((Nat.log2_self_le positive.ne').trans le)
  rcases logs.eq_or_lt with same | longer
  next =>
    rw [roundedNat, roundedNat, excess, excess, same]
    exact Nat.mul_le_mul_right _ (roundDiv_mono le _)
  next =>
    -- The power of two between numbers of different lengths stays between what they are rounded to.
    calc roundedNat n
      _ ≤ 2 ^ (n.log2 + 1) := roundedNat_le_pow_log2 n
      _ ≤ 2 ^ k.log2 := Nat.pow_le_pow_right (by decide) longer
      _ ≤ roundedNat k := pow_log2_le_roundedNat (positive.trans_le le)

theorem roundedNat_of_log2 (short : n.log2 ≤ 52) : roundedNat n = n := by
  have none : excess n = 0 := Nat.sub_eq_zero_of_le short
  simp [roundedNat, none, roundDiv_one]

theorem roundedNat_exact (small : n ≤ 2 ^ 53) : roundedNat n = n := by
  rcases small.eq_or_lt with rfl | below
  next => decide
  next =>
    apply roundedNat_of_log2
    by_cases zero : n = 0
    next => simp [zero]
    next => exact Nat.le_of_lt_succ ((Nat.log2_lt zero).mpr below)

theorem roundedNat_near (fits : n ≤ 2 ^ 63) : roundedNat n ≤ n + 512 ∧ n ≤ roundedNat n + 512 := by
  rcases fits.eq_or_lt with rfl | below
  next => decide
  next =>
    have near := roundDiv_near n (Nat.two_pow_pos (excess n))
    have unit : 2 ^ excess n ≤ 1024 := by
      by_cases zero : n = 0
      next => simp [zero, excess]
      next =>
        have log := (Nat.log2_lt zero).mpr below
        exact Nat.pow_le_pow_right (by decide : 0 < 2) (by rw [excess]; omega : excess n ≤ 10)
    rw [roundedNat]
    omega

theorem roundDiv_excess (long : 52 ≤ m.log2) :
    2 ^ 52 ≤ roundDiv m (2 ^ excess m) ∧ roundDiv m (2 ^ excess m) ≤ 2 ^ 53 := by
  have digits : m.log2 = 52 + excess m := by
    rw [excess]
    omega
  have nonzero : m ≠ 0 := by
    rintro rfl
    simp at long
  have least := Nat.log2_self_le nonzero
  have greatest := (Nat.lt_log2_self (n := m)).le
  rw [digits, Nat.pow_add] at least
  rw [digits, Nat.add_right_comm, Nat.pow_add] at greatest
  exact ⟨le_roundDiv least (Nat.two_pow_pos _), roundDiv_le greatest (Nat.two_pow_pos _)⟩

-- Digits that carry all the way leave a power of two, which loses one of its zeros.
theorem excess_of_carry (low : 2 ^ 52 ≤ r) (high : r ≤ 2 ^ 53) :
    52 ≤ r.log2 ∧ excess r ≤ 1 ∧ (2 ^ 52 ≤ r / 2 ^ excess r ∧ r / 2 ^ excess r < 2 ^ 53) ∧
      r / 2 ^ excess r * 2 ^ excess r = r := by
  rcases high.eq_or_lt with rfl | below
  next => decide
  next =>
    have digits : r.log2 = 52 := (Nat.log2_eq_iff (by omega)).mpr ⟨low, below⟩
    have none : excess r = 0 := by rw [excess, digits]
    rw [none, Nat.pow_zero, Nat.div_one, Nat.mul_one]
    exact ⟨digits.ge, Nat.zero_le 1, ⟨low, below⟩, rfl⟩

theorem log2_mul_pow (positive : 0 < n) (up : Nat) : (n * 2 ^ up).log2 = n.log2 + up := by
  have least := Nat.log2_self_le positive.ne'
  have greatest := Nat.lt_log2_self (n := n)
  refine (Nat.log2_eq_iff (Nat.mul_pos positive (Nat.two_pow_pos up)).ne').mpr ⟨?_, ?_⟩
  · rw [Nat.pow_add]
    exact Nat.mul_le_mul_right _ least
  · rw [Nat.add_right_comm, Nat.pow_add]
    exact Nat.mul_lt_mul_of_pos_right greatest (Nat.two_pow_pos up)

theorem roundedNat_mul_pow (positive : 0 < n) :
    roundedNat (n * 2 ^ (52 - n.log2)) = roundedNat n * 2 ^ (52 - n.log2) := by
  by_cases short : n.log2 ≤ 52
  next =>
    have digits := log2_mul_pow positive (52 - n.log2)
    rw [roundedNat_of_log2 short, roundedNat_of_log2 (by omega)]
  next => rw [Nat.sub_eq_zero_of_le (Nat.le_of_not_le short), Nat.pow_zero, Nat.mul_one, Nat.mul_one]

end Naturals

section Integers

variable {n k : Int}

def rounded (n : Int) : Int :=
  if n < 0 then -roundedNat n.natAbs else roundedNat n.natAbs

theorem rounded_mono (le : n ≤ k) : rounded n ≤ rounded k := by
  simp only [rounded]
  by_cases negative : n < 0
  next =>
    by_cases negative' : k < 0
    next =>
      have sizes := roundedNat_mono (by omega : k.natAbs ≤ n.natAbs)
      rw [if_pos negative, if_pos negative']
      omega
    next =>
      rw [if_pos negative, if_neg negative']
      omega
  next =>
    have sizes := roundedNat_mono (by omega : n.natAbs ≤ k.natAbs)
    rw [if_neg negative, if_neg (by omega)]
    omega

theorem rounded_exact (small : n.natAbs ≤ 2 ^ 53) : rounded n = n := by
  rw [rounded, roundedNat_exact small]
  split <;> omega

theorem rounded_near (fits : n.natAbs ≤ 2 ^ 63) : rounded n ≤ n + 512 ∧ n ≤ rounded n + 512 := by
  have near := roundedNat_near fits
  rw [rounded]
  split <;> omega

end Integers

end Decimal

end CueScript
