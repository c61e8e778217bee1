import CueScript.Machine.Flow

set_option autoImplicit false

namespace CueScript

theorem one_le_of_pos {n : Int64} (positive : 0 < n) : 1 ≤ n := by
  rw [Int64.lt_iff_toInt_lt] at positive
  rw [Int64.le_iff_toInt_le]
  have one := Int64.toInt_one
  have zero := Int64.toInt_zero
  omega

theorem one_le_clampStep (perUnit : Int64) : 1 ≤ clampStep perUnit := by
  unfold clampStep
  split
  next positive => exact one_le_of_pos positive
  next => decide

theorem toInt_mul_pos {units step : Int64} (left : 0 < units) (right : 1 ≤ step) : 0 < units.toInt * step.toInt := by
  rw [Int64.lt_iff_toInt_lt] at left
  rw [Int64.le_iff_toInt_le] at right
  have one := Int64.toInt_one
  have zero := Int64.toInt_zero
  apply Int.mul_pos <;> omega

theorem toInt_saturatingMul {units step : Int64} (left : 0 < units) (right : 1 ≤ step) :
    (saturatingMul units step).toInt = min (units.toInt * step.toInt) 0x7FFFFFFFFFFFFFFF := by
  have product := toInt_mul_pos left right
  unfold saturatingMul
  dsimp only
  split
  next large =>
    have most : Int64.maxValue.toInt = 0x7FFFFFFFFFFFFFFF := by decide
    rw [most]
    omega
  next =>
    split
    · omega
    · rw [Int64.toInt_ofInt_of_le] <;> omega

theorem saturatingMul_pos {units step : Int64} (left : 0 < units) (right : 1 ≤ step) : 0 < saturatingMul units step := by
  have product := toInt_mul_pos left right
  rw [Int64.lt_iff_toInt_lt, toInt_saturatingMul left right, Int64.toInt_zero]
  omega

theorem toInt_pred {n : Int64} (positive : 0 < n) : (n - 1).toInt = n.toInt - 1 := by
  rw [Int64.lt_iff_toInt_lt] at positive
  have one := Int64.toInt_one
  have zero := Int64.toInt_zero
  have bound := n.toInt_lt
  rw [Int64.toInt_sub, one, Int.bmod_eq_of_le] <;> omega

theorem nonneg_pred {n : Int64} (positive : 0 < n) : 0 ≤ n - 1 := by
  have less := toInt_pred positive
  rw [Int64.lt_iff_toInt_lt] at positive
  rw [Int64.le_iff_toInt_le]
  have zero := Int64.toInt_zero
  omega

theorem nonneg_max_zero (n : Int64) : 0 ≤ max n 0 := by
  change 0 ≤ if n ≤ 0 then 0 else n
  split
  next => decide
  next high => exact Int64.le_of_lt (Int64.not_le.mp high)

section Counting

variable {n : Int64}

theorem toNat_pred (positive : 0 < n) : n.toInt.toNat = (n - 1).toInt.toNat + 1 := by
  have less := toInt_pred positive
  rw [Int64.lt_iff_toInt_lt] at positive
  have zero := Int64.toInt_zero
  omega

theorem toNat_of_not_pos (due : ¬ 0 < n) : n.toInt.toNat = 0 := by
  rw [Int64.lt_iff_toInt_lt] at due
  have zero := Int64.toInt_zero
  omega

theorem toNat_max_zero (n : Int64) : (max n 0).toInt.toNat = n.toInt.toNat := by
  change (if n ≤ 0 then 0 else n).toInt.toNat = n.toInt.toNat
  split
  next low =>
    rw [toNat_of_not_pos (Int64.not_lt.mpr low)]
    rfl
  next => rfl

theorem max_zero_eq (n : Int64) : max n 0 = Int64.ofNat n.toInt.toNat := by
  have upper := n.toInt_lt
  have zero := Int64.toInt_zero
  change (if n ≤ 0 then 0 else n) = _
  apply Int64.toInt_inj.mp
  rw [Int64.toInt_ofNat_of_lt (by omega)]
  split
  next low =>
    rw [Int64.le_iff_toInt_le] at low
    omega
  next high =>
    rw [Int64.le_iff_toInt_le] at high
    omega

theorem ofNat_pos {n : Nat} (bound : n < 0x8000000000000000) : 0 < Int64.ofNat n ↔ 0 < n := by
  have zero := Int64.toInt_zero
  rw [Int64.lt_iff_toInt_lt, Int64.toInt_ofNat_of_lt bound]
  omega

theorem ofNat_succ_sub_one (n : Nat) : Int64.ofNat (n + 1) - 1 = Int64.ofNat n := by
  rw [Int64.ofNat_add]
  exact Int64.add_sub_cancel _ _

end Counting

end CueScript
