import CueScript.Proofs.Decimal.Rounding
import Mathlib

set_option autoImplicit false

namespace CueScript

namespace Decimal

open Float.Model Float.Model.UnpackedFloat

section Shifting

/-- What `s` steps to the right leave of `n`: the quotient, whether the remainder is at least a half, and whether it
differs from nothing and from a half. -/
structure Shifted (n s : Nat) (em : ExtendedMantissa) : Prop where
  mantissa : em.mantissa = n / 2 ^ s
  roundBit : em.roundBit = true ↔ 2 ^ s ≤ 2 * (n % 2 ^ s)
  stickyBit : em.stickyBit = true ↔ 2 * (n % 2 ^ s) ≠ 0 ∧ 2 * (n % 2 ^ s) ≠ 2 ^ s

theorem shifted_exact (n : Nat) : Shifted n 0 (.ofMantissaAndAccuracy n .exact) := by
  constructor <;> simp [ExtendedMantissa.ofMantissaAndAccuracy, Nat.mod_one]

theorem Shifted.shiftRightOne {n s : Nat} {em : ExtendedMantissa} (shifted : Shifted n s em) :
    Shifted n (s + 1) em.shiftRightOne := by
  have remainder : n % 2 ^ s < 2 ^ s := Nat.mod_lt n (Nat.two_pow_pos s)
  have digit : n / 2 ^ s % 2 = 0 ∧ n % 2 ^ (s + 1) = n % 2 ^ s ∨
      n / 2 ^ s % 2 = 1 ∧ n % 2 ^ (s + 1) = n % 2 ^ s + 2 ^ s := by
    have step : n % 2 ^ (s + 1) = n % 2 ^ s + 2 ^ s * (n / 2 ^ s % 2) := Nat.mod_pow_succ
    rcases Nat.mod_two_eq_zero_or_one (n / 2 ^ s) with bit | bit
    next => simp [step, bit]
    next => simp [step, bit]
  constructor
  · simp only [ExtendedMantissa.shiftRightOne, shifted.mantissa, Nat.div_div_eq_div_mul, Nat.pow_succ]
  · simp only [ExtendedMantissa.shiftRightOne, shifted.mantissa, bne_iff_ne]
    omega
  · simp only [ExtendedMantissa.shiftRightOne, Bool.or_eq_true, shifted.roundBit, shifted.stickyBit]
    omega

theorem shifted_shiftRight (n s : Nat) : Shifted n s (ExtendedMantissa.ofMantissaAndAccuracy n .exact >>> s) := by
  change Shifted n s (s.repeat ExtendedMantissa.shiftRightOne _)
  induction s with
  | zero => exact shifted_exact n
  | succ s ih => exact ih.shiftRightOne

theorem Shifted.roundedMantissa {n s : Nat} {em : ExtendedMantissa} (shifted : Shifted n s em) :
    em.roundedMantissa = roundDiv n (2 ^ s) := by
  obtain ⟨mantissa, roundBit, stickyBit⟩ := em
  obtain ⟨rfl, round, sticky⟩ := shifted
  have remainder : n % 2 ^ s < 2 ^ s := Nat.mod_lt n (Nat.two_pow_pos s)
  simp only [roundDiv]
  cases roundBit <;> cases stickyBit <;> simp only [true_iff, Bool.false_eq_true, false_iff] at round sticky <;>
    simp only [ExtendedMantissa.roundedMantissa, ExtendedMantissa.accuracy, Accuracy.roundToNearestEven] <;>
    split <;> omega

end Shifting

section Rounding

variable {m n : Nat} {e : Int}

theorem targetExponent_eq (normal : -1022 ≤ m.log2 + e) :
    Format.binary64.targetExponent (totalExponent m e) = m.log2 + e - 52 := by
  simp only [Format.targetExponent, totalExponent, Format.mantissaBits, Format.minExponent]
  norm_num
  omega

theorem shift_exact (m : Nat) (normal : -1022 ≤ m.log2 + e) :
    shiftToTargetExponent .binary64 m e .exact =
      (ExtendedMantissa.ofMantissaAndAccuracy m .exact >>> excess m, e + excess m) := by
  have steps : (m.log2 + e - 52 - e).toNat = excess m := by
    rw [excess]
    omega
  simp only [shiftToTargetExponent, shiftToExponent, targetExponent_eq normal, steps]

theorem round_exact (s : Sign) (long : 52 ≤ m.log2) (normal : -1022 ≤ m.log2 + e) :
    ∃ (m' a : Nat) (positive : 0 < m'),
      roundWithAccuracy .binary64 s m e .exact = .finite s m' (e + a) positive ∧
      (2 ^ 52 ≤ m' ∧ m' < 2 ^ 53) ∧ a ≤ excess m + 1 ∧ m' * 2 ^ a = roundedNat m := by
  have first := (shifted_shiftRight m (excess m)).roundedMantissa
  have value : roundDiv m (2 ^ excess m) * 2 ^ excess m = roundedNat m := rfl
  obtain ⟨low, high⟩ := roundDiv_excess long
  generalize roundDiv m (2 ^ excess m) = r at first value low high
  -- A carry can leave one digit too many, so the sum is shifted a second time, which loses nothing.
  obtain ⟨longer, little, bounds, product⟩ := excess_of_carry low high
  have second := (shifted_shiftRight r (excess r)).mantissa
  have normal' : -1022 ≤ r.log2 + (e + excess m) := by
    rw [excess]
    omega
  refine ⟨r / 2 ^ excess r, excess m + excess r, by omega, ?_, bounds, by omega, ?_⟩
  · simp only [roundWithAccuracy, shift_exact m normal, first, shift_exact r normal', second]
    rw [dif_neg (by omega)]
    push_cast
    simp only [add_assoc]
  · rw [← value, Nat.pow_add, Nat.mul_comm (2 ^ excess m), ← Nat.mul_assoc, product]

end Rounding

section Packing

variable {m b : Nat} {e : Int}

theorem pack_normal (s : Sign) (positive : 0 < m) (low : 2 ^ 52 ≤ m) (high : m < 2 ^ 53) (finite : b < 2047) :
    UnpackedFloat.pack .binary64 (.finite s m (b - 1075) positive) =
      packComponents .binary64 s (BitVec.ofNat 11 b) (BitVec.ofNat 52 m) := by
  have log : m.log2 = 52 := (Nat.log2_eq_iff positive.ne').mpr ⟨low, high⟩
  have digits : m.log2 + 1 = Format.binary64.mantissaBits := congrArg (· + 1) log
  have field : (b - 1075 + (Format.binary64.exponentBias : Int) + (52 : Nat)).toNat = b := by
    have bias : (Format.binary64.exponentBias : Int) = 1023 := rfl
    omega
  simp only [UnpackedFloat.pack, field]
  rw [if_neg (by omega), if_pos digits]

theorem toNat_mantissa (low : 2 ^ 52 ≤ m) (high : m < 2 ^ 53) : (1#1 ++ BitVec.ofNat 52 m).toNat = m := by
  have fraction : (BitVec.ofNat 52 m).toNat = m % 2 ^ 52 := BitVec.toNat_ofNat m 52
  have implicit : (1#1).toNat <<< 52 = 2 ^ 52 := rfl
  rw [BitVec.toNat_append, ← Nat.shiftLeft_add_eq_or_of_lt (BitVec.ofNat 52 m).isLt]
  omega

-- An exponent field between the one of zero and the one of the infinite.
theorem unpack_normal (s : Sign) (positive : 0 < m) (low : 2 ^ 52 ≤ m) (high : m < 2 ^ 53) (nonzero : 0 < b)
    (finite : b < 2047) :
    UnpackedFloat.unpack .binary64 (packComponents .binary64 s (BitVec.ofNat 11 b) (BitVec.ofNat 52 m)) =
      .finite s m (b - 1075) positive := by
  have field : (BitVec.ofNat 11 b).toNat = b := by
    rw [BitVec.toNat_ofNat, Nat.mod_eq_of_lt (by omega)]
  have other {c : BitVec 11} (differs : c.toNat ≠ b) : BitVec.ofNat 11 b ≠ c := by
    rintro rfl
    exact differs field
  have notInfinite : BitVec.ofNat 11 b ≠ -1#11 := other (by change 2047 ≠ b; omega)
  have notZero : BitVec.ofNat 11 b ≠ 0#11 := other (by change 0 ≠ b; omega)
  simp only [UnpackedFloat.unpack, unpackExponent_packComponents, unpackMantissa_packComponents,
    unpackSign_packComponents, Sign.ofBitVec_toBitVec, if_neg notInfinite, if_neg notZero, field,
    toNat_mantissa low high]
  rfl

theorem unpack_pack (s : Sign) (positive : 0 < m) (low : 2 ^ 52 ≤ m) (high : m < 2 ^ 53) (least : -1022 ≤ e + 52)
    (greatest : e + 52 ≤ 1023) :
    (Float.Model.pack (.finite s m e positive)).unpack = .finite s m e positive := by
  obtain ⟨b, rfl⟩ : ∃ b : Nat, e = b - 1075 := ⟨(e + 1075).toNat, by omega⟩
  have packed := pack_normal s positive low high (by omega : b < 2047)
  have unpacked := unpack_normal s positive low high (by omega : 0 < b) (by omega)
  rw [← packed] at unpacked
  exact unpacked

end Packing

inductive Stands : UnpackedFloat → Int → Prop where
  | zero : Stands (.zero .positive) 0
  | finite {m a : Nat} {k : Int} (s : Sign) (positive : 0 < m) (low : 2 ^ 52 ≤ m)
    (high : m < 2 ^ 53) (fits : a ≤ 64) (value : s.apply (m * 2 ^ a : Nat) = 2 ^ 52 * k) :
    Stands (.finite s m (a - 52) positive) k

section Naturals

variable {n : Nat}

theorem round_natural (s : Sign) (n : Nat) :
    UnpackedFloat.round .binary64 s n 0 =
      roundWithAccuracy .binary64 s (n * 2 ^ (52 - n.log2)) (-(52 - n.log2 : Nat)) .exact := by
  have target := targetExponent_eq (m := n) (e := 0) (by omega)
  have up : (-(n.log2 + 0 - 52 : Int)).toNat = 52 - n.log2 := by omega
  simp only [UnpackedFloat.round, decreaseExponent, target, Int.zero_sub, up, Nat.shiftLeft_eq]

theorem stands_ofNat (positive : 0 < n) (fits : n < 2 ^ 64) :
    Stands (UnpackedFloat.ofNat .binary64 n) (roundedNat n) := by
  have log : n.log2 < 64 := (Nat.log2_lt positive.ne').mpr fits
  have unsigned : UnpackedFloat.ofNat .binary64 n = UnpackedFloat.round .binary64 .positive n 0 := by
    have greater : compare (n : Int) 0 = .gt := Int.compare_eq_gt.mpr (by omega)
    simp only [UnpackedFloat.ofNat, UnpackedFloat.ofInt, UnpackedFloat.normalize, greater, Int.toNat_natCast]
  -- A number of fewer than 53 digits is filled up with zeros before it is rounded.
  have digits := log2_mul_pow positive (52 - n.log2)
  obtain ⟨m, a, positive', rounded, ⟨low, high⟩, small, product⟩ :=
    round_exact (m := n * 2 ^ (52 - n.log2)) (e := -(52 - n.log2 : Nat)) .positive (by omega) (by omega)
  rw [roundedNat_mul_pow positive] at product
  rw [excess, digits] at small
  have exponent : -((52 - n.log2 : Nat) : Int) + a = (52 - (52 - n.log2) + a : Nat) - 52 := by omega
  rw [unsigned, round_natural .positive n, rounded]
  simp only [exponent]
  refine .finite .positive positive' low high (by omega) ?_
  have scale : 2 ^ (52 - n.log2) * 2 ^ (52 - (52 - n.log2)) = 2 ^ 52 := by
    rw [← Nat.pow_add]
    congr 1
    omega
  have value : m * 2 ^ (52 - (52 - n.log2) + a) = 2 ^ 52 * roundedNat n := by
    rw [← scale, Nat.pow_add, Nat.mul_comm (2 ^ _) (2 ^ a), ← Nat.mul_assoc, product]
    ring
  simp only [Sign.apply]
  exact_mod_cast value

end Naturals

section Order

variable {m m' a a' : Nat} {j k : Int}

theorem normal_lt (high : m < 2 ^ 53) (low : 2 ^ 52 ≤ m') (less : a < a') : m * 2 ^ a < m' * 2 ^ a' :=
  calc m * 2 ^ a
    _ < 2 ^ 53 * 2 ^ a := Nat.mul_lt_mul_of_pos_right high (Nat.two_pow_pos a)
    _ = 2 ^ 52 * 2 ^ (a + 1) := by ring
    _ ≤ m' * 2 ^ a' := Nat.mul_le_mul low (Nat.pow_le_pow_right (by decide) less)

theorem compare_congr {α β : Type} [LinearOrder α] [LinearOrder β] {x y : α} {x' y' : β} (less : x < y ↔ x' < y')
    (greater : y < x ↔ y' < x') : compare x y = compare x' y' := by
  rcases lt_trichotomy x y with lt | rfl | gt
  next => rw [compare_lt_iff_lt.mpr lt, compare_lt_iff_lt.mpr (less.mp lt)]
  next =>
    have below := not_lt.mp (mt greater.mpr (lt_irrefl x))
    have above := not_lt.mp (mt less.mpr (lt_irrefl x))
    rw [compare_eq_iff_eq.mpr rfl, compare_eq_iff_eq.mpr (le_antisymm below above)]
  next => rw [compare_gt_iff_gt.mpr gt, compare_gt_iff_gt.mpr (greater.mp gt)]

theorem compare_normal (low : 2 ^ 52 ≤ m) (high : m < 2 ^ 53) (low' : 2 ^ 52 ≤ m') (high' : m' < 2 ^ 53) :
    (compare ((a : Int) - 52) (a' - 52)).then (compare m m') = compare (m * 2 ^ a) (m' * 2 ^ a') := by
  rcases lt_trichotomy a a' with less | rfl | greater
  next =>
    rw [compare_lt_iff_lt.mpr (by omega), compare_lt_iff_lt.mpr (normal_lt high low' less)]
    rfl
  next =>
    have scale := Nat.two_pow_pos a
    rw [compare_eq_iff_eq.mpr rfl, Ordering.eq_then]
    exact compare_congr (Nat.mul_lt_mul_right scale).symm (Nat.mul_lt_mul_right scale).symm
  next =>
    rw [compare_gt_iff_gt.mpr (by omega), compare_gt_iff_gt.mpr (normal_lt high' low greater)]
    rfl

theorem lt_eq_compare (less : j < k) : some Ordering.lt = some (compare j k) := by
  rw [compare_lt_iff_lt.mpr less]

theorem gt_eq_compare (greater : k < j) : some Ordering.gt = some (compare j k) := by
  rw [compare_gt_iff_gt.mpr greater]

theorem pos_of_value (positive : 0 < m) (value : Sign.positive.apply (m * 2 ^ a : Nat) = 2 ^ 52 * k) : 0 < k := by
  have size : 0 < m * 2 ^ a := Nat.mul_pos positive (Nat.two_pow_pos a)
  simp only [Sign.apply] at value
  omega

theorem neg_of_value (positive : 0 < m) (value : Sign.negative.apply (m * 2 ^ a : Nat) = 2 ^ 52 * k) : k < 0 := by
  have size : 0 < m * 2 ^ a := Nat.mul_pos positive (Nat.two_pow_pos a)
  simp only [Sign.apply] at value
  omega

theorem Stands.compare_eq {u v : UnpackedFloat} (stands : Stands u j) (stands' : Stands v k) :
    u.compare v = some (compare j k) := by
  cases stands with
  | zero =>
    cases stands' with
    | zero => rfl
    | finite s positive low high fits value =>
      cases s with
      | positive => exact lt_eq_compare (pos_of_value positive value)
      | negative => exact gt_eq_compare (neg_of_value positive value)
  | finite s positive low high fits value =>
    cases stands' with
    | zero =>
      cases s with
      | positive => exact gt_eq_compare (pos_of_value positive value)
      | negative => exact lt_eq_compare (neg_of_value positive value)
    | finite s' positive' low' high' fits' value' =>
      cases s with
      | positive =>
        cases s' with
        | positive =>
          simp only [Sign.apply] at value value'
          exact congrArg some ((compare_normal low high low' high').trans (compare_congr (by omega) (by omega)))
        | negative => exact gt_eq_compare ((neg_of_value positive' value').trans (pos_of_value positive value))
      | negative =>
        cases s' with
        | positive => exact lt_eq_compare ((neg_of_value positive value).trans (pos_of_value positive' value'))
        | negative =>
          simp only [Sign.apply] at value value'
          rw [UnpackedFloat.compare, compare_normal low high low' high', Nat.compare_swap]
          exact congrArg some (compare_congr (by omega) (by omega))

theorem Stands.unique {u v : UnpackedFloat} (stands : Stands u k) (stands' : Stands v k) : u = v := by
  have same := stands.compare_eq stands'
  rw [compare_eq_iff_eq.mpr rfl] at same
  cases stands with
  | zero =>
    cases stands' with
    | zero => rfl
    | finite s => cases s <;> cases same
  | finite s =>
    cases stands' with
    | zero => cases s <;> cases same
    | finite s' =>
      -- Numbers of different sign are never equal, and the others are told apart by exponent and digits.
      cases s <;> cases s' <;> simp [UnpackedFloat.compare] at same
      all_goals
        obtain ⟨rfl, rfl⟩ := same
        rfl

theorem apply_neg (s : Sign) (k : Int) : (-s).apply k = -s.apply k := by
  cases s with
  | positive => rfl
  | negative => exact (Int.neg_neg k).symm

theorem Stands.neg {u : UnpackedFloat} (stands : Stands u k) (nonzero : k ≠ 0) : Stands u.neg (-k) := by
  cases stands with
  | zero => exact absurd rfl nonzero
  | finite s positive low high fits value =>
    refine .finite (-s) positive low high fits ?_
    rw [apply_neg, value, Int.mul_neg]

theorem Stands.unpack_pack {u : UnpackedFloat} (stands : Stands u k) : (Float.Model.pack u).unpack = u := by
  cases stands with
  | zero => rfl
  | finite s positive low high fits => exact Decimal.unpack_pack s positive low high (by omega) (by omega)

end Order

section Integers

variable {x y : Float} {j k : Int}

def IsInteger (x : Float) (k : Int) : Prop :=
  ∃ u, x = ⟨Float.Model.pack u⟩ ∧ Stands u k

theorem float_le_iff (x y : Float) :
    x ≤ y ↔ (x.toModel.unpack.compare y.toModel.unpack).any (·.isLE) = true :=
  decide_eq_true_iff

theorem IsInteger.le_iff (whole : IsInteger x j) (whole' : IsInteger y k) : x ≤ y ↔ j ≤ k := by
  obtain ⟨u, rfl, stands⟩ := whole
  obtain ⟨v, rfl, stands'⟩ := whole'
  rw [float_le_iff, stands.unpack_pack, stands'.unpack_pack, stands.compare_eq stands', Option.any_some,
    Ordering.isLE_iff_ne_gt, compare_gt_iff_gt, not_lt]

theorem IsInteger.eq_iff (whole : IsInteger x j) (whole' : IsInteger y k) : x = y ↔ j = k := by
  constructor
  next =>
    rintro rfl
    have below := (whole.le_iff whole').mp ((whole.le_iff whole).mpr (le_refl j))
    have above := (whole'.le_iff whole).mp ((whole.le_iff whole).mpr (le_refl j))
    exact le_antisymm below above
  next =>
    rintro rfl
    obtain ⟨u, rfl, stands⟩ := whole
    obtain ⟨v, rfl, stands'⟩ := whole'
    rw [stands.unique stands']

theorem toFloat_ofNat {n : Nat} (fits : n < 2 ^ 64) :
    (UInt64.ofNat n).toFloat = ⟨Float.Model.pack (UnpackedFloat.ofNat .binary64 n)⟩ := by
  have size : (UInt64.ofNat n).toNat = n := UInt64.toNat_ofNat_of_lt fits
  simp only [UInt64.toFloat, Float.Model.ofUInt64, UnpackedFloat.ofUInt64, size]

theorem isInteger_neg (whole : IsInteger x k) (nonzero : k ≠ 0) : IsInteger (-x) (-k) := by
  obtain ⟨u, rfl, stands⟩ := whole
  refine ⟨u.neg, ?_, stands.neg nonzero⟩
  have negated : -(⟨Float.Model.pack u⟩ : Float) = ⟨Float.Model.pack (Float.Model.pack u).unpack.neg⟩ := rfl
  rw [negated, stands.unpack_pack]

theorem isInteger_ofInt64 (n : Int64) : IsInteger (ofInt64 n) (rounded n.toInt) := by
  have low := n.le_toInt
  have high := n.toInt_lt
  have size : IsInteger (UInt64.ofNat n.toInt.natAbs).toFloat (roundedNat n.toInt.natAbs) := by
    refine ⟨_, toFloat_ofNat (by omega), ?_⟩
    by_cases zero : n.toInt.natAbs = 0
    next =>
      rw [zero]
      exact .zero
    next => exact stands_ofNat (Nat.pos_of_ne_zero zero) (by omega)
  have sign : n < 0 ↔ n.toInt < 0 := Int64.lt_iff_toInt_lt
  rw [rounded, ofInt64]
  by_cases negative : n < 0
  next =>
    have below : n.toInt < 0 := sign.mp negative
    have nonzero : 0 < roundedNat n.toInt.natAbs :=
      (Nat.two_pow_pos _).trans_le (pow_log2_le_roundedNat (by omega))
    rw [if_pos negative, if_pos below]
    exact isInteger_neg size (by omega)
  next =>
    rw [if_neg negative, if_neg (mt sign.mpr negative)]
    exact size

theorem ofInt64_le_iff (a b : Int64) : ofInt64 a ≤ ofInt64 b ↔ rounded a.toInt ≤ rounded b.toInt :=
  (isInteger_ofInt64 a).le_iff (isInteger_ofInt64 b)

theorem ofInt64_eq_iff (a b : Int64) : ofInt64 a = ofInt64 b ↔ rounded a.toInt = rounded b.toInt :=
  (isInteger_ofInt64 a).eq_iff (isInteger_ofInt64 b)

end Integers

end Decimal

end CueScript
