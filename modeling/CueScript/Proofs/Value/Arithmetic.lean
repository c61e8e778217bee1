import CueScript.Value.Operator
import Mathlib.Data.Int.ModEq

set_option autoImplicit false

namespace CueScript

section Words

variable {x y : Int64}

theorem bmod_modEq (k : Int) : k.bmod (2 ^ 64) ≡ k [ZMOD 2 ^ 64] :=
  Int.bmod_emod

theorem toInt_add_modEq (x y : Int64) : (x + y).toInt ≡ x.toInt + y.toInt [ZMOD 2 ^ 64] := by
  rw [Int64.toInt_add]
  exact bmod_modEq _

theorem toInt_sub_modEq (x y : Int64) : (x - y).toInt ≡ x.toInt - y.toInt [ZMOD 2 ^ 64] := by
  rw [Int64.toInt_sub]
  exact bmod_modEq _

theorem toInt_mul_modEq (x y : Int64) : (x * y).toInt ≡ x.toInt * y.toInt [ZMOD 2 ^ 64] := by
  rw [Int64.toInt_mul]
  exact bmod_modEq _

theorem toInt_neg_modEq (x : Int64) : (-x).toInt ≡ -x.toInt [ZMOD 2 ^ 64] := by
  rw [Int64.toInt_neg]
  exact bmod_modEq _

theorem toInt_div_modEq (x y : Int64) : (x / y).toInt ≡ x.toInt.tdiv y.toInt [ZMOD 2 ^ 64] := by
  rw [Int64.toInt_div]
  exact bmod_modEq _

theorem eq_of_modEq (same : x.toInt ≡ y.toInt [ZMOD 2 ^ 64]) : x = y := by
  have wrapped (z : Int64) : z.toInt = (z.toInt % 2 ^ 64).bmod (2 ^ 64) :=
    (Int64.toInt_bmod z).symm.trans (Int.emod_bmod z.toInt (2 ^ 64)).symm
  rw [← Int64.toInt_inj, wrapped x, wrapped y, same]

theorem div_mul_add_mod (x y : Int64) : x / y * y + x % y = x := by
  apply eq_of_modEq
  have product : (x / y * y).toInt ≡ x.toInt.tdiv y.toInt * y.toInt [ZMOD 2 ^ 64] :=
    (toInt_mul_modEq _ _).trans ((toInt_div_modEq x y).mul_right _)
  calc (x / y * y + x % y).toInt
    _ ≡ (x / y * y).toInt + (x % y).toInt [ZMOD 2 ^ 64] := toInt_add_modEq _ _
    _ ≡ x.toInt.tdiv y.toInt * y.toInt + (x % y).toInt [ZMOD 2 ^ 64] := product.add_right _
    _ = x.toInt := by rw [Int64.toInt_mod, Int.tdiv_mul_add_tmod]

theorem natAbs_mod_lt (divisor : y ≠ 0) : (x % y).toInt.natAbs < y.toInt.natAbs := by
  have nonzero : y.toInt ≠ 0 := by
    rwa [ne_eq, ← Int64.toInt_zero, Int64.toInt_inj]
  rw [Int64.toInt_mod, Int.natAbs_tmod]
  exact Nat.mod_lt _ (Int.natAbs_pos.mpr nonzero)

theorem sign_mod (x y : Int64) : (x % y).toInt = 0 ∨ (x % y).toInt.sign = x.toInt.sign := by
  rw [Int64.toInt_mod]
  by_cases zero : x.toInt.tmod y.toInt = 0
  next => exact .inl zero
  next =>
    right
    rcases lt_trichotomy x.toInt 0 with negative | none | positive
    next =>
      have above : 0 ≤ (-x.toInt).tmod y.toInt := Int.tmod_nonneg y.toInt (by omega)
      have below : x.toInt.tmod y.toInt ≤ 0 := by
        rw [Int.neg_tmod] at above
        omega
      rw [Int.sign_eq_neg_one_of_neg negative, Int.sign_eq_neg_one_of_neg (lt_of_le_of_ne below zero)]
    next => simp [none] at zero
    next =>
      have above : 0 ≤ x.toInt.tmod y.toInt := Int.tmod_nonneg y.toInt positive.le
      rw [Int.sign_eq_one_of_pos positive, Int.sign_eq_one_of_pos (lt_of_le_of_ne above (Ne.symm zero))]

end Words

namespace Value

/-- An integer that another one wraps around to. -/
def Wraps (v : Value) (k : Int) : Prop :=
  ∃ n : Int64, v = .int n ∧ n.toInt ≡ k [ZMOD 2 ^ 64]

variable {a b : Value}

theorem arith_whole (whole : a.isFloat = false) (whole' : b.isFloat = false) (onFloats : Float → Float → Float)
    (onInts : Int64 → Int64 → Int64) : a.arith onFloats onInts b = .int (onInts a.toInt b.toInt) := by
  simp [arith, whole, whole']

theorem add_whole (store : Store) (whole : a.isFloat = false) (whole' : b.isFloat = false) (textless : a.text? = none)
    (textless' : b.text? = none) : a.add store b = .int (a.toInt + b.toInt) := by
  rw [← arith_whole whole whole' (· + ·) (· + ·)]
  unfold add
  split
  next => cases textless
  next => cases textless'
  next => rfl

theorem div_whole (whole : a.isFloat = false) (whole' : b.isFloat = false) :
    a.div b = .int (if b.toInt = 0 then 0 else a.toInt / b.toInt) :=
  arith_whole whole whole' _ _

theorem mod_whole (whole : a.isFloat = false) (whole' : b.isFloat = false) :
    a.mod b = .int (if b.toInt = 0 then 0 else a.toInt % b.toInt) :=
  arith_whole whole whole' _ _

theorem neg_whole (store : Store) (whole : a.isFloat = false) : UnaryOp.neg.apply store a = .int (-a.toInt) := by
  cases a with
  | float => cases whole
  | nil | int | text | array => rfl

end Value

/-- The operators on values other than floats, which stand for the integers they are taken for. -/
theorem integer_operators_coherent (store : Store) {a b : Value} (whole : a.isFloat = false)
    (whole' : b.isFloat = false) :
    (a.text? = none → b.text? = none → (BinaryOp.add.apply store a b).Wraps (a.toInt.toInt + b.toInt.toInt)) ∧
    (BinaryOp.sub.apply store a b).Wraps (a.toInt.toInt - b.toInt.toInt) ∧
    (BinaryOp.mul.apply store a b).Wraps (a.toInt.toInt * b.toInt.toInt) ∧
    (b.toInt = 0 → BinaryOp.div.apply store a b = .int 0 ∧ BinaryOp.mod.apply store a b = .int 0) ∧
    (b.toInt ≠ 0 →
      (BinaryOp.div.apply store a b).Wraps (a.toInt.toInt.tdiv b.toInt.toInt) ∧
      (∃ r : Int64, BinaryOp.mod.apply store a b = .int r ∧ (r.toInt = 0 ∨ r.toInt.sign = a.toInt.toInt.sign) ∧
        r.toInt.natAbs < b.toInt.toInt.natAbs) ∧
      BinaryOp.add.apply store (BinaryOp.mul.apply store (BinaryOp.div.apply store a b) b)
        (BinaryOp.mod.apply store a b) = .int a.toInt) ∧
    UnaryOp.neg.apply store a = BinaryOp.sub.apply store (.int 0) a := by
  have sub : BinaryOp.sub.apply store a b = .int (a.toInt - b.toInt) := Value.arith_whole whole whole' _ _
  have mul : BinaryOp.mul.apply store a b = .int (a.toInt * b.toInt) := Value.arith_whole whole whole' _ _
  have div : BinaryOp.div.apply store a b = _ := Value.div_whole whole whole'
  have mod : BinaryOp.mod.apply store a b = _ := Value.mod_whole whole whole'
  refine ⟨fun textless textless' => ?_, ⟨_, sub, toInt_sub_modEq _ _⟩, ⟨_, mul, toInt_mul_modEq _ _⟩, fun zero => ?_,
    fun divisor => ?_, ?_⟩
  · exact ⟨_, Value.add_whole store whole whole' textless textless', toInt_add_modEq _ _⟩
  · rw [div, mod, if_pos zero, if_pos zero]
    exact ⟨rfl, rfl⟩
  · rw [if_neg divisor] at div mod
    have product : BinaryOp.mul.apply store (BinaryOp.div.apply store a b) b = .int (a.toInt / b.toInt * b.toInt) := by
      rw [div]
      exact Value.arith_whole rfl whole' _ _
    refine ⟨⟨_, div, toInt_div_modEq _ _⟩, ⟨_, mod, sign_mod _ _, natAbs_mod_lt divisor⟩, ?_⟩
    rw [product, mod]
    exact congrArg Value.int (div_mul_add_mod _ _)
  · have difference : BinaryOp.sub.apply store (.int 0) a = .int (0 - a.toInt) := Value.arith_whole rfl whole _ _
    rw [Value.neg_whole store whole, difference, Int64.zero_sub]

theorem least_integer_restored :
    (BinaryOp.div.apply {} (.text " -9223372036854775808th") (.text "-1")).Wraps (2 ^ 63) ∧
    BinaryOp.add.apply {} (BinaryOp.mul.apply {} (BinaryOp.div.apply {} (.text " -9223372036854775808th") (.text "-1"))
      (.text "-1")) (BinaryOp.mod.apply {} (.text " -9223372036854775808th") (.text "-1")) =
        .int (-9223372036854775808) := by
  have least : (Value.text " -9223372036854775808th").toInt = -9223372036854775808 := by decide
  have minusOne : (Value.text "-1").toInt = -1 := by decide
  obtain ⟨-, -, -, -, divided, -⟩ := integer_operators_coherent {} (a := .text " -9223372036854775808th")
    (b := .text "-1") rfl rfl
  rw [least, minusOne] at divided
  obtain ⟨quotient, -, restored⟩ := divided (by decide)
  exact ⟨quotient, restored⟩

end CueScript
