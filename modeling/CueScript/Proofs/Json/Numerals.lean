import Mathlib.Data.List.TakeWhile
import CueScript.Json.Number

set_option autoImplicit false

namespace CueScript

theorem Bytes.ofText_append (s t : String) : Bytes.ofText (s ++ t) = Bytes.ofText s ++ Bytes.ofText t := by
  simp [Bytes.ofText]

namespace Json

def digit (d : Nat) : UInt8 :=
  UInt8.ofNat (0x30 + d)

def decimal (n : Nat) : Bytes :=
  Bytes.ofText (toString n)

section Digits

theorem decimal_of_lt {n : Nat} (small : n < 10) : decimal n = [digit n] := by
  revert n
  decide

theorem decimal_append {n d : Nat} (positive : 0 < n) (small : d < 10) :
    decimal (10 * n + d) = decimal n ++ [digit d] := by
  have digits := Nat.toDigits_append_toDigits (by decide : 1 < 10) positive small
  rw [← decimal_of_lt small]
  simp only [decimal, Nat.toString_eq_ofList_toDigits, ← digits, String.ofList_append, Bytes.ofText_append]

/-- What holds of one digit, and of digits with one more behind them, holds of every number in decimal digits. -/
theorem decimal_induction {P : Nat → Bytes → Prop} (small : ∀ d, d < 10 → P d [digit d])
    (more : ∀ n d, 0 < n → d < 10 → P n (decimal n) → P (10 * n + d) (decimal n ++ [digit d])) (n : Nat) :
    P n (decimal n) := by
  induction n using Nat.strongRecOn with
  | ind n ih =>
    by_cases one : n < 10
    · exact decimal_of_lt one ▸ small n one
    · have positive : 0 < n / 10 := by omega
      have last : n % 10 < 10 := by omega
      have parts : 10 * (n / 10) + n % 10 = n := by omega
      have grown := more (n / 10) (n % 10) positive last (ih (n / 10) (by omega))
      rwa [← decimal_append positive last, parts] at grown

theorem isDigitByte_digit {d : Nat} (small : d < 10) : isDigitByte (digit d) = true := by
  revert d
  decide

theorem digitOf_digit {d : Nat} (small : d < 10) : digitOf (digit d) = d := by
  revert d
  decide

theorem decimal_all (n : Nat) : ∀ b ∈ decimal n, isDigitByte b = true := by
  apply decimal_induction (P := fun _ digits => ∀ b ∈ digits, isDigitByte b = true)
  · intro d small b member
    rw [List.mem_singleton.mp member]
    exact isDigitByte_digit small
  · intro n d _ small ih b member
    obtain before | last := List.mem_append.mp member
    · exact ih b before
    · rw [List.mem_singleton.mp last]
      exact isDigitByte_digit small

theorem decimal_lead (n : Nat) : ∃ b rest, decimal n = b :: rest ∧ (b = 0x30 → rest = []) := by
  have lead : ∃ b rest, decimal n = b :: rest ∧ (b = 0x30 → n = 0) := by
    apply decimal_induction (P := fun n digits => ∃ b rest, digits = b :: rest ∧ (b = 0x30 → n = 0))
    · intro d small
      refine ⟨digit d, [], rfl, ?_⟩
      revert d
      decide
    · rintro n d positive - ⟨b, rest, digits, lead⟩
      refine ⟨b, rest ++ [digit d], by rw [digits, List.cons_append], fun zero => ?_⟩
      have := lead zero
      omega
  obtain ⟨b, rest, digits, lead⟩ := lead
  refine ⟨b, rest, digits, fun zero => ?_⟩
  have single := decimal_of_lt (by omega : (0 : Nat) < 10)
  rw [lead zero, single] at digits
  exact (List.cons.inj digits).2.symm

theorem gather_append {limit n m : Nat} {first rest : Bytes} (gathered : gather limit n first = (m, [])) :
    gather limit n (first ++ rest) = gather limit m rest := by
  induction first generalizing n with
  | nil =>
    cases gathered
    rfl
  | cons b more ih =>
    unfold gather at gathered
    split at gathered
    next => cases gathered
    next fits => rw [List.cons_append, gather, if_neg fits, ih gathered]

theorem gather_decimal {n limit : Nat} (fits : n ≤ limit) : gather limit 0 (decimal n) = (n, []) := by
  revert fits
  apply decimal_induction (P := fun n digits => n ≤ limit → gather limit 0 digits = (n, []))
  · intro d small fits
    simp only [gather, digitOf_digit small]
    rw [if_neg (by omega)]
    simp
  · intro n d _ small ih fits
    rw [gather_append (ih (by omega))]
    simp only [gather, digitOf_digit small]
    rw [if_neg (by omega)]

end Digits

section Reading

theorem written?_decimal (n : Nat) :
    written? (decimal n) = some ⟨false, decimal n, [], false, []⟩ ∧
    written? (0x2D :: decimal n) = some ⟨true, decimal n, [], false, []⟩ := by
  have taken : (decimal n).takeWhile isDigitByte = decimal n := List.takeWhile_eq_self_iff.mpr (decimal_all n)
  have dropped : (decimal n).dropWhile isDigitByte = [] := List.dropWhile_eq_nil_iff.mpr (decimal_all n)
  obtain ⟨b, rest, digits, lead⟩ := decimal_lead n
  have digit : isDigitByte b = true := decimal_all n b (digits ▸ List.mem_cons_self)
  have unsigned : b ≠ 0x2D := by
    rintro rfl
    revert digit
    decide
  have wellLed : ((decimal n).isEmpty || ((decimal n).length ≠ 1 && (decimal n).head? == some 0x30)) = false := by
    rw [digits]
    by_cases zero : b = 0x30
    · simp [lead zero]
    · simp [zero]
  rw [digits] at taken dropped wellLed ⊢
  constructor
  · simp only [written?]
    split
    next same => exact absurd (List.cons.inj same).1 unsigned
    next =>
      simp only [taken, dropped, wellLed, Bool.false_eq_true, if_false]
      rfl
  · simp only [written?, taken, dropped, wellLed, Bool.false_eq_true, if_false]
    rfl

theorem numeral?_decimal {n : Nat} (fits : n < UInt64.size) : numeral? (decimal n) = some (.whole n) := by
  have gathered := gather_decimal (Nat.le_sub_one_of_lt fits)
  simp only [numeral?, (written?_decimal n).1, bind, Option.bind]
  rw [gathered]
  rfl

theorem numeral?_minus {n : Nat} (positive : 0 < n) (fits : n ≤ 0x8000000000000000) :
    numeral? (0x2D :: decimal n) = some (.negative n) := by
  have gathered := gather_decimal (by simp only [UInt64.size]; omega : n ≤ UInt64.size - 1)
  simp only [numeral?, (written?_decimal n).2, bind, Option.bind]
  rw [gathered]
  have within : ¬ (n = 0 ∨ 0x8000000000000000 < n) := by omega
  simp [within]

theorem ofNat_eq (n : Nat) : ofNat n = .number (decimal n) :=
  rfl

theorem nat?_ofNat {n limit : Nat} (below : n < limit) (fits : limit ≤ UInt64.size) :
    (ofNat n).nat? limit = some n := by
  have numeral := numeral?_decimal (Nat.lt_of_lt_of_le below fits)
  simp only [ofNat_eq, nat?, numeral, if_pos below]

theorem ofInt_cases (n : Int) :
    (0 ≤ n ∧ ofInt n = .number (decimal n.natAbs)) ∨ (n < 0 ∧ ofInt n = .number (0x2D :: decimal n.natAbs)) := by
  cases n with
  | ofNat n => exact .inl ⟨by simp, rfl⟩
  | negSucc n =>
    refine .inr ⟨by omega, ?_⟩
    have signed : toString (Int.negSucc n) = "-" ++ toString (n + 1) := rfl
    have sign : Bytes.ofText "-" = [0x2D] := by decide
    rw [ofInt, signed, Bytes.ofText_append, sign]
    rfl

theorem int64?_ofInt (n : Int64) : (ofInt n.toInt).int64? = some n := by
  have low : -2 ^ 63 ≤ n.toInt := n.le_toInt
  have high : n.toInt < 2 ^ 63 := n.toInt_lt
  have back : Int64.ofInt n.toInt = n := Int64.ofInt_toInt n
  obtain ⟨positive, printed⟩ | ⟨negative, printed⟩ := ofInt_cases n.toInt
  · have numeral := numeral?_decimal (by simp only [UInt64.size]; omega : n.toInt.natAbs < UInt64.size)
    have size : (n.toInt.natAbs : Int) = n.toInt := by omega
    simp only [printed, int64?, numeral, size, back]
    rw [if_pos (by omega)]
  · have numeral := numeral?_minus (by omega : 0 < n.toInt.natAbs) (by omega)
    have size : -(n.toInt.natAbs : Int) = n.toInt := by omega
    simp only [printed, int64?, numeral, size, back]

end Reading

end Json

end CueScript
