import CueScript.Proofs.Format.Pieces
import CueScript.Proofs.Value.LeadingInteger

set_option autoImplicit false

namespace CueScript

namespace Format

open Decimal (isDigit numeral)

section Whole

def signOf (n : Int) : IntegerText.Sign :=
  if n < 0 then .minus else .none

/-- An integer with blanks before it, zeros behind its sign and blanks after it. -/
def whole (n : Int) (before zeros after : Nat) : IntegerText where
  blanks := List.replicate before ' '
  sign := signOf n
  digits := List.replicate zeros '0' ++ Nat.toDigits 10 n.natAbs
  rest := List.replicate after ' '
  allBlank c member := by
    rw [List.eq_of_mem_replicate member]
    decide
  allDigits c member := by
    rcases List.mem_append.mp member with zero | digit
    next =>
      rw [List.eq_of_mem_replicate zero]
      decide
    next =>
      have range := Nat.isDigit_of_mem_toDigits (by decide) (by decide) digit
      rw [Char.isDigit, Bool.and_eq_true, decide_eq_true_eq, decide_eq_true_eq] at range
      exact isDigit_iff.mpr range
  stops c first := by
    rw [List.eq_of_mem_replicate (List.mem_of_mem_head? first)]
    decide
  bare _ none := absurd (List.append_eq_nil_iff.mp none).2 Nat.toDigits_ne_nil

theorem value_whole (n : Int) (before zeros after : Nat) : (whole n before zeros after).value = n := by
  have size : numeral (whole n before zeros after).digits = n.natAbs := by
    have digits := Nat.ofDigitChars_append (b := 10) (l := List.replicate zeros '0')
      (m := Nat.toDigits 10 n.natAbs) 0
    rwa [Nat.ofDigitChars_replicate_zero, Nat.mul_zero, Nat.ofDigitChars_ten_toDigits] at digits
  have sign : (whole n before zeros after).sign = signOf n := rfl
  rw [IntegerText.value, size, sign, signOf]
  split
  next => simp only [IntegerText.Sign.apply]; omega
  next => simp only [IntegerText.Sign.apply]; omega

theorem toInt_whole (n : Int64) (before zeros after : Nat) :
    (Value.text (whole n.toInt before zeros after).text).toInt = n := by
  have read := (whole n.toInt before zeros after).leadingInt_modEq
  rw [value_whole] at read
  exact eq_of_modEq read

theorem text_whole (n : Int) (before zeros after : Nat) :
    (whole n before zeros after).text = String.ofList (List.replicate before ' ' ++ ((signOf n).text ++
      ((List.replicate zeros '0' ++ Nat.toDigits 10 n.natAbs) ++ List.replicate after ' '))) :=
  rfl

theorem toList_toString (n : Int) : (toString n).toList = (signOf n).text ++ Nat.toDigits 10 n.natAbs := by
  rw [Int.toString_eq_repr, Int.repr_eq_if, signOf]
  by_cases negative : n < 0
  next =>
    have size : (-n).toNat = n.natAbs := by omega
    rw [if_neg (by omega), if_pos negative, size, String.toList_append, Nat.toList_repr]
    rfl
  next =>
    have size : n.toNat = n.natAbs := by omega
    rw [if_pos (by omega), if_neg negative, size, Nat.toList_repr]
    rfl

theorem pad_zeros (n : Int) (width : Nat) : ∃ zeros,
    pad false true width ((signOf n).text ++ Nat.toDigits 10 n.natAbs) =
      (signOf n).text ++ (List.replicate zeros '0' ++ Nat.toDigits 10 n.natAbs) := by
  refine ⟨width - ((signOf n).text ++ Nat.toDigits 10 n.natAbs).length, ?_⟩
  rw [signOf]
  by_cases negative : n < 0
  next => simp [pad, negative, IntegerText.Sign.text]
  next =>
    -- The digits of a number that is not negative could only be taken apart at a minus sign, which is no digit.
    have unsigned (digits : List Char) : Nat.toDigits 10 n.natAbs ≠ '-' :: digits := by
      intro same
      have digit := (whole n 0 0 0).allDigits '-' (by simp [whole, same])
      revert digit
      decide
    simp [pad, negative, IntegerText.Sign.text]

theorem pad_whole (left zero : Bool) (width : Nat) (n : Int) : ∃ before zeros after,
    (whole n before zeros after).text = String.ofList (pad left zero width (toString n).toList) := by
  simp only [text_whole, toList_toString]
  cases left with
  | true => exact ⟨0, 0, width - ((signOf n).text ++ Nat.toDigits 10 n.natAbs).length, by simp [pad]⟩
  | false =>
    cases zero with
    | true =>
      obtain ⟨zeros, padded⟩ := pad_zeros n width
      exact ⟨0, zeros, 0, by simp [padded]⟩
    | false => exact ⟨width - ((signOf n).text ++ Nat.toDigits 10 n.natAbs).length, 0, 0, by simp [pad]⟩

end Whole

section Directives

variable {flags width : List Char}

def integerSpelling (flags width : List Char) : Spelling where
  flags
  width
  conversion := 'd'

theorem integerSpelling_greedy (flagged : ∀ c ∈ flags, c = '-' ∨ c = '0') (digits : ∀ c ∈ width, isDigit c = true)
    (leading : width.head? ≠ some '0') : (integerSpelling flags width).Greedy := by
  have behind : ∃ c ∈ (width ++ ['d']).head?, isFlag c = false ∧ c ≠ '%' := by
    cases width with
    | nil => exact ⟨'d', rfl, by decide, by decide⟩
    | cons c rest =>
      have digit := digits c List.mem_cons_self
      refine ⟨c, rfl, ?_, ?_⟩
      · have nonzero : c ≠ '0' := fun same => leading (same ▸ rfl)
        have positive : c ≠ '-' := by
          rintro rfl
          revert digit
          decide
        simp [isFlag, nonzero, positive]
      · rintro rfl
        revert digit
        decide
  obtain ⟨c, first, flagless, plain⟩ := behind
  refine ⟨⟨fun d member => ?_, c, first, flagless⟩, ⟨digits, 'd', rfl, by decide⟩, nofun,
    fun _ => by simp [Spelling.ending, integerSpelling], ⟨nofun, 'd', rfl, by decide⟩, ?_⟩
  · rcases flagged d member with rfl | rfl <;> rfl
  · cases flags with
    | nil => exact fun percent => plain (Option.some.inj (first.symm.trans percent))
    | cons d more =>
      rcases flagged d List.mem_cons_self with rfl | rfl <;> simp [Spelling.body, integerSpelling]

def integerField (store : Store) (flags width : List Char) (n : Int64) : List Char :=
  (format store (String.ofList ('%' :: (flags ++ (width ++ ['d'])))) [.int n]).text

theorem integerField_eq (store : Store) (n : Int64) (greedy : (integerSpelling flags width).Greedy) :
    integerField store flags width n =
      pad (flags.contains '-') (flags.contains '0') (clamped width) (toString n.toInt).toList := by
  have convertible : convert? store 'd' none (.int n) = some (toString n.toInt).toList := rfl
  have field := (integerSpelling flags width).render_directive store convertible
  have directive := format_directive store greedy "" [.int n]
  rw [String.append_empty] at directive
  have parts : integerField store flags width n =
      ((Piece.directive (integerSpelling flags width).directive).render store (.int n)).text ++
        (format store "" []).text := congrArg Formatted.text directive
  have nothing : (format store "" []).text = [] := by simp [format, pieces, renderPieces]
  rw [parts, nothing, List.append_nil, field]
  exact congrArg (pad _ · _ _) (Bool.and_true _)

end Directives

/-- A field of any width, however many digits the width itself has. -/
theorem formatted_integer_reads_back (store : Store) (n : Int64) (flags width : List Char)
    (flagged : ∀ c ∈ flags, c = '-' ∨ c = '0') (digits : ∀ c ∈ width, isDigit c = true)
    (leading : width.head? ≠ some '0') :
    (Value.text (String.ofList (integerField store flags width n))).toInt = n ∧
      (integerField store flags width n).length = max (toString n.toInt).length (min (numeral width) 4096) := by
  rw [integerField_eq store n (integerSpelling_greedy flagged digits leading)]
  constructor
  next =>
    obtain ⟨before, zeros, after, padded⟩ :=
      pad_whole (flags.contains '-') (flags.contains '0') (clamped width) n.toInt
    rw [← padded, toInt_whole]
  next =>
    rw [length_pad, max_comm, String.length_toList]
    rfl

theorem least_integer_reads_back :
    (Value.text (String.ofList
        (integerField {} "00".toList "18446744073709551616".toList (-9223372036854775808)))).toInt =
      -9223372036854775808 ∧
      (integerField {} "00".toList "18446744073709551616".toList (-9223372036854775808)).length = 4096 := by
  obtain ⟨read, length⟩ := formatted_integer_reads_back {} (-9223372036854775808) "00".toList
    "18446744073709551616".toList (by simp) (List.all_eq_true.mp (by decide)) (by decide)
  exact ⟨read, length⟩

end Format

end CueScript
