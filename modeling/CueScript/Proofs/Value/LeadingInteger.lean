import CueScript.Proofs.Text.Search
import CueScript.Proofs.Value.Arithmetic
import Mathlib.Data.List.TakeWhile

set_option autoImplicit false

namespace CueScript

open Decimal (isDigit digitValue numeral)

inductive IntegerText.Sign where
  | none
  | plus
  | minus

namespace IntegerText.Sign

def text : IntegerText.Sign → List Char
  | .none => []
  | .plus => ['+']
  | .minus => ['-']

def apply (n : Nat) : IntegerText.Sign → Int
  | .none | .plus => n
  | .minus => -n

end IntegerText.Sign

/-- A text as it is read for an integer. Only where neither a sign nor a digit follows the blanks can the rest be
mistaken for a part of what comes before it. -/
structure IntegerText where
  blanks : List Char := []
  sign : IntegerText.Sign := .none
  digits : List Char := []
  rest : List Char := []
  allBlank : ∀ c ∈ blanks, Text.isBlank c = true
  allDigits : ∀ c ∈ digits, isDigit c = true
  stops : ∀ c ∈ rest.head?, isDigit c = false
  bare : sign = .none → digits = [] → ∀ c ∈ rest.head?, Text.isBlank c = false ∧ c ≠ '+' ∧ c ≠ '-'

namespace IntegerText

def afterSign (t : IntegerText) : List Char :=
  t.digits ++ t.rest

def afterBlanks (t : IntegerText) : List Char :=
  t.sign.text ++ t.afterSign

def text (t : IntegerText) : String :=
  String.ofList (t.blanks ++ t.afterBlanks)

def value (t : IntegerText) : Int :=
  t.sign.apply (numeral t.digits)

end IntegerText

section Bytes

variable {c : Char}

theorem isDigit_iff : isDigit c = true ↔ 0x30 ≤ c.toNat ∧ c.toNat ≤ 0x39 := by
  rw [isDigit, Bool.and_eq_true, decide_eq_true_eq, decide_eq_true_eq, Char.le_def, Char.le_def, UInt32.le_iff_toNat_le,
    UInt32.le_iff_toNat_le]
  rfl

-- A character of several bytes begins with a byte above those of all others, so no sign or digit is seen in it.
theorem firstByte_cases (c : Char) :
    (c.toNat ≤ 0x7F ∧ String.utf8EncodeChar c = [Bytes.ascii c]) ∨
      0x7F < c.toNat ∧ ∃ b more, String.utf8EncodeChar c = b :: more ∧ 0x7F < b.toNat := by
  have code : c.val.toNat = c.toNat := rfl
  by_cases one : c.toNat ≤ 0x7F
  next =>
    refine .inl ⟨one, ?_⟩
    simp only [String.utf8EncodeChar, code, if_pos one]
    rfl
  next =>
    refine .inr ⟨Nat.not_le.mp one, ?_⟩
    simp only [String.utf8EncodeChar, code, if_neg one]
    split
    next => exact ⟨_, _, rfl, by simp; omega⟩
    next =>
      split
      next => exact ⟨_, _, rfl, by simp; omega⟩
      next => exact ⟨_, _, rfl, by simp; omega⟩

theorem toNat_ascii (small : c.toNat ≤ 0x7F) : (Bytes.ascii c).toNat = c.toNat := by
  simp only [Bytes.ascii, Nat.toUInt8, UInt8.toNat_ofNat']
  omega

theorem ofChars_ascii (small : c.toNat ≤ 0x7F) (rest : List Char) :
    Bytes.ofChars (c :: rest) = Bytes.ascii c :: Bytes.ofChars rest := by
  rcases firstByte_cases c with ⟨-, single⟩ | ⟨large, -⟩
  next => rw [Bytes.ofChars, List.flatMap_cons, single, List.singleton_append, ← Bytes.ofChars]
  next => omega

theorem head_of_ofChars {b : UInt8} {chars : List Char} {more : Bytes} (bytes : Bytes.ofChars chars = b :: more)
    (small : b.toNat ≤ 0x7F) : ∃ c ∈ chars.head?, b = Bytes.ascii c ∧ c.toNat ≤ 0x7F := by
  cases chars with
  | nil => cases bytes
  | cons c rest =>
    rw [Bytes.ofChars, List.flatMap_cons] at bytes
    rcases firstByte_cases c with ⟨code, single⟩ | ⟨-, first, others, several, large⟩
    next =>
      rw [single, List.singleton_append] at bytes
      exact ⟨c, rfl, (List.cons.inj bytes).1.symm, code⟩
    next =>
      rw [several, List.cons_append] at bytes
      have same := (List.cons.inj bytes).1
      rw [same] at large
      omega

theorem ne_ascii_of_head {b : UInt8} {chars : List Char} {more : Bytes} (bytes : Bytes.ofChars chars = b :: more)
    (small : c.toNat ≤ 0x7F) (other : c ∉ chars.head?) : b ≠ Bytes.ascii c := by
  rintro rfl
  obtain ⟨d, first, same, code⟩ := head_of_ofChars bytes ((toNat_ascii small).trans_le small)
  have chars : d = c := by
    rw [← Char.toNat_inj, ← toNat_ascii code, ← same, toNat_ascii small]
  exact other (chars ▸ first)

end Bytes

section Digits

variable {c : Char} {digits rest : List Char} {n : Int64} {k : Nat}

theorem isDigitByte_ascii (small : c.toNat ≤ 0x7F) :
    (Bytes.ascii '0' ≤ Bytes.ascii c ∧ Bytes.ascii c ≤ Bytes.ascii '9') ↔ isDigit c = true := by
  rw [UInt8.le_iff_toNat_le, UInt8.le_iff_toNat_le, toNat_ascii small, isDigit_iff]
  rfl

theorem wrapDigits_digit (digit : isDigit c = true) (n : Int64) (rest : List Char) :
    wrapDigits n (Bytes.ofChars (c :: rest)) =
      wrapDigits (n * 10 + Int64.ofNat (digitValue c)) (Bytes.ofChars rest) := by
  have small : c.toNat ≤ 0x7F := (isDigit_iff.mp digit).2.trans (by decide)
  rw [ofChars_ascii small, wrapDigits, if_pos ((isDigitByte_ascii small).mpr digit), toNat_ascii small]
  rfl

theorem wrapDigits_stops (stops : ∀ c ∈ rest.head?, isDigit c = false) (n : Int64) :
    wrapDigits n (Bytes.ofChars rest) = n := by
  cases bytes : Bytes.ofChars rest with
  | nil => rfl
  | cons b more =>
    rw [wrapDigits, if_neg]
    rintro ⟨low, high⟩
    have nine : b.toNat ≤ 0x39 := high
    obtain ⟨c, first, rfl, code⟩ := head_of_ofChars bytes (nine.trans (by decide))
    have digit := (isDigitByte_ascii code).mp ⟨low, high⟩
    rw [stops c first] at digit
    cases digit

theorem toInt_shift_modEq (same : n.toInt ≡ k [ZMOD 2 ^ 64]) (d : Nat) :
    (n * 10 + Int64.ofNat d).toInt ≡ (10 * k + d : Nat) [ZMOD 2 ^ 64] := by
  have tens : (n * 10).toInt ≡ k * 10 [ZMOD 2 ^ 64] := (toInt_mul_modEq n 10).trans (same.mul_right 10)
  have ones : (Int64.ofNat d).toInt ≡ d [ZMOD 2 ^ 64] := by
    rw [Int64.toInt_ofNat']
    exact bmod_modEq d
  push_cast
  rw [mul_comm]
  exact (toInt_add_modEq _ _).trans (tens.add ones)

theorem wrapDigits_modEq (allDigits : ∀ c ∈ digits, isDigit c = true) (stops : ∀ c ∈ rest.head?, isDigit c = false)
    (same : n.toInt ≡ k [ZMOD 2 ^ 64]) :
    (wrapDigits n (Bytes.ofChars (digits ++ rest))).toInt ≡ Nat.ofDigitChars 10 digits k [ZMOD 2 ^ 64] := by
  induction digits generalizing n k with
  | nil => rwa [List.nil_append, wrapDigits_stops stops, Nat.ofDigitChars_nil]
  | cons c more ih =>
    rw [List.cons_append, wrapDigits_digit (allDigits c List.mem_cons_self), Nat.ofDigitChars_cons]
    exact ih (fun d member => allDigits d (List.mem_cons_of_mem c member)) (toInt_shift_modEq same _)

end Digits

namespace IntegerText

variable (t : IntegerText)

theorem wrapDigits_afterSign : (wrapDigits 0 (Bytes.ofChars t.afterSign)).toInt ≡ numeral t.digits [ZMOD 2 ^ 64] :=
  wrapDigits_modEq t.allDigits t.stops rfl

theorem head_afterSign (unsigned : t.sign = .none) :
    ∀ c ∈ t.afterSign.head?, Text.isBlank c = false ∧ c ≠ '+' ∧ c ≠ '-' := by
  intro c first
  cases given : t.digits with
  | nil =>
    rw [afterSign, given] at first
    exact t.bare unsigned given c first
  | cons d more =>
    have digit := t.allDigits d (given ▸ List.mem_cons_self)
    rw [afterSign, given, List.cons_append, List.head?_cons, Option.mem_some_iff] at first
    subst first
    have range := isDigit_iff.mp digit
    refine ⟨?_, ?_, ?_⟩
    · simp [Text.isBlank, Text.inRanges, Text.blankRanges]
      omega
    · rintro rfl
      revert digit
      decide
    · rintro rfl
      revert digit
      decide

theorem trimStart_text : Text.trimStart t.text.toList = t.afterBlanks := by
  have visible : ∀ c ∈ t.afterBlanks.head?, ¬ Text.isBlank c = true := by
    intro c first
    cases given : t.sign with
    | none =>
      rw [afterBlanks, given] at first
      simp [(t.head_afterSign given c first).1]
    | plus | minus =>
      rw [afterBlanks, given] at first
      cases first
      decide
  rw [text, String.toList_ofList, Text.trimStart, List.dropWhile_append_of_pos t.allBlank]
  cases remaining : t.afterBlanks with
  | nil => rfl
  | cons c more => exact List.dropWhile_cons_of_neg (visible c (by rw [remaining]; rfl))

theorem leadingInt_text : leadingInt t.text = match t.sign with
    | .none | .plus => wrapDigits 0 (Bytes.ofChars t.afterSign)
    | .minus => -wrapDigits 0 (Bytes.ofChars t.afterSign) := by
  rw [leadingInt, trimStart_text, Bytes.ofText_ofList, afterBlanks]
  cases given : t.sign with
  | plus | minus =>
    rw [Sign.text, List.singleton_append, ofChars_ascii (by decide)]
    rfl
  | none =>
    rw [Sign.text, List.nil_append]
    cases bytes : Bytes.ofChars t.afterSign with
    | nil => rfl
    | cons b more =>
      have plain := t.head_afterSign given
      have positive : b ≠ Bytes.ascii '-' := ne_ascii_of_head bytes (by decide) fun first => (plain '-' first).2.2 rfl
      have unmarked : b ≠ Bytes.ascii '+' := ne_ascii_of_head bytes (by decide) fun first => (plain '+' first).2.1 rfl
      simp only [if_neg positive, if_neg unmarked]

theorem leadingInt_modEq : (leadingInt t.text).toInt ≡ t.value [ZMOD 2 ^ 64] := by
  have digits := t.wrapDigits_afterSign
  rw [leadingInt_text, value]
  cases t.sign with
  | none | plus => exact digits
  | minus => exact (toInt_neg_modEq _).trans digits.neg

def scan (blanks : List Char) (sign : Sign) (after : List Char) (allBlank : ∀ c ∈ blanks, Text.isBlank c = true)
    (bare : sign = .none → ∀ c ∈ after.head?, Text.isBlank c = false ∧ c ≠ '+' ∧ c ≠ '-') : IntegerText where
  blanks
  sign
  digits := after.takeWhile isDigit
  rest := after.dropWhile isDigit
  allBlank
  allDigits _ member := List.mem_takeWhile_imp member
  stops c first := by
    have other := List.head?_dropWhile_not isDigit after
    rw [first] at other
    exact other
  bare unsigned none c first := by
    have all : after = after.takeWhile isDigit ++ after.dropWhile isDigit := List.takeWhile_append_dropWhile.symm
    rw [all, none] at bare
    exact bare unsigned c first

theorem text_scan {text : String} (sign : Sign) (after : List Char)
    (bare : sign = .none → ∀ c ∈ after.head?, Text.isBlank c = false ∧ c ≠ '+' ∧ c ≠ '-')
    (parts : text.toList.dropWhile Text.isBlank = sign.text ++ after) :
    (scan (text.toList.takeWhile Text.isBlank) sign after (fun _ => List.mem_takeWhile_imp) bare).text = text := by
  have digits : after.takeWhile isDigit ++ after.dropWhile isDigit = after := List.takeWhile_append_dropWhile
  rw [IntegerText.text, afterBlanks, afterSign, scan, digits, ← parts, List.takeWhile_append_dropWhile,
    String.ofList_toList]

theorem exists_scan (text : String) : ∃ t : IntegerText, t.text = text := by
  cases remaining : text.toList.dropWhile Text.isBlank with
  | nil => exact ⟨_, text_scan .none [] (fun _ => nofun) remaining⟩
  | cons c after =>
    have visible : Text.isBlank c = false := by
      have other := List.head?_dropWhile_not Text.isBlank text.toList
      rwa [remaining] at other
    by_cases minus : c = '-'
    next =>
      subst minus
      exact ⟨_, text_scan .minus after nofun remaining⟩
    next =>
      by_cases plus : c = '+'
      next =>
        subst plus
        exact ⟨_, text_scan .plus after nofun remaining⟩
      next =>
        refine ⟨_, text_scan .none (c :: after) (fun _ d first => ?_) remaining⟩
        cases first
        exact ⟨visible, plus, minus⟩

end IntegerText

/-- However many digits a text begins with, it is read as their value modulo `2 ^ 64`, and every text is read so. -/
theorem leading_integer_modulo_word :
    (∀ t : IntegerText, (Value.text t.text).toInt.toInt ≡ t.value [ZMOD 2 ^ 64]) ∧
    ∀ text : String, ∃ t : IntegerText, t.text = text :=
  ⟨IntegerText.leadingInt_modEq, IntegerText.exists_scan⟩

example : (Value.text "\u3000-18446744073709551617é").toInt = -1 := by decide

end CueScript
