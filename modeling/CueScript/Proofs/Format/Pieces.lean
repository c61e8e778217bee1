import CueScript.Format.Render
import Mathlib.Data.List.TakeWhile
import Mathlib.Tactic.Common

set_option autoImplicit false

namespace CueScript

namespace Format

open Decimal (isDigit numeral)

/-- A run of characters of a kind that goes on until some other character follows. -/
def Scanned (kind : Char → Bool) (run rest : List Char) : Prop :=
  (∀ c ∈ run, kind c = true) ∧ ∃ c ∈ rest.head?, kind c = false

-- The quantifiers are over lists here: there are too many characters to try them all.
instance (kind : Char → Bool) (run rest : List Char) : Decidable (Scanned kind run rest) :=
  decidable_of_iff (run.all kind = true ∧ rest.head?.any (!kind ·) = true) (by
    rw [List.all_eq_true, Option.any_eq_true, Scanned]
    simp)

theorem Scanned.whiles {kind : Char → Bool} {run rest : List Char} (scanned : Scanned kind run rest)
    (tail : List Char) :
    (run ++ rest ++ tail).takeWhile kind = run ∧ (run ++ rest ++ tail).dropWhile kind = rest ++ tail := by
  obtain ⟨same, c, first, other⟩ := scanned
  obtain ⟨more, rfl⟩ := List.head?_eq_some_iff.mp first
  have stop : ¬ kind c = true := by simp [other]
  rw [List.append_assoc, List.takeWhile_append_of_pos same, List.dropWhile_append_of_pos same, List.cons_append,
    List.takeWhile_cons_of_neg stop, List.dropWhile_cons_of_neg stop, List.append_nil]
  exact ⟨rfl, rfl⟩

structure Spelling where
  flags : List Char := []
  width : List Char := []
  precision : Option (List Char) := none
  lengths : List Char := []
  conversion : Char

namespace Spelling

def ending (s : Spelling) : List Char :=
  s.lengths ++ [s.conversion]

def behindWidth (s : Spelling) : List Char :=
  match s.precision with
  | none => s.ending
  | some digits => '.' :: (digits ++ s.ending)

def body (s : Spelling) : List Char :=
  s.flags ++ (s.width ++ s.behindWidth)

def text (s : Spelling) : List Char :=
  '%' :: s.body

theorem isSome_head_body (s : Spelling) : s.body.head?.isSome = true := by
  cases given : s.precision <;> simp [body, behindWidth, ending, given]

/-- Every part is as long as it can be, and the percent sign is not doubled. -/
structure Greedy (s : Spelling) : Prop where
  flags : Scanned isFlag s.flags (s.width ++ s.behindWidth)
  width : Scanned isDigit s.width s.behindWidth
  precision : ∀ digits ∈ s.precision, Scanned isDigit digits s.ending
  pointless : s.precision = none → s.ending.head? ≠ some '.'
  lengths : Scanned isLength s.lengths [s.conversion]
  single : s.body.head? ≠ some '%'

def directive (s : Spelling) : Directive where
  left := s.flags.contains '-'
  zero := s.flags.contains '0'
  width := min (numeral s.width) sizeLimit
  precision := s.precision.map fun digits => min (numeral digits) sizeLimit
  conversion := some s.conversion

end Spelling

/-- Texts that are made of complete pieces, with the number of their directives. -/
inductive Complete : List Char → Nat → Prop where
  | nil : Complete [] 0
  | char {c : Char} {text : List Char} {k : Nat} (plain : c ≠ '%') : Complete text k → Complete (c :: text) k
  | percent {text : List Char} {k : Nat} : Complete text k → Complete ('%' :: '%' :: text) k
  | directive {s : Spelling} {text : List Char} {k : Nat} (greedy : s.Greedy) :
    Complete text k → Complete (s.text ++ text) (k + 1)

theorem precision_pointless {text : List Char} (pointless : text.head? ≠ some '.') : precision text = (none, text) := by
  unfold precision
  split
  next => exact absurd rfl pointless
  next => rfl

namespace Spelling.Greedy

variable {s : Spelling}

theorem size_width (greedy : s.Greedy) (rest : List Char) :
    size (s.width ++ s.behindWidth ++ rest) = (min (numeral s.width) sizeLimit, s.behindWidth ++ rest) := by
  obtain ⟨taken, dropped⟩ := greedy.width.whiles rest
  rw [size, taken, dropped]

theorem precision_behindWidth (greedy : s.Greedy) (rest : List Char) :
    Format.precision (s.behindWidth ++ rest) = (s.directive.precision, s.ending ++ rest) := by
  cases given : s.precision with
  | none =>
    have pointless : (s.ending ++ rest).head? ≠ some '.' := by
      rw [List.head?_append, Option.or_of_isSome (by simp [ending])]
      exact greedy.pointless given
    simp only [behindWidth, directive, given, Option.map_none, precision_pointless pointless]
  | some digits =>
    obtain ⟨taken, dropped⟩ := (greedy.precision digits given).whiles rest
    simp only [behindWidth, directive, given, Option.map_some, List.cons_append, Format.precision, size, taken, dropped]

theorem directive_body (greedy : s.Greedy) (rest : List Char) :
    Format.directive (s.body ++ rest) = (s.directive, rest) := by
  obtain ⟨flags, behindFlags⟩ := greedy.flags.whiles rest
  obtain ⟨-, behindLengths⟩ := greedy.lengths.whiles rest
  simp only [Format.directive, body, flags, behindFlags, greedy.size_width, greedy.precision_behindWidth, ending,
    behindLengths]
  rfl

theorem pieces_text (greedy : s.Greedy) (rest : List Char) :
    pieces (s.text ++ rest) = .directive s.directive :: pieces rest := by
  have single : (s.body ++ rest).head? ≠ some '%' := by
    rw [List.head?_append, Option.or_of_isSome s.isSome_head_body]
    exact greedy.single
  have read : piece '%' (s.body ++ rest) = (.directive s.directive, rest) := by
    rw [piece, if_pos rfl, if_neg single, greedy.directive_body]
  rw [text, List.cons_append, pieces, read]

end Spelling.Greedy

theorem pieces_plain {c : Char} (plain : c ≠ '%') (rest : List Char) : pieces (c :: rest) = .char c :: pieces rest := by
  rw [pieces, piece, if_neg plain]

theorem pieces_percent (rest : List Char) : pieces ('%' :: '%' :: rest) = .char '%' :: pieces rest := by
  have escaped : piece '%' ('%' :: rest) = (.char '%', rest) := rfl
  rw [pieces, escaped]

namespace Complete

variable {text : List Char} {k : Nat}

theorem pieces_append (complete : Complete text k) (rest : List Char) :
    pieces (text ++ rest) = pieces text ++ pieces rest := by
  induction complete with
  | nil => simp [pieces]
  | char plain _ ih => rw [List.cons_append, pieces_plain plain, pieces_plain plain, ih, List.cons_append]
  | percent _ ih => rw [List.cons_append, List.cons_append, pieces_percent, pieces_percent, ih, List.cons_append]
  | directive greedy _ ih =>
    rw [List.append_assoc, greedy.pieces_text, greedy.pieces_text, ih, List.cons_append]

theorem countP_pieces (complete : Complete text k) : (pieces text).countP Piece.isDirective = k := by
  induction complete with
  | nil => simp [pieces]
  | char plain _ ih => simp [pieces_plain plain, Piece.isDirective, ih]
  | percent _ ih => simp [pieces_percent, Piece.isDirective, ih]
  | directive greedy _ ih => rw [greedy.pieces_text, List.countP_cons_of_pos rfl, ih]

end Complete

section Rendering

variable (store : Store)

theorem Formatted.append_assoc (a b c : Formatted) : (a.append b).append c = a.append (b.append c) := by
  simp [Formatted.append]

theorem renderPieces_append (first second : List Piece) (args : List Value) :
    renderPieces store (first ++ second) args = (renderPieces store first args).append
      (renderPieces store second (args.drop (first.countP Piece.isDirective))) := by
  induction first generalizing args with
  | nil => rfl
  | cons p rest ih =>
    rw [List.cons_append, renderPieces, ih, renderPieces, Formatted.append_assoc]
    cases p with
    | char c => rfl
    | directive d =>
      rw [List.countP_cons_of_pos rfl, Piece.isDirective, if_pos rfl, List.drop_tail]

theorem renderPieces_congr (pieces : List Piece) {args args' : List Value}
    (same : ∀ i : Nat, args[i]?.getD .nil = args'[i]?.getD .nil) :
    renderPieces store pieces args = renderPieces store pieces args' := by
  induction pieces generalizing args args' with
  | nil => rfl
  | cons p rest ih =>
    have first : args.head?.getD .nil = args'.head?.getD .nil := by
      rw [List.head?_eq_getElem?, List.head?_eq_getElem?, same 0]
    have later (i : Nat) : args.tail[i]?.getD .nil = args'.tail[i]?.getD .nil := by simpa using same (i + 1)
    rw [renderPieces, renderPieces, first]
    cases p with
    | char c => exact congrArg _ (ih same)
    | directive d => exact congrArg _ (ih later)

theorem getD_append_nils (args : List Value) (count i : Nat) :
    (args ++ List.replicate count Value.nil)[i]?.getD .nil = args[i]?.getD .nil := by
  rw [List.getElem?_append]
  split
  next => rfl
  next past =>
    rw [List.getElem?_eq_none (Nat.not_lt.mp past), List.getElem?_replicate]
    split <;> rfl

theorem length_pad (left zero : Bool) (width : Nat) (text : List Char) :
    (pad left zero width text).length = max width text.length := by
  unfold pad
  split
  next => simp; omega
  next =>
    split
    next =>
      split
      next => simp; omega
      next => simp; omega
    next => simp; omega

def conversions : List Char :=
  ['d', 'i', 'u', 'x', 'X', 'o', 'c', 'f', 's']

theorem isSome_convert? {conversion : Char} (known : conversion ∈ conversions) (precision : Option Nat)
    (value : Value) : (convert? store conversion precision value).isSome = true := by
  simp only [conversions, List.mem_cons, List.not_mem_nil, or_false] at known
  rcases known with rfl | rfl | rfl | rfl | rfl | rfl | rfl | rfl | rfl
  all_goals cases precision <;> rfl

def clamped (digits : List Char) : Nat :=
  min (numeral digits) 4096

theorem min_fieldLimit (digits : List Char) : min fieldLimit (min (numeral digits) sizeLimit) = clamped digits := by
  have cap : fieldLimit = 4096 := rfl
  have limit : sizeLimit = 18446744073709551615 := rfl
  simp only [clamped, cap, limit]
  omega

theorem Spelling.render_directive (s : Spelling) {value : Value} {converted : List Char}
    (convertible : convert? store s.conversion (s.precision.map clamped) value = some converted) :
    ((Piece.directive s.directive).render store value).text =
      pad s.directive.left (s.directive.zero && isNumber s.conversion) (clamped s.width) converted := by
  have precise : s.directive.precision.map (min fieldLimit) = s.precision.map clamped := by
    simp only [Spelling.directive, Option.map_map, Function.comp_def, min_fieldLimit]
  have width : min fieldLimit s.directive.width = clamped s.width := min_fieldLimit s.width
  have field : s.directive.field? store s.conversion value = some (pad s.directive.left
      (s.directive.zero && isNumber s.conversion) (clamped s.width) converted) := by
    rw [Directive.field?, precise, convertible, Option.map_some, width]
  have given : s.directive.conversion = some s.conversion := rfl
  simp only [Piece.render, given, field]

theorem pieces_doubled (text : List Char) :
    pieces (text.flatMap fun c => if c = '%' then ['%', '%'] else [c]) = text.map .char := by
  induction text with
  | nil => simp [pieces]
  | cons c rest ih =>
    rw [List.flatMap_cons, List.map_cons, ← ih]
    split
    next percent => rw [percent]; exact pieces_percent _
    next plain => exact pieces_plain plain _

theorem renderPieces_chars (text : List Char) (args : List Value) :
    renderPieces store (text.map .char) args = { text } := by
  induction text with
  | nil => rfl
  | cons c rest ih =>
    rw [List.map_cons, renderPieces, Piece.isDirective, if_neg Bool.false_ne_true, ih]
    rfl

theorem format_append {first : String} {k : Nat} (complete : Complete first.toList k) (second : String)
    (args : List Value) :
    format store (first ++ second) args = (format store first args).append (format store second (args.drop k)) := by
  rw [format, String.toList_append, complete.pieces_append, renderPieces_append, complete.countP_pieces]
  rfl

theorem format_directive {s : Spelling} (greedy : s.Greedy) (rest : String) (args : List Value) :
    format store (String.ofList s.text ++ rest) args =
      ((Piece.directive s.directive).render store (args.head?.getD .nil)).append (format store rest args.tail) := by
  rw [format, String.toList_append, String.toList_ofList, greedy.pieces_text, renderPieces]
  rfl

end Rendering

def doubled (text : String) : String :=
  String.ofList (text.toList.flatMap fun c => if c = '%' then ['%', '%'] else [c])

/-- A text of complete pieces with `k` directives before any other text; a directive between the two, which takes the
argument that the first text leaves; and a text without directives. -/
theorem formats_piece_by_piece (store : Store) {first : String} {k : Nat} (complete : Complete first.toList k)
    (second : String) (args : List Value) :
    format store (first ++ second) args = (format store first args).append (format store second (args.drop k)) ∧
    (∀ count, format store second (args ++ List.replicate count .nil) = format store second args) ∧
    (∀ s : Spelling, s.Greedy → s.conversion ∈ conversions → ∃ converted field,
      convert? store s.conversion (s.precision.map clamped) (args[k]?.getD .nil) = some converted ∧
      field = pad (s.flags.contains '-') (s.flags.contains '0' && isNumber s.conversion) (min (numeral s.width) 4096)
        converted ∧
      field.length = max (min (numeral s.width) 4096) converted.length ∧
      (format store (first ++ (String.ofList s.text ++ second)) args).text =
        (format store first args).text ++ (field ++ (format store second (args.drop (k + 1))).text)) ∧
    ∀ text : String, format store (doubled text) args = { text := text.toList } := by
  refine ⟨format_append store complete second args, fun count => ?_, fun s greedy known => ?_, fun text => ?_⟩
  · exact renderPieces_congr store _ (getD_append_nils args count)
  · obtain ⟨converted, convertible⟩ := Option.isSome_iff_exists.mp
      (isSome_convert? store known (s.precision.map clamped) (args[k]?.getD .nil))
    have field := s.render_directive store convertible
    refine ⟨converted, _, convertible, field, (congrArg List.length field).trans (length_pad _ _ _ _), ?_⟩
    rw [format_append store complete, format_directive store greedy, List.head?_drop, List.tail_drop]
    rfl
  · rw [format, doubled, String.toList_ofList, pieces_doubled, renderPieces_chars]

def padded : Spelling :=
  { flags := ['-', '0'], width := ['5'], lengths := ['l'], conversion := 'd' }

theorem padded_greedy : padded.Greedy where
  flags := by decide
  width := by decide
  precision := nofun
  pointless _ := by decide
  lengths := by decide
  single := by decide

theorem mixed_format_splits : Complete "5%%%-05ld%-q".toList 2 ∧
    format {} ("5%%%-05ld%-q" ++ "%3s") [.int 7] = (format {} "5%%%-05ld%-q" [.int 7]).append (format {} "%3s" []) ∧
    ∃ converted field : List Char, field = pad true true 5 converted ∧ field.length = max 5 converted.length ∧
      (format {} ("5%%%-05ld%-q" ++ ("%-05ld" ++ "")) [.int 7]).text =
        (format {} "5%%%-05ld%-q" [.int 7]).text ++ (field ++ (format {} "" []).text) := by
  have unknown : Spelling.Greedy { flags := ['-'], conversion := 'q' } :=
    ⟨by decide, by decide, nofun, fun _ => by decide, by decide, by decide⟩
  have complete : Complete "5%%%-05ld%-q".toList 2 :=
    .char (by decide) (.percent (.directive padded_greedy (.directive unknown .nil)))
  obtain ⟨split, -, -⟩ := formats_piece_by_piece {} complete "%3s" [.int 7]
  obtain ⟨-, -, known, -⟩ := formats_piece_by_piece {} complete "" [.int 7]
  obtain ⟨converted, field, -, filled, length, text⟩ := known padded padded_greedy (by decide)
  exact ⟨complete, split, converted, field, filled, length, text⟩

end Format

end CueScript
