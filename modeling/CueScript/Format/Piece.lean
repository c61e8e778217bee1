import CueScript.Decimal.Reader

set_option autoImplicit false

namespace CueScript

namespace Format

/-- A directive as it is written; the conversion is missing if the text ends before it. -/
structure Directive where
  left : Bool := false
  zero : Bool := false
  width : Nat := 0
  precision : Option Nat := none
  conversion : Option Char := none
deriving DecidableEq, Repr

inductive Piece where
  | char (c : Char)
  | directive (d : Directive)
deriving DecidableEq, Repr

def isFlag (c : Char) : Bool :=
  c == '-' || c == '0'

def isLength (c : Char) : Bool :=
  c == 'l' || c == 'h'

def sizeLimit : Nat := UInt64.size - 1

def size (text : List Char) : Nat × List Char :=
  (min (Decimal.numeral (text.takeWhile Decimal.isDigit)) sizeLimit, text.dropWhile Decimal.isDigit)

def precision (text : List Char) : Option Nat × List Char :=
  match text with
  | '.' :: rest => (some (size rest).1, (size rest).2)
  | _ => (none, text)

def directive (text : List Char) : Directive × List Char :=
  let flags := text.takeWhile isFlag
  let (width, rest) := size (text.dropWhile isFlag)
  let (precision, rest) := precision rest
  let rest := rest.dropWhile isLength
  ({ left := flags.contains '-', zero := flags.contains '0', width, precision, conversion := rest.head? }, rest.tail)

def piece (c : Char) (rest : List Char) : Piece × List Char :=
  if c = '%' then
    if rest.head? = some '%' then (.char '%', rest.tail)
    else (.directive (directive rest).1, (directive rest).2)
  else (.char c, rest)

theorem length_dropWhile_le (p : Char → Bool) (text : List Char) : (text.dropWhile p).length ≤ text.length :=
  (List.dropWhile_suffix p).length_le

theorem length_precision_le (text : List Char) : (precision text).2.length ≤ text.length := by
  unfold precision
  split
  next rest => exact Nat.le_succ_of_le (length_dropWhile_le _ rest)
  next => exact Nat.le_refl _

theorem length_directive_le (text : List Char) : (directive text).2.length ≤ text.length := by
  have flags := length_dropWhile_le isFlag text
  have width := length_dropWhile_le Decimal.isDigit (text.dropWhile isFlag)
  have precise := length_precision_le (size (text.dropWhile isFlag)).2
  have letters := length_dropWhile_le isLength (precision (size (text.dropWhile isFlag)).2).2
  simp only [directive, size, List.length_tail] at *
  omega

theorem length_piece_le (c : Char) (rest : List Char) : (piece c rest).2.length ≤ rest.length := by
  unfold piece
  split
  next =>
    split
    next => simp
    next => exact length_directive_le rest
  next => exact Nat.le_refl _

def pieces : List Char → List Piece
  | [] => []
  | c :: rest => (piece c rest).1 :: pieces (piece c rest).2
termination_by text => text.length
decreasing_by
  have := length_piece_le c rest
  simp only [List.length_cons]
  omega

end Format

end CueScript
