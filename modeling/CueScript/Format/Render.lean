import CueScript.Decimal.Fixed
import CueScript.Format.Piece
import CueScript.Value.Store

set_option autoImplicit false

namespace CueScript

namespace Format

def fieldLimit : Nat := 4096

def word (value : Value) : Nat :=
  value.toInt.toUInt64.toUInt32.toNat

def charOf (code : Nat) : List Char :=
  if code.isValidChar then [Char.ofNat code] else []

def convert? (store : Store) (conversion : Char) (precision : Option Nat) (value : Value) : Option (List Char) :=
  match conversion with
  | 'd' | 'i' => some (toString value.toInt).toList
  | 'u' => some (Nat.toDigits 10 (word value))
  | 'x' => some (Nat.toDigits 16 (word value))
  | 'X' => some ((Nat.toDigits 16 (word value)).map Char.toUpper)
  | 'o' => some (Nat.toDigits 8 (word value))
  | 'c' => some (charOf (word value))
  | 'f' => some (Decimal.fixed (precision.getD 6) value.toFloat).toList
  | 's' => match precision with
    | some count => some ((value.display store).toList.take count)
    | none => some (value.display store).toList
  | _ => none

def isNumber (conversion : Char) : Bool :=
  ['d', 'i', 'u', 'x', 'X', 'o', 'f'].contains conversion

/-- A text filled up to a width: with blanks after it, with zeros behind its sign, or with blanks before it. -/
def pad (left zero : Bool) (width : Nat) (text : List Char) : List Char :=
  let missing := width - text.length
  if left then text ++ List.replicate missing ' '
  else if zero then
    match text with
    | '-' :: digits => '-' :: (List.replicate missing '0' ++ digits)
    | digits => List.replicate missing '0' ++ digits
  else List.replicate missing ' ' ++ text

def sizeWarning (size : Nat) : List String :=
  if fieldLimit < size then [s!"StrPrint: field size {size} clamped to {fieldLimit}"] else []

def Directive.sizeWarnings (d : Directive) : List String :=
  sizeWarning d.width ++ (d.precision.map sizeWarning).getD []

def Directive.field? (store : Store) (d : Directive) (conversion : Char) (value : Value) : Option (List Char) :=
  (convert? store conversion (d.precision.map (min fieldLimit)) value).map
    (pad d.left (d.zero && isNumber conversion) (min fieldLimit d.width))

structure Formatted where
  text : List Char := []
  warnings : List String := []

def Formatted.append (a b : Formatted) : Formatted :=
  { text := a.text ++ b.text, warnings := a.warnings ++ b.warnings }

def Piece.render (store : Store) (value : Value) : Piece → Formatted
  | .char c => { text := [c] }
  | .directive d =>
    match d.conversion with
    | none => { text := ['%'], warnings := d.sizeWarnings }
    | some conversion =>
      match d.field? store conversion value with
      | some field => { text := field, warnings := d.sizeWarnings }
      | none =>
        { text := ['%', conversion],
          warnings := d.sizeWarnings ++ [s!"StrPrint: unknown conversion %{conversion}"] }

def Piece.isDirective : Piece → Bool
  | .char _ => false
  | .directive _ => true

def renderPieces (store : Store) : List Piece → List Value → Formatted
  | [], _ => {}
  | p :: rest, args =>
    (p.render store (args.head?.getD .nil)).append
      (renderPieces store rest (if p.isDirective then args.tail else args))

end Format

def format (store : Store) (text : String) (args : List Value) : Format.Formatted :=
  Format.renderPieces store (Format.pieces text.toList) args

end CueScript
