import CueScript.Bytes
import CueScript.Decimal.Reader
import CueScript.Decimal.Shortest
import CueScript.Text.Blank

/-!
The values of scripts and how each kind is taken for a number. An array is known by its place in the
store, so copies of the value share its cells.
-/

set_option autoImplicit false

namespace CueScript

abbrev ArrayId := Nat

inductive Value where
  | nil
  | int (n : Int64)
  | float (x : Float)
  | text (s : String)
  | array (id : ArrayId)
deriving DecidableEq, Inhabited

def wrapDigits (n : Int64) : Bytes → Int64
  | [] => n
  | b :: rest =>
    if Bytes.ascii '0' ≤ b ∧ b ≤ Bytes.ascii '9' then wrapDigits (n * 10 + Int64.ofNat (b.toNat - 0x30)) rest else n

/-- The integer at the start of a text: blanks, a sign if there is one, then as many digits as follow. The sign
and the digits are told by their bytes. -/
def leadingInt (text : String) : Int64 :=
  match Bytes.ofText (String.ofList (Text.trimStart text.toList)) with
  | [] => 0
  | b :: rest =>
    if b = Bytes.ascii '-' then -wrapDigits 0 rest
    else if b = Bytes.ascii '+' then wrapDigits 0 rest
    else wrapDigits 0 (b :: rest)

namespace Value

def ofBool (b : Bool) : Value :=
  .int (if b then 1 else 0)

def isNil : Value → Bool
  | .nil => true
  | _ => false

def isNumeric : Value → Bool
  | .nil | .int _ | .float _ => true
  | .text _ | .array _ => false

def isFloat : Value → Bool
  | .float _ => true
  | _ => false

def text? : Value → Option String
  | .text s => some s
  | _ => none

def array? : Value → Option ArrayId
  | .array id => some id
  | _ => none

def toInt : Value → Int64
  | .nil => 0
  | .int n => n
  | .float x => Decimal.toInt64 x
  | .text s => leadingInt s
  | .array _ => 0

/-- A text that is not a decimal as a whole counts for the integer at its start. -/
def toFloat : Value → Float
  | .nil => 0
  | .int n => Decimal.ofInt64 n
  | .float x => x
  | .text s => (Decimal.read? (Text.trim s.toList)).getD (Decimal.ofInt64 (leadingInt s))
  | .array _ => 0

def typeName : Value → String
  | .nil => "nil"
  | .int _ => "int"
  | .float _ => "float"
  | .text _ => "text"
  | .array _ => "array"

end Value

end CueScript
