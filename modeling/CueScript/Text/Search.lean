import CueScript.Bytes

set_option autoImplicit false

namespace CueScript

namespace Text

def indexOf? {α : Type} [BEq α] (part : List α) : List α → Option Nat
  | [] => if part.isEmpty then some 0 else none
  | a :: rest => if part.isPrefixOf (a :: rest) then some 0 else (indexOf? part rest).map (· + 1)

/-- The text that the first bytes spell; empty if they end inside of a character. -/
def firstBytes (count : Nat) (text : String) : String :=
  (Bytes.text? ((Bytes.ofText text).take count)).getD ""

/-- The number of the character at which `part` first stands. It is looked for among the bytes, and the characters before
it are counted. -/
def find? (part text : String) : Option Nat :=
  (indexOf? (Bytes.ofText part) (Bytes.ofText text)).map fun byte => (firstBytes byte text).length

/-- The characters from `start` on, at most `count` of them if a count is given. -/
def slice (start : Nat) (count : Option Nat) (text : List Char) : List Char :=
  match count with
  | some count => (text.drop start).take count
  | none => text.drop start

def firstLine (text : List Char) : List Char :=
  let line := text.takeWhile (· ≠ '\n')
  if line.getLast? = some '\r' then line.dropLast else line

end Text

end CueScript
