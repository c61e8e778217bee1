import CueScript.Value.Basic

set_option autoImplicit false

namespace CueScript

abbrev Cells := Array Value

/-- Which lengths an array may grow to. -/
abbrev Allocator := Nat → Bool

/-- For hosts that do not say what they grant. -/
def Allocator.standard : Allocator :=
  fun length => length ≤ 0x1000000

inductive Growth where
  | stored (cells : Cells)
  | negative
  | refused (index : Int64)

def Growth.refusal (index : Int64) : String :=
  s!"array cannot grow to hold index {index}"

namespace Cells

def zero : Value := .int 0

def slot? (index : Int64) : Option Nat :=
  if index < 0 then none else some index.toInt.toNat

def padTo (cells : Cells) (length : Nat) : Cells :=
  cells ++ Array.replicate (length - cells.size) zero

def get? (cells : Cells) (index : Int64) : Option Value :=
  (slot? index).bind fun slot => cells[slot]?

def set (grants : Allocator) (cells : Cells) (index : Int64) (value : Value) : Growth :=
  match slot? index with
  | none => .negative
  | some slot =>
    if slot < cells.size then .stored (cells.setIfInBounds slot value)
    else if grants (slot + 1) then .stored ((cells.padTo slot).push value)
    else .refused index

/-- Puts a value before the cell of that number, or past the end after padding up to it. -/
def insert (grants : Allocator) (cells : Cells) (index : Int64) (value : Value) : Growth :=
  match slot? index with
  | none => .negative
  | some slot =>
    if grants (max cells.size slot + 1) then .stored ((cells.padTo slot).insertIdxIfInBounds slot value)
    else .refused index

def remove? (cells : Cells) (index : Int64) : Option (Value × Cells) :=
  (slot? index).bind fun slot => cells[slot]?.map fun value => (value, cells.eraseIdxIfInBounds slot)

end Cells

end CueScript
