import CueScript.Machine.Statement

/-!
The interpreter. Every step into an instruction or an operand and every round of a loop uses up one unit of fuel, so
with enough of it the outcome does not depend on the fuel.
-/

set_option autoImplicit false

namespace CueScript

mutual

def exec : Nat → Instruction → Run Flow
  | 0, _ => Run.exhausted
  | fuel + 1, inst => Inner.statement { exec := exec fuel, eval := eval fuel } fuel inst

def eval : Nat → Operand → Run Value
  | 0, _ => Run.exhausted
  | fuel + 1, operand => Inner.operand { exec := exec fuel, eval := eval fuel } operand

end

def interpreter (fuel : Nat) : Inner :=
  { exec := exec fuel, eval := eval fuel }

def execBlock (fuel : Nat) (body : Block) : Run Flow :=
  (interpreter fuel).block body

def callNamed (fuel : Nat) (name : String) (args : List Value) : Run Flow :=
  (interpreter fuel).callNamed name args

end CueScript
