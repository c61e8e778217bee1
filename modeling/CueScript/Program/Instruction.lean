import CueScript.Fault
import CueScript.Value.Operator

/-!
Instruction trees. An instruction is an opcode with operands; an operand is a literal, a name, an instruction used as
an expression, or a block. Any opcode may carry any operands: what an instruction makes of operands that do not suit it
is decided when it runs.

* `assign`, `declare`: name, value · `arrayAssign`: name, index, value · `arrayRead`: name, index
* `call`: name, arguments · `binary`: two operands · `unary`: one
* `conditional`: condition, block, else block · `forLoop`: block, condition, block, body · `whileLoop`: condition, body
* `doWhile`: body, condition · `switch`: subject, arms `case` (value, block) and `otherwise` (block)
* `returnValue`: value · `onEvent`: category, block · `wait`: units · `setStep`: events for each unit
* `defineFunction`: name, block, parameters, each a name or an assignment of its default
-/

set_option autoImplicit false

namespace CueScript

inductive Opcode where
  | assign
  | declare
  | arrayAssign
  | arrayRead
  | call
  | binary (op : BinaryOp)
  | unary (op : UnaryOp)
  | conditional
  | forLoop
  | whileLoop
  | doWhile
  | switch
  | case
  | otherwise
  | breakLoop
  | continueLoop
  | returnValue
  | onEvent
  | wait
  | setStep
  | defineFunction
deriving DecidableEq, Repr

namespace Opcode

def plain : List Opcode :=
  [.assign, .declare, .arrayAssign, .arrayRead, .call, .conditional, .forLoop, .whileLoop, .doWhile, .switch, .case,
   .otherwise, .breakLoop, .continueLoop, .returnValue, .onEvent, .wait, .setStep, .defineFunction]

def name : Opcode → String
  | .assign => "Assign"
  | .declare => "Declare"
  | .arrayAssign => "ArrayAssign"
  | .arrayRead => "ArrayRead"
  | .call => "Call"
  | .binary op => s!"Binary({op.name})"
  | .unary op => s!"Unary({op.name})"
  | .conditional => "If"
  | .forLoop => "For"
  | .whileLoop => "While"
  | .doWhile => "DoWhile"
  | .switch => "Switch"
  | .case => "Case"
  | .otherwise => "Default"
  | .breakLoop => "Break"
  | .continueLoop => "Continue"
  | .returnValue => "Return"
  | .onEvent => "RegisterHandler"
  | .wait => "Wait"
  | .setStep => "SetStep"
  | .defineFunction => "DefineFunction"

end Opcode

mutual

inductive Operand where
  | nil
  | int (n : Int64)
  | float (x : Float)
  | text (s : String)
  | var (name : String)
  | node (inst : Instruction)
  | block (body : List Instruction)

inductive Instruction where
  | mk (op : Opcode) (args : List Operand) (line : Option UInt32)

end

instance : Inhabited Operand := ⟨.nil⟩

instance : Inhabited Instruction := ⟨.mk .breakLoop [] none⟩

abbrev Block := List Instruction

namespace Operand

def name? : Operand → Option String
  | .var s | .text s => some s
  | _ => none

def block? : Operand → Option Block
  | .block body => some body
  | _ => none

def node? : Operand → Option Instruction
  | .node inst => some inst
  | _ => none

end Operand

namespace Instruction

def op : Instruction → Opcode
  | .mk op _ _ => op

def args : Instruction → List Operand
  | .mk _ args _ => args

def line : Instruction → Option UInt32
  | .mk _ _ line => line

def arg? (inst : Instruction) (i : Nat) : Option Operand :=
  inst.args[i]?

def atLine (inst : Instruction) (line : UInt32) : Instruction :=
  .mk inst.op inst.args (some line)

def location (inst : Instruction) (file : Option String) : Option Location :=
  inst.line.map fun line => { file, line }

end Instruction

mutual

/-- Equality of trees; floats compare as numbers. -/
def Operand.same : Operand → Operand → Bool
  | .nil, .nil => true
  | .int a, .int b => a == b
  | .float a, .float b => a == b
  | .text a, .text b => a == b
  | .var a, .var b => a == b
  | .node a, .node b => Instruction.same a b
  | .block a, .block b => sameBlock a b
  | _, _ => false

def Instruction.same : Instruction → Instruction → Bool
  | .mk op args line, .mk op' args' line' => op == op' && line == line' && sameOperands args args'

def sameBlock : List Instruction → List Instruction → Bool
  | [], [] => true
  | a :: as, b :: bs => Instruction.same a b && sameBlock as bs
  | _, _ => false

def sameOperands : List Operand → List Operand → Bool
  | [], [] => true
  | a :: as, b :: bs => Operand.same a b && sameOperands as bs
  | _, _ => false

end

mutual

/-- Whether a block sets its step somewhere outside the handlers and functions defined in it. -/
def setsStep : List Instruction → Bool
  | [] => false
  | inst :: rest => inst.setsStep || setsStep rest

def Instruction.setsStep : Instruction → Bool
  | .mk .setStep _ _ => true
  | .mk .onEvent _ _ => false
  | .mk .defineFunction _ _ => false
  | .mk _ args _ => operandsSetStep args

def operandsSetStep : List Operand → Bool
  | [] => false
  | arg :: rest => arg.setsStep || operandsSetStep rest

def Operand.setsStep : Operand → Bool
  | .block body => setsStep body
  | .node inst => inst.setsStep
  | _ => false

end

end CueScript
