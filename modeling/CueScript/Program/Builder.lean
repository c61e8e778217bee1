import CueScript.Program.Instruction

set_option autoImplicit false

namespace CueScript

namespace Instruction

def make (op : Opcode) (args : List Operand) : Instruction :=
  .mk op args none

def assign (name : String) (value : Operand) : Instruction :=
  make .assign [.var name, value]

def declare (name : String) (init : Operand) : Instruction :=
  make .declare [.var name, init]

def arrayAssign (name : String) (index value : Operand) : Instruction :=
  make .arrayAssign [.var name, index, value]

def call (name : String) (args : List Operand) : Instruction :=
  make .call (.text name :: args)

def ifElse (condition : Operand) (yes no : Block) : Instruction :=
  make .conditional [condition, .block yes, .block no]

def forLoop (init : Block) (condition : Operand) (post body : Block) : Instruction :=
  make .forLoop [.block init, condition, .block post, .block body]

def whileLoop (condition : Operand) (body : Block) : Instruction :=
  make .whileLoop [condition, .block body]

def switch (subject : Operand) (cases : List (Operand × Block)) (otherwise : Option Block) : Instruction :=
  let arms := cases.map fun (value, body) => Operand.node (make .case [value, .block body])
  let rest := otherwise.toList.map fun body => Operand.node (make .otherwise [.block body])
  make .switch (subject :: arms ++ rest)

def breakLoop : Instruction :=
  make .breakLoop []

def continueLoop : Instruction :=
  make .continueLoop []

def returnValue (value : Operand) : Instruction :=
  make .returnValue [value]

def onEvent (category : String) (body : Block) : Instruction :=
  make .onEvent [.text category, .block body]

def wait (units : Int64) : Instruction :=
  make .wait [.int units]

def setStep (perUnit : Int64) : Instruction :=
  make .setStep [.int perUnit]

def defineFunction (name : String) (params : List String) (body : Block) : Instruction :=
  make .defineFunction (.text name :: .block body :: params.map .var)

end Instruction

namespace Operand

def arrayRead (name : String) (index : Operand) : Operand :=
  .node (.make .arrayRead [.var name, index])

def call (name : String) (args : List Operand) : Operand :=
  .node (.call name args)

def binary (op : BinaryOp) (a b : Operand) : Operand :=
  .node (.make (.binary op) [a, b])

def unary (op : UnaryOp) (a : Operand) : Operand :=
  .node (.make (.unary op) [a])

end Operand

end CueScript
