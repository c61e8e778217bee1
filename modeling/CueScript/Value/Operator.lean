import CueScript.Value.Store

set_option autoImplicit false

namespace CueScript

inductive BinaryOp where
  | add | sub | mul | div | mod
  | eq | ne | lt | le | gt | ge
  | and | or
  | bitAnd | bitOr | bitXor | shl | shr
deriving DecidableEq, Repr

inductive UnaryOp where
  | neg | not | bitNot
deriving DecidableEq, Repr

namespace BinaryOp

def all : List BinaryOp :=
  [.add, .sub, .mul, .div, .mod, .eq, .ne, .lt, .le, .gt, .ge, .and, .or, .bitAnd, .bitOr, .bitXor, .shl, .shr]

def name : BinaryOp → String
  | .add => "Add" | .sub => "Sub" | .mul => "Mul" | .div => "Div" | .mod => "Mod"
  | .eq => "Eq" | .ne => "Ne" | .lt => "Lt" | .le => "Le" | .gt => "Gt" | .ge => "Ge"
  | .and => "And" | .or => "Or"
  | .bitAnd => "BitAnd" | .bitOr => "BitOr" | .bitXor => "BitXor" | .shl => "Shl" | .shr => "Shr"

def ofName? (name : String) : Option BinaryOp :=
  all.find? (·.name == name)

end BinaryOp

namespace UnaryOp

def all : List UnaryOp :=
  [.neg, .not, .bitNot]

def name : UnaryOp → String
  | .neg => "Neg" | .not => "Not" | .bitNot => "BitNot"

def ofName? (name : String) : Option UnaryOp :=
  all.find? (·.name == name)

end UnaryOp

namespace Value

def arith (onFloats : Float → Float → Float) (onInts : Int64 → Int64 → Int64) (a b : Value) : Value :=
  if a.isFloat || b.isFloat then .float (onFloats a.toFloat b.toFloat) else .int (onInts a.toInt b.toInt)

def add (store : Store) (a b : Value) : Value :=
  match a, b with
  | .text x, b => .text (x ++ b.display store)
  | a, .text y => .text (a.display store ++ y)
  | a, b => arith (· + ·) (· + ·) a b

def dividesByZero (a b : Value) : Bool :=
  if a.isFloat || b.isFloat then b.toFloat == 0 else b.toInt == 0

def div (a b : Value) : Value :=
  arith (fun x y => if y == 0 then 0 else x / y) (fun x y => if y = 0 then 0 else x / y) a b

def mod (a b : Value) : Value :=
  arith (fun x y => if y == 0 then 0 else Decimal.remainder x y) (fun x y => if y = 0 then 0 else x % y) a b

end Value

def BinaryOp.apply (store : Store) (op : BinaryOp) (a b : Value) : Value :=
  match op with
  | .add => a.add store b
  | .sub => a.arith (· - ·) (· - ·) b
  | .mul => a.arith (· * ·) (· * ·) b
  | .div => a.div b
  | .mod => a.mod b
  | .eq => .ofBool (a.looseEq b)
  | .ne => .ofBool (!a.looseEq b)
  | .lt => .ofBool (a.order b == some .lt)
  | .le => .ofBool (a.order b == some .lt || a.order b == some .eq)
  | .gt => .ofBool (a.order b == some .gt)
  | .ge => .ofBool (a.order b == some .gt || a.order b == some .eq)
  | .and => .ofBool (a.truthy store && b.truthy store)
  | .or => .ofBool (a.truthy store || b.truthy store)
  | .bitAnd => .int (a.toInt &&& b.toInt)
  | .bitOr => .int (a.toInt ||| b.toInt)
  | .bitXor => .int (a.toInt ^^^ b.toInt)
  | .shl => .int (a.toInt <<< b.toInt)
  | .shr => .int (a.toInt >>> b.toInt)

def BinaryOp.warning? (op : BinaryOp) (a b : Value) : Option String :=
  match op with
  | .div => if a.dividesByZero b then some "division by zero" else none
  | .mod => if a.dividesByZero b then some "modulo by zero" else none
  | _ => none

def UnaryOp.apply (store : Store) (op : UnaryOp) (v : Value) : Value :=
  match op with
  | .neg => match v with
    | .float x => .float (-x)
    | v => .int (-v.toInt)
  | .not => .ofBool (!v.truthy store)
  | .bitNot => .int (~~~v.toInt)

end CueScript
