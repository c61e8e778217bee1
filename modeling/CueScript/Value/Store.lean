import CueScript.Value.Cells

set_option autoImplicit false

namespace CueScript

structure Store where
  arrays : Array Cells := #[]

namespace Store

def cells (store : Store) (id : ArrayId) : Cells :=
  store.arrays[id]?.getD #[]

def size (store : Store) (id : ArrayId) : Nat :=
  (store.cells id).size

def isEmpty (store : Store) (id : ArrayId) : Bool :=
  store.size id == 0

def alloc (store : Store) (cells : Cells) : ArrayId × Store :=
  (store.arrays.size, { arrays := store.arrays.push cells })

def put (store : Store) (id : ArrayId) (cells : Cells) : Store :=
  { arrays := store.arrays.setIfInBounds id cells }

def modify (store : Store) (id : ArrayId) (change : Cells → Cells) : Store :=
  { arrays := store.arrays.modify id change }

end Store

namespace Value

def truthy (store : Store) : Value → Bool
  | .nil => false
  | .int n => n != 0
  | .float x => x != 0
  | .text s => !s.isEmpty
  | .array id => !store.isEmpty id

def display (store : Store) : Value → String
  | .nil => ""
  | .int n => toString n
  | .float x => Decimal.display x
  | .text s => s
  | .array id => s!"<array len={store.size id}>"

def same (store : Store) : Nat → Value → Value → Bool
  | _, .nil, .nil => true
  | _, .int a, .int b => a == b
  | _, .float a, .float b => a == b
  | _, .text a, .text b => a == b
  | 0, .array a, .array b => a == b
  | depth + 1, .array a, .array b =>
    a == b ||
      ((store.cells a).size == (store.cells b).size &&
        ((store.cells a).toList.zip (store.cells b).toList).all fun (x, y) => same store depth x y)
  | _, _, _ => false

def strictEq (store : Store) (a b : Value) : Bool :=
  same store (store.arrays.size * store.arrays.size + 1) a b

def looseEq (a b : Value) : Bool :=
  match a, b with
  | .int x, .int y => x == y
  | .text x, .text y => x == y
  | .array x, .array y => x == y
  | a, b => a.isNumeric && b.isNumeric && a.toFloat == b.toFloat

def compareFloats (x y : Float) : Option Ordering :=
  if x < y then some .lt else if x == y then some .eq else if y < x then some .gt else none

def order (a b : Value) : Option Ordering :=
  match a, b with
  | .int x, .int y => some (compare x y)
  | .text x, .text y => some (compare x y)
  | a, b => if a.isNumeric && b.isNumeric then compareFloats a.toFloat b.toFloat else none

end Value

end CueScript
