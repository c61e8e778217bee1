import CueScript.Machine.Run

set_option autoImplicit false

namespace CueScript

namespace Action

def absolute : Value → Value
  | .float x => .float x.abs
  | v => .int (if v.toInt < 0 then -v.toInt else v.toInt)

/-- Keeps the best of some values: a later one takes its place unless `keeps` holds of the two as floats. -/
def extreme (keeps : Float → Float → Bool) (first : Value) (rest : List Value) : Value :=
  match rest.foldl (fun best v => if keeps best.toFloat v.toFloat then best else v) first with
  | .float x => .float x
  | v => .int v.toInt

def extremeOf (name : String) (keeps : Float → Float → Bool) : List Value → Run Value
  | [] => do
    Run.report .error s!"{name}: no arguments"
    pure (.int 0)
  | first :: rest => pure (extreme keeps first rest)

def largest (args : List Value) : Run Value :=
  extremeOf "Max" (fun a b => b ≤ a) args

def smallest (args : List Value) : Run Value :=
  extremeOf "Min" (fun a b => a ≤ b) args

def lowWord (n : Int64) : Int64 :=
  n &&& 0xFFFF

def highWord (n : Int64) : Int64 :=
  n >>> 16 &&& 0xFFFF

def makeLong (low high : Int64) : Int64 :=
  lowWord high <<< 16 ||| lowWord low

def random (limit : Int64) : Run Value :=
  if limit ≤ 0 then pure (.int 0)
  else Run.step fun m =>
    let (n, random) := m.random.below limit.toInt.toNat
    (.int (Int64.ofNat n), { m with random })

def expectArray (name : String) (v : Value) : Run (Option ArrayId) := do
  if v.array?.isNone then Run.report .error s!"{name}: expected an array, got {v.typeName}"
  pure v.array?

def arraySize (array : Value) : Run Value := do
  match ← expectArray "ArraySize" array with
  | some id => Run.read fun m => .int (Int64.ofNat (m.store.size id))
  | none => pure (.int 0)

def putCells (id : ArrayId) (cells : Cells) : Run Unit :=
  Run.modify fun m => { m with store := m.store.put id cells }

def clearArray (array : Value) : Run Value := do
  match ← expectArray "DelArrayAll" array with
  | some id => putCells id #[]
  | none => pure ()
  pure (.int 0)

def removeCell (array : Value) (index : Int64) : Run Value := do
  match ← expectArray "DelArrayAt" array with
  | none => pure ()
  | some id =>
    let cells ← Run.read (·.store.cells id)
    match cells.remove? index with
    | some (_, cells) => putCells id cells
    | none => Run.warn s!"DelArrayAt: index {index} out of range (len {cells.size})"
  pure (.int 0)

def growthFault (index : Int64) : Fault :=
  { kind := .outOfMemory, message := Growth.refusal index }

def insertCell (array : Value) (index : Int64) (value : Value) : Run Value := do
  match ← expectArray "InsArrayAt" array with
  | none => pure ()
  | some id =>
    match Cells.insert (← Run.read (·.grants)) (← Run.read (·.store.cells id)) index value with
    | .stored cells => putCells id cells
    | .negative => Run.warn s!"InsArrayAt: negative index {index}"
    | .refused index => Run.fail (growthFault index)
  pure (.int 0)

end Action

end CueScript
