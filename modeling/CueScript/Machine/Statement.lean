import CueScript.Builtin.Call
import CueScript.Machine.Flow

set_option autoImplicit false

namespace CueScript

structure Inner where
  exec : Instruction → Run Flow
  eval : Operand → Run Value

namespace Inner

/-- Executes a block up to the first instruction that ends in anything but `normal`. A fault that is not fatal is
reported, and the block goes on. -/
def blockFrom (inner : Inner) (last : Value) : Block → Run Flow
  | [] => pure (.normal last)
  | inst :: rest => fun m =>
    match inner.exec inst m with
    | .done (.normal value) m => inner.blockFrom value rest m
    | .done flow m => .done flow m
    | .failed fault m =>
      if fault.isFatal then .failed fault m else inner.blockFrom last rest (m.report .error fault.display)
    | .exhausted => .exhausted

def block (inner : Inner) (body : Block) : Run Flow :=
  inner.blockFrom .nil body

def name (inst : Instruction) (i : Nat) : Run String :=
  match (inst.arg? i).bind Operand.name? with
  | some name => pure name
  | none => Run.fail (Fault.invalidArgument s!"{inst.op.name}: operand {i} must be a name")

def blockArg (inst : Instruction) (i : Nat) : Run Block :=
  match (inst.arg? i).bind Operand.block? with
  | some body => pure body
  | none => Run.fail (Fault.invalidArgument s!"{inst.op.name}: operand {i} must be a block")

def optionalBlock (inst : Instruction) (i : Nat) : Block :=
  ((inst.arg? i).bind Operand.block?).getD []

def arg (inner : Inner) (inst : Instruction) (i : Nat) : Run Value :=
  match inst.arg? i with
  | some operand => inner.eval operand
  | none => Run.fail (Fault.invalidArgument s!"{inst.op.name}: missing operand {i}")

def argOr (inner : Inner) (default : Value) (inst : Instruction) (i : Nat) : Run Value :=
  match inst.arg? i with
  | some operand => inner.eval operand
  | none => pure default

def truth (inner : Inner) (inst : Instruction) (i : Nat) : Run Bool := do
  let value ← inner.arg inst i
  Run.read fun m => value.truthy m.store

def assign (inner : Inner) (inst : Instruction) : Run Value := do
  let name ← name inst 0
  let value ← inner.arg inst 1
  Run.modify (·.assign name value)
  pure value

def declare (inner : Inner) (inst : Instruction) : Run Value := do
  let name ← name inst 0
  let value ← inner.argOr (.int 0) inst 1
  Run.modify (·.declare name value)
  pure value

def arrayRead (inner : Inner) (inst : Instruction) : Run Value := do
  let name ← name inst 0
  let index := (← inner.arg inst 1).toInt
  match ← Run.read (·.lookup name) with
  | some (.array id) =>
    let cells ← Run.read (·.store.cells id)
    match cells.get? index with
    | some value => pure value
    | none =>
      Run.warn s!"{FaultKind.indexOutOfRange.description}: `{name}[{index}]` (len {cells.size}) read as 0"
      pure (.int 0)
  | _ =>
    Run.warn s!"`{name}` is not an array, `{name}[{index}]` read as 0"
    pure (.int 0)

/-- The array that a name is bound to. A name that is bound to none is assigned a new one. -/
def arrayFor (name : String) : Run ArrayId :=
  Run.step fun m =>
    match m.lookup name with
    | some (.array id) => (id, m)
    | _ =>
      let (id, store) := m.store.alloc #[]
      (id, { m with store }.assign name (.array id))

def arrayAssign (inner : Inner) (inst : Instruction) : Run Value := do
  let name ← name inst 0
  let index := (← inner.arg inst 1).toInt
  let value ← inner.arg inst 2
  let id ← arrayFor name
  match Cells.set (← Run.read (·.grants)) (← Run.read (·.store.cells id)) index value with
  | .stored cells =>
    Action.putCells id cells
    pure value
  | .negative =>
    Run.warn s!"{FaultKind.indexOutOfRange.description}: `{name}[{index}]` not assigned"
    pure (.int 0)
  | .refused index => Run.fail (Action.growthFault index)

/-- The variables of a call: an argument for each parameter, then defaults, which are evaluated where the call stands. -/
def bindParams (inner : Inner) (frame : Bindings) : List Param → List Value → Run Bindings
  | [], _ => pure frame
  | p :: rest, value :: args => inner.bindParams (frame.set p.name value) rest args
  | p :: rest, [] => do
    let value ← match p.default with
      | some operand => inner.eval operand
      | none => pure (.int 0)
    inner.bindParams (frame.set p.name value) rest []

def callResult (f : FunctionDef) : Flow → Run Flow
  | .normal _ => pure .zero
  | .returned value => pure (.normal value)
  | .wait events => pure (.wait events)
  | .breakLoop | .continueLoop => do
    Run.warn s!"`{f.name}`: break/continue outside of a loop"
    pure .zero

def inFrame (inner : Inner) (frame : Bindings) (body : Block) : Run Flow := do
  Run.modify fun m => { m with frames := frame :: m.frames }
  Run.afterwards (inner.block body) fun m => { m with frames := m.frames.tail }

/-- Runs a function if there is room on the stack. Only its body takes up a place there. -/
def applyFunction (inner : Inner) (f : FunctionDef) (args : List Value) : Run Flow := do
  let limit ← Run.read (·.settings.stackLimit)
  if limit ≤ (← Run.read (·.frames.length)) then
    Run.fail { kind := .stackOverflow, message := s!"calling `{f.name}` would exceed {limit} frames" }
  else
    let frame ← inner.bindParams {} f.params args
    callResult f (← inner.inFrame frame f.body)

def callFunction (inner : Inner) (f : FunctionDef) (args : List Value) : Run Flow :=
  (inner.applyFunction f args).traced f.name

/-- Calls a builtin or a function by its name in any case; a builtin hides a function. -/
def callNamed (inner : Inner) (name : String) (args : List Value) : Run Flow := do
  match ← Run.read (·.builtin? name) with
  | some builtin =>
    match ← builtin.call args with
    | .value v => pure (.normal v)
    | .wait units => Run.read (·.waitFlow units)
  | none =>
    match ← Run.read (·.functions.find? (Text.lower name)) with
    | some f => inner.callFunction f args
    | none => Run.fail (Fault.undefinedFunction name)

def evalAll (inner : Inner) : List Operand → Run (List Value)
  | [] => pure []
  | operand :: rest => do
    let value ← inner.eval operand
    let values ← inner.evalAll rest
    pure (value :: values)

def call (inner : Inner) (inst : Instruction) : Run Flow := do
  let name ← name inst 0
  let args ← inner.evalAll (inst.args.drop 1)
  inner.callNamed name args

def binary (inner : Inner) (inst : Instruction) (op : BinaryOp) : Run Value := do
  match op with
  | .and => if ← inner.truth inst 0 then .ofBool <$> inner.truth inst 1 else pure (.int 0)
  | .or => if ← inner.truth inst 0 then pure (.int 1) else .ofBool <$> inner.truth inst 1
  | op =>
    let a ← inner.arg inst 0
    let b ← inner.arg inst 1
    (op.warning? a b).forM Run.warn
    Run.read fun m => op.apply m.store a b

def unary (inner : Inner) (inst : Instruction) (op : UnaryOp) : Run Value := do
  let a ← inner.arg inst 0
  Run.read fun m => op.apply m.store a

/-- The value of a call in an expression. A wait is put off to the end of the statement. -/
def callValue (inner : Inner) (inst : Instruction) : Run Value := do
  match ← inner.call inst with
  | .normal value | .returned value => pure value
  | .wait events =>
    Run.modify fun m => { m with pendingWait := some events }
    pure (.int 0)
  | .breakLoop | .continueLoop => pure (.int 0)

def node (inner : Inner) (inst : Instruction) : Run Value :=
  match inst.op with
  | .binary op => inner.binary inst op
  | .unary op => inner.unary inst op
  | .arrayRead => inner.arrayRead inst
  | .call => inner.callValue inst
  | .assign => inner.assign inst
  | .declare => inner.declare inst
  | .arrayAssign => inner.arrayAssign inst
  | op => Run.fail (Fault.invalidArgument s!"{op.name} cannot be used as a value")

/-- The value of an operand. A name that is bound to nothing counts as 0. -/
def operand (inner : Inner) : Operand → Run Value
  | .nil => pure .nil
  | .int n => pure (.int n)
  | .float x => pure (.float x)
  | .text s => pure (.text s)
  | .var name => Run.read fun m => (m.lookup name).getD (.int 0)
  | .node inst => (inner.node inst).locate inst
  | .block _ => Run.fail (Fault.invalidArgument "a block is not a value")

def rounds (round : Run (Option Flow)) : Nat → Run Flow
  | 0 => Run.exhausted
  | fuel + 1 => fun m =>
    match round m with
    | .done none m => rounds round fuel m
    | .done (some flow) m => .done flow m
    | .failed fault m => .failed fault m
    | .exhausted => .exhausted

def loopEnd : Flow → Option Flow
  | .normal _ | .continueLoop => none
  | .breakLoop => some .zero
  | flow => some flow

def whileRound (inner : Inner) (inst : Instruction) (body : Block) : Run (Option Flow) := do
  if ← inner.truth inst 0 then loopEnd <$> inner.block body else pure (some .zero)

def doWhileRound (inner : Inner) (inst : Instruction) (body : Block) : Run (Option Flow) := do
  match loopEnd (← inner.block body) with
  | some flow => pure (some flow)
  | none => if ← inner.truth inst 1 then pure none else pure (some .zero)

def forCondition (inner : Inner) (inst : Instruction) : Run Bool := do
  match inst.arg? 1 with
  | none | some .nil => pure true
  | some condition =>
    let value ← inner.eval condition
    Run.read fun m => value.truthy m.store

def forRound (inner : Inner) (inst : Instruction) (post body : Block) : Run (Option Flow) := do
  if ← inner.forCondition inst then
    match loopEnd (← inner.block body) with
    | some flow => pure (some flow)
    | none =>
      match ← inner.block post with
      | .normal _ => pure none
      | flow => pure (some flow)
  else pure (some .zero)

def forLoop (inner : Inner) (fuel : Nat) (inst : Instruction) : Run Flow := do
  let init ← blockArg inst 0
  let body ← blockArg inst 3
  match ← inner.block init with
  | .normal _ => rounds (inner.forRound inst (optionalBlock inst 2) body) fuel
  | flow => pure flow

/-- Executes the first arm that matches, or the last arm for all other cases. -/
def arms (inner : Inner) (subject : Value) (otherwise : Option Instruction) : List Operand → Run Flow
  | [] =>
    match otherwise with
    | some arm => do inner.block (← blockArg arm 0)
    | none => pure .zero
  | .node arm :: rest => do
    match arm.op with
    | .case =>
      let value ← inner.arg arm 0
      if value.looseEq subject then inner.block (← blockArg arm 1) else inner.arms subject otherwise rest
    | .otherwise => inner.arms subject (some arm) rest
    | op =>
      Run.warn s!"switch: ignoring {op.name} arm"
      inner.arms subject otherwise rest
  | operand :: rest => do
    Run.warn s!"switch: ignoring non-arm operand {operand.diagnostic}"
    inner.arms subject otherwise rest

def switch (inner : Inner) (inst : Instruction) : Run Flow := do
  let subject ← inner.arg inst 0
  inner.arms subject none (inst.args.drop 1)

def eventKind (inst : Instruction) : Run EventKind :=
  match inst.arg? 0 with
  | some (.int code) =>
    match EventKind.ofCode? code with
    | some kind => pure kind
    | none => Run.fail (Fault.invalidArgument s!"unknown event code {code}")
  | _ => do
    let name ← name inst 0
    match EventKind.ofName? name with
    | some kind => pure kind
    | none => Run.fail (Fault.invalidArgument (EventKind.unknown name))

def onEvent (inst : Instruction) : Run Value := do
  let kind ← eventKind inst
  let body ← blockArg inst 1
  let id ← Run.step (·.registerHandler kind body)
  pure (.int (Int64.ofNat id))

/-- What an instruction does when it stands as a statement. Functions are collected before anything runs. -/
def perform (inner : Inner) (fuel : Nat) (inst : Instruction) : Run Flow :=
  match inst.op with
  | .assign => .normal <$> inner.assign inst
  | .declare => .normal <$> inner.declare inst
  | .arrayAssign => .normal <$> inner.arrayAssign inst
  | .arrayRead => .normal <$> inner.arrayRead inst
  | .call => inner.call inst
  | .binary op => .normal <$> inner.binary inst op
  | .unary op => .normal <$> inner.unary inst op
  | .conditional => do
    if ← inner.truth inst 0 then inner.block (← blockArg inst 1) else inner.block (optionalBlock inst 2)
  | .forLoop => inner.forLoop fuel inst
  | .whileLoop => do rounds (inner.whileRound inst (← blockArg inst 1)) fuel
  | .doWhile => do rounds (inner.doWhileRound inst (← blockArg inst 0)) fuel
  | .switch => inner.switch inst
  | .case | .otherwise => Run.fail (Fault.invalidArgument s!"{inst.op.name} outside of a switch")
  | .breakLoop => pure .breakLoop
  | .continueLoop => pure .continueLoop
  | .returnValue => .returned <$> inner.argOr (.int 0) inst 0
  | .onEvent => .normal <$> onEvent inst
  | .wait => do
    let units ← inner.arg inst 0
    Run.read (·.waitFlow units.toInt)
  | .setStep => do
    let perUnit ← inner.argOr (.int 1) inst 0
    Run.modify (·.setStep perUnit.toInt)
    pure .zero
  | .defineFunction => pure (.normal .nil)

def withPending : Option Int64 → Flow → Flow
  | some events, .normal _ | some events, .breakLoop | some events, .continueLoop | some events, .returned _ =>
    .wait events
  | _, flow => flow

/-- Executes an instruction as a statement: it takes up the wait that its expressions asked for. -/
def statement (inner : Inner) (fuel : Nat) (inst : Instruction) : Run Flow := fun m =>
  match (inner.perform fuel inst).locate inst m with
  | .done flow m => .done (withPending m.pendingWait flow) { m with pendingWait := none }
  | .failed fault m => .failed fault { m with pendingWait := none }
  | .exhausted => .exhausted

end Inner

end CueScript
