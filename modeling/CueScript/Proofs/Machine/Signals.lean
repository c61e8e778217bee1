import CueScript.Proofs.Machine.Idle

set_option autoImplicit false

namespace CueScript

open Run

/-- The signals meant for a loop, of these the one that only ends a round of it, and the one meant for a call. -/
inductive Signal where
  | loopExit
  | roundExit
  | functionExit
deriving DecidableEq

def Signal.raisedBy : Signal → Opcode → Bool
  | .loopExit, .breakLoop | .loopExit, .continueLoop | .roundExit, .continueLoop | .functionExit, .returnValue => true
  | _, _ => false

def Signal.raised : Signal → Flow → Bool
  | .loopExit, .breakLoop | .loopExit, .continueLoop | .roundExit, .continueLoop | .functionExit, .returned _ => true
  | _, _ => false

def Signal.forLoops : Signal → Bool
  | .loopExit | .roundExit => true
  | .functionExit => false

def Opcode.bodyAt? : Opcode → Option Nat
  | .forLoop => some 3
  | .whileLoop => some 1
  | .doWhile => some 0
  | _ => none

/-- Whether an instruction takes what its operand at `i` raises: a loop takes the signals of its body that are meant for
loops. -/
def Signal.takenFrom (s : Signal) (op : Opcode) (i : Nat) : Operand → Bool
  | .block _ => s.forLoops && op.bodyAt? == some i
  | _ => false

mutual

/-- Whether everything in the block that raises the signal stands in a body that takes it. Blocks that are left to later
do not count. -/
def blockKeeps (s : Signal) : List Instruction → Bool
  | [] => true
  | inst :: rest => inst.keeps s && blockKeeps s rest

def Instruction.keeps (s : Signal) : Instruction → Bool
  | .mk op args _ => op.postpones || !s.raisedBy op && operandsKeep s op 0 args

def operandsKeep (s : Signal) (op : Opcode) : Nat → List Operand → Bool
  | _, [] => true
  | i, arg :: rest => (s.takenFrom op i arg || arg.keeps s) && operandsKeep s op (i + 1) rest

def Operand.keeps (s : Signal) : Operand → Bool
  | .node inst => inst.keeps s
  | .block body => blockKeeps s body
  | _ => true

end

section Syntax

variable {s : Signal} {inst : Instruction} {operand : Operand} {body : Block} {i : Nat}

theorem operandsKeep_get {op : Opcode} {args : List Operand} {first : Nat} (kept : operandsKeep s op first args = true)
    (found : args[i]? = some operand) : s.takenFrom op (first + i) operand = true ∨ operand.keeps s = true := by
  induction args generalizing first i with
  | nil => simp at found
  | cons arg rest ih =>
    simp only [operandsKeep, Bool.and_eq_true, Bool.or_eq_true] at kept
    cases i with
    | zero =>
      simp only [List.getElem?_cons_zero, Option.some.injEq] at found
      simpa [← found] using kept.1
    | succ i =>
      have later := ih kept.2 (by simpa using found)
      rwa [Nat.add_assoc, Nat.add_comm 1] at later

namespace Instruction

theorem keeps_raises (kept : inst.keeps s = true) (runs : inst.op.postpones = false) :
    s.raisedBy inst.op = false := by
  cases inst with
  | mk op args line =>
    have runs : op.postpones = false := runs
    simp [Instruction.keeps, runs] at kept
    exact kept.1

theorem keeps_arg (kept : inst.keeps s = true) (runs : inst.op.postpones = false) (found : inst.arg? i = some operand) :
    s.takenFrom inst.op i operand = true ∨ operand.keeps s = true := by
  cases inst with
  | mk op args line =>
    have runs : op.postpones = false := runs
    simp [Instruction.keeps, runs] at kept
    simpa [Instruction.op] using operandsKeep_get kept.2 found

theorem keeps_block (kept : inst.keeps s = true) (runs : inst.op.postpones = false)
    (block : (inst.arg? i).bind Operand.block? = some body) :
    s.forLoops = true ∧ inst.op.bodyAt? = some i ∨ blockKeeps s body = true := by
  obtain ⟨operand, found, block⟩ := Option.bind_eq_some_iff.mp block
  cases operand with
  | block inside =>
    cases block
    simpa [Signal.takenFrom, Operand.keeps] using keeps_arg kept runs found
  | nil | int | float | text | var | node => cases block

theorem keeps_branch (kept : inst.keeps s = true) (runs : inst.op.postpones = false) (branch : inst.op.bodyAt? ≠ some i)
    (block : (inst.arg? i).bind Operand.block? = some body) : blockKeeps s body = true := by
  rcases keeps_block kept runs block with ⟨_, own⟩ | inside
  · exact absurd own branch
  · exact inside

theorem keeps_optionalBlock (kept : inst.keeps s = true) (runs : inst.op.postpones = false)
    (branch : inst.op.bodyAt? ≠ some i) : blockKeeps s (Inner.optionalBlock inst i) = true := by
  unfold Inner.optionalBlock
  cases block : (inst.arg? i).bind Operand.block? with
  | none => rfl
  | some body => exact keeps_branch kept runs branch block

end Instruction

end Syntax

namespace Run

variable {α β : Type} {P : α → Prop} {Q : β → Prop} {x : Run α}

/-- All that the run can end with, short of a fault, is in `P`. -/
structure Yields (P : α → Prop) (x : Run α) : Prop where
  holds {m : Machine} {a : α} {m' : Machine} : x m = .done a m' → P a

theorem yields_true : x.Yields fun _ => True :=
  ⟨fun _ => trivial⟩

theorem Yields.mono {P' : α → Prop} (yields : x.Yields P) (weaker : ∀ a, P a → P' a) : x.Yields P' :=
  ⟨fun ran => weaker _ (yields.holds ran)⟩

theorem yields_pure {a : α} (holds : P a) : Yields P (pure a) := by
  constructor
  rintro m _ m' ⟨⟩
  exact holds

theorem yields_fail {fault : Fault} : Yields P (fail fault) :=
  ⟨nofun⟩

theorem Yields.bind {f : α → Run β} (first : x.Yields P) (next : ∀ a, P a → (f a).Yields Q) : (x >>= f).Yields Q := by
  constructor
  intro m b m' ran
  simp only [Bind.bind, Run.bind] at ran
  split at ran
  next a mid begun => exact (next a (first.holds begun)).holds ran
  next => cases ran
  next => cases ran

theorem yields_after {f : α → Run β} (next : ∀ a, (f a).Yields Q) : (x >>= f).Yields Q :=
  yields_true.bind fun a _ => next a

theorem Yields.map {f : α → β} (first : x.Yields fun a => Q (f a)) : (f <$> x).Yields Q := by
  rw [← bind_pure_comp]
  exact first.bind fun a holds => yields_pure holds

theorem yields_read {f : Machine → α} (holds : ∀ m, P (f m)) : Yields P (read f) := by
  constructor
  rintro m _ m' ⟨⟩
  exact holds m

theorem Yields.locate {inst : Instruction} (yields : x.Yields P) : (x.locate inst).Yields P := by
  constructor
  intro m a m' ran
  unfold Run.locate at ran
  split at ran
  · cases ran
  · exact yields.holds ran

theorem Yields.afterwards {f : Machine → Machine} (yields : x.Yields P) : (x.afterwards f).Yields P := by
  constructor
  intro m a m' ran
  unfold Run.afterwards at ran
  split at ran
  next ended =>
    cases ran
    exact yields.holds ended
  next => cases ran
  next => cases ran

theorem Yields.traced (yields : x.Yields P) (function : String) : (x.traced function).Yields P :=
  yields_after fun _ => yields.afterwards

end Run

def Flow.Settled (flow : Flow) : Prop :=
  ∀ s : Signal, s.raised flow = false

theorem Flow.settled_normal (value : Value) : (Flow.normal value).Settled := by
  intro s
  cases s <;> rfl

theorem Flow.settled_wait (events : Int64) : (Flow.wait events).Settled := by
  intro s
  cases s <;> rfl

theorem Machine.settled_waitFlow (m : Machine) (units : Int64) : (m.waitFlow units).Settled := by
  unfold Machine.waitFlow
  split
  · exact Flow.settled_normal _
  · exact Flow.settled_wait _

namespace Inner

section Calls

variable {inner : Inner}

theorem callResult_yields (f : FunctionDef) (flow : Flow) : (callResult f flow).Yields Flow.Settled := by
  cases flow with
  | normal | returned => exact yields_pure (Flow.settled_normal _)
  | wait => exact yields_pure (Flow.settled_wait _)
  | breakLoop | continueLoop => exact yields_after fun _ => yields_pure (Flow.settled_normal _)

theorem applyFunction_yields (f : FunctionDef) (args : List Value) :
    (inner.applyFunction f args).Yields Flow.Settled := by
  unfold applyFunction
  apply yields_after
  intro limit
  apply yields_after
  intro depth
  split
  · exact yields_fail
  · exact yields_after fun frame => yields_after fun flow => callResult_yields f flow

theorem callFunction_yields (f : FunctionDef) (args : List Value) :
    (inner.callFunction f args).Yields Flow.Settled :=
  (applyFunction_yields f args).traced f.name

theorem callNamed_yields (name : String) (args : List Value) : (inner.callNamed name args).Yields Flow.Settled := by
  unfold callNamed
  apply yields_after
  intro builtin
  cases builtin with
  | some builtin =>
    apply yields_after
    intro reply
    cases reply with
    | value v => exact yields_pure (Flow.settled_normal v)
    | wait units => exact yields_read fun m => m.settled_waitFlow units
  | none =>
    apply yields_after
    intro f
    cases f with
    | some f => exact callFunction_yields f args
    | none => exact yields_fail

theorem call_yields (inst : Instruction) : (inner.call inst).Yields Flow.Settled :=
  yields_after fun name => yields_after fun args => callNamed_yields name args

end Calls

section Constructs

variable {inner : Inner} {s : Signal} {inst : Instruction}

def Keeps (inner : Inner) (s : Signal) : Prop :=
  ∀ inst, inst.keeps s = true → (inner.exec inst).Yields (s.raised · = false)

theorem Keeps.blockFrom (keeps : inner.Keeps s) {body : Block} (kept : blockKeeps s body = true) (last : Value) :
    (inner.blockFrom last body).Yields (s.raised · = false) := by
  induction body generalizing last with
  | nil => exact yields_pure (Flow.settled_normal last s)
  | cons inst rest ih =>
    simp only [blockKeeps, Bool.and_eq_true] at kept
    constructor
    intro m flow m' ran
    unfold Inner.blockFrom at ran
    split at ran
    next value mid _ => exact (ih kept.2 value).holds ran
    next first mid _ executed =>
      cases ran
      exact (keeps inst kept.1).holds executed
    next fault mid _ =>
      -- A fault that is not fatal is reported, and the block goes on.
      split at ran
      · cases ran
      · exact (ih kept.2 last).holds ran
    next => cases ran

theorem Keeps.block (keeps : inner.Keeps s) {body : Block} (kept : blockKeeps s body = true) :
    (inner.block body).Yields (s.raised · = false) :=
  keeps.blockFrom kept .nil

theorem loopEnd_raises {flow left : Flow} (kept : s.forLoops = true ∨ s.raised flow = false)
    (ends : loopEnd flow = some left) : s.raised left = false := by
  cases flow with
  | normal | continueLoop => cases ends
  | breakLoop =>
    cases ends
    exact Flow.settled_normal _ s
  | wait =>
    cases ends
    exact Flow.settled_wait _ s
  | returned =>
    cases ends
    cases s with
    | loopExit | roundExit => rfl
    | functionExit => exact kept.resolve_left Bool.false_ne_true

-- A round without an end goes on to the next one and raises nothing.
def RoundKeeps (s : Signal) (round : Option Flow) : Prop :=
  ∀ flow, round = some flow → s.raised flow = false

theorem roundKeeps_none : RoundKeeps s none := nofun

theorem roundKeeps_zero : RoundKeeps s (some .zero) := by
  rintro _ ⟨⟩
  exact Flow.settled_normal _ s

theorem rounds_yields {round : Run (Option Flow)} (yields : round.Yields (RoundKeeps s)) (fuel : Nat) :
    (rounds round fuel).Yields (s.raised · = false) := by
  induction fuel with
  | zero => exact ⟨nofun⟩
  | succ fuel ih =>
    constructor
    intro m flow m' ran
    unfold rounds at ran
    split at ran
    next mid _ => exact ih.holds ran
    next left mid once =>
      cases ran
      exact yields.holds once flow rfl
    next => cases ran
    next => cases ran

theorem Keeps.body (keeps : inner.Keeps s) {body : Block} (kept : s.forLoops = true ∨ blockKeeps s body = true) :
    (inner.block body).Yields fun flow => RoundKeeps s (loopEnd flow) := by
  rcases kept with taken | kept
  · exact yields_true.mono fun flow _ left ends => loopEnd_raises (.inl taken) ends
  · exact (keeps.block kept).mono fun flow silent left ends => loopEnd_raises (.inr silent) ends

theorem Keeps.whileRound (keeps : inner.Keeps s) {body : Block} (kept : s.forLoops = true ∨ blockKeeps s body = true) :
    (inner.whileRound inst body).Yields (RoundKeeps s) := by
  apply yields_after
  intro goes
  cases goes with
  | true => exact (keeps.body kept).map
  | false => exact yields_pure roundKeeps_zero

theorem Keeps.doWhileRound (keeps : inner.Keeps s) {body : Block} (kept : s.forLoops = true ∨ blockKeeps s body = true) :
    (inner.doWhileRound inst body).Yields (RoundKeeps s) := by
  apply (keeps.body kept).bind
  intro flow ends
  cases left : loopEnd flow with
  | some flow => exact yields_pure (left ▸ ends)
  | none =>
    apply yields_after
    intro goes
    cases goes with
    | true => exact yields_pure roundKeeps_none
    | false => exact yields_pure roundKeeps_zero

theorem Keeps.forRound (keeps : inner.Keeps s) {post body : Block} (kept : s.forLoops = true ∨ blockKeeps s body = true)
    (keptPost : blockKeeps s post = true) : (inner.forRound inst post body).Yields (RoundKeeps s) := by
  apply yields_after
  intro goes
  cases goes with
  | false => exact yields_pure roundKeeps_zero
  | true =>
    apply (keeps.body kept).bind
    intro flow ends
    cases left : loopEnd flow with
    | some flow => exact yields_pure (left ▸ ends)
    | none =>
      -- What the post block raises leaves the loop as it is, so that block has to keep the signal on its own.
      apply (keeps.block keptPost).bind
      intro flow silent
      cases flow with
      | normal => exact yields_pure roundKeeps_none
      | breakLoop | continueLoop | returned | wait =>
        apply yields_pure
        rintro _ ⟨⟩
        exact silent

theorem blockArg_yields (i : Nat) :
    (blockArg inst i).Yields fun body => (inst.arg? i).bind Operand.block? = some body := by
  unfold blockArg
  split
  next body block => exact yields_pure block
  next => exact yields_fail

theorem Keeps.branch (keeps : inner.Keeps s) {i : Nat} (kept : inst.keeps s = true) (runs : inst.op.postpones = false)
    (branch : inst.op.bodyAt? ≠ some i) : (do inner.block (← blockArg inst i)).Yields (s.raised · = false) :=
  (blockArg_yields i).bind fun _ block => keeps.block (Instruction.keeps_branch kept runs branch block)

theorem bodyArg_yields {i : Nat} (kept : inst.keeps s = true) (runs : inst.op.postpones = false) :
    (blockArg inst i).Yields fun body => s.forLoops = true ∨ blockKeeps s body = true :=
  (blockArg_yields i).mono fun _ block => (Instruction.keeps_block kept runs block).imp_left And.left

theorem Keeps.forLoop (keeps : inner.Keeps s) (kept : inst.keeps s = true) (loops : inst.op = .forLoop) (fuel : Nat) :
    (inner.forLoop fuel inst).Yields (s.raised · = false) := by
  have runs : inst.op.postpones = false := by rw [loops]; rfl
  have keptPost : blockKeeps s (optionalBlock inst 2) = true :=
    Instruction.keeps_optionalBlock kept runs (by rw [loops]; decide)
  apply (blockArg_yields 0).bind
  intro init block
  have keptInit := Instruction.keeps_branch kept runs (by rw [loops]; decide) block
  apply (bodyArg_yields kept runs).bind
  intro body keptBody
  apply (keeps.block keptInit).bind
  intro flow silent
  cases flow with
  | normal => exact rounds_yields (keeps.forRound keptBody keptPost) fuel
  | breakLoop | continueLoop | returned | wait => exact yields_pure silent

theorem Keeps.arms (keeps : inner.Keeps s) (subject : Value) (otherwise : Option Instruction) {arms : List Operand}
    (kept : ∀ arm ∈ arms, arm.keeps s = true)
    (keptLast : ∀ arm, otherwise = some arm → arm.op = .otherwise ∧ arm.keeps s = true) :
    (inner.arms subject otherwise arms).Yields (s.raised · = false) := by
  induction arms generalizing otherwise with
  | nil =>
    unfold Inner.arms
    cases otherwise with
    | none => exact yields_pure (Flow.settled_normal _ s)
    | some arm =>
      obtain ⟨last, keptArm⟩ := keptLast arm rfl
      exact keeps.branch keptArm (by rw [last]; rfl) (by rw [last]; decide)
  | cons operand rest ih =>
    have keptRest (arm : Operand) (member : arm ∈ rest) := kept arm (List.mem_cons_of_mem operand member)
    unfold Inner.arms
    split
    next => contradiction
    next arm others same =>
      cases same
      have keptArm : arm.keeps s = true := kept _ List.mem_cons_self
      split
      next case =>
        apply yields_after
        intro value
        split
        · exact keeps.branch keptArm (by rw [case]; rfl) (by rw [case]; decide)
        · exact ih otherwise keptRest keptLast
      next last =>
        apply ih (some arm) keptRest
        rintro _ ⟨⟩
        exact ⟨last, keptArm⟩
      next => exact yields_after fun _ => ih otherwise keptRest keptLast
    next others same =>
      cases same
      exact yields_after fun _ => ih otherwise keptRest keptLast

theorem Keeps.switch (keeps : inner.Keeps s) (kept : inst.keeps s = true) (switches : inst.op = .switch) :
    (inner.switch inst).Yields (s.raised · = false) := by
  apply yields_after
  intro subject
  apply keeps.arms
  next =>
    intro arm member
    obtain ⟨i, found⟩ := List.mem_iff_getElem?.mp (List.mem_of_mem_drop member)
    have own := Instruction.keeps_arg kept (by rw [switches]; rfl) found
    cases arm with
    | block => simpa [Signal.takenFrom, switches, Opcode.bodyAt?] using own
    | nil | int | float | text | var | node => simpa [Signal.takenFrom] using own
  next => nofun

theorem yields_normal {x : Run Value} : (Flow.normal <$> x).Yields (s.raised · = false) :=
  (yields_true.mono fun value _ => Flow.settled_normal value s).map

theorem Keeps.perform (keeps : inner.Keeps s) (kept : inst.keeps s = true) (fuel : Nat) :
    (inner.perform fuel inst).Yields (s.raised · = false) := by
  have silent : inst.op.postpones = false → s.raisedBy inst.op = false := Instruction.keeps_raises kept
  unfold Inner.perform
  cases op : inst.op with
  | assign | declare | arrayAssign | arrayRead | binary | unary | onEvent => exact yields_normal
  | call => exact (call_yields inst).mono fun flow settled => settled s
  | conditional =>
    have runs : inst.op.postpones = false := by rw [op]; rfl
    apply yields_after
    intro goes
    cases goes with
    | true => exact keeps.branch kept runs (by rw [op]; decide)
    | false => exact keeps.block (Instruction.keeps_optionalBlock kept runs (by rw [op]; decide))
  | forLoop => exact keeps.forLoop kept op fuel
  | whileLoop =>
    apply (bodyArg_yields kept (by rw [op]; rfl)).bind
    exact fun body keptBody => rounds_yields (keeps.whileRound keptBody) fuel
  | doWhile =>
    apply (bodyArg_yields kept (by rw [op]; rfl)).bind
    exact fun body keptBody => rounds_yields (keeps.doWhileRound keptBody) fuel
  | switch => exact keeps.switch kept op
  | case | otherwise => exact yields_fail
  | breakLoop =>
    rw [op] at silent
    apply yields_pure
    cases s with
    | loopExit => cases silent rfl
    | roundExit | functionExit => rfl
  | continueLoop =>
    rw [op] at silent
    apply yields_pure
    cases s with
    | loopExit | roundExit => cases silent rfl
    | functionExit => rfl
  | returnValue =>
    rw [op] at silent
    apply Yields.map
    cases s with
    | loopExit | roundExit => exact yields_true.mono fun _ _ => rfl
    | functionExit => cases silent rfl
  | wait => exact yields_after fun units => yields_read fun m => m.settled_waitFlow _ s
  | setStep => exact yields_after fun _ => yields_after fun _ => yields_pure (Flow.settled_normal _ s)
  | defineFunction => exact yields_pure (Flow.settled_normal _ s)

theorem withPending_raises {flow : Flow} (silent : s.raised flow = false) (pending : Option Int64) :
    s.raised (withPending pending flow) = false := by
  cases pending with
  | none => exact silent
  | some events =>
    cases flow with
    | normal | breakLoop | continueLoop | returned | wait => exact Flow.settled_wait _ s

theorem Keeps.statement (keeps : inner.Keeps s) (kept : inst.keeps s = true) (fuel : Nat) :
    (inner.statement fuel inst).Yields (s.raised · = false) := by
  constructor
  intro m flow m' ran
  unfold Inner.statement at ran
  split at ran
  next first mid performed =>
    cases ran
    exact withPending_raises ((keeps.perform kept fuel).locate.holds performed) mid.pendingWait
  next => cases ran
  next => cases ran

end Constructs

end Inner

theorem interpreter_keeps (s : Signal) (fuel : Nat) : (interpreter fuel).Keeps s := by
  -- With less fuel every instruction inside keeps the signal, which is all that the lemmas for constructs ask for.
  induction fuel with
  | zero => exact fun inst kept => ⟨nofun⟩
  | succ fuel ih =>
    intro inst kept
    exact Inner.Keeps.statement ih kept fuel

theorem execBlock_keeps {s : Signal} {body : Block} (kept : blockKeeps s body = true) (fuel : Nat) :
    (execBlock fuel body).Yields (s.raised · = false) :=
  (interpreter_keeps s fuel).block kept

namespace Inner

def armFor (inner : Inner) (subject : Value) (otherwise : Option Instruction) : List Operand → Run (Option Block)
  | [] =>
    match otherwise with
    | some arm => some <$> blockArg arm 0
    | none => pure none
  | .node arm :: rest => do
    match arm.op with
    | .case =>
      let value ← inner.arg arm 0
      if value.looseEq subject then some <$> blockArg arm 1 else inner.armFor subject otherwise rest
    | .otherwise => inner.armFor subject (some arm) rest
    | op =>
      Run.warn s!"switch: ignoring {op.name} arm"
      inner.armFor subject otherwise rest
  | operand :: rest => do
    Run.warn s!"switch: ignoring non-arm operand {operand.diagnostic}"
    inner.armFor subject otherwise rest

/-- What a conditional or a switch chooses to execute. Nothing is executed here. -/
def chosen (inner : Inner) (inst : Instruction) : Run (Option Block) :=
  match inst.op with
  | .conditional => do
    if ← inner.truth inst 0 then some <$> blockArg inst 1 else pure (some (optionalBlock inst 2))
  | .switch => do
    let subject ← inner.arg inst 0
    inner.armFor subject none (inst.args.drop 1)
  | _ => pure none

def chosenBlock (inner : Inner) : Option Block → Run Flow
  | some body => inner.block body
  | none => pure .zero

variable {inner : Inner} {inst : Instruction}

theorem arms_eq (subject : Value) (otherwise : Option Instruction) (arms : List Operand) :
    inner.arms subject otherwise arms = inner.armFor subject otherwise arms >>= inner.chosenBlock := by
  induction arms generalizing otherwise with
  | nil => cases otherwise <;> simp [Inner.arms, armFor, chosenBlock]
  | cons operand rest ih =>
    cases operand with
    | node arm =>
      unfold Inner.arms
      split
      next op =>
        simp only [armFor, op, bind_assoc]
        congr 1
        funext value
        split <;> simp [chosenBlock, ih]
      next op => simpa only [armFor, op] using ih (some arm)
      next => simp [armFor, ih]
    | nil | int | float | text | var | block => simp [Inner.arms, armFor, ih]

theorem perform_chosen (chooses : inst.op = .conditional ∨ inst.op = .switch) (fuel : Nat) :
    inner.perform fuel inst = inner.chosen inst >>= inner.chosenBlock := by
  rcases chooses with op | op
  next =>
    simp only [perform, chosen, op, bind_assoc]
    congr 1
    funext goes
    cases goes <;> simp [chosenBlock]
  next => simp [perform, chosen, op, switch, arms_eq]

end Inner

section Relay

variable {fuel : Nat} {inst : Instruction} {m mid m' : Machine} {flow : Flow}

theorem blockFrom_settles {body : Block} (last : Value) (settled : body = [] → m.pendingWait = none)
    (ran : (interpreter fuel).blockFrom last body m = .done flow m') : m'.pendingWait = none := by
  induction body generalizing m last with
  | nil =>
    cases ran
    exact settled rfl
  | cons inst rest ih =>
    unfold Inner.blockFrom at ran
    split at ran
    next value mid executed => exact ih value (fun _ => exec_settles (congrArg Outcome.left? executed)) ran
    next first mid _ executed =>
      cases ran
      exact exec_settles (congrArg Outcome.left? executed)
    next fault mid executed =>
      split at ran
      · cases ran
      · have after : mid.pendingWait = none := exec_settles (congrArg Outcome.left? executed)
        exact ih (m := mid.report .error fault.display) last (fun _ => after) ran
    next => cases ran

theorem exec_of_settled (performed : (interpreter fuel).perform fuel inst m = .done flow m')
    (settled : m'.pendingWait = none) : exec (fuel + 1) inst m = .done flow m' := by
  have same : { m' with pendingWait := none } = m' := by rw [← settled]
  rw [exec_of_performed performed, settled, same]
  rfl

theorem exec_chosen (chooses : inst.op = .conditional ∨ inst.op = .switch) {body : Block}
    (choice : (interpreter fuel).chosen inst m = .done (some body) mid) (ran : execBlock fuel body mid = .done flow m')
    (settled : body = [] → mid.pendingWait = none) : exec (fuel + 1) inst m = .done flow m' := by
  apply exec_of_settled
  next =>
    rw [Inner.perform_chosen chooses]
    simp only [bind, Run.bind, choice]
    exact ran
  next => exact blockFrom_settles .nil settled ran

end Relay

theorem Signal.loopExit_raised {flow : Flow} :
    Signal.loopExit.raised flow = false ↔ flow ≠ .breakLoop ∧ flow ≠ .continueLoop := by
  cases flow <;> simp [Signal.raised]

theorem Signal.roundExit_raised {flow : Flow} : Signal.roundExit.raised flow = false ↔ flow ≠ .continueLoop := by
  cases flow <;> simp [Signal.raised]

theorem Signal.functionExit_raised {flow : Flow} :
    Signal.functionExit.raised flow = false ↔ ∀ value, flow ≠ .returned value := by
  cases flow <;> simp [Signal.raised]

theorem Flow.settled_iff {flow : Flow} :
    flow.Settled ↔ flow ≠ .breakLoop ∧ flow ≠ .continueLoop ∧ ∀ value, flow ≠ .returned value := by
  rw [← and_assoc, ← Signal.loopExit_raised, ← Signal.functionExit_raised]
  constructor
  · exact fun settled => ⟨settled .loopExit, settled .functionExit⟩
  · rintro ⟨loops, functions⟩ (_ | _ | _)
    · exact loops
    · exact Signal.roundExit_raised.mpr (Signal.loopExit_raised.mp loops).2
    · exact functions

/-- Loops take what their bodies raise for them and calls take what functions raise; conditionals and switches hand on
how the chosen block ends. As statements they still owe a wait that the choice itself asked for, if the block is
empty. -/
theorem signals_stay_inside (fuel : Nat) :
    (∀ body, blockKeeps .loopExit body = true →
      (execBlock fuel body).Yields fun flow => flow ≠ .breakLoop ∧ flow ≠ .continueLoop) ∧
    (∀ body, blockKeeps .functionExit body = true →
      (execBlock fuel body).Yields fun flow => ∀ value, flow ≠ .returned value) ∧
    (∀ name args, (callNamed fuel name args).Yields
      fun flow => flow ≠ .breakLoop ∧ flow ≠ .continueLoop ∧ ∀ value, flow ≠ .returned value) ∧
    (∀ f args, ((interpreter fuel).callFunction f args).Yields
      fun flow => flow ≠ .breakLoop ∧ flow ≠ .continueLoop ∧ ∀ value, flow ≠ .returned value) ∧
    ∀ inst, inst.op = .conditional ∨ inst.op = .switch →
      (interpreter fuel).perform fuel inst = (interpreter fuel).chosen inst >>= (interpreter fuel).chosenBlock ∧
      ∀ m body mid flow m', (interpreter fuel).chosen inst m = .done (some body) mid →
        execBlock fuel body mid = .done flow m' → (body = [] → mid.pendingWait = none) →
        exec (fuel + 1) inst m = .done flow m' := by
  have settled (flow : Flow) (quiet : flow.Settled) := Flow.settled_iff.mp quiet
  refine ⟨?_, ?_, ?_, ?_, ?_⟩
  next =>
    intro body kept
    exact (execBlock_keeps kept fuel).mono fun flow => Signal.loopExit_raised.mp
  next =>
    intro body kept
    exact (execBlock_keeps kept fuel).mono fun flow => Signal.functionExit_raised.mp
  next => exact fun name args => (Inner.callNamed_yields name args).mono settled
  next => exact fun f args => (Inner.callFunction_yields f args).mono settled
  next =>
    intro inst chooses
    exact ⟨Inner.perform_chosen chooses fuel, fun m body mid flow m' => exec_chosen chooses⟩

def strayBreaks : Program where
  instructions := [
    .mk .whileLoop [.int 1, .block [
      .mk .switch [.int 2, .node (.mk .case [.int 2, .block [.mk .breakLoop [] none]] none)] none]] none,
    .mk .onEvent [.text "LBDOWN", .block [.mk .breakLoop [] none]] none,
    .mk .call [.text "stray"] none]
  functions := [("stray", { name := "stray", body := [.mk .breakLoop [] none] })]

theorem stray_breaks_stay_inside : ∃ m flow m',
    Machine.create strayBreaks { headless := true } (.silent {}) {} 0 = .ok m ∧
    blockKeeps .loopExit strayBreaks.instructions = true ∧ blockKeeps .functionExit strayBreaks.instructions = true ∧
    execBlock 6 strayBreaks.instructions m = .done flow m' ∧
    (flow ≠ .breakLoop ∧ flow ≠ .continueLoop) ∧ (∀ value, flow ≠ .returned value) ∧
    exec 2 (.mk .conditional [.int 1, .block [.mk .breakLoop [] none]] none) m = .done .breakLoop m := by
  have trace : ((Machine.create strayBreaks { headless := true } (.silent {}) {} 0).toOption.bind fun m =>
      (execBlock 6 strayBreaks.instructions m).result?.map fun _ => m.pendingWait) = some none := by
    decide +kernel
  have loops : blockKeeps .loopExit strayBreaks.instructions = true := by decide +kernel
  have functions : blockKeeps .functionExit strayBreaks.instructions = true := by decide +kernel
  cases created : Machine.create strayBreaks { headless := true } (.silent {}) {} 0 with
  | error =>
    rw [created] at trace
    cases trace
  | ok m =>
    rw [created] at trace
    obtain ⟨_, made, trace⟩ := Option.bind_eq_some_iff.mp trace
    cases made
    obtain ⟨⟨flow, m'⟩, result, settled⟩ := Option.map_eq_some_iff.mp trace
    have ran := Outcome.done_of_result result
    obtain ⟨outOfLoops, outOfFunctions, -⟩ := signals_stay_inside 6
    obtain ⟨-, -, -, -, relays⟩ := signals_stay_inside 1
    have broken : exec 1 (.mk .breakLoop [] none) m = .done .breakLoop m := exec_of_settled rfl settled
    have block : execBlock 1 [.mk .breakLoop [] none] m = .done .breakLoop m := by
      simp only [execBlock, Inner.block, Inner.blockFrom, interpreter, broken]
    have relayed := (relays (.mk .conditional [.int 1, .block [.mk .breakLoop [] none]] none) (.inl rfl)).2 m _ m
      .breakLoop m rfl block fun empty => absurd empty (List.cons_ne_nil _ _)
    exact ⟨m, flow, m', rfl, loops, functions, ran, (outOfLoops _ loops).holds ran,
      (outOfFunctions _ functions).holds ran, relayed⟩

end CueScript
