import CueScript.Machine.Interpreter
import CueScript.Proofs.Machine.Builtins

/-!
The interpreter on joined machines. Every construct of the language is a function of how to execute the instructions
and how to evaluate the operands inside of it, so each one takes runs that agree to runs that agree; what is inside may
differ, as long as it is paired. By induction on the fuel, machines that a simulation joins end alike when they execute
the same instruction, and more fuel on the right does no harm.
-/

set_option autoImplicit false

namespace CueScript

open Run

variable {E : Excuse} {v : Vocabulary} {P : Instruction → Prop} {Q : Operand → Operand → Prop}
  {F : FunctionDef → Prop} {S : Machine → Machine → Prop} {W : Int64 → Prop}

structure Inner.Agree (E : Excuse) (v : Vocabulary) (P : Instruction → Prop) (Q : Operand → Operand → Prop)
    (S : Machine → Machine → Prop) (W : Int64 → Prop) (left right : Inner) : Prop where
  pairing : Pairing v P Q
  exec {inst : Instruction} : P inst → Agrees E S (Flow.Owes W) (left.exec inst) (right.exec inst)
  eval {a a' : Operand} : Q a a' → Parallel E S (left.eval a) (right.eval a')

def Inner.CallAlike (E : Excuse) (F : FunctionDef → Prop) (S : Machine → Machine → Prop) (W : Int64 → Prop)
    (left right : Inner) : Prop :=
  ∀ f args, F f → Agrees E S (Flow.Owes W) (left.callFunction f args) (right.callFunction f args)

namespace Inner

variable {inner : Inner} {f : FunctionDef} {name : String} {args : List Value} {m : Machine}

theorem applyFunction_full (full : m.Full) : inner.applyFunction f args m =
    .failed { kind := .stackOverflow, message := s!"calling `{f.name}` would exceed {m.settings.stackLimit} frames" } m := by
  have limit : m.settings.stackLimit ≤ m.frames.length := full
  change (if m.settings.stackLimit ≤ m.frames.length then Run.fail _ else _ : Run Flow) m = _
  rw [if_pos limit]
  rfl

theorem applyFunction_free (free : ¬ m.Full) : inner.applyFunction f args m =
    (do callResult f (← inner.inFrame (← inner.bindParams {} f.params args) f.body)) m := by
  have limit : ¬ m.settings.stackLimit ≤ m.frames.length := free
  change (if m.settings.stackLimit ≤ m.frames.length then _ else _ : Run Flow) m = _
  rw [if_neg limit]

theorem callNamed_builtin {b : Builtin} (builtin : m.builtin? name = some b) : inner.callNamed name args m =
    (do match ← b.call args with
        | .value v => pure (.normal v)
        | .wait units => Run.read (·.waitFlow units) : Run Flow) m := by
  cases called : b.call args m with
  | done reply m' => cases reply <;> simp only [Inner.callNamed, bind, Run.bind, Run.read, builtin, called]
  | failed | exhausted => simp only [Inner.callNamed, bind, Run.bind, Run.read, builtin, called]

theorem callNamed_function (builtin : m.builtin? name = none) (found : m.functions.find? (Text.lower name) = some f) :
    inner.callNamed name args m = inner.callFunction f args m := by
  simp only [Inner.callNamed, bind, Run.bind, Run.read, builtin, found]

theorem callNamed_undefined (builtin : m.builtin? name = none) (missing : m.functions.find? (Text.lower name) = none) :
    inner.callNamed name args m = .failed (Fault.undefinedFunction name) m := by
  simp only [Inner.callNamed, bind, Run.bind, Run.read, builtin, missing, Run.fail]

end Inner

namespace Inner.Agree

variable {left right : Inner} {inst inst' : Instruction} {body : Block}

section Operands

theorem name (inner : Agree E v P Q S W left right) (pair : inst.Paired v Q inst') (k : Nat) :
    Agrees E S (fun name => v.mention name = true) (Inner.name inst k) (Inner.name inst' k) := by
  unfold Inner.name
  rw [inner.pairing.names pair k, pair.op]
  split
  next name named => exact agrees_pure (inner.pairing.mentions pair named)
  next => exact agrees_fail _

theorem callee (inner : Agree E v P Q S W left right) (pair : inst.Paired v Q inst') (calls : inst.op = .call) :
    Agrees E S (fun name => v.callee name = true) (Inner.name inst 0) (Inner.name inst' 0) := by
  unfold Inner.name
  rw [inner.pairing.names pair 0, pair.op]
  split
  next name named => exact agrees_pure (pair.called calls named)
  next => exact agrees_fail _

theorem blockArg (inner : Agree E v P Q S W left right) (pair : inst.Paired v Q inst') (k : Nat) :
    Agrees E S (fun body => ∀ inst ∈ body, P inst) (Inner.blockArg inst k) (Inner.blockArg inst' k) := by
  unfold Inner.blockArg
  rw [inner.pairing.blocks pair k, pair.op]
  split
  next body held => exact agrees_pure (inner.pairing.bodies pair held)
  next => exact agrees_fail _

theorem optionalBlock (inner : Agree E v P Q S W left right) (pair : inst.Paired v Q inst') (k : Nat) :
    Inner.optionalBlock inst' k = Inner.optionalBlock inst k ∧ ∀ part ∈ Inner.optionalBlock inst k, P part := by
  unfold Inner.optionalBlock
  rw [inner.pairing.blocks pair k]
  refine ⟨rfl, ?_⟩
  cases held : (inst.arg? k).bind Operand.block? with
  | none => exact nofun
  | some body => exact inner.pairing.bodies pair held

theorem arg (inner : Agree E v P Q S W left right) (pair : inst.Paired v Q inst') (k : Nat) :
    Parallel E S (left.arg inst k) (right.arg inst' k) := by
  have same := pair.arg k
  unfold Inner.arg
  rw [pair.op]
  generalize inst.arg? k = a, inst'.arg? k = a' at same
  cases same with
  | some paired => exact inner.eval paired
  | none => exact agrees_fail _

theorem argOr (inner : Agree E v P Q S W left right) (pair : inst.Paired v Q inst') (default : Value) (k : Nat) :
    Parallel E S (left.argOr default inst k) (right.argOr default inst' k) := by
  have same := pair.arg k
  unfold Inner.argOr
  generalize inst.arg? k = a, inst'.arg? k = a' at same
  cases same with
  | some paired => exact inner.eval paired
  | none => exact agrees_pure trivial

theorem truthy (acts : Actions E v P F S W) (value : Value) :
    Parallel E S (read fun m => value.truthy m.store) (read fun m => value.truthy m.store) :=
  acts.reading fun _ _ alike => by rw [alike.store]

theorem truth (acts : Actions E v P F S W) (inner : Agree E v P Q S W left right) (pair : inst.Paired v Q inst')
    (k : Nat) : Parallel E S (left.truth inst k) (right.truth inst' k) :=
  (inner.arg pair k).bind fun value _ => truthy acts value

theorem evalAll (inner : Agree E v P Q S W left right) {as bs : List Operand} (each : List.Forall₂ Q as bs) :
    Parallel E S (left.evalAll as) (right.evalAll bs) := by
  induction each with
  | nil => exact agrees_pure trivial
  | cons first _ ih =>
    refine (inner.eval first).bind fun value _ => ?_
    exact ih.bind fun values _ => agrees_pure trivial

end Operands

section Variables

theorem assign (acts : Actions E v P F S W) (inner : Agree E v P Q S W left right) (pair : inst.Paired v Q inst') :
    Parallel E S (left.assign inst) (right.assign inst') := by
  refine (inner.name pair 0).bind fun name mention => ?_
  refine (inner.arg pair 1).bind fun value _ => ?_
  refine (parallel_modify ?_).bind fun _ _ => agrees_pure trivial
  exact fun m₁ m₂ joined => acts.assign value mention joined

theorem declare (acts : Actions E v P F S W) (inner : Agree E v P Q S W left right) (pair : inst.Paired v Q inst') :
    Parallel E S (left.declare inst) (right.declare inst') := by
  refine (inner.name pair 0).bind fun name mention => ?_
  refine (inner.argOr pair _ 1).bind fun value _ => ?_
  refine (parallel_modify ?_).bind fun _ _ => agrees_pure trivial
  exact fun m₁ m₂ joined => acts.declare value mention joined

theorem lookup (acts : Actions E v P F S W) {name : String} (mention : v.mention name = true) :
    Parallel E S (read (·.lookup name)) (read (·.lookup name)) :=
  agrees_read (fun _ _ joined => acts.lookup mention joined) fun _ _ _ => trivial

theorem cells (acts : Actions E v P F S W) (id : ArrayId) :
    Parallel E S (read (·.store.cells id)) (read (·.store.cells id)) :=
  acts.reading fun _ _ alike => by rw [alike.store]

theorem arrayRead (acts : Actions E v P F S W) (inner : Agree E v P Q S W left right) (pair : inst.Paired v Q inst') :
    Parallel E S (left.arrayRead inst) (right.arrayRead inst') := by
  refine (inner.name pair 0).bind fun name mention => ?_
  refine (inner.arg pair 1).bind fun index _ => ?_
  refine (lookup acts mention).bind fun found _ => ?_
  split
  next id =>
    refine (cells acts id).bind fun cells _ => ?_
    split
    next => exact agrees_pure trivial
    next => exact (acts.warning _).bind fun _ _ => agrees_pure trivial
  next => exact (acts.warning _).bind fun _ _ => agrees_pure trivial

theorem arrayFor (acts : Actions E v P F S W) {name : String} (mention : v.mention name = true) :
    Parallel E S (Inner.arrayFor name) (Inner.arrayFor name) := by
  intro m₁ m₂ joined
  unfold Inner.arrayFor Run.step
  dsimp only
  rw [acts.lookup mention joined]
  split
  next id => exact .done trivial joined
  next =>
    -- Joined machines give out the same place for the new array.
    rw [(acts.alike joined).store]
    exact .done trivial (acts.assign _ mention (acts.putStore _ joined))

theorem arrayAssign (acts : Actions E v P F S W) (inner : Agree E v P Q S W left right) (pair : inst.Paired v Q inst') :
    Parallel E S (left.arrayAssign inst) (right.arrayAssign inst') := by
  refine (inner.name pair 0).bind fun name mention => ?_
  refine (inner.arg pair 1).bind fun index _ => ?_
  refine (inner.arg pair 2).bind fun value _ => ?_
  refine (arrayFor acts mention).bind fun id _ => ?_
  refine (acts.reading fun _ _ alike => alike.grants).bind fun grants _ => ?_
  refine (cells acts id).bind fun cells _ => ?_
  split
  next => exact (acts.putCells id _).bind fun _ _ => agrees_pure trivial
  next => exact (acts.warning _).bind fun _ _ => agrees_pure trivial
  next => exact agrees_fail _

end Variables

section Blocks

theorem blockFrom (acts : Actions E v P F S W) (inner : Agree E v P Q S W left right) (last : Value)
    (admitted : ∀ inst ∈ body, P inst) :
    Agrees E S (Flow.Owes W) (left.blockFrom last body) (right.blockFrom last body) := by
  induction body generalizing last with
  | nil => exact agrees_pure trivial
  | cons inst rest ih =>
    have others (part : Instruction) (member : part ∈ rest) : P part := admitted part (List.mem_cons_of_mem _ member)
    intro m₁ m₂ joined
    simp only [Inner.blockFrom]
    have ends := inner.exec (admitted inst List.mem_cons_self) m₁ m₂ joined
    generalize left.exec inst m₁ = leftEnd, right.exec inst m₂ = rightEnd at ends ⊢
    cases ends with
    | @done flow _ _ holds joined =>
      cases flow with
      | normal value => exact ih value others _ _ joined
      | breakLoop | continueLoop | returned _ | wait _ => exact .done holds joined
    | failed joined =>
      dsimp only
      split
      · exact .failed joined
      · exact ih last others _ _ (acts.report _ _ joined)
    | exhausted excused => exact .exhausted excused _
    | @abandoned fault _ excused =>
      -- What is excused is fatal, so the block on the left ends here.
      have fatal : fault.isFatal = true := E.fatal fault.kind excused
      simp only [fatal, if_true]
      exact .abandoned excused _

theorem block (acts : Actions E v P F S W) (inner : Agree E v P Q S W left right) (admitted : ∀ inst ∈ body, P inst) :
    Agrees E S (Flow.Owes W) (left.block body) (right.block body) :=
  blockFrom acts inner .nil admitted

end Blocks

section Calls

theorem bindParams (inner : Agree E v P Q S W left right) {params : List Param}
    (admitted : ∀ p ∈ params, ∀ operand, p.default = some operand → Q operand operand) (frame : Bindings)
    (args : List Value) : Parallel E S (left.bindParams frame params args) (right.bindParams frame params args) := by
  induction params generalizing frame args with
  | nil => cases args <;> exact agrees_pure trivial
  | cons p rest ih =>
    have others := ih fun p member => admitted p (List.mem_cons_of_mem _ member)
    cases args with
    | cons value args => exact others _ _
    | nil =>
      unfold Inner.bindParams
      cases fallback : p.default with
      | none => exact others _ _
      | some operand =>
        have first := admitted p List.mem_cons_self operand fallback
        exact (inner.eval first).bind fun value _ => others _ _

theorem callResult (acts : Actions E v P F S W) (f : FunctionDef) {flow : Flow} (owes : flow.Owes W) :
    Agrees E S (Flow.Owes W) (Inner.callResult f flow) (Inner.callResult f flow) := by
  cases flow with
  | normal value | returned value => exact agrees_pure trivial
  | wait events => exact agrees_pure owes
  | breakLoop | continueLoop => exact (acts.warning _).bind fun _ _ => agrees_pure trivial

theorem inFrame {S' : Machine → Machine → Prop} {W' : Int64 → Prop} (frame : Bindings) {m₁ m₂ : Machine}
    (inside : Agrees E S' (Flow.Owes W') (left.block body) (right.block body))
    (entered : S' (m₁.enterCall frame) (m₂.enterCall frame)) (waits : ∀ n, W' n → W n)
    (leaves : ∀ n₁ n₂, S' n₁ n₂ → S n₁.leaveCall n₂.leaveCall) :
    (left.inFrame frame body m₁).Agrees E S (Flow.Owes W) (right.inFrame frame body m₂) := by
  have ends := inside (m₁.enterCall frame) (m₂.enterCall frame) entered
  change Outcome.Agrees _ _ _ ((left.block body).afterwards Machine.leaveCall (m₁.enterCall frame))
    ((right.block body).afterwards Machine.leaveCall (m₂.enterCall frame))
  unfold Run.afterwards
  generalize left.block body (m₁.enterCall frame) = leftEnd, right.block body (m₂.enterCall frame) = rightEnd at ends ⊢
  cases ends with
  | @done flow _ _ holds joined =>
    have owes : flow.Owes W := by
      cases flow with
      | wait events => exact waits events holds
      | normal _ | breakLoop | continueLoop | returned _ => trivial
    exact .done owes (leaves _ _ joined)
  | failed joined => exact .failed (leaves _ _ joined)
  | exhausted excused => exact .exhausted excused _
  | abandoned excused => exact .abandoned excused _

theorem applyFunction (acts : Actions E v P F S W) {f : FunctionDef} {args : List Value}
    (room : ∀ m₁ m₂, S m₁ m₂ → m₁.Room E m₂)
    (inside : ∀ m₁ m₂, S m₁ m₂ → ¬ m₁.Full →
      Parallel E S (left.bindParams {} f.params args) (right.bindParams {} f.params args) ∧
        ∀ frame, Agrees E S (Flow.Owes W) (left.inFrame frame f.body) (right.inFrame frame f.body)) :
    Agrees E S (Flow.Owes W) (left.applyFunction f args) (right.applyFunction f args) := by
  intro m₁ m₂ joined
  cases room m₁ m₂ joined with
  | both free₁ free₂ =>
    obtain ⟨params, framed⟩ := inside m₁ m₂ joined free₁
    rw [applyFunction_free free₁, applyFunction_free free₂]
    have called := params.bind fun frame _ => (framed frame).bind fun flow owes => callResult acts f owes
    exact called m₁ m₂ joined
  | neither full₁ full₂ same =>
    rw [applyFunction_full full₁, applyFunction_full full₂, same]
    exact .failed joined
  | excused full₁ excused =>
    rw [applyFunction_full full₁]
    exact .abandoned excused _

theorem callFunction (acts : Actions E v P F S W)
    (noted : ∀ call : CallRecord, call.posted? = none → ∀ m₁ m₂, S m₁ m₂ → S (m₁.note call) (m₂.note call))
    {f : FunctionDef} {args : List Value} (room : ∀ m₁ m₂, S m₁ m₂ → m₁.Room E m₂)
    (inside : ∀ m₁ m₂, S m₁ m₂ → ¬ m₁.Full →
      Parallel E S (left.bindParams {} f.params args) (right.bindParams {} f.params args) ∧
        ∀ frame, Agrees E S (Flow.Owes W) (left.inFrame frame f.body) (right.inFrame frame f.body)) :
    Agrees E S (Flow.Owes W) (left.callFunction f args) (right.callFunction f args) :=
  (applyFunction acts room inside).traced (noted (.entered f.name) rfl) (noted .left rfl)

theorem waitFlow (acts : Actions E v P F S W) (allowed : v.opcode .wait = true) (units : Int64) :
    Agrees E S (Flow.Owes W) (read (·.waitFlow units)) (read (·.waitFlow units)) := by
  unfold Machine.waitFlow
  by_cases positive : 0 < units
  · have some : ¬ units ≤ 0 := Int64.not_le.mpr positive
    simp only [some, if_false]
    refine agrees_read (fun _ _ joined => ?_) fun _ _ joined => (acts.wait allowed positive joined).2
    rw [(acts.wait allowed positive joined).1]
  · have none : units ≤ 0 := Int64.not_lt.mp positive
    simp only [none, if_true]
    exact agrees_read (fun _ _ _ => rfl) fun _ _ _ => trivial

theorem callNamed (acts : Actions E v P F S W) (calls : CallAlike E F S W left right) {name : String}
    (allowed : v.callee name = true) (args : List Value) :
    Agrees E S (Flow.Owes W) (left.callNamed name args) (right.callNamed name args) := by
  intro m₁ m₂ joined
  have same := acts.builtin allowed joined
  cases builtin : m₁.builtin? name with
  | some b =>
    rw [builtin] at same
    rw [callNamed_builtin builtin, callNamed_builtin same.symm]
    have replies := acts.reply b args fun steers => acts.steers allowed joined builtin steers args
    refine replies.bind (fun reply source => ?_) m₁ m₂ joined
    cases reply with
    | value value => exact agrees_pure trivial
    | wait units => exact waitFlow acts (acts.waits allowed joined builtin (source units rfl)) units
  | none =>
    rw [builtin] at same
    cases found : m₁.functions.find? (Text.lower name) with
    | some f =>
      obtain ⟨known, other⟩ := acts.function allowed joined builtin found
      rw [callNamed_function builtin found, callNamed_function same.symm other]
      exact calls f args known m₁ m₂ joined
    | none =>
      rw [callNamed_undefined builtin found]
      rcases acts.undefined allowed joined found with excused | other
      · exact .abandoned excused _
      · rw [callNamed_undefined same.symm other]
        exact .failed joined

theorem call (acts : Actions E v P F S W) (inner : Agree E v P Q S W left right) (calls : CallAlike E F S W left right)
    (pair : inst.Paired v Q inst') (opcode : inst.op = .call) :
    Agrees E S (Flow.Owes W) (left.call inst) (right.call inst') := by
  refine (inner.callee pair opcode).bind fun name allowed => ?_
  exact (inner.evalAll (List.forall₂_drop 1 pair.args)).bind fun args _ => callNamed acts calls allowed args

theorem callValue (acts : Actions E v P F S W)
    (called : Agrees E S (Flow.Owes W) (left.call inst) (right.call inst')) :
    Parallel E S (left.callValue inst) (right.callValue inst') := by
  refine called.bind fun flow owes => ?_
  cases flow with
  | normal _ | returned _ | breakLoop | continueLoop => exact agrees_pure trivial
  | wait events =>
    refine (parallel_modify ?_).bind fun _ _ => agrees_pure trivial
    exact fun m₁ m₂ joined => acts.pend owes joined

end Calls

section Expressions

theorem binary (acts : Actions E v P F S W) (inner : Agree E v P Q S W left right) (pair : inst.Paired v Q inst')
    (op : BinaryOp) : Parallel E S (left.binary inst op) (right.binary inst' op) := by
  have first : Parallel E S (left.truth inst 0) (right.truth inst' 0) := truth acts inner pair 0
  have second : Parallel E S (left.truth inst 1) (right.truth inst' 1) := truth acts inner pair 1
  unfold Inner.binary
  split
  next =>
    refine first.bind fun holds _ => ?_
    cases holds with
    | true => exact second.map _
    | false => exact agrees_pure trivial
  next =>
    refine first.bind fun holds _ => ?_
    cases holds with
    | true => exact agrees_pure trivial
    | false => exact second.map _
  next =>
    refine (inner.arg pair 0).bind fun a _ => ?_
    refine (inner.arg pair 1).bind fun b _ => ?_
    refine (parallel_option_forM acts.warning _).bind fun _ _ => ?_
    exact acts.reading fun _ _ alike => by rw [alike.store]

theorem unary (acts : Actions E v P F S W) (inner : Agree E v P Q S W left right) (pair : inst.Paired v Q inst')
    (op : UnaryOp) : Parallel E S (left.unary inst op) (right.unary inst' op) :=
  (inner.arg pair 0).bind fun _ _ => acts.reading fun _ _ alike => by rw [alike.store]

theorem node (acts : Actions E v P F S W) (inner : Agree E v P Q S W left right) (calls : CallAlike E F S W left right)
    (pair : inst.Paired v Q inst') : Parallel E S (left.node inst) (right.node inst') := by
  unfold Inner.node
  rw [pair.op]
  split
  next op _ => exact binary acts inner pair op
  next op _ => exact unary acts inner pair op
  next => exact arrayRead acts inner pair
  next opcode => exact callValue acts (call acts inner calls pair opcode)
  next => exact assign acts inner pair
  next => exact declare acts inner pair
  next => exact arrayAssign acts inner pair
  next => exact agrees_fail _

theorem nodeOperand (acts : Actions E v P F S W) (inner : Agree E v P Q S W left right)
    (calls : CallAlike E F S W left right) (pair : inst.Paired v Q inst') :
    Parallel E S (left.operand (.node inst)) (right.operand (.node inst')) :=
  (node acts inner calls pair).locate pair.line fun _ _ joined => (acts.alike joined).file

theorem operand (acts : Actions E v P F S W) (inner : Agree E v P Q S W left right)
    (calls : CallAlike E F S W left right) {operand : Operand}
    (mention : ∀ name, operand.name? = some name → v.mention name = true)
    (parts : ∀ inst, operand = .node inst → inst.Paired v Q inst) :
    Parallel E S (left.operand operand) (right.operand operand) := by
  cases operand with
  | nil | int _ | float _ | text _ => exact agrees_pure trivial
  | var name =>
    refine agrees_read (fun m₁ m₂ joined => ?_) fun _ _ _ => trivial
    rw [acts.lookup (mention name rfl) joined]
  | node inst => exact nodeOperand acts inner calls (parts inst rfl)
  | block body => exact agrees_fail _

end Expressions

section Loops

variable {fuel fuel' : Nat}

theorem rounds {round round' : Run (Option Flow)} (excused : E.exhausted)
    (agree : Agrees E S (fun ending => ∀ flow, ending = some flow → flow.Owes W) round round')
    (enough : fuel ≤ fuel') : Agrees E S (Flow.Owes W) (Inner.rounds round fuel) (Inner.rounds round' fuel') := by
  induction fuel generalizing fuel' with
  | zero => exact agrees_exhausted excused _
  | succ fuel ih =>
    obtain ⟨more, rfl⟩ : ∃ more, fuel' = more + 1 := ⟨fuel' - 1, by omega⟩
    intro m₁ m₂ joined
    simp only [Inner.rounds]
    have ends := agree m₁ m₂ joined
    generalize round m₁ = leftEnd, round' m₂ = rightEnd at ends ⊢
    cases ends with
    | @done ending _ _ holds joined =>
      cases ending with
      | none => exact ih (by omega) _ _ joined
      | some flow => exact .done (holds flow rfl) joined
    | failed joined => exact .failed joined
    | exhausted excused => exact .exhausted excused _
    | abandoned excused => exact .abandoned excused _

theorem loopEnd {flow : Flow} (owes : flow.Owes W) : ∀ ending, Inner.loopEnd flow = some ending → ending.Owes W := by
  intro ending found
  cases flow with
  | normal _ | continueLoop => simp [Inner.loopEnd] at found
  | breakLoop =>
    simp only [Inner.loopEnd, Option.some.injEq] at found
    rw [← found]
    trivial
  | returned _ | wait _ =>
    simp only [Inner.loopEnd, Option.some.injEq] at found
    rw [← found]
    exact owes

theorem whileRound (acts : Actions E v P F S W) (inner : Agree E v P Q S W left right) (pair : inst.Paired v Q inst')
    (admitted : ∀ inst ∈ body, P inst) :
    Agrees E S (fun ending => ∀ flow, ending = some flow → flow.Owes W) (left.whileRound inst body)
      (right.whileRound inst' body) := by
  refine (truth acts inner pair 0).bind fun holds _ => ?_
  cases holds with
  | true => exact ((block acts inner admitted).weaken fun flow owes => loopEnd owes).map _
  | false => exact agrees_pure fun flow same => by cases same; trivial

theorem doWhileRound (acts : Actions E v P F S W) (inner : Agree E v P Q S W left right) (pair : inst.Paired v Q inst')
    (admitted : ∀ inst ∈ body, P inst) :
    Agrees E S (fun ending => ∀ flow, ending = some flow → flow.Owes W) (left.doWhileRound inst body)
      (right.doWhileRound inst' body) := by
  refine (block acts inner admitted).bind fun flow owes => ?_
  split
  next ending found => exact agrees_pure fun flow same => by cases same; exact loopEnd owes ending found
  next =>
    refine (truth acts inner pair 1).bind fun holds _ => ?_
    cases holds with
    | true => exact agrees_pure fun flow same => by cases same
    | false => exact agrees_pure fun flow same => by cases same; trivial

theorem forCondition (acts : Actions E v P F S W) (inner : Agree E v P Q S W left right) (pair : inst.Paired v Q inst) :
    Parallel E S (left.forCondition inst) (right.forCondition inst) := by
  unfold Inner.forCondition
  split
  next => exact agrees_pure trivial
  next => exact agrees_pure trivial
  next condition _ found =>
    have paired := pair.own condition (List.mem_of_getElem? found)
    exact (inner.eval paired).bind fun value _ => truthy acts value

theorem forRound (acts : Actions E v P F S W) (inner : Agree E v P Q S W left right) (pair : inst.Paired v Q inst)
    {post : Block} (postAdmitted : ∀ inst ∈ post, P inst) (admitted : ∀ inst ∈ body, P inst) :
    Agrees E S (fun ending => ∀ flow, ending = some flow → flow.Owes W) (left.forRound inst post body)
      (right.forRound inst post body) := by
  refine (forCondition acts inner pair).bind fun holds _ => ?_
  cases holds with
  | false => exact agrees_pure fun flow same => by cases same; trivial
  | true =>
    refine (block acts inner admitted).bind fun flow owes => ?_
    split
    next ending found => exact agrees_pure fun flow same => by cases same; exact loopEnd owes ending found
    next =>
      refine (block acts inner postAdmitted).bind fun flow owes => ?_
      split
      next => exact agrees_pure fun flow same => by cases same
      next => exact agrees_pure fun flow same => by cases same; exact owes

theorem forLoop (acts : Actions E v P F S W) (inner : Agree E v P Q S W left right) (pair : inst.Paired v Q inst)
    (excused : E.exhausted) (enough : fuel ≤ fuel') :
    Agrees E S (Flow.Owes W) (left.forLoop fuel inst) (right.forLoop fuel' inst) := by
  refine (inner.blockArg pair 0).bind fun init initAdmitted => ?_
  refine (inner.blockArg pair 3).bind fun body admitted => ?_
  refine (block acts inner initAdmitted).bind fun flow owes => ?_
  split
  next => exact rounds excused (forRound acts inner pair (inner.optionalBlock pair 2).2 admitted) enough
  next => exact agrees_pure owes

end Loops

section Statements

theorem arms (acts : Actions E v P F S W) (inner : Agree E v P Q S W left right) (subject : Value)
    {otherwise : Option Instruction} (otherwisePaired : ∀ arm, otherwise = some arm → arm.Paired v Q arm)
    {operands : List Operand} (paired : ∀ operand ∈ operands, Q operand operand) :
    Agrees E S (Flow.Owes W) (left.arms subject otherwise operands) (right.arms subject otherwise operands) := by
  induction operands generalizing otherwise with
  | nil =>
    unfold Inner.arms
    cases otherwise with
    | none => exact agrees_pure trivial
    | some arm =>
      exact (inner.blockArg (otherwisePaired arm rfl) 0).bind fun body admitted => block acts inner admitted
  | cons operand rest ih =>
    have others (operand : Operand) (member : operand ∈ rest) := paired operand (List.mem_cons_of_mem _ member)
    have first := paired operand List.mem_cons_self
    cases operand with
    | node arm =>
      have armed := inner.pairing.arm first
      unfold Inner.arms
      split
      next opcode =>
        have pair := armed (by rw [opcode]; rfl)
        refine (inner.arg pair 0).bind fun value _ => ?_
        split
        next => exact (inner.blockArg pair 1).bind fun body admitted => block acts inner admitted
        next => exact ih otherwisePaired others
      next opcode =>
        have pair := armed (by rw [opcode]; rfl)
        exact ih (fun arm same => by cases same; exact pair) others
      next => exact (acts.warning _).bind fun _ _ => ih otherwisePaired others
    | nil | int _ | float _ | text _ | var _ | block _ =>
      exact (acts.warning _).bind fun _ _ => ih otherwisePaired others

theorem switch (acts : Actions E v P F S W) (inner : Agree E v P Q S W left right) (pair : inst.Paired v Q inst) :
    Agrees E S (Flow.Owes W) (left.switch inst) (right.switch inst) := by
  refine (inner.arg pair 0).bind fun subject _ => ?_
  refine arms acts inner subject (fun arm same => by cases same) fun operand member => ?_
  exact pair.own operand (List.mem_of_mem_drop member)

theorem eventKind (inst : Instruction) : Parallel E S (Inner.eventKind inst) (Inner.eventKind inst) := by
  have named : Parallel E S (Inner.name inst 0) (Inner.name inst 0) := by
    unfold Inner.name
    split
    next => exact agrees_pure trivial
    next => exact agrees_fail _
  unfold Inner.eventKind
  split
  next =>
    split
    next => exact agrees_pure trivial
    next => exact agrees_fail _
  next =>
    refine named.bind fun name _ => ?_
    split
    next => exact agrees_pure trivial
    next => exact agrees_fail _

theorem registered (acts : Actions E v P F S W) (allowed : v.opcode .onEvent = true) (kind : EventKind)
    (admitted : ∀ inst ∈ body, P inst) :
    Parallel E S (step (·.registerHandler kind body)) (step (·.registerHandler kind body)) :=
  agrees_step (fun _ _ joined => (acts.register kind allowed admitted joined).1)
    (fun _ _ joined => (acts.register kind allowed admitted joined).2) fun _ _ _ => trivial

theorem onEvent (acts : Actions E v P F S W) (inner : Agree E v P Q S W left right) (pair : inst.Paired v Q inst)
    (opcode : inst.op = .onEvent) : Parallel E S (Inner.onEvent inst) (Inner.onEvent inst) := by
  have allowed : v.opcode .onEvent = true := opcode ▸ pair.opcode
  refine (eventKind inst).bind fun kind _ => ?_
  refine (inner.blockArg pair 1).bind fun body admitted => ?_
  exact (registered acts allowed kind admitted).bind fun id _ => agrees_pure trivial

/-- What is left to later is not looked at, so it need not be paired. -/
theorem postponed (acts : Actions E v (fun _ => True) F S W) (allowed : v.opcode .onEvent = true)
    (postpones : inst.op.postpones = true) (inner : Inner) (fuel : Nat) :
    Agrees E S (Flow.Owes W) (inner.perform fuel inst) (inner.perform fuel inst) := by
  have held : Parallel E S (Inner.blockArg inst 1) (Inner.blockArg inst 1) := by
    unfold Inner.blockArg
    split
    next => exact agrees_pure trivial
    next => exact agrees_fail _
  unfold Inner.perform
  cases op : inst.op with
  | onEvent =>
    have added : Parallel E S (Inner.onEvent inst) (Inner.onEvent inst) :=
      (eventKind inst).bind fun kind _ => held.bind fun body _ =>
        (registered acts allowed kind fun _ _ => trivial).bind fun _ _ => agrees_pure trivial
    exact added.map _
  | defineFunction => exact agrees_pure trivial
  | _ => rw [op] at postpones; cases postpones

theorem perform (acts : Actions E v P F S W) (inner : Agree E v P Q S W left right)
    (calls : CallAlike E F S W left right) {fuel fuel' : Nat} (enough : fuel ≤ fuel') (pair : inst.Paired v Q inst') :
    Agrees E S (Flow.Owes W) (left.perform fuel inst) (right.perform fuel' inst') := by
  have normal {x y : Run Value} (agrees : Parallel E S x y) :
      Agrees E S (Flow.Owes W) (.normal <$> x) (.normal <$> y) := agrees.map _
  have allowed := pair.opcode
  have looping (loops : inst.op.loops = true) : E.exhausted := acts.loops loops allowed
  have inspected := pair.inspected
  unfold Inner.perform
  rw [pair.op]
  split
  next => exact normal (assign acts inner pair)
  next => exact normal (declare acts inner pair)
  next => exact normal (arrayAssign acts inner pair)
  next => exact normal (arrayRead acts inner pair)
  next opcode => exact call acts inner calls pair opcode
  next op _ => exact normal (binary acts inner pair op)
  next op _ => exact normal (unary acts inner pair op)
  next =>
    obtain ⟨same, admitted⟩ := inner.optionalBlock pair 2
    rw [same]
    refine (truth acts inner pair 0).bind fun holds _ => ?_
    cases holds with
    | true => exact (inner.blockArg pair 1).bind fun body bodyAdmitted => block acts inner bodyAdmitted
    | false => exact block acts inner admitted
  next opcode =>
    obtain rfl := inspected (by rw [opcode]; rfl)
    exact forLoop acts inner pair (looping (by rw [opcode]; rfl)) enough
  next opcode =>
    refine (inner.blockArg pair 1).bind fun body admitted => ?_
    exact rounds (looping (by rw [opcode]; rfl)) (whileRound acts inner pair admitted) enough
  next opcode =>
    refine (inner.blockArg pair 0).bind fun body admitted => ?_
    exact rounds (looping (by rw [opcode]; rfl)) (doWhileRound acts inner pair admitted) enough
  next opcode =>
    obtain rfl := inspected (by rw [opcode]; rfl)
    exact switch acts inner pair
  next => exact agrees_fail _
  next => exact agrees_fail _
  next => exact agrees_pure trivial
  next => exact agrees_pure trivial
  next => exact (inner.argOr pair _ 0).map _
  next opcode =>
    obtain rfl := inspected (by rw [opcode]; rfl)
    exact normal (onEvent acts inner pair opcode)
  next opcode =>
    rw [opcode] at allowed
    exact (inner.arg pair 0).bind fun units _ => waitFlow acts allowed units.toInt
  next opcode =>
    rw [opcode] at allowed
    refine (inner.argOr pair _ 0).bind fun perUnit _ => ?_
    refine (parallel_modify ?_).bind fun _ _ => agrees_pure trivial
    exact fun m₁ m₂ joined => acts.setStep perUnit.toInt allowed joined
  next => exact agrees_pure trivial

theorem withPending {flow : Flow} {pending : Option Int64} (owes : flow.Owes W) (owed : ∀ n, pending = some n → W n) :
    (Inner.withPending pending flow).Owes W := by
  cases pending with
  | none => cases flow <;> exact owes
  | some events =>
    have due := owed events rfl
    cases flow with
    | normal _ | breakLoop | continueLoop | returned _ => exact due
    | wait _ => exact owes

theorem settled (acts : Actions E v P F S W) (settles : Settles S W) {fuel fuel' : Nat}
    (performed : Agrees E S (Flow.Owes W) (left.perform fuel inst) (right.perform fuel' inst'))
    (line : inst'.line = inst.line) :
    Agrees E S (Flow.Owes W) (left.statement fuel inst) (right.statement fuel' inst') := by
  intro m₁ m₂ joined
  unfold Inner.statement
  have ends := performed.locate line (fun _ _ joined => (acts.alike joined).file) m₁ m₂ joined
  generalize (left.perform fuel inst).locate inst m₁ = leftEnd,
    (right.perform fuel' inst').locate inst' m₂ = rightEnd at ends ⊢
  cases ends with
  | done holds joined =>
    dsimp only
    rw [← settles.pending joined]
    exact .done (withPending holds fun n pending => settles.owed joined pending) (settles.settle joined)
  | failed joined => exact .failed (settles.settle joined)
  | exhausted excused => exact .exhausted excused _
  | abandoned excused => exact .abandoned excused _

theorem statement (acts : Actions E v P F S W) (settles : Settles S W) (inner : Agree E v P Q S W left right)
    (calls : CallAlike E F S W left right) {fuel fuel' : Nat} (enough : fuel ≤ fuel') (pair : inst.Paired v Q inst') :
    Agrees E S (Flow.Owes W) (left.statement fuel inst) (right.statement fuel' inst') :=
  settled acts settles (perform acts inner calls enough pair) pair.line

end Statements

end Inner.Agree

section Fuel

variable {fuel fuel' : Nat}

theorem Inner.Agree.exhausted (pairing : Pairing v P Q) (excused : E.exhausted) (right : Inner) :
    Inner.Agree E v P Q S W (interpreter 0) right where
  pairing := pairing
  exec {inst} _ := agrees_exhausted excused (right.exec inst)
  eval {_ operand} _ := agrees_exhausted excused (right.eval operand)

theorem Inner.Agree.deeper
    (agree : Inner.Agree E v (fun inst => inst.within v = true) (Operand.Itself v) S W (interpreter fuel)
      (interpreter fuel'))
    (acts : Actions E v (fun inst => inst.within v = true) F S W) (settles : Settles S W)
    (calls : Inner.CallAlike E F S W (interpreter fuel) (interpreter fuel')) (enough : fuel ≤ fuel') :
    Inner.Agree E v (fun inst => inst.within v = true) (Operand.Itself v) S W (interpreter (fuel + 1))
      (interpreter (fuel' + 1)) where
  pairing := pairing_of_within v
  exec {inst} within := Inner.Agree.statement acts settles agree calls enough (Instruction.paired_of_within within)
  eval {operand _} paired := by
    obtain ⟨rfl, within⟩ := paired
    refine Inner.Agree.operand acts agree calls (fun name => Operand.within_name within) ?_
    rintro inst rfl
    exact Instruction.paired_of_within (by simpa [Operand.within] using within)

end Fuel

section Families

variable {ι : Type} {S : ι → Machine → Machine → Prop} {W : ι → Int64 → Prop}

def Inner.Agreed (E : Excuse) (v : Vocabulary) (S : ι → Machine → Machine → Prop) (W : ι → Int64 → Prop)
    (left right : Inner) : Prop :=
  ∀ i, left.Agree E v (fun inst => inst.within v = true) (Operand.Itself v) (S i) (W i) right

theorem callAlike_of_agreed (sim : Simulation E v S W) {left right : Inner} (agreed : Inner.Agreed E v S W left right)
    (i : ι) : Inner.CallAlike E (fun f => f.within v = true) (S i) (W i) left right := by
  intro f args within
  obtain ⟨bodyWithin, paramsWithin⟩ : blockWithin v f.body = true ∧
      ∀ p ∈ f.params, p.default.all (·.within v) = true := by
    simpa [FunctionDef.within] using within
  refine Inner.Agree.callFunction (sim.acts i) (fun _ silent _ _ joined => sim.note silent joined)
    (fun m₁ m₂ joined => sim.room joined) fun _ _ _ _ => ⟨?_, fun frame => ?_⟩
  · refine (agreed i).bindParams (fun p member operand fallback => ⟨rfl, ?_⟩) _ args
    simpa [fallback] using paramsWithin p member
  · intro m₁ m₂ joined
    obtain ⟨j, entered, waits, leaves⟩ := sim.call frame joined
    have inside := Inner.Agree.block (sim.acts j) (agreed j) (mem_of_blockWithin bodyWithin)
    exact Inner.Agree.inFrame frame inside entered waits leaves

theorem interpreter_agree (sim : Simulation E v S W) {fuel fuel' : Nat} (enough : fuel ≤ fuel') :
    Inner.Agreed E v S W (interpreter fuel) (interpreter fuel') := by
  -- On the fuel of the left one: once that is exhausted, nothing is asked of the right one.
  induction fuel generalizing fuel' with
  | zero => exact fun i => Inner.Agree.exhausted (pairing_of_within v) sim.excused _
  | succ fuel ih =>
    intro i
    obtain ⟨more, rfl⟩ : ∃ more, fuel' = more + 1 := ⟨fuel' - 1, by omega⟩
    have fewer : fuel ≤ more := by omega
    have agreed := ih fewer
    exact (agreed i).deeper (sim.acts i) (sim.settles i) (callAlike_of_agreed sim agreed i) fewer

end Families

end CueScript
