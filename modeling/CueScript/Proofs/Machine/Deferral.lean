import CueScript.Builtin.Names
import CueScript.Proofs.Machine.Driving

/-!
Waits in expressions. A wait is pending until the end of a statement, but of whichever statement ends next: if that is
the one that the expression stands in, then the wait changes nothing but how it ends.
-/

set_option autoImplicit false

namespace CueScript

open Run

section Slots

structure Slot where
  op : Opcode
  before : List Operand := []
  after : List Operand := []
  line : Option UInt32 := none

def Slot.fill (slot : Slot) (a : Operand) : Instruction :=
  .mk slot.op (slot.before ++ a :: slot.after) slot.line

/-- Puts an operand at the end of a path of slots, the outermost first. -/
def plug (path : List Slot) (a : Operand) : Operand :=
  path.foldr (fun slot a => .node (slot.fill a)) a

/-- What executes no other statement: no function of a script is called. Operands are looked at only for what they name
and for their values, and the step stays the same. -/
def Vocabulary.inline (builtins : List (String × Builtin)) : Vocabulary where
  opcode op := !op.inspects && op != .setStep
  callee name := (builtins.lookup (Text.lower name)).isSome

mutual

def Instruction.flat (v : Vocabulary) : Instruction → Bool
  | .mk op args _ => v.opcode op && (op != .call || v.allowsCall args) && operandsFlat v args

def operandsFlat (v : Vocabulary) : List Operand → Bool
  | [] => true
  | arg :: rest => arg.flat v && operandsFlat v rest

def Operand.flat (v : Vocabulary) : Operand → Bool
  | .node inst => inst.flat v
  | .block body => body.isEmpty
  | _ => true

end

def Slot.clear (v : Vocabulary) (slot : Slot) : Bool :=
  (slot.op != .call || v.allowsCall slot.before) && operandsFlat v slot.before && operandsFlat v slot.after

def Slot.flat (v : Vocabulary) (slot : Slot) : Bool :=
  v.opcode slot.op && slot.clear v

end Slots

section Pairs

inductive Plugged (v : Vocabulary) (x y : Operand) : Operand → Operand → Prop
  | same {a : Operand} (flat : a.flat v = true) : Plugged v x y a a
  | plug (path : List Slot) (flat : ∀ slot ∈ path, slot.flat v = true) : Plugged v x y (plug path x) (plug path y)

structure Fillers (x y : Operand) : Prop where
  nameless : x.name? = none ∧ y.name? = none
  blockless : x.block? = none ∧ y.block? = none
  differ : x ≠ y

variable {builtins : List (String × Builtin)} {x y a a' : Operand} {path : List Slot} {slot : Slot}

theorem name_plug (nameless : x.name? = none) (path : List Slot) : (plug path x).name? = none := by
  cases path with
  | nil => exact nameless
  | cons slot path => rfl

theorem block_plug (blockless : x.block? = none) (path : List Slot) : (plug path x).block? = none := by
  cases path with
  | nil => exact blockless
  | cons slot path => rfl

theorem operandsFlat_iff {v : Vocabulary} {args : List Operand} :
    operandsFlat v args = true ↔ ∀ arg ∈ args, arg.flat v = true := by
  induction args with
  | nil => simp [operandsFlat]
  | cons arg rest ih => simp [operandsFlat, ih]

theorem paired_flat {v : Vocabulary} {inst : Instruction} (flat : inst.flat v = true) :
    inst.Paired v (Plugged v x y) inst := by
  cases inst with
  | mk op args line =>
    simp only [Instruction.flat, Bool.and_eq_true, Bool.or_eq_true, bne_iff_ne, ne_eq, ← Decidable.imp_iff_not_or,
      operandsFlat_iff] at flat
    obtain ⟨⟨opcode, callee⟩, each⟩ := flat
    exact ⟨rfl, rfl, opcode, callee, List.forall₂_same.mpr fun arg member => .same (each arg member), fun _ => rfl⟩

theorem Slot.clear_iff {v : Vocabulary} : slot.clear v = true ↔
    (slot.op = .call → v.allowsCall slot.before = true) ∧ (∀ arg ∈ slot.before, arg.flat v = true) ∧
      ∀ arg ∈ slot.after, arg.flat v = true := by
  simp only [Slot.clear, Bool.and_eq_true, Bool.or_eq_true, bne_iff_ne, ne_eq, ← Decidable.imp_iff_not_or,
    operandsFlat_iff, and_assoc]

theorem forall₂_fill {v : Vocabulary} (clear : slot.clear v = true) (inner : Plugged v x y a a') :
    List.Forall₂ (Plugged v x y) (slot.fill a).args (slot.fill a').args := by
  obtain ⟨_, before, after⟩ := Slot.clear_iff.mp clear
  refine List.rel_append (List.forall₂_same.mpr fun arg member => .same (before arg member)) (.cons inner ?_)
  exact List.forall₂_same.mpr fun arg member => .same (after arg member)

theorem paired_fill (fillers : Fillers x y) (flat : slot.flat (.inline builtins) = true)
    (others : ∀ slot ∈ path, slot.flat (.inline builtins) = true) :
    (slot.fill (plug path x)).Paired (.inline builtins) (Plugged (.inline builtins) x y) (slot.fill (plug path y)) := by
  obtain ⟨opcode, clear⟩ : (Vocabulary.inline builtins).opcode slot.op = true ∧
      slot.clear (.inline builtins) = true := by
    simpa [Slot.flat] using flat
  refine ⟨rfl, rfl, opcode, fun calls => ?_, forall₂_fill clear (.plug path others), fun inspects => ?_⟩
  · have allowed := (Slot.clear_iff.mp clear).1 calls
    cases first : slot.before with
    | nil => simp [Slot.fill, Instruction.args, Vocabulary.allowsCall, first, name_plug fillers.nameless.1]
    | cons operand rest =>
      rw [first] at allowed
      simpa [Slot.fill, Instruction.args, Vocabulary.allowsCall, first] using allowed
  · have inspects : slot.op.inspects = true := inspects
    simp [Vocabulary.inline, inspects] at opcode

theorem paired_node (fillers : Fillers x y) {inst : Instruction} (plugged : Plugged (.inline builtins) x y a a')
    (left : a = .node inst) (right : a' = .node inst) :
    inst.Paired (.inline builtins) (Plugged (.inline builtins) x y) inst := by
  cases plugged with
  | same flat =>
    rw [left] at flat
    exact paired_flat (by simpa [Operand.flat] using flat)
  | plug path flat =>
    cases path with
    | nil => exact absurd (left.trans right.symm) fillers.differ
    | cons slot path =>
      have pair := paired_fill fillers (flat slot List.mem_cons_self) fun other member =>
        flat other (List.mem_cons_of_mem _ member)
      have first : slot.fill (plug path x) = inst := Operand.node.inj left
      have second : slot.fill (plug path y) = inst := Operand.node.inj right
      rwa [first, second] at pair

theorem pairing (fillers : Fillers x y) :
    Pairing (.inline builtins) (fun _ => False) (Plugged (.inline builtins) x y) where
  name plugged := by
    cases plugged with
    | same => rfl
    | plug path => rw [name_plug fillers.nameless.1, name_plug fillers.nameless.2]
  mention _ _ := rfl
  block plugged := by
    cases plugged with
    | same => rfl
    | plug path => rw [block_plug fillers.blockless.1, block_plug fillers.blockless.2]
  body {a _ body} plugged held inst member := by
    cases plugged with
    | same flat =>
      cases a with
      | block instructions =>
        cases held
        have empty : body = [] := by simpa [Operand.flat] using flat
        rw [empty] at member
        cases member
      | _ => cases held
    | plug path =>
      rw [block_plug fillers.blockless.1] at held
      cases held
  arm plugged _ := paired_node fillers plugged rfl rfl

end Pairs

section Marks

/-- What a deferred wait and what reports leave in a machine. -/
abbrev Marks := Option Int64 × Array LogRecord

def Machine.marks (m : Machine) : Marks :=
  (m.pendingWait, m.log)

def Machine.marked (m : Machine) (marks : Marks) : Machine :=
  { m with pendingWait := marks.1, log := marks.2 }

structure Lasting (ρ : Marks → Marks → Prop) : Prop where
  report {a b : Marks} (record : LogRecord) : ρ a b → ρ (a.1, a.2.push record) (b.1, b.2.push record)
  pend {a b : Marks} (n : Int64) : ρ a b → ρ (some n, a.2) (some n, b.2)

def Machine.Apart (ρ : Marks → Marks → Prop) (m₁ m₂ : Machine) : Prop :=
  ∃ marks, m₂ = m₁.marked marks ∧ ρ m₁.marks marks

theorem Machine.Apart.marks {ρ : Marks → Marks → Prop} {m₁ m₂ : Machine} (apart : m₁.Apart ρ m₂) :
    ρ m₁.marks m₂.marks := by
  obtain ⟨marks, rfl, related⟩ := apart
  exact related

/-- They are so while one statement runs: the builtins and the step are the ones it started with. -/
structure Machine.Aside (ρ : Marks → Marks → Prop) (builtins : List (String × Builtin)) (step : Int64)
    (m₁ m₂ : Machine) : Prop where
  apart : m₁.Apart ρ m₂
  builtins : m₁.builtins = builtins
  step : m₁.stepNow = step

namespace Machine.Aside

variable {ρ : Marks → Marks → Prop} {builtins : List (String × Builtin)} {step : Int64} {m₁ m₂ : Machine}

theorem update (aside : m₁.Aside ρ builtins step m₂) (change : Machine → Machine)
    (commutes : ∀ marks, change (m₁.marked marks) = (change m₁).marked marks) (marks : (change m₁).marks = m₁.marks)
    (same : (change m₁).builtins = m₁.builtins) (steps : (change m₁).stepNow = m₁.stepNow) :
    (change m₁).Aside ρ builtins step (change m₂) := by
  obtain ⟨other, rfl, related⟩ := aside.apart
  exact ⟨⟨other, commutes other, marks ▸ related⟩, same.trans aside.builtins, steps.trans aside.step⟩

theorem report (lasting : Lasting ρ) (aside : m₁.Aside ρ builtins step m₂) (severity : Severity) (text : String) :
    (m₁.report severity text).Aside ρ builtins step (m₂.report severity text) := by
  obtain ⟨other, rfl, related⟩ := aside.apart
  exact ⟨⟨_, rfl, lasting.report { severity, text } related⟩, aside.builtins, aside.step⟩

theorem find_steered {handlers handlers' : List Handler} (each : List.Forall₂ Handler.Steered handlers handlers')
    (id : HandlerId) :
    (handlers'.find? (·.id == id)).map (·.step) = (handlers.find? (·.id == id)).map (·.step) := by
  induction each with
  | nil => rfl
  | @cons h h' _ _ steered _ ih =>
    have same : h'.id = h.id ∧ h'.step = h.step := by
      cases steered with
      | kept | retired | frozen => exact ⟨rfl, rfl⟩
      | activated =>
        unfold Handler.activate
        split <;> exact ⟨rfl, rfl⟩
    by_cases named : h.id = id
    · simp [same, named]
    · have other : (h.id == id) = false := by simpa using named
      simp [same.1, other, ih]

theorem stepNow_steered {m : Machine} {handlers : List Handler}
    (each : List.Forall₂ Handler.Steered m.handlers.handlers handlers) :
    Machine.stepNow { m with handlers := { m.handlers with handlers } } = m.stepNow := by
  unfold Machine.stepNow Machine.running?
  cases m.current with
  | none => rfl
  | some id => exact congrArg (·.getD m.step) (find_steered each id)

theorem sharing (lasting : Lasting ρ) (builtins : List (String × Builtin)) (step : Int64) :
    Sharing (Machine.Aside ρ builtins step) where
  alike aside := by
    obtain ⟨marks, rfl, _⟩ := aside.apart
    exact ⟨rfl, rfl, rfl, rfl, rfl, rfl, rfl⟩
  handlers aside := by obtain ⟨marks, rfl, _⟩ := aside.apart; rfl
  current aside := by obtain ⟨marks, rfl, _⟩ := aside.apart; rfl
  audio aside := by obtain ⟨marks, rfl, _⟩ := aside.apart; rfl
  headless aside := by obtain ⟨marks, rfl, _⟩ := aside.apart; rfl
  report severity text aside := aside.report lasting severity text
  steer {_ _ handlers} each aside := by
    have steered := stepNow_steered each
    exact aside.update (fun m => { m with handlers := { m.handlers with handlers } }) (fun _ => rfl) rfl rfl steered
  note {_ _ b args} _ aside := aside.update (·.note (.builtin b args)) (fun _ => rfl) rfl rfl rfl
  post {_ _ call event} _ aside := aside.update (fun m => (m.note call).post event) (fun _ => rfl) rfl rfl rfl
  stop aside := aside.update (fun m => { m with stopped := true }) (fun _ => rfl) rfl rfl rfl
  putAudio {_ _ audio} _ aside := aside.update (fun m => { m with audio }) (fun _ => rfl) rfl rfl rfl

theorem actions (lasting : Lasting ρ) (builtins : List (String × Builtin)) (step : Int64) :
    Actions .fuel (.inline builtins) (fun _ => False) (fun _ => False) (Machine.Aside ρ builtins step)
      fun _ => True where
  alike aside := (sharing lasting builtins step).alike aside
  lookup _ aside := by obtain ⟨marks, rfl, _⟩ := aside.apart; rfl
  builtin _ aside := by obtain ⟨marks, rfl, _⟩ := aside.apart; rfl
  function {_ _ name _} allowed aside hidden _ := by
    -- Whatever may be called is a builtin.
    rw [Machine.builtin?, aside.builtins] at hidden
    simp [Vocabulary.inline, hidden] at allowed
  undefined _ aside missing := by
    obtain ⟨marks, rfl, _⟩ := aside.apart
    exact .inr missing
  report severity text aside := aside.report lasting severity text
  note silent aside := (sharing lasting builtins step).note silent aside
  assign {m₁ m₂ name} value _ aside := by
    obtain ⟨globals, frames, _, assigned⟩ := assign_writes m₁ name value
    have same : m₂.globals = m₁.globals ∧ m₂.frames = m₁.frames := by
      obtain ⟨marks, rfl, _⟩ := aside.apart
      exact ⟨rfl, rfl⟩
    rw [assigned m₁ rfl rfl, assigned m₂ same.1 same.2]
    exact aside.update (fun m => { m with globals, frames }) (fun _ => rfl) rfl rfl rfl
  declare {m₁ m₂ name} value _ aside := by
    obtain ⟨globals, frames, _, declared⟩ := declare_writes m₁ name value
    have same : m₂.globals = m₁.globals ∧ m₂.frames = m₁.frames := by
      obtain ⟨marks, rfl, _⟩ := aside.apart
      exact ⟨rfl, rfl⟩
    rw [declared m₁ rfl rfl, declared m₂ same.1 same.2]
    exact aside.update (fun m => { m with globals, frames }) (fun _ => rfl) rfl rfl rfl
  putStore store aside := aside.update (fun m => { m with store }) (fun _ => rfl) rfl rfl rfl
  putFiles files aside := aside.update (fun m => { m with files }) (fun _ => rfl) rfl rfl rfl
  putRandom random aside := aside.update (fun m => { m with random }) (fun _ => rfl) rfl rfl rfl
  register _ _ allowed := absurd allowed (by simp [Vocabulary.inline, Opcode.inspects])
  setStep _ allowed := absurd allowed (by simp [Vocabulary.inline])
  wait _ _ aside := by
    obtain ⟨marks, rfl, _⟩ := aside.apart
    exact ⟨rfl, trivial⟩
  pend {_ _ n} _ aside := by
    obtain ⟨marks, rfl, related⟩ := aside.apart
    exact ⟨⟨_, rfl, lasting.pend n related⟩, aside.builtins, aside.step⟩
  waits _ _ _ _ := rfl
  steers _ _ _ steers args := (sharing lasting builtins step).steeringValue steers args
  plays _ plays args := (sharing lasting builtins step).playingValue plays args
  loops _ _ := trivial

end Machine.Aside

end Marks

section Statements

variable {ρ : Marks → Marks → Prop} {builtins : List (String × Builtin)} {step : Int64} {x y : Operand} {slot : Slot}
  {path : List Slot} {m m₁ m₂ m₀ : Machine} {fuel fuel' : Nat} {inst : Instruction} {value : Value}

def Fills (x y : Operand) (S : Machine → Machine → Prop) : Prop :=
  ∀ fuel fuel', fuel < fuel' → Parallel .fuel S (eval fuel x) (eval fuel' y)

theorem plug_agree (lasting : Lasting ρ) (fillers : Fillers x y) (fills : Fills x y (Machine.Aside ρ builtins step))
    (more : fuel < fuel') :
    (interpreter fuel).Agree .fuel (.inline builtins) (fun _ => False) (Plugged (.inline builtins) x y)
      (Machine.Aside ρ builtins step) (fun _ => True) (interpreter fuel') := by
  have acts := Machine.Aside.actions lasting builtins step
  induction fuel generalizing fuel' with
  | zero => exact ⟨pairing fillers, False.elim, fun _ => agrees_exhausted trivial _⟩
  | succ fuel ih =>
    obtain ⟨less, rfl⟩ : ∃ less, fuel' = less + 1 := ⟨fuel' - 1, by omega⟩
    have inner := ih (Nat.lt_of_succ_lt_succ more)
    refine ⟨pairing fillers, False.elim, fun plugged => ?_⟩
    cases plugged with
    | same flat =>
      refine Inner.Agree.operand acts inner (fun _ _ never => never.elim) (fun _ _ => rfl) ?_
      rintro inst rfl
      exact paired_flat (by simpa [Operand.flat] using flat)
    | plug path flat =>
      -- At the end of the path are the operands themselves; above it are instructions with the same slot filled.
      cases path with
      | nil => exact fills (fuel + 1) (less + 1) more
      | cons slot path =>
        have pair := paired_fill fillers (flat slot List.mem_cons_self) fun other member =>
          flat other (List.mem_cons_of_mem _ member)
        exact Inner.Agree.nodeOperand acts inner (fun _ _ never => never.elim) pair

/-- A statement with an operand in the slot executes no other statement. -/
def Slot.plain (builtins : List (String × Builtin)) (slot : Slot) : Bool :=
  (slot.op == .setStep || (Vocabulary.inline builtins).opcode slot.op) && slot.clear (.inline builtins)

theorem Machine.Apart.setStep (apart : m₁.Apart ρ m₂) (perUnit : Int64) :
    (m₁.setStep perUnit).Apart ρ (m₂.setStep perUnit) := by
  obtain ⟨marks, rfl, related⟩ := apart
  have running : (m₁.marked marks).running? = m₁.running? := rfl
  unfold Machine.setStep
  rw [running]
  split <;> exact ⟨marks, rfl, related⟩

theorem perform_setStep {inner : Inner} {args : List Operand} {line : Option UInt32} :
    inner.perform fuel (.mk .setStep args line) m =
      match inner.argOr (.int 1) (.mk .setStep args line) 0 m with
      | .done perUnit m' => .done .zero (m'.setStep perUnit.toInt)
      | .failed fault m' => .failed fault m'
      | .exhausted => .exhausted := by
  simp only [Inner.perform, Instruction.op, bind, Run.bind]
  cases inner.argOr (.int 1) (.mk .setStep args line) 0 m <;> rfl

theorem perform_plug (lasting : Lasting ρ) (fillers : Fillers x y) (fills : Fills x y (Machine.Aside ρ builtins step))
    (plain : slot.plain builtins = true) (flat : ∀ inner ∈ path, inner.flat (.inline builtins) = true)
    (more : fuel < fuel') (aside : m₁.Aside ρ builtins step m₂) :
    ((interpreter fuel).perform fuel (slot.fill (plug path x)) m₁).Agrees .fuel (Machine.Apart ρ) (fun _ => True)
      ((interpreter fuel').perform fuel' (slot.fill (plug path y)) m₂) := by
  have inner := plug_agree lasting fillers fills more
  have acts := Machine.Aside.actions lasting builtins step
  obtain ⟨opcode, clear⟩ : (slot.op = .setStep ∨ (Vocabulary.inline builtins).opcode slot.op = true) ∧
      slot.clear (.inline builtins) = true := by
    simpa [Slot.plain] using plain
  rcases opcode with steps | opcode
  · -- The operand is evaluated with the old step, just as that of a return is.
    obtain ⟨op, before, after, line⟩ := slot
    obtain rfl : op = .setStep := steps
    have returning : Slot.flat (.inline builtins) ⟨.returnValue, before, after, line⟩ = true := by
      obtain ⟨_, flatBefore, flatAfter⟩ := Slot.clear_iff.mp clear
      simp only [Slot.flat, Bool.and_eq_true]
      exact ⟨rfl, Slot.clear_iff.mpr ⟨nofun, flatBefore, flatAfter⟩⟩
    have ends : ((interpreter fuel).argOr (.int 1) (.mk .setStep (before ++ plug path x :: after) line) 0 m₁).Agrees
        .fuel (Machine.Aside ρ builtins step) (fun _ => True)
        ((interpreter fuel').argOr (.int 1) (.mk .setStep (before ++ plug path y :: after) line) 0 m₂) :=
      inner.argOr (paired_fill fillers returning flat) (.int 1) 0 m₁ m₂ aside
    simp only [Slot.fill, perform_setStep]
    generalize (interpreter fuel).argOr _ _ 0 m₁ = left, (interpreter fuel').argOr _ _ 0 m₂ = right at ends ⊢
    cases ends with
    | done _ aside => exact .done trivial (aside.apart.setStep _)
    | failed aside => exact .failed aside.apart
    | exhausted excused => exact .exhausted excused _
    | abandoned excused => exact .abandoned excused _
  · have whole : slot.flat (.inline builtins) = true := by simp [Slot.flat, opcode, clear]
    have performed := Inner.Agree.perform acts inner (fun _ _ never => never.elim) (Nat.le_of_lt more)
      (paired_fill fillers whole flat)
    exact (performed m₁ m₂ aside).imp (fun _ _ aside => aside.apart) fun _ _ => trivial

theorem withPending_normal {pending : Option Int64} {flow : Flow}
    (ended : Inner.withPending pending flow = .normal value) : pending = none ∧ flow = .normal value := by
  cases pending with
  | none => cases flow <;> simp_all [Inner.withPending]
  | some n => cases flow <;> simp [Inner.withPending] at ended

theorem performed_of_exec (ran : exec fuel inst m = .done (.normal value) m₀) :
    ∃ less, fuel = less + 1 ∧ (interpreter less).perform less inst m = .done (.normal value) m₀ ∧
      m₀.pendingWait = none := by
  cases fuel with
  | zero => cases ran
  | succ fuel =>
    refine ⟨fuel, rfl, ?_⟩
    change (interpreter fuel).statement fuel inst m = _ at ran
    unfold Inner.statement Run.locate at ran
    generalize (interpreter fuel).perform fuel inst m = outcome at ran ⊢
    cases outcome with
    | failed | exhausted => cases ran
    | done flow m₁ =>
      -- Had a wait been pending, the statement would have ended in it.
      simp only [Outcome.done.injEq] at ran
      obtain ⟨ended, rfl⟩ := ran
      obtain ⟨settled, rfl⟩ := withPending_normal ended
      rw [← settled]
      exact ⟨rfl, rfl⟩

end Statements

section Waiting

variable {m m' : Machine} {name : String} {callee : Operand} {n w : Int64} {line : Option UInt32}
  {builtins : List (String × Builtin)} {step : Int64}

def waitCall (callee : Operand) (n : Int64) (line : Option UInt32) : Operand :=
  .node (.mk .call [callee, .int n] line)

/-- A division by zero has the same value as a wait, and leaves a report instead. -/
def division : Operand :=
  .node (.mk (.binary .div) [.int 0, .int 0] none)

theorem eval_waitCall (named : callee.name? = some name) (waits : m.builtin? name = some .wait) (positive : 0 < n)
    (fuel : Nat) : eval (fuel + 2) (waitCall callee n line) m =
      .done (.int 0) { m with pendingWait := some (saturatingMul n m.stepNow) } := by
  have called : (interpreter (fuel + 1)).callNamed name [.int n] m = .done (.wait (saturatingMul n m.stepNow)) m := by
    rw [Inner.callNamed_builtin waits]
    have some : ¬ n ≤ 0 := Int64.not_le.mpr positive
    simp [Builtin.call, Action.waitUnits, Value.isNil, Value.toInt, Machine.waitFlow, some, bind, Run.bind, pure,
      Run.pure, Run.read]
  have bound : Inner.name (.mk .call [callee, .int n] line) 0 = pure name := by
    simp [Inner.name, Instruction.arg?, Instruction.args, named]
  have first : (interpreter (fuel + 1)).call (.mk .call [callee, .int n] line) m =
      .done (.wait (saturatingMul n m.stepNow)) m := by
    unfold Inner.call
    rw [bound]
    exact called
  show (interpreter (fuel + 1)).operand (waitCall callee n line) m = _
  simp only [waitCall, Inner.operand, Inner.node, Instruction.op, Inner.callValue, Run.locate, bind, Run.bind, first]
  rfl

theorem eval_division (fuel : Nat) (m : Machine) :
    eval (fuel + 2) division m = .done (.int 0) (m.report .warning "division by zero") :=
  rfl

def Outcome.reports {α : Type} (outcome : Outcome α) : Nat :=
  (outcome.left?.map (·.log.size)).getD 0

/-- Whether the operand at the end of a path is evaluated when the statement is executed: whether a division by zero in
its place is reported. -/
def evaluates (fuel : Nat) (m : Machine) (slot : Slot) (path : List Slot) : Bool :=
  decide ((exec fuel (slot.fill (plug path (.int 0))) m).reports <
    (exec (fuel + 1) (slot.fill (plug path division)) m).reports)

-- Three statements are run beside each other, with a literal, with a division and with a wait of `w` events at the end
-- of the path. What the division reports tells whether the wait was evaluated.

def Waited (w : Int64) (a b : Marks) : Prop :=
  b.2 = a.2 ∧ (a.1 = none → b.1 = none ∨ b.1 = some w)

def Divided (a b : Marks) : Prop :=
  b.1 = a.1

/-- Either both were evaluated, or none of them was. -/
def Traced (w : Int64) (a b : Marks) : Prop :=
  b = a ∨ (b.2.size < a.2.size ∧ (a.1 = none → b.1 = some w))

theorem waited_lasting (w : Int64) : Lasting (Waited w) where
  report _ related := ⟨by rw [related.1], related.2⟩
  pend _ related := ⟨related.1, nofun⟩

theorem divided_lasting : Lasting Divided where
  report _ related := related
  pend _ _ := rfl

theorem traced_lasting (w : Int64) : Lasting (Traced w) where
  report record related := by
    rcases related with rfl | ⟨fewer, pending⟩
    · exact .inl rfl
    · exact .inr ⟨by simpa using fewer, pending⟩
  pend n related := by
    rcases related with rfl | ⟨fewer, _⟩
    · exact .inl rfl
    · exact .inr ⟨fewer, nofun⟩

theorem Machine.Aside.eval_waitCall {ρ : Marks → Marks → Prop} {m₁ m₂ : Machine}
    (aside : m₁.Aside ρ m.builtins m.stepNow m₂) (named : callee.name? = some name)
    (waits : m.builtin? name = some .wait) (positive : 0 < n) (fuel : Nat) :
    eval (fuel + 2) (waitCall callee n line) m₂ =
      .done (.int 0) { m₂ with pendingWait := some (saturatingMul n m.stepNow) } := by
  obtain ⟨marks, rfl, _⟩ := aside.apart
  have present : (m₁.marked marks).builtin? name = some .wait := by
    rw [← waits, Machine.builtin?, Machine.builtin?, ← aside.builtins]
    rfl
  have step : (m₁.marked marks).stepNow = m.stepNow := aside.step
  rw [CueScript.eval_waitCall named present positive, step]

theorem waited_fills (named : callee.name? = some name) (waits : m.builtin? name = some .wait) (positive : 0 < n) :
    Fills (.int 0) (waitCall callee n line)
      (Machine.Aside (Waited (saturatingMul n m.stepNow)) m.builtins m.stepNow) := by
  intro fuel fuel' more m₁ m₂ aside
  match fuel, fuel', more with
  | 0, _, _ => exact .exhausted trivial _
  | fuel + 1, fuel' + 2, _ =>
    rw [aside.eval_waitCall named waits positive]
    obtain ⟨marks, rfl, same, _⟩ := aside.apart
    exact .done trivial ⟨⟨(_, marks.2), rfl, same, fun _ => .inr rfl⟩, aside.builtins, aside.step⟩

theorem divided_fills : Fills (.int 0) division (Machine.Aside Divided builtins step) := by
  intro fuel fuel' more m₁ m₂ aside
  match fuel, fuel', more with
  | 0, _, _ => exact .exhausted trivial _
  | fuel + 1, fuel' + 2, _ =>
    rw [eval_division]
    obtain ⟨marks, rfl, same⟩ := aside.apart
    exact .done trivial ⟨⟨(marks.1, marks.2.push _), rfl, same⟩, aside.builtins, aside.step⟩

theorem traced_fills (named : callee.name? = some name) (waits : m.builtin? name = some .wait) (positive : 0 < n) :
    Fills division (waitCall callee n line)
      (Machine.Aside (Traced (saturatingMul n m.stepNow)) m.builtins m.stepNow) := by
  intro fuel fuel' more m₁ m₂ aside
  match fuel, fuel', more with
  | 0, _, _ | 1, _, _ => exact .exhausted trivial _
  | fuel + 2, fuel' + 2, _ =>
    rw [eval_division, aside.eval_waitCall named waits positive]
    obtain ⟨marks, rfl, related⟩ := aside.apart
    have fewer : marks.2.size < m₁.log.size + 1 := by
      rcases related with rfl | ⟨fewer, _⟩
      · exact Nat.lt_succ_self _
      · exact Nat.lt_succ_of_lt fewer
    refine .done trivial ⟨⟨(_, marks.2), rfl, .inr ⟨?_, fun _ => rfl⟩⟩, aside.builtins, aside.step⟩
    simpa [Machine.report, Machine.marks] using fewer

theorem plain_statement_performed {m₀ : Machine} {slot : Slot} {path : List Slot} {fuel fuel' : Nat} {value : Value}
    (line : Option UInt32) (named : callee.name? = some name) (waits : m.builtin? name = some .wait) (positive : 0 < n)
    (plain : slot.plain m.builtins = true) (flat : ∀ inner ∈ path, inner.flat (.inline m.builtins) = true)
    (performed : (interpreter fuel).perform fuel (slot.fill (plug path (.int 0))) m = .done (.normal value) m₀)
    (more : fuel + 1 < fuel') : ∃ waited divided : Marks,
      (interpreter fuel').perform fuel' (slot.fill (plug path (waitCall callee n line))) m =
        .done (.normal value) (m₀.marked waited) ∧
      (interpreter (fuel + 1)).perform (fuel + 1) (slot.fill (plug path division)) m =
        .done (.normal value) (m₀.marked divided) ∧
      waited.2 = m₀.log ∧ divided.1 = m₀.pendingWait ∧ Traced (saturatingMul n m.stepNow) divided waited := by
  have byWait : Fillers (.int 0) (waitCall callee n line) := ⟨⟨rfl, rfl⟩, ⟨rfl, rfl⟩, nofun⟩
  have byDivision : Fillers (.int 0) division := ⟨⟨rfl, rfl⟩, ⟨rfl, rfl⟩, nofun⟩
  have byBoth : Fillers division (waitCall callee n line) := ⟨⟨rfl, rfl⟩, ⟨rfl, rfl⟩, nofun⟩
  have start {ρ : Marks → Marks → Prop} (related : ρ m.marks m.marks) : m.Aside ρ m.builtins m.stepNow m :=
    ⟨⟨m.marks, rfl, related⟩, rfl, rfl⟩
  have less : fuel < fuel' := by omega
  have beside := perform_plug (waited_lasting _) byWait (waited_fills named waits positive) plain flat less
    (start ⟨rfl, .inl⟩)
  rw [performed] at beside
  obtain ⟨_, ranWait, waited, rfl, sameLog, _⟩ := beside.of_done
  have beside := perform_plug divided_lasting byDivision divided_fills plain flat (Nat.lt_succ_self fuel) (start rfl)
  rw [performed] at beside
  obtain ⟨_, ranDivision, divided, rfl, samePending⟩ := beside.of_done
  refine ⟨waited, divided, ranWait, ranDivision, sameLog, samePending, ?_⟩
  -- What the two note is compared by running them beside each other.
  have beside := perform_plug (traced_lasting _) byBoth (traced_fills named waits positive) plain flat more
    (start (.inl rfl))
  rw [ranDivision] at beside
  obtain ⟨_, sameRun, apart⟩ := beside.of_done
  rw [ranWait] at sameRun
  cases sameRun
  exact apart.marks

end Waiting

theorem wait_deferred_to_end_of_plain_statement {m m₀ : Machine} {slot : Slot} {path : List Slot} {callee : Operand}
    {name : String} {n : Int64} {line : Option UInt32} {fuel fuel' : Nat} {value : Value}
    (named : callee.name? = some name) (waits : m.builtin? name = some .wait) (positive : 0 < n)
    (plain : slot.plain m.builtins = true) (flat : ∀ inner ∈ path, inner.flat (.inline m.builtins) = true)
    (ran : exec fuel (slot.fill (plug path (.int 0))) m = .done (.normal value) m₀) (more : fuel + 2 ≤ fuel') :
    exec fuel' (slot.fill (plug path (waitCall callee n line))) m =
      .done (if evaluates fuel m slot path then .wait (saturatingMul n m.stepNow) else .normal value) m₀ := by
  obtain ⟨fuel, rfl, performed, settled⟩ := performed_of_exec ran
  obtain ⟨fuel', rfl⟩ : ∃ less, fuel' = less + 1 := ⟨fuel' - 1, by omega⟩
  have enough : fuel + 1 < fuel' := by omega
  obtain ⟨waited, divided, ranWait, ranDivision, sameLog, samePending, traced⟩ :=
    plain_statement_performed line named waits positive plain flat performed enough
  have restored : { m₀.marked waited with pendingWait := none } = m₀ := by
    simp only [Machine.marked, sameLog, ← settled]
  have literal : (exec (fuel + 1) (slot.fill (plug path (.int 0))) m).reports = m₀.log.size := by
    rw [ran]
    rfl
  have reports : (exec (fuel + 1 + 1) (slot.fill (plug path division)) m).reports = divided.2.size := by
    rw [exec_of_performed ranDivision]
    rfl
  rw [exec_of_performed ranWait, restored]
  simp only [evaluates, literal, reports]
  rcases traced with rfl | ⟨fewer, pending⟩
  · -- The division was not evaluated, so the wait was not either.
    have unreported : ¬ m₀.log.size < waited.2.size := by
      rw [sameLog]
      exact Nat.lt_irrefl _
    have pending : (m₀.marked waited).pendingWait = none := samePending.trans settled
    simp only [unreported, decide_false, pending]
    rfl
  · -- Both were, and the wait is still pending when the statement ends.
    have reported : m₀.log.size < divided.2.size := sameLog ▸ fewer
    have pending : (m₀.marked waited).pendingWait = some _ := pending (samePending.trans settled)
    simp only [reported, decide_true, pending]
    rfl

def twoStepMachine : Machine where
  settings := { headless := true }
  main := []
  file := none
  functions :=
    [("f", { name := "f", params := [{ name := "x" }],
             body := [.mk .assign [.var "a", .int 1] none, .mk .assign [.var "b", .int 2] none] })]
  builtins := Builtin.standard
  globals := ((({} : Bindings).set "a" (.int 0)).set "b" (.int 0))
  audio := .silent {}
  random := { state := 0 }

def sumSlot : Slot where
  op := .assign
  before := [.var "a"]

def sumPath : List Slot :=
  [{ op := .binary .add, before := [.int 1] }]

/-- The wait in `a = 1 + Wait(3)` is put off until `a` is assigned to. -/
theorem wait_deferred_past_assignment : ∃ m₀, m₀.global? "a" = some (.int 1) ∧
    exec 5 (sumSlot.fill (plug sumPath (waitCall (.text "Wait") 3 none))) twoStepMachine = .done (.wait 3) m₀ := by
  have literal : ∃ m₀, exec 3 (sumSlot.fill (plug sumPath (.int 0))) twoStepMachine = .done (.normal (.int 1)) m₀ ∧
      m₀.global? "a" = some (.int 1) := ⟨_, rfl, rfl⟩
  obtain ⟨m₀, ran, assigned⟩ := literal
  have deferred : exec 5 (sumSlot.fill (plug sumPath (waitCall (.text "Wait") 3 none))) twoStepMachine =
      .done (if evaluates 3 twoStepMachine sumSlot sumPath then .wait (saturatingMul 3 1) else .normal (.int 1)) m₀ :=
    wait_deferred_to_end_of_plain_statement rfl rfl (by decide) (by decide) (by decide) ran (Nat.le_refl 5)
  exact ⟨m₀, assigned, deferred⟩

/-- But the wait in `f(Wait(3))` ends the function after its first statement. -/
theorem wait_argument_cuts_function_short : ∃ m₀ m₁,
    exec 4 (.mk .call [.text "f", .int 0] none) twoStepMachine = .done (.normal (.int 0)) m₀ ∧
    exec 4 (.mk .call [.text "f", waitCall (.text "Wait") 3 none] none) twoStepMachine = .done (.wait 3) m₁ ∧
    m₀.global? "b" = some (.int 2) ∧ m₁.global? "b" = some (.int 0) :=
  ⟨_, _, rfl, rfl, rfl, rfl⟩

end CueScript
