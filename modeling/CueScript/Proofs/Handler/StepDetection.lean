import CueScript.Proofs.Handler.Growth
import CueScript.Proofs.Machine.Resources

set_option autoImplicit false

namespace CueScript

open Run

section Scan

theorem operandsSetStep_eq_false {args : List Operand} :
    operandsSetStep args = false ↔ ∀ arg ∈ args, arg.setsStep = false := by
  induction args with
  | nil => simp [operandsSetStep]
  | cons arg rest ih => simp [operandsSetStep, ih]

theorem setsStep_eq_false {body : Block} : setsStep body = false ↔ ∀ inst ∈ body, inst.setsStep = false := by
  induction body with
  | nil => simp [setsStep]
  | cons inst rest ih => simp [setsStep, ih]

def Vocabulary.stepless : Vocabulary where
  opcode op := op != .setStep

theorem Vocabulary.stepless_allowsCall (args : List Operand) : Vocabulary.stepless.allowsCall args = true := by
  unfold Vocabulary.allowsCall
  split <;> rfl

def Operand.Stepless (a a' : Operand) : Prop :=
  a' = a ∧ a.setsStep = false

theorem Instruction.paired_of_stepless {inst : Instruction} (stepless : inst.setsStep = false) :
    inst.op.postpones = true ∨ inst.Paired .stepless Operand.Stepless inst := by
  cases inst with
  | mk op args line =>
    -- The scan looks into every operand unless the block is left to later.
    have pair (other : op ≠ .setStep) (operands : operandsSetStep args = false) :
        (Instruction.mk op args line).Paired .stepless Operand.Stepless (.mk op args line) :=
      ⟨rfl, rfl, bne_iff_ne.mpr other, fun _ => Vocabulary.stepless_allowsCall args,
        List.forall₂_same.mpr fun arg member => ⟨rfl, operandsSetStep_eq_false.mp operands arg member⟩, fun _ => rfl⟩
    cases op with
    | setStep => simp [Instruction.setsStep] at stepless
    | onEvent | defineFunction => exact .inl rfl
    | _ => exact .inr (pair nofun (by simpa only [Instruction.setsStep] using stepless))

theorem pairing_of_stepless : Pairing .stepless (fun inst => inst.setsStep = false) Operand.Stepless where
  name paired := by rw [paired.1]
  mention _ _ := rfl
  block paired := by rw [paired.1]
  body {a _ body} paired held := by
    cases a with
    | block own =>
      cases held
      exact setsStep_eq_false.mp (by simpa only [Operand.setsStep] using paired.2)
    | nil | int | float | text | var | node => cases held
  arm {arm} paired armed := by
    have stepless : arm.setsStep = false := by simpa only [Operand.setsStep] using paired.2
    refine (Instruction.paired_of_stepless stepless).resolve_left fun postpones => ?_
    cases op : arm.op <;> simp [op, Opcode.postpones, Opcode.isArm] at postpones armed

end Scan

section Values

variable {E : Excuse} {F : FunctionDef → Prop} {S : Machine → Machine → Prop} {W : Int64 → Prop} {inner : Inner}

def Inner.valuing (inner : Inner) : Inner :=
  { inner with exec := fun _ => Run.exhausted }

theorem Inner.evalAll_valuing (operands : List Operand) : inner.valuing.evalAll operands = inner.evalAll operands := by
  induction operands with
  | nil => rfl
  | cons operand rest ih =>
    unfold Inner.evalAll
    rw [ih]
    rfl

theorem Inner.bindParams_valuing (params : List Param) (frame : Bindings) (args : List Value) :
    inner.valuing.bindParams frame params args = inner.bindParams frame params args := by
  induction params generalizing frame args with
  | nil => cases args <;> rfl
  | cons p rest ih =>
    cases args with
    | cons value args => exact ih _ _
    | nil =>
      unfold Inner.bindParams
      simp only [ih]
      rfl

theorem Instruction.paired_with_itself {inst : Instruction} (other : inst.op ≠ .setStep) :
    inst.Paired .stepless (fun a a' => a' = a) inst :=
  ⟨rfl, rfl, bne_iff_ne.mpr other, fun _ => Vocabulary.stepless_allowsCall _, List.forall₂_same.mpr fun _ _ => rfl,
    fun _ => rfl⟩

-- Nothing is asked of the operands: what stands for a value is never executed, so an instruction that sets a step
-- only fails there.
theorem Inner.Agree.valuing (excused : E.exhausted) (evals : ∀ a, Parallel E S (inner.eval a) (inner.eval a)) :
    Inner.Agree E .stepless (fun _ => True) (fun a a' => a' = a) S W inner.valuing inner.valuing where
  pairing :=
    { name := fun paired => by rw [paired]
      mention := fun _ _ => rfl
      block := fun paired => by rw [paired]
      body := fun _ _ _ _ => trivial
      arm := fun {arm} _ armed => Instruction.paired_with_itself fun op => by simp [op, Opcode.isArm] at armed }
  exec _ := agrees_exhausted excused _
  eval {a _} paired := paired ▸ evals a

theorem Inner.Agree.anyNode (acts : Actions E .stepless (fun _ => True) F S W) (excused : E.exhausted)
    (evals : ∀ a, Parallel E S (inner.eval a) (inner.eval a)) (calls : Inner.CallAlike E F S W inner inner)
    (inst : Instruction) : Parallel E S (inner.node inst) (inner.node inst) := by
  have agree := Inner.Agree.valuing (W := W) excused evals
  have pair (other : inst.op ≠ .setStep) := Instruction.paired_with_itself other
  unfold Inner.node
  split
  next op opcode => exact Inner.Agree.binary acts agree (pair (by simp [opcode])) op
  next op opcode => exact Inner.Agree.unary acts agree (pair (by simp [opcode])) op
  next opcode => exact (Inner.Agree.arrayRead acts agree (pair (by simp [opcode])) :)
  next opcode =>
    -- Only a call executes anything, and calls are taken care of.
    have paired := pair (by simp [opcode])
    have arguments := agree.evalAll (List.forall₂_drop 1 paired.args)
    rw [Inner.evalAll_valuing] at arguments
    refine Inner.Agree.callValue acts ?_
    refine (agree.callee paired opcode).bind fun name allowed => ?_
    exact arguments.bind fun args _ => Inner.Agree.callNamed acts calls allowed args
  next opcode => exact (Inner.Agree.assign acts agree (pair (by simp [opcode])) :)
  next opcode => exact (Inner.Agree.declare acts agree (pair (by simp [opcode])) :)
  next opcode => exact (Inner.Agree.arrayAssign acts agree (pair (by simp [opcode])) :)
  next => exact agrees_fail _

theorem Inner.Agree.anyOperand (acts : Actions E .stepless (fun _ => True) F S W) (excused : E.exhausted)
    (evals : ∀ a, Parallel E S (inner.eval a) (inner.eval a)) (calls : Inner.CallAlike E F S W inner inner)
    (operand : Operand) : Parallel E S (inner.operand operand) (inner.operand operand) := by
  cases operand with
  | nil | int _ | float _ | text _ => exact agrees_pure trivial
  | var name => exact agrees_read (fun _ _ joined => by rw [acts.lookup rfl joined]) fun _ _ _ => trivial
  | node inst =>
    exact (Inner.Agree.anyNode acts excused evals calls inst).locate rfl fun _ _ joined => (acts.alike joined).file
  | block body => exact agrees_fail _

end Values

def Registry.steps (r : Registry) : List (HandlerId × Int64) :=
  r.handlers.map fun h => (h.id, h.step)

section Steps

variable {r : Registry} {handlers : List Handler}

theorem lookup_steps (r : Registry) (id : HandlerId) : r.steps.lookup id = (r.get? id).map (·.step) := by
  unfold Registry.steps Registry.get?
  induction r.handlers with
  | nil => rfl
  | cons h rest ih =>
    by_cases named : id = h.id
    · simp [named]
    · have other : (id == h.id) = false := beq_false_of_ne named
      have wanted : (h.id == id) = false := beq_false_of_ne (Ne.symm named)
      simp only [List.map_cons, List.lookup_cons, List.find?_cons, other, wanted, ih]

theorem steps_of_steered (each : List.Forall₂ Handler.Steered r.handlers handlers) :
    Registry.steps { r with handlers } = r.steps := by
  unfold Registry.steps
  generalize r.handlers = before at each
  induction each with
  | nil => rfl
  | @cons h h' _ _ steered _ ih =>
    have same : (h'.id, h'.step) = (h.id, h.step) := by
      cases steered with
      | kept | retired | frozen => rfl
      | activated =>
        unfold Handler.activate
        split <;> rfl
    simpa [same] using ih

end Steps

def FunctionTable.Stepless (table : FunctionTable) : Prop :=
  ∀ key f, table.find? key = some f → setsStep f.body = false

/-- How a machine may look later on when no step was set meanwhile: only new handlers bring steps of their own. -/
structure Machine.SameSteps (m m' : Machine) : Prop where
  functions : m'.functions = m.functions
  step : m'.step = m.step
  handlers : ∃ new, m'.handlers.steps = m.handlers.steps ++ new

namespace Machine.SameSteps

variable {origin m m' : Machine} {fuel : Nat}

theorem refl (m : Machine) : m.SameSteps m :=
  ⟨rfl, rfl, [], (List.append_nil _).symm⟩

theorem update (same : origin.SameSteps m) {globals : Bindings} {frames : List Bindings} {store : Store}
    {events : EventQueue} {files : Files} {audio : Audio} {pendingWait : Option Int64} {stopped : Bool}
    {random : Generator} {log : Array LogRecord} {calls : List CallRecord} :
    SameSteps origin
      { m with globals, frames, store, events, files, audio, pendingWait, stopped, random, log, calls } :=
  ⟨same.functions, same.step, same.handlers⟩

theorem declare (same : origin.SameSteps m) (name : String) (value : Value) :
    origin.SameSteps (m.declare name value) := by
  obtain ⟨globals, frames, _, declared⟩ := declare_writes m name value
  exact declared m rfl rfl ▸ same.update

theorem assign (same : origin.SameSteps m) (name : String) (value : Value) : origin.SameSteps (m.assign name value) := by
  obtain ⟨globals, frames, _, assigned⟩ := assign_writes m name value
  exact assigned m rfl rfl ▸ same.update

theorem register (same : origin.SameSteps m) (kind : EventKind) (body : Block) :
    origin.SameSteps (m.registerHandler kind body).2 := by
  obtain ⟨new, handlers⟩ := same.handlers
  refine ⟨same.functions, same.step, new ++ [(m.handlers.nextId, 1)], ?_⟩
  have added : (m.registerHandler kind body).2.handlers.steps = m.handlers.steps ++ [(m.handlers.nextId, 1)] := by
    simp [Machine.registerHandler, Registry.register, Registry.steps]
  rw [added, handlers, List.append_assoc]

theorem steer (same : origin.SameSteps m) {handlers : List Handler}
    (each : List.Forall₂ Handler.Steered m.handlers.handlers handlers) :
    SameSteps origin { m with handlers := { m.handlers with handlers } } :=
  ⟨same.functions, same.step, by simpa only [steps_of_steered each] using same.handlers⟩

theorem found (same : m.SameSteps m') {id : HandlerId} {h h' : Handler} (before : m.handlers.get? id = some h)
    (after : m'.handlers.get? id = some h') : h'.step = h.step := by
  obtain ⟨new, handlers⟩ := same.handlers
  -- New handlers come last, so whatever identity they have the search ends before them.
  have old : m.handlers.steps.lookup id = some h.step := by rw [lookup_steps, before]; rfl
  have later : m'.handlers.steps.lookup id = some h'.step := by rw [lookup_steps, after]; rfl
  rw [handlers, List.lookup_append, old, Option.some_or] at later
  exact (Option.some.inj later).symm

def Both (origin m₁ m₂ : Machine) : Prop :=
  m₁ = m₂ ∧ origin.SameSteps m₁

theorem sharing (origin : Machine) : Sharing (Both origin) where
  alike joined := joined.1 ▸ Machine.Alike.refl _
  handlers joined := by rw [joined.1]
  current joined := by rw [joined.1]
  audio joined := by rw [joined.1]
  headless joined := by rw [joined.1]
  report _ _ joined := ⟨by rw [joined.1], joined.2.update⟩
  steer each joined := ⟨by rw [joined.1], joined.2.steer each⟩
  note _ joined := ⟨by rw [joined.1], joined.2.update⟩
  post _ joined := ⟨by rw [joined.1], joined.2.update⟩
  stop joined := ⟨by rw [joined.1], joined.2.update⟩
  putAudio _ joined := ⟨by rw [joined.1], joined.2.update⟩

theorem actions (stepless : origin.functions.Stepless) (P : Instruction → Prop) :
    Actions .fuel .stepless P (fun f => setsStep f.body = false) (Both origin) fun _ => True where
  alike joined := joined.1 ▸ Machine.Alike.refl _
  lookup _ joined := by rw [joined.1]
  builtin _ joined := by rw [joined.1]
  function _ joined _ found := ⟨stepless _ _ (joined.2.functions ▸ found), joined.1 ▸ found⟩
  undefined _ joined missing := .inr (joined.1 ▸ missing)
  report severity text joined := (sharing origin).report severity text joined
  note silent joined := (sharing origin).note silent joined
  assign value _ joined := ⟨by rw [joined.1], joined.2.assign _ value⟩
  declare value _ joined := ⟨by rw [joined.1], joined.2.declare _ value⟩
  putStore _ joined := ⟨by rw [joined.1], joined.2.update⟩
  putFiles _ joined := ⟨by rw [joined.1], joined.2.update⟩
  putRandom _ joined := ⟨by rw [joined.1], joined.2.update⟩
  register kind _ _ _ joined := by
    obtain ⟨rfl, same⟩ := joined
    exact ⟨rfl, rfl, same.register kind _⟩
  setStep _ allowed _ := absurd allowed nofun
  wait _ _ joined := ⟨by rw [joined.1], trivial⟩
  pend _ joined := ⟨by rw [joined.1], joined.2.update⟩
  waits _ _ _ _ := rfl
  steers _ _ _ steers args := (sharing origin).steeringValue steers args
  plays _ plays args := (sharing origin).playingValue plays args
  loops _ _ := trivial

theorem settles (origin : Machine) : Settles (Both origin) fun _ => True where
  pending joined := by rw [joined.1]
  owed _ _ := trivial
  settle joined := ⟨by rw [joined.1], joined.2.update⟩

structure Steady (origin : Machine) (inner : Inner) : Prop where
  exec {inst : Instruction} : inst.setsStep = false →
    Agrees .fuel (Both origin) (Flow.Owes fun _ => True) (inner.exec inst) (inner.exec inst)
  eval (operand : Operand) : Parallel .fuel (Both origin) (inner.eval operand) (inner.eval operand)

theorem Steady.agree {inner : Inner} (steady : Steady origin inner) :
    Inner.Agree .fuel .stepless (fun inst => inst.setsStep = false) Operand.Stepless (Both origin) (fun _ => True)
      inner inner where
  pairing := pairing_of_stepless
  exec := steady.exec
  eval {a _} paired := paired.1 ▸ steady.eval a

theorem Steady.callAlike {inner : Inner} (steady : Steady origin inner) (stepless : origin.functions.Stepless) :
    Inner.CallAlike .fuel (fun f => setsStep f.body = false) (Both origin) (fun _ => True) inner inner := by
  intro f args quiet
  have acts := actions stepless fun inst => inst.setsStep = false
  refine Inner.Agree.callFunction acts (fun _ _ _ _ joined => ?_) (fun _ _ joined => ?_)
    fun _ _ _ _ => ⟨?_, fun frame m₁ m₂ joined => ?_⟩
  · exact ⟨by rw [joined.1], joined.2.update⟩
  · exact Machine.room_of_same (by rw [joined.1]) (by rw [joined.1])
  · -- The scan of the body says nothing about the defaults, but these are only evaluated.
    have agree := Inner.Agree.valuing (E := .fuel) (W := fun _ => True) trivial steady.eval
    have bound := agree.bindParams (fun p (_ : p ∈ f.params) _ _ => rfl) {} args
    rwa [Inner.bindParams_valuing] at bound
  · have block := Inner.Agree.block acts steady.agree (setsStep_eq_false.mp quiet)
    refine Inner.Agree.inFrame frame block ?_ (fun _ _ => trivial) fun _ _ joined => ?_
    · exact ⟨by rw [joined.1], joined.2.update⟩
    · exact ⟨by rw [joined.1], joined.2.update⟩

theorem interpreter_steady (stepless : origin.functions.Stepless) (fuel : Nat) : Steady origin (interpreter fuel) := by
  induction fuel with
  | zero => exact ⟨fun _ => agrees_exhausted trivial _, fun _ => agrees_exhausted trivial _⟩
  | succ fuel ih =>
    have acts (P : Instruction → Prop) := actions stepless P
    have calls := ih.callAlike stepless
    refine ⟨fun {inst} quiet => ?_, fun operand => ?_⟩
    -- A block that is left to later may set steps: it is only stored now.
    · rcases Instruction.paired_of_stepless quiet with postpones | pair
      · have performed := Inner.Agree.postponed (acts _) rfl postpones (interpreter fuel) fuel
        exact Inner.Agree.settled (acts fun _ => True) (settles origin) performed rfl
      · exact Inner.Agree.statement (acts _) (settles origin) ih.agree calls (Nat.le_refl fuel) pair
    · exact Inner.Agree.anyOperand (acts _) trivial ih.eval calls operand

theorem pacing (origin : Machine) : Pacing (Both origin) where
  outer joined := by
    obtain ⟨rfl, _⟩ := joined
    exact ⟨rfl, rfl, rfl, rfl, rfl, rfl, rfl⟩
  report severity text joined := (sharing origin).report severity text joined
  stop joined := (sharing origin).stop joined

variable {body : Block}

theorem execBlock (stepless : m.functions.Stepless) (quiet : setsStep body = false)
    (left : (execBlock fuel body m).left? = some m') : m.SameSteps m' := by
  have steady := interpreter_steady stepless fuel
  have block := Inner.Agree.block (actions stepless _) steady.agree (setsStep_eq_false.mp quiet)
  obtain ⟨_, _, _, same⟩ := (block m m ⟨rfl, .refl m⟩).left left
  exact same

theorem runBody (stepless : m.functions.Stepless) (quiet : setsStep body = false) {pc : Nat}
    (left : (runBody fuel body pc m).left? = some m') : m.SameSteps m' := by
  have steady := interpreter_steady stepless fuel
  have executes (inst : Instruction) (member : inst ∈ body.drop pc) :
      Parallel .fuel (Both m) (exec fuel inst) (exec fuel inst) :=
    (steady.exec (setsStep_eq_false.mp quiet inst (List.mem_of_mem_drop member))).weaken fun _ _ => trivial
  obtain ⟨_, _, _, same⟩ := ((pacing m).runFrom executes pc m m ⟨rfl, .refl m⟩).left left
  exact same

end Machine.SameSteps

section Setters

def FunctionTable.withoutSetters (table : FunctionTable) : FunctionTable :=
  table.filter fun entry => (table.find? entry.1).all fun f => !setsStep f.body

def Machine.withoutSetters (m : Machine) : Machine :=
  { m with functions := m.functions.withoutSetters }

/-- The run of the block is the same without the functions that set a step: it calls none of them. -/
def Machine.SparesSetters (m : Machine) (fuel : Nat) (body : Block) (pc : Nat) : Prop :=
  runBody fuel body pc m =
    (runBody fuel body pc m.withoutSetters).onMachine (Machine.equip m.functions m.settings.stackLimit)

variable {m m' : Machine} {fuel pc : Nat} {body : Block}

theorem lookup_filter_key {α : Type} (keep : String → Bool) (entries : List (String × α)) (key : String) :
    (entries.filter fun entry => keep entry.1).lookup key = if keep key then entries.lookup key else none := by
  induction entries with
  | nil => simp
  | cons entry rest ih =>
    obtain ⟨first, value⟩ := entry
    cases kept : keep first with
    | true =>
      simp only [List.filter_cons, kept, if_true, lookup_entry, ih]
      grind
    | false =>
      simp only [List.filter_cons, kept, Bool.false_eq_true, if_false, lookup_entry, ih]
      grind

theorem FunctionTable.find?_withoutSetters (table : FunctionTable) (key : String) :
    table.withoutSetters.find? key = (table.find? key).filter fun f => !setsStep f.body := by
  have kept := lookup_filter_key (fun key => (table.find? key).all fun f => !setsStep f.body) table key
  rw [withoutSetters, find?, kept, find?]
  cases table.lookup key with
  | none => simp
  | some f => cases setter : setsStep f.body <;> simp [Option.filter, setter]

theorem FunctionTable.stepless_withoutSetters (table : FunctionTable) : table.withoutSetters.Stepless := by
  intro key f found
  rw [find?_withoutSetters] at found
  simpa using (Option.filter_eq_some_iff.mp found).2

theorem Machine.sparesSetters_of_unhindered (unhindered : (runBody fuel body pc m.withoutSetters).Unhindered) :
    m.SparesSetters fuel body pc := by
  have more : m.withoutSetters.functions.Extends m.functions := by
    intro key f found
    rw [Machine.withoutSetters, FunctionTable.find?_withoutSetters] at found
    exact (Option.filter_eq_some_iff.mp found).1
  have equipped : m.withoutSetters.Equipped m.functions m.settings.stackLimit m := ⟨rfl, more, Nat.le_refl _⟩
  have executes := Machine.Equipped.executes m.functions m.settings.stackLimit (Nat.le_refl fuel)
  -- A call of one of them would have ended the run for want of a function.
  have agrees := (Machine.Equipped.driving m.functions m.settings.stackLimit).runBody none executes
    (fun inst (_ : inst ∈ body) => trivial) pc m.withoutSetters m equipped
  exact Outcome.eq_of_unhindered agrees unhindered

theorem Outcome.left?_onMachine {α : Type} (change : Machine → Machine) (outcome : Outcome α) :
    (outcome.onMachine change).left? = outcome.left?.map change := by
  cases outcome <;> rfl

theorem Machine.SparesSetters.step (spares : m.SparesSetters fuel body pc) (quiet : setsStep body = false)
    (left : (runBody fuel body pc m).left? = some m') {id : HandlerId} {h h' : Handler}
    (before : m.handlers.get? id = some h) (after : m'.handlers.get? id = some h') : h'.step = h.step := by
  rw [spares, Outcome.left?_onMachine] at left
  obtain ⟨n, ended, rfl⟩ := Option.map_eq_some_iff.mp left
  have stepless : m.withoutSetters.functions.Stepless := m.functions.stepless_withoutSetters
  exact (SameSteps.runBody stepless quiet ended).found before after

end Setters

/-- Where the scan finds nothing that sets a step, no step changes; so a handler that changes its own step, and not by
calling a function that does, is known to be one-shot from its registration on. -/
theorem step_detection_sound {fuel : Nat} {m m' : Machine} :
    (∀ body, setsStep body = false → (∀ key f, m.functions.find? key = some f → setsStep f.body = false) →
      (execBlock fuel body m).left? = some m' →
      m'.step = m.step ∧ ∃ new, m'.handlers.steps = m.handlers.steps ++ new) ∧
    ∀ (h h' : Handler) (pc : Nat), m.running? = some h → m.SparesSetters fuel h.body pc →
      (runBody fuel h.body pc m).left? = some m' → m'.handlers.get? h.id = some h' → h'.step ≠ h.step →
      setsStep h.body = true ∧ ∀ (r : Registry) (kind : EventKind), ∃ added,
        (r.register kind h.body).2.handlers = r.handlers ++ [added] ∧
        ∀ later : Handler, added.Same later → later.oneShot = true := by
  constructor
  next =>
    intro body quiet stepless left
    have same := Machine.SameSteps.execBlock stepless quiet left
    exact ⟨same.step, same.handlers⟩
  next =>
    intro h h' pc running spares left after changed
    obtain ⟨id, _, found⟩ := Option.bind_eq_some_iff.mp running
    obtain rfl : h.id = id := (Registry.mem_of_get? found).2
    have sets : setsStep h.body = true := by
      by_contra quiet
      exact changed (spares.step (eq_false_of_ne_true quiet) left found after)
    exact ⟨sets, fun r kind => ⟨_, rfl, fun later same => same.oneShot.trans sets⟩⟩

def hesitantBlock : Block :=
  [.mk .conditional [.int 1, .block [.mk .setStep [.int 3] none]] none, .mk .call [.text "rest"] none]

def arrangingBlock : Block :=
  [.mk .onEvent [.text "TIME", .block [.mk .setStep [.int 5] none]] none, .mk .call [.text "rest"] none,
   .mk .call [.text "rest", .int 2] none]

def restingTable : FunctionTable :=
  [("rest", {
    name := "rest"
    params := [{ name := "units", default := some (.node (.mk .setStep [.int 7] none)) }]
    body := [.mk .wait [.var "units"] none] })]

def hesitantMachine (functions : FunctionTable) : Machine where
  settings := { headless := true, stackLimit := 4 }
  main := []
  file := none
  functions
  builtins := []
  handlers := { handlers := [{ id := 1, kind := .time, body := hesitantBlock }], nextId := 2 }
  current := some 1
  audio := .silent {}
  random := { state := 0 }

theorem conditional_step_is_detected :
    (∃ m' new, (execBlock 5 arrangingBlock (hesitantMachine restingTable)).left? = some m' ∧
      m'.step = 1 ∧ m'.handlers.steps = [(1, 1)] ++ new ∧ new ≠ []) ∧
    (∃ m' h', (runBody 5 hesitantBlock 0
        (hesitantMachine (("rush", { name := "rush", body := hesitantBlock }) :: restingTable))).left? = some m' ∧
      m'.handlers.get? 1 = some h' ∧ h'.step = 3) ∧
    setsStep hesitantBlock = true ∧
    ∀ (r : Registry) (kind : EventKind), ∃ added, (r.register kind hesitantBlock).2.handlers = r.handlers ++ [added] ∧
      ∀ later : Handler, added.Same later → later.oneShot = true := by
  let full := hesitantMachine (("rush", { name := "rush", body := hesitantBlock }) :: restingTable)
  have arranged : ((execBlock 5 arrangingBlock (hesitantMachine restingTable)).left?.map (·.handlers.size)) = some 2 := by
    decide +kernel
  have ran : ((runBody 5 hesitantBlock 0 full).left?.bind fun m' => (m'.handlers.get? 1).map (·.step)) = some 3 := by
    decide +kernel
  have spares : full.SparesSetters 5 hesitantBlock 0 := Machine.sparesSetters_of_unhindered (by decide +kernel)
  obtain ⟨m₁, left₁, size⟩ := Option.map_eq_some_iff.mp arranged
  obtain ⟨m₂, left₂, found⟩ := Option.bind_eq_some_iff.mp ran
  obtain ⟨h', after, step⟩ := Option.map_eq_some_iff.mp found
  have stepless (key : String) (f : FunctionDef) (found : restingTable.find? key = some f) : setsStep f.body = false := by
    cases List.mem_singleton.mp (mem_of_lookup found)
    rfl
  obtain ⟨same, new, steps⟩ := step_detection_sound.1 arrangingBlock rfl stepless left₁
  have detected := step_detection_sound.2 { id := 1, kind := .time, body := hesitantBlock } h' 0 rfl spares left₂ after
    (by rw [step]; decide)
  refine ⟨⟨m₁, new, left₁, same, steps, ?_⟩, ⟨m₂, h', left₂, after, step⟩, detected⟩
  rintro rfl
  have one : m₁.handlers.size = 1 := by
    simpa [Registry.steps, Registry.size, hesitantMachine] using congrArg List.length steps
  rw [one] at size
  cases size

end CueScript
