import CueScript.Machine.Statement
import CueScript.Proofs.Machine.Agreement
import CueScript.Proofs.Machine.Pairing

/-!
Simulations: relations on machines that every elementary action of a script respects, as long as the script keeps to a
vocabulary, and families of them, since a call of a function may change which relation holds.
-/

set_option autoImplicit false

namespace CueScript

/-- What a script can see of a machine besides its variables, its functions and its handlers. -/
structure Machine.Alike (m₁ m₂ : Machine) : Prop where
  file : m₁.file = m₂.file
  encoding : m₁.settings.encoding = m₂.settings.encoding
  baseDir : m₁.settings.baseDir = m₂.settings.baseDir
  store : m₁.store = m₂.store
  files : m₁.files = m₂.files
  random : m₁.random = m₂.random
  grants : m₁.grants = m₂.grants

theorem Machine.Alike.refl (m : Machine) : m.Alike m :=
  ⟨rfl, rfl, rfl, rfl, rfl, rfl, rfl⟩

namespace Builtin

def waits : Builtin → Bool
  | .wait | .host (.wait _) => true
  | _ => false

def steers : Builtin → Bool
  | .retireMe | .retireKind | .retireAll | .freeze | .activate | .post | .exitTitle => true
  | _ => false

def plays : Builtin → Bool
  | .playMidi | .playWave | .stopMidi | .stopWave | .muteMidi => true
  | _ => false

theorem call_of_value {b : Builtin} (replies : b.waits = false) (args : List Value) :
    b.call args = Reply.value <$> b.traced args := by
  cases b with
  | wait => cases replies
  | host reply => cases reply <;> first | rfl | cases replies
  | _ => rfl

end Builtin

def CallRecord.posted? : CallRecord → Option Event
  | .builtin .post (kind :: params) => (Action.eventKind? kind).map fun kind => { kind, params := params.take 4 }
  | _ => none

theorem CallRecord.posted?_builtin {b : Builtin} (other : b.steers = false) (args : List Value) :
    posted? (.builtin b args) = none := by
  cases b <;> first | rfl | cases other

theorem CallRecord.builtin_of_posted {call : CallRecord} {event : Event} (posted : call.posted? = some event) :
    ∃ b args, call = .builtin b args := by
  unfold posted? at posted
  split at posted
  next kind params => exact ⟨.post, kind :: params, rfl⟩
  next => cases posted

theorem CallRecord.few_params {call : CallRecord} {event : Event} (posted : call.posted? = some event) :
    event.params.length ≤ 4 := by
  unfold posted? at posted
  split at posted
  next kind params =>
    obtain ⟨_, _, rfl⟩ := Option.map_eq_some_iff.mp posted
    exact List.length_take_le 4 params
  next => cases posted

def Flow.Owes (W : Int64 → Prop) : Flow → Prop
  | .wait events => W events
  | _ => True

def Machine.enterCall (m : Machine) (frame : Bindings) : Machine :=
  { m with frames := frame :: m.frames }

def Machine.leaveCall (m : Machine) : Machine :=
  { m with frames := m.frames.tail }

def Machine.Full (m : Machine) : Prop :=
  m.settings.stackLimit ≤ m.frames.length

inductive Machine.Room (E : Excuse) (m₁ m₂ : Machine) : Prop
  | both (left : ¬ m₁.Full) (right : ¬ m₂.Full)
  | neither (left : m₁.Full) (right : m₂.Full) (same : m₁.settings.stackLimit = m₂.settings.stackLimit)
  | excused (left : m₁.Full) (excused : E.fault .stackOverflow)

theorem Machine.room_of_same {E : Excuse} {m₁ m₂ : Machine} (limit : m₁.settings.stackLimit = m₂.settings.stackLimit)
    (depth : m₁.frames.length = m₂.frames.length) : m₁.Room E m₂ := by
  have same : m₁.Full ↔ m₂.Full := by rw [Machine.Full, Machine.Full, limit, depth]
  by_cases full : m₁.Full
  · exact .neither full (same.mp full) limit
  · exact .both full fun other => full (same.mpr other)

/-- What elementary actions come to on joined machines: both machines yield the same, and stay joined. The blocks of new
handlers are of instructions in `P`, and the functions that are called are in `F`. -/
structure Actions (E : Excuse) (v : Vocabulary) (P : Instruction → Prop) (F : FunctionDef → Prop)
    (S : Machine → Machine → Prop) (W : Int64 → Prop) : Prop where
  alike {m₁ m₂ : Machine} : S m₁ m₂ → m₁.Alike m₂
  lookup {m₁ m₂ : Machine} {name : String} : v.mention name = true → S m₁ m₂ → m₁.lookup name = m₂.lookup name
  builtin {m₁ m₂ : Machine} {name : String} : v.callee name = true → S m₁ m₂ → m₁.builtin? name = m₂.builtin? name
  function {m₁ m₂ : Machine} {name : String} {f : FunctionDef} : v.callee name = true → S m₁ m₂ →
    m₁.builtin? name = none → m₁.functions.find? (Text.lower name) = some f →
    F f ∧ m₂.functions.find? (Text.lower name) = some f
  undefined {m₁ m₂ : Machine} {name : String} : v.callee name = true → S m₁ m₂ →
    m₁.functions.find? (Text.lower name) = none →
    E.fault .undefinedFunction ∨ m₂.functions.find? (Text.lower name) = none
  report {m₁ m₂ : Machine} (severity : Severity) (text : String) :
    S m₁ m₂ → S (m₁.report severity text) (m₂.report severity text)
  note {m₁ m₂ : Machine} {b : Builtin} {args : List Value} : CallRecord.posted? (.builtin b args) = none → S m₁ m₂ →
    S (m₁.note (.builtin b args)) (m₂.note (.builtin b args))
  assign {m₁ m₂ : Machine} {name : String} (value : Value) :
    v.mention name = true → S m₁ m₂ → S (m₁.assign name value) (m₂.assign name value)
  declare {m₁ m₂ : Machine} {name : String} (value : Value) :
    v.mention name = true → S m₁ m₂ → S (m₁.declare name value) (m₂.declare name value)
  putStore {m₁ m₂ : Machine} (store : Store) : S m₁ m₂ → S { m₁ with store } { m₂ with store }
  putFiles {m₁ m₂ : Machine} (files : Files) : S m₁ m₂ → S { m₁ with files } { m₂ with files }
  putRandom {m₁ m₂ : Machine} (random : Generator) : S m₁ m₂ → S { m₁ with random } { m₂ with random }
  register {m₁ m₂ : Machine} (kind : EventKind) {body : Block} : v.opcode .onEvent = true → (∀ inst ∈ body, P inst) →
    S m₁ m₂ → (m₁.registerHandler kind body).1 = (m₂.registerHandler kind body).1 ∧
      S (m₁.registerHandler kind body).2 (m₂.registerHandler kind body).2
  setStep {m₁ m₂ : Machine} (perUnit : Int64) :
    v.opcode .setStep = true → S m₁ m₂ → S (m₁.setStep perUnit) (m₂.setStep perUnit)
  wait {m₁ m₂ : Machine} {units : Int64} : v.opcode .wait = true → 0 < units → S m₁ m₂ →
    m₁.stepNow = m₂.stepNow ∧ W (saturatingMul units m₁.stepNow)
  pend {m₁ m₂ : Machine} {n : Int64} :
    W n → S m₁ m₂ → S { m₁ with pendingWait := some n } { m₂ with pendingWait := some n }
  waits {m₁ m₂ : Machine} {name : String} {b : Builtin} : v.callee name = true → S m₁ m₂ →
    m₁.builtin? name = some b → b.waits = true → v.opcode .wait = true
  steers {m₁ m₂ : Machine} {name : String} {b : Builtin} : v.callee name = true → S m₁ m₂ →
    m₁.builtin? name = some b → b.steers = true → ∀ args, Run.Parallel E S (b.traced args) (b.traced args)
  plays (b : Builtin) : b.plays = true → ∀ args, Run.Parallel E S (b.value args) (b.value args)
  loops {op : Opcode} : op.loops = true → v.opcode op = true → E.exhausted

structure Settles (S : Machine → Machine → Prop) (W : Int64 → Prop) : Prop where
  pending {m₁ m₂ : Machine} : S m₁ m₂ → m₁.pendingWait = m₂.pendingWait
  owed {m₁ m₂ : Machine} {n : Int64} : S m₁ m₂ → m₁.pendingWait = some n → W n
  settle {m₁ m₂ : Machine} : S m₁ m₂ → S { m₁ with pendingWait := none } { m₂ with pendingWait := none }

structure Simulation {ι : Type} (E : Excuse) (v : Vocabulary) (S : ι → Machine → Machine → Prop)
    (W : ι → Int64 → Prop) : Prop where
  excused : E.exhausted
  acts (i : ι) : Actions E v (fun inst => inst.within v = true) (fun f => f.within v = true) (S i) (W i)
  settles (i : ι) : Settles (S i) (W i)
  room {i : ι} {m₁ m₂ : Machine} : S i m₁ m₂ → m₁.Room E m₂
  note {i : ι} {m₁ m₂ : Machine} {call : CallRecord} : call.posted? = none → S i m₁ m₂ →
    S i (m₁.note call) (m₂.note call)
  call {i : ι} {m₁ m₂ : Machine} (frame : Bindings) : S i m₁ m₂ →
    ∃ j, S j (m₁.enterCall frame) (m₂.enterCall frame) ∧ (∀ n, W j n → W i n) ∧
      ∀ n₁ n₂, S j n₁ n₂ → S i n₁.leaveCall n₂.leaveCall

end CueScript
