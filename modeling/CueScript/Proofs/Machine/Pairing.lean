import CueScript.Proofs.Machine.Vocabulary
import CueScript.Machine.Statement
import Mathlib.Data.List.Forall2

/-!
Pairs of instructions that do the same with operands of their own. A pairing says which operands may stand for each
other: they name the same and hold the same blocks, so only their values are left to compare.
-/

set_option autoImplicit false

namespace CueScript

/-- The opcodes that look at the form of their operands and not just at what they name, hold or evaluate to. -/
def Opcode.inspects : Opcode → Bool
  | .forLoop | .switch | .onEvent => true
  | _ => false

def Opcode.loops : Opcode → Bool
  | .forLoop | .whileLoop | .doWhile => true
  | _ => false

def Opcode.isArm : Opcode → Bool
  | .case | .otherwise => true
  | _ => false

/-- The opcodes that leave their block to later, when an event comes or a function is called. -/
def Opcode.postpones : Opcode → Bool
  | .onEvent | .defineFunction => true
  | _ => false

structure Instruction.Paired (v : Vocabulary) (Q : Operand → Operand → Prop) (inst inst' : Instruction) : Prop where
  op : inst'.op = inst.op
  line : inst'.line = inst.line
  opcode : v.opcode inst.op = true
  callee : inst.op = .call → v.allowsCall inst.args = true
  args : List.Forall₂ Q inst.args inst'.args
  inspected : inst.op.inspects = true → inst' = inst

/-- Paired operands name the same and hold the same blocks, of instructions in `P`. -/
structure Pairing (v : Vocabulary) (P : Instruction → Prop) (Q : Operand → Operand → Prop) : Prop where
  name {a a' : Operand} : Q a a' → a'.name? = a.name?
  mention {a a' : Operand} {name : String} : Q a a' → a.name? = some name → v.mention name = true
  block {a a' : Operand} : Q a a' → a'.block? = a.block?
  body {a a' : Operand} {body : Block} : Q a a' → a.block? = some body → ∀ inst ∈ body, P inst
  arm {arm : Instruction} : Q (.node arm) (.node arm) → arm.op.isArm = true → arm.Paired v Q arm

section Operands

variable {v : Vocabulary} {P : Instruction → Prop} {Q : Operand → Operand → Prop} {inst inst' : Instruction}

theorem rel_getElem? {as bs : List Operand} (each : List.Forall₂ Q as bs) (k : Nat) : Option.Rel Q as[k]? bs[k]? := by
  induction each generalizing k with
  | nil => exact .none
  | cons first _ ih =>
    cases k with
    | zero => exact .some first
    | succ k => exact ih k

theorem Instruction.Paired.arg (pair : inst.Paired v Q inst') (k : Nat) : Option.Rel Q (inst.arg? k) (inst'.arg? k) :=
  rel_getElem? pair.args k

theorem Instruction.Paired.partner (pair : inst.Paired v Q inst') {k : Nat} {a : Operand}
    (found : inst.arg? k = some a) : ∃ a', Q a a' := by
  have same := pair.arg k
  generalize inst'.arg? k = other at same
  rw [found] at same
  cases same with
  | some paired => exact ⟨_, paired⟩

theorem Instruction.Paired.own (pair : inst.Paired v Q inst) : ∀ arg ∈ inst.args, Q arg arg :=
  List.forall₂_same.mp pair.args

namespace Pairing

theorem names (pairing : Pairing v P Q) (pair : inst.Paired v Q inst') (k : Nat) :
    (inst'.arg? k).bind Operand.name? = (inst.arg? k).bind Operand.name? := by
  have same := pair.arg k
  generalize inst.arg? k = a, inst'.arg? k = a' at same
  cases same with
  | none => rfl
  | some paired => exact pairing.name paired

theorem blocks (pairing : Pairing v P Q) (pair : inst.Paired v Q inst') (k : Nat) :
    (inst'.arg? k).bind Operand.block? = (inst.arg? k).bind Operand.block? := by
  have same := pair.arg k
  generalize inst.arg? k = a, inst'.arg? k = a' at same
  cases same with
  | none => rfl
  | some paired => exact pairing.block paired

theorem mentions (pairing : Pairing v P Q) (pair : inst.Paired v Q inst') {k : Nat} {name : String}
    (named : (inst.arg? k).bind Operand.name? = some name) : v.mention name = true := by
  obtain ⟨a, found, named⟩ := Option.bind_eq_some_iff.mp named
  obtain ⟨_, paired⟩ := pair.partner found
  exact pairing.mention paired named

theorem bodies (pairing : Pairing v P Q) (pair : inst.Paired v Q inst') {k : Nat} {body : Block}
    (held : (inst.arg? k).bind Operand.block? = some body) : ∀ inst ∈ body, P inst := by
  obtain ⟨a, found, held⟩ := Option.bind_eq_some_iff.mp held
  obtain ⟨_, paired⟩ := pair.partner found
  exact pairing.body paired held

end Pairing

theorem Instruction.Paired.called (pair : inst.Paired v Q inst') (calls : inst.op = .call) {name : String}
    (named : (inst.arg? 0).bind Operand.name? = some name) : v.callee name = true := by
  have allowed := pair.callee calls
  rw [Instruction.arg?] at named
  simpa [Vocabulary.allowsCall, named] using allowed

end Operands

section Within

variable {v : Vocabulary}

def Operand.Itself (v : Vocabulary) (a a' : Operand) : Prop :=
  a' = a ∧ a.within v = true

theorem Instruction.paired_of_within {inst : Instruction} (within : inst.within v = true) :
    inst.Paired v (Operand.Itself v) inst where
  op := rfl
  line := rfl
  opcode := Instruction.within_opcode within
  callee := (Instruction.within_iff.mp within).2.1
  args := List.forall₂_same.mpr fun arg member => ⟨rfl, Instruction.within_args within arg member⟩
  inspected _ := rfl

theorem mem_of_blockWithin {body : Block} (within : blockWithin v body = true) :
    ∀ inst ∈ body, inst.within v = true := by
  induction body with
  | nil => exact nofun
  | cons first rest ih =>
    obtain ⟨head, others⟩ : first.within v = true ∧ blockWithin v rest = true := by simpa [blockWithin] using within
    intro inst member
    rcases List.mem_cons.mp member with rfl | later
    · exact head
    · exact ih others inst later

theorem pairing_of_within (v : Vocabulary) : Pairing v (fun inst => inst.within v = true) (Operand.Itself v) where
  name paired := by rw [paired.1]
  mention paired named := Operand.within_name paired.2 named
  block paired := by rw [paired.1]
  body paired held := mem_of_blockWithin (Operand.within_block paired.2 held)
  arm paired _ := Instruction.paired_of_within (by simpa [Operand.within] using paired.2)

end Within

end CueScript
