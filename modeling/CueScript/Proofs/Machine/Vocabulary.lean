import CueScript.Program.Function

set_option autoImplicit false

namespace CueScript

structure Vocabulary where
  opcode : Opcode → Bool := fun _ => true
  mention : String → Bool := fun _ => true
  callee : String → Bool := fun _ => true

namespace Vocabulary

def any : Vocabulary := {}

def allowsCall (v : Vocabulary) (args : List Operand) : Bool :=
  match args[0]?.bind Operand.name? with
  | some name => v.callee name
  | none => true

end Vocabulary

mutual

def blockWithin (v : Vocabulary) : List Instruction → Bool
  | [] => true
  | inst :: rest => inst.within v && blockWithin v rest

def Instruction.within (v : Vocabulary) : Instruction → Bool
  | .mk op args _ => v.opcode op && (op != .call || v.allowsCall args) && operandsWithin v args

def operandsWithin (v : Vocabulary) : List Operand → Bool
  | [] => true
  | arg :: rest => arg.within v && operandsWithin v rest

def Operand.within (v : Vocabulary) : Operand → Bool
  | .var s | .text s => v.mention s
  | .node inst => inst.within v
  | .block body => blockWithin v body
  | _ => true

end

def FunctionDef.within (v : Vocabulary) (f : FunctionDef) : Bool :=
  blockWithin v f.body && f.params.all fun p => p.default.all (·.within v)

section Parts

variable {v : Vocabulary} {inst : Instruction} {operand : Operand}

theorem operandsWithin_iff {args : List Operand} :
    operandsWithin v args = true ↔ ∀ arg ∈ args, arg.within v = true := by
  induction args with
  | nil => simp [operandsWithin]
  | cons arg rest ih => simp [operandsWithin, ih]

theorem Instruction.within_iff :
    inst.within v = true ↔
      v.opcode inst.op = true ∧ (inst.op = .call → v.allowsCall inst.args = true) ∧
        ∀ arg ∈ inst.args, arg.within v = true := by
  cases inst with
  | mk op args line =>
    simp only [Instruction.within, Instruction.op, Instruction.args, Bool.and_eq_true, operandsWithin_iff, and_assoc,
      Bool.or_eq_true, bne_iff_ne, ne_eq, ← Decidable.imp_iff_not_or]

theorem Instruction.within_opcode (within : inst.within v = true) : v.opcode inst.op = true :=
  (Instruction.within_iff.mp within).1

theorem Instruction.within_args (within : inst.within v = true) : ∀ arg ∈ inst.args, arg.within v = true :=
  (Instruction.within_iff.mp within).2.2

theorem Instruction.within_arg {i : Nat} (within : inst.within v = true) (found : inst.arg? i = some operand) :
    operand.within v = true :=
  within_args within operand (List.mem_of_getElem? found)

theorem Operand.within_name {name : String} (within : operand.within v = true) (named : operand.name? = some name) :
    v.mention name = true := by
  cases operand <;> simp_all [Operand.name?, Operand.within]

theorem Operand.within_block {body : Block} (within : operand.within v = true) (block : operand.block? = some body) :
    blockWithin v body = true := by
  cases operand <;> simp_all [Operand.block?, Operand.within]

theorem Instruction.within_block {i : Nat} {body : Block} (within : inst.within v = true)
    (block : (inst.arg? i).bind Operand.block? = some body) : blockWithin v body = true := by
  obtain ⟨operand, found, block⟩ := Option.bind_eq_some_iff.mp block
  exact Operand.within_block (within_arg within found) block

end Parts

section Functions

variable {v : Vocabulary}

theorem lookup_entry {α : Type} (wanted first : String) (value : α) (rest : List (String × α)) :
    ((first, value) :: rest).lookup wanted = if wanted = first then some value else rest.lookup wanted := by
  by_cases same : wanted = first
  · simp [same]
  · have differs : (wanted == first) = false := by simpa using same
    simp [List.lookup_cons, same, differs]

theorem mem_of_lookup {α : Type} {entries : List (String × α)} {key : String} {value : α}
    (found : entries.lookup key = some value) : (key, value) ∈ entries := by
  induction entries with
  | nil => cases found
  | cons entry rest ih =>
    obtain ⟨first, old⟩ := entry
    rw [lookup_entry] at found
    split at found
    next same =>
      cases found
      rw [same]
      exact List.mem_cons_self
    next => exact List.mem_cons_of_mem _ (ih found)

theorem FunctionTable.mem_insert {table : FunctionTable} {key : String} {f : FunctionDef} {entry : String × FunctionDef}
    (member : entry ∈ table.insert key f) : entry ∈ table ∨ entry.2 = f := by
  induction table with
  | nil =>
    obtain rfl := List.mem_singleton.mp member
    exact .inr rfl
  | cons first rest ih =>
    unfold FunctionTable.insert at member
    split at member
    · rcases List.mem_cons.mp member with rfl | old
      · exact .inr rfl
      · exact .inl (List.mem_cons_of_mem _ old)
    · rcases List.mem_cons.mp member with rfl | old
      · exact .inl List.mem_cons_self
      · exact (ih old).imp_left (List.mem_cons_of_mem _)

theorem Param.within_default {operand : Operand} {p : Param} (within : operand.within v = true)
    (read : Param.ofOperand operand = .param p) : p.default.all (·.within v) = true := by
  cases operand with
  | var | text =>
    cases read
    rfl
  | node inst =>
    unfold Param.ofOperand at read
    dsimp only at read
    split at read
    · split at read
      · cases read
        have inside : inst.within v = true := by simpa [Operand.within] using within
        cases default : inst.arg? 1 with
        | none => rfl
        | some operand => exact Instruction.within_arg inside default
      · cases read
    · cases read
  | nil | int | float | block => cases read

theorem Param.within_defaults {owner : String} {operands : List Operand} {params : List Param}
    (within : ∀ operand ∈ operands, operand.within v = true)
    (read : (Param.ofOperands owner operands).2 = some params) : ∀ p ∈ params, p.default.all (·.within v) = true := by
  induction operands generalizing params with
  | nil =>
    cases read
    exact nofun
  | cons operand rest ih =>
    have withinRest (other : Operand) (member : other ∈ rest) := within other (List.mem_cons_of_mem operand member)
    unfold Param.ofOperands at read
    split at read
    next p first =>
      obtain ⟨more, later, rfl⟩ := Option.map_eq_some_iff.mp read
      intro q member
      rcases List.mem_cons.mp member with rfl | old
      · exact within_default (within operand List.mem_cons_self) first
      · exact ih withinRest later q old
    next => exact ih withinRest read
    next => cases read

theorem FunctionDef.within_of_instruction {inst : Instruction} {f : FunctionDef} (within : inst.within v = true)
    (defines : (FunctionDef.ofInstruction inst).2 = some f) : f.within v = true := by
  unfold FunctionDef.ofInstruction at defines
  split at defines
  · cases defines
  · split at defines
    next name body named block =>
      obtain ⟨params, read, rfl⟩ := Option.map_eq_some_iff.mp defines
      have inside (operand : Operand) (member : operand ∈ inst.args.drop 2) :=
        Instruction.within_args within operand (List.mem_of_mem_drop member)
      have defaults := Param.within_defaults inside read
      simp only [FunctionDef.within, Bool.and_eq_true, List.all_eq_true]
      exact ⟨Instruction.within_block within block, defaults⟩
    next => cases defines

theorem Program.within_definitions {body : Block} {table : FunctionTable}
    (own : ∀ entry ∈ table, entry.2.within v = true)
    (within : ∀ inst ∈ body, inst.op = .defineFunction → inst.within v = true) :
    ∀ entry ∈ (Program.addDefinitions table body).2, entry.2.within v = true := by
  induction body generalizing table with
  | nil => exact own
  | cons inst rest ih =>
    have withinRest (other : Instruction) (member : other ∈ rest) := within other (List.mem_cons_of_mem inst member)
    unfold Program.addDefinitions
    split
    · exact ih own withinRest
    next defines =>
      have inside := within inst List.mem_cons_self (by simpa using defines)
      cases found : (FunctionDef.ofInstruction inst).2 with
      | none =>
        simp only [found]
        exact ih own withinRest
      | some f =>
        simp only [found]
        refine ih (fun entry member => ?_) withinRest
        rcases FunctionTable.mem_insert member with old | rfl
        · exact own entry old
        · exact FunctionDef.within_of_instruction inside found

theorem FunctionTable.within_insertAll {functions table : FunctionTable}
    (own : ∀ entry ∈ functions, entry.2.within v = true) (before : ∀ entry ∈ table, entry.2.within v = true) :
    ∀ entry ∈ functions.foldl (fun table f => FunctionTable.insert table (Text.lower f.2.name) f.2) table,
      entry.2.within v = true := by
  induction functions generalizing table with
  | nil => exact before
  | cons f rest ih =>
    refine ih (fun entry member => own entry (List.mem_cons_of_mem f member)) fun entry member => ?_
    rcases FunctionTable.mem_insert member with old | added
    · exact before entry old
    · rw [added]
      exact own f List.mem_cons_self

theorem Program.within_functions {p : Program} (own : ∀ entry ∈ p.functions, entry.2.within v = true)
    (within : ∀ inst ∈ p.instructions, inst.op = .defineFunction → inst.within v = true) :
    ∀ entry ∈ p.collectFunctions.2, entry.2.within v = true :=
  within_definitions (FunctionTable.within_insertAll own fun _ member => by cases member) within

end Functions

structure Vocabulary.Below (v v' : Vocabulary) : Prop where
  opcode {op : Opcode} : v.opcode op = true → v'.opcode op = true
  mention {name : String} : v.mention name = true → v'.mention name = true
  callee {name : String} : v.callee name = true → v'.callee name = true

section Below

variable {v v' : Vocabulary}

theorem Vocabulary.Below.allowsCall (below : v.Below v') {args : List Operand} (allowed : v.allowsCall args = true) :
    v'.allowsCall args = true := by
  unfold Vocabulary.allowsCall at allowed ⊢
  split
  next name named =>
    rw [named] at allowed
    exact below.callee allowed
  next => rfl

mutual

theorem blockWithin_mono (below : v.Below v') :
    ∀ body : List Instruction, blockWithin v body = true → blockWithin v' body = true
  | [], _ => rfl
  | inst :: rest, within => by
    simp only [blockWithin, Bool.and_eq_true] at within ⊢
    exact ⟨Instruction.within_mono below inst within.1, blockWithin_mono below rest within.2⟩

theorem Instruction.within_mono (below : v.Below v') : ∀ inst : Instruction, inst.within v = true → inst.within v' = true
  | .mk op args line, within => by
    simp only [Instruction.within, Bool.and_eq_true, Bool.or_eq_true] at within ⊢
    obtain ⟨⟨opcode, calls⟩, operands⟩ := within
    exact ⟨⟨below.opcode opcode, calls.imp_right below.allowsCall⟩, operandsWithin_mono below args operands⟩

theorem operandsWithin_mono (below : v.Below v') :
    ∀ args : List Operand, operandsWithin v args = true → operandsWithin v' args = true
  | [], _ => rfl
  | arg :: rest, within => by
    simp only [operandsWithin, Bool.and_eq_true] at within ⊢
    exact ⟨Operand.within_mono below arg within.1, operandsWithin_mono below rest within.2⟩

theorem Operand.within_mono (below : v.Below v') : ∀ operand : Operand, operand.within v = true → operand.within v' = true
  | .nil, _ | .int _, _ | .float _, _ => rfl
  | .text _, within | .var _, within => below.mention within
  | .node inst, within => Instruction.within_mono below inst within
  | .block body, within => blockWithin_mono below body within

end

end Below

section Any

mutual

theorem blockWithin_any : ∀ body : List Instruction, blockWithin .any body = true
  | [] => rfl
  | inst :: rest => by simp [blockWithin, inst.within_any, blockWithin_any rest]

theorem Instruction.within_any : ∀ inst : Instruction, inst.within .any = true
  | .mk op args line => by
    have calls : Vocabulary.any.allowsCall args = true := by
      unfold Vocabulary.allowsCall
      split <;> rfl
    have opcode : Vocabulary.any.opcode op = true := rfl
    simp [Instruction.within, opcode, calls, operandsWithin_any args]

theorem operandsWithin_any : ∀ args : List Operand, operandsWithin .any args = true
  | [] => rfl
  | arg :: rest => by simp [operandsWithin, arg.within_any, operandsWithin_any rest]

theorem Operand.within_any : ∀ operand : Operand, operand.within .any = true
  | .nil | .int _ | .float _ => by simp [Operand.within]
  | .text _ | .var _ => by simp [Operand.within, Vocabulary.any]
  | .node inst => by simp [Operand.within, inst.within_any]
  | .block body => by simp [Operand.within, blockWithin_any body]

end

theorem FunctionDef.within_any (f : FunctionDef) : f.within .any = true := by
  simp [FunctionDef.within, blockWithin_any, Operand.within_any]

end Any

end CueScript
