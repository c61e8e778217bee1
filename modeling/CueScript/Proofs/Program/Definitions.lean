import CueScript.Proofs.Machine.Vocabulary
import Mathlib.Data.List.Nodup

set_option autoImplicit false

namespace CueScript

/-- What a list of operands says as the parameters of a definition. Operands that are neither a name nor an assignment
are left out; an assignment to no name says nothing. -/
inductive Param.Reads : List Operand → List Param → Prop
  | nil : Reads [] []
  | named {operand : Operand} {name : String} {rest : List Operand} {params : List Param}
      (names : operand.name? = some name) (later : Reads rest params) : Reads (operand :: rest) ({ name } :: params)
  | defaulted {inst : Instruction} {name : String} {rest : List Operand} {params : List Param}
      (assigns : inst.op = .assign) (names : (inst.arg? 0).bind Operand.name? = some name) (later : Reads rest params) :
      Reads (.node inst :: rest) ({ name, default := inst.arg? 1 } :: params)
  | ignored {operand : Operand} {rest : List Operand} {params : List Param} (nameless : operand.name? = none)
      (assigns : ∀ inst, operand = .node inst → inst.op ≠ .assign) (later : Reads rest params) :
      Reads (operand :: rest) params

structure Instruction.Defines (inst : Instruction) (f : FunctionDef) : Prop where
  op : inst.op = .defineFunction
  name : (inst.arg? 0).bind Operand.name? = some f.name
  body : (inst.arg? 1).bind Operand.block? = some f.body
  params : Param.Reads (inst.args.drop 2) f.params

/-- The last definition of a name among some instructions; `key` is the name in lower case. -/
structure LastDefined (key : String) (body : Block) (f : FunctionDef) : Prop where
  named : Text.lower f.name = key
  last : ∃ before inst after, body = before ++ inst :: after ∧ inst.Defines f ∧
    ∀ later ∈ after, ∀ g : FunctionDef, later.Defines g → Text.lower g.name ≠ key

inductive Program.Provides (p : Program) (key : String) : FunctionDef → Prop
  | defined {f : FunctionDef} (last : LastDefined key p.instructions f) : Provides p key f
  | listed {k : String} {f : FunctionDef}
      (undefined : ∀ inst ∈ p.instructions, ∀ g : FunctionDef, inst.Defines g → Text.lower g.name ≠ key)
      (member : (k, f) ∈ p.functions) (named : Text.lower f.name = key) : Provides p key f

section Reading

variable {operands : List Operand} {params : List Param} {inst : Instruction} {f : FunctionDef}

theorem Param.ofOperands_eq_some (owner : String) :
    (Param.ofOperands owner operands).2 = some params ↔ Param.Reads operands params := by
  constructor
  next =>
    induction operands generalizing params with
    | nil =>
      rintro ⟨⟩
      exact .nil
    | cons operand rest ih =>
      intro read
      unfold Param.ofOperands at read
      cases operand with
      | var name | text name =>
        obtain ⟨others, later, rfl⟩ := Option.map_eq_some_iff.mp read
        exact .named rfl (ih later)
      | node inst =>
        by_cases assigns : inst.op = .assign
        next =>
          cases names : (inst.arg? 0).bind Operand.name? with
          | none =>
            -- An assignment to no name spoils the whole list.
            simp [Param.ofOperand, assigns, names] at read
          | some name =>
            simp only [Param.ofOperand, assigns, names, if_true] at read
            obtain ⟨others, later, rfl⟩ := Option.map_eq_some_iff.mp read
            exact .defaulted assigns names (ih later)
        next =>
          simp only [Param.ofOperand, assigns, if_false] at read
          exact .ignored rfl (by rintro _ ⟨⟩; exact assigns) (ih read)
      | nil | int | float | block => exact .ignored rfl nofun (ih read)
  next =>
    intro reads
    induction reads with
    | nil => rfl
    | @named operand name rest params names later ih =>
      have param : Param.ofOperand operand = .param { name } := by
        cases operand <;> cases names <;> rfl
      simp only [Param.ofOperands, param, ih, Option.map_some]
    | defaulted assigns names later ih =>
      simp only [Param.ofOperands, Param.ofOperand, assigns, names, if_true, ih, Option.map_some]
    | @ignored operand rest params nameless assigns later ih =>
      have malformed : Param.ofOperand operand = .malformed := by
        cases operand with
        | node inst => simp only [Param.ofOperand, assigns inst rfl, if_false]
        | var | text => cases nameless
        | nil | int | float | block => rfl
      simp only [Param.ofOperands, malformed, ih]

theorem FunctionDef.ofInstruction_eq_some : (FunctionDef.ofInstruction inst).2 = some f ↔ inst.Defines f := by
  constructor
  next =>
    intro read
    unfold FunctionDef.ofInstruction at read
    split at read
    next => cases read
    next defines =>
      split at read
      next name body named block =>
        obtain ⟨params, reads, rfl⟩ := Option.map_eq_some_iff.mp read
        exact ⟨not_not.mp defines, named, block, (Param.ofOperands_eq_some name).mp reads⟩
      next => cases read
  next =>
    intro defines
    have reads := (Param.ofOperands_eq_some f.name).mpr defines.params
    simp only [FunctionDef.ofInstruction, defines.op, ne_eq, not_true, if_false, defines.name, defines.body, reads,
      Option.map_some]

end Reading

def definitions (body : Block) : List FunctionDef :=
  body.filterMap fun inst => (FunctionDef.ofInstruction inst).2

def FunctionTable.insertAll (table : FunctionTable) (fs : List FunctionDef) : FunctionTable :=
  fs.foldl (fun table f => table.insert (Text.lower f.name) f) table

section Tables

variable {table : FunctionTable} {fs : List FunctionDef} {body : Block} {key : String} {f : FunctionDef} {p : Program}

theorem FunctionTable.find?_insert (table : FunctionTable) (key wanted : String) (f : FunctionDef) :
    (table.insert key f).find? wanted = if wanted = key then some f else table.find? wanted := by
  unfold FunctionTable.find?
  induction table with
  | nil => grind [FunctionTable.insert]
  | cons entry rest ih => grind [FunctionTable.insert]

theorem FunctionTable.find?_insertAll (table : FunctionTable) (fs : List FunctionDef) (key : String) :
    (table.insertAll fs).find? key = (fs.reverse.find? fun f => Text.lower f.name = key).or (table.find? key) := by
  induction fs generalizing table with
  | nil => rfl
  | cons f rest ih =>
    have stepped : table.insertAll (f :: rest) = (table.insert (Text.lower f.name) f).insertAll rest := rfl
    rw [stepped, ih, find?_insert, List.reverse_cons, List.find?_append, Option.or_assoc]
    by_cases same : Text.lower f.name = key
    next => simp [same]
    next => simp [same, Ne.symm same]

theorem definitions_cons (inst : Instruction) (rest : Block) :
    definitions (inst :: rest) = (FunctionDef.ofInstruction inst).2.toList ++ definitions rest := by
  rw [definitions, List.filterMap_cons]
  cases (FunctionDef.ofInstruction inst).2 <;> rfl

theorem Program.addDefinitions_eq (table : FunctionTable) (body : Block) :
    (Program.addDefinitions table body).2 = table.insertAll (definitions body) := by
  induction body generalizing table with
  | nil => rfl
  | cons inst rest ih =>
    rw [definitions_cons]
    unfold Program.addDefinitions
    split
    next other =>
      have nothing : (FunctionDef.ofInstruction inst).2 = none := by simp only [FunctionDef.ofInstruction, if_pos other]
      rw [nothing, ih]
      rfl
    next =>
      cases found : (FunctionDef.ofInstruction inst).2 with
      | some f =>
        simp only [found]
        exact ih _
      | none =>
        simp only [found]
        exact ih _

theorem Program.find?_collectFunctions (p : Program) (key : String) :
    p.collectFunctions.2.find? key =
      ((definitions p.instructions).reverse.find? fun f => Text.lower f.name = key).or
        ((p.functions.map Prod.snd).reverse.find? fun f => Text.lower f.name = key) := by
  have own : p.collectFunctions.2 =
      (Program.addDefinitions (FunctionTable.insertAll [] (p.functions.map Prod.snd)) p.instructions).2 := by
    rw [FunctionTable.insertAll, List.foldl_map]
    rfl
  rw [own, Program.addDefinitions_eq, FunctionTable.find?_insertAll, FunctionTable.find?_insertAll]
  exact congrArg _ Option.or_none

theorem mem_definitions : f ∈ definitions body ↔ ∃ inst ∈ body, inst.Defines f := by
  simp only [definitions, List.mem_filterMap, FunctionDef.ofInstruction_eq_some]

theorem find?_definitions_eq_none :
    ((definitions body).reverse.find? fun f => Text.lower f.name = key) = none ↔
      ∀ inst ∈ body, ∀ g : FunctionDef, inst.Defines g → Text.lower g.name ≠ key := by
  simp only [List.find?_eq_none, List.mem_reverse, mem_definitions, decide_eq_true_eq]
  exact ⟨fun absent inst member g defines => absent g ⟨inst, member, defines⟩,
    fun absent g ⟨inst, member, defines⟩ => absent inst member g defines⟩

theorem find?_definitions_eq_some :
    ((definitions body).reverse.find? fun f => Text.lower f.name = key) = some f ↔ LastDefined key body f := by
  constructor
  next =>
    intro found
    -- Seen from the end, what is skipped stands after the definition that is found.
    obtain ⟨named, later, earlier, split, skipped⟩ := List.find?_eq_some_iff_append.mp found
    have order : definitions body = earlier.reverse ++ f :: later.reverse := by
      rw [← List.reverse_reverse (definitions body), split]
      simp
    obtain ⟨before, rest, rfl, _, cut⟩ := List.filterMap_eq_append_iff.mp order
    obtain ⟨skip, inst, after, rfl, _, defines, others⟩ := List.filterMap_eq_cons_iff.mp cut
    refine ⟨by simpa using named, before ++ skip, inst, after, by simp, FunctionDef.ofInstruction_eq_some.mp defines, ?_⟩
    intro other member g definesOther
    have among : g ∈ later.reverse := others ▸ mem_definitions.mpr ⟨other, member, definesOther⟩
    simpa using skipped g (List.mem_reverse.mp among)
  next =>
    rintro ⟨named, before, inst, after, rfl, defines, last⟩
    have order : definitions (before ++ inst :: after) = definitions before ++ f :: definitions after := by
      have here := definitions_cons inst after
      rw [FunctionDef.ofInstruction_eq_some.mpr defines] at here
      rw [definitions, List.filterMap_append]
      exact congrArg _ here
    rw [order, List.reverse_append, List.reverse_cons, List.append_assoc, List.find?_append,
      find?_definitions_eq_none.mpr last, Option.none_or]
    simp [named]

theorem find?_functions_eq_some (distinct : (p.functions.map fun entry => Text.lower entry.2.name).Nodup) :
    ((p.functions.map Prod.snd).reverse.find? fun f => Text.lower f.name = key) = some f ↔
      ∃ k, (k, f) ∈ p.functions ∧ Text.lower f.name = key := by
  have names : ((p.functions.map Prod.snd).map fun f => Text.lower f.name).Nodup := by
    rw [List.map_map]
    exact distinct
  constructor
  next =>
    intro found
    obtain ⟨⟨k, _⟩, member, rfl⟩ := List.mem_map.mp (List.mem_reverse.mp (List.mem_of_find?_eq_some found))
    exact ⟨k, member, by simpa using List.find?_some found⟩
  next =>
    rintro ⟨k, member, named⟩
    have inside : f ∈ p.functions.map Prod.snd := List.mem_map.mpr ⟨_, member, rfl⟩
    cases found : (p.functions.map Prod.snd).reverse.find? fun f => Text.lower f.name = key with
    | none =>
      have absent := List.find?_eq_none.mp found f (List.mem_reverse.mpr inside)
      exact absurd named (by simpa using absent)
    | some g =>
      -- No other function of the table has the name.
      have same : Text.lower g.name = key := by simpa using List.find?_some found
      have member := List.mem_reverse.mp (List.mem_of_find?_eq_some found)
      rw [List.inj_on_of_nodup_map names member inside (same.trans named.symm)]

theorem Program.find?_eq_some (distinct : (p.functions.map fun entry => Text.lower entry.2.name).Nodup) :
    p.collectFunctions.2.find? key = some f ↔ p.Provides key f := by
  rw [p.find?_collectFunctions]
  cases defined : (definitions p.instructions).reverse.find? fun f => Text.lower f.name = key with
  | some g =>
    -- A definition decides, whatever the table holds.
    have last := find?_definitions_eq_some.mp defined
    rw [Option.some_or, Option.some.injEq]
    constructor
    next =>
      rintro rfl
      exact .defined last
    next =>
      intro provides
      cases provides with
      | defined other => exact Option.some.inj (defined.symm.trans (find?_definitions_eq_some.mpr other))
      | listed undefined =>
        rw [find?_definitions_eq_none.mpr undefined] at defined
        cases defined
  | none =>
    rw [Option.none_or, find?_functions_eq_some distinct]
    constructor
    next => exact fun ⟨k, member, named⟩ => .listed (find?_definitions_eq_none.mp defined) member named
    next =>
      intro provides
      cases provides with
      | defined last =>
        rw [find?_definitions_eq_some.mpr last] at defined
        cases defined
      | listed _ member named => exact ⟨_, member, named⟩

theorem Program.Provides.reorder {q : Program} (provides : p.Provides key f) (body : q.instructions = p.instructions)
    (order : p.functions.Perm q.functions) : q.Provides key f := by
  cases provides with
  | defined last => exact .defined (body ▸ last)
  | listed undefined member named => exact .listed (body ▸ undefined) (order.mem_iff.mp member) named

theorem Program.find?_reorder (distinct : (p.functions.map fun entry => Text.lower entry.2.name).Nodup)
    {functions : FunctionTable} (order : p.functions.Perm functions) (key : String) :
    { p with functions }.collectFunctions.2.find? key = p.collectFunctions.2.find? key := by
  have distinct' : (functions.map fun entry => Text.lower entry.2.name).Nodup := (order.map _).nodup_iff.mp distinct
  ext f
  rw [Program.find?_eq_some distinct, Program.find?_eq_some (p := { p with functions }) distinct']
  exact ⟨fun provides => provides.reorder rfl order.symm, fun provides => provides.reorder rfl order⟩

end Tables

end CueScript
