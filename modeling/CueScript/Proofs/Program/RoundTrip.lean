import CueScript.Program.Printer
import CueScript.Program.Reader
import CueScript.Proofs.Json.Records

set_option autoImplicit false

namespace CueScript

open Json

mutual

def Operand.floatFree : Operand → Bool
  | .float _ => false
  | .node inst => inst.floatFree
  | .block body => blockFloatFree body
  | _ => true

def Instruction.floatFree : Instruction → Bool
  | .mk _ args _ => operandsFloatFree args

def blockFloatFree : List Instruction → Bool
  | [] => true
  | inst :: rest => inst.floatFree && blockFloatFree rest

def operandsFloatFree : List Operand → Bool
  | [] => true
  | arg :: rest => arg.floatFree && operandsFloatFree rest

end

def Param.floatFree (p : Param) : Bool :=
  p.default.all Operand.floatFree

def FunctionDef.floatFree (f : FunctionDef) : Bool :=
  f.params.all Param.floatFree && blockFloatFree f.body

def Program.floatFree (p : Program) : Bool :=
  blockFloatFree p.instructions && p.functions.all fun entry => entry.2.floatFree

section Trees

structure FloatFreeCases (P : Operand → Prop) (Q : Instruction → Prop) : Prop where
  nil : P .nil
  int (n : Int64) : P (.int n)
  text (s : String) : P (.text s)
  var (s : String) : P (.var s)
  node {inst : Instruction} : Q inst → P (.node inst)
  block {body : Block} : (∀ inst ∈ body, Q inst) → P (.block body)
  inst (op : Opcode) {args : List Operand} (line : Option UInt32) : (∀ arg ∈ args, P arg) → Q (.mk op args line)

variable {P : Operand → Prop} {Q : Instruction → Prop}

mutual

theorem FloatFreeCases.operand (parts : FloatFreeCases P Q) : ∀ {operand : Operand}, operand.floatFree = true → P operand
  | .nil, _ => parts.nil
  | .int n, _ => parts.int n
  | .text s, _ => parts.text s
  | .var s, _ => parts.var s
  | .node _, free => parts.node (parts.instruction free)
  | .block _, free => parts.block (parts.instructions free)

theorem FloatFreeCases.instruction (parts : FloatFreeCases P Q) :
    ∀ {inst : Instruction}, inst.floatFree = true → Q inst
  | .mk op _ line, free => parts.inst op line (parts.operands free)

theorem FloatFreeCases.instructions (parts : FloatFreeCases P Q) :
    ∀ {body : List Instruction}, blockFloatFree body = true → ∀ inst ∈ body, Q inst
  | [], _, _, member => nomatch member
  | inst :: rest, free, other, member => by
    rw [blockFloatFree, Bool.and_eq_true] at free
    -- The first member stays a part of the list, so that the recursion is on the tree.
    obtain same | behind := List.mem_cons.mp member
    · rw [same]
      exact parts.instruction free.1
    · exact parts.instructions free.2 other behind

theorem FloatFreeCases.operands (parts : FloatFreeCases P Q) :
    ∀ {args : List Operand}, operandsFloatFree args = true → ∀ arg ∈ args, P arg
  | [], _, _, member => nomatch member
  | arg :: rest, free, other, member => by
    rw [operandsFloatFree, Bool.and_eq_true] at free
    obtain same | behind := List.mem_cons.mp member
    · rw [same]
      exact parts.operand free.1
    · exact parts.operands free.2 other behind

end

end Trees

section Records

theorem writeBlock_eq (body : List Instruction) : writeBlock body = body.map Instruction.toJson := by
  induction body with
  | nil => rfl
  | cons inst rest ih => rw [writeBlock, ih, List.map_cons]

theorem writeOperands_eq (args : List Operand) : writeOperands args = args.map Operand.toJson := by
  induction args with
  | nil => rfl
  | cons arg rest ih => rw [writeOperands, ih, List.map_cons]

theorem Instruction.toJson_eq (op : Opcode) (args : List Operand) (line : Option UInt32) :
    (Instruction.mk op args line).toJson =
      record [("op", op.toJson), ("args", .array (args.map Operand.toJson)), ("line", writeLine line)] := by
  rw [Instruction.toJson, writeOperands_eq]
  rfl

theorem Param.toJson_eq (p : Param) :
    p.toJson = record [("name", ofText p.name), ("default", ofOption Operand.toJson p.default)] :=
  rfl

theorem FunctionDef.toJson_eq (f : FunctionDef) :
    f.toJson = record [("name", ofText f.name), ("params", .array (f.params.map Param.toJson)),
      ("body", .array (f.body.map Instruction.toJson))] := by
  rw [FunctionDef.toJson, writeBlock_eq]
  rfl

def FunctionTable.toJson (table : FunctionTable) : Json :=
  record (table.map fun entry => (entry.1, entry.2.toJson))

theorem FunctionTable.toJson_eq (table : FunctionTable) :
    table.toJson = .object (table.map fun entry => (Json.key entry.1, entry.2.toJson)) := by
  simp [FunctionTable.toJson, record]

theorem Program.toJson_eq (p : Program) :
    p.toJson = record [("instructions", .array (p.instructions.map Instruction.toJson)),
      ("functions", p.functions.toJson), ("file", ofOption ofText p.file)] := by
  rw [FunctionTable.toJson_eq, Program.toJson, writeBlock_eq]
  rfl

end Records

section Spelling

theorem Opcode.spelled (op : Opcode) : op.toJson.Spelled := by
  cases op with
  | binary op => exact spelled_tagged (spelled_ofText _)
  | unary op => exact spelled_tagged (spelled_ofText _)
  | _ => exact spelled_ofText _

theorem spelledCases : FloatFreeCases (fun operand => operand.toJson.Spelled) fun inst => inst.toJson.Spelled where
  nil := spelled_ofText "Nil"
  int n := spelled_tagged (spelled_ofInt n.toInt)
  text s := spelled_tagged (spelled_ofText s)
  var s := spelled_tagged (spelled_ofText s)
  node spelled := spelled_tagged spelled
  block {body} each := by
    rw [Operand.toJson, writeBlock_eq]
    exact spelled_tagged (spelled_map each)
  inst op args line each := by
    rw [Instruction.toJson_eq]
    have numbered : (writeLine line).Spelled := spelled_ofOption (fun line _ => spelled_ofNat line.toNat)
    exact spelled_record (by simp [op.spelled, spelled_map each, numbered])

theorem Param.spelled {p : Param} (free : p.floatFree = true) : p.toJson.Spelled := by
  have default : (ofOption Operand.toJson p.default).Spelled :=
    spelled_ofOption fun operand given => spelledCases.operand ((Option.all_eq_true _ _).mp free operand given)
  rw [Param.toJson_eq]
  exact spelled_record (by simp [spelled_ofText, default])

theorem FunctionDef.spelled {f : FunctionDef} (free : f.floatFree = true) : f.toJson.Spelled := by
  obtain ⟨params, body⟩ := (Bool.and_eq_true _ _).mp free
  have params : Spelled (.array (f.params.map Param.toJson)) :=
    spelled_map fun p member => Param.spelled (List.all_eq_true.mp params p member)
  have body : Spelled (.array (f.body.map Instruction.toJson)) := spelled_map (spelledCases.instructions body)
  rw [FunctionDef.toJson_eq]
  exact spelled_record (by simp [spelled_ofText, params, body])

theorem Program.spelled {p : Program} (free : p.floatFree = true) : p.toJson.Spelled := by
  obtain ⟨instructions, functions⟩ := (Bool.and_eq_true _ _).mp free
  have instructions : Spelled (.array (p.instructions.map Instruction.toJson)) :=
    spelled_map (spelledCases.instructions instructions)
  have functions : p.functions.toJson.Spelled := by
    refine spelled_record fun field member => ?_
    obtain ⟨entry, present, rfl⟩ := List.mem_map.mp member
    exact FunctionDef.spelled (List.all_eq_true.mp functions entry present)
  have file : (ofOption ofText p.file).Spelled := spelled_ofOption fun name _ => spelled_ofText name
  rw [Program.toJson_eq]
  exact spelled_record (by simp [instructions, functions, file])

end Spelling

section Reading

theorem Opcode.read?_toJson (op : Opcode) {depth : Nat} (shallow : op.toJson.nesting ≤ depth) :
    Opcode.read? depth op.toJson = some op := by
  cases op with
  | binary op =>
    obtain ⟨below, rfl, _⟩ := nesting_tagged shallow
    have named : BinaryOp.ofName? op.name = some op := by cases op <;> decide
    have plain := tag?_tagged (rfl : (ofText op.name).isNull = false) (below + 1) "Binary"
    simp [Opcode.read?, Opcode.toJson, plain, named]
  | unary op =>
    obtain ⟨below, rfl, _⟩ := nesting_tagged shallow
    have named : UnaryOp.ofName? op.name = some op := by cases op <;> decide
    have plain := tag?_tagged (rfl : (ofText op.name).isNull = false) (below + 1) "Unary"
    simp [Opcode.read?, Opcode.toJson, plain, named]
  | _ =>
    simp only [Opcode.read?, Opcode.toJson, tag?_ofText, Option.bind_some]
    rfl

theorem readLine?_writeLine (line : Option UInt32) : readLine? (writeLine line) = some line := by
  refine optional?_ofOption fun line _ => ⟨rfl, ?_⟩
  have back := nat?_ofNat line.toNat_lt (by decide : UInt32.size ≤ UInt64.size)
  simp [back]

def ReadsBack {α : Type} (read : Nat → Json → Option α) (write : α → Json) (a : α) : Prop :=
  ∀ depth, (write a).nesting ≤ depth → read depth (write a) = some a

theorem ReadsBack.list {α : Type} {read : Nat → Json → Option α} {write : α → Json} {xs : List α}
    (each : ∀ x ∈ xs, ReadsBack read write x) {depth : Nat} (shallow : nesting (.array (xs.map write)) ≤ depth) :
    ∃ below, depth = below + 1 ∧ (xs.map write).mapM (read below) = some xs := by
  obtain ⟨below, level, parts⟩ := nesting_array shallow
  refine ⟨below, level, mapM_written fun x member => ?_⟩
  exact each x member below (parts _ (List.mem_map_of_mem member))

theorem readBlock?_written {body : Block} (each : ∀ inst ∈ body, ReadsBack Instruction.read? Instruction.toJson inst)
    {depth : Nat} (shallow : nesting (.array (body.map Instruction.toJson)) ≤ depth) :
    readBlock? depth (.array (body.map Instruction.toJson)) = some body := by
  obtain ⟨below, rfl, read⟩ := ReadsBack.list each shallow
  exact read

theorem readOperands?_written {args : List Operand} (each : ∀ arg ∈ args, ReadsBack Operand.read? Operand.toJson arg)
    {depth : Nat} (shallow : nesting (.array (args.map Operand.toJson)) ≤ depth) :
    readOperands? depth (.array (args.map Operand.toJson)) = some args := by
  obtain ⟨below, rfl, read⟩ := ReadsBack.list each shallow
  exact read

theorem readParams?_written {params : List Param} (each : ∀ p ∈ params, ReadsBack Param.read? Param.toJson p)
    {depth : Nat} (shallow : nesting (.array (params.map Param.toJson)) ≤ depth) :
    readParams? depth (.array (params.map Param.toJson)) = some params := by
  obtain ⟨below, rfl, read⟩ := ReadsBack.list each shallow
  exact read

theorem readCases :
    FloatFreeCases (ReadsBack Operand.read? Operand.toJson) (ReadsBack Instruction.read? Instruction.toJson) where
  nil depth _ := by
    cases depth <;> rw [Operand.toJson, Operand.read?, tag?_ofText, if_pos rfl]
  int n depth shallow := by
    obtain ⟨below, rfl, _⟩ := nesting_tagged shallow
    rw [Operand.toJson, Operand.read?, tag?_tagged rfl]
    simp [int64?_ofInt]
  text s depth shallow := by
    obtain ⟨below, rfl, _⟩ := nesting_tagged shallow
    rw [Operand.toJson, Operand.read?, tag?_tagged rfl]
    simp
  var s depth shallow := by
    obtain ⟨below, rfl, _⟩ := nesting_tagged shallow
    rw [Operand.toJson, Operand.read?, tag?_tagged rfl]
    simp
  node {inst} reads depth shallow := by
    obtain ⟨below, rfl, inside⟩ := nesting_tagged shallow
    -- Only a field with nothing under it would be taken for a name by itself.
    have present : inst.toJson.isNull = false := by cases inst; rfl
    rw [Operand.toJson, Operand.read?, tag?_tagged present]
    simp [reads below inside]
  block each depth shallow := by
    rw [Operand.toJson, writeBlock_eq] at shallow
    obtain ⟨below, rfl, inside⟩ := nesting_tagged shallow
    rw [Operand.toJson, Operand.read?, tag?_tagged rfl]
    simp [writeBlock_eq, readBlock?_written each inside]
  inst op args line each depth shallow := by
    rw [Instruction.toJson_eq] at shallow ⊢
    obtain ⟨below, rfl, parts⟩ := nesting_record shallow
    simp only [List.forall_mem_cons] at parts
    obtain ⟨opcode, operands, _⟩ := parts
    have fields : (record [("op", op.toJson), ("args", .array (args.map Operand.toJson)),
        ("line", writeLine line)]).record? ["op", "args", "line"] =
        some [some op.toJson, some (.array (args.map Operand.toJson)), some (writeLine line)] :=
      record?_record (by simp)
    rw [Instruction.read?, fields]
    simp [orDefault, op.read?_toJson opcode, readOperands?_written each operands, readLine?_writeLine]

theorem Operand.toJson_present (operand : Operand) (free : operand.floatFree = true) : operand.toJson.isNull = false := by
  cases operand with
  | float => cases free
  | nil | int | text | var | node | block => rfl

theorem Param.readsBack {p : Param} (free : p.floatFree = true) : ReadsBack Param.read? Param.toJson p := by
  intro depth shallow
  rw [Param.toJson_eq] at shallow ⊢
  obtain ⟨below, rfl, parts⟩ := nesting_record shallow
  have fields : (record [("name", ofText p.name), ("default", ofOption Operand.toJson p.default)]).record?
      ["name", "default"] = some [some (ofText p.name), some (ofOption Operand.toJson p.default)] :=
    record?_record (by simp)
  have default : optional? (Operand.read? below) (ofOption Operand.toJson p.default) = some p.default := by
    refine optional?_ofOption fun operand given => ?_
    have free := (Option.all_eq_true _ _).mp free operand given
    have inside := parts ("default", ofOption Operand.toJson p.default) (by simp)
    rw [given] at inside
    exact ⟨operand.toJson_present free, readCases.operand free below inside⟩
  rw [Param.read?, fields]
  simp [orDefault, default]

theorem FunctionDef.readsBack {f : FunctionDef} (free : f.floatFree = true) :
    ReadsBack FunctionDef.read? FunctionDef.toJson f := by
  intro depth shallow
  obtain ⟨params, body⟩ := (Bool.and_eq_true _ _).mp free
  rw [FunctionDef.toJson_eq] at shallow ⊢
  obtain ⟨below, rfl, parts⟩ := nesting_record shallow
  simp only [List.forall_mem_cons] at parts
  obtain ⟨_, paramsInside, bodyInside, _⟩ := parts
  have fields : (record [("name", ofText f.name), ("params", .array (f.params.map Param.toJson)),
      ("body", .array (f.body.map Instruction.toJson))]).record? ["name", "params", "body"] =
      some [some (ofText f.name), some (.array (f.params.map Param.toJson)),
        some (.array (f.body.map Instruction.toJson))] := record?_record (by simp)
  have params := readParams?_written (fun p member => Param.readsBack (List.all_eq_true.mp params p member)) paramsInside
  have body := readBlock?_written (readCases.instructions body) bodyInside
  rw [FunctionDef.read?, fields]
  simp [orDefault, params, body]

theorem FunctionTable.insert_new {table : FunctionTable} {key : String} (absent : key ∉ table.map Prod.fst)
    (f : FunctionDef) : table.insert key f = table ++ [(key, f)] := by
  induction table with
  | nil => rfl
  | cons entry rest ih =>
    rw [List.map_cons, List.mem_cons, not_or] at absent
    rw [FunctionTable.insert, if_neg (Ne.symm absent.1), ih absent.2, List.cons_append]

def FunctionTable.ofEntries (table : FunctionTable) (entries : List (String × FunctionDef)) : FunctionTable :=
  entries.foldl (fun table entry => FunctionTable.insert table entry.1 entry.2) table

theorem FunctionTable.ofEntries_distinct {table entries : FunctionTable}
    (distinct : ((table ++ entries).map Prod.fst).Nodup) : table.ofEntries entries = table ++ entries := by
  induction entries generalizing table with
  | nil => simp [FunctionTable.ofEntries]
  | cons entry rest ih =>
    have regrouped : table ++ entry :: rest = table ++ [entry] ++ rest := by simp
    have absent : entry.1 ∉ table.map Prod.fst := by
      rw [List.map_append, List.map_cons, List.nodup_append] at distinct
      exact fun present => distinct.2.2 entry.1 present entry.1 List.mem_cons_self rfl
    rw [regrouped] at distinct ⊢
    rw [← ih distinct, ← FunctionTable.insert_new absent]
    rfl

def FunctionTable.readEntry? (depth : Nat) (field : Bytes × Json) : Option (String × FunctionDef) := do
  let key ← Json.text? field.1
  let f ← FunctionDef.read? depth field.2
  pure (key, f)

theorem FunctionTable.read?_object (depth : Nat) (fields : List (Bytes × Json)) :
    FunctionTable.read? (depth + 1) (.object fields) =
      (fields.mapM (FunctionTable.readEntry? depth)).bind fun entries => some (FunctionTable.ofEntries [] entries) :=
  rfl

theorem FunctionTable.readsBack {table : FunctionTable} (free : ∀ entry ∈ table, entry.2.floatFree = true)
    (distinct : (table.map Prod.fst).Nodup) : ReadsBack FunctionTable.read? FunctionTable.toJson table := by
  intro depth shallow
  obtain ⟨below, rfl, parts⟩ := nesting_record shallow
  have entries : (table.map fun entry => (Json.key entry.1, entry.2.toJson)).mapM (FunctionTable.readEntry? below) =
      some table := by
    refine mapM_written fun entry member => ?_
    have inside := parts (entry.1, entry.2.toJson) (List.mem_map_of_mem member)
    simp [FunctionTable.readEntry?, text?_key, FunctionDef.readsBack (free entry member) below inside]
  have ordered : FunctionTable.ofEntries [] table = table := FunctionTable.ofEntries_distinct distinct
  rw [FunctionTable.toJson_eq, FunctionTable.read?_object, entries, Option.bind_some, ordered]

theorem Program.readsBack {p : Program} (free : p.floatFree = true) (distinct : (p.functions.map Prod.fst).Nodup) :
    ReadsBack Program.ofJson? Program.toJson p := by
  intro depth shallow
  obtain ⟨instructions, functions⟩ := (Bool.and_eq_true _ _).mp free
  rw [Program.toJson_eq] at shallow ⊢
  obtain ⟨below, rfl, parts⟩ := nesting_record shallow
  simp only [List.forall_mem_cons] at parts
  obtain ⟨instructionsInside, functionsInside, _⟩ := parts
  have fields : (record [("instructions", .array (p.instructions.map Instruction.toJson)),
      ("functions", p.functions.toJson), ("file", ofOption ofText p.file)]).record?
      ["instructions", "functions", "file"] =
      some [some (.array (p.instructions.map Instruction.toJson)), some p.functions.toJson,
        some (ofOption ofText p.file)] := record?_record (by simp)
  have instructions := readBlock?_written (readCases.instructions instructions) instructionsInside
  have functions := FunctionTable.readsBack (List.all_eq_true.mp functions) distinct below functionsInside
  have file : optional? string? (ofOption ofText p.file) = some p.file :=
    optional?_ofOption fun name _ => ⟨rfl, string?_ofText name⟩
  rw [Program.ofJson?, fields]
  simp [orDefault, instructions, functions, file]

end Reading

/-- A program written as JSON and read again. The table of functions is written in whatever order it is kept. -/
theorem program_reads_back {p : Program} (free : p.floatFree = true) (distinct : (p.functions.map Prod.fst).Nodup)
    (shallow : p.toJson.nesting < 128) : Program.read? p.render = some p := by
  have tree : Json.read? p.render = some p.toJson := (Program.spelled free).read?_render
  have program : Program.ofJson? depthLimit p.toJson = some p :=
    Program.readsBack free distinct depthLimit (Nat.le_of_lt_succ shallow)
  rw [Program.read?, tree, Option.bind_some, program]

def ornateTitle : Program where
  instructions :=
    [.mk .conditional
      [.node (.mk (.binary .lt) [.var "x", .int (-0x8000000000000000)] none),
       .block [.mk .call [.text "say \"\\\n\x01é", .nil] (some 0xFFFFFFFF)],
       .block []] (some 0)]
  functions :=
    [("f", { name := "F",
             params := [{ name := "a" }, { name := "b", default := some .nil },
               { name := "c", default := some (.node (.mk (.unary .neg) [.int 0x7FFFFFFFFFFFFFFF] none)) }],
             body := [.mk .returnValue [.var "a"] none] }),
     ("", { name := "", body := [] })]
  file := some "titles/π.json"

theorem ornate_title_reads_back :
    ornateTitle.floatFree = true ∧ (ornateTitle.functions.map Prod.fst).Nodup ∧ ornateTitle.toJson.nesting = 9 ∧
    Program.read? ornateTitle.render = some ornateTitle := by
  have free : ornateTitle.floatFree = true := by decide
  have distinct : (ornateTitle.functions.map Prod.fst).Nodup := by decide
  have nesting : ornateTitle.toJson.nesting = 9 := by decide
  exact ⟨free, distinct, nesting, program_reads_back free distinct (by rw [nesting]; decide)⟩

end CueScript
