import CueScript.Program.Diagnostic
import CueScript.Text.Lower

set_option autoImplicit false

namespace CueScript

structure Param where
  name : String
  default : Option Operand := none

structure FunctionDef where
  name : String
  params : List Param := []
  body : Block

namespace Param

inductive Form where
  | param (p : Param)
  | malformed
  | nameless

def ofOperand : Operand → Form
  | .var name | .text name => .param { name }
  | .node inst =>
    if inst.op = .assign then
      match (inst.arg? 0).bind Operand.name? with
      | some name => .param { name, default := inst.arg? 1 }
      | none => .nameless
    else .malformed
  | _ => .malformed

/-- The parameters of the function called `owner` and the warnings about operands that are none. A default without a
name spoils the whole definition. -/
def ofOperands (owner : String) : List Operand → List String × Option (List Param)
  | [] => ([], some [])
  | operand :: rest =>
    match ofOperand operand with
    | .param p =>
      let (warnings, params) := ofOperands owner rest
      (warnings, params.map (p :: ·))
    | .malformed =>
      let (warnings, params) := ofOperands owner rest
      (s!"function `{owner}`: ignoring malformed parameter {operand.diagnostic}" :: warnings, params)
    | .nameless => ([], none)

end Param

def FunctionDef.ofInstruction (inst : Instruction) : List String × Option FunctionDef :=
  if inst.op ≠ .defineFunction then ([], none)
  else match (inst.arg? 0).bind Operand.name?, (inst.arg? 1).bind Operand.block? with
    | some name, some body =>
      let (warnings, params) := Param.ofOperands name (inst.args.drop 2)
      (warnings, params.map fun params => { name, params, body })
    | _, _ => ([], none)

abbrev FunctionTable := List (String × FunctionDef)

namespace FunctionTable

def insert (table : FunctionTable) (key : String) (def' : FunctionDef) : FunctionTable :=
  match table with
  | [] => [(key, def')]
  | (k, d) :: rest => if k = key then (k, def') :: rest else (k, d) :: insert rest key def'

def find? (table : FunctionTable) (key : String) : Option FunctionDef :=
  table.lookup key

end FunctionTable

structure Program where
  instructions : Block := []
  functions : FunctionTable := []
  file : Option String := none

namespace Program

def withFunction (p : Program) (f : FunctionDef) : Program :=
  { p with functions := p.functions.insert f.name f }

def addDefinitions (table : FunctionTable) : Block → List String × FunctionTable
  | [] => ([], table)
  | inst :: rest =>
    if inst.op ≠ .defineFunction then addDefinitions table rest
    else
      let (warnings, found) := FunctionDef.ofInstruction inst
      match found with
      | some f =>
        let (more, table) := addDefinitions (table.insert (Text.lower f.name) f) rest
        (warnings ++ more, table)
      | none =>
        let (more, table) := addDefinitions table rest
        (warnings ++ s!"malformed function definition at {diagnosticLine inst.line}" :: more, table)

/-- Every function of the program under its name in lower case. A definition among the instructions takes the place of
an earlier one and of the program's own table. -/
def collectFunctions (p : Program) : List String × FunctionTable :=
  let own := p.functions.foldl (fun table (_, f) => FunctionTable.insert table (Text.lower f.name) f) []
  addDefinitions own p.instructions

end Program

def Param.same (a b : Param) : Bool :=
  a.name == b.name &&
    match a.default, b.default with
    | some x, some y => x.same y
    | none, none => true
    | _, _ => false

def FunctionDef.same (a b : FunctionDef) : Bool :=
  a.name == b.name && a.params.length == b.params.length &&
    (a.params.zip b.params).all (fun (x, y) => x.same y) && sameBlock a.body b.body

def Program.same (a b : Program) : Bool :=
  sameBlock a.instructions b.instructions && a.file == b.file && a.functions.length == b.functions.length &&
    a.functions.all fun (key, f) =>
      match b.functions.find? key with
      | some g => f.same g
      | none => false

end CueScript
