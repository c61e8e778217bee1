import CueScript.Json.Record
import CueScript.Program.Function

set_option autoImplicit false

namespace CueScript

namespace Opcode

def ofName? (name : String) : Option Opcode :=
  plain.find? (·.name == name)

def read? (depth : Nat) (tree : Json) : Option Opcode :=
  match (tree.tag? depth).bind ofName?, depth with
  | some op, _ => some op
  | none, 0 => none
  | none, depth + 1 => do
    let (name, value) ← tree.tagged?
    if name = "Binary" then (value.tag? depth).bind fun op => (BinaryOp.ofName? op).map .binary
    else if name = "Unary" then (value.tag? depth).bind fun op => (UnaryOp.ofName? op).map .unary
    else none

end Opcode

def readLine? (tree : Json) : Option (Option UInt32) :=
  Json.optional? (fun tree => (tree.nat? UInt32.size).map UInt32.ofNat) tree

mutual

def Operand.read? : Nat → Json → Option Operand
  | depth, tree =>
    if tree.tag? depth = some "Nil" then some .nil
    else match depth with
      | 0 => none
      | depth + 1 => do
        let (name, value) ← tree.tagged?
        if name = "Int" then value.int64?.map .int
        else if name = "Float" then value.float?.map .float
        else if name = "Text" then value.string?.map .text
        else if name = "Var" then value.string?.map .var
        else if name = "Node" then (Instruction.read? depth value).map .node
        else if name = "Block" then (readBlock? depth value).map .block
        else none

def Instruction.read? : Nat → Json → Option Instruction
  | 0, _ => none
  | depth + 1, tree =>
    match tree.record? ["op", "args", "line"] with
    | some [some op, args, line] => do
      let op ← Opcode.read? depth op
      let args ← Json.orDefault [] (readOperands? depth) args
      let line ← Json.orDefault none readLine? line
      pure (.mk op args line)
    | _ => none

def readBlock? : Nat → Json → Option (List Instruction)
  | depth + 1, .array items => items.mapM (Instruction.read? depth)
  | _, _ => none

def readOperands? : Nat → Json → Option (List Operand)
  | depth + 1, .array items => items.mapM (Operand.read? depth)
  | _, _ => none

end

def Param.read? : Nat → Json → Option Param
  | 0, _ => none
  | depth + 1, tree =>
    match tree.record? ["name", "default"] with
    | some [some name, default] => do
      let name ← name.string?
      let default ← Json.orDefault none (Json.optional? (Operand.read? depth)) default
      pure { name, default }
    | _ => none

def readParams? : Nat → Json → Option (List Param)
  | depth + 1, .array items => items.mapM (Param.read? depth)
  | _, _ => none

def FunctionDef.read? : Nat → Json → Option FunctionDef
  | 0, _ => none
  | depth + 1, tree =>
    match tree.record? ["name", "params", "body"] with
    | some [some name, params, some body] => do
      let name ← name.string?
      let params ← Json.orDefault [] (readParams? depth) params
      let body ← readBlock? depth body
      pure { name, params, body }
    | _ => none

/-- Of two functions under one key the last counts. -/
def FunctionTable.read? : Nat → Json → Option FunctionTable
  | depth + 1, .object fields => do
    let entries ← fields.mapM fun (key, value) => do
      let key ← Json.text? key
      let f ← FunctionDef.read? depth value
      pure (key, f)
    pure (entries.foldl (fun table (key, f) => FunctionTable.insert table key f) [])
  | _, _ => none

namespace Program

def ofJson? : Nat → Json → Option Program
  | 0, _ => none
  | depth + 1, tree =>
    match tree.record? ["instructions", "functions", "file"] with
    | some [some instructions, functions, file] => do
      let instructions ← readBlock? depth instructions
      let functions ← Json.orDefault [] (FunctionTable.read? depth) functions
      let file ← Json.orDefault none (Json.optional? Json.string?) file
      pure { instructions, functions, file }
    | _ => none

def read? (bytes : Bytes) : Option Program :=
  (Json.read? bytes).bind (ofJson? Json.depthLimit)

end Program

end CueScript
