import CueScript.Json.Record
import CueScript.Program.Function

set_option autoImplicit false

namespace CueScript

namespace Json

def ofFloat (x : Float) : Json :=
  if x.isFinite then .number (Bytes.ofText (Decimal.diagnostic x)) else .null

end Json

def Opcode.toJson : Opcode → Json
  | .binary op => Json.tagged "Binary" (Json.ofText op.name)
  | .unary op => Json.tagged "Unary" (Json.ofText op.name)
  | op => Json.ofText op.name

def writeLine (line : Option UInt32) : Json :=
  Json.ofOption (fun line => Json.ofNat line.toNat) line

mutual

def Operand.toJson : Operand → Json
  | .nil => Json.ofText "Nil"
  | .int n => Json.tagged "Int" (Json.ofInt n.toInt)
  | .float x => Json.tagged "Float" (Json.ofFloat x)
  | .text s => Json.tagged "Text" (Json.ofText s)
  | .var s => Json.tagged "Var" (Json.ofText s)
  | .node inst => Json.tagged "Node" inst.toJson
  | .block body => Json.tagged "Block" (.array (writeBlock body))

def Instruction.toJson : Instruction → Json
  | .mk op args line =>
    .object [(Json.key "op", op.toJson), (Json.key "args", .array (writeOperands args)),
      (Json.key "line", writeLine line)]

def writeBlock : List Instruction → List Json
  | [] => []
  | inst :: rest => inst.toJson :: writeBlock rest

def writeOperands : List Operand → List Json
  | [] => []
  | arg :: rest => arg.toJson :: writeOperands rest

end

def Param.toJson (p : Param) : Json :=
  .object [(Json.key "name", Json.ofText p.name), (Json.key "default", Json.ofOption Operand.toJson p.default)]

def FunctionDef.toJson (f : FunctionDef) : Json :=
  .object [(Json.key "name", Json.ofText f.name), (Json.key "params", .array (f.params.map Param.toJson)),
    (Json.key "body", .array (writeBlock f.body))]

namespace Program

def toJson (p : Program) : Json :=
  .object [(Json.key "instructions", .array (writeBlock p.instructions)),
    (Json.key "functions", .object (p.functions.map fun (key, f) => (Json.key key, f.toJson))),
    (Json.key "file", Json.ofOption Json.ofText p.file)]

def render (p : Program) : Bytes :=
  p.toJson.render

end Program

end CueScript
