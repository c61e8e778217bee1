import CueScript.Decimal.Shortest
import CueScript.Program.Instruction
import CueScript.Text.Quoted

set_option autoImplicit false

namespace CueScript

def diagnosticLine : Option UInt32 → String
  | some line => s!"Some({line})"
  | none => "None"

mutual

def Operand.diagnostic : Operand → String
  | .nil => "Nil"
  | .int n => s!"Int({n})"
  | .float x => s!"Float({Decimal.diagnostic x})"
  | .text s => s!"Text({Text.quoted s})"
  | .var s => s!"Var({Text.quoted s})"
  | .node inst => s!"Node({inst.diagnostic})"
  | .block body => s!"Block([{diagnosticBlock body}])"

def Instruction.diagnostic : Instruction → String
  | .mk op args line =>
    s!"Instruction \x7b op: {op.name}, args: [{diagnosticOperands args}], line: {diagnosticLine line} \x7d"

def diagnosticBlock : List Instruction → String
  | [] => ""
  | [inst] => inst.diagnostic
  | inst :: rest => s!"{inst.diagnostic}, {diagnosticBlock rest}"

def diagnosticOperands : List Operand → String
  | [] => ""
  | [arg] => arg.diagnostic
  | arg :: rest => s!"{arg.diagnostic}, {diagnosticOperands rest}"

end

end CueScript
