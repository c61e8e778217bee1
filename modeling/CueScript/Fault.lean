set_option autoImplicit false

namespace CueScript

inductive FaultKind where
  | stackOverflow
  | outOfMemory
  | undefinedFunction
  | fileNotFound
  | invalidHandle
  | invalidArgument
  | indexOutOfRange
  | undefinedVariable
  | divisionByZero
  | io
  | audio
deriving DecidableEq, Repr

namespace FaultKind

/-- A fatal fault ends the run; any other is reported and the run goes on after the statement. -/
def isFatal : FaultKind → Bool
  | .stackOverflow | .outOfMemory | .undefinedFunction => true
  | _ => false

def description : FaultKind → String
  | .stackOverflow => "stack overflow"
  | .outOfMemory => "out of memory"
  | .undefinedFunction => "undefined function"
  | .fileNotFound => "file not found"
  | .invalidHandle => "invalid handle"
  | .invalidArgument => "invalid argument"
  | .indexOutOfRange => "index out of range"
  | .undefinedVariable => "undefined variable"
  | .divisionByZero => "division by zero"
  | .io => "i/o error"
  | .audio => "audio error"

end FaultKind

structure Location where
  file : Option String := none
  line : UInt32
deriving DecidableEq, Repr

def Location.display (l : Location) : String :=
  match l.file with
  | some file => s!"{file}:{l.line}"
  | none => s!"line {l.line}"

structure Fault where
  kind : FaultKind
  message : String
  location : Option Location := none
deriving DecidableEq, Repr

namespace Fault

def isFatal (f : Fault) : Bool :=
  f.kind.isFatal

def located (f : Fault) (location : Option Location) : Fault :=
  { f with location := f.location.or location }

def display (f : Fault) : String :=
  let place := match f.location with
    | some l => s!" (at {l.display})"
    | none => ""
  s!"{f.kind.description}: {f.message}{place}"

def invalidArgument (message : String) : Fault :=
  { kind := .invalidArgument, message }

def undefinedFunction (name : String) : Fault :=
  { kind := .undefinedFunction, message := s!"`{name}` is not defined" }

end Fault

inductive Severity where
  | error
  | warning
deriving DecidableEq, Repr

structure LogRecord where
  severity : Severity
  text : String
deriving DecidableEq, Repr

end CueScript
