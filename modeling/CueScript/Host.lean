import CueScript.CommandLine
import CueScript.Machine.Create
import CueScript.Machine.Dispatch
import CueScript.Program.Reader
import CueScript.Text.Search

set_option autoImplicit false

namespace CueScript

namespace Host

inductive Start where
  | refused (refusal : CommandLine.Refusal)
  | failed (error : String) (disk : Disk)
  | ready (program : String) (machine : Machine)

def loadFailure (path : String) : String :=
  s!"failed to load config {path}"

def createLog (disk : Disk) : Option String → Except String Disk
  | none => .ok disk
  | some path =>
    match disk.openAt path { write := true, create := true, truncate := true } with
    | .ok (_, disk) => .ok disk
    | .error _ => .error s!"failed to create log file {path}"

def loadProgram (disk : Disk) (path : String) : Except String Program :=
  match disk.readText path with
  | .error _ => .error s!"failed to read {path}"
  | .ok text =>
    match Program.read? (Bytes.ofText text) with
    | some program => .ok program
    | none => .error s!"failed to parse {path}"

def start (args : List String) (disk : Disk) (seed : UInt64) : Start :=
  match CommandLine.parse args with
  | .error refusal => .refused refusal
  | .ok (path, arguments) =>
    match CommandLine.settings disk path arguments with
    | .error _ => .failed (loadFailure (arguments.config.getD "")) disk
    | .ok settings =>
      match createLog disk settings.log.file with
      | .error error => .failed error disk
      | .ok disk =>
        match loadProgram disk path with
        | .error error => .failed error disk
        | .ok program =>
          let audio := Audio.standIn { timer := TickTimer.ofRate settings.tickRate }
          match Machine.create program settings audio disk seed with
          | .error _ => .failed "invalid configuration" disk
          | .ok machine => .ready path machine

def logLine (r : LogRecord) : String :=
  match r.severity with
  | .error => s!"ERROR {r.text}"
  | .warning => s!"WARN {r.text}"

def logLines (m : Machine) : List String :=
  (m.log.toList.filter fun r => m.settings.log.level.admits r.severity).map logLine

structure Report where
  code : Nat
  error : Option String := none
  disk : Disk

def Report.errorLine (r : Report) : Option String :=
  r.error.map fun text => String.ofList (Text.firstLine text.toList)

def conclude (path : String) : Outcome Unit → Option Report
  | .done _ m => some { code := 0, disk := m.files.disk }
  | .failed _ m => some { code := 1, error := some s!"{path} aborted", disk := m.files.disk }
  | .exhausted => none

/-- The host as a whole, with time passing only in turns without an event. -/
def report (fuel : Nat) (args : List String) (disk : Disk) (seed : UInt64) : Option Report :=
  match start args disk seed with
  | .refused refusal => some { code := refusal.exitCode, disk }
  | .failed error disk => some { code := 1, error, disk }
  | .ready path machine => conclude path (run fuel machine)

end Host

end CueScript
