import CueScript.Builtin.Text

set_option autoImplicit false

namespace CueScript

namespace Action

/-- How each mode opens a file: for reading, emptied or made anew, or as it is or made anew. -/
def openMode? (mode : Int64) : Option Disk.OpenMode :=
  if mode = 0 then some { read := true }
  else if mode = 1 then some { read := true, write := true, create := true, truncate := true }
  else if mode = 2 then some { read := true, write := true, create := true }
  else none

def openFile (name mode : Value) : Run Value := fun m =>
  let name := name.display m.store
  let path := m.resolve name
  match openMode? mode.toInt with
  | none => .failed (Fault.invalidArgument s!"OpenF: unknown mode {mode.toInt} for {Text.quoted name}") m
  | some mode =>
    match m.files.openFile path mode with
    | .ok (handle, files) => .done (.int handle) { m with files }
    | .error error =>
      let fault := error.toFault
      .failed { kind := fault.kind, message := s!"OpenF {path}: {fault.message}" } m

def access {α : Type} (f : Files → Except FileFault α × Files) : Run α := fun m =>
  match f m.files with
  | (.ok a, files) => .done a { m with files }
  | (.error fault, files) => .failed fault.toFault { m with files }

def withHandle (name : String) (args : List Value) (use : Int64 → Run Value) : Run Value :=
  match args with
  | [] => Run.fail { kind := .invalidHandle, message := s!"{name}: missing file handle" }
  | handle :: _ => use handle.toInt

def readLine (handle : Int64) : Run Value := do
  let bytes ← access (·.readLine handle)
  Run.read fun m => .text (m.settings.encoding.decode bytes)

def writeText (handle : Int64) (text : Value) : Run Value := do
  if ← Run.read (!·.files.table.isOpen handle) then
    Run.fail (FileFault.toFault (.invalidHandle handle))
  else
    let bytes ← encode (← Run.read fun m => text.display m.store)
    access (·.writeText handle bytes)
    pure (.int 0)

def isExist (name : Value) : Run Value :=
  Run.read fun m => .ofBool (m.files.disk.exists? (m.resolve (name.display m.store)))

/-- Plays a file; that it cannot be played is only reported. -/
def play (label : String) (start : String → Audio → Played) (name : Value) : Run Value := do
  let path ← Run.read fun m => m.resolve (name.display m.store)
  let played ← Run.read fun m => start path m.audio
  Run.modify fun m => { m with audio := played.audio }
  played.warning.forM Run.warn
  played.failure.forM fun failure => Run.warn s!"{label} {path}: {failure}"
  pure (.int 0)

def mute (flag : Value) : Run Value := do
  let muted ← Run.read fun m => flag.isNil || flag.truthy m.store
  Run.modify fun m => if m.settings.headless && !muted then m else { m with audio := m.audio.mute muted }
  pure (.int 0)

end Action

end CueScript
