import CueScript.Host

set_option autoImplicit false

namespace CueScript

namespace Host

def allowance : Nat := 0x4000000000000000

def usage : String :=
  "Usage: cuescript [--headless] [--timeout MS] [--log-level LEVEL] [--log-file FILE] [--sound-font FILE]\n" ++
  "                 [--base-dir DIR] [--encoding ENCODING] [--config FILE] PROGRAM"

partial def loadEntries (path : String) : IO (List (String × DiskNode)) := do
  let mut entries := []
  for entry in ← (← IO.FS.realPath path).readDir do
    if ← entry.path.isDir then
      entries := (entry.fileName, .directory (← loadEntries entry.path.toString)) :: entries
    else
      entries := (entry.fileName, .file (← IO.FS.readBinFile entry.path).toList) :: entries
  return entries.reverse

/-- The files below the current directory, and of all else the directories on the way to it. -/
def loadDisk : IO Disk := do
  let home := Path.parts (← IO.currentDir).toString
  let entries ← loadEntries "."
  return { ({ root := [], home } : Disk).put home (.directory entries) with home }

def saveChanges (before after : Disk) : IO Unit := do
  let old := before.listing
  for (path, contents) in after.listing do
    if old.lookup path != some contents then
      if Disk.endsInSeparator path then IO.FS.createDirAll path
      else IO.FS.writeBinFile path (ByteArray.mk contents.toArray)

def printLog (m : Machine) : IO Unit := do
  for line in logLines m do
    match m.settings.log.file with
    | some path => (← IO.FS.Handle.mk path .append).putStrLn line
    | none => IO.eprintln line

partial def loop (m : Machine) : IO (Outcome Unit) := do
  let m := { m with now := ← IO.monoNanosNow }
  match turn allowance m with
  | .done .finished m => printLog m; return .done () m
  | .done .busy m => printLog m; loop m.forgetLog
  | .done .idle m => printLog m; IO.sleep 1; loop m.forgetLog
  | .failed fault m => printLog m; return .failed fault m
  | .exhausted => return .exhausted

def play (m : Machine) : IO (Outcome Unit) := do
  let m := { m with now := ← IO.monoNanosNow }.startClock
  match runProgram allowance m with
  | .done () m => printLog m; loop m.forgetLog
  | .failed fault m => printLog m; return .failed fault m
  | .exhausted => return .exhausted

def program (args : List String) : IO UInt32 := do
  let disk ← loadDisk
  match start args disk (UInt64.ofNat (← IO.rand 0 (UInt64.size - 1))) with
  | .refused refusal =>
    if refusal.exitCode = 0 then IO.println usage else IO.eprintln usage
    return UInt32.ofNat refusal.exitCode
  | .failed error after =>
    saveChanges disk after
    IO.eprintln s!"Error: {error}"
    return 1
  | .ready path machine =>
    saveChanges disk machine.files.disk
    let outcome ← play machine
    match conclude path (Run.afterwards (fun _ => outcome) Machine.shutdown machine) with
    | none => return 70
    | some report =>
      saveChanges machine.files.disk report.disk
      match report.error with
      | some error => IO.eprintln s!"Error: {error}"
      | none => pure ()
      return UInt32.ofNat report.code

end Host

end CueScript

def main (args : List String) : IO UInt32 :=
  CueScript.Host.program args
