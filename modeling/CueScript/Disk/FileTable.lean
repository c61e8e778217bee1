import CueScript.Disk.OpenFile

set_option autoImplicit false

namespace CueScript

structure FileTable where
  entries : List (Nat × OpenFile) := []

namespace FileTable

def firstFree (handle : Nat) : List (Nat × OpenFile) → Nat
  | [] => handle
  | (used, _) :: rest => if used = handle then firstFree (handle + 1) rest else handle

def freeHandle (t : FileTable) : Nat :=
  firstFree 1 t.entries

def insertEntry (handle : Nat) (f : OpenFile) : List (Nat × OpenFile) → List (Nat × OpenFile)
  | [] => [(handle, f)]
  | (h, g) :: rest =>
    if handle < h then (handle, f) :: (h, g) :: rest
    else if handle = h then (handle, f) :: rest
    else (h, g) :: insertEntry handle f rest

def bind (t : FileTable) (f : OpenFile) : Nat × FileTable :=
  (t.freeHandle, { entries := insertEntry t.freeHandle f t.entries })

def key? (handle : Int64) : Option Nat :=
  if handle < 1 then none else some handle.toInt.toNat

def get? (t : FileTable) (handle : Int64) : Option OpenFile :=
  (key? handle).bind fun key => t.entries.lookup key

def isOpen (t : FileTable) (handle : Int64) : Bool :=
  (t.get? handle).isSome

def update (t : FileTable) (handle : Int64) (f : OpenFile) : FileTable :=
  { entries := t.entries.map fun (key, g) => if key? handle = some key then (key, f) else (key, g) }

def remove (t : FileTable) (handle : Int64) : FileTable :=
  { entries := t.entries.filter fun (key, _) => key? handle ≠ some key }

def size (t : FileTable) : Nat :=
  t.entries.length

def isEmpty (t : FileTable) : Bool :=
  t.entries.isEmpty

def close (t : FileTable) (handle : Int64) : Except FileFault FileTable :=
  if t.isOpen handle then .ok (t.remove handle) else .error (.invalidHandle handle)

end FileTable

structure Files where
  disk : Disk := {}
  table : FileTable := {}

namespace Files

def openFile (fs : Files) (path : String) (mode : Disk.OpenMode) : Except OsError (Int64 × Files) := do
  let (place, disk) ← fs.disk.openAt path mode
  let file : OpenFile :=
    { place
      directory := disk.isDirectoryAt place
      readable := mode.read
      writable := mode.write }
  let (handle, table) := fs.table.bind file
  pure (Int64.ofNat handle, { disk, table })

def reading {α : Type} (fs : Files) (handle : Int64) (access : OpenFile → Bytes → Except FileFault α × OpenFile) :
    Except FileFault α × Files :=
  match fs.table.get? handle with
  | none => (.error (.invalidHandle handle), fs)
  | some file =>
    let (result, file) := access file (fs.disk.contents file.place)
    (result, { fs with table := fs.table.update handle file })

def writing (fs : Files) (handle : Int64)
    (access : OpenFile → Bytes → Except FileFault Unit × Bytes × OpenFile) : Except FileFault Unit × Files :=
  match fs.table.get? handle with
  | none => (.error (.invalidHandle handle), fs)
  | some file =>
    let (result, contents, file) := access file (fs.disk.contents file.place)
    let disk := if file.directory then fs.disk else fs.disk.writeAt file.place contents
    (result, { disk, table := fs.table.update handle file })

def readNumber (fs : Files) (handle size : Int64) : Except FileFault Nat × Files :=
  fs.reading handle fun file contents => file.readNumber contents size

def writeNumber (fs : Files) (handle size value : Int64) : Except FileFault Unit × Files :=
  fs.writing handle fun file contents => file.writeNumber contents size value

def seek (fs : Files) (handle offset origin : Int64) : Except FileFault Nat × Files :=
  fs.reading handle fun file contents => file.seek contents offset origin

def readLine (fs : Files) (handle : Int64) : Except FileFault Bytes × Files :=
  fs.reading handle fun file contents => file.readLine wholeBuffer contents

def writeText (fs : Files) (handle : Int64) (bytes : Bytes) : Except FileFault Unit × Files :=
  fs.writing handle fun file contents => file.writeText contents bytes

def flush (fs : Files) (handle : Int64) : Except FileFault Unit × Files :=
  fs.reading handle fun file _ => (.ok (), file.sync)

def close (fs : Files) (handle : Int64) : Except FileFault Unit × Files :=
  match fs.table.close handle with
  | .ok table => (.ok (), { fs with table })
  | .error e => (.error e, fs)

def closeAll (fs : Files) : Files :=
  { fs with table := {} }

end Files

end CueScript
