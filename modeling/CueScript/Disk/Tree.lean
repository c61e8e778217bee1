import CueScript.Bytes
import CueScript.Disk.Path
import CueScript.Fault

set_option autoImplicit false

namespace CueScript

inductive OsError where
  | notFound
  | badDescriptor
  | notDirectory
  | isDirectory
  | invalidArgument
  | nameTooLong
  | nulInName
  | unexpectedEnd
  | notText
deriving DecidableEq, Repr

namespace OsError

def message : OsError → String
  | .notFound => "No such file or directory (os error 2)"
  | .badDescriptor => "Bad file descriptor (os error 9)"
  | .notDirectory => "Not a directory (os error 20)"
  | .isDirectory => "Is a directory (os error 21)"
  | .invalidArgument => "Invalid argument (os error 22)"
  | .nameTooLong => "File name too long (os error 36)"
  | .nulInName => "file name contained an unexpected NUL byte"
  | .unexpectedEnd => "failed to fill whole buffer"
  | .notText => "stream did not contain valid UTF-8"

end OsError

inductive IoKind where
  | notFound
  | outOfMemory
  | permissionDenied
  | unexpectedEnd
  | other
deriving DecidableEq, Repr

def OsError.kind : OsError → IoKind
  | .notFound => .notFound
  | .unexpectedEnd => .unexpectedEnd
  | _ => .other

def Fault.ofIo (kind : IoKind) (message : String) : Fault :=
  match kind with
  | .notFound => { kind := .fileNotFound, message }
  | .outOfMemory => { kind := .outOfMemory, message }
  | _ => { kind := .io, message }

def OsError.toFault (e : OsError) : Fault :=
  Fault.ofIo e.kind e.message

inductive DiskNode where
  | file (contents : Bytes)
  | directory (entries : List (String × DiskNode))

namespace DiskNode

def isDirectory : DiskNode → Bool
  | .directory _ => true
  | .file _ => false

def entries : DiskNode → List (String × DiskNode)
  | .directory entries => entries
  | .file _ => []

def find? : List String → DiskNode → Option DiskNode
  | [], node => some node
  | name :: rest, .directory entries => (entries.lookup name).bind (find? rest)
  | _ :: _, .file _ => none

def putEntry (name : String) (node : DiskNode) : List (String × DiskNode) → List (String × DiskNode)
  | [] => [(name, node)]
  | (n, old) :: rest => if n = name then (n, node) :: rest else (n, old) :: putEntry name node rest

/-- Puts a node where the names lead to; directories on the way that are missing are made. -/
def put (new : DiskNode) : List String → DiskNode → DiskNode
  | [], _ => new
  | name :: rest, node =>
    let old := (node.entries.lookup name).getD (.directory [])
    .directory (putEntry name (put new rest old) node.entries)

end DiskNode

abbrev Place := List String

namespace Disk

/-- A root as it usually looks, with an empty directory for the title. -/
def bareRoot : List (String × DiskNode) :=
  let names := ["bin", "boot", "dev", "etc", "home", "lib", "lib64", "media", "mnt", "opt", "proc", "root", "run",
    "sbin", "srv", "sys", "usr", "var"]
  ("tmp", .directory [("title", .directory [])]) :: names.map fun name => (name, .directory [])

end Disk

/-- The entries of the root, and the place of the current directory. -/
structure Disk where
  root : List (String × DiskNode) := Disk.bareRoot
  home : Place := ["tmp", "title"]

namespace Disk

def nameLimit : Nat := 255

def pathLimit : Nat := 4095

def node? (disk : Disk) (place : Place) : Option DiskNode :=
  DiskNode.find? place (.directory disk.root)

def contents (disk : Disk) (place : Place) : Bytes :=
  match disk.node? place with
  | some (.file contents) => contents
  | _ => []

def put (disk : Disk) (place : Place) (node : DiskNode) : Disk :=
  { disk with root := (DiskNode.put node place (.directory disk.root)).entries }

def writeAt (disk : Disk) (place : Place) (contents : Bytes) : Disk :=
  disk.put place (.file contents)

def write (disk : Disk) (names : List String) (contents : Bytes) : Disk :=
  disk.writeAt (disk.home ++ names) contents

def makeDirectory (disk : Disk) (names : List String) : Disk :=
  match disk.node? (disk.home ++ names) with
  | some _ => disk
  | none => disk.put (disk.home ++ names) (.directory [])

def isDirectoryAt (disk : Disk) (place : Place) : Bool :=
  match disk.node? place with
  | some node => node.isDirectory
  | none => false

def enterName (disk : Disk) (place : Place) (name : String) : Except OsError Place :=
  if nameLimit < name.utf8ByteSize then .error .nameTooLong
  else if (disk.node? (place ++ [name])).isSome then .ok (place ++ [name])
  else .error .notFound

/-- Goes on from a place by one part of a path. The root is in itself. -/
def enter (disk : Disk) (place : Place) (part : String) : Except OsError Place :=
  if !disk.isDirectoryAt place then .error .notDirectory
  else if part = "." then .ok place
  else if part = ".." then .ok place.dropLast
  else disk.enterName place part

def follow (disk : Disk) (place : Place) : List String → Except OsError Place
  | [] => .ok place
  | part :: rest => (disk.enter place part).bind fun place => disk.follow place rest

def start (disk : Disk) (path : String) : Place :=
  if Path.isAbsolute path then [] else disk.home

def endsInSeparator (path : String) : Bool :=
  path.toList.getLast? == some '/'

def check (path : String) : Except OsError Unit :=
  if path.toList.contains (Char.ofNat 0) then .error .nulInName
  else if path.isEmpty then .error .notFound
  else if pathLimit < path.utf8ByteSize then .error .nameTooLong
  else .ok ()

def locate (disk : Disk) (path : String) : Except OsError Place := do
  check path
  let place ← disk.follow (disk.start path) (Path.parts path)
  if endsInSeparator path && !disk.isDirectoryAt place then .error .notDirectory else .ok place

def exists? (disk : Disk) (path : String) : Bool :=
  match disk.locate path with
  | .ok _ => true
  | .error _ => false

def isDirectory (disk : Disk) (path : String) : Bool :=
  match disk.locate path with
  | .ok place => disk.isDirectoryAt place
  | .error _ => false

def entryNames (disk : Disk) (place : Place) : List String :=
  ((disk.node? place).map fun node => node.entries.map (·.1)).getD []

/-- The names in a directory; none if it cannot be listed. -/
def list (disk : Disk) (path : String) : List String :=
  match disk.locate path with
  | .ok place => disk.entryNames place
  | .error _ => []

structure OpenMode where
  read : Bool := false
  write : Bool := false
  create : Bool := false
  truncate : Bool := false

/-- A name for what is not there yet: the directory it lies in and its name, if the path ends in one. -/
def fresh? (path : String) : Option (List String × String) :=
  match (Path.parts path).reverse with
  | name :: rest => if name = "." ∨ name = ".." then none else some (rest.reverse, name)
  | [] => none

def openAt (disk : Disk) (path : String) (mode : OpenMode) : Except OsError (Place × Disk) := do
  check path
  match fresh? path with
  | none =>
    let place ← disk.follow (disk.start path) (Path.parts path)
    if mode.write || mode.create then .error .isDirectory else .ok (place, disk)
  | some (parents, name) =>
    let dir ← disk.follow (disk.start path) parents
    if mode.create && endsInSeparator path then
      if disk.isDirectoryAt dir then .error .isDirectory else .error .notDirectory
    else match disk.enter dir name with
      | .error .notFound =>
        if mode.create then .ok (dir ++ [name], disk.writeAt (dir ++ [name]) []) else .error .notFound
      | .error e => .error e
      | .ok place =>
        if disk.isDirectoryAt place then
          if mode.write || mode.create then .error .isDirectory else .ok (place, disk)
        else if endsInSeparator path then .error .notDirectory
        else .ok (place, if mode.truncate then disk.writeAt place [] else disk)

def readFile (disk : Disk) (path : String) : Except OsError Bytes := do
  let place ← disk.locate path
  if disk.isDirectoryAt place then .error .isDirectory else .ok (disk.contents place)

def readText (disk : Disk) (path : String) : Except OsError String := do
  match Bytes.text? (← disk.readFile path) with
  | some text => .ok text
  | none => .error .notText

/-- The path with each component that is missing replaced by the entry of its directory that is equal to it in lower
case, if there is one. -/
def findIgnoringCase (disk : Disk) (found : List Path.Component) : List Path.Component → List Path.Component
  | [] => found
  | .name name :: rest =>
    if disk.exists? (Path.ofComponents (found ++ [.name name])) then
      disk.findIgnoringCase (found ++ [.name name]) rest
    else
      let dir := if found.isEmpty then "." else Path.ofComponents found
      let actual := ((disk.list dir).find? fun entry => Text.lower entry == Text.lower name).getD name
      disk.findIgnoringCase (found ++ [.name actual]) rest
  | other :: rest => disk.findIgnoringCase (found ++ [other]) rest

/-- The path of a file as scripts name it: separators of either kind, relative to a directory, and in any case. -/
def resolve (disk : Disk) (base name : String) : String :=
  let full := Path.join base (Path.normalize name)
  if disk.exists? full then full else Path.ofComponents (disk.findIgnoringCase [] (Path.components full))

end Disk

mutual

def DiskNode.listing (path : String) : DiskNode → List (String × Bytes)
  | .file contents => [(path, contents)]
  | .directory entries => (if path.isEmpty then [] else [(path ++ "/", [])]) ++ listEntries path entries

def listEntries (path : String) : List (String × DiskNode) → List (String × Bytes)
  | [] => []
  | (name, node) :: rest => DiskNode.listing (Path.join path name) node ++ listEntries path rest

end

def Disk.listing (disk : Disk) : List (String × Bytes) :=
  match disk.node? disk.home with
  | some node => (DiskNode.listing "" node).mergeSort fun a b => a.1 ≤ b.1
  | none => []

end CueScript
