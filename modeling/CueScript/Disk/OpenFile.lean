import CueScript.Disk.Tree

/-!
An open file. Numbers are read and written at its position. Lines are read through a buffer that runs ahead of what was
handed out; any other access first goes back to where the lines ended.
-/

set_option autoImplicit false

namespace CueScript

inductive FileFault where
  | invalidHandle (handle : Int64)
  | unsupportedSize (size : Int64)
  | invalidOrigin (origin : Int64)
  | negativeSeek
  | os (error : OsError)
deriving DecidableEq, Repr

namespace FileFault

def message : FileFault → String
  | .invalidHandle handle => s!"invalid file handle {handle}"
  | .unsupportedSize size => s!"unsupported integer width {size} (expected 1, 2 or 4)"
  | .invalidOrigin origin => s!"invalid seek origin {origin} (expected 0, 1 or 2)"
  | .negativeSeek => "seek to a negative position"
  | .os error => error.message

def toFault (f : FileFault) : Fault :=
  match f with
  | .invalidHandle _ => { kind := .invalidHandle, message := f.message }
  | .os error => error.toFault
  | _ => Fault.invalidArgument f.message

end FileFault

/-- Sizes of the pieces in which a buffer is filled, by the number of the fill. -/
abbrev Chunks := Nat → Nat

def bufferSize : Nat := 8192

def wholeBuffer : Chunks :=
  fun _ => bufferSize

structure OpenFile where
  place : Place
  directory : Bool := false
  readable : Bool := true
  writable : Bool := true
  position : Nat := 0
  /-- What the line reader took from the file and did not hand out yet. -/
  ahead : Option Bytes := none

def littleEndian : Bytes → Nat
  | [] => 0
  | b :: rest => b.toNat + 256 * littleEndian rest

def lowBytes (n : Nat) : Nat → Bytes
  | 0 => []
  | count + 1 => UInt8.ofNat (n % 256) :: lowBytes (n / 256) count

/-- Contents with some bytes written at a position; a gap before it is filled with zeros. -/
def overwrite (contents : Bytes) (position : Nat) (bytes : Bytes) : Bytes :=
  contents.take position ++ List.replicate (position - contents.length) 0 ++ bytes ++
    contents.drop (position + bytes.length)

def isTerminator (b : UInt8) : Bool :=
  b == 0x0A || b == 0x0D

/-- A line being read: what it holds so far, the position in the file, what is buffered, and the fills so far. -/
structure LineState where
  line : Bytes := []
  position : Nat
  buffer : Bytes
  fills : Nat := 0

def LineState.fill (chunks : Chunks) (contents : Bytes) (s : LineState) : LineState :=
  if s.buffer.isEmpty then
    let bytes := (contents.drop s.position).take (max 1 (min (chunks s.fills) bufferSize))
    { s with position := s.position + bytes.length, buffer := bytes, fills := s.fills + 1 }
  else s

/-- After a carriage return a line feed belongs to the same terminator. -/
def LineState.skipLineFeed (chunks : Chunks) (contents : Bytes) (s : LineState) : LineState :=
  let s := s.fill chunks contents
  match s.buffer with
  | 0x0A :: rest => { s with buffer := rest }
  | _ => s

/-- Reads up to a terminator or the end of the file. Every round but the first starts with a fill, so a round for each
byte of the file is enough. -/
def LineState.run (chunks : Chunks) (contents : Bytes) : Nat → LineState → LineState
  | 0, s => s
  | rounds + 1, s =>
    let s := s.fill chunks contents
    let before := s.buffer.takeWhile (!isTerminator ·)
    match s.buffer.dropWhile (!isTerminator ·) with
    | [] =>
      if s.buffer.isEmpty then s
      else run chunks contents rounds { s with line := s.line ++ before, buffer := [] }
    | mark :: after =>
      let s := { s with line := s.line ++ before, buffer := after }
      if mark = 0x0D then s.skipLineFeed chunks contents else s

namespace OpenFile

def sync (f : OpenFile) : OpenFile :=
  match f.ahead with
  | some bytes => { f with position := f.position - bytes.length, ahead := none }
  | none => f

def readError? (f : OpenFile) : Option OsError :=
  if !f.readable then some .badDescriptor else if f.directory then some .isDirectory else none

/-- Exactly `count` bytes at the position. If there are fewer, they are used up nevertheless. -/
def readBytes (f : OpenFile) (contents : Bytes) (count : Nat) : Except FileFault Bytes × OpenFile :=
  match f.readError? with
  | some error => (.error (.os error), f)
  | none =>
    let bytes := (contents.drop f.position).take count
    let f := { f with position := f.position + bytes.length }
    if bytes.length < count then (.error (.os .unexpectedEnd), f) else (.ok bytes, f)

def width? (size : Int64) : Option Nat :=
  if size = 1 then some 1 else if size = 2 then some 2 else if size = 4 then some 4 else none

def readNumber (f : OpenFile) (contents : Bytes) (size : Int64) : Except FileFault Nat × OpenFile :=
  let f := f.sync
  match width? size with
  | none => (.error (.unsupportedSize size), f)
  | some count =>
    let (result, f) := f.readBytes contents count
    (result.map littleEndian, f)

def writeBytes (f : OpenFile) (contents bytes : Bytes) : Except FileFault Unit × Bytes × OpenFile :=
  if bytes.isEmpty then (.ok (), contents, f)
  else if !f.writable then (.error (.os .badDescriptor), contents, f)
  else (.ok (), overwrite contents f.position bytes, { f with position := f.position + bytes.length })

def writeNumber (f : OpenFile) (contents : Bytes) (size value : Int64) : Except FileFault Unit × Bytes × OpenFile :=
  let f := f.sync
  match width? size with
  | none => (.error (.unsupportedSize size), contents, f)
  | some count => f.writeBytes contents (lowBytes value.toUInt64.toNat count)

/-- Moves the position to `offset` from the start (0), the position (1) or the end (2). -/
def seek (f : OpenFile) (contents : Bytes) (offset origin : Int64) : Except FileFault Nat × OpenFile :=
  if origin = 0 ∧ offset < 0 then (.error .negativeSeek, f)
  else if origin ≠ 0 ∧ origin ≠ 1 ∧ origin ≠ 2 then (.error (.invalidOrigin origin), f)
  else
    let f := f.sync
    let from' : Nat := if origin = 0 then 0 else if origin = 1 then f.position else contents.length
    let target := (from' : Int) + offset.toInt
    if target < 0 ∨ 0x8000000000000000 ≤ target then (.error (.os .invalidArgument), f)
    else (.ok target.toNat, { f with position := target.toNat })

def readLine (chunks : Chunks) (f : OpenFile) (contents : Bytes) : Except FileFault Bytes × OpenFile :=
  let f := { f with ahead := some (f.ahead.getD []) }
  match f.readError? with
  | some error => (.error (.os error), f)
  | none =>
    let s := LineState.run chunks contents (contents.length + 2)
      { position := f.position, buffer := f.ahead.getD [] }
    (.ok s.line, { f with position := s.position, ahead := some s.buffer })

/-- Writes bytes after going back to where the lines ended. -/
def writeText (f : OpenFile) (contents bytes : Bytes) : Except FileFault Unit × Bytes × OpenFile :=
  f.sync.writeBytes contents bytes

end OpenFile

end CueScript
