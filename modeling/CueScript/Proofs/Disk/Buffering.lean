import CueScript.Disk.OpenFile
import CueScript.Encoding.Basic
import Mathlib.Data.List.TakeWhile

/-!
An open file behaves like one without a buffer. The reference is a file that consists of its bytes and of one position,
at which numbers and lines are read and everything is written. Whatever was read ahead for lines, and in whichever
pieces, a sequence of accesses has the same answers and leaves the same contents.
-/

set_option autoImplicit false

namespace CueScript

section Buffer

/-- The buffer holds what lies between the two positions: `logical`, up to which bytes were handed out, and `position`,
up to which they were taken from the file. -/
structure Buffers (contents : Bytes) (logical position : Nat) (buffer : Bytes) : Prop where
  bytes : contents.drop logical = buffer ++ contents.drop position
  place : position = logical + buffer.length

variable {contents : Bytes} {logical position : Nat} {buffer : Bytes}

theorem Buffers.empty (contents : Bytes) (position : Nat) : Buffers contents position position [] :=
  ⟨rfl, rfl⟩

theorem Buffers.consume {used rest : Bytes} (buffers : Buffers contents logical position (used ++ rest)) :
    Buffers contents (logical + used.length) position rest where
  bytes := by
    rw [← List.drop_drop, buffers.bytes, List.append_assoc, List.drop_left]
  place := by
    have place := buffers.place
    rw [List.length_append] at place
    omega

theorem Buffers.consumeByte {b : UInt8} {rest : Bytes} (buffers : Buffers contents logical position ([b] ++ rest)) :
    Buffers contents (logical + 1) position rest :=
  buffers.consume

theorem Buffers.take (contents : Bytes) (position count : Nat) :
    Buffers contents position (position + ((contents.drop position).take count).length)
      ((contents.drop position).take count) where
  bytes := by
    rw [← List.drop_drop, List.length_take]
    rcases Nat.le_total count (contents.drop position).length with fits | ends
    · rw [Nat.min_eq_left fits, List.take_append_drop]
    · rw [Nat.min_eq_right ends, List.take_of_length_le ends, List.drop_length, List.append_nil]
  place := rfl

end Buffer

section Lines

/-- The first line of some bytes, and the number of bytes up to and including its terminator: a line feed, a carriage
return, or both in this order. -/
def nextLine : Bytes → Bytes × Nat
  | [] => ([], 0)
  | b :: rest =>
    if b = 0x0A then ([], 1)
    else if b = 0x0D then ([], if rest.head? = some 0x0A then 2 else 1)
    else (b :: (nextLine rest).1, (nextLine rest).2 + 1)

theorem nextLine_append {before : Bytes} (plain : ∀ b ∈ before, isTerminator b = false) (rest : Bytes) :
    nextLine (before ++ rest) = (before ++ (nextLine rest).1, before.length + (nextLine rest).2) := by
  induction before with
  | nil => simp
  | cons b before ih =>
    obtain ⟨notFeed, notReturn⟩ : b ≠ 0x0A ∧ b ≠ 0x0D := by
      simpa [isTerminator] using plain b List.mem_cons_self
    have later := ih fun b member => plain b (List.mem_cons_of_mem _ member)
    simp only [List.cons_append, nextLine, notFeed, notReturn, if_false, later, List.length_cons, Prod.mk.injEq, true_and]
    omega

theorem nextLine_mark {mark : UInt8} (ends : isTerminator mark = true) (rest : Bytes) :
    nextLine (mark :: rest) = ([], 1 + if mark = 0x0D ∧ rest.head? = some 0x0A then 1 else 0) := by
  have either : mark = 0x0A ∨ mark = 0x0D := by simpa [isTerminator] using ends
  rcases either with rfl | rfl
  · rfl
  · by_cases feed : rest.head? = some 0x0A <;> simp [nextLine, feed]

theorem split_at_terminator (buffer : Bytes) : ∃ before after, buffer = before ++ after ∧
    buffer.takeWhile (!isTerminator ·) = before ∧ buffer.dropWhile (!isTerminator ·) = after ∧
    (∀ b ∈ before, isTerminator b = false) ∧ ∀ mark, after.head? = some mark → isTerminator mark = true := by
  refine ⟨_, _, List.takeWhile_append_dropWhile.symm, rfl, rfl, fun b member => ?_, fun mark first => ?_⟩
  · simpa using List.mem_takeWhile_imp member
  · have stops := List.head?_dropWhile_not (!isTerminator ·) buffer
    rw [first] at stops
    simpa using stops

namespace LineState

variable {chunks : Chunks} {contents : Bytes} {logical : Nat} {s : LineState}

abbrev At (contents : Bytes) (logical : Nat) (s : LineState) : Prop :=
  Buffers contents logical s.position s.buffer

@[simp]
theorem line_fill (chunks : Chunks) (contents : Bytes) (s : LineState) : (s.fill chunks contents).line = s.line := by
  unfold fill
  split <;> rfl

theorem At.fill (here : s.At contents logical) (chunks : Chunks) : (s.fill chunks contents).At contents logical := by
  unfold LineState.fill
  split
  next empty =>
    have place := here.place
    rw [List.isEmpty_iff.mp empty, List.length_nil, Nat.add_zero] at place
    rw [← place]
    exact Buffers.take contents s.position _
  next => exact here

theorem At.drop_of_fill_empty (here : s.At contents logical) (chunks : Chunks)
    (empty : (s.fill chunks contents).buffer = []) : contents.drop logical = [] := by
  unfold LineState.fill at empty
  split at empty
  next none =>
    have bytes := here.bytes
    rw [List.isEmpty_iff.mp none, List.nil_append] at bytes
    rw [bytes]
    rcases List.take_eq_nil_iff.mp empty with never | nothing
    · omega
    · exact nothing
  next some => simp [empty] at some

theorem At.skipLineFeed (here : s.At contents logical) (chunks : Chunks) :
    (s.skipLineFeed chunks contents).line = s.line ∧
    (s.skipLineFeed chunks contents).At contents
      (logical + if (contents.drop logical).head? = some 0x0A then 1 else 0) := by
  have filled := here.fill chunks
  have line := line_fill chunks contents s
  have atEnd := here.drop_of_fill_empty chunks
  unfold LineState.skipLineFeed
  dsimp only
  generalize s.fill chunks contents = t at filled line atEnd ⊢
  obtain ⟨_, position, buffer, _⟩ := t
  cases buffer with
  | nil =>
    have nothing := atEnd rfl
    simp only [nothing, List.head?_nil]
    exact ⟨line, filled⟩
  | cons b rest =>
    have head : (contents.drop logical).head? = some b := by rw [filled.bytes]; rfl
    rw [head]
    split
    next isFeed =>
      obtain ⟨rfl, rfl⟩ := List.cons.inj isFeed
      exact ⟨line, Buffers.consumeByte filled⟩
    next notFeed =>
      have differs : b ≠ 0x0A := fun same => notFeed rest (by rw [same])
      rw [if_neg (by simpa using differs)]
      exact ⟨line, filled⟩

theorem At.run (here : s.At contents logical) (chunks : Chunks) {rounds : Nat}
    (enough : (contents.drop logical).length < rounds) :
    (LineState.run chunks contents rounds s).line = s.line ++ (nextLine (contents.drop logical)).1 ∧
    (LineState.run chunks contents rounds s).At contents (logical + (nextLine (contents.drop logical)).2) := by
  induction rounds generalizing s logical with
  | zero => exact absurd enough (Nat.not_lt_zero _)
  | succ rounds ih =>
    have filled := here.fill chunks
    have line := line_fill chunks contents s
    have atEnd := here.drop_of_fill_empty chunks
    unfold LineState.run
    dsimp only
    generalize s.fill chunks contents = t at filled line atEnd ⊢
    obtain ⟨_, position, buffer, fills⟩ := t
    obtain rfl := line
    obtain ⟨before, after, rfl, first, others, plain, ends⟩ := split_at_terminator buffer
    dsimp only
    rw [first, others]
    cases after with
    | nil =>
      rw [List.append_nil] at filled atEnd ⊢
      have bytes : contents.drop logical = before ++ contents.drop position := filled.bytes
      have place : position = logical + before.length := filled.place
      dsimp only
      split
      next empty =>
        obtain rfl := List.isEmpty_iff.mp empty
        rw [atEnd rfl]
        exact ⟨(List.append_nil _).symm, filled⟩
      next some =>
        -- Nothing of the buffer is left, and the line goes on where the file was read up to.
        have fewer : (contents.drop position).length < rounds := by
          have nonempty : before.length ≠ 0 := by simpa using some
          rw [bytes, List.length_append] at enough
          omega
        have taken : LineState.At contents position { line := s.line ++ before, position, buffer := [], fills } :=
          .empty contents position
        obtain ⟨line, later⟩ := ih taken fewer
        rw [bytes, nextLine_append plain, ← Nat.add_assoc, ← place]
        exact ⟨by rw [line, List.append_assoc], later⟩
    | cons mark after =>
      have moved : Buffers contents (logical + before.length + 1) position after := Buffers.consumeByte filled.consume
      have bytes : contents.drop logical = before ++ mark :: contents.drop (logical + before.length + 1) := by
        rw [moved.bytes]
        simpa using filled.bytes
      rw [bytes, nextLine_append plain, nextLine_mark (ends mark rfl), List.append_nil, ← Nat.add_assoc, ← Nat.add_assoc]
      dsimp only
      split
      next isReturn =>
        simp only [isReturn, true_and]
        exact At.skipLineFeed (s := { line := s.line ++ before, position, buffer := after, fills }) moved chunks
      next notReturn =>
        rw [if_neg fun both => notReturn both.1]
        exact ⟨rfl, moved⟩

end LineState

end Lines

/-- What is done with an open file. The pieces in which the buffer for lines is filled are part of reading a line. -/
inductive Access where
  | readNumber (size : Int64)
  | writeNumber (size value : Int64)
  | seek (offset origin : Int64)
  | readLine (encoding : Encoding) (chunks : Chunks)
  | writeText (encoding : Encoding) (text : String)
  | flush

inductive Answer where
  | number (n : Nat)
  | position (n : Nat)
  | line (text : String)
  | done
deriving DecidableEq

def OpenFile.access (f : OpenFile) (contents : Bytes) : Access → Except FileFault Answer × Bytes × OpenFile
  | .readNumber size => ((f.readNumber contents size).1.map .number, contents, (f.readNumber contents size).2)
  | .writeNumber size value =>
    ((f.writeNumber contents size value).1.map fun _ => .done, (f.writeNumber contents size value).2)
  | .seek offset origin => ((f.seek contents offset origin).1.map .position, contents, (f.seek contents offset origin).2)
  | .readLine encoding chunks =>
    ((f.readLine chunks contents).1.map fun bytes => .line (encoding.decode bytes), contents,
      (f.readLine chunks contents).2)
  | .writeText encoding text =>
    ((f.writeText contents (encoding.encode text)).1.map fun _ => .done, (f.writeText contents (encoding.encode text)).2)
  | .flush => (.ok .done, contents, f.sync)

def OpenFile.session (f : OpenFile) (contents : Bytes) : List Access → List (Except FileFault Answer) × Bytes × OpenFile
  | [] => ([], contents, f)
  | access :: rest =>
    let first := f.access contents access
    let later := first.2.2.session first.2.1 rest
    (first.1 :: later.1, later.2)

/-- A file without a buffer: its bytes, and the position where it is read and written. -/
structure PlainFile where
  contents : Bytes
  position : Nat

namespace PlainFile

def putByte (b : UInt8) : Nat → Bytes → Bytes
  | 0, [] => [b]
  | 0, _ :: rest => b :: rest
  | place + 1, [] => 0 :: putByte b place []
  | place + 1, old :: rest => old :: putByte b place rest

def write (p : PlainFile) : Bytes → PlainFile
  | [] => p
  | b :: rest => write { contents := putByte b p.position p.contents, position := p.position + 1 } rest

/-- The number of the next `count` bytes; if there are fewer, they are used up nevertheless. -/
def read (p : PlainFile) (count : Nat) : Except FileFault Answer × PlainFile :=
  let bytes := (p.contents.drop p.position).take count
  (if bytes.length = count then .ok (.number (littleEndian bytes)) else .error (.os .unexpectedEnd),
    { p with position := p.position + bytes.length })

def origin? (p : PlainFile) (origin : Int64) : Option Nat :=
  if origin = 0 then some 0 else if origin = 1 then some p.position
  else if origin = 2 then some p.contents.length else none

def seek (p : PlainFile) (offset origin : Int64) : Except FileFault Answer × PlainFile :=
  match p.origin? origin with
  | none => (.error (.invalidOrigin origin), p)
  | some start =>
    let target := (start : Int) + offset.toInt
    if origin = 0 ∧ target < 0 then (.error .negativeSeek, p)
    else if 0 ≤ target ∧ target < 0x8000000000000000 then
      (.ok (.position target.toNat), { p with position := target.toNat })
    else (.error (.os .invalidArgument), p)

def access (p : PlainFile) : Access → Except FileFault Answer × PlainFile
  | .readNumber size =>
    match OpenFile.width? size with
    | some count => p.read count
    | none => (.error (.unsupportedSize size), p)
  | .writeNumber size value =>
    match OpenFile.width? size with
    | some count => (.ok .done, p.write (lowBytes value.toUInt64.toNat count))
    | none => (.error (.unsupportedSize size), p)
  | .seek offset origin => p.seek offset origin
  | .readLine encoding _ =>
    let line := nextLine (p.contents.drop p.position)
    (.ok (.line (encoding.decode line.1)), { p with position := p.position + line.2 })
  | .writeText encoding text => (.ok .done, p.write (encoding.encode text))
  | .flush => (.ok .done, p)

def session (p : PlainFile) : List Access → List (Except FileFault Answer) × PlainFile
  | [] => ([], p)
  | access :: rest =>
    let first := p.access access
    let later := first.2.session rest
    (first.1 :: later.1, later.2)

section Writing

variable {b : UInt8} {place : Nat} {contents bytes : Bytes}

theorem lt_length_putByte : place < (putByte b place contents).length := by
  induction place, contents using putByte.induct with
  | case1 | case2 => exact Nat.succ_pos _
  | case3 place ih | case4 place old rest ih => exact Nat.succ_lt_succ ih

theorem overwrite_putByte : overwrite (putByte b place contents) (place + 1) bytes = overwrite contents place (b :: bytes) := by
  have behind (old : UInt8) (rest : Bytes) (place : Nat) (bytes : Bytes) :
      overwrite (old :: rest) (place + 1) bytes = old :: overwrite rest place bytes := by
    simp [overwrite, Nat.add_right_comm place 1]
  have pastEnd (place : Nat) (bytes : Bytes) : overwrite [] (place + 1) bytes = 0 :: overwrite [] place bytes := by
    simp [overwrite, List.replicate_succ]
  induction place, contents using putByte.induct with
  | case1 => simp [putByte, overwrite]
  | case2 => simp [putByte, overwrite, Nat.add_comm 1]
  | case3 place ih => rw [putByte, behind, pastEnd, ih]
  | case4 place old rest ih => rw [putByte, behind, behind, ih]

/-- Bytes written one after the other are written as a whole. Without any bytes a gap is not filled. -/
theorem write_eq {p : PlainFile} (placed : bytes = [] → p.position ≤ p.contents.length) : p.write bytes =
    { contents := overwrite p.contents p.position bytes, position := p.position + bytes.length } := by
  induction bytes generalizing p with
  | nil =>
    have none : p.position - p.contents.length = 0 := Nat.sub_eq_zero_of_le (placed rfl)
    simp [write, overwrite, none]
  | cons b rest ih =>
    rw [write, ih fun _ => lt_length_putByte, overwrite_putByte, List.length_cons, Nat.add_right_comm, Nat.add_assoc]

end Writing

end PlainFile

/-- The open file can be read and written, and stands where the plain one does but for what it has buffered. -/
structure OpenFile.Stands (p : PlainFile) (contents : Bytes) (f : OpenFile) : Prop where
  readable : f.readable = true
  writable : f.writable = true
  file : f.directory = false
  contents : contents = p.contents
  buffers : Buffers p.contents p.position f.position (f.ahead.getD [])

namespace OpenFile.Stands

variable {p : PlainFile} {contents : Bytes} {f : OpenFile}

theorem sync_eq (stands : f.Stands p contents) : f.sync = { f with position := p.position, ahead := none } := by
  have place := stands.buffers.place
  unfold OpenFile.sync
  cases ahead : f.ahead with
  | some bytes =>
    rw [ahead, Option.getD_some] at place
    have back : f.position - bytes.length = p.position := by omega
    simp only [back]
  | none =>
    rw [ahead] at place
    have here : f.position = p.position := place
    show f = _
    rw [← here, ← ahead]

theorem unbuffered (stands : f.Stands p contents) (position : Nat) (contents' : Bytes) :
    OpenFile.Stands { contents := contents', position } contents' { f with position, ahead := none } where
  readable := stands.readable
  writable := stands.writable
  file := stands.file
  contents := rfl
  buffers := .empty _ _

theorem readError (stands : f.Stands p contents) : f.readError? = none := by
  simp [OpenFile.readError?, stands.readable, stands.file]

theorem readNumber (stands : f.Stands p contents) (size : Int64) :
    (f.access contents (.readNumber size)).1 = (p.access (.readNumber size)).1 ∧
    (f.access contents (.readNumber size)).2.2.Stands (p.access (.readNumber size)).2 contents := by
  obtain rfl := stands.contents
  have back (position : Nat) := stands.unbuffered position p.contents
  have open' (position : Nat) := (back position).readError
  simp only [OpenFile.access, PlainFile.access, OpenFile.readNumber, stands.sync_eq]
  cases OpenFile.width? size with
  | none => exact ⟨rfl, back p.position⟩
  | some count =>
    simp only [OpenFile.readBytes, open', PlainFile.read]
    have short : ((p.contents.drop p.position).take count).length ≤ count := List.length_take_le _ _
    split
    next fewer =>
      rw [if_neg (Nat.ne_of_lt fewer)]
      exact ⟨rfl, back _⟩
    next whole =>
      rw [if_pos (by omega)]
      exact ⟨rfl, back _⟩

theorem write (stands : f.Stands p contents) (bytes : Bytes) :
    (f.sync.writeBytes contents bytes).1 = .ok () ∧
    (f.sync.writeBytes contents bytes).2.2.Stands (p.write bytes) (f.sync.writeBytes contents bytes).2.1 := by
  obtain rfl := stands.contents
  rw [stands.sync_eq, OpenFile.writeBytes]
  cases bytes with
  | nil => exact ⟨rfl, stands.unbuffered p.position p.contents⟩
  | cons b rest =>
    have whole : p.write (b :: rest) = _ := PlainFile.write_eq fun none => by cases none
    rw [if_neg (by simp), if_neg (by simp [stands.writable]), whole]
    exact ⟨rfl, stands.unbuffered _ _⟩

theorem writeNumber (stands : f.Stands p contents) (size value : Int64) :
    (f.access contents (.writeNumber size value)).1 = (p.access (.writeNumber size value)).1 ∧
    (f.access contents (.writeNumber size value)).2.2.Stands (p.access (.writeNumber size value)).2
      (f.access contents (.writeNumber size value)).2.1 := by
  simp only [OpenFile.access, PlainFile.access, OpenFile.writeNumber]
  cases OpenFile.width? size with
  | none =>
    obtain rfl := stands.contents
    rw [stands.sync_eq]
    exact ⟨rfl, stands.unbuffered p.position p.contents⟩
  | some count =>
    obtain ⟨done, later⟩ := stands.write (lowBytes value.toUInt64.toNat count)
    exact ⟨by rw [done]; rfl, later⟩

theorem seek (stands : f.Stands p contents) (offset origin : Int64) :
    (f.access contents (.seek offset origin)).1 = (p.access (.seek offset origin)).1 ∧
    (f.access contents (.seek offset origin)).2.2.Stands (p.access (.seek offset origin)).2 contents := by
  obtain rfl := stands.contents
  have negative : offset < 0 ↔ offset.toInt < 0 := Int64.lt_iff_toInt_lt
  simp only [OpenFile.access, PlainFile.access]
  by_cases before : origin = 0 ∧ offset < 0
  · have starts : p.origin? origin = some 0 := if_pos before.1
    have plain : p.seek offset origin = (.error .negativeSeek, p) := by
      have below := negative.mp before.2
      rw [PlainFile.seek, starts]
      exact if_pos ⟨before.1, by omega⟩
    rw [OpenFile.seek, if_pos before, plain]
    exact ⟨rfl, stands⟩
  by_cases unknown : origin ≠ 0 ∧ origin ≠ 1 ∧ origin ≠ 2
  · have plain : p.seek offset origin = (.error (.invalidOrigin origin), p) := by
      simp only [PlainFile.seek, PlainFile.origin?, unknown, if_false]
    rw [OpenFile.seek, if_neg before, if_pos unknown, plain]
    exact ⟨rfl, stands⟩
  · -- The origin is one of the three, and what is left to refuse is a target that no file has.
    have starts : p.origin? origin =
        some (if origin = 0 then 0 else if origin = 1 then p.position else p.contents.length) := by
      grind [PlainFile.origin?]
    rw [OpenFile.seek, if_neg before, if_neg unknown, stands.sync_eq, PlainFile.seek, starts]
    dsimp only
    generalize target : ((if origin = 0 then 0 else if origin = 1 then p.position else p.contents.length : Nat) : Int) +
      offset.toInt = place
    have inside : ¬ (origin = 0 ∧ place < 0) := by
      rintro ⟨first, below⟩
      rw [if_pos first] at target
      exact before ⟨first, negative.mpr (by omega)⟩
    rw [if_neg inside]
    split
    next refused =>
      rw [if_neg (by omega)]
      exact ⟨rfl, stands.unbuffered p.position p.contents⟩
    next allowed =>
      rw [if_pos (by omega)]
      exact ⟨rfl, stands.unbuffered place.toNat p.contents⟩

theorem readLine (stands : f.Stands p contents) (encoding : Encoding) (chunks : Chunks) :
    (f.access contents (.readLine encoding chunks)).1 = (p.access (.readLine encoding chunks)).1 ∧
    (f.access contents (.readLine encoding chunks)).2.2.Stands (p.access (.readLine encoding chunks)).2 contents := by
  obtain rfl := stands.contents
  have here : LineState.At p.contents p.position { position := f.position, buffer := f.ahead.getD [] } := stands.buffers
  have enough : (p.contents.drop p.position).length < p.contents.length + 2 := by
    rw [List.length_drop]
    omega
  obtain ⟨line, later⟩ := here.run chunks enough
  have open' : OpenFile.readError? { f with ahead := some (f.ahead.getD []) } = none := stands.readError
  simp only [OpenFile.access, PlainFile.access, OpenFile.readLine, open', Option.getD_some]
  rw [line]
  exact ⟨rfl, stands.readable, stands.writable, stands.file, rfl, later⟩

theorem access (stands : f.Stands p contents) (access : Access) :
    (f.access contents access).1 = (p.access access).1 ∧
    (f.access contents access).2.2.Stands (p.access access).2 (f.access contents access).2.1 := by
  cases access with
  | readNumber size => exact stands.readNumber size
  | writeNumber size value => exact stands.writeNumber size value
  | seek offset origin => exact stands.seek offset origin
  | readLine encoding chunks => exact stands.readLine encoding chunks
  | writeText encoding text =>
    obtain ⟨done, later⟩ := stands.write (encoding.encode text)
    exact ⟨by simp only [OpenFile.access, OpenFile.writeText, done]; rfl, later⟩
  | flush =>
    obtain rfl := stands.contents
    refine ⟨rfl, ?_⟩
    simp only [OpenFile.access, stands.sync_eq]
    exact stands.unbuffered p.position p.contents

theorem session (stands : f.Stands p contents) (accesses : List Access) :
    (f.session contents accesses).1 = (p.session accesses).1 ∧
    (f.session contents accesses).2.2.Stands (p.session accesses).2 (f.session contents accesses).2.1 := by
  induction accesses generalizing f p contents with
  | nil => exact ⟨rfl, stands⟩
  | cons access rest ih =>
    obtain ⟨first, later⟩ := stands.access access
    obtain ⟨answers, last⟩ := ih later
    simp only [OpenFile.session, PlainFile.session]
    exact ⟨by rw [first, answers], last⟩

end OpenFile.Stands

theorem buffered_file_acts_unbuffered (place : Place) (contents : Bytes) (position : Nat) (accesses : List Access) :
    (OpenFile.session { place, position } contents accesses).1 =
      (PlainFile.session { contents, position } accesses).1 ∧
    (OpenFile.session { place, position } contents accesses).2.1 =
      (PlainFile.session { contents, position } accesses).2.contents ∧
    (OpenFile.session { place, position } contents accesses).2.2.sync.position =
      (PlainFile.session { contents, position } accesses).2.position := by
  have stands : OpenFile.Stands { contents, position } contents { place, position } :=
    ⟨rfl, rfl, rfl, rfl, .empty contents position⟩
  obtain ⟨answers, last⟩ := stands.session accesses
  exact ⟨answers, last.contents, by rw [last.sync_eq]⟩

end CueScript
