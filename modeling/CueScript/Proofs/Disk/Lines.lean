import CueScript.Proofs.Disk.Buffering
import Mathlib.Data.List.Chain

set_option autoImplicit false

namespace CueScript

inductive Terminator where
  | lineFeed
  | carriageReturn
  | both
deriving DecidableEq

namespace Terminator

def codes : Terminator → List Int64
  | .lineFeed => [10]
  | .carriageReturn => [13]
  | .both => [13, 10]

def bytes : Terminator → Bytes
  | .lineFeed => [0x0A]
  | .carriageReturn => [0x0D]
  | .both => [0x0D, 0x0A]

end Terminator

structure Line where
  text : String
  ending : Terminator

namespace Line

def accesses (e : Encoding) (line : Line) : List Access :=
  .writeText e line.text :: line.ending.codes.map (.writeNumber 1)

def bytes (e : Encoding) (line : Line) : Bytes :=
  e.encode line.text ++ line.ending.bytes

/-- The terminator of the first line would take in the second line. -/
def RunsInto (line next : Line) : Prop :=
  line.ending = .carriageReturn ∧ next.text = "" ∧ next.ending = .lineFeed

/-- The encoding gives the text back, and none of its bytes ends a line. -/
structure Plain (e : Encoding) (line : Line) : Prop where
  decodes : e.decode (e.encode line.text) = line.text
  unbroken : ∀ b ∈ e.encode line.text, isTerminator b = false

end Line

theorem Encoding.decode_nil (e : Encoding) : e.decode [] = "" := by
  cases e <;> decide +kernel

namespace PlainFile

variable {p : PlainFile}

def ended (contents : Bytes) : PlainFile :=
  { contents, position := contents.length }

theorem write_ended (contents bytes : Bytes) : (ended contents).write bytes = ended (contents ++ bytes) := by
  rw [write_eq fun _ => Nat.le_refl _]
  simp [ended, overwrite]

theorem session_append (p : PlainFile) (first later : List Access) :
    p.session (first ++ later) =
      ((p.session first).1 ++ ((p.session first).2.session later).1, ((p.session first).2.session later).2) := by
  induction first generalizing p with
  | nil => rfl
  | cons access rest ih => simp [session, ih]

section Writing

variable {e : Encoding}

theorem session_codes (contents : Bytes) (ending : Terminator) :
    (ended contents).session (ending.codes.map (.writeNumber 1)) =
      (ending.codes.map fun _ => .ok .done, ended (contents ++ ending.bytes)) := by
  have feed (contents : Bytes) :
      (ended contents).access (.writeNumber 1 10) = (.ok .done, ended (contents ++ [0x0A])) :=
    congrArg (Prod.mk _) (write_ended contents [0x0A])
  have ret (contents : Bytes) :
      (ended contents).access (.writeNumber 1 13) = (.ok .done, ended (contents ++ [0x0D])) :=
    congrArg (Prod.mk _) (write_ended contents [0x0D])
  cases ending <;> simp [Terminator.codes, Terminator.bytes, session, feed, ret]

theorem session_line (contents : Bytes) (line : Line) :
    (ended contents).session (line.accesses e) =
      ((line.accesses e).map fun _ => .ok .done, ended (contents ++ line.bytes e)) := by
  simp only [Line.accesses, session, access, write_ended, session_codes, Line.bytes, List.map_cons, List.map_map,
    List.append_assoc]
  rfl

theorem session_lines (contents : Bytes) (lines : List Line) :
    (ended contents).session (lines.flatMap (Line.accesses e)) =
      ((lines.flatMap (Line.accesses e)).map fun _ => .ok .done, ended (contents ++ lines.flatMap (Line.bytes e))) := by
  induction lines generalizing contents with
  | nil => simp [session]
  | cons line rest ih =>
    rw [List.flatMap_cons, List.flatMap_cons, session_append, session_line, ih, List.map_append, List.append_assoc]

end Writing

section Reading

variable {e : Encoding} {line : Line} {lines : List Line} {rest : Bytes}

theorem nextLine_line (plain : line.Plain e) (apart : line.ending = .carriageReturn → rest.head? ≠ some 0x0A) :
    nextLine (line.bytes e ++ rest) = (e.encode line.text, (line.bytes e).length) := by
  rw [Line.bytes, List.append_assoc, nextLine_append plain.unbroken]
  cases ending : line.ending with
  | lineFeed => simp [Terminator.bytes, nextLine]
  | carriageReturn =>
    have next : nextLine (0x0D :: rest) = ([], 1) := by simp [nextLine, apart ending]
    simp [Terminator.bytes, next]
  | both => simp [Terminator.bytes, nextLine]

theorem head_of_bytes (plain : line.Plain e) (feed : (line.bytes e ++ rest).head? = some 0x0A) :
    line.text = "" ∧ line.ending = .lineFeed := by
  -- A text that has bytes starts with one of them, and none of them is a terminator.
  cases encoded : e.encode line.text with
  | cons b bytes =>
    have unbroken := plain.unbroken b (by simp [encoded])
    simp only [Line.bytes, encoded, List.cons_append, List.head?_cons, Option.some.injEq] at feed
    simp [feed, isTerminator] at unbroken
  | nil =>
    constructor
    next => rw [← plain.decodes, encoded, e.decode_nil]
    next =>
      simp only [Line.bytes, encoded, List.nil_append] at feed
      cases ending : line.ending with
      | lineFeed => rfl
      | carriageReturn | both => simp [ending, Terminator.bytes] at feed

theorem head_of_lines (plain : ∀ line ∈ lines, line.Plain e) (apart : (line :: lines).IsChain fun a b => ¬ a.RunsInto b)
    (ending : line.ending = .carriageReturn) : (lines.flatMap (Line.bytes e)).head? ≠ some 0x0A := by
  cases lines with
  | nil => simp
  | cons next lines =>
    intro feed
    have first := head_of_bytes (plain next List.mem_cons_self) feed
    exact (List.isChain_cons_cons.mp apart).1 ⟨ending, first⟩

theorem access_line (before : Bytes) (plain : line.Plain e)
    (apart : line.ending = .carriageReturn → rest.head? ≠ some 0x0A) (chunks : Chunks) :
    PlainFile.access { contents := before ++ (line.bytes e ++ rest), position := before.length } (.readLine e chunks) =
      (.ok (.line line.text),
        { contents := (before ++ line.bytes e) ++ rest, position := (before ++ line.bytes e).length }) := by
  have next := nextLine_line plain apart
  simp only [access, List.drop_left, next, plain.decodes, List.length_append, List.append_assoc]

theorem access_end (contents : Bytes) (chunks : Chunks) :
    (ended contents).access (.readLine e chunks) = (.ok (.line ""), ended contents) := by
  simp [access, ended, nextLine, e.decode_nil]

theorem session_end (contents : Bytes) (chunks : Nat → Chunks) (first extra : Nat) :
    ((ended contents).session ((List.range' first extra).map fun i => .readLine e (chunks i))).1 =
      List.replicate extra (.ok (.line "")) := by
  induction extra generalizing first with
  | zero => rfl
  | succ extra ih => simp only [List.range'_succ, List.map_cons, session, access_end, ih, List.replicate_succ]

theorem session_reads (before : Bytes) (plain : ∀ line ∈ lines, line.Plain e)
    (apart : lines.IsChain fun a b => ¬ a.RunsInto b) (chunks : Nat → Chunks) (first extra : Nat) :
    (PlainFile.session { contents := before ++ lines.flatMap (Line.bytes e), position := before.length }
      ((List.range' first (lines.length + extra)).map fun i => .readLine e (chunks i))).1 =
      lines.map (fun line => .ok (.line line.text)) ++ List.replicate extra (.ok (.line "")) := by
  -- Each line that is read moves the position past its terminator, so what was read grows with the induction.
  induction lines generalizing before first with
  | nil =>
    have atEnd := session_end (e := e) before chunks first extra
    simpa [ended] using atEnd
  | cons line lines ih =>
    have plainLater (line : Line) (member : line ∈ lines) := plain line (List.mem_cons_of_mem _ member)
    have length : (line :: lines).length + extra = lines.length + extra + 1 := by
      rw [List.length_cons]
      omega
    have read := access_line before (plain line List.mem_cons_self) (head_of_lines plainLater apart) (chunks first)
    have later := ih (before ++ line.bytes e) plainLater (List.isChain_of_isChain_cons apart) (first + 1)
    rw [length, List.range'_succ]
    simp only [List.map_cons, List.flatMap_cons, session, read, later, List.cons_append]

end Reading

end PlainFile

/-- The texts come back in order, and then the empty text as often as one reads on. -/
theorem written_lines_read_back (place : Place) (e : Encoding) (lines : List Line) (chunks : Nat → Chunks)
    (extra : Nat) (decodes : ∀ line ∈ lines, e.decode (e.encode line.text) = line.text)
    (unbroken : ∀ line ∈ lines, 0x0A ∉ e.encode line.text ∧ 0x0D ∉ e.encode line.text)
    (apart : lines.IsChain fun a b => ¬ (a.ending = .carriageReturn ∧ b.text = "" ∧ b.ending = .lineFeed)) :
    (OpenFile.session { place } [] (lines.flatMap (Line.accesses e) ++ .seek 0 0 ::
      (List.range (lines.length + extra)).map fun i => .readLine e (chunks i))).1 =
    (lines.flatMap (Line.accesses e)).map (fun _ => .ok .done) ++ .ok (.position 0) ::
      (lines.map (fun line => .ok (.line line.text)) ++ List.replicate extra (.ok (.line ""))) := by
  have plain (line : Line) (member : line ∈ lines) : line.Plain e := by
    refine ⟨decodes line member, fun b inside => ?_⟩
    obtain ⟨noFeed, noReturn⟩ := unbroken line member
    have notFeed : b ≠ 0x0A := fun same => noFeed (same ▸ inside)
    have notReturn : b ≠ 0x0D := fun same => noReturn (same ▸ inside)
    simp [isTerminator, notFeed, notReturn]
  have stands : OpenFile.Stands (PlainFile.ended []) [] { place } := ⟨rfl, rfl, rfl, rfl, .empty [] 0⟩
  have back (contents : Bytes) :
      (PlainFile.ended contents).access (.seek 0 0) = (.ok (.position 0), { contents, position := 0 }) := rfl
  have reads := PlainFile.session_reads [] plain apart chunks 0 extra
  rw [(stands.session _).1, PlainFile.session_append, PlainFile.session_lines, PlainFile.session, back,
    List.range_eq_range']
  simp only [List.nil_append, List.length_nil] at reads ⊢
  rw [reads]

def mixedLines : List Line :=
  [{ text := "a", ending := .carriageReturn }, { text := "", ending := .both }, { text := "ｶﾅ", ending := .lineFeed },
   { text := "", ending := .lineFeed }]

theorem mixed_lines_read_back :
    (mixedLines.IsChain fun a b => ¬ (a.ending = .carriageReturn ∧ b.text = "" ∧ b.ending = .lineFeed)) ∧
    (OpenFile.session { place := ["t"] } [] (mixedLines.flatMap (Line.accesses .shiftJis) ++ .seek 0 0 ::
      (List.range (mixedLines.length + 2)).map fun _ => .readLine .shiftJis fun _ => 1)).1 =
    (mixedLines.flatMap (Line.accesses .shiftJis)).map (fun _ => .ok .done) ++
      [.ok (.position 0), .ok (.line "a"), .ok (.line ""), .ok (.line "ｶﾅ"), .ok (.line ""), .ok (.line ""),
        .ok (.line "")] := by
  have decodes : ∀ line ∈ mixedLines, Encoding.decode .shiftJis (Encoding.encode .shiftJis line.text) = line.text := by
    decide +kernel
  have unbroken : ∀ line ∈ mixedLines,
      0x0A ∉ Encoding.encode .shiftJis line.text ∧ 0x0D ∉ Encoding.encode .shiftJis line.text := by
    decide +kernel
  have apart : mixedLines.IsChain fun a b => ¬ (a.ending = .carriageReturn ∧ b.text = "" ∧ b.ending = .lineFeed) := by
    simp [mixedLines]
  exact ⟨apart, written_lines_read_back ["t"] .shiftJis mixedLines (fun _ _ => 1) 2 decodes unbroken apart⟩

end CueScript
