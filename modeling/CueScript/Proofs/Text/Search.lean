import CueScript.Builtin.Call
import Mathlib.Algebra.Group.Nat.Defs
import Mathlib.Data.List.Infix
import Mathlib.Tactic.Common

set_option autoImplicit false

namespace CueScript

namespace Text

section Lists

variable {α : Type} [BEq α] [LawfulBEq α] {part whole : List α}

structure FirstAt (part whole : List α) (i : Nat) : Prop where
  inside : i ≤ whole.length
  here : part <+: whole.drop i
  first : ∀ j < i, ¬ part <+: whole.drop j

theorem indexOf?_spec (part whole : List α) :
    (∃ i, indexOf? part whole = some i ∧ FirstAt part whole i) ∨
      indexOf? part whole = none ∧ ∀ j, ¬ part <+: whole.drop j := by
  induction whole with
  | nil =>
    simp only [indexOf?]
    cases part with
    | nil => exact .inl ⟨0, rfl, Nat.le_refl 0, List.nil_prefix, nofun⟩
    | cons a rest => exact .inr ⟨rfl, by simp⟩
  | cons a rest ih =>
    simp only [indexOf?]
    split
    next here => exact .inl ⟨0, rfl, Nat.zero_le _, List.isPrefixOf_iff_prefix.mp here, nofun⟩
    next other =>
      rw [List.isPrefixOf_iff_prefix] at other
      rcases ih with ⟨i, found, least⟩ | ⟨missing, never⟩
      · refine .inl ⟨i + 1, by rw [found]; rfl, Nat.succ_le_succ least.inside, least.here, fun j below => ?_⟩
        cases j with
        | zero => exact other
        | succ j => exact least.first j (Nat.lt_of_succ_lt_succ below)
      · refine .inr ⟨by rw [missing]; rfl, fun j => ?_⟩
        cases j with
        | zero => exact other
        | succ j => exact never j

end Lists

end Text

namespace Bytes

open Text (FirstAt)

def ofChars (text : List Char) : Bytes :=
  text.flatMap String.utf8EncodeChar

theorem ofText_ofList (text : List Char) : Bytes.ofText (String.ofList text) = ofChars text := by
  rw [Bytes.ofText, String.toByteArray_ofList, List.utf8Encode, ofChars]
  simp

theorem ofChars_append (front back : List Char) : ofChars (front ++ back) = ofChars front ++ ofChars back :=
  List.flatMap_append

theorem ofChars_prefix_iff {part text : List Char} : ofChars part <+: ofChars text ↔ part <+: text := by
  constructor
  next =>
    rintro ⟨rest, whole⟩
    apply List.isPrefix_of_utf8Encode_append_eq_utf8Encode rest.toByteArray
    rw [List.utf8Encode, List.utf8Encode, ← ofChars, ← ofChars, ← whole, List.toByteArray_append]
  next =>
    rintro ⟨rest, rfl⟩
    exact ⟨ofChars rest, (ofChars_append part rest).symm⟩

/-- Bytes that begin a character stand only where a character begins. -/
theorem boundary_of_firstByte {text : List Char} {i : Nat} {b : UInt8} (found : (ofChars text)[i]? = some b)
    (begins : b.IsUTF8FirstByte) : ∃ k ≤ text.length, i = (ofChars (text.take k)).length := by
  induction text generalizing i with
  | nil => cases found
  | cons c rest ih =>
    have parts : ofChars (c :: rest) = String.utf8EncodeChar c ++ ofChars rest := List.flatMap_cons
    rw [parts] at found
    by_cases within : i < (String.utf8EncodeChar c).length
    next =>
      rw [List.getElem?_append_left within, List.getElem?_eq_getElem within, Option.some.injEq] at found
      subst found
      exact ⟨0, Nat.zero_le _, UInt8.isUTF8FirstByte_getElem_utf8EncodeChar.mp begins⟩
    next =>
      rw [List.getElem?_append_right (Nat.not_lt.mp within)] at found
      obtain ⟨k, inside, place⟩ := ih found
      refine ⟨k + 1, Nat.succ_le_succ inside, ?_⟩
      have longer : ofChars ((c :: rest).take (k + 1)) = String.utf8EncodeChar c ++ ofChars (rest.take k) :=
        List.flatMap_cons
      rw [longer, List.length_append]
      omega

theorem ofChars_take_drop (text : List Char) (k : Nat) :
    (ofChars text).take (ofChars (text.take k)).length = ofChars (text.take k) ∧
      (ofChars text).drop (ofChars (text.take k)).length = ofChars (text.drop k) := by
  have parts : ofChars text = ofChars (text.take k) ++ ofChars (text.drop k) := by
    rw [← ofChars_append, List.take_append_drop]
  rw [parts, List.take_left, List.drop_left]
  exact ⟨rfl, rfl⟩

theorem length_le_ofChars (text : List Char) : text.length ≤ (ofChars text).length := by
  induction text with
  | nil => exact Nat.le_refl 0
  | cons c rest ih =>
    have one : 0 < (String.utf8EncodeChar c).length := List.length_pos_of_ne_nil String.utf8EncodeChar_ne_nil
    simp only [ofChars, List.flatMap_cons, List.length_cons, List.length_append] at ih ⊢
    omega

theorem length_ofChars_take_lt {text : List Char} {j k : Nat} (less : j < k) (inside : k ≤ text.length) :
    (ofChars (text.take j)).length < (ofChars (text.take k)).length := by
  have parts : text.take k = text.take j ++ (text.drop j).take (k - j) := by
    rw [← List.take_add, Nat.add_sub_cancel' (Nat.le_of_lt less)]
  have between := length_le_ofChars ((text.drop j).take (k - j))
  rw [List.length_take, List.length_drop] at between
  rw [parts, ofChars_append, List.length_append]
  omega

theorem boundary_of_firstAt {part text : List Char} {i : Nat} (found : FirstAt (ofChars part) (ofChars text) i) :
    ∃ k ≤ text.length, i = (ofChars (text.take k)).length := by
  cases part with
  | nil =>
    -- The empty part stands everywhere, so it is found at the start.
    cases i with
    | zero => exact ⟨0, Nat.zero_le _, rfl⟩
    | succ i => exact absurd List.nil_prefix (found.first 0 (Nat.zero_lt_succ i))
  | cons c rest =>
    obtain ⟨more, whole⟩ := found.here
    obtain ⟨b, bytes, encoded⟩ := List.exists_cons_of_ne_nil (String.utf8EncodeChar_ne_nil (c := c))
    have begins : b.IsUTF8FirstByte := by
      have first := UInt8.isUTF8FirstByte_getElem_zero_utf8EncodeChar (c := c)
      simpa only [encoded, List.getElem_cons_zero] using first
    have byte : (ofChars text)[i]? = some b := by
      rw [← List.head?_drop, ← whole, ofChars, List.flatMap_cons, encoded]
      rfl
    exact boundary_of_firstByte byte begins

theorem firstAt_of_ofChars {part text : List Char} {i : Nat} (found : FirstAt (ofChars part) (ofChars text) i) :
    ∃ k, i = (ofChars (text.take k)).length ∧ FirstAt part text k := by
  obtain ⟨k, inside, place⟩ := boundary_of_firstAt found
  refine ⟨k, place, inside, ?_, fun j less here => ?_⟩
  · have here := found.here
    rwa [place, (ofChars_take_drop text k).2, ofChars_prefix_iff] at here
  · apply found.first (ofChars (text.take j)).length
    · rw [place]
      exact length_ofChars_take_lt less inside
    · rwa [(ofChars_take_drop text j).2, ofChars_prefix_iff]

theorem ofText_eq_ofChars (text : String) : Bytes.ofText text = ofChars text.toList := by
  rw [← Bytes.ofText_ofList, String.ofList_toList]

end Bytes

namespace Text

open Bytes (ofChars)

theorem firstBytes_boundary (text : String) (k : Nat) :
    firstBytes (ofChars (text.toList.take k)).length text = String.ofList (text.toList.take k) := by
  rw [firstBytes, Bytes.ofText_eq_ofChars, (Bytes.ofChars_take_drop text.toList k).1, ← Bytes.ofText_ofList,
    Bytes.text?_ofText, Option.getD_some]

theorem find?_spec (part text : String) :
    (∃ k, find? part text = some k ∧ FirstAt part.toList text.toList k) ∨
      find? part text = none ∧ ∀ j, ¬ part.toList <+: text.toList.drop j := by
  rw [find?, Bytes.ofText_eq_ofChars, Bytes.ofText_eq_ofChars]
  rcases indexOf?_spec (ofChars part.toList) (ofChars text.toList) with ⟨i, found, least⟩ | ⟨missing, never⟩
  · obtain ⟨k, rfl, first⟩ := Bytes.firstAt_of_ofChars least
    refine .inl ⟨k, ?_, first⟩
    rw [found, Option.map_some, firstBytes_boundary, String.length_ofList, List.length_take,
      Nat.min_eq_left first.inside]
  · refine .inr ⟨by rw [missing]; rfl, fun j here => never (ofChars (text.toList.take j)).length ?_⟩
    rwa [(Bytes.ofChars_take_drop text.toList j).2, Bytes.ofChars_prefix_iff]

end Text

section Builtins

variable {m : Machine} {text part : String}

/-- A builtin that hands back a value and leaves the machine as it is, but for the note of the call. -/
def Machine.Answers (m : Machine) (builtin : Builtin) (args : List Value) (v : Value) : Prop :=
  builtin.call args m = .done (.value v) (m.note (.builtin builtin args))

theorem answers_iff {builtin : Builtin} {args : List Value} {v w : Value} (answers : m.Answers builtin args v) :
    m.Answers builtin args w ↔ v = w := by
  constructor
  next =>
    intro other
    injection answers.symm.trans other with same
    injection same
  next =>
    rintro rfl
    exact answers

theorem answers_strLen (m : Machine) (text : String) :
    m.Answers .strLen [.text text] (.int (Int64.ofNat text.length)) := by
  rw [← String.length_toList]
  rfl

theorem answers_strFind (m : Machine) (text part : String) :
    m.Answers .strFind [.text text, .text part] (Action.position text part) :=
  rfl

theorem answers_subStr (m : Machine) (text : String) (start count : Value) :
    m.Answers .subStr [.text text, start, count] (Action.substring text.toList start count) :=
  rfl

theorem answers_subStr_rest (m : Machine) (text : String) (start : Value) :
    m.Answers .subStr [.text text, start] (Action.substring text.toList start .nil) :=
  rfl

theorem sliceCount_natural {count : Int64} (natural : 0 ≤ count) :
    Action.sliceCount (.int count) = some count.toInt.toNat := by
  have known : ¬ count < 0 := by
    rw [Int64.lt_iff_toInt_lt]
    rw [Int64.le_iff_toInt_le] at natural
    omega
  simp [Action.sliceCount, Value.isNil, Value.toInt, known]

def partFrom (text part : String) (start : Nat) : String :=
  String.ofList ((text.toList.drop start).take part.length)

theorem partFrom_eq_iff {start : Nat} : partFrom text part start = part ↔ part.toList <+: text.toList.drop start := by
  rw [partFrom, ← String.toList_inj, String.toList_ofList, List.prefix_iff_eq_take, String.length_toList, eq_comm]

theorem answers_subStr_length (m : Machine) (text : String) {count : Int64} (size : count.toInt = part.length)
    (start : Int64) :
    m.Answers .subStr [.text text, .int start, .int count] (.text (partFrom text part start.toInt.toNat)) := by
  have natural : 0 ≤ count := by
    rw [Int64.le_iff_toInt_le, size]
    exact Int.natCast_nonneg _
  rw [answers_iff (answers_subStr m text (.int start) (.int count)), Action.substring, sliceCount_natural natural, size]
  rfl

theorem length_lt_of_fits {bound : Nat} (fits : text.utf8ByteSize < bound) : text.length < bound := by
  have bytes : (Bytes.ofChars text.toList).length = text.utf8ByteSize := by
    rw [← Bytes.ofText_eq_ofChars, Bytes.ofText, ← String.size_toByteArray]
    rfl
  have chars := Bytes.length_le_ofChars text.toList
  rw [String.length_toList, bytes] at chars
  omega

theorem toInt_length (fits : text.utf8ByteSize < 2 ^ 63) : (Int64.ofNat text.length).toInt = text.length :=
  Int64.toInt_ofNat_of_lt (length_lt_of_fits fits)

theorem answers_subStr_halves (m : Machine) (text : String) {k : Int64} (natural : 0 ≤ k) : ∃ front back,
    m.Answers .subStr [.text text, .int 0, .int k] (.text front) ∧
      m.Answers .subStr [.text text, .int k] (.text back) ∧ front ++ back = text := by
  refine ⟨String.ofList (text.toList.take k.toInt.toNat), String.ofList (text.toList.drop k.toInt.toNat), ?_,
    answers_subStr_rest m text (.int k), ?_⟩
  next =>
    rw [answers_iff (answers_subStr m text (.int 0) (.int k)), Action.substring, sliceCount_natural natural]
    rfl
  next => rw [← String.ofList_append, List.take_append_drop, String.ofList_toList]

theorem position_spec (part : String) (fits : text.utf8ByteSize < 2 ^ 63) : ∃ place : Int64,
    Action.position text part = .int place ∧
    (place = -1 ∧ (∀ j, ¬ part.toList <+: text.toList.drop j) ∨
      0 ≤ place ∧ Text.FirstAt part.toList text.toList place.toInt.toNat) := by
  unfold Action.position
  rcases Text.find?_spec part text with ⟨k, found, first⟩ | ⟨missing, never⟩
  next =>
    have inside := first.inside
    have bound := length_lt_of_fits fits
    rw [String.length_toList] at inside
    have place : (Int64.ofNat k).toInt = k := Int64.toInt_ofNat_of_lt (Nat.lt_of_le_of_lt inside bound)
    refine ⟨Int64.ofNat k, by rw [found], .inr ⟨?_, ?_⟩⟩
    next =>
      rw [Int64.le_iff_toInt_le, place]
      exact Int.natCast_nonneg k
    next =>
      rw [place]
      exact first
  next => exact ⟨-1, by rw [missing], .inl ⟨rfl, never⟩⟩

end Builtins

/-- For texts that fit into memory: what is found at a place is what stands there and nowhere before, nothing is found
if the part stands nowhere, and a text is what comes before a place and what comes from there on. -/
theorem places_of_parts_agree (m : Machine) (text part : String) (fits : text.utf8ByteSize < 2 ^ 63)
    (partFits : part.utf8ByteSize < 2 ^ 63) : ∃ (place size whole : Int64) (partAt : Int64 → String),
    m.Answers .strFind [.text text, .text part] (.int place) ∧
    (m.Answers .strLen [.text part] (.int size) ∧ size.toInt = part.length) ∧
    (m.Answers .strLen [.text text] (.int whole) ∧ whole.toInt = text.length) ∧
    (∀ j, m.Answers .subStr [.text text, .int j, .int size] (.text (partAt j))) ∧
    (place = -1 ∨ 0 ≤ place) ∧
    (0 ≤ place → partAt place = part ∧ ∀ j, 0 ≤ j → j < place → partAt j ≠ part) ∧
    (place = -1 ↔ ∀ j, 0 ≤ j → j ≤ whole → partAt j ≠ part) ∧
    ∀ k : Int64, 0 ≤ k → ∃ front back, m.Answers .subStr [.text text, .int 0, .int k] (.text front) ∧
      m.Answers .subStr [.text text, .int k] (.text back) ∧ front ++ back = text := by
  have size := toInt_length partFits
  have whole := toInt_length fits
  obtain ⟨place, found, spec⟩ := position_spec part fits
  refine ⟨place, Int64.ofNat part.length, Int64.ofNat text.length, fun j => partFrom text part j.toInt.toNat,
    found ▸ answers_strFind m text part, ⟨answers_strLen m part, size⟩, ⟨answers_strLen m text, whole⟩,
    fun j => answers_subStr_length m text size j, spec.imp And.left And.left, ?_⟩
  simp only [ne_eq, partFrom_eq_iff]
  rcases spec with ⟨rfl, never⟩ | ⟨nonneg, first⟩
  · exact ⟨fun nonneg => absurd nonneg (by decide), ⟨fun _ j _ _ => never _, fun _ => rfl⟩,
      fun k => answers_subStr_halves m text⟩
  · have natural : 0 ≤ place.toInt := Int64.le_iff_toInt_le.mp nonneg
    refine ⟨fun _ => ⟨first.here, fun j positive less => first.first _ ?_⟩, ⟨?_, fun nowhere => ?_⟩,
      fun k => answers_subStr_halves m text⟩
    · have start : 0 ≤ j.toInt := Int64.le_iff_toInt_le.mp positive
      rw [Int64.lt_iff_toInt_lt] at less
      omega
    · rintro rfl
      exact absurd nonneg (by decide)
    · -- The place itself is among those that were excluded.
      refine absurd first.here (nowhere place nonneg ?_)
      have inside := first.inside
      rw [Int64.le_iff_toInt_le, whole]
      rw [String.length_toList] at inside
      omega

def plainMachine : Machine where
  settings := {}
  main := []
  file := none
  functions := []
  builtins := []
  audio := .silent {}
  random := { state := 0 }

theorem overlapping_part_found : ∃ (size : Int64) (early : String),
    plainMachine.Answers .strFind [.text "aé😀😀é", .text "😀é"] (.int 3) ∧
    plainMachine.Answers .strLen [.text "😀é"] (.int size) ∧
    plainMachine.Answers .subStr [.text "aé😀😀é", .int 3, .int size] (.text "😀é") ∧
    plainMachine.Answers .subStr [.text "aé😀😀é", .int 2, .int size] (.text early) ∧ early ≠ "😀é" := by
  obtain ⟨place, size, _, partAt, found, ⟨length, _⟩, _, answers, _, stands, _⟩ :=
    places_of_parts_agree plainMachine "aé😀😀é" "😀é" (by decide) (by decide)
  have third : Action.position "aé😀😀é" "😀é" = .int 3 := by rfl
  rw [answers_iff (answers_strFind plainMachine _ _), third, Value.int.injEq] at found
  subst found
  obtain ⟨here, first⟩ := stands (by decide)
  exact ⟨size, partAt 2, third ▸ answers_strFind plainMachine _ _, length, here ▸ answers 3, answers 2,
    first 2 (by decide) (by decide)⟩

end CueScript
