import CueScript.Encoding.Basic

/-!
What the tables of characters hold. Their rows are spelled out as lists of characters first, since only these can be
looked through quickly, and sets of characters are numbers with a bit for each member. What is checked of all characters
of a list is a `Bool`: a quantifier over characters may be decided by going through every character there is.
-/

set_option autoImplicit false

namespace CueScript.Encoding

section Rows

theorem spelled_nil : ([] : List String) = [].map String.ofList := rfl

theorem spelled_cons {s : String} {row : List Char} {texts : List String} {rows : List (List Char)}
    (first : s = String.ofList row) (rest : texts = rows.map String.ofList) :
    s :: texts = (row :: rows).map String.ofList := by
  rw [first, rest, List.map_cons]

theorem flatMap_spelled (rows : List (List Char)) : (rows.map String.ofList).flatMap String.toList = rows.flatten := by
  induction rows with
  | nil => rfl
  | cons row rows ih => rw [List.map_cons, List.flatMap_cons, List.flatten_cons, String.toList_ofList, ih]

variable {α : Type} {rows : List (List α)} {width : Nat}

theorem length_flatten_of_width (even : ∀ row ∈ rows, row.length = width) :
    rows.flatten.length = rows.length * width := by
  induction rows with
  | nil => simp
  | cons row rows ih =>
    have later := ih fun row member => even row (List.mem_cons_of_mem _ member)
    rw [List.flatten_cons, List.length_append, later, even row List.mem_cons_self, List.length_cons, Nat.succ_mul,
      Nat.add_comm]

theorem getElem?_flatten_of_width (even : ∀ row ∈ rows, row.length = width) {i j : Nat} (inside : j < width) :
    rows.flatten[i * width + j]? = rows[i]?.bind (·[j]?) := by
  induction rows generalizing i with
  | nil => simp
  | cons row rows ih =>
    have length := even row List.mem_cons_self
    rw [List.flatten_cons]
    cases i with
    | zero =>
      rw [Nat.zero_mul, Nat.zero_add, List.getElem?_append_left (by omega)]
      rfl
    | succ i =>
      have later := ih (fun row member => even row (List.mem_cons_of_mem _ member)) (i := i)
      have place : (i + 1) * width + j - row.length = i * width + j := by
        rw [length, Nat.succ_mul]
        omega
      rw [List.getElem?_append_right (by rw [length, Nat.succ_mul]; omega), place, later]
      rfl

end Rows

section Sets

/-- The number with a bit for every code. -/
def bits (codes : List Nat) : Nat :=
  codes.foldr (fun code set => set ||| 1 <<< code) 0

def bitsOfRows (rows : List (List Char)) : Nat :=
  rows.foldr (fun row set => set ||| bits (row.map Char.toNat)) 0

def holdsAll (set low high : Nat) : Bool :=
  (set >>> low) % (1 <<< (high - low)) == (1 <<< (high - low)) - 1

theorem testBit_bits {codes : List Nat} {code : Nat} : (bits codes).testBit code = true ↔ code ∈ codes := by
  induction codes with
  | nil => simp [bits]
  | cons first codes ih =>
    rw [bits, List.foldr_cons, Nat.testBit_or, Bool.or_eq_true, Nat.one_shiftLeft, Nat.testBit_two_pow,
      decide_eq_true_eq, List.mem_cons, ← ih, or_comm, eq_comm, bits]

theorem testBit_bitsOfRows {rows : List (List Char)} {c : Char} :
    (bitsOfRows rows).testBit c.toNat = true ↔ c ∈ rows.flatten := by
  induction rows with
  | nil => simp [bitsOfRows]
  | cons row rows ih =>
    have here : c.toNat ∈ row.map Char.toNat ↔ c ∈ row := by simp [Char.toNat_inj]
    rw [bitsOfRows, List.foldr_cons, Nat.testBit_or, Bool.or_eq_true, testBit_bits, here, List.flatten_cons,
      List.mem_append, ← ih, or_comm, bitsOfRows]

theorem testBit_of_holdsAll {set low high code : Nat} (held : holdsAll set low high = true) (above : low ≤ code)
    (below : code < high) : set.testBit code = true := by
  have same := congrArg (·.testBit (code - low)) (beq_iff_eq.mp held)
  simp only [Nat.one_shiftLeft, Nat.testBit_mod_two_pow, Nat.testBit_shiftRight, Nat.testBit_two_pow_sub_one] at same
  have inside : code - low < high - low := by omega
  have place : low + (code - low) = code := by omega
  simpa [inside, place] using same

end Sets

namespace Jis

set_option maxRecDepth 20000 in
theorem table_spelled : ∃ rows : List (List Char), Jis.rows = rows.map String.ofList ∧
    rows.length = 60 ∧ (∀ row ∈ rows, row.length = 188) ∧
    ((rows.drop 47).take 10).all (·.all (· == replacement)) = true := by
  apply Exists.intro
  constructor
  next =>
    unfold Jis.rows
    dsimp only
    repeat apply spelled_cons rfl
    exact spelled_nil
  next => decide +kernel

theorem size_table : table.size = 11280 := by
  obtain ⟨rows, spelled, count, even, -⟩ := table_spelled
  rw [table, spelled, flatMap_spelled, List.size_toArray, length_flatten_of_width even, count]

theorem table_private {place : Nat} (above : 8836 ≤ place) (below : place ≤ 10715) :
    table[place]? = some replacement := by
  obtain ⟨rows, spelled, count, even, free⟩ := table_spelled
  have row : place / 188 - 47 < 10 ∧ 47 ≤ place / 188 := by omega
  have inside : place % 188 < 188 := Nat.mod_lt _ (by decide)
  have split : place / 188 * 188 + place % 188 = place := by omega
  obtain ⟨cells, found⟩ : ∃ cells, rows[place / 188]? = some cells := by
    exact ⟨_, List.getElem?_eq_getElem (by omega)⟩
  have member : cells ∈ (rows.drop 47).take 10 := by
    apply List.mem_of_getElem? (i := place / 188 - 47)
    rw [List.getElem?_take_of_lt row.1, List.getElem?_drop, Nat.add_sub_cancel' row.2, found]
  have length : cells.length = 188 := even cells (List.mem_of_getElem? found)
  have cell : cells[place % 188]? = some replacement := by
    obtain ⟨c, held⟩ : ∃ c, cells[place % 188]? = some c := ⟨_, List.getElem?_eq_getElem (by omega)⟩
    have same := List.all_eq_true.mp (List.all_eq_true.mp free cells member) c (List.mem_of_getElem? held)
    rw [held, beq_iff_eq.mp same]
  rw [table, spelled, flatMap_spelled, List.getElem?_toArray, ← split, getElem?_flatten_of_width even inside, found]
  exact cell

end Jis

namespace Gb

def successors : List (Char × Char) :=
  [('\ue78d', '\ufe10'), ('\ue78e', '\ufe12'), ('\ue78f', '\ufe11'), ('\ue790', '\ufe13'), ('\ue791', '\ufe14'),
   ('\ue792', '\ufe15'), ('\ue793', '\ufe16'), ('\ue794', '\ufe17'), ('\ue795', '\ufe18'), ('\ue796', '\ufe19'),
   ('\ue81e', '\u9fb4'), ('\ue826', '\u9fb5'), ('\ue82b', '\u9fb6'), ('\ue82c', '\u9fb7'), ('\ue832', '\u9fb8'),
   ('\ue843', '\u9fb9'), ('\ue854', '\u9fba'), ('\ue864', '\u9fbb')]

/-- Codes that are no characters or that have bytes of their own, and so need no place in a range. -/
def exempt : List Nat :=
  0xE5E5 :: 0xE7C7 :: formerPrivate.map Prod.fst ++ List.range' 0xD800 0x800

/-- Whether the ranges are in order and what lies between their characters is in the set. -/
def gapsHeld (set : Nat) : List (Nat × Nat) → Bool
  | (start, code) :: (start', code') :: rest =>
    start < start' && code < code' && holdsAll set (code + (start' - start)) code' &&
      gapsHeld set ((start', code') :: rest)
  | _ => true

set_option maxRecDepth 20000 in
theorem table_spelled : ∃ rows : List (List Char), Gb.rows = rows.map String.ofList ∧
    rows.length = 126 ∧ (∀ row ∈ rows, row.length = 190) ∧
    gapsHeld (bitsOfRows (rows.take 62) ||| bitsOfRows ((rows.drop 62).take 48) ||| bitsOfRows (rows.drop 110) |||
      bits exempt) ranges = true ∧
    (∀ entry ∈ formerPrivate, rows[entry.2 / 256 - 0x81]?.bind
      (·[entry.2 % 256 - if entry.2 % 256 < 0x7F then 0x40 else 0x41]?) = successors.lookup (Char.ofNat entry.1)) ∧
    (bitsOfRows (rows.take 62)).testBit 0x1E3F = true ∧
    (bitsOfRows (rows.take 62)).testBit '縘'.toNat = false ∧ rows[62]?.bind (·.findIdx? (· == '縘')) = some 29 ∧
    (bitsOfRows (rows.take 62) ||| bitsOfRows ((rows.drop 62).take 48)).testBit '锘'.toNat = false ∧
    rows[110]?.bind (·.findIdx? (· == '锘')) = some 122 := by
  apply Exists.intro
  constructor
  next =>
    unfold Gb.rows
    dsimp only
    repeat apply spelled_cons rfl
    exact spelled_nil
  next => decide +kernel

theorem size_table : table.size = 23940 := by
  obtain ⟨rows, spelled, count, even, -⟩ := table_spelled
  rw [table, spelled, flatMap_spelled, List.size_toArray, length_flatten_of_width even, count]

section Ranges

variable {set code : Nat} {first : Nat × Nat} {rest : List (Nat × Nat)}

theorem gapsHeld_sorted (held : gapsHeld set (first :: rest) = true) :
    ∀ range ∈ first :: rest, first.1 ≤ range.1 ∧ first.2 ≤ range.2 := by
  induction rest generalizing first with
  | nil => simp
  | cons next rest ih =>
    simp only [gapsHeld, Bool.and_eq_true, decide_eq_true_eq] at held
    obtain ⟨⟨⟨starts, codes⟩, -⟩, later⟩ := held
    intro range member
    rcases List.mem_cons.mp member with rfl | member
    · exact ⟨Nat.le_refl _, Nat.le_refl _⟩
    · have above := ih later range member
      omega

theorem range_of_gapsHeld (held : gapsHeld set (first :: rest) = true) (low : first.2 ≤ code)
    (missing : set.testBit code = false) : ∃ range ∈ first :: rest, range.2 ≤ code ∧
      (first :: rest).reverse.find? (·.2 ≤ code) = some range ∧
      (first :: rest).reverse.find? (·.1 ≤ range.1 + (code - range.2)) = some range := by
  induction rest generalizing first with
  | nil => exact ⟨first, List.mem_cons_self, low, by simp [low], by simp⟩
  | cons next rest ih =>
    simp only [gapsHeld, Bool.and_eq_true, decide_eq_true_eq] at held
    obtain ⟨⟨⟨-, -⟩, gap⟩, later⟩ := held
    have sorted := gapsHeld_sorted later
    rw [List.reverse_cons, List.find?_append]
    by_cases above : next.2 ≤ code
    next =>
      obtain ⟨range, member, below, byCode, byStart⟩ := ih later above
      refine ⟨range, List.mem_cons_of_mem first member, below, ?_, ?_⟩
      · rw [byCode, Option.some_or]
      · rw [List.find?_append, byStart, Option.some_or]
    next =>
      -- The code is in the first range, as it would be in the set if it were in the gap behind it.
      have inside : code < first.2 + (next.1 - first.1) := by
        apply Nat.lt_of_not_le
        intro beyond
        have bit := testBit_of_holdsAll gap beyond (by omega)
        simp [bit] at missing
      have noCode : (next :: rest).reverse.find? (·.2 ≤ code) = none := by
        apply List.find?_eq_none.mpr
        intro range member
        have order := sorted range (List.mem_reverse.mp member)
        simp only [decide_eq_true_eq]
        omega
      have noStart : (next :: rest).reverse.find? (·.1 ≤ first.1 + (code - first.2)) = none := by
        apply List.find?_eq_none.mpr
        intro range member
        have order := sorted range (List.mem_reverse.mp member)
        simp only [decide_eq_true_eq]
        omega
      refine ⟨first, List.mem_cons_self, low, ?_, ?_⟩
      · rw [noCode, Option.none_or]
        simp [low]
      · rw [List.find?_append, noStart, Option.none_or]
        simp

end Ranges

theorem mem_table_or_range {c : Char} (low : 0x80 ≤ c.toNat) (own : c.toNat ∉ exempt) :
    c ∈ table ∨ ∃ range ∈ ranges, range.2 ≤ c.toNat ∧ ranges.reverse.find? (·.2 ≤ c.toNat) = some range ∧
      ranges.reverse.find? (·.1 ≤ range.1 + (c.toNat - range.2)) = some range := by
  obtain ⟨rows, spelled, count, even, gaps, -⟩ := table_spelled
  rw [table, spelled, flatMap_spelled, List.mem_toArray]
  generalize held : (bitsOfRows (rows.take 62) ||| bitsOfRows ((rows.drop 62).take 48) |||
    bitsOfRows (rows.drop 110) ||| bits exempt).testBit c.toNat = answer
  cases answer with
  | false => exact .inr (range_of_gapsHeld gaps low held)
  | true =>
    rw [Nat.testBit_or, Nat.testBit_or, Nat.testBit_or] at held
    simp only [Bool.or_eq_true] at held
    have inRows {part : List (List Char)} (bit : (bitsOfRows part).testBit c.toNat = true)
        (inside : ∀ row ∈ part, row ∈ rows) : c ∈ rows.flatten := by
      obtain ⟨row, found, member⟩ := List.mem_flatten.mp (testBit_bitsOfRows.mp bit)
      exact List.mem_flatten.mpr ⟨row, inside row found, member⟩
    left
    rcases held with ((early | middle) | late) | exempt
    · exact inRows early fun row => List.mem_of_mem_take
    · exact inRows middle fun row member => List.mem_of_mem_drop (List.mem_of_mem_take member)
    · exact inRows late fun row => List.mem_of_mem_drop
    · exact absurd (testBit_bits.mp exempt) own

theorem mem_table_of_stray : Char.ofNat 0x1E3F ∈ table := by
  obtain ⟨rows, spelled, -, -, -, -, stray, -⟩ := table_spelled
  obtain ⟨row, found, member⟩ := List.mem_flatten.mp (testBit_bitsOfRows (c := Char.ofNat 0x1E3F) |>.mp stray)
  rw [table, spelled, flatMap_spelled, List.mem_toArray]
  exact List.mem_flatten.mpr ⟨row, List.mem_of_mem_take found, member⟩

theorem table_former {entry : Nat × Nat} (member : entry ∈ formerPrivate) :
    table[Gb18030.place (UInt8.ofNat (entry.2 / 256)) (UInt8.ofNat (entry.2 % 256))]? =
      successors.lookup (Char.ofNat entry.1) := by
  obtain ⟨rows, spelled, -, even, -, former, -⟩ := table_spelled
  have places : ∀ entry ∈ formerPrivate,
      Gb18030.place (UInt8.ofNat (entry.2 / 256)) (UInt8.ofNat (entry.2 % 256)) = (entry.2 / 256 - 0x81) * 190 +
        (entry.2 % 256 - if entry.2 % 256 < 0x7F then 0x40 else 0x41) ∧
      (entry.2 % 256 - if entry.2 % 256 < 0x7F then 0x40 else 0x41) < 190 := by
    decide
  obtain ⟨place, inside⟩ := places entry member
  rw [table, spelled, flatMap_spelled, List.getElem?_toArray, place, getElem?_flatten_of_width even inside,
    former entry member]

theorem findIdx_table_mark :
    table.findIdx? (· == '锘') = some 21022 ∧ table.findIdx? (· == '縘') = some 11809 := by
  obtain ⟨rows, spelled, count, even, -, -, -, notEarly, early, notLate, late⟩ := table_spelled
  rw [table, spelled, flatMap_spelled, List.findIdx?_toArray, List.findIdx?_toArray]
  -- The place of a character that is in none of the first rows but in the next one.
  have inRow {c : Char} {i j : Nat} (missing : c ∉ (rows.take i).flatten)
      (found : rows[i]?.bind (·.findIdx? (· == c)) = some j) : rows.flatten.findIdx? (· == c) = some (i * 190 + j) := by
    obtain ⟨row, there, here⟩ := Option.bind_eq_some_iff.mp found
    obtain ⟨bound, rfl⟩ := List.getElem?_eq_some_iff.mp there
    have before : (rows.take i).flatten.findIdx? (· == c) = none := by
      apply List.findIdx?_eq_none_iff.mpr
      intro d member
      have differs : d ≠ c := fun same => missing (same ▸ member)
      simpa using differs
    have length : (rows.take i).flatten.length = i * 190 := by
      rw [length_flatten_of_width fun row member => even row (List.mem_of_mem_take member), List.length_take]
      congr 1
      omega
    have parts : rows.flatten = (rows.take i).flatten ++ (rows[i] ++ (rows.drop (i + 1)).flatten) := by
      rw [← List.flatten_cons, ← List.drop_eq_getElem_cons bound, ← List.flatten_append, List.take_append_drop]
    rw [parts, List.findIdx?_append, before, List.findIdx?_append, here, length]
    simp [Nat.add_comm]
  constructor
  next =>
    apply inRow (i := 110) (j := 122) _ late
    intro member
    have parts : rows.take 110 = rows.take 62 ++ (rows.drop 62).take 48 := List.take_add (i := 62) (j := 48)
    rw [parts, List.flatten_append, List.mem_append] at member
    rw [Nat.testBit_or, Bool.or_eq_false_iff] at notLate
    rcases member with first | second
    · rw [testBit_bitsOfRows.mpr first] at notLate
      cases notLate.1
    · rw [testBit_bitsOfRows.mpr second] at notLate
      cases notLate.2
  next =>
    apply inRow (i := 62) (j := 29) _ early
    intro member
    rw [testBit_bitsOfRows.mpr member] at notEarly
    cases notEarly

end Gb

theorem getElem?_of_findIdx {table : Array Char} {c : Char} {place : Nat}
    (found : table.findIdx? (· == c) = some place) : table[place]? = some c := by
  obtain ⟨inside, same, -⟩ := Array.findIdx?_eq_some_iff_getElem.mp found
  rw [Array.getElem?_eq_getElem inside, beq_iff_eq.mp same]

/-- The characters that are written as the bytes of another character, which is what these bytes are read as. -/
def shared : Encoding → List (Char × Char)
  | .utf8 => []
  | .shiftJis => [('¥', '\\'), ('‾', '~'), ('−', '－')]
  | .gbk => Gb.successors

def settled (e : Encoding) (c : Char) : Char :=
  (e.shared.lookup c).getD c

theorem settled_of_not_mem {e : Encoding} {c : Char} (own : c ∉ e.shared.map Prod.fst) : e.settled c = c := by
  have none : e.shared.lookup c = none := by
    apply List.lookup_eq_none_iff.mpr
    intro entry member
    rw [bne_iff_ne]
    rintro rfl
    exact own (List.mem_map_of_mem member)
  rw [settled, none, Option.getD_none]

theorem settled_eq_iff {e : Encoding} {c : Char} : e.settled c = c ↔ c ∉ e.shared.map Prod.fst := by
  have changed : (e.shared.all fun entry => e.settled entry.1 != entry.1) = true := by
    cases e <;> decide
  constructor
  · intro same member
    obtain ⟨entry, found, rfl⟩ := List.mem_map.mp member
    exact bne_iff_ne.mp (List.all_eq_true.mp changed entry found) same
  · exact settled_of_not_mem

end CueScript.Encoding
