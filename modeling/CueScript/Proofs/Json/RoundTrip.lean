import CueScript.Json.Record
import CueScript.Proofs.Json.Numerals

set_option autoImplicit false

namespace CueScript.Json

section Strings

theorem hexValue?_hexDigit {n : Nat} (small : n < 16) : Bytes.hexValue? (Bytes.hexDigit n) = some n := by
  revert n
  decide

theorem utf8EncodeChar_control {n : Nat} (control : n < 0x20) :
    String.utf8EncodeChar (Char.ofNat n) = [UInt8.ofNat n] := by
  revert n
  decide

theorem escapeByte_cases (b : UInt8) :
    (escapeByte b = [b] ∧ b ≠ 0x22 ∧ b ≠ 0x5C ∧ ¬ b < 0x20) ∨
    (∃ c, escapeByte b = [0x5C, c] ∧ c ≠ 0x75 ∧ escaped? c = some b) ∨
    (b.toNat < 0x20 ∧
      escapeByte b = [0x5C, 0x75, 0x30, 0x30, Bytes.hexDigit (b.toNat / 16), Bytes.hexDigit (b.toNat % 16)]) := by
  unfold escapeByte
  split
  next quoted => exact .inr (.inl ⟨b, rfl, by rintro rfl; simp at quoted, by simp only [escaped?]; grind⟩)
  next plain =>
    -- Five control bytes have a letter of their own, the others only a number.
    iterate 5
      split
      next same => subst same; exact .inr (.inl ⟨_, rfl, by decide, by decide⟩)
    split
    next control => exact .inr (.inr ⟨control, rfl⟩)
    next printed => exact .inl ⟨rfl, by grind⟩

theorem unescape?_plain {b : UInt8} (plain : b ≠ 0x5C) (rest : Bytes) :
    unescape? (b :: rest) = (unescape? rest).map (b :: ·) := by
  rw [unescape?, if_neg plain]
  · intro _ _ _ _ _ escape _
    exact absurd escape plain
  · intro _ _ escape _
    exact absurd escape plain

theorem unescape?_letter {b c : UInt8} (letter : c ≠ 0x75) (stands : escaped? c = some b) (rest : Bytes) :
    unescape? (0x5C :: c :: rest) = (unescape? rest).map (b :: ·) := by
  rw [unescape?]
  · simp only [stands, bind, Option.bind, pure]
    cases unescape? rest <;> rfl
  · intro _ _ _ _ _ number
    exact absurd number letter

theorem unescape?_number {b : UInt8} (control : b.toNat < 0x20) (rest : Bytes) :
    unescape? (0x5C :: 0x75 :: 0x30 :: 0x30 :: Bytes.hexDigit (b.toNat / 16) :: Bytes.hexDigit (b.toNat % 16) :: rest) =
      (unescape? rest).map (b :: ·) := by
  have zero : Bytes.hexValue? 0x30 = some 0 := by decide
  have high := hexValue?_hexDigit (by omega : b.toNat / 16 < 16)
  have low := hexValue?_hexDigit (by omega : b.toNat % 16 < 16)
  have number : unit? 0x30 0x30 (Bytes.hexDigit (b.toNat / 16)) (Bytes.hexDigit (b.toNat % 16)) = some b.toNat := by
    simp only [unit?, zero, high, low]
    simp only [bind, Option.bind, pure]
    congr 1
    omega
  rw [unescape?.eq_def]
  simp only [number, bind, Option.bind, utf8EncodeChar_control control]
  rw [if_pos (by omega)]
  cases unescape? rest <;> simp

theorem unescape?_escapeByte (b : UInt8) (rest : Bytes) :
    unescape? (escapeByte b ++ rest) = (unescape? rest).map (b :: ·) := by
  obtain ⟨written, _, plain, _⟩ | ⟨c, written, letter, stands⟩ | ⟨control, written⟩ := escapeByte_cases b
  · rw [written]
    exact unescape?_plain plain rest
  · rw [written]
    exact unescape?_letter letter stands rest
  · rw [written]
    exact unescape?_number control rest

theorem escape_cons (b : UInt8) (bytes : Bytes) : escape (b :: bytes) = escapeByte b ++ escape bytes :=
  List.flatMap_cons

theorem unescape?_escape (bytes : Bytes) : unescape? (escape bytes) = some bytes := by
  induction bytes with
  | nil => rfl
  | cons b rest ih => rw [escape_cons, unescape?_escapeByte, ih, Option.map_some]

theorem text?_key (name : String) : text? (key name) = some name := by
  rw [text?, key, unescape?_escape, Option.bind_some, Bytes.text?_ofText]

theorem scan_escapeByte (done : List Token) (sofar : Bytes) (b : UInt8) (rest : Bytes) :
    scan done (.string sofar) (escapeByte b ++ rest) = scan done (.string ((escapeByte b).reverse ++ sofar)) rest := by
  obtain ⟨written, quote, plain, printed⟩ | ⟨c, written, letter, stands⟩ | ⟨control, written⟩ := escapeByte_cases b
  · simp [written, scan, quote, plain, printed]
  · simp [written, scan, letter, stands]
  · have high := hexValue?_hexDigit (by omega : b.toNat / 16 < 16)
    have low := hexValue?_hexDigit (by omega : b.toNat % 16 < 16)
    have zero : Bytes.hexValue? 0x30 = some 0 := by decide
    simp [written, scan, high, low, zero]

theorem scan_escape (done : List Token) (sofar bytes rest : Bytes) :
    scan done (.string sofar) (escape bytes ++ rest) = scan done (.string ((escape bytes).reverse ++ sofar)) rest := by
  induction bytes generalizing sofar with
  | nil => rfl
  | cons b more ih =>
    rw [escape_cons, List.append_assoc, scan_escapeByte, ih, List.reverse_append, List.append_assoc]

end Strings

/-- Trees whose numbers are numbers and whose strings are well written. -/
inductive Spelled : Json → Prop
  | null : Spelled .null
  | bool (value : Bool) : Spelled (.bool value)
  | number {numeral : Bytes} (word : ∀ b ∈ numeral, isWordByte b = true) (valid : isNumeral numeral = true) :
    Spelled (.number numeral)
  | string (bytes : Bytes) : Spelled (.string (escape bytes))
  | array {items : List Json} (each : ∀ item ∈ items, Spelled item) : Spelled (.array items)
  | object {fields : List (Bytes × Json)} (names : ∀ field ∈ fields, ∃ bytes, field.1 = escape bytes)
    (each : ∀ field ∈ fields, Spelled field.2) : Spelled (.object fields)

mutual

def tokens : Json → List Token
  | .null => [.word (Bytes.ofText "null")]
  | .bool true => [.word (Bytes.ofText "true")]
  | .bool false => [.word (Bytes.ofText "false")]
  | .number numeral => [.word numeral]
  | .string written => [.string written]
  | .array items => .openArray :: itemTokens items
  | .object fields => .openObject :: fieldTokens fields

def itemTokens : List Json → List Token
  | [] => [.closeArray]
  | [item] => tokens item ++ [.closeArray]
  | item :: rest => tokens item ++ .comma :: itemTokens rest

def fieldTokens : List (Bytes × Json) → List Token
  | [] => [.closeObject]
  | [(name, value)] => .string name :: .colon :: tokens value ++ [.closeObject]
  | (name, value) :: rest => .string name :: .colon :: tokens value ++ .comma :: fieldTokens rest

end

section Scanning

def Ends (rest : Bytes) : Prop :=
  ∀ b ∈ rest.head?, isWordByte b = false

/-- Bytes that are scanned as these tokens, whatever else was scanned before, if no word goes on behind them. -/
def Scans (text : Bytes) (found : List Token) : Prop :=
  ∀ done rest, Ends rest → scan done .between (text ++ rest) = scan (found.reverse ++ done) .between rest

theorem punctuation_bytes {b : UInt8} {token : Token} (mark : punctuation? b = some token) :
    isSpace b = false ∧ b ≠ 0x22 ∧ isWordByte b = false := by
  unfold punctuation? at mark
  iterate 6
    split at mark
    next same => subst same; decide
  cases mark

theorem ends_mark {b : UInt8} {token : Token} (mark : punctuation? b = some token) (rest : Bytes) : Ends (b :: rest) := by
  intro first head
  cases head
  exact (punctuation_bytes mark).2.2

theorem scans_nil : Scans [] [] :=
  fun _ _ _ => rfl

theorem Scans.append_mark {b : UInt8} {token : Token} {first text : Bytes} {found more : List Token}
    (before : Scans first found) (mark : punctuation? b = some token) (after : Scans text more) :
    Scans (first ++ b :: text) (found ++ token :: more) := by
  intro done rest ends
  obtain ⟨space, quoted, word⟩ := punctuation_bytes mark
  have entered (done : List Token) : enter done b = some (token :: done, .between) := by
    simp [enter, space, quoted, word, mark]
  calc scan done .between (first ++ b :: text ++ rest)
    _ = scan (found.reverse ++ done) .between (b :: (text ++ rest)) := by
      rw [List.append_assoc]
      exact before done _ (ends_mark mark _)
    _ = scan (token :: (found.reverse ++ done)) .between (text ++ rest) := by
      rw [scan, entered]
    _ = scan ((found ++ token :: more).reverse ++ done) .between rest := by
      rw [after _ rest ends]
      simp

theorem Scans.cons_mark {b : UInt8} {token : Token} {text : Bytes} {more : List Token}
    (mark : punctuation? b = some token) (after : Scans text more) : Scans (b :: text) (token :: more) :=
  scans_nil.append_mark mark after

theorem scan_word (sofar : Bytes) {word : Bytes} (letters : ∀ b ∈ word, isWordByte b = true) (done : List Token)
    {rest : Bytes} (ends : Ends rest) :
    scan done (.word sofar) (word ++ rest) = scan (.word (sofar.reverse ++ word) :: done) .between rest := by
  induction word generalizing sofar with
  | nil =>
    -- Nothing marks the end of a word but the end of the text or a byte that no word holds.
    cases rest with
    | nil => simp [scan]
    | cons b rest =>
      have stops : isWordByte b = false := ends b rfl
      simp [scan, stops]
  | cons b more ih =>
    have letter : isWordByte b = true := letters b List.mem_cons_self
    have tail := ih (b :: sofar) fun c member => letters c (List.mem_cons_of_mem b member)
    simp only [List.cons_append, scan, letter, if_true, tail]
    simp

theorem scans_word {word : Bytes} (nonempty : word ≠ []) (letters : ∀ b ∈ word, isWordByte b = true) :
    Scans word [.word word] := by
  intro done rest ends
  cases word with
  | nil => exact absurd rfl nonempty
  | cons b more =>
    have letter : isWordByte b = true := letters b List.mem_cons_self
    have entered : enter done b = some (done, .word [b]) := by
      have space : isSpace b = false := by
        simp only [isWordByte, isDigitByte, isSpace] at letter ⊢
        grind
      have quoted : b ≠ 0x22 := by
        rintro rfl
        revert letter
        decide
      simp [enter, space, quoted, letter]
    rw [List.cons_append, scan, entered]
    exact scan_word [b] (fun c member => letters c (List.mem_cons_of_mem b member)) done ends

theorem scans_quote (bytes : Bytes) : Scans (quote (escape bytes)) [.string (escape bytes)] := by
  intro done rest ends
  have entered : enter done 0x22 = some (done, .string []) := by rfl
  simp only [quote, List.cons_append, List.append_assoc, scan, entered, scan_escape]
  simp

theorem scans_items {items : List Json} (each : ∀ item ∈ items, Scans (render item) (tokens item)) :
    Scans (renderItems items) (itemTokens items) := by
  induction items with
  | nil => exact .cons_mark rfl scans_nil
  | cons item rest ih =>
    have first := each item List.mem_cons_self
    have later := ih fun item member => each item (List.mem_cons_of_mem _ member)
    cases rest with
    | nil => exact first.append_mark rfl scans_nil
    | cons => exact first.append_mark rfl later

theorem scans_field {bytes text : Bytes} {found : List Token} (value : Scans text found) :
    Scans (quote (escape bytes) ++ 0x3A :: text) (.string (escape bytes) :: .colon :: found) :=
  (scans_quote bytes).append_mark rfl value

theorem scans_fields {fields : List (Bytes × Json)} (names : ∀ field ∈ fields, ∃ bytes, field.1 = escape bytes)
    (each : ∀ field ∈ fields, Scans (render field.2) (tokens field.2)) :
    Scans (renderFields fields) (fieldTokens fields) := by
  induction fields with
  | nil => exact .cons_mark rfl scans_nil
  | cons field rest ih =>
    obtain ⟨name, value⟩ := field
    obtain ⟨bytes, rfl⟩ : ∃ bytes, name = escape bytes := names _ List.mem_cons_self
    have first := each _ List.mem_cons_self
    have later := ih (fun field member => names field (List.mem_cons_of_mem _ member))
      fun field member => each field (List.mem_cons_of_mem _ member)
    cases rest with
    | nil => exact (scans_field first).append_mark rfl scans_nil
    | cons => exact (scans_field first).append_mark rfl later

theorem Spelled.scans {tree : Json} (spelled : tree.Spelled) : Scans (render tree) (tokens tree) := by
  induction spelled with
  | null => exact scans_word (by decide) (List.all_eq_true.mp (by decide))
  | bool value => cases value <;> exact scans_word (by decide) (List.all_eq_true.mp (by decide))
  | number word valid =>
    refine scans_word ?_ word
    rintro rfl
    revert valid
    decide
  | string bytes => exact scans_quote bytes
  | array each ih => exact .cons_mark rfl (scans_items ih)
  | object names each ih => exact .cons_mark rfl (scans_fields names ih)

end Scanning

section Parsing

/-- Tokens that are put together to a tree, given a unit of fuel for each of them. -/
def Parses (found : List Token) (tree : Json) : Prop :=
  ∀ fuel rest, found.length ≤ fuel → value? fuel (found ++ rest) = some (tree, rest)

theorem ofWord?_number {numeral : Bytes} (valid : isNumeral numeral = true) : ofWord? numeral = some (.number numeral) := by
  have other {word : Bytes} (not : isNumeral word = false) : numeral ≠ word := by
    rintro rfl
    simp [not] at valid
  simp only [ofWord?, if_neg (other (by decide : isNumeral (Bytes.ofText "null") = false)),
    if_neg (other (by decide : isNumeral (Bytes.ofText "true") = false)),
    if_neg (other (by decide : isNumeral (Bytes.ofText "false") = false)), valid, if_true]

theorem parses_word {word : Bytes} {tree : Json} (means : ofWord? word = some tree) : Parses [.word word] tree := by
  intro fuel rest enough
  cases fuel with
  | zero => simp at enough
  | succ fuel => simp [value?, means]

theorem itemTokens_open (item : Json) (items : List Json) (rest more : List Token) :
    itemTokens (item :: items) ++ rest ≠ .closeArray :: more := by
  have opens : ∃ token later, tokens item = token :: later ∧ token ≠ .closeArray := by
    cases item with
    | bool value => cases value <;> exact ⟨_, _, rfl, by simp⟩
    | null | number | string | array | object => exact ⟨_, _, rfl, by simp⟩
  obtain ⟨token, later, first, opens⟩ := opens
  cases items <;> simp [itemTokens, first, opens]

theorem value?_openArray {found : List Token} (opens : ∀ more, found ≠ .closeArray :: more) (fuel : Nat) :
    value? (fuel + 1) (.openArray :: found) = (items? fuel found).map fun read => (.array read.1, read.2) := by
  rw [value?]
  exact opens

theorem items?_tokens {item : Json} {items : List Json} (each : ∀ tree ∈ item :: items, Parses (tokens tree) tree)
    {fuel : Nat} (rest : List Token) (enough : (itemTokens (item :: items)).length ≤ fuel) :
    items? fuel (itemTokens (item :: items) ++ rest) = some (item :: items, rest) := by
  induction items generalizing item fuel with
  | nil =>
    simp only [itemTokens, List.length_append, List.length_singleton] at enough
    obtain ⟨fuel, rfl⟩ : ∃ less, fuel = less + 1 := Nat.exists_eq_add_one.mpr (by omega)
    have first := each item List.mem_cons_self fuel (.closeArray :: rest) (by omega)
    simp [items?, itemTokens, first]
  | cons next items ih =>
    simp only [itemTokens, List.length_append, List.length_cons] at enough
    -- The item and the rest get the same fuel, and the comma between them pays for the step.
    obtain ⟨fuel, rfl⟩ : ∃ less, fuel = less + 1 := Nat.exists_eq_add_one.mpr (by omega)
    have first := each item List.mem_cons_self fuel (.comma :: (itemTokens (next :: items) ++ rest)) (by omega)
    have later := ih (fun tree member => each tree (List.mem_cons_of_mem _ member)) (by omega : _ ≤ fuel)
    simp [items?, itemTokens, first, later]

theorem fields?_tokens {field : Bytes × Json} {fields : List (Bytes × Json)}
    (each : ∀ f ∈ field :: fields, Parses (tokens f.2) f.2) {fuel : Nat} (rest : List Token)
    (enough : (fieldTokens (field :: fields)).length ≤ fuel) :
    fields? fuel (fieldTokens (field :: fields) ++ rest) = some (field :: fields, rest) := by
  induction fields generalizing field fuel with
  | nil =>
    simp only [fieldTokens, List.length_append, List.length_cons] at enough
    obtain ⟨fuel, rfl⟩ : ∃ less, fuel = less + 1 := Nat.exists_eq_add_one.mpr (by omega)
    have first := each field List.mem_cons_self fuel (.closeObject :: rest) (by omega)
    simp [fields?, fieldTokens, first]
  | cons next fields ih =>
    simp only [fieldTokens, List.length_append, List.length_cons] at enough
    obtain ⟨fuel, rfl⟩ : ∃ less, fuel = less + 1 := Nat.exists_eq_add_one.mpr (by omega)
    have first := each field List.mem_cons_self fuel (.comma :: (fieldTokens (next :: fields) ++ rest)) (by omega)
    have later := ih (fun f member => each f (List.mem_cons_of_mem _ member)) (by omega : _ ≤ fuel)
    simp [fields?, fieldTokens, first, later]

theorem Spelled.parses {tree : Json} (spelled : tree.Spelled) : Parses (tokens tree) tree := by
  induction spelled with
  | null => exact parses_word rfl
  | bool value => cases value <;> exact parses_word rfl
  | number _ valid => exact parses_word (ofWord?_number valid)
  | string bytes =>
    intro fuel rest enough
    obtain ⟨fuel, rfl⟩ : ∃ less, fuel = less + 1 := Nat.exists_eq_add_one.mpr enough
    rfl
  | @array items each ih =>
    intro fuel rest enough
    simp only [tokens, List.length_cons] at enough
    obtain ⟨fuel, rfl⟩ : ∃ less, fuel = less + 1 := Nat.exists_eq_add_one.mpr (by omega)
    -- A pair of brackets with nothing between them is read in one step.
    cases items with
    | nil => rfl
    | cons item items =>
      have parsed := items?_tokens ih rest (by omega : _ ≤ fuel)
      have opened := value?_openArray (itemTokens_open item items rest) fuel
      rw [parsed] at opened
      exact opened
  | @object fields names each ih =>
    intro fuel rest enough
    simp only [tokens, List.length_cons] at enough
    obtain ⟨fuel, rfl⟩ : ∃ less, fuel = less + 1 := Nat.exists_eq_add_one.mpr (by omega)
    cases fields with
    | nil => rfl
    | cons field fields =>
      have parsed := fields?_tokens ih rest (by omega : _ ≤ fuel)
      have opened : value? (fuel + 1) (tokens (.object (field :: fields)) ++ rest) =
          (fields? fuel (fieldTokens (field :: fields) ++ rest)).map fun read => (.object read.1, read.2) := by
        cases fields <;> rfl
      rw [opened, parsed]
      rfl

end Parsing

theorem Spelled.read?_render {tree : Json} (spelled : tree.Spelled) : read? (render tree) = some tree := by
  have scanned := spelled.scans [] [] (by simp [Ends])
  have parsed := spelled.parses (2 * (tokens tree).length + 1) [] (by omega)
  simp only [List.append_nil, scan, List.reverse_reverse] at scanned parsed
  simp only [read?, scanned, bind, Option.bind, parsed]

end CueScript.Json
