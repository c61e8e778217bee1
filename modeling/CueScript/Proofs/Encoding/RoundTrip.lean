import CueScript.Proofs.Encoding.Gb18030
import CueScript.Proofs.Encoding.ShiftJis

set_option autoImplicit false

namespace CueScript.Encoding

theorem Utf8.control {c : Char} {b : UInt8} (low : b < 0x20) :
    b ∈ String.utf8EncodeChar c ↔ c.toNat = b.toNat := by
  have below : b.toNat < 0x20 := UInt8.lt_iff_toNat_lt.mp low
  have far {n : Nat} (above : 0x20 ≤ n) (small : n < 256) : b ≠ UInt8.ofNat n := by
    rintro rfl
    rw [UInt8.toNat_ofNat_of_lt' small] at below
    omega
  simp only [String.utf8EncodeChar, Char.toNat_val]
  by_cases ascii : c.toNat ≤ 127
  next =>
    rw [if_pos ascii, List.mem_singleton, ← UInt8.toNat_inj, UInt8.toNat_ofNat', Nat.mod_eq_of_lt (by omega), eq_comm]
  next =>
    -- Every byte of a longer form has its highest bit set.
    rw [if_neg ascii]
    apply iff_of_false _ (by omega)
    repeat' split
    all_goals simp (disch := omega) only [List.mem_cons, List.not_mem_nil, far, or_self, not_false_eq_true]

section Texts

variable {e : Encoding} {c : Char} {bytes : Bytes}

theorem control_of_encodeChar (encoded : e.encodeChar? c = some bytes) {b : UInt8} (low : b < 0x20) :
    b ∈ bytes ↔ c.toNat = b.toNat := by
  cases e with
  | utf8 =>
    cases encoded
    exact Utf8.control low
  | shiftJis => exact (ShiftJis.written_of_encodeChar encoded).control low
  | gbk => exact (Gb18030.written_of_encodeChar encoded).control low

theorem encode_eq_flatMap (e : Encoding) (s : String) :
    e.encode s = s.toList.flatMap fun c => (e.encodeChar? c).getD (reference c) := by
  cases e with
  | utf8 =>
    simp only [encode, Bytes.ofText, ← String.utf8Encode_toList, List.utf8Encode, encodeChar?, Option.getD_some]
    simp
  | shiftJis => rfl
  | gbk => rfl

theorem encodeChar_of_warning {s : String} (whole : e.warning? s = none) {c : Char} (member : c ∈ s.toList) :
    ∃ bytes, e.encodeChar? c = some bytes := by
  have known : e.represents s = true := by
    apply Decidable.by_contra
    intro unknown
    rw [warning?, if_neg unknown] at whole
    cases whole
  exact Option.isSome_iff_exists.mp (List.all_eq_true.mp known c member)

theorem read_flatMap (read : Bytes → List Char) (empty : read [] = [])
    (step : ∀ c bytes rest, e.encodeChar? c = some bytes → read (bytes ++ rest) = e.settled c :: read rest)
    {text : List Char} (known : ∀ c ∈ text, ∃ bytes, e.encodeChar? c = some bytes) :
    read (text.flatMap fun c => (e.encodeChar? c).getD (reference c)) = text.map e.settled := by
  induction text with
  | nil => exact empty
  | cons c text ih =>
    obtain ⟨bytes, encoded⟩ := known c List.mem_cons_self
    have later := ih fun d member => known d (List.mem_cons_of_mem c member)
    rw [List.flatMap_cons, encoded, Option.getD_some, step c bytes _ encoded, later, List.map_cons]

theorem mem_encode_iff {s : String} (whole : e.warning? s = none) {b : UInt8} {c : Char} (code : c.toNat = b.toNat)
    (low : b < 0x20) : b ∈ e.encode s ↔ c ∈ s.toList := by
  rw [encode_eq_flatMap, List.mem_flatMap]
  constructor
  · -- The byte stands in the bytes of some character, which is then the control character itself.
    rintro ⟨d, member, inside⟩
    obtain ⟨bytes, encoded⟩ := encodeChar_of_warning whole member
    rw [encoded, Option.getD_some, control_of_encodeChar encoded low, ← code, Char.toNat_inj] at inside
    exact inside ▸ member
  · intro member
    obtain ⟨bytes, encoded⟩ := encodeChar_of_warning whole member
    refine ⟨c, member, ?_⟩
    rw [encoded, Option.getD_some, control_of_encodeChar encoded low]
    exact code

def mark : Bytes :=
  [0xEF, 0xBB, 0xBF]

theorem decode_of_mark (other : e ≠ .utf8) (marked : mark <+: bytes) : e.decode bytes = Utf8.decode (bytes.drop 3) := by
  obtain ⟨rest, rfl⟩ := marked
  cases e with
  | utf8 => exact absurd rfl other
  | shiftJis => rfl
  | gbk => rfl

theorem decode_unmarked (other : e ≠ .utf8) (noMark : ¬ mark <+: bytes)
    (noLittle : ¬ [0xFF, 0xFE] <+: bytes) (noBig : ¬ [0xFE, 0xFF] <+: bytes) :
    e.decode bytes = if e = .shiftJis then ShiftJis.decode bytes else Gb18030.decode bytes := by
  unfold decode
  split
  next => exact absurd rfl other
  split
  next => exact absurd (List.prefix_append mark _) noMark
  next => exact absurd (List.prefix_append [0xFF, 0xFE] _) noLittle
  next => exact absurd (List.prefix_append [0xFE, 0xFF] _) noBig
  next => rfl

theorem encode_cases {s : String} (whole : e.warning? s = none) :
    e.encode s = [] ∨ ∃ c bytes rest, e.encodeChar? c = some bytes ∧ e.encode s = bytes ++ rest := by
  rw [encode_eq_flatMap]
  cases text : s.toList with
  | nil => exact .inl rfl
  | cons c text' =>
    obtain ⟨bytes, encoded⟩ := encodeChar_of_warning whole (text ▸ List.mem_cons_self)
    rw [List.flatMap_cons, encoded, Option.getD_some]
    exact .inr ⟨c, bytes, _, encoded, rfl⟩

theorem shiftJis_unmarked {s : String} (whole : warning? .shiftJis s = none) : ¬ mark <+: encode .shiftJis s ∧
    ¬ [0xFF, 0xFE] <+: encode .shiftJis s ∧ ¬ [0xFE, 0xFF] <+: encode .shiftJis s := by
  rcases encode_cases whole with empty | ⟨c, bytes, rest, encoded, parts⟩
  next =>
    rw [empty]
    decide
  next =>
    obtain ⟨b, tail, start, noMark, noBig, noLittle⟩ := (ShiftJis.written_of_encodeChar encoded).unmarked rest
    rw [parts, start]
    simp [mark, List.cons_prefix_cons, noMark.symm, noBig.symm, noLittle.symm]

theorem gbk_unmarked {s : String} (whole : warning? .gbk s = none) :
    ¬ [0xFF, 0xFE] <+: encode .gbk s ∧ ¬ [0xFE, 0xFF] <+: encode .gbk s := by
  rcases encode_cases whole with empty | ⟨c, bytes, rest, encoded, parts⟩
  next =>
    rw [empty]
    decide
  next =>
    obtain ⟨b, tail, start, noLittle, noBig⟩ := (Gb18030.written_of_encodeChar encoded).unmarked rest
    rw [parts, start]
    constructor
    · simp [List.cons_prefix_cons, noLittle.symm]
    · rintro ⟨more, same⟩
      cases same
      exact noBig rfl rfl

theorem decode_encode {s : String} (whole : e.warning? s = none) (plain : ¬ (e = .gbk ∧ mark <+: e.encode s)) :
    e.decode (e.encode s) = String.ofList (s.toList.map e.settled) := by
  have known : ∀ c ∈ s.toList, ∃ bytes, e.encodeChar? c = some bytes := fun c => encodeChar_of_warning whole
  cases e with
  | utf8 =>
    -- No character of UTF-8 shares its bytes, and no mark is looked for.
    have same : settled .utf8 = id := funext fun c => settled_of_not_mem List.not_mem_nil
    rw [decode, encode, Utf8.decode, Bytes.text?_ofText, same, List.map_id, String.ofList_toList]
  | shiftJis =>
    obtain ⟨noMark, noLittle, noBig⟩ := shiftJis_unmarked whole
    have read := read_flatMap (e := .shiftJis) ShiftJis.characters (by rw [ShiftJis.characters])
      (fun c bytes rest encoded => (ShiftJis.written_of_encodeChar encoded).reads rest) known
    rw [decode_unmarked (by decide) noMark noLittle noBig, if_pos rfl, ShiftJis.decode, encode_eq_flatMap, read]
  | gbk =>
    obtain ⟨noLittle, noBig⟩ := gbk_unmarked whole
    have read := read_flatMap (e := .gbk) Gb18030.characters (by rw [Gb18030.characters])
      (fun c bytes rest encoded => (Gb18030.written_of_encodeChar encoded).reads rest) known
    rw [decode_unmarked (by decide) (fun marked => plain ⟨rfl, marked⟩) noLittle noBig, if_neg (by decide),
      Gb18030.decode, encode_eq_flatMap, read]

theorem settled_text_eq_iff {s : String} :
    String.ofList (s.toList.map e.settled) = s ↔ ∀ c ∈ s.toList, c ∉ e.shared.map Prod.fst := by
  have unchanged : s.toList.map e.settled = s.toList.map id ↔ ∀ c ∈ s.toList, e.settled c = id c := List.map_inj_left
  rw [List.map_id] at unchanged
  rw [← String.toList_inj, String.toList_ofList, unchanged]
  simp only [id_eq, settled_eq_iff]

end Texts

/-- A text that an encoding has every character of. Its bytes are read as the same text, but for the characters that
share the bytes of others, unless they happen to start with the mark of UTF-8. -/
theorem encoded_text_read_back {e : Encoding} {s : String} (whole : e.warning? s = none) :
    (e = .gbk ∧ mark <+: e.encode s → e.decode (e.encode s) = Utf8.decode ((e.encode s).drop 3)) ∧
    (¬ (e = .gbk ∧ mark <+: e.encode s) →
      e.decode (e.encode s) = String.ofList (s.toList.map e.settled) ∧
      (e.decode (e.encode s) = s ↔ ∀ c ∈ s.toList, c ∉ e.shared.map Prod.fst)) ∧
    ((0x0A : UInt8) ∈ e.encode s ↔ '\n' ∈ s.toList) ∧ ((0x0D : UInt8) ∈ e.encode s ↔ '\r' ∈ s.toList) := by
  refine ⟨?_, ?_, mem_encode_iff whole rfl (by decide), mem_encode_iff whole rfl (by decide)⟩
  · rintro ⟨rfl, marked⟩
    exact decode_of_mark (by decide) marked
  · intro plain
    rw [decode_encode whole plain]
    exact ⟨rfl, settled_text_eq_iff⟩

theorem encodeChar_mark : encodeChar? .gbk '锘' = some [0xEF, 0xBB] ∧ encodeChar? .gbk '縘' = some [0xBF, 0x5D] := by
  obtain ⟨first, second⟩ := Gb.findIdx_table_mark
  constructor
  · rw [encodeChar?, Gb18030.encodeChar?, first]
    rfl
  · rw [encodeChar?, Gb18030.encodeChar?, second]
    rfl

theorem warning_eq_none {e : Encoding} {s : String} (known : ∀ c ∈ s.toList, (e.encodeChar? c).isSome = true) :
    e.warning? s = none := by
  rw [warning?, if_pos]
  exact List.all_eq_true.mpr known

theorem marked_line_read_back : warning? .gbk "\n锘縘" = none ∧ mark <:+: encode .gbk "\n锘縘" ∧
    decode .gbk (encode .gbk "\n锘縘") = "\n锘縘" ∧ 0x0A ∈ encode .gbk "\n锘縘" ∧ 0x0D ∉ encode .gbk "\n锘縘" := by
  have text : "\n锘縘".toList = ['\n', '锘', '縘'] := by decide
  have line : encodeChar? .gbk '\n' = some [0x0A] := by decide
  have whole : warning? .gbk "\n锘縘" = none := by
    apply warning_eq_none
    simp [text, line, encodeChar_mark]
  have bytes : encode .gbk "\n锘縘" = [0x0A, 0xEF, 0xBB, 0xBF, 0x5D] := by
    simp [encode_eq_flatMap, text, line, encodeChar_mark]
  obtain ⟨-, unmarked, feed, ret⟩ := encoded_text_read_back whole
  have plain : ¬ (gbk = .gbk ∧ mark <+: encode .gbk "\n锘縘") := by
    rw [bytes]
    decide
  refine ⟨whole, ?_, (unmarked plain).2.mpr ?_, feed.mpr (by decide), fun present => ?_⟩
  · rw [bytes]
    exact ⟨[0x0A], [0x5D], rfl⟩
  · simp [text, shared, Gb.successors]
  · exact absurd (ret.mp present) (by decide)

theorem not_all_texts_read_back :
    (warning? .shiftJis "¥" = none ∧ decode .shiftJis (encode .shiftJis "¥") ≠ "¥") ∧
    (warning? .gbk "\ue78d" = none ∧ decode .gbk (encode .gbk "\ue78d") ≠ "\ue78d") ∧
    (warning? .gbk "锘縘" = none ∧ decode .gbk (encode .gbk "锘縘") ≠ "锘縘") := by
  refine ⟨?_, ?_, ?_⟩
  · have whole : warning? .shiftJis "¥" = none := by decide +kernel
    refine ⟨whole, ?_⟩
    rw [decode_encode whole (by decide), ne_eq, settled_text_eq_iff]
    exact fun own => own '¥' (by decide) (by decide)
  · have whole : warning? .gbk "\ue78d" = none := by decide +kernel
    refine ⟨whole, ?_⟩
    rw [decode_encode whole (by decide), ne_eq, settled_text_eq_iff]
    exact fun own => own '\ue78d' (by decide) (by decide)
  · have text : "锘縘".toList = ['锘', '縘'] := by decide
    have bytes : encode .gbk "锘縘" = [0xEF, 0xBB, 0xBF, 0x5D] := by simp [encode_eq_flatMap, text, encodeChar_mark]
    refine ⟨warning_eq_none (by simp [text, encodeChar_mark]), ?_⟩
    rw [bytes, decode_of_mark (by decide) (by decide)]
    decide

end CueScript.Encoding
