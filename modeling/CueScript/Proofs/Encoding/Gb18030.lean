import CueScript.Proofs.Encoding.Tables

set_option autoImplicit false

namespace CueScript.Encoding.Gb18030

theorem lead_bytes : ∀ row < 126, ∀ b, b = UInt8.ofNat (row + 0x81) →
    isLead b = true ∧ b.toNat - 0x81 = row ∧ ¬ b < 0x80 ∧ b ≠ 0x80 ∧ b ≠ 0xFF := by
  simp only [forall_eq]
  decide +kernel

theorem trail_bytes : ∀ column < 190, ∀ b, b = UInt8.ofNat (column + (if column < 0x3F then 0x40 else 0x41)) →
    isTrail b = true ∧ isDigit b = false ∧ b.toNat - (if b < 0x7F then 0x40 else 0x41) = column ∧ 0x20 ≤ b ∧
      b ≠ 0xFF := by
  simp only [forall_eq]
  decide +kernel

theorem digit_bytes : ∀ digit < 10, ∀ b, b = UInt8.ofNat (digit + 0x30) →
    isDigit b = true ∧ b.toNat - 0x30 = digit ∧ 0x20 ≤ b ∧ b ≠ 0xFF := by
  simp only [forall_eq]
  decide

theorem characters_lead {row : Nat} (inside : row < 126) {rest : Bytes} {c : Char} {used : Nat}
    (found : leading (UInt8.ofNat (row + 0x81)) rest = (c, used)) :
    characters (UInt8.ofNat (row + 0x81) :: rest) = c :: characters (rest.drop (used - 1)) := by
  obtain ⟨-, -, notAscii, notEuro, notLast⟩ := lead_bytes row inside _ rfl
  rw [characters, if_neg notAscii, if_neg notEuro, if_neg notLast, found]

theorem leading_pair {lead trail : UInt8} {c : Char} (noDigit : isDigit trail = false)
    (found : pair? lead trail = some c) (rest : Bytes) : leading lead (trail :: rest) = (c, 2) := by
  simp [leading, noDigit, found]

theorem leading_long {first second third fourth : UInt8} {c : Char} (isSecond : isDigit second = true)
    (isThird : isLead third = true) (isFourth : isDigit fourth = true)
    (found : longChar? (longPlace first second third fourth) = some c) (rest : Bytes) :
    leading first (second :: third :: fourth :: rest) = (c, 4) := by
  simp [leading, isSecond, isThird, isFourth, found]

theorem characters_place {place : Nat} {c : Char} (inside : place < 23940) (found : Gb.table[place]? = some c)
    (rest : Bytes) : characters (bytesAt place ++ rest) = c :: characters rest := by
  obtain ⟨-, row, -⟩ := lead_bytes (place / 190) (by omega) _ rfl
  obtain ⟨trail, noDigit, column, -⟩ := trail_bytes (place % 190) (by omega) _ rfl
  have pair : pair? (UInt8.ofNat (place / 190 + 0x81))
      (UInt8.ofNat (place % 190 + (if place % 190 < 0x3F then 0x40 else 0x41))) = some c := by
    have back : place / 190 * 190 + place % 190 = place := by omega
    rw [pair?, if_pos trail, Gb18030.place, row, column, back, found]
  exact characters_lead (by omega) (leading_pair noDigit pair rest)

theorem characters_long {place : Nat} {c : Char} (inside : place < 1587600) (found : longChar? place = some c)
    (rest : Bytes) : characters (longBytes place ++ rest) = c :: characters rest := by
  obtain ⟨-, first, -⟩ := lead_bytes (place / 12600) (by omega) _ rfl
  obtain ⟨isSecond, second, -⟩ := digit_bytes (place / 1260 % 10) (by omega) _ rfl
  obtain ⟨isThird, third, -⟩ := lead_bytes (place / 10 % 126) (by omega) _ rfl
  obtain ⟨isFourth, fourth, -⟩ := digit_bytes (place % 10) (by omega) _ rfl
  have long : longPlace (UInt8.ofNat (place / 12600 + 0x81)) (UInt8.ofNat (place / 1260 % 10 + 0x30))
      (UInt8.ofNat (place / 10 % 126 + 0x81)) (UInt8.ofNat (place % 10 + 0x30)) = place := by
    rw [longPlace, first, second, third, fourth]
    omega
  exact characters_lead (by omega) (leading_long isSecond isThird isFourth (long.symm ▸ found) rest)

theorem not_exempt {c : Char} (written : c.toNat ≠ 0xE5E5) (former : Gb.formerPrivate.lookup c.toNat = none)
    (stray : c.toNat ≠ 0xE7C7) : c.toNat ∉ Gb.exempt := by
  have valid : c.toNat < 0xD800 ∨ 0xDFFF < c.toNat ∧ c.toNat < 0x110000 := c.valid
  simp only [Gb.exempt, List.mem_append, List.mem_cons, List.mem_map, List.mem_range'_1]
  rintro ((private' | other | ⟨entry, member, same⟩) | surrogate)
  · exact written private'
  · exact stray other
  · simpa [same] using List.lookup_eq_none_iff.mp former entry member
  · omega

theorem longChar_place {c : Char} (low : 0x80 ≤ c.toNat) (written : c.toNat ≠ 0xE5E5)
    (former : Gb.formerPrivate.lookup c.toNat = none) (missing : c ∉ Gb.table) :
    longPlaceOf c < 1587600 ∧ longChar? (longPlaceOf c) = some c := by
  have valid : c.toNat < 0xD800 ∨ 0xDFFF < c.toNat ∧ c.toNat < 0x110000 := c.valid
  by_cases stray : c = strayChar
  next =>
    subst stray
    decide
  by_cases beyond : 0x10000 ≤ c.toNat
  next =>
    have place : longPlaceOf c = 189000 + (c.toNat - 0x10000) := by simp [longPlaceOf, stray, beyond]
    have back : 0x10000 + (longPlaceOf c - 189000) = c.toNat := by omega
    refine ⟨by omega, ?_⟩
    rw [longChar?, if_neg (by rw [strayPlace]; omega), if_pos (by omega), back, Char.ofNat_toNat]
  have own : c.toNat ∉ Gb.exempt := by
    apply not_exempt written former
    intro same
    apply stray
    rw [← Char.ofNat_toNat (c := c), same]
    rfl
  obtain ⟨⟨start, code⟩, -, below, byCode, byStart⟩ := (Gb.mem_table_or_range low own).resolve_left missing
  dsimp only at below byStart
  have place : longPlaceOf c = start + (c.toNat - code) := by simp [longPlaceOf, stray, beyond, byCode]
  rw [← place] at byStart
  -- Its own place in the range would be the stray one only for a character that the table has.
  have notStray : longPlaceOf c ≠ strayPlace := by
    intro same
    have there : Gb.ranges.reverse.find? (·.1 ≤ strayPlace) = some (820, 0x452) := by decide
    rw [same, there] at byStart
    cases byStart
    have only : c.toNat = 0x1E3F := by
      rw [strayPlace] at same
      omega
    apply missing
    rw [← Char.ofNat_toNat (c := c), only]
    exact Gb.mem_table_of_stray
  have bounded : longPlaceOf c ≤ 39419 := by
    apply Nat.le_of_not_lt
    intro past
    -- It would be in the last range, but the last character before the supplementary planes is at the bound.
    have last : Gb.ranges.reverse.head? = some (39394, 0xFFE6) := by decide
    have first : Gb.ranges.reverse.find? (·.1 ≤ longPlaceOf c) = some (39394, 0xFFE6) := by
      obtain ⟨rest, reversed⟩ := List.head?_eq_some_iff.mp last
      rw [reversed, List.find?_cons_of_pos]
      simp only [decide_eq_true_eq]
      omega
    rw [first] at byStart
    cases byStart
    omega
  have back : code + (longPlaceOf c - start) = c.toNat := by omega
  refine ⟨by omega, ?_⟩
  rw [longChar?, if_neg notStray, if_neg (by omega), if_neg (by omega), byStart]
  simp only [Option.map_some, back, Char.ofNat_toNat]

inductive Written (c : Char) : Bytes → Prop
  | single (b : UInt8) (ascii : b < 0x80) (same : c.toNat = b.toNat) (reads : c = settled .gbk c) : Written c [b]
  | double (place : Nat) (inside : place < 23940) (reads : Gb.table[place]? = some (settled .gbk c))
    (high : 0x80 ≤ c.toNat) : Written c (bytesAt place)
  | long (place : Nat) (inside : place < 1587600) (reads : longChar? place = some (settled .gbk c))
    (high : 0x80 ≤ c.toNat) : Written c (longBytes place)

theorem settled_of_lookup {c : Char} (former : Gb.formerPrivate.lookup c.toNat = none) : settled .gbk c = c := by
  have keys : ((shared .gbk).map Prod.fst).all (·.toNat ∈ Gb.formerPrivate.map Prod.fst) = true := by decide
  apply settled_of_not_mem
  intro member
  obtain ⟨entry, found, same⟩ := List.mem_map.mp (of_decide_eq_true (List.all_eq_true.mp keys c member))
  have differs := List.lookup_eq_none_iff.mp former entry found
  rw [same, bne_self_eq_false] at differs
  cases differs

theorem written_former {c : Char} {pair : Nat} (found : Gb.formerPrivate.lookup c.toNat = some pair) :
    Written c [UInt8.ofNat (pair / 256), UInt8.ofNat (pair % 256)] := by
  have member : (c.toNat, pair) ∈ Gb.formerPrivate := by
    obtain ⟨before, after, parts, -⟩ := List.lookup_eq_some_iff.mp found
    rw [parts]
    exact List.mem_append_right _ List.mem_cons_self
  -- The bytes are spelled out in the list, so that they are those of a place has to be looked up for each.
  have facts : ∀ entry ∈ Gb.formerPrivate, 0x80 ≤ entry.1 ∧ (Gb.successors.lookup (Char.ofNat entry.1)).isSome = true ∧
      place (UInt8.ofNat (entry.2 / 256)) (UInt8.ofNat (entry.2 % 256)) < 23940 ∧
      bytesAt (place (UInt8.ofNat (entry.2 / 256)) (UInt8.ofNat (entry.2 % 256))) =
        [UInt8.ofNat (entry.2 / 256), UInt8.ofNat (entry.2 % 256)] := by
    decide
  obtain ⟨high, known, inside, bytes⟩ := facts _ member
  have cell := Gb.table_former member
  rw [Char.ofNat_toNat] at known cell
  obtain ⟨successor, known⟩ := Option.isSome_iff_exists.mp known
  rw [← bytes]
  apply Written.double _ inside _ high
  rw [cell, settled, shared, known, Option.getD_some]

theorem written_of_encodeChar {c : Char} {bytes : Bytes} (encoded : encodeChar? c = some bytes) : Written c bytes := by
  rw [encodeChar?] at encoded
  by_cases ascii : c.toNat < 0x80
  next =>
    rw [if_pos ascii] at encoded
    cases encoded
    have code : (UInt8.ofNat c.toNat).toNat = c.toNat := by
      rw [UInt8.toNat_ofNat']
      omega
    have plain : ∀ entry ∈ Gb.formerPrivate, 0x80 ≤ entry.1 := by decide
    have former : Gb.formerPrivate.lookup c.toNat = none := by
      apply List.lookup_eq_none_iff.mpr
      intro entry member
      have above := plain entry member
      simp only [bne_iff_ne, ne_eq]
      omega
    apply Written.single
    · rw [UInt8.lt_iff_toNat_lt, code]
      exact ascii
    · exact code.symm
    · exact (settled_of_lookup former).symm
  rw [if_neg ascii] at encoded
  have high : 0x80 ≤ c.toNat := by omega
  by_cases unwritten : c.toNat = 0xE5E5
  next =>
    rw [if_pos unwritten] at encoded
    cases encoded
  rw [if_neg unwritten] at encoded
  -- Generalized before any case split, or the table is evaluated on the way.
  generalize former : Gb.formerPrivate.lookup c.toNat = old at encoded
  cases old with
  | some pair =>
    cases encoded
    exact written_former former
  | none =>
    have same := settled_of_lookup former
    generalize found : Gb.table.findIdx? (· == c) = cell at encoded
    cases cell with
    | some place =>
      cases encoded
      have reads := getElem?_of_findIdx found
      have inside : place < 23940 := by
        rw [← Gb.size_table]
        exact (Array.getElem?_eq_some_iff.mp reads).1
      exact .double place inside (same.symm ▸ reads) high
    | none =>
      cases encoded
      have missing : c ∉ Gb.table := by
        intro member
        have differs := Array.findIdx?_eq_none_iff.mp found c member
        rw [beq_self_eq_true] at differs
        cases differs
      obtain ⟨inside, reads⟩ := longChar_place high unwritten former missing
      exact .long _ inside (same.symm ▸ reads) high

namespace Written

variable {c : Char} {bytes : Bytes}

theorem reads (written : Written c bytes) (rest : Bytes) :
    characters (bytes ++ rest) = settled .gbk c :: characters rest := by
  cases written with
  | single b ascii same reads =>
    rw [List.singleton_append, characters, if_pos ascii, ← same, Char.ofNat_toNat, ← reads]
  | double place inside reads high => exact characters_place inside reads rest
  | long place inside reads high => exact characters_long inside reads rest

theorem control (written : Written c bytes) {b : UInt8} (low : b < 0x20) : b ∈ bytes ↔ c.toNat = b.toNat := by
  have below : b.toNat < 0x20 := UInt8.lt_iff_toNat_lt.mp low
  cases written with
  | single only ascii same reads => rw [List.mem_singleton, same, UInt8.toNat_inj, eq_comm]
  | double place inside reads high =>
    have first := (lead_bytes (place / 190) (by omega) _ rfl).2.2.1
    have second := (trail_bytes (place % 190) (by omega) _ rfl).2.2.2.1
    constructor
    · simp only [bytesAt, List.mem_cons, List.not_mem_nil, or_false]
      rintro (rfl | rfl)
      · exact absurd (UInt8.lt_trans low (by decide)) first
      · exact absurd low (UInt8.not_lt.mpr second)
    · omega
  | long place inside reads high =>
    have first := (lead_bytes (place / 12600) (by omega) _ rfl).2.2.1
    have second := (digit_bytes (place / 1260 % 10) (by omega) _ rfl).2.2.1
    have third := (lead_bytes (place / 10 % 126) (by omega) _ rfl).2.2.1
    have fourth := (digit_bytes (place % 10) (by omega) _ rfl).2.2.1
    constructor
    · simp only [longBytes, List.mem_cons, List.not_mem_nil, or_false]
      rintro (rfl | rfl | rfl | rfl)
      · exact absurd (UInt8.lt_trans low (by decide)) first
      · exact absurd low (UInt8.not_lt.mpr second)
      · exact absurd (UInt8.lt_trans low (by decide)) third
      · exact absurd low (UInt8.not_lt.mpr fourth)
    · omega

/-- The byte order marks of UTF-16 hold a byte that is neither a first nor a second byte here. -/
theorem unmarked (written : Written c bytes) (rest : Bytes) : ∃ b tail, bytes ++ rest = b :: tail ∧ b ≠ 0xFF ∧
    (b = 0xFE → tail.head? ≠ some 0xFF) := by
  cases written with
  | single b ascii same reads =>
    refine ⟨b, rest, rfl, ?_, ?_⟩ <;> rintro rfl <;> exact absurd ascii (by decide)
  | double place inside reads high =>
    have first := (lead_bytes (place / 190) (by omega) _ rfl).2.2.2.2
    have second := (trail_bytes (place % 190) (by omega) _ rfl).2.2.2.2
    exact ⟨_, _, rfl, first, fun _ same => second (Option.some.inj same)⟩
  | long place inside reads high =>
    have first := (lead_bytes (place / 12600) (by omega) _ rfl).2.2.2.2
    have second := (digit_bytes (place / 1260 % 10) (by omega) _ rfl).2.2.2
    exact ⟨_, _, rfl, first, fun _ same => second (Option.some.inj same)⟩

end Written

end CueScript.Encoding.Gb18030
