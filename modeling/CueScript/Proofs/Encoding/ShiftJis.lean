import CueScript.Proofs.Encoding.Tables

set_option autoImplicit false

namespace CueScript.Encoding.ShiftJis

theorem lead_bytes : ∀ row < 60, ∀ b, b = UInt8.ofNat (row + (if row < 0x1F then 0x81 else 0xC1)) →
    isLead b = true ∧ isSingle b = false ∧ b.toNat - (if b < 0xA0 then 0x81 else 0xC1) = row ∧ 0x20 ≤ b ∧ b < 0xFE ∧
      (b = 0xEF → row = 46) := by
  simp only [forall_eq]
  decide +kernel

theorem trail_bytes : ∀ column < 188, ∀ b, b = UInt8.ofNat (column + (if column < 0x3F then 0x40 else 0x41)) →
    isTrail b = true ∧ b.toNat - (if b < 0x7F then 0x40 else 0x41) = column ∧ 0x20 ≤ b := by
  simp only [forall_eq]
  decide +kernel

theorem characters_single {b : UInt8} (alone : isSingle b = true) (rest : Bytes) :
    characters (b :: rest) = single b :: characters rest := by
  cases rest with
  | nil => simp [characters, alone]
  | cons next rest => simp [characters, alone]

theorem characters_place {place : Nat} {c : Char} (inside : place < 11280) (found : charAt? place = some c)
    (rest : Bytes) : characters (bytesAt place ++ rest) = c :: characters rest := by
  obtain ⟨lead, double, row, -⟩ := lead_bytes (place / 188) (by omega) _ rfl
  obtain ⟨trail, column, -⟩ := trail_bytes (place % 188) (by omega) _ rfl
  have pair : pair? (UInt8.ofNat (place / 188 + (if place / 188 < 0x1F then 0x81 else 0xC1)))
      (UInt8.ofNat (place % 188 + (if place % 188 < 0x3F then 0x40 else 0x41))) = some c := by
    have back : place / 188 * 188 + place % 188 = place := by omega
    rw [pair?, if_pos trail, ShiftJis.place, row, column, back, found]
  simp only [bytesAt, List.cons_append, List.nil_append, characters, double, lead, pair]
  simp

theorem charAt_of_written {place : Nat} {c : Char} (found : written.findIdx? (· == c) = some place)
    (known : c ≠ replacement) : place < 11280 ∧ place / 188 ≠ 46 ∧ charAt? place = some c := by
  have cell := getElem?_of_findIdx found
  rw [written, Array.getElem?_mapIdx] at cell
  obtain ⟨d, held, shown⟩ := Option.map_eq_some_iff.mp cell
  have inside : place < 11280 := by
    rw [← Jis.size_table]
    exact (Array.getElem?_eq_some_iff.mp held).1
  -- The rows that are blanked out take with them the only row whose first byte starts a byte order mark.
  by_cases twice : 8272 ≤ place ∧ place ≤ 8835
  next =>
    rw [if_pos twice] at shown
    exact absurd shown.symm known
  next =>
    rw [if_neg twice] at shown
    subst shown
    have outside : ¬ (8836 ≤ place ∧ place ≤ 10715) := by
      rintro ⟨above, below⟩
      rw [Jis.table_private above below] at held
      exact known (Option.some.inj held).symm
    refine ⟨inside, by omega, ?_⟩
    rw [charAt?, if_neg outside, held]
    simp [known]

inductive Written (c : Char) : Bytes → Prop
  | single (b : UInt8) (alone : isSingle b = true) (reads : single b = settled .shiftJis c)
    (control : b < 0x20 ∨ c.toNat < 0x20 → c.toNat = b.toNat) : Written c [b]
  | double (place : Nat) (inside : place < 11280) (row : place / 188 ≠ 46)
    (reads : charAt? place = some (settled .shiftJis c)) (high : 0x80 < c.toNat) : Written c (bytesAt place)

theorem settled_of_le {c : Char} (ascii : c.toNat ≤ 0x80) : settled .shiftJis c = c := by
  have beyond : ((shared .shiftJis).map Prod.fst).all (0x80 < ·.toNat) = true := by decide
  apply settled_of_not_mem
  intro member
  have above := of_decide_eq_true (List.all_eq_true.mp beyond c member)
  omega

theorem written_of_encodeChar {c : Char} {bytes : Bytes} (encoded : encodeChar? c = some bytes) : Written c bytes := by
  -- The cases are those of the encoder, in its order.
  rw [encodeChar?] at encoded
  by_cases ascii : c.toNat ≤ 0x80
  next =>
    rw [if_pos ascii] at encoded
    cases encoded
    have code : (UInt8.ofNat c.toNat).toNat = c.toNat := by
      rw [UInt8.toNat_ofNat']
      omega
    have low : UInt8.ofNat c.toNat ≤ 0x80 := UInt8.le_iff_toNat_le.mpr (by rw [code]; exact ascii)
    apply Written.single
    · simp [isSingle, low]
    · rw [ShiftJis.single, if_pos low, code, Char.ofNat_toNat, settled_of_le ascii]
    · exact fun _ => code.symm
  rw [if_neg ascii] at encoded
  have high : 0x80 < c.toNat := by omega
  by_cases yen : c = '¥'
  next =>
    subst yen
    cases encoded
    exact .single 0x5C (by decide) (by decide) (by decide)
  rw [if_neg yen] at encoded
  by_cases overline : c = '‾'
  next =>
    subst overline
    cases encoded
    exact .single 0x7E (by decide) (by decide) (by decide)
  rw [if_neg overline] at encoded
  by_cases kana : 0xFF61 ≤ c.toNat ∧ c.toNat ≤ 0xFF9F
  next =>
    rw [if_pos kana] at encoded
    cases encoded
    have code : (UInt8.ofNat (c.toNat - 0xFF61 + 0xA1)).toNat = c.toNat - 0xFF61 + 0xA1 := by
      rw [UInt8.toNat_ofNat']
      omega
    generalize UInt8.ofNat (c.toNat - 0xFF61 + 0xA1) = b at code
    have plain : c ≠ '−' := by rintro rfl; exact absurd kana (by decide)
    have back : 0xFF61 + (b.toNat - 0xA1) = c.toNat := by omega
    have beyond : ¬ b ≤ 0x80 := by rw [UInt8.le_iff_toNat_le, code]; simp
    have range : 0xA1 ≤ b ∧ b ≤ 0xDF := by
      simp only [UInt8.le_iff_toNat_le, UInt8.reduceToNat]
      omega
    apply Written.single
    · simp [isSingle, range]
    · rw [ShiftJis.single, if_neg beyond, back, Char.ofNat_toNat, settled_of_not_mem]
      simp [shared, yen, overline, plain]
    · rw [UInt8.lt_iff_toNat_lt, code]
      intro low
      simp only [UInt8.reduceToNat] at low
      omega
  rw [if_neg kana] at encoded
  by_cases unknown : c = replacement
  next =>
    rw [if_pos unknown] at encoded
    cases encoded
  rw [if_neg unknown] at encoded
  obtain ⟨place, found, rfl⟩ := Option.map_eq_some_iff.mp encoded
  -- The minus sign is looked up as the full-width one, so that one is what the table gives back.
  have same : settled .shiftJis c = if c = '−' then '－' else c := by
    by_cases minus : c = '−'
    next =>
      subst minus
      decide
    next =>
      rw [if_neg minus, settled_of_not_mem]
      simp [shared, yen, overline, minus]
  rw [← same] at found
  have known : settled .shiftJis c ≠ replacement := by
    rw [same]
    split
    · decide
    · exact unknown
  obtain ⟨inside, row, reads⟩ := charAt_of_written found known
  exact .double place inside row reads high

namespace Written

variable {c : Char} {bytes : Bytes}

theorem reads (written : Written c bytes) (rest : Bytes) :
    characters (bytes ++ rest) = settled .shiftJis c :: characters rest := by
  cases written with
  | single b alone reads control => rw [List.singleton_append, characters_single alone, reads]
  | double place inside row reads high => exact characters_place inside reads rest

theorem control (written : Written c bytes) {b : UInt8} (low : b < 0x20) : b ∈ bytes ↔ c.toNat = b.toNat := by
  cases written with
  | single only alone reads control =>
    rw [List.mem_singleton]
    constructor
    · rintro rfl
      exact control (.inl low)
    · intro same
      have small : c.toNat < 0x20 := same ▸ UInt8.lt_iff_toNat_lt.mp low
      exact UInt8.toNat_inj.mp (same.symm.trans (control (.inr small)))
  | double place inside row reads high =>
    have first := (lead_bytes (place / 188) (by omega) _ rfl).2.2.2.1
    have second := (trail_bytes (place % 188) (by omega) _ rfl).2.2
    have below : b.toNat < 0x20 := UInt8.lt_iff_toNat_lt.mp low
    constructor
    · simp only [bytesAt, List.mem_cons, List.not_mem_nil, or_false]
      rintro (rfl | rfl)
      · exact absurd low (UInt8.not_lt.mpr first)
      · exact absurd low (UInt8.not_lt.mpr second)
    · omega

theorem unmarked (written : Written c bytes) (rest : Bytes) : ∃ b tail, bytes ++ rest = b :: tail ∧
    b ≠ 0xEF ∧ b ≠ 0xFE ∧ b ≠ 0xFF := by
  cases written with
  | single b alone reads control =>
    refine ⟨b, rest, rfl, ?_, ?_, ?_⟩ <;> rintro rfl <;> exact absurd alone (by decide)
  | double place inside row reads high =>
    obtain ⟨-, -, -, -, below, mark⟩ := lead_bytes (place / 188) (by omega) _ rfl
    refine ⟨_, _, rfl, fun same => row (mark same), ?_, ?_⟩ <;> intro same <;> rw [same] at below <;>
      exact absurd below (by decide)

end Written

end CueScript.Encoding.ShiftJis
