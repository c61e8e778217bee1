import CueScript.Proofs.Disk.Handles
import Mathlib.Data.Nat.Digits.Defs

set_option autoImplicit false

namespace CueScript

section Bytes

variable {contents bytes : Bytes} {position : Nat}

theorem length_lowBytes (n count : Nat) : (lowBytes n count).length = count := by
  induction count generalizing n with
  | zero => rfl
  | succ count ih => rw [lowBytes, List.length_cons, ih]

theorem littleEndian_lowBytes (n count : Nat) : littleEndian (lowBytes n count) = n % 256 ^ count := by
  induction count generalizing n with
  | zero => simp [lowBytes, littleEndian, Nat.mod_one]
  | succ count ih =>
    have low : (UInt8.ofNat (n % 256)).toNat = n % 256 := by simp
    rw [lowBytes, littleEndian, ih, low, Nat.pow_succ', Nat.mod_mul]

theorem littleEndian_eq_ofDigits (bytes : Bytes) : littleEndian bytes = Nat.ofDigits 256 (bytes.map UInt8.toNat) := by
  induction bytes with
  | nil => rfl
  | cons b rest ih => rw [littleEndian, List.map_cons, Nat.ofDigits_cons, ih]

theorem toNat_word (value : Int64) : (value.toUInt64.toNat : Int) = value.toInt % 2 ^ 64 := by
  have word : value.toUInt64.toNat = value.toBitVec.toNat := rfl
  have signed : value.toInt = value.toBitVec.toInt := rfl
  have bound := value.toBitVec.isLt
  rw [word, signed, BitVec.toInt_eq_toNat_cond]
  split <;> omega

theorem littleEndian_word (value : Int64) {width : Nat} (narrow : width ≤ 8) :
    (littleEndian (lowBytes value.toUInt64.toNat width) : Int) = value.toInt % 2 ^ (8 * width) := by
  have range : (256 : Int) ^ width = 2 ^ (8 * width) := by rw [pow_mul]; norm_num
  -- A negative number is the word less a multiple of every range.
  have divides : (2 : Int) ^ (8 * width) ∣ 2 ^ 64 := pow_dvd_pow 2 (by omega)
  rw [littleEndian_lowBytes]
  push_cast
  rw [toNat_word, range, Int.emod_emod_of_dvd _ divides]

/-- The contents after some bytes were written at a position: nothing else changed, and a gap was filled with zeros. -/
structure Overwritten (old : Bytes) (position : Nat) (bytes new : Bytes) : Prop where
  length : new.length = max old.length (position + bytes.length)
  written : ∀ k, k < bytes.length → new[position + k]? = bytes[k]?
  kept : ∀ i, i < old.length → i < position ∨ position + bytes.length ≤ i → new[i]? = old[i]?
  gap : ∀ i, old.length ≤ i → i < position → new[i]? = some 0

theorem overwritten_overwrite (contents bytes : Bytes) (position : Nat) (given : bytes ≠ []) :
    Overwritten contents position bytes (overwrite contents position bytes) := by
  have nonempty := List.length_pos_iff.mpr given
  have filled : (contents.take position ++ List.replicate (position - contents.length) (0 : UInt8)).length = position := by
    rw [List.length_append, List.length_take, List.length_replicate]
    omega
  refine ⟨?_, fun k inside => ?_, fun i old outside => ?_, fun i past before => ?_⟩
  all_goals unfold overwrite
  next =>
    rw [List.length_append, List.length_append, filled, List.length_drop]
    omega
  next => rw [List.append_assoc, List.getElem?_append_right (by omega), filled, Nat.add_sub_cancel_left,
      List.getElem?_append_left inside]
  next =>
    rcases outside with before | after
    next =>
      rw [List.append_assoc, List.getElem?_append_left (by omega), List.getElem?_append_left (by simp; omega),
        List.getElem?_take_of_lt before]
    next =>
      rw [List.getElem?_append_right (by simp; omega), List.getElem?_drop]
      congr 1
      simp
      omega
  next =>
    rw [List.append_assoc, List.getElem?_append_left (by omega), List.getElem?_append_right (by simp; omega),
      List.getElem?_replicate, if_pos (by simp; omega)]

theorem Overwritten.taken {new : Bytes} (overwritten : Overwritten contents position bytes new) :
    (new.drop position).take bytes.length = bytes := by
  apply List.ext_getElem?
  intro k
  rw [List.getElem?_take, List.getElem?_drop]
  split
  next inside => exact overwritten.written k inside
  next outside => rw [List.getElem?_eq_none (Nat.not_lt.mp outside)]

end Bytes

section Disk

namespace DiskNode

variable {name wanted : String} {node sub new : DiskNode} {names other : List String} {entries : List (String × DiskNode)}

theorem lookup_putEntry : (putEntry name new entries).lookup wanted =
    if wanted = name then some new else entries.lookup wanted := by
  induction entries with
  | nil => grind [putEntry]
  | cons entry rest ih => grind [putEntry]

theorem putEntry_same (present : entries.lookup name = some new) : putEntry name new entries = entries := by
  induction entries with
  | nil => cases present
  | cons entry rest ih => grind [putEntry]

theorem find?_put (new : DiskNode) (names : List String) (node : DiskNode) :
    find? names (put new names node) = some new := by
  induction names generalizing node with
  | nil => rfl
  | cons name rest ih => rw [put, find?, lookup_putEntry, if_pos rfl, Option.bind_some, ih]

theorem put_same (present : find? names node = some new) : put new names node = node := by
  induction names generalizing node with
  | nil => exact (Option.some.inj present).symm
  | cons name rest ih =>
    cases node with
    | file => cases present
    | directory entries =>
      obtain ⟨sub, inside, found⟩ := Option.bind_eq_some_iff.mp present
      simp only [put, DiskNode.entries, inside, Option.getD_some, ih found, putEntry_same inside]

theorem find?_put_other {old bytes contents : Bytes} (present : find? names node = some (.file old))
    (elsewhere : other ≠ names) :
    find? other (put (.file contents) names node) = some (.file bytes) ↔ find? other node = some (.file bytes) := by
  induction names generalizing node other with
  | nil =>
    obtain rfl := Option.some.inj present
    cases other with
    | nil => exact absurd rfl elsewhere
    | cons => rfl
  | cons name rest ih =>
    cases node with
    | file => cases present
    | directory entries =>
      obtain ⟨sub, inside, found⟩ := Option.bind_eq_some_iff.mp present
      simp only [put, DiskNode.entries, inside, Option.getD_some]
      cases other with
      | nil => simp [find?]
      | cons wanted others =>
        simp only [find?, lookup_putEntry]
        -- The two paths go on into the same entry, or they part here.
        split
        next same =>
          rw [same, inside, Option.bind_some, Option.bind_some]
          exact ih found fun equal => elsewhere (by rw [same, equal])
        next => rfl

end DiskNode

namespace Disk

variable {disk : Disk} {names other : List String} {old : Bytes}

theorem node?_writeAt (present : disk.node? names = some (.file old)) (contents : Bytes) (other : List String) :
    (disk.writeAt names contents).node? other =
      DiskNode.find? other (DiskNode.put (.file contents) names (.directory disk.root)) := by
  cases names with
  | nil => cases present
  | cons name rest => rfl

theorem writeAt_same (present : disk.node? names = some (.file old)) : disk.writeAt names old = disk := by
  have same : DiskNode.put (.file old) names (.directory disk.root) = .directory disk.root := DiskNode.put_same present
  rw [writeAt, put, same, DiskNode.entries]

theorem contents_writeAt_other (present : disk.node? names = some (.file old)) (elsewhere : other ≠ names)
    (contents : Bytes) : (disk.writeAt names contents).contents other = disk.contents other := by
  have same (bytes : Bytes) : (disk.writeAt names contents).node? other = some (.file bytes) ↔
      disk.node? other = some (.file bytes) := by
    rw [node?_writeAt present]
    exact DiskNode.find?_put_other present elsewhere
  unfold Disk.contents
  split
  next bytes found => rw [(same bytes).mp found]
  next missing =>
    split
    next bytes found => exact absurd ((same bytes).mpr found) (missing bytes)
    next => rfl

end Disk

end Disk

section Table

variable {t : FileTable} {handle : Int64} {file : OpenFile}

theorem FileTable.lookup_update {key : Nat} (named : FileTable.key? handle = some key) (f : OpenFile) (wanted : Nat) :
    (t.update handle f).entries.lookup wanted =
      if wanted = key then (t.entries.lookup wanted).map fun _ => f else t.entries.lookup wanted := by
  simp only [FileTable.update, named, Option.some.injEq]
  induction t.entries with
  | nil => simp
  | cons entry rest ih =>
    obtain ⟨used, file⟩ := entry
    have head : (if key = used then (used, f) else (used, file)) = (used, if key = used then f else file) := by
      split <;> rfl
    rw [List.map_cons, head, List.lookup_cons, List.lookup_cons, ih]
    by_cases taken : wanted = used
    next =>
      subst taken
      by_cases same : key = wanted <;> simp [same, Ne.symm]
    next =>
      have passed : (wanted == used) = false := by simpa using taken
      simp only [passed]

theorem FileTable.get?_update (present : t.get? handle = some file) (f : OpenFile) (other : Int64) :
    (t.update handle f).get? other = if other = handle then some f else t.get? other := by
  obtain ⟨key, named, found⟩ := Option.bind_eq_some_iff.mp present
  unfold FileTable.get?
  by_cases same : other = handle
  next => rw [same, named, Option.bind_some, lookup_update named, if_pos rfl, found, if_pos rfl, Option.map_some]
  next =>
    rw [if_neg same]
    cases known : FileTable.key? other with
    | none => rfl
    | some wanted =>
      -- Two handles have different keys.
      have differs : wanted ≠ key := by
        intro equal
        have left := (FileTable.key?_eq_some.mp known).2
        have right := (FileTable.key?_eq_some.mp named).2
        exact same (Int64.toInt_inj.mp (by rw [← left, ← right, equal]))
      rw [Option.bind_some, Option.bind_some, lookup_update named, if_neg differs]

end Table

structure OpenFile.Serves (names : List String) (position : Nat) (f : OpenFile) : Prop where
  place : f.place = names
  readable : f.readable = true
  writable : f.writable = true
  regular : f.directory = false
  position : f.sync.position = position

namespace OpenFile.Serves

variable {names : List String} {position width : Nat} {f : OpenFile} {contents : Bytes} {size value : Int64}

theorem moved (serves : f.Serves names position) (target : Nat) :
    OpenFile.Serves names target { f.sync with position := target } := by
  obtain ⟨named, readable, writable, regular, _⟩ := serves
  unfold OpenFile.sync
  cases ahead : f.ahead with
  | none => exact ⟨named, readable, writable, regular, by simp only [OpenFile.sync, ahead]⟩
  | some bytes => exact ⟨named, readable, writable, regular, rfl⟩

theorem synced (serves : f.Serves names position) : f.sync.Serves names position := by
  have still := serves.moved f.sync.position
  rw [serves.position] at still
  exact serves.position ▸ still

theorem readNumber (serves : f.Serves names position) (wide : OpenFile.width? size = some width)
    (fits : position + width ≤ contents.length) :
    ∃ f', f.readNumber contents size = (.ok (littleEndian ((contents.drop position).take width)), f') ∧
      f'.Serves names (position + width) := by
  have whole : ((contents.drop position).take width).length = width := by
    rw [List.length_take, List.length_drop]
    omega
  have free : f.sync.readError? = none := by
    simp [OpenFile.readError?, serves.synced.readable, serves.synced.regular]
  refine ⟨_, ?_, serves.moved (position + width)⟩
  simp only [OpenFile.readNumber, wide, OpenFile.readBytes, free, serves.position, whole, Nat.lt_irrefl, if_false]
  rfl

theorem writeNumber (serves : f.Serves names position) (wide : OpenFile.width? size = some width) (positive : 0 < width) :
    ∃ f', f.writeNumber contents size value =
        (.ok (), overwrite contents position (lowBytes value.toUInt64.toNat width), f') ∧
      f'.Serves names (position + width) := by
  have length := length_lowBytes value.toUInt64.toNat width
  have nonempty : (lowBytes value.toUInt64.toNat width).isEmpty = false := by
    cases bytes : lowBytes value.toUInt64.toNat width with
    | nil => rw [bytes, List.length_nil] at length; omega
    | cons => rfl
  refine ⟨_, ?_, serves.moved (position + width)⟩
  simp only [OpenFile.writeNumber, wide, OpenFile.writeBytes, nonempty, serves.synced.writable, serves.position, length,
    Bool.not_true, Bool.false_eq_true, if_false]

theorem seek (serves : f.Serves names position) {place : Int64} {target : Nat} (there : place.toInt = target) :
    ∃ f', f.seek contents place 0 = (.ok target, f') ∧ f'.Serves names target := by
  have zero := Int64.toInt_zero
  have bound := place.toInt_lt
  have ahead : ¬ (place < 0) := by
    rw [Int64.lt_iff_toInt_lt]
    omega
  have inside : target < 0x8000000000000000 := by omega
  refine ⟨_, ?_, serves.moved target⟩
  simp [OpenFile.seek, ahead, there, inside]

end OpenFile.Serves

structure Files.HeldAt (fs : Files) (handle : Int64) (names : List String) (contents : Bytes) (position : Nat) : Prop where
  opened : ∃ f, fs.table.get? handle = some f ∧ f.Serves names position
  stored : fs.disk.node? names = some (.file contents)

/-- Nothing but one handle and one file may have changed. -/
structure Files.Spares (fs : Files) (handle : Int64) (names : List String) (fs' : Files) : Prop where
  handles : ∀ other, other ≠ handle → fs'.table.get? other = fs.table.get? other
  files : ∀ other, other ≠ names → fs'.disk.contents other = fs.disk.contents other

def Files.readEach (fs : Files) (handle : Int64) : Nat → List (Except FileFault Nat) × Files
  | 0 => ([], fs)
  | count + 1 =>
    let first := fs.readNumber handle 1
    let rest := first.2.readEach handle count
    (first.1 :: rest.1, rest.2)

namespace Files.HeldAt

variable {fs : Files} {handle : Int64} {names : List String} {contents contents' : Bytes} {position target : Nat}

theorem reading {α : Type} {result : Except FileFault α} (held : fs.HeldAt handle names contents position)
    (access : OpenFile → Bytes → Except FileFault α × OpenFile)
    (accessed : ∀ f : OpenFile, f.Serves names position → ∃ f', access f contents = (result, f') ∧ f'.Serves names target) :
    ∃ fs', fs.reading handle access = (result, fs') ∧ fs'.HeldAt handle names contents target ∧
      fs'.disk = fs.disk ∧ fs.Spares handle names fs' := by
  obtain ⟨f, present, serves⟩ := held.opened
  obtain ⟨f', ran, serves'⟩ := accessed f serves
  have bytes : fs.disk.contents f.place = contents := by rw [serves.place, Disk.contents, held.stored]
  have other := FileTable.get?_update present f'
  refine ⟨{ fs with table := fs.table.update handle f' }, ?_, ⟨⟨f', ?_, serves'⟩, held.stored⟩, rfl, ?_, fun _ _ => rfl⟩
  next => simp only [Files.reading, present, bytes, ran]
  next => rw [other, if_pos rfl]
  next => exact fun wanted differs => by rw [other, if_neg differs]

theorem writing {result : Except FileFault Unit} (held : fs.HeldAt handle names contents position)
    (access : OpenFile → Bytes → Except FileFault Unit × Bytes × OpenFile)
    (accessed : ∀ f : OpenFile, f.Serves names position →
      ∃ f', access f contents = (result, contents', f') ∧ f'.Serves names target) :
    ∃ fs', fs.writing handle access = (result, fs') ∧ fs'.HeldAt handle names contents' target ∧
      fs'.disk = fs.disk.writeAt names contents' ∧ fs.Spares handle names fs' := by
  obtain ⟨f, present, serves⟩ := held.opened
  obtain ⟨f', ran, serves'⟩ := accessed f serves
  have bytes : fs.disk.contents f.place = contents := by rw [serves.place, Disk.contents, held.stored]
  have other := FileTable.get?_update present f'
  refine ⟨{ disk := fs.disk.writeAt names contents', table := fs.table.update handle f' }, ?_,
    ⟨⟨f', ?_, serves'⟩, (Disk.node?_writeAt held.stored _ _).trans (DiskNode.find?_put _ _ _)⟩, rfl, ?_, ?_⟩
  next => simp only [Files.writing, present, bytes, ran, serves'.regular, serves'.place, Bool.false_eq_true, if_false]
  next => rw [other, if_pos rfl]
  next => exact fun wanted differs => by rw [other, if_neg differs]
  next => exact fun wanted differs => Disk.contents_writeAt_other held.stored differs contents'

theorem readEach (held : fs.HeldAt handle names contents position) (bytes : Bytes)
    (present : ∀ k, k < bytes.length → contents[position + k]? = bytes[k]?) :
    ∃ fs', fs.readEach handle bytes.length = (bytes.map fun b => .ok b.toNat, fs') ∧
      fs'.HeldAt handle names contents (position + bytes.length) := by
  induction bytes generalizing fs position with
  | nil => exact ⟨fs, rfl, held⟩
  | cons b rest ih =>
    have here : contents[position]? = some b := present 0 (Nat.zero_lt_succ _)
    have inside : position < contents.length := (List.getElem?_eq_some_iff.mp here).1
    have byte : (contents.drop position).take 1 = [b] := by
      rw [List.drop_eq_getElem_cons inside, List.take_succ_cons, List.take_zero, (List.getElem?_eq_some_iff.mp here).2]
    have single (f : OpenFile) (serves : f.Serves names position) :
        ∃ f', f.readNumber contents 1 = (.ok b.toNat, f') ∧ f'.Serves names (position + 1) := by
      have read := serves.readNumber (show OpenFile.width? 1 = some 1 from rfl) inside
      rw [byte] at read
      exact read
    obtain ⟨fs₁, ran, later, _⟩ := held.reading (fun file contents => file.readNumber contents 1) single
    obtain ⟨fs', others, last⟩ := ih later fun k below => by
      rw [Nat.add_assoc, Nat.add_comm 1 k]
      exact present (k + 1) (Nat.succ_lt_succ below)
    refine ⟨fs', ?_, ?_⟩
    next => simp only [List.length_cons, Files.readEach, Files.readNumber, ran, others, List.map_cons]
    next =>
      rw [List.length_cons, Nat.add_comm rest.length 1, ← Nat.add_assoc]
      exact last

theorem unsupported (held : fs.HeldAt handle names contents position) {size : Int64} (other : size ∉ [1, 2, 4])
    (value : Int64) :
    (∃ fs', fs.writeNumber handle size value = (.error (.unsupportedSize size), fs') ∧
      fs'.HeldAt handle names contents position ∧ fs'.disk = fs.disk ∧ fs.Spares handle names fs') ∧
    ∃ fs', fs.readNumber handle size = (.error (.unsupportedSize size), fs') ∧
      fs'.HeldAt handle names contents position ∧ fs'.disk = fs.disk ∧ fs.Spares handle names fs' := by
  have unknown : OpenFile.width? size = none := by
    simp only [List.mem_cons, List.not_mem_nil, or_false, not_or] at other
    simp only [OpenFile.width?, other, if_false]
  constructor
  next =>
    have declined (f : OpenFile) (serves : f.Serves names position) : ∃ f', f.writeNumber contents size value =
        (.error (.unsupportedSize size), contents, f') ∧ f'.Serves names position :=
      ⟨f.sync, by simp only [OpenFile.writeNumber, unknown], serves.synced⟩
    obtain ⟨fs', ran, held', disk, spares⟩ :=
      held.writing (fun file contents => file.writeNumber contents size value) declined
    exact ⟨fs', ran, held', disk.trans (Disk.writeAt_same held.stored), spares⟩
  next =>
    exact held.reading (fun file contents => file.readNumber contents size) fun f serves =>
      ⟨f.sync, by simp only [OpenFile.readNumber, unknown], serves.synced⟩

end Files.HeldAt

/-- A number is written as bytes of which it is the sum with powers of 256, up to its width, in place of as many bytes of
the file, and reading them gives it back. A width that is not supported changes nothing. -/
theorem numbers_kept_little_endian {fs : Files} {handle : Int64} {names : List String} {contents : Bytes} {position : Nat}
    (held : fs.HeldAt handle names contents position) (value : Int64) :
    (∀ width ∈ [1, 2, 4], ∃ bytes contents' fs',
      bytes.length = width ∧ ((Nat.ofDigits 256 (bytes.map UInt8.toNat) : Nat) : Int) = value.toInt % 2 ^ (8 * width) ∧
      fs.writeNumber handle (Int64.ofNat width) value = (.ok (), fs') ∧
      fs'.HeldAt handle names contents' (position + width) ∧ Overwritten contents position bytes contents' ∧
      fs.Spares handle names fs' ∧
      ∀ place : Int64, place.toInt = position → ∃ back,
        fs'.seek handle place 0 = (.ok position, back) ∧ back.HeldAt handle names contents' position ∧
        (∃ n later, back.readNumber handle (Int64.ofNat width) = (.ok n, later) ∧
          (n : Int) = value.toInt % 2 ^ (8 * width) ∧ later.HeldAt handle names contents' (position + width)) ∧
        ∃ later, back.readEach handle width = (bytes.map fun b => .ok b.toNat, later) ∧
          later.HeldAt handle names contents' (position + width)) ∧
    ∀ size : Int64, size ∉ [1, 2, 4] →
      (∃ fs', fs.writeNumber handle size value = (.error (.unsupportedSize size), fs') ∧
        fs'.HeldAt handle names contents position ∧ fs'.disk = fs.disk ∧ fs.Spares handle names fs') ∧
      ∃ fs', fs.readNumber handle size = (.error (.unsupportedSize size), fs') ∧
        fs'.HeldAt handle names contents position ∧ fs'.disk = fs.disk ∧ fs.Spares handle names fs' := by
  refine ⟨fun width member => ?_, fun size other => held.unsupported other value⟩
  obtain ⟨wide, positive, narrow⟩ : OpenFile.width? (Int64.ofNat width) = some width ∧ 0 < width ∧ width ≤ 8 := by
    revert width
    decide
  let bytes := lowBytes value.toUInt64.toNat width
  have length : bytes.length = width := length_lowBytes _ _
  have sum : (littleEndian bytes : Int) = value.toInt % 2 ^ (8 * width) := littleEndian_word value narrow
  have overwritten := overwritten_overwrite contents bytes position (List.ne_nil_of_length_pos (by omega))
  obtain ⟨fs', wrote, held', _, spares⟩ := held.writing
    (fun file contents => file.writeNumber contents (Int64.ofNat width) value)
    fun f serves => serves.writeNumber wide positive
  refine ⟨bytes, _, fs', length, by rw [← littleEndian_eq_ofDigits]; exact sum, wrote, held', overwritten, spares,
    fun place there => ?_⟩
  obtain ⟨back, sought, behind, _⟩ := held'.reading (fun file contents => file.seek contents place 0)
    fun f serves => serves.seek there
  have fits : position + width ≤ (overwrite contents position bytes).length := by
    rw [overwritten.length]
    omega
  obtain ⟨later, read, after, _⟩ := behind.reading
    (fun file contents => file.readNumber contents (Int64.ofNat width))
    fun f serves => serves.readNumber wide fits
  have whole : ((overwrite contents position bytes).drop position).take width = bytes := length ▸ overwritten.taken
  obtain ⟨last, each, ended⟩ := behind.readEach bytes overwritten.written
  rw [length] at each ended
  refine ⟨back, sought, behind, ⟨_, later, read, ?_, after⟩, last, each, ended⟩
  rw [whole]
  exact sum

def filesPastEnd : Files where
  disk := { root := [("save", .file [1, 2, 3])], home := [] }
  table := { entries := [(1, { place := ["save"], position := 5 })] }

theorem negative_number_past_end : filesPastEnd.HeldAt 1 ["save"] [1, 2, 3] 5 ∧
    ∃ fs' back n later, filesPastEnd.writeNumber 1 2 (-2) = (.ok (), fs') ∧ fs'.seek 1 5 0 = (.ok 5, back) ∧
      back.readNumber 1 2 = (.ok n, later) ∧ (n : Int) = 65534 := by
  have held : filesPastEnd.HeldAt 1 ["save"] [1, 2, 3] 5 := ⟨⟨_, rfl, rfl, rfl, rfl, rfl, rfl⟩, rfl⟩
  obtain ⟨_, _, fs', _, _, wrote, _, _, _, reads⟩ := (numbers_kept_little_endian held (-2)).1 2 (by decide)
  obtain ⟨back, sought, _, ⟨n, later, read, number, _⟩, _⟩ := reads 5 rfl
  exact ⟨held, fs', back, n, later, wrote, sought, read, number.trans (by decide)⟩

end CueScript
