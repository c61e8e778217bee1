import CueScript.Disk.FileTable
import Mathlib.Data.Finset.Basic
import Mathlib.Order.Bounds.Defs

set_option autoImplicit false

namespace CueScript

namespace FileTable

inductive Call where
  | opening (file : OpenFile)
  | closing (handle : Int64)
  | closingAll

inductive Answer where
  | opened (handle : Nat)
  | closed
  | failed (fault : FileFault)

/-- What the calls and their answers tell of the open files: the handles in use, and how many were given out and taken
back since all files were closed. -/
structure Ledger where
  held : Finset Int := ∅
  opens : Nat := 0
  closes : Nat := 0

def Ledger.note (l : Ledger) : Call → Answer → Ledger
  | .opening _, .opened handle => { l with held := insert (handle : Int) l.held, opens := l.opens + 1 }
  | .closing handle, .closed => { l with held := l.held.erase handle.toInt, closes := l.closes + 1 }
  | .closingAll, _ => {}
  | _, _ => l

def keys (t : FileTable) : List Nat :=
  t.entries.map Prod.fst

end FileTable

open FileTable

namespace Files

def answer (fs : Files) : Call → Answer × Files
  | .opening file => (.opened (fs.table.bind file).1, { fs with table := (fs.table.bind file).2 })
  | .closing handle =>
    match fs.close handle with
    | (.ok (), fs) => (.closed, fs)
    | (.error fault, fs) => (.failed fault, fs)
  | .closingAll => (.closed, fs.closeAll)

def serve (fs : Files) (l : Ledger) : List Call → Files × Ledger
  | [] => (fs, l)
  | call :: rest => (fs.answer call).2.serve (l.note call (fs.answer call).1) rest

end Files

namespace FileTable

section Entries

variable {entries : List (Nat × OpenFile)} {handle key : Nat} {file : OpenFile}

theorem firstFree_spec (ordered : (entries.map Prod.fst).Pairwise (· < ·))
    (later : ∀ key ∈ entries.map Prod.fst, handle ≤ key) :
    handle ≤ firstFree handle entries ∧ firstFree handle entries ∉ entries.map Prod.fst ∧
      ∀ n, handle ≤ n → n < firstFree handle entries → n ∈ entries.map Prod.fst := by
  induction entries generalizing handle with
  | nil => exact ⟨Nat.le_refl _, List.not_mem_nil, fun n low high => absurd high (Nat.not_lt.mpr low)⟩
  | cons entry rest ih =>
    obtain ⟨used, file⟩ := entry
    simp only [List.map_cons, List.pairwise_cons] at ordered
    obtain ⟨above, ordered⟩ := ordered
    simp only [List.map_cons, List.mem_cons, forall_eq_or_imp] at later
    simp only [firstFree, List.map_cons, List.mem_cons]
    split
    next taken =>
      subst taken
      have next : ∀ key ∈ rest.map Prod.fst, used + 1 ≤ key := above
      obtain ⟨low, free, full⟩ := ih ordered next
      refine ⟨by omega, fun member => ?_, fun n from' below => ?_⟩
      · rcases member with same | member
        · omega
        · exact free member
      · by_cases same : n = used
        · exact .inl same
        · exact .inr (full n (by omega) below)
    next gap =>
      -- The keys increase, so none of the later ones can fill the gap.
      refine ⟨Nat.le_refl _, fun member => ?_, fun n low high => absurd high (Nat.not_lt.mpr low)⟩
      rcases member with same | member
      · exact gap same.symm
      · have more := above handle member
        omega

theorem mem_insertEntry :
    key ∈ (insertEntry handle file entries).map Prod.fst ↔ key = handle ∨ key ∈ entries.map Prod.fst := by
  induction entries with
  | nil => simp [insertEntry]
  | cons entry rest ih =>
    obtain ⟨used, other⟩ := entry
    simp only [insertEntry]
    split
    next => simp
    next =>
      split
      next same => simp [same]
      next => simp only [List.map_cons, List.mem_cons, ih, or_left_comm]

theorem ordered_insertEntry (ordered : (entries.map Prod.fst).Pairwise (· < ·)) :
    ((insertEntry handle file entries).map Prod.fst).Pairwise (· < ·) := by
  induction entries with
  | nil => simp [insertEntry]
  | cons entry rest ih =>
    obtain ⟨used, other⟩ := entry
    obtain ⟨above, below⟩ : (∀ key ∈ rest.map Prod.fst, used < key) ∧ (rest.map Prod.fst).Pairwise (· < ·) := by
      simpa only [List.map_cons, List.pairwise_cons] using ordered
    simp only [insertEntry]
    split
    next less =>
      rw [List.map_cons, List.pairwise_cons]
      refine ⟨fun key member => ?_, ordered⟩
      rcases List.mem_cons.mp member with rfl | member
      · exact less
      · exact Nat.lt_trans less (above key member)
    next =>
      split
      next same => simpa only [List.map_cons, same] using ordered
      next =>
        rw [List.map_cons, List.pairwise_cons]
        refine ⟨fun key member => ?_, ih below⟩
        rcases mem_insertEntry.mp member with rfl | member
        · change used < key
          omega
        · exact above key member

theorem length_insertEntry (fresh : handle ∉ entries.map Prod.fst) :
    (insertEntry handle file entries).length = entries.length + 1 := by
  induction entries with
  | nil => rfl
  | cons entry rest ih =>
    obtain ⟨used, other⟩ := entry
    rw [List.map_cons, List.mem_cons, not_or] at fresh
    simp only [insertEntry]
    split
    next => rfl
    next =>
      rw [if_neg fresh.1, List.length_cons, ih fresh.2, List.length_cons]

theorem lookup_insertEntry :
    (insertEntry handle file entries).lookup key = if key = handle then some file else entries.lookup key := by
  induction entries with
  | nil => grind [insertEntry]
  | cons entry rest ih => grind [insertEntry]

end Entries

structure Ordered (t : FileTable) : Prop where
  increasing : t.keys.Pairwise (· < ·)
  positive : ∀ key ∈ t.keys, 1 ≤ key

section Handles

variable {t : FileTable} {handle : Int64} {key : Nat}

theorem key?_eq_some : key? handle = some key ↔ 1 ≤ key ∧ (key : Int) = handle.toInt := by
  have one := Int64.toInt_one
  unfold key?
  split
  next low =>
    rw [Int64.lt_iff_toInt_lt] at low
    simp only [reduceCtorEq, false_iff]
    omega
  next high =>
    rw [Int64.lt_iff_toInt_lt] at high
    rw [Option.some.injEq]
    omega

theorem isSome_lookup (t : FileTable) (key : Nat) : (t.entries.lookup key).isSome ↔ key ∈ t.keys := by
  rw [List.lookup_isSome_iff, keys, List.mem_map]
  simp only [beq_iff_eq, eq_comm (a := key)]

theorem Ordered.isOpen_iff (ordered : t.Ordered) : t.isOpen handle = true ↔ ∃ key ∈ t.keys, (key : Int) = handle.toInt := by
  unfold isOpen get?
  constructor
  next =>
    intro found
    obtain ⟨file, found⟩ := Option.isSome_iff_exists.mp found
    obtain ⟨key, known, bound⟩ := Option.bind_eq_some_iff.mp found
    exact ⟨key, (t.isSome_lookup key).mp (by rw [bound]; rfl), (key?_eq_some.mp known).2⟩
  next =>
    rintro ⟨key, member, named⟩
    rw [key?_eq_some.mpr ⟨ordered.positive key member, named⟩, Option.bind_some]
    exact (t.isSome_lookup key).mpr member

theorem Ordered.keys_remove (ordered : t.Ordered) (named : key? handle = some key) :
    (t.remove handle).keys = t.keys.erase key := by
  have nodup : t.keys.Nodup := ordered.increasing.imp fun less => Nat.ne_of_lt less
  rw [nodup.erase_eq_filter, keys, keys, remove, List.filter_map]
  refine congrArg _ (List.filter_congr fun entry _ => ?_)
  simp only [named, Function.comp_apply]
  grind

end Handles

structure Ledger.Accounts (l : Ledger) (t : FileTable) : Prop where
  ordered : t.Ordered
  held : ∀ n, n ∈ l.held ↔ ∃ key ∈ t.keys, (key : Int) = n
  size : t.size + l.closes = l.opens

namespace Ledger.Accounts

variable {l : Ledger} {t : FileTable} {handle : Int64}

theorem empty : Accounts {} {} where
  ordered := ⟨List.Pairwise.nil, nofun⟩
  held n := by simp [keys]
  size := rfl

theorem free (accounts : l.Accounts t) :
    1 ≤ t.freeHandle ∧ t.freeHandle ∉ t.keys ∧ ∀ n, 1 ≤ n → n < t.freeHandle → n ∈ t.keys :=
  firstFree_spec accounts.ordered.increasing accounts.ordered.positive

theorem isOpen_iff (accounts : l.Accounts t) : t.isOpen handle = true ↔ handle.toInt ∈ l.held := by
  rw [accounts.ordered.isOpen_iff, accounts.held]

theorem opened (accounts : l.Accounts t) (file : OpenFile) :
    (l.note (.opening file) (.opened (t.bind file).1)).Accounts (t.bind file).2 := by
  obtain ⟨positive, fresh, _⟩ := accounts.free
  refine ⟨⟨ordered_insertEntry accounts.ordered.increasing, fun key member => ?_⟩, fun n => ?_, ?_⟩
  · rcases mem_insertEntry.mp member with rfl | old
    · exact positive
    · exact accounts.ordered.positive key old
  · simp only [Ledger.note, Finset.mem_insert, accounts.held, bind, keys, mem_insertEntry, exists_eq_or_imp]
    rw [eq_comm]
  · have longer : (t.bind file).2.size = t.size + 1 := length_insertEntry fresh
    have before := accounts.size
    simp only [Ledger.note]
    omega

theorem closed (accounts : l.Accounts t) (found : t.isOpen handle = true) :
    (l.note (.closing handle) .closed).Accounts (t.remove handle) := by
  obtain ⟨key, member, named⟩ := accounts.ordered.isOpen_iff.mp found
  have known := key?_eq_some.mpr ⟨accounts.ordered.positive key member, named⟩
  have rest := accounts.ordered.keys_remove known
  have nodup : t.keys.Nodup := accounts.ordered.increasing.imp fun less => Nat.ne_of_lt less
  refine ⟨⟨?_, fun other present => ?_⟩, fun n => ?_, ?_⟩
  · rw [rest]
    exact accounts.ordered.increasing.sublist List.erase_sublist
  · rw [rest] at present
    exact accounts.ordered.positive other (List.mem_of_mem_erase present)
  · simp only [Ledger.note, Finset.mem_erase, accounts.held, rest, nodup.mem_erase_iff, ← named]
    constructor
    next =>
      rintro ⟨others, other, present, rfl⟩
      exact ⟨other, ⟨fun same => others (by rw [same]), present⟩, rfl⟩
    next =>
      rintro ⟨other, ⟨others, present⟩, rfl⟩
      exact ⟨fun same => others (Int.ofNat.inj same), other, present, rfl⟩
  · have shorter : (t.remove handle).size + 1 = t.size := by
      have length := List.length_erase_of_mem member
      have some' := List.length_pos_of_mem member
      rw [← rest] at length
      simp only [keys, List.length_map] at length some'
      simp only [FileTable.size]
      omega
    have before := accounts.size
    simp only [Ledger.note]
    omega

end Ledger.Accounts

end FileTable

namespace Files

variable {fs : Files} {l : Ledger} {handle : Int64}

theorem close_open (found : fs.table.isOpen handle = true) :
    fs.close handle = (.ok (), { fs with table := fs.table.remove handle }) := by
  simp only [Files.close, FileTable.close, if_pos found]

theorem close_unknown (missing : ¬ fs.table.isOpen handle = true) :
    fs.close handle = (.error (.invalidHandle handle), fs) := by
  simp only [Files.close, FileTable.close, if_neg missing]

theorem answer_accounts (accounts : l.Accounts fs.table) (call : Call) :
    (l.note call (fs.answer call).1).Accounts (fs.answer call).2.table := by
  cases call with
  | opening file => exact accounts.opened file
  | closing handle =>
    by_cases found : fs.table.isOpen handle = true
    · simp only [answer, close_open found]
      exact accounts.closed found
    · simp only [answer, close_unknown found]
      exact accounts
  | closingAll => exact .empty

theorem serve_accounts (accounts : l.Accounts fs.table) (calls : List Call) :
    (fs.serve l calls).2.Accounts (fs.serve l calls).1.table := by
  induction calls generalizing fs l with
  | nil => exact accounts
  | cons call rest ih => exact ih (answer_accounts accounts call)

theorem access_unknown (missing : ¬ fs.table.isOpen handle = true) :
    (∀ {α : Type} (access : OpenFile → Bytes → Except FileFault α × OpenFile),
      fs.reading handle access = (.error (.invalidHandle handle), fs)) ∧
    ∀ access, fs.writing handle access = (.error (.invalidHandle handle), fs) := by
  have absent : fs.table.get? handle = none := by simpa [isOpen] using missing
  constructor
  next =>
    intro α access
    simp only [reading, absent]
  next =>
    intro access
    simp only [writing, absent]

theorem table_of_openFile {path : String} {mode : Disk.OpenMode} {fs' : Files}
    (opened : fs.openFile path mode = .ok (handle, fs')) :
    ∃ file, handle = Int64.ofNat (fs.table.bind file).1 ∧ fs'.table = (fs.table.bind file).2 := by
  unfold openFile at opened
  cases placed : fs.disk.openAt path mode with
  | error e =>
    rw [placed] at opened
    cases opened
  | ok place =>
    rw [placed] at opened
    cases opened
    exact ⟨_, rfl, rfl⟩

end Files

/-- After any calls, in the words of what they answered: which handle the next file gets, which handles can be accessed
and closed, and how many there are. -/
theorem handles_given_out_smallest_first (disk : Disk) (calls : List Call) {fs : Files} {l : Ledger}
    (served : Files.serve { disk } {} calls = (fs, l)) :
    (∀ file, IsLeast {n : Int | 1 ≤ n ∧ n ∉ l.held} (fs.table.bind file).1 ∧
      ∀ key, (fs.table.bind file).2.entries.lookup key =
        if key = (fs.table.bind file).1 then some file else fs.table.entries.lookup key) ∧
    (∀ path mode handle fs', fs.openFile path mode = .ok (handle, fs') →
      ∃ file, handle = Int64.ofNat (fs.table.bind file).1 ∧ fs'.table = (fs.table.bind file).2) ∧
    (∀ n ∈ l.held, 1 ≤ n) ∧
    (∀ handle : Int64, handle.toInt ∈ l.held →
      (∃ file, fs.table.get? handle = some file) ∧ ∃ fs', fs.close handle = (.ok (), fs')) ∧
    (∀ handle : Int64, handle.toInt ∉ l.held →
      fs.close handle = (.error (.invalidHandle handle), fs) ∧
      (∀ {α : Type} (access : OpenFile → Bytes → Except FileFault α × OpenFile),
        fs.reading handle access = (.error (.invalidHandle handle), fs)) ∧
      ∀ access, fs.writing handle access = (.error (.invalidHandle handle), fs)) ∧
    fs.table.size + l.closes = l.opens := by
  have accounts : l.Accounts fs.table := by
    have fresh : Ledger.Accounts {} ({ disk } : Files).table := .empty
    have kept := Files.serve_accounts fresh calls
    rwa [served] at kept
  obtain ⟨positive, fresh, full⟩ := accounts.free
  refine ⟨fun file => ⟨⟨⟨?_, ?_⟩, ?_⟩, fun key => lookup_insertEntry⟩,
    fun path mode handle fs' opened => Files.table_of_openFile opened, fun n member => ?_, fun handle member => ?_,
    fun handle missing => ?_, accounts.size⟩
  · exact Int.ofNat_le.mpr positive
  · rw [accounts.held]
    rintro ⟨key, member, same⟩
    have given : key = fs.table.freeHandle := Int.ofNat.inj same
    exact fresh (given ▸ member)
  · -- A smaller number than the one given out is among the keys.
    rintro n ⟨low, free⟩
    by_contra less
    refine free ((accounts.held n).mpr ⟨n.toNat, full n.toNat (by omega) ?_, by omega⟩)
    have given : ((fs.table.bind file).1 : Int) = fs.table.freeHandle := rfl
    omega
  · obtain ⟨key, present, rfl⟩ := (accounts.held n).mp member
    exact Int.ofNat_le.mpr (accounts.ordered.positive key present)
  · have found := accounts.isOpen_iff.mpr member
    exact ⟨Option.isSome_iff_exists.mp found, _, Files.close_open found⟩
  · have unknown := fun found => missing (accounts.isOpen_iff.mp found)
    exact ⟨Files.close_unknown unknown, Files.access_unknown unknown⟩

def scratchFile : OpenFile :=
  { place := ["scratch"] }

def scratchCalls : List Call :=
  [.opening scratchFile, .opening scratchFile, .opening scratchFile, .closing 2, .closing 2, .closing 0, .closing (-1)]

theorem scratch_handle_reused : ∃ fs l, Files.serve {} {} scratchCalls = (fs, l) ∧
    IsLeast {n : Int | 1 ≤ n ∧ n ∉ l.held} (fs.table.bind scratchFile).1 ∧ (fs.table.bind scratchFile).1 = 2 ∧
    fs.close 2 = (.error (.invalidHandle 2), fs) ∧ (∃ fs', fs.close 3 = (.ok (), fs')) ∧ fs.table.size + 1 = 3 := by
  have served : Files.serve {} {} scratchCalls = (_, _) := rfl
  obtain ⟨least, _, _, held, free, size⟩ := handles_given_out_smallest_first {} scratchCalls served
  exact ⟨_, _, served, (least scratchFile).1, rfl, (free 2 (by decide)).1, (held 3 (by decide)).2, size⟩

end CueScript
