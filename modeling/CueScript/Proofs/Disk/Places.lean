import CueScript.Disk.Tree
import CueScript.Proofs.Disk.Paths
import Mathlib.Data.List.Nodup

set_option autoImplicit false

namespace CueScript

namespace Disk

open CueScript.Path

variable {disk : Disk} {path dir s : String} {place : Place}

section Locate

theorem size_le_of_sublist {a b : List Char} (sub : a.Sublist b) :
    (String.ofList a).utf8ByteSize ≤ (String.ofList b).utf8ByteSize := by
  induction sub with
  | slnil => exact Nat.le_refl _
  | cons c _ ih =>
    rw [String.ofList_cons, String.utf8ByteSize_append]
    omega
  | cons_cons c _ ih =>
    rw [String.ofList_cons, String.ofList_cons, String.utf8ByteSize_append, String.utf8ByteSize_append]
    omega

theorem check_ok_iff (path : String) : check path = .ok () ↔
    Char.ofNat 0 ∉ path.toList ∧ path ≠ "" ∧ path.utf8ByteSize ≤ pathLimit := by
  unfold check
  split
  next nul => simp_all
  next clean =>
    split
    next empty => simp_all
    next given =>
      split
      next long => simp [long]
      next short => simp_all

theorem check_of_sublist {shorter : String} (checked : check path = .ok ())
    (sub : shorter.toList.Sublist path.toList) (given : shorter ≠ "") : check shorter = .ok () := by
  obtain ⟨clean, -, short⟩ := (check_ok_iff path).mp checked
  have size := size_le_of_sublist sub
  rw [String.ofList_toList, String.ofList_toList] at size
  exact (check_ok_iff shorter).mpr ⟨fun nul => clean (sub.mem nul), given, Nat.le_trans size short⟩

theorem locate_ok_iff : disk.locate path = .ok place ↔
    check path = .ok () ∧ disk.follow (disk.start path) (parts path) = .ok place ∧
    (endsInSeparator path = true → disk.isDirectoryAt place = true) := by
  unfold locate
  cases check path with
  | error e => simp [bind, Except.bind]
  | ok _ =>
    cases disk.follow (disk.start path) (parts path) with
    | error e => simp [bind, Except.bind]
    | ok found =>
      simp only [bind, Except.bind]
      split
      next refused => grind
      next => grind

theorem exists?_iff : disk.exists? path = true ↔ ∃ place, disk.locate path = .ok place := by
  unfold exists?
  cases disk.locate path with
  | ok place => simp
  | error e => simp

theorem locate_of_isDirectory (directory : disk.isDirectory path = true) : ∃ place, disk.locate path = .ok place := by
  unfold isDirectory at directory
  split at directory
  next place located => exact ⟨place, located⟩
  next => cases directory

theorem isDirectoryAt_of_enter {next : Place} (entered : disk.enter place s = .ok next) :
    disk.isDirectoryAt place = true := by
  unfold enter at entered
  split at entered
  next => cases entered
  next directory => simpa using directory

theorem follow_append (place : Place) (a b : List String) :
    disk.follow place (a ++ b) = (disk.follow place a).bind fun next => disk.follow next b := by
  induction a generalizing place with
  | nil => rfl
  | cons s rest ih =>
    rw [List.cons_append, follow, follow]
    cases disk.enter place s with
    | error e => rfl
    | ok next => exact ih next

theorem follow_cons {next : Place} {rest : List String} (reached : disk.follow place (s :: rest) = .ok next) :
    ∃ inner, disk.enter place s = .ok inner ∧ disk.follow inner rest = .ok next := by
  rw [follow] at reached
  cases entered : disk.enter place s with
  | error e =>
    rw [entered] at reached
    cases reached
  | ok inner =>
    rw [entered] at reached
    exact ⟨inner, rfl, reached⟩

theorem enter_here {next : Place} (entered : disk.enter place "." = .ok next) : next = place := by
  rw [enter, isDirectoryAt_of_enter entered] at entered
  exact (Except.ok.inj entered).symm

theorem follow_steps {next : Place} {parts : List String} (reached : disk.follow place parts = .ok next) :
    disk.follow place (parts.filter (· ≠ ".")) = .ok next := by
  induction parts generalizing place with
  | nil => exact reached
  | cons s rest ih =>
    obtain ⟨inner, entered, later⟩ := follow_cons reached
    rw [List.filter_cons]
    split
    next =>
      rw [follow, entered]
      exact ih later
    next here =>
      obtain rfl : s = "." := by simpa using here
      rw [← enter_here entered]
      exact ih later

theorem locate_canonical (located : disk.locate path = .ok place) : disk.locate (canonical path) = .ok place := by
  obtain ⟨checked, reached, -⟩ := locate_ok_iff.mp located
  have given : path ≠ "" := ((check_ok_iff path).mp checked).2.1
  have walked : disk.follow (disk.start path) (steps path) = .ok place := follow_steps reached
  have starts : disk.start (canonical path) = disk.start path := by rw [start, isAbsolute_canonical, start]
  refine locate_ok_iff.mpr ⟨check_of_sublist checked (canonical_sublist given) (canonical_ne_empty given), ?_, ?_⟩
  next =>
    rw [starts]
    rcases parts_canonical path with same | ⟨⟨rest, here⟩, same⟩
    · rw [same, walked]
    · rw [here] at reached
      obtain ⟨inner, entered, -⟩ := follow_cons reached
      rw [same, follow, entered, enter_here entered]
      exact walked
  next =>
    intro closed
    obtain ⟨none, leads⟩ := steps_of_closed (by simpa [endsInSeparator] using closed)
    have absolute : isAbsolute path = true := by
      rw [isAbsolute_iff, components_eq, leads]
      exact List.mem_cons_self
    rw [none, start, if_pos absolute] at walked
    rw [← Except.ok.inj walked]
    rfl

theorem locate_join {next : Place} (given : dir ≠ "") (step : IsStep s)
    (located : disk.locate (join dir s) = .ok next) :
    ∃ place, disk.locate dir = .ok place ∧ disk.enter place s = .ok next := by
  obtain ⟨checked, reached, -⟩ := locate_ok_iff.mp located
  have sub : dir.toList.Sublist (join dir s).toList := by
    rcases join_cases dir step.relative with ⟨empty, _⟩ | ⟨front, closed, joined⟩ | ⟨_, _, joined⟩
    · exact absurd empty given
    · rw [closed, joined]
      exact (List.sublist_append_left ['/'] s.toList).append_left front
    · rw [joined]
      exact List.sublist_append_left _ _
  rw [start, isAbsolute_join step.relative, ← start, parts_join step.relative, step.parts, follow_append] at reached
  cases found : disk.follow (disk.start dir) (parts dir) with
  | error e =>
    rw [found] at reached
    cases reached
  | ok place =>
    rw [found] at reached
    obtain ⟨inner, entered, arrived⟩ := follow_cons reached
    cases arrived
    have directory := isDirectoryAt_of_enter entered
    exact ⟨place, locate_ok_iff.mpr ⟨check_of_sublist checked sub given, found, fun _ => directory⟩, entered⟩

theorem locate_extend {next : Place} {steps : List String} (given : dir ≠ "") (good : ∀ s ∈ steps, IsStep s)
    (located : disk.locate (extend dir steps) = .ok next) : ∃ place, disk.locate dir = .ok place := by
  induction steps generalizing dir with
  | nil => exact ⟨next, located⟩
  | cons s rest ih =>
    obtain ⟨step, later⟩ := List.forall_mem_cons.mp good
    obtain ⟨inner, within⟩ := ih (join_ne_empty step) later located
    obtain ⟨place, outer, -⟩ := locate_join given step within
    exact ⟨place, outer⟩

end Locate

section Entries

/-- Every entry has a proper name, and no directory has two entries with one name in lower case. -/
structure Orderly (disk : Disk) : Prop where
  named (place : Place) : ∀ name ∈ disk.entryNames place, IsName name
  distinct (place : Place) : ((disk.entryNames place).map Text.lower).Nodup

theorem list_eq (located : disk.locate path = .ok place) : disk.list path = disk.entryNames place := by
  rw [list, located]

theorem find?_append (a b : List String) (node : DiskNode) :
    DiskNode.find? (a ++ b) node = (DiskNode.find? a node).bind (DiskNode.find? b) := by
  induction a generalizing node with
  | nil => rfl
  | cons name rest ih =>
    cases node with
    | file contents => rfl
    | directory entries =>
      rw [List.cons_append, DiskNode.find?, DiskNode.find?]
      cases entries.lookup name with
      | none => rfl
      | some inner => exact ih inner

inductive Tidy : DiskNode → Prop
  | file (contents : Bytes) : Tidy (.file contents)
  | directory {entries : List (String × DiskNode)} (named : ∀ entry ∈ entries, IsName entry.1)
      (distinct : ((entries.map (·.1)).map Text.lower).Nodup) (below : ∀ entry ∈ entries, Tidy entry.2) :
      Tidy (.directory entries)

theorem Tidy.find? {names : List String} {node inner : DiskNode} (tidy : Tidy node)
    (found : DiskNode.find? names node = some inner) : Tidy inner := by
  induction names generalizing node with
  | nil => exact Option.some.inj found ▸ tidy
  | cons name rest ih =>
    cases tidy with
    | file => cases found
    | @directory entries _ _ below =>
      obtain ⟨sub, known, later⟩ := Option.bind_eq_some_iff.mp found
      obtain ⟨before, after, rfl, -⟩ := List.lookup_eq_some_iff.mp known
      exact ih (below (name, sub) (by simp)) later

theorem Tidy.orderly (tidy : Tidy (.directory disk.root)) : disk.Orderly := by
  have each (place : Place) : (∀ name ∈ disk.entryNames place, IsName name) ∧
      ((disk.entryNames place).map Text.lower).Nodup := by
    unfold entryNames
    cases found : disk.node? place with
    | none => simp
    | some node =>
      cases tidy.find? found with
      | file => simp [DiskNode.entries]
      | directory named distinct below =>
        refine ⟨fun name member => ?_, distinct⟩
        obtain ⟨entry, present, rfl⟩ := List.mem_map.mp member
        exact named entry present
  exact ⟨fun place => (each place).1, fun place => (each place).2⟩

theorem mem_of_find? {node : DiskNode} (found : (DiskNode.find? [s] node).isSome = true) :
    s ∈ node.entries.map (·.1) := by
  cases node with
  | file contents => cases found
  | directory entries =>
    have known : (entries.lookup s).isSome = true := by
      rw [DiskNode.find?] at found
      exact Option.isSome_of_isSome_bind found
    obtain ⟨entry, member, same⟩ := List.lookup_isSome_iff.mp known
    exact List.mem_map.mpr ⟨entry, member, (eq_of_beq same).symm⟩

theorem mem_entryNames {next : Place} (named : IsName s) (entered : disk.enter place s = .ok next) :
    s ∈ disk.entryNames place := by
  have within := isDirectoryAt_of_enter entered
  simp only [enter, within, Bool.not_true, Bool.false_eq_true, if_false, named.notHere, named.notUp, enterName] at entered
  split at entered
  next => cases entered
  next =>
    split at entered
    next present =>
      rw [node?, find?_append, ← node?] at present
      cases found : disk.node? place with
      | none =>
        rw [found] at present
        cases present
      | some node =>
        rw [found] at present
        simpa [entryNames, found] using mem_of_find? present
    next => cases entered

theorem Orderly.eq_of_lower (orderly : disk.Orderly) {a b : String} (first : a ∈ disk.entryNames place)
    (second : b ∈ disk.entryNames place) (same : Text.lower a = Text.lower b) : a = b :=
  List.inj_on_of_nodup_map (orderly.distinct place) first second same

theorem Orderly.isName_of_mem_list (orderly : disk.Orderly) (member : s ∈ disk.list path) : IsName s := by
  cases located : disk.locate path with
  | error e =>
    rw [list, located] at member
    cases member
  | ok place =>
    rw [list_eq located] at member
    exact orderly.named place s member

end Entries

end Disk

end CueScript
