import CueScript.Machine.State
import CueScript.Proofs.Disk.Places

set_option autoImplicit false

namespace CueScript

namespace Disk

open CueScript.Path

variable {disk : Disk} {path : String} {place : Place}

section Search

theorem findIgnoringCase_present {found rest : List Component} {steps : List String} {next : Place}
    (good : ∀ s ∈ steps, IsStep s) (located : disk.locate (extend (ofComponents found) steps) = .ok next) :
    disk.findIgnoringCase found (steps.map .ofPart ++ rest) =
      disk.findIgnoringCase (found ++ steps.map .ofPart) rest := by
  induction steps generalizing found with
  | nil => rw [List.map_nil, List.append_nil, List.nil_append]
  | cons s later ih =>
    obtain ⟨step, walks⟩ := List.forall_mem_cons.mp good
    have joined : ofComponents (found ++ [.ofPart s]) = join (ofComponents found) s := by
      rw [ofComponents_concat, text_ofPart]
    have located : disk.locate (extend (join (ofComponents found) s) later) = .ok next := located
    obtain ⟨place, here⟩ := locate_extend (join_ne_empty step) walks located
    have whole : disk.findIgnoringCase (found ++ [.ofPart s]) (later.map .ofPart ++ rest) = _ :=
      ih walks (by rw [joined]; exact located)
    rw [List.append_assoc, List.singleton_append, ← List.map_cons] at whole
    rw [← whole, List.map_cons, List.cons_append]
    rw [← joined] at here
    -- A `..` is taken over without a look.
    cases part : Component.ofPart s with
    | name n =>
      rw [part] at here
      rw [findIgnoringCase, if_pos (exists?_iff.mpr ⟨place, here⟩)]
    | up | root | here => rfl

theorem findIgnoringCase_base (located : disk.locate path = .ok place) (rest : List Component) :
    disk.findIgnoringCase [] (components path ++ rest) = disk.findIgnoringCase (components path) rest := by
  have again := locate_canonical located
  rw [canonical_eq] at again
  have leads (later : List Component) :
      disk.findIgnoringCase [] (lead path ++ later) = disk.findIgnoringCase (lead path) later := by
    rcases lead_cases path with leads | leads | leads <;> rw [leads] <;> rfl
  rw [components_eq, List.append_assoc, leads, findIgnoringCase_present (fun s member => (mem_steps member).1) again]

def spelling (disk : Disk) (found : List Component) (name : String) : String :=
  if disk.exists? (ofComponents (found ++ [.name name])) then name
  else ((disk.list (if found.isEmpty then "." else ofComponents found)).find? fun entry =>
    Text.lower entry == Text.lower name).getD name

theorem findIgnoringCase_name (found : List Component) (name : String) (rest : List Component) :
    disk.findIgnoringCase found (.name name :: rest) =
      disk.findIgnoringCase (found ++ [.name (disk.spelling found name)]) rest := by
  rw [findIgnoringCase, spelling]
  split <;> rfl

theorem Orderly.spelling_alike (orderly : disk.Orderly) {name : String} (named : IsName name)
    (found : List Component) :
    Text.lower (disk.spelling found name) = Text.lower name ∧ IsName (disk.spelling found name) := by
  unfold spelling
  split
  next => exact ⟨rfl, named⟩
  next =>
    cases listed : (disk.list (if found.isEmpty then "." else ofComponents found)).find? fun entry =>
        Text.lower entry == Text.lower name with
    | none => exact ⟨rfl, named⟩
    | some entry =>
      exact ⟨by simpa using List.find?_some listed, orderly.isName_of_mem_list (List.mem_of_find?_eq_some listed)⟩

theorem Orderly.spelling_eq (orderly : disk.Orderly) {found : List Component} {name other : String} {next : Place}
    (begun : found ≠ []) (given : ofComponents found ≠ "") (isName : IsName name) (isOther : IsName other)
    (same : Text.lower other = Text.lower name)
    (located : disk.locate (join (ofComponents found) other) = .ok next) : disk.spelling found name = other := by
  obtain ⟨place, here, entered⟩ := locate_join given isOther.toIsStep located
  have member := mem_entryNames isOther entered
  unfold spelling
  split
  next present =>
    -- The name as it is given is an entry too, and so it is the same entry.
    obtain ⟨inner, reached⟩ := exists?_iff.mp present
    rw [ofComponents_concat] at reached
    obtain ⟨outer, there, enters⟩ := locate_join given isName.toIsStep reached
    obtain rfl : outer = place := Except.ok.inj (there.symm.trans here)
    exact orderly.eq_of_lower (mem_entryNames isName enters) member same.symm
  next =>
    rw [if_neg (by simpa using begun), list_eq here]
    cases listed : (disk.entryNames place).find? fun entry => Text.lower entry == Text.lower name with
    | none => exact absurd same (by simpa using List.find?_eq_none.mp listed other member)
    | some entry =>
      have chosen : Text.lower entry = Text.lower name := by simpa using List.find?_some listed
      exact orderly.eq_of_lower (List.mem_of_find?_eq_some listed) member (chosen.trans same.symm)

theorem Orderly.findIgnoringCase_alike (orderly : disk.Orderly) {names : List String}
    (named : ∀ s ∈ names, IsName s) (found : List Component) : ∃ others : List String,
      disk.findIgnoringCase found (names.map .name) = found ++ others.map .name ∧
      others.map Text.lower = names.map Text.lower ∧ ∀ s ∈ others, IsName s := by
  induction names generalizing found with
  | nil => exact ⟨[], (List.append_nil _).symm, rfl, List.forall_mem_nil _⟩
  | cons name rest ih =>
    obtain ⟨isName, named⟩ := List.forall_mem_cons.mp named
    obtain ⟨same, proper⟩ := orderly.spelling_alike isName found
    obtain ⟨others, result, alike, all⟩ := ih named (found ++ [.name (disk.spelling found name)])
    refine ⟨disk.spelling found name :: others, ?_, ?_, List.forall_mem_cons.mpr ⟨proper, all⟩⟩
    · rw [List.map_cons, findIgnoringCase_name, result, List.append_assoc]
      rfl
    · rw [List.map_cons, List.map_cons, same, alike]

theorem Orderly.findIgnoringCase_eq (orderly : disk.Orderly) {names others : List String} {found : List Component}
    {next : Place} (begun : found ≠ []) (given : ofComponents found ≠ "") (named : ∀ s ∈ names, IsName s)
    (proper : ∀ s ∈ others, IsName s) (alike : others.map Text.lower = names.map Text.lower)
    (located : disk.locate (extend (ofComponents found) others) = .ok next) :
    disk.findIgnoringCase found (names.map .name) = found ++ others.map .name := by
  induction names generalizing found others with
  | nil =>
    rw [List.map_eq_nil_iff.mp alike]
    exact (List.append_nil _).symm
  | cons name rest ih =>
    cases others with
    | nil => cases alike
    | cons other later =>
      obtain ⟨same, alike⟩ := List.cons_eq_cons.mp alike
      obtain ⟨isName, named⟩ := List.forall_mem_cons.mp named
      obtain ⟨isOther, proper⟩ := List.forall_mem_cons.mp proper
      have joined : ofComponents (found ++ [.name other]) = join (ofComponents found) other :=
        ofComponents_concat found _
      have there : ofComponents (found ++ [.name other]) ≠ "" := by
        rw [joined]
        exact join_ne_empty isOther.toIsStep
      have located : disk.locate (extend (ofComponents (found ++ [.name other])) later) = .ok next := by
        rw [joined]
        exact located
      -- What the others lead to lies below the first of them, so that one is an entry where the search is now.
      obtain ⟨inner, reached⟩ := locate_extend there (fun s member => (proper s member).toIsStep) located
      rw [joined] at reached
      rw [List.map_cons, findIgnoringCase_name, orderly.spelling_eq begun given isName isOther same reached,
        ih (by simp) there named proper alike located, List.append_assoc]
      rfl

end Search

section Resolve

/-- The components of a base directory and then some names, in any letter case. -/
def Spells (base : String) (names : List String) (path : String) : Prop :=
  ∃ others : List String, components path = components base ++ others.map .name ∧
    others.map Text.lower = names.map Text.lower

variable {base name : String} {names others : List String}

theorem components_full (relative : isAbsolute (normalize name) = false)
    (named : ∀ s ∈ parts (normalize name), IsName s) :
    components (join base (normalize name)) = components base ++ (parts (normalize name)).map .name := by
  have notHere : (parts (normalize name)).head? ≠ some "." := by
    intro here
    exact (named _ (List.mem_of_mem_head? here)).notHere rfl
  have same : steps (normalize name) = parts (normalize name) :=
    List.filter_eq_self.mpr fun s member => by simpa using (named s member).notHere
  rw [components_join relative notHere, same, map_ofPart named]

theorem canonical_below (whole : components path = components base ++ others.map .name) :
    canonical path = extend (canonical base) others := by
  rw [canonical, whole, ofComponents_names]
  rfl

theorem components_below (proper : ∀ s ∈ others, IsName s) :
    components (ofComponents (components base ++ others.map .name)) = components base ++ others.map .name := by
  have steps : ∀ s ∈ others, IsStep s ∧ s ≠ "." := fun s member =>
    ⟨(proper s member).toIsStep, (proper s member).notHere⟩
  rw [ofComponents_names, components_extend steps, map_ofPart proper, ← canonical, components_canonical]

theorem Orderly.search_eq (orderly : disk.Orderly) (based : disk.locate base = .ok place)
    (named : ∀ s ∈ names, IsName s) {next : Place} (located : disk.locate path = .ok next)
    (whole : components path = components base ++ others.map .name)
    (alike : others.map Text.lower = names.map Text.lower) :
    ofComponents (disk.findIgnoringCase [] (components base ++ names.map .name)) = canonical path := by
  have given : base ≠ "" := ((check_ok_iff base).mp (locate_ok_iff.mp based).1).2.1
  have proper : ∀ s ∈ others, IsName s := by
    intro s member
    have component : .name s ∈ components path := by
      rw [whole]
      exact List.mem_append_right _ (List.mem_map_of_mem member)
    exact isName_of_mem_components component
  have reached := locate_canonical located
  rw [canonical_below whole] at reached
  rw [findIgnoringCase_base based,
    orderly.findIgnoringCase_eq (components_ne_nil given) (canonical_ne_empty given) named proper alike reached,
    ← whole, canonical]

theorem Orderly.search_spells (orderly : disk.Orderly) (based : disk.locate base = .ok place)
    (named : ∀ s ∈ names, IsName s) :
    Spells base names (ofComponents (disk.findIgnoringCase [] (components base ++ names.map .name))) := by
  obtain ⟨others, result, alike, proper⟩ := orderly.findIgnoringCase_alike named (components base)
  refine ⟨others, ?_, alike⟩
  rw [findIgnoringCase_base based, result, components_below proper]

theorem locate_eq_of_components {other : String} {next : Place} (same : components path = components other)
    (first : disk.locate path = .ok place) (second : disk.locate other = .ok next) : place = next := by
  have here := locate_canonical first
  rw [canonical, same, ← canonical, locate_canonical second] at here
  exact (Except.ok.inj here).symm

end Resolve

end Disk

open CueScript.Path

/-- A name is resolved to the base directory and its parts, in the letter case that is there; what the path leads to as
it is written comes first. -/
theorem names_found_in_any_case {m : Machine} {disk : Disk} {base : String} (tree : m.files.disk = disk)
    (home : m.settings.baseDir = base) (orderly : disk.Orderly) (based : disk.isDirectory base = true)
    (name : String) (relative : isAbsolute (normalize name) = false)
    (ordinary : ∀ s ∈ parts (normalize name), s ≠ "." ∧ s ≠ "..") :
    let names := parts (normalize name)
    let wanted := components base ++ names.map .name
    components (join base (normalize name)) = wanted ∧
    Disk.Spells base names (m.resolve name) ∧
    (∀ path place, components path = wanted → disk.locate path = .ok place →
      disk.locate (m.resolve name) = .ok place) ∧
    (disk.exists? (m.resolve name) = true ↔
      ∃ path, Disk.Spells base names path ∧ disk.exists? path = true) := by
  intro names wanted
  have named : ∀ s ∈ names, IsName s := fun s member =>
    { mem_parts member with notHere := (ordinary s member).1, notUp := (ordinary s member).2 }
  have whole : components (join base (normalize name)) = wanted := Disk.components_full relative named
  obtain ⟨outer, based⟩ := Disk.locate_of_isDirectory based
  refine ⟨whole, ?_⟩
  rw [Machine.resolve, tree, home]
  by_cases present : disk.exists? (join base (normalize name)) = true
  · have result : disk.resolve base name = join base (normalize name) := by simp only [Disk.resolve, present, if_true]
    have spells : Disk.Spells base names (join base (normalize name)) := ⟨names, whole, rfl⟩
    rw [result]
    refine ⟨spells, ?_, fun _ => ⟨_, spells, present⟩, fun _ => present⟩
    -- Both paths have these components, though not the same text.
    intro path place same located
    obtain ⟨found, there⟩ := Disk.exists?_iff.mp present
    rw [there, Disk.locate_eq_of_components (same.trans whole.symm) located there]
  · have result : disk.resolve base name = ofComponents (disk.findIgnoringCase [] wanted) := by
      simp only [Disk.resolve, whole, if_neg present]
    have spells := orderly.search_spells based named
    rw [result]
    refine ⟨spells, ?_, fun there => ⟨_, spells, there⟩, ?_⟩
    next =>
      intro path place same located
      rw [orderly.search_eq based named located same rfl]
      exact Disk.locate_canonical located
    next =>
      rintro ⟨path, ⟨others, below, alike⟩, there⟩
      obtain ⟨place, located⟩ := Disk.exists?_iff.mp there
      rw [orderly.search_eq based named located below alike]
      exact Disk.exists?_iff.mpr ⟨place, Disk.locate_canonical located⟩

def songMachine : Machine where
  settings := { headless := true, baseDir := "/srv/title" }
  main := []
  file := none
  functions := []
  builtins := []
  files := { disk := {
    root := [("srv", .directory [("title", .directory [("Data", .directory [("Song.MID", .file [120])])])])]
    home := ["srv"] } }
  audio := .silent {}
  random := { state := 0 }

theorem song_found_in_small_letters :
    songMachine.files.disk.exists? (songMachine.resolve "data\\song.mid") = true ∧
    songMachine.files.disk.locate (songMachine.resolve "Data/Song.MID") = .ok ["srv", "title", "Data", "Song.MID"] := by
  have single {name : String} {node : DiskNode} (named : IsName name) (tidy : Disk.Tidy node) :
      Disk.Tidy (.directory [(name, node)]) := .directory (by simpa using named) (by simp) (by simpa using tidy)
  have orderly : songMachine.files.disk.Orderly :=
    (single (by decide) (single (by decide) (single (by decide) (single (by decide) (.file [120]))))).orderly
  have resolves := names_found_in_any_case (m := songMachine) rfl rfl orderly (by decide)
  refine ⟨?_, ?_⟩
  · obtain ⟨-, -, -, found⟩ := resolves "data\\song.mid" (by decide) (by decide)
    have spells : Disk.Spells "/srv/title" (parts (normalize "data\\song.mid")) "/srv/title/Data/Song.MID" :=
      ⟨["Data", "Song.MID"], by decide, by decide +kernel⟩
    exact found.mpr ⟨_, spells, by decide⟩
  · obtain ⟨-, -, reaches, -⟩ := resolves "Data/Song.MID" (by decide) (by decide)
    exact reaches "/srv/title/Data/Song.MID" _ (by decide) (by decide)

end CueScript
