import CueScript.Disk.Path
import Mathlib.Data.List.Basic
import Mathlib.Tactic.Common

set_option autoImplicit false

namespace CueScript

namespace Path

section Split

theorem split_ne_nil (text : List Char) : split text ≠ [] := by
  cases text with
  | nil => exact List.cons_ne_nil _ _
  | cons c rest =>
    rw [split]
    split
    next => exact List.cons_ne_nil _ _
    next => split <;> exact List.cons_ne_nil _ _

theorem split_append (a b : List Char) : split (a ++ '/' :: b) = split a ++ split b := by
  induction a with
  | nil => simp [split]
  | cons c rest ih =>
    obtain ⟨part, parts, first⟩ := List.exists_cons_of_ne_nil (split_ne_nil rest)
    simp only [List.cons_append, split, ih, first]
    split <;> rfl

theorem eq_of_split {text part : List Char} {parts : List (List Char)} (cut : split text = part :: parts) :
    text = part ++ parts.flatMap ('/' :: ·) := by
  induction text generalizing part parts with
  | nil =>
    cases cut
    rfl
  | cons c rest ih =>
    obtain ⟨next, others, first⟩ := List.exists_cons_of_ne_nil (split_ne_nil rest)
    have whole := ih first
    rw [split, first] at cut
    split at cut
    next separator =>
      cases cut
      rw [separator, List.nil_append, List.flatMap_cons, List.cons_append, ← whole]
    next =>
      cases cut
      rw [List.cons_append, ← whole]

theorem not_mem_of_mem_split {text part : List Char} (member : part ∈ split text) : '/' ∉ part := by
  induction text generalizing part with
  | nil =>
    rw [split, List.mem_singleton] at member
    simp [member]
  | cons c rest ih =>
    obtain ⟨next, others, first⟩ := List.exists_cons_of_ne_nil (split_ne_nil rest)
    rw [split, first] at member
    rw [first] at ih
    split at member
    next =>
      rcases List.mem_cons.mp member with rfl | later
      · exact List.not_mem_nil
      · exact ih later
    next other =>
      rcases List.mem_cons.mp member with rfl | later
      · rw [List.mem_cons, not_or]
        exact ⟨fun same => other same.symm, ih List.mem_cons_self⟩
      · exact ih (List.mem_cons_of_mem next later)

theorem split_plain {part : List Char} (plain : '/' ∉ part) : split part = [part] := by
  induction part with
  | nil => rfl
  | cons c rest ih =>
    rw [List.mem_cons, not_or] at plain
    rw [split, if_neg fun same => plain.1 same.symm, ih plain.2]

end Split

structure IsStep (s : String) : Prop where
  nonempty : s ≠ ""
  plain : '/' ∉ s.toList

structure IsName (s : String) : Prop extends IsStep s where
  notHere : s ≠ "."
  notUp : s ≠ ".."

instance : DecidablePred IsName := fun s =>
  decidable_of_iff ((s ≠ "" ∧ '/' ∉ s.toList) ∧ s ≠ "." ∧ s ≠ "..")
    ⟨fun ⟨⟨nonempty, plain⟩, notHere, notUp⟩ => { nonempty, plain, notHere, notUp },
     fun named => ⟨⟨named.nonempty, named.plain⟩, named.notHere, named.notUp⟩⟩

theorem mem_parts {path s : String} (member : s ∈ parts path) : IsStep s := by
  obtain ⟨part, present, rfl⟩ := List.mem_map.mp member
  obtain ⟨cut, nonempty⟩ := List.mem_filter.mp present
  refine ⟨?_, ?_⟩
  · simpa using nonempty
  · rw [String.toList_ofList]
    exact not_mem_of_mem_split cut

theorem IsStep.parts {s : String} (step : IsStep s) : parts s = [s] := by
  have nonempty : s.toList ≠ [] := by simpa using step.nonempty
  rw [Path.parts, split_plain step.plain]
  simp [nonempty]

theorem IsStep.relative {s : String} (step : IsStep s) : isAbsolute s = false := by
  have other : s.toList.head? ≠ some '/' := fun first => step.plain (List.mem_of_mem_head? first)
  simpa [isAbsolute] using other

section Join

variable {dir path : String}

theorem join_cases (dir : String) (relative : isAbsolute path = false) :
    (dir = "" ∧ join dir path = path) ∨
    (∃ front, dir.toList = front ++ ['/'] ∧ (join dir path).toList = front ++ '/' :: path.toList) ∨
    (dir ≠ "" ∧ dir.toList.getLast? ≠ some '/' ∧ (join dir path).toList = dir.toList ++ '/' :: path.toList) := by
  rw [join, relative, Bool.false_or]
  by_cases empty : dir = ""
  · exact .inl ⟨empty, by simp [empty]⟩
  · rw [if_neg (by simpa using empty)]
    by_cases closed : dir.toList.getLast? = some '/'
    · obtain ⟨front, parts⟩ := List.getLast?_eq_some_iff.mp closed
      refine .inr (.inl ⟨front, parts, ?_⟩)
      simp [parts]
    · refine .inr (.inr ⟨empty, closed, ?_⟩)
      simp [closed]

theorem parts_join (relative : isAbsolute path = false) : parts (join dir path) = parts dir ++ parts path := by
  rcases join_cases dir relative with ⟨rfl, same⟩ | ⟨front, closed, joined⟩ | ⟨_, _, joined⟩
  · rw [same]
    rfl
  · simp [parts, closed, joined, split_append, split]
  · simp [parts, joined, split_append]

theorem isAbsolute_join (relative : isAbsolute path = false) : isAbsolute (join dir path) = isAbsolute dir := by
  rcases join_cases dir relative with ⟨rfl, same⟩ | ⟨front, closed, joined⟩ | ⟨given, _, joined⟩
  · rw [same]
    exact relative
  · simp only [isAbsolute, closed, joined]
    cases front <;> rfl
  · obtain ⟨c, rest, text⟩ := List.exists_cons_of_ne_nil (show dir.toList ≠ [] by simpa using given)
    simp only [isAbsolute, joined, text]
    rfl

theorem getLast?_join {s : String} (step : IsStep s) : (join dir s).toList.getLast? ≠ some '/' := by
  have last : s.toList.getLast? ≠ some '/' := fun closed => step.plain (List.mem_of_getLast? closed)
  have nonempty : s.toList ≠ [] := by simpa using step.nonempty
  have behind (front : List Char) : (front ++ '/' :: s.toList).getLast? = s.toList.getLast? := by
    rw [List.getLast?_append_of_ne_nil _ (List.cons_ne_nil _ _), List.getLast?_cons_of_ne_nil nonempty]
  rcases join_cases dir step.relative with ⟨rfl, same⟩ | ⟨front, closed, joined⟩ | ⟨_, _, joined⟩
  · rwa [same]
  · rwa [joined, behind]
  · rwa [joined, behind]

theorem join_ne_empty {s : String} (step : IsStep s) : join dir s ≠ "" := by
  intro empty
  have part : s ∈ parts (join dir s) := by
    rw [parts_join step.relative, step.parts]
    exact List.mem_concat_self
  rw [empty] at part
  exact absurd part (by simp [parts, split])

end Join

def steps (path : String) : List String :=
  (parts path).filter (· ≠ ".")

def lead (path : String) : List Component :=
  if isAbsolute path then [.root] else if (parts path).head? == some "." then [.here] else []

def extend (dir : String) (steps : List String) : String :=
  steps.foldl join dir

theorem extend_cons (dir s : String) (rest : List String) : extend dir (s :: rest) = extend (join dir s) rest :=
  rfl

def trail (steps : List String) : List Char :=
  steps.flatMap fun s => '/' :: s.toList

theorem components_eq (path : String) : components path = lead path ++ (steps path).map .ofPart := by
  simp only [components, lead, steps]
  split
  next => rfl
  next => split <;> rfl

theorem lead_cases (path : String) : lead path = [.root] ∨ lead path = [.here] ∨ lead path = [] := by
  unfold lead
  split
  next => exact .inl rfl
  next =>
    split
    next => exact .inr (.inl rfl)
    next => exact .inr (.inr rfl)

theorem text_ofPart (s : String) : (Component.ofPart s).text = s := by
  unfold Component.ofPart
  split
  next up => exact up.symm
  next => rfl

theorem mem_steps {path s : String} (member : s ∈ steps path) : IsStep s ∧ s ≠ "." := by
  obtain ⟨part, notHere⟩ := List.mem_filter.mp member
  exact ⟨mem_parts part, by simpa using notHere⟩

theorem isName_of_mem_components {path s : String} (member : .name s ∈ components path) : IsName s := by
  rw [components_eq, List.mem_append, List.mem_map] at member
  rcases member with leads | ⟨part, member, named⟩
  · rcases lead_cases path with known | known | known <;> simp [known] at leads
  · obtain ⟨step, notHere⟩ := mem_steps member
    unfold Component.ofPart at named
    split at named
    next => cases named
    next notUp =>
      cases named
      exact ⟨step, notHere, notUp⟩

theorem IsName.ofPart {s : String} (named : IsName s) : Component.ofPart s = .name s :=
  if_neg named.notUp

theorem map_ofPart {names : List String} (named : ∀ s ∈ names, IsName s) :
    names.map Component.ofPart = names.map .name :=
  List.map_congr_left fun s member => (named s member).ofPart

theorem components_join {dir path : String} (relative : isAbsolute path = false)
    (notHere : (parts path).head? ≠ some ".") :
    components (join dir path) = components dir ++ (steps path).map .ofPart := by
  have leads : lead (join dir path) = lead dir := by
    simp only [lead, isAbsolute_join relative, parts_join relative, List.head?_append]
    cases first : (parts dir).head? with
    | none => simp [notHere]
    | some part => rfl
  have steps : steps (join dir path) = steps dir ++ steps path := by
    rw [Path.steps, parts_join relative, List.filter_append]
    rfl
  rw [components_eq, leads, steps, List.map_append, ← List.append_assoc, ← components_eq]

theorem components_extend {dir : String} {steps : List String} (good : ∀ s ∈ steps, IsStep s ∧ s ≠ ".") :
    components (extend dir steps) = components dir ++ steps.map .ofPart := by
  induction steps generalizing dir with
  | nil => exact (List.append_nil _).symm
  | cons s rest ih =>
    obtain ⟨⟨step, notHere⟩, later⟩ := List.forall_mem_cons.mp good
    have first : components (join dir s) = components dir ++ [.ofPart s] := by
      rw [components_join step.relative (by simpa [step.parts] using notHere), Path.steps, step.parts]
      simp [notHere]
    rw [extend_cons, ih later, first, List.map_cons, List.append_assoc, List.singleton_append]

theorem parts_extend {dir : String} {steps : List String} (good : ∀ s ∈ steps, IsStep s) :
    parts (extend dir steps) = parts dir ++ steps := by
  induction steps generalizing dir with
  | nil => exact (List.append_nil _).symm
  | cons s rest ih =>
    obtain ⟨step, later⟩ := List.forall_mem_cons.mp good
    rw [extend_cons, ih later, parts_join step.relative, step.parts, List.append_assoc, List.singleton_append]

theorem toList_extend {dir : String} {steps : List String} (good : ∀ s ∈ steps, IsStep s) (given : dir ≠ "")
    (unclosed : dir.toList.getLast? ≠ some '/') : (extend dir steps).toList = dir.toList ++ trail steps := by
  induction steps generalizing dir with
  | nil => exact (List.append_nil _).symm
  | cons s rest ih =>
    obtain ⟨step, later⟩ := List.forall_mem_cons.mp good
    have first : (join dir s).toList = dir.toList ++ '/' :: s.toList := by
      rcases join_cases dir step.relative with ⟨empty, _⟩ | ⟨front, closed, _⟩ | ⟨_, _, joined⟩
      · exact absurd empty given
      · exact absurd (by rw [closed, List.getLast?_concat]) unclosed
      · exact joined
    rw [extend_cons, ih later (join_ne_empty step) (getLast?_join step), first, List.append_assoc]
    rfl

theorem toList_extend_cons {dir s : String} {rest : List String} (good : ∀ t ∈ s :: rest, IsStep t) :
    (extend dir (s :: rest)).toList = (join dir s).toList ++ trail rest := by
  obtain ⟨step, later⟩ := List.forall_mem_cons.mp good
  exact toList_extend later (join_ne_empty step) (getLast?_join step)

theorem ofComponents_append (a b : List Component) :
    ofComponents (a ++ b) = extend (ofComponents a) (b.map Component.text) := by
  rw [ofComponents, List.foldl_append, ← ofComponents, extend, List.foldl_map]

theorem ofComponents_concat (a : List Component) (c : Component) :
    ofComponents (a ++ [c]) = join (ofComponents a) c.text :=
  ofComponents_append a [c]

theorem ofComponents_names (a : List Component) (names : List String) :
    ofComponents (a ++ names.map .name) = extend (ofComponents a) names := by
  have texts : (names.map Component.name).map Component.text = names := by
    rw [List.map_map]
    exact List.map_id'' (fun _ => rfl) names
  rw [ofComponents_append, texts]

section Canonical

def canonical (path : String) : String :=
  ofComponents (components path)

variable (path : String)

theorem canonical_eq : canonical path = extend (ofComponents (lead path)) (steps path) := by
  have texts : ((steps path).map Component.ofPart).map Component.text = steps path := by
    rw [List.map_map]
    exact List.map_id'' text_ofPart (steps path)
  rw [canonical, components_eq, ofComponents_append, texts]

theorem components_canonical : components (canonical path) = components path := by
  have leads : components (ofComponents (lead path)) = lead path := by
    rcases lead_cases path with leads | leads | leads <;> rw [leads] <;> decide
  rw [canonical_eq, components_extend fun s => mem_steps, leads, ← components_eq]

def stepsOf (pieces : List (List Char)) : List String :=
  ((pieces.filter (!·.isEmpty)).map String.ofList).filter (· ≠ ".")

theorem trail_sublist (pieces : List (List Char)) :
    (trail (stepsOf pieces)).Sublist (pieces.flatMap ('/' :: ·)) := by
  induction pieces with
  | nil => exact List.Sublist.slnil
  | cons piece rest ih =>
    have later := ih.trans (List.sublist_append_right ('/' :: piece) _)
    rw [List.flatMap_cons, stepsOf, List.filter_cons]
    split
    next =>
      rw [List.map_cons, List.filter_cons]
      split
      next =>
        rw [trail, List.flatMap_cons, String.toList_ofList]
        exact ih.append_left _
      next => exact later
    next => exact later

theorem lead_of_split {path : String} {piece : List Char} {others : List (List Char)} (given : path ≠ "")
    (cut : split path.toList = piece :: others) :
    (piece = [] ∧ others ≠ [] ∧ lead path = [.root] ∧ steps path = stepsOf others) ∨
    (piece = ['.'] ∧ lead path = [.here] ∧ steps path = stepsOf others) ∨
    (lead path = [] ∧ steps path = String.ofList piece :: stepsOf others) := by
  have text := eq_of_split cut
  have plain : '/' ∉ piece := not_mem_of_mem_split (by rw [cut]; exact List.mem_cons_self)
  have spelled : path.toList ≠ [] := by simpa using given
  have steps : steps path = stepsOf (piece :: others) := by
    rw [← cut]
    rfl
  rw [steps]
  cases piece with
  | nil =>
    cases others with
    | nil => exact absurd text spelled
    | cons next later =>
      have absolute : isAbsolute path = true := by simp [isAbsolute, text]
      exact .inl ⟨rfl, List.cons_ne_nil _ _, if_pos absolute, rfl⟩
  | cons c rest =>
    have relative : isAbsolute path = false := by
      have other : c ≠ '/' := fun same => plain (by rw [same]; exact List.mem_cons_self)
      simp [isAbsolute, text, other]
    have first : (parts path).head? = some (String.ofList (c :: rest)) := by
      rw [parts, cut]
      rfl
    by_cases here : String.ofList (c :: rest) = "."
    · refine .inr (.inl ⟨by simpa using congrArg String.toList here, ?_, ?_⟩)
      · simp [lead, relative, first, here]
      · simp [stepsOf, here]
    · refine .inr (.inr ⟨?_, ?_⟩)
      · simp [lead, relative, first, here, -String.ofList_cons]
      · simp [stepsOf, here, -String.ofList_cons]

theorem components_ne_nil {path : String} (given : path ≠ "") : components path ≠ [] := by
  obtain ⟨piece, others, cut⟩ := List.exists_cons_of_ne_nil (split_ne_nil path.toList)
  rw [components_eq]
  rcases lead_of_split given cut with ⟨-, -, leads, -⟩ | ⟨-, leads, -⟩ | ⟨leads, steps⟩
  · simp [leads]
  · simp [leads]
  · simp [steps]

theorem canonical_ne_empty {path : String} (given : path ≠ "") : canonical path ≠ "" := by
  intro empty
  have same := components_canonical path
  rw [empty] at same
  exact components_ne_nil given (same.symm.trans (by decide))

theorem canonical_sublist {path : String} (given : path ≠ "") : (canonical path).toList.Sublist path.toList := by
  obtain ⟨piece, others, cut⟩ := List.exists_cons_of_ne_nil (split_ne_nil path.toList)
  have good : ∀ s ∈ steps path, IsStep s := fun s member => (mem_steps member).1
  have sub := trail_sublist others
  rw [canonical_eq, eq_of_split cut]
  rcases lead_of_split given cut with ⟨rfl, more, leads, steps⟩ | ⟨rfl, leads, steps⟩ | ⟨leads, steps⟩ <;>
    rw [leads, steps] <;> rw [steps] at good
  · change (extend "/" (stepsOf others)).toList.Sublist _
    cases written : stepsOf others with
    | nil =>
      obtain ⟨next, later, rfl⟩ := List.exists_cons_of_ne_nil more
      exact List.singleton_sublist.mpr List.mem_cons_self
    | cons s rest =>
      rw [written] at good sub
      have first : (join "/" s).toList = '/' :: s.toList := by simp [join, (good s List.mem_cons_self).relative]
      rw [toList_extend_cons good, first]
      exact sub
  · change (extend "." (stepsOf others)).toList.Sublist _
    rw [toList_extend good (by decide) (by decide)]
    exact sub.append_left _
  · change (extend "" (String.ofList piece :: stepsOf others)).toList.Sublist _
    have first : join "" (String.ofList piece) = String.ofList piece := by simp [join]
    rw [toList_extend_cons good, first, String.toList_ofList]
    exact sub.append_left _

theorem steps_of_closed {path : String} (closed : (canonical path).toList.getLast? = some '/') :
    steps path = [] ∧ lead path = [.root] := by
  rw [canonical_eq] at closed
  rcases List.eq_nil_or_concat' (steps path) with none | ⟨before, s, written⟩
  · refine ⟨none, ?_⟩
    rw [none] at closed
    rcases lead_cases path with leads | leads | leads
    · exact leads
    · rw [leads] at closed
      exact absurd closed (by decide)
    · rw [leads] at closed
      exact absurd closed (by decide)
  · have member : s ∈ steps path := by
      rw [written]
      exact List.mem_concat_self
    have step : IsStep s := (mem_steps member).1
    rw [written, extend, List.foldl_append] at closed
    exact absurd closed (getLast?_join step)

theorem isAbsolute_iff {path : String} : isAbsolute path = true ↔ .root ∈ components path := by
  rw [components_eq, List.mem_append]
  constructor
  next =>
    intro absolute
    rw [lead, if_pos absolute]
    exact .inl List.mem_cons_self
  next =>
    rintro (leads | walks)
    · unfold lead at leads
      split at leads
      next absolute => exact absolute
      next => split at leads <;> simp at leads
    · obtain ⟨s, -, part⟩ := List.mem_map.mp walks
      unfold Component.ofPart at part
      split at part <;> cases part

theorem isAbsolute_canonical : isAbsolute (canonical path) = isAbsolute path := by
  rw [Bool.eq_iff_iff, isAbsolute_iff, isAbsolute_iff, components_canonical]

theorem parts_canonical : parts (canonical path) = steps path ∨
    (∃ rest, parts path = "." :: rest) ∧ parts (canonical path) = "." :: steps path := by
  rw [canonical_eq, parts_extend fun s member => (mem_steps member).1]
  rcases lead_cases path with leads | leads | leads
  · rw [leads]
    exact .inl rfl
  · refine .inr ⟨?_, by rw [leads]; rfl⟩
    unfold lead at leads
    split at leads
    next => cases leads
    next =>
      split at leads
      next here => exact List.head?_eq_some_iff.mp (by simpa using here)
      next => cases leads
  · rw [leads]
    exact .inl rfl

end Canonical

end Path

end CueScript
