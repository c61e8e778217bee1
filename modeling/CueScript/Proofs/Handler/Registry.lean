import CueScript.Handler.Registry
import Mathlib.Data.List.Nodup

set_option autoImplicit false

namespace CueScript

namespace Registry

variable {r : Registry} {id : HandlerId} {h h' : Handler} {change : Handler → Handler}

def ids (r : Registry) : List HandlerId :=
  r.handlers.map (·.id)

structure Distinct (r : Registry) : Prop where
  nodup : r.ids.Nodup
  below : ∀ id ∈ r.ids, id < r.nextId

theorem mem_ids (member : h ∈ r.handlers) : h.id ∈ r.ids :=
  List.mem_map_of_mem member

theorem Distinct.eq_of_id (distinct : r.Distinct) (member : h ∈ r.handlers) (member' : h' ∈ r.handlers)
    (same : h.id = h'.id) : h = h' :=
  List.inj_on_of_nodup_map distinct.nodup member member' same

theorem mem_of_get? (found : r.get? id = some h) : h ∈ r.handlers ∧ h.id = id := by
  have known := List.find?_some found
  exact ⟨List.mem_of_find?_eq_some found, by simpa using known⟩

theorem Distinct.not_later (distinct : r.Distinct) (member : h ∈ r.handlers) : ¬ r.nextId ≤ h.id :=
  Nat.not_le.mpr (distinct.below h.id (mem_ids member))

theorem Distinct.sublist {r' : Registry} (distinct : r.Distinct) (rest : r'.handlers.Sublist r.handlers)
    (next : r'.nextId = r.nextId) : r'.Distinct := by
  have ids : r'.ids.Sublist r.ids := rest.map _
  exact ⟨distinct.nodup.sublist ids, fun id member => next ▸ distinct.below id (ids.subset member)⟩

section Modify

theorem ids_modifyFirst (keeps : ∀ h, (change h).id = h.id) (id : HandlerId) (handlers : List Handler) :
    (modifyFirst id change handlers).map (·.id) = handlers.map (·.id) := by
  induction handlers with
  | nil => rfl
  | cons h rest ih =>
    unfold modifyFirst
    split
    · simp [keeps]
    · simp [ih]

theorem ids_modify (keeps : ∀ h, (change h).id = h.id) (id : HandlerId) : (r.modify id change).ids = r.ids :=
  ids_modifyFirst keeps id r.handlers

theorem source_of_modifyFirst {handlers : List Handler} (member : h' ∈ modifyFirst id change handlers) :
    h' ∈ handlers ∨ ∃ h ∈ handlers, h' = change h := by
  induction handlers with
  | nil => cases member
  | cons h rest ih =>
    unfold modifyFirst at member
    split at member <;> rcases List.mem_cons.mp member with rfl | member
    · exact .inr ⟨h, by simp, rfl⟩
    · exact .inl (by simp [member])
    · exact .inl (by simp)
    · exact (ih member).imp (by simp +contextual) fun ⟨h, present, same⟩ => ⟨h, by simp [present], same⟩

theorem mem_modifyFirst {handlers : List Handler} (nodup : (handlers.map (·.id)).Nodup)
    (member : h' ∈ modifyFirst id change handlers) :
    (h' ∈ handlers ∧ h'.id ≠ id) ∨ ∃ h ∈ handlers, h.id = id ∧ h' = change h := by
  induction handlers with
  | nil => cases member
  | cons h rest ih =>
    obtain ⟨fresh, nodup⟩ := List.nodup_cons.mp nodup
    unfold modifyFirst at member
    split at member
    next named =>
      rcases List.mem_cons.mp member with rfl | member
      · exact .inr ⟨h, by simp, named, rfl⟩
      · have other : h'.id ≠ id := fun same => fresh (List.mem_map.mpr ⟨h', member, same.trans named.symm⟩)
        exact .inl ⟨by simp [member], other⟩
    next other =>
      rcases List.mem_cons.mp member with rfl | member
      · exact .inl ⟨by simp, other⟩
      · rcases ih nodup member with ⟨old, other⟩ | ⟨changed, present, named, eq⟩
        · exact .inl ⟨by simp [old], other⟩
        · exact .inr ⟨changed, by simp [present], named, eq⟩

theorem Distinct.mem_modify (distinct : r.Distinct) (member : h' ∈ (r.modify id change).handlers) :
    (h' ∈ r.handlers ∧ h'.id ≠ id) ∨ ∃ h ∈ r.handlers, h.id = id ∧ h' = change h :=
  mem_modifyFirst distinct.nodup member

theorem modifyFirst_concat {handlers : List Handler} (absent : id ∉ handlers.map (·.id)) (named : h.id = id) :
    modifyFirst id change (handlers ++ [h]) = handlers ++ [change h] := by
  induction handlers with
  | nil => simp [modifyFirst, named]
  | cons first rest ih =>
    rw [List.map_cons, List.mem_cons, not_or] at absent
    simp [modifyFirst, Ne.symm absent.1, ih absent.2]

theorem Distinct.modify (distinct : r.Distinct) (keeps : ∀ h, (change h).id = h.id) (id : HandlerId) :
    (r.modify id change).Distinct := by
  have ids := ids_modify keeps id (r := r)
  exact ⟨ids ▸ distinct.nodup, ids ▸ distinct.below⟩

end Modify

end Registry

end CueScript
