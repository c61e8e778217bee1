import Mathlib.Data.List.Nodup
import CueScript.Proofs.Json.RoundTrip

set_option autoImplicit false

namespace CueScript.Json

mutual

def nesting : Json → Nat
  | .array items => itemsNesting items + 1
  | .object fields => fieldsNesting fields + 1
  | _ => 0

def itemsNesting : List Json → Nat
  | [] => 0
  | item :: rest => max item.nesting (itemsNesting rest)

def fieldsNesting : List (Bytes × Json) → Nat
  | [] => 0
  | (_, value) :: rest => max value.nesting (fieldsNesting rest)

end

def record (fields : List (String × Json)) : Json :=
  .object (fields.map fun field => (key field.1, field.2))

theorem mapM_some {α β : Type} {f : α → Option β} {g : α → β} {xs : List α} (each : ∀ x ∈ xs, f x = some (g x)) :
    xs.mapM f = some (xs.map g) := by
  induction xs with
  | nil => rfl
  | cons x rest ih =>
    have later := ih fun y member => each y (List.mem_cons_of_mem x member)
    simp [List.mapM_cons, each x List.mem_cons_self, later]

theorem mapM_written {α β : Type} {read : β → Option α} {write : α → β} {xs : List α}
    (each : ∀ x ∈ xs, read (write x) = some x) : (xs.map write).mapM read = some xs := by
  have read := mapM_some (f := read ∘ write) (g := id) each
  rw [List.mapM_map, read, List.map_id]

section Nesting

theorem itemsNesting_le {items : List Json} {depth : Nat} :
    itemsNesting items ≤ depth ↔ ∀ item ∈ items, item.nesting ≤ depth := by
  induction items with
  | nil => simp [itemsNesting]
  | cons item rest ih => rw [itemsNesting, Nat.max_le, ih, List.forall_mem_cons]

theorem fieldsNesting_le {fields : List (Bytes × Json)} {depth : Nat} :
    fieldsNesting fields ≤ depth ↔ ∀ field ∈ fields, field.2.nesting ≤ depth := by
  induction fields with
  | nil => simp [fieldsNesting]
  | cons field rest ih => rw [fieldsNesting, Nat.max_le, ih, List.forall_mem_cons]

theorem nesting_array {items : List Json} {depth : Nat} (shallow : nesting (.array items) ≤ depth) :
    ∃ below, depth = below + 1 ∧ ∀ item ∈ items, item.nesting ≤ below := by
  rw [nesting] at shallow
  exact ⟨depth - 1, by omega, itemsNesting_le.mp (by omega)⟩

theorem nesting_object {fields : List (Bytes × Json)} {depth : Nat} (shallow : nesting (.object fields) ≤ depth) :
    ∃ below, depth = below + 1 ∧ ∀ field ∈ fields, field.2.nesting ≤ below := by
  rw [nesting] at shallow
  exact ⟨depth - 1, by omega, fieldsNesting_le.mp (by omega)⟩

theorem nesting_record {fields : List (String × Json)} {depth : Nat} (shallow : (record fields).nesting ≤ depth) :
    ∃ below, depth = below + 1 ∧ ∀ field ∈ fields, field.2.nesting ≤ below := by
  obtain ⟨below, level, each⟩ := nesting_object shallow
  refine ⟨below, level, fun field member => ?_⟩
  exact each (key field.1, field.2) (List.mem_map.mpr ⟨field, member, rfl⟩)

theorem nesting_tagged {name : String} {value : Json} {depth : Nat} (shallow : (tagged name value).nesting ≤ depth) :
    ∃ below, depth = below + 1 ∧ value.nesting ≤ below := by
  obtain ⟨below, level, each⟩ := nesting_object shallow
  exact ⟨below, level, each (key name, value) List.mem_cons_self⟩

end Nesting

section Spelling

theorem spelled_ofText (s : String) : (ofText s).Spelled :=
  .string (Bytes.ofText s)

theorem spelled_map {α : Type} {write : α → Json} {xs : List α} (each : ∀ x ∈ xs, (write x).Spelled) :
    Spelled (.array (xs.map write)) := by
  refine .array fun item member => ?_
  obtain ⟨x, present, rfl⟩ := List.mem_map.mp member
  exact each x present

theorem spelled_record {fields : List (String × Json)} (each : ∀ field ∈ fields, field.2.Spelled) :
    (record fields).Spelled := by
  refine .object ?_ ?_
  · intro field member
    obtain ⟨_, _, rfl⟩ := List.mem_map.mp member
    exact ⟨_, rfl⟩
  · intro field member
    obtain ⟨source, present, rfl⟩ := List.mem_map.mp member
    exact each source present

theorem spelled_tagged {name : String} {value : Json} (spelled : value.Spelled) : (tagged name value).Spelled := by
  have only : (record [(name, value)]).Spelled := spelled_record (by simpa using spelled)
  exact only

theorem spelled_ofOption {α : Type} {write : α → Json} {value : Option α} (each : ∀ a ∈ value, (write a).Spelled) :
    (ofOption write value).Spelled := by
  cases value with
  | none => exact .null
  | some a => exact each a rfl

theorem isWordByte_digit {b : UInt8} (digit : isDigitByte b = true) : isWordByte b = true := by
  simp [isWordByte, digit]

theorem spelled_ofNat (n : Nat) : (ofNat n).Spelled := by
  refine .number (fun b member => isWordByte_digit (decimal_all n b member)) ?_
  exact Option.isSome_of_eq_some (written?_decimal n).1

theorem spelled_ofInt (n : Int) : (ofInt n).Spelled := by
  obtain ⟨_, printed⟩ | ⟨_, printed⟩ := ofInt_cases n
  · rw [printed]
    exact spelled_ofNat n.natAbs
  · rw [printed]
    refine .number ?_ (Option.isSome_of_eq_some (written?_decimal n.natAbs).2)
    intro b member
    obtain rfl | digit := List.mem_cons.mp member
    · decide
    · exact isWordByte_digit (decimal_all n.natAbs b digit)

end Spelling

section Reading

variable {α : Type} {depth : Nat}

@[simp] theorem string?_ofText (s : String) : (ofText s).string? = some s :=
  text?_key s

@[simp] theorem tag?_ofText (depth : Nat) (s : String) : (ofText s).tag? depth = some s := by
  cases depth <;> exact text?_key s

@[simp] theorem tagged?_tagged (name : String) (value : Json) : (tagged name value).tagged? = some (name, value) := by
  simp [tagged, tagged?, text?_key]

theorem tag?_tagged {value : Json} (written : value.isNull = false) (depth : Nat) (name : String) :
    (tagged name value).tag? depth = none := by
  cases depth <;> cases value <;> simp_all [tagged, tag?, isNull]

theorem optional?_ofOption {read : Json → Option α} {write : α → Json} {value : Option α}
    (written : ∀ a ∈ value, (write a).isNull = false ∧ read (write a) = some a) :
    optional? read (ofOption write value) = some value := by
  cases value with
  | none => rfl
  | some a =>
    obtain ⟨present, back⟩ := written a rfl
    simp [optional?, ofOption, present, back]

theorem filter_of_mem {fields : List (String × Json)} (distinct : (fields.map Prod.fst).Nodup) {field : String × Json}
    (member : field ∈ fields) : fields.filter (·.1 == field.1) = [field] := by
  induction fields with
  | nil => cases member
  | cons first rest ih =>
    obtain ⟨absent, later⟩ := List.nodup_cons.mp distinct
    obtain rfl | behind := List.mem_cons.mp member
    · have none : rest.filter (·.1 == field.1) = [] := by
        rw [List.filter_eq_nil_iff]
        rintro other present same
        exact absent (eq_of_beq same ▸ List.mem_map_of_mem present)
      simp [none]
    · have differs : (first.1 == field.1) = false := by
        rw [beq_eq_false_iff_ne]
        intro same
        exact absent (same ▸ List.mem_map_of_mem behind)
      simp [differs, ih later behind]

theorem record?_record {fields : List (String × Json)} (distinct : (fields.map Prod.fst).Nodup) :
    (record fields).record? (fields.map Prod.fst) = some (fields.map fun field => some field.2) := by
  have named : (fields.map fun field => (key field.1, field.2)).mapM (fun field => (text? field.1).map (·, field.2)) =
      some fields := mapM_written fun field _ => by simp [text?_key]
  have single : (fields.map Prod.fst).mapM (single? fields) = some (fields.map fun field => some field.2) := by
    rw [List.mapM_map]
    refine mapM_some fun field member => ?_
    simp [single?, filter_of_mem distinct member]
  have read : (record fields).record? (fields.map Prod.fst) =
      ((fields.map fun field => (key field.1, field.2)).mapM fun field => (text? field.1).map (·, field.2)).bind
        fun fields' => (fields.map Prod.fst).mapM (single? fields') := rfl
  rw [read, named, Option.bind_some, single]

end Reading

end CueScript.Json
