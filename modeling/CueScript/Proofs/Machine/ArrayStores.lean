import CueScript.Proofs.Machine.Dispatch
import CueScript.Proofs.Machine.Twin

set_option autoImplicit false

namespace CueScript

structure Machine.SameData (m m' : Machine) : Prop where
  globals : m'.globals = m.globals
  frames : m'.frames = m.frames
  store : m'.store = m.store

def Bindings.KeepsOthers (name : String) (b b' : Bindings) : Prop :=
  ∀ other, other ≠ name → b'.get? other = b.get? other

structure Machine.KeepsOthers (name : String) (m m' : Machine) : Prop where
  globals : m.globals.KeepsOthers name m'.globals
  frames : List.Forall₂ (Bindings.KeepsOthers name) m.frames m'.frames
  cells : ∀ id, m'.store.cells id = m.store.cells id

/-- What an assignment to a cell of the array `name` leaves if it is not performed. A name that is bound to an array stays
as it is too; any other one is bound to a new array without cells. -/
structure Machine.Declined (name : String) (m m' : Machine) : Prop where
  others : m.KeepsOthers name m'
  bound : (∃ id, m.lookup name = some (.array id)) → m.SameData m'
  unbound : (¬ ∃ id, m.lookup name = some (.array id)) →
    ∃ id, m.store.arrays.size ≤ id ∧ m'.lookup name = some (.array id) ∧ m'.store.cells id = #[]

section Variables

variable {name : String} {m m' m'' : Machine}

theorem Bindings.keepsOthers_refl (name : String) (b : Bindings) : b.KeepsOthers name b :=
  fun _ _ => rfl

theorem Bindings.keepsOthers_frames (name : String) (frames : List Bindings) :
    List.Forall₂ (Bindings.KeepsOthers name) frames frames :=
  List.forall₂_same.mpr fun frame _ => Bindings.keepsOthers_refl name frame

theorem Bindings.keepsOthers_set (b : Bindings) (name : String) (value : Value) :
    b.KeepsOthers name (b.set name value) := by
  intro other different
  rw [Bindings.get?_set, if_neg different]

theorem Machine.SameData.keepsOthers (same : m.SameData m') (name : String) : m.KeepsOthers name m' where
  globals := by rw [same.globals]; exact Bindings.keepsOthers_refl name _
  frames := by rw [same.frames]; exact Bindings.keepsOthers_frames name _
  cells id := by rw [same.store]

theorem Machine.SameData.trans (first : m.SameData m') (rest : m'.SameData m'') : m.SameData m'' :=
  ⟨rest.globals.trans first.globals, rest.frames.trans first.frames, rest.store.trans first.store⟩

theorem Machine.KeepsOthers.trans_same (keeps : m.KeepsOthers name m') (same : m'.SameData m'') :
    m.KeepsOthers name m'' := by
  obtain ⟨globals, frames, store⟩ := same
  exact ⟨globals ▸ keeps.globals, frames ▸ keeps.frames, store ▸ keeps.cells⟩

theorem Machine.SameData.lookup (same : m.SameData m') (name : String) : m'.lookup name = m.lookup name := by
  unfold Machine.lookup Machine.scopes
  rw [same.globals, same.frames]

theorem Machine.Declined.trans_same (declined : m.Declined name m') (same : m'.SameData m'') : m.Declined name m'' where
  others := declined.others.trans_same same
  bound array := (declined.bound array).trans same
  unbound other := by
    obtain ⟨id, fresh, found, cells⟩ := declined.unbound other
    exact ⟨id, fresh, (same.lookup name).trans found, same.store ▸ cells⟩

theorem Machine.keepsOthers_declare (m : Machine) (name : String) (value : Value) :
    m.KeepsOthers name (m.declare name value) := by
  unfold Machine.declare
  split
  next none => exact ⟨Bindings.keepsOthers_set _ name value, Bindings.keepsOthers_frames name _, fun _ => rfl⟩
  next frame rest inside =>
    refine ⟨Bindings.keepsOthers_refl name _, ?_, fun _ => rfl⟩
    rw [inside]
    exact .cons (Bindings.keepsOthers_set frame name value) (Bindings.keepsOthers_frames name rest)

theorem Machine.keepsOthers_assign (m : Machine) (name : String) (value : Value) :
    m.KeepsOthers name (m.assign name value) := by
  unfold Machine.assign
  split
  next => exact m.keepsOthers_declare name value
  next =>
    split
    next => exact m.keepsOthers_declare name value
    next => exact ⟨Bindings.keepsOthers_set _ name value, Bindings.keepsOthers_frames name _, fun _ => rfl⟩

theorem Machine.lookup_declare (m : Machine) (name : String) (value : Value) :
    (m.declare name value).lookup name = some value := by
  unfold Machine.declare
  split
  next none => simp [Machine.lookup, Machine.scopes, lookupNearest, none, Bindings.get?_set]
  next frame rest _ => simp [Machine.lookup, Machine.scopes, lookupNearest, Bindings.get?_set]

theorem Machine.lookup_assign (m : Machine) (name : String) (value : Value) :
    (m.assign name value).lookup name = some value := by
  unfold Machine.assign
  split
  next => exact m.lookup_declare name value
  next frame rest inside =>
    split
    next => exact m.lookup_declare name value
    next outer =>
      -- The frame does not bind the name, so the globals are looked at next.
      have passed : frame.get? name = none := by
        simp only [Bool.or_eq_true, not_or, Bindings.contains] at outer
        simpa using outer.1
      simp [Machine.lookup, Machine.scopes, lookupNearest, inside, passed, Bindings.get?_set]

theorem Machine.grants_assign (m : Machine) (name : String) (value : Value) :
    (m.assign name value).grants = m.grants := by
  unfold Machine.assign Machine.declare
  repeat' split
  all_goals rfl

theorem Store.cells_alloc (store : Store) (id : ArrayId) : (store.alloc #[]).2.cells id = store.cells id := by
  simp only [Store.cells, Store.alloc, Array.getElem?_push]
  split
  next last => simp [last]
  next => rfl

end Variables

def Machine.cellsOf (m : Machine) (name : String) : Cells :=
  match m.lookup name with
  | some (.array id) => m.store.cells id
  | _ => #[]

section Assigning

variable {name : String} {m mid last : Machine} {inner : Inner} {inst : Instruction} {index value : Value}

theorem arrayFor_found (name : String) (m : Machine) : ∃ id found, Inner.arrayFor name m = .done id found ∧
    found.grants = m.grants ∧ found.store.cells id = m.cellsOf name ∧ m.Declined name found := by
  by_cases bound : ∃ id, m.lookup name = some (.array id)
  · obtain ⟨id, bound⟩ := bound
    have same : m.SameData m := ⟨rfl, rfl, rfl⟩
    refine ⟨id, m, ?_, rfl, ?_, same.keepsOthers name, fun _ => same, fun other => absurd ⟨id, bound⟩ other⟩
    · simp only [Inner.arrayFor, Run.step, bound]
    · simp only [Machine.cellsOf, bound]
  · -- The store grows by an array without cells before the name is assigned.
    let roomy : Machine := { m with store := (m.store.alloc #[]).2 }
    let id := (m.store.alloc #[]).1
    have assigned := roomy.keepsOthers_assign name (.array id)
    have cells (other : ArrayId) : (roomy.assign name (.array id)).store.cells other = m.store.cells other :=
      (assigned.cells other).trans (m.store.cells_alloc other)
    have ran : Inner.arrayFor name m = .done id (roomy.assign name (.array id)) := by
      simp only [Inner.arrayFor, Run.step]
      split
      next _ array => exact absurd ⟨_, array⟩ bound
      next => rfl
    have empty : (roomy.assign name (.array id)).store.cells id = #[] := by
      rw [cells]
      simp [Store.cells, id, Store.alloc]
    refine ⟨id, _, ran, roomy.grants_assign name _, ?_, ⟨assigned.globals, assigned.frames, cells⟩, fun array => absurd array bound, fun _ =>
      ⟨id, Nat.le_refl _, roomy.lookup_assign name _, empty⟩⟩
    rw [empty, Machine.cellsOf]
    split
    next _ array => exact absurd ⟨_, array⟩ bound
    next => rfl

/-- Whether no cell is written: the index is negative, or past the end where the array may not grow to. -/
def Cells.Declines (grants : Allocator) (cells : Cells) (index : Int64) : Prop :=
  index < 0 ∨ cells.size ≤ index.toInt.toNat ∧ grants (index.toInt.toNat + 1) = false

theorem Cells.set_declined {grants : Allocator} {cells : Cells} {index : Int64} (declines : cells.Declines grants index)
    (value : Value) : cells.set grants index value = .negative ∨ cells.set grants index value = .refused index := by
  unfold Cells.set Cells.slot?
  by_cases negative : index < 0
  · exact .inl (by simp only [if_pos negative])
  · obtain ⟨far, denied⟩ := declines.resolve_left negative
    exact .inr (by simp only [if_neg negative, if_neg (Nat.not_lt.mpr far), denied, Bool.false_eq_true, if_false])

theorem arrayAssign_declined (named : (inst.arg? 0).bind Operand.name? = some name)
    (indexed : inner.arg inst 1 m = .done index mid) (valued : inner.arg inst 2 mid = .done value last)
    (declines : (last.cellsOf name).Declines last.grants index.toInt) :
    ∃ m', (inner.arrayAssign inst m).left? = some m' ∧ last.Declined name m' := by
  obtain ⟨id, found, ran, grants, cells, declined⟩ := arrayFor_found name last
  have named : Inner.name inst 0 = pure name := by simp only [Inner.name, named]
  unfold Inner.arrayAssign
  simp only [named, bind, Run.bind, pure, Run.pure, indexed, valued, ran, Run.read, grants, cells]
  obtain negative | refused := Cells.set_declined declines value
  · rw [negative]
    exact ⟨_, rfl, declined.trans_same ⟨rfl, rfl, rfl⟩⟩
  · rw [refused]
    exact ⟨_, rfl, declined⟩

end Assigning

/-- An assignment to a cell that is not performed, as a statement and as a value. It comes to an end and leaves what its
operands left, but for a name that is bound to no array. -/
theorem declined_store_spares_data (fuel : Nat) {inst : Instruction} {name : String} {index value : Value}
    {m mid last : Machine} (stores : inst.op = .arrayAssign) (named : (inst.arg? 0).bind Operand.name? = some name)
    (indexed : (interpreter fuel).arg inst 1 m = .done index mid)
    (valued : (interpreter fuel).arg inst 2 mid = .done value last)
    (declines : (last.cellsOf name).Declines last.grants index.toInt) :
    (∃ m', (exec (fuel + 1) inst m).left? = some m' ∧ last.Declined name m') ∧
    ∃ m', (eval (fuel + 1) (.node inst) m).left? = some m' ∧ last.Declined name m' := by
  obtain ⟨m', left, declined⟩ := arrayAssign_declined named indexed valued declines
  have performed : exec (fuel + 1) inst = (interpreter fuel).statement fuel inst := rfl
  have evaluated : eval (fuel + 1) (.node inst) = ((interpreter fuel).node inst).locate inst := rfl
  rw [performed, evaluated]
  simp only [Inner.statement, Inner.perform, Inner.node, stores, Run.locate, map_eq_pure_bind, bind, Run.bind]
  cases ran : (interpreter fuel).arrayAssign inst m with
  | done _ ended | failed _ ended =>
    rw [ran] at left
    cases left
    exact ⟨⟨_, rfl, declined.trans_same ⟨rfl, rfl, rfl⟩⟩, _, rfl, declined⟩
  | exhausted =>
    rw [ran] at left
    cases left

def storeBefore : Instruction :=
  .mk .arrayAssign [.var "list", .int (-1), .int 3] none

def storeFarOff : Instruction :=
  .mk .arrayAssign [.var "list", .int 4, .int 3] none

def storeMachine (globals : List (String × Value)) : Machine where
  settings := { headless := true }
  main := []
  file := none
  functions := []
  builtins := Builtin.standard
  globals := { entries := globals }
  store := { arrays := #[#[.int 7]] }
  audio := .silent {}
  random := { state := 0 }
  grants length := length ≤ 4

theorem stores_beside_list_declined : ∃ m' m'',
    (exec 2 storeBefore (storeMachine [("list", .array 0)])).left? = some m' ∧
    (storeMachine [("list", .array 0)]).SameData m' ∧
    (exec 2 storeFarOff (storeMachine [("list", .array 0)])).left? = some m'' ∧
    (storeMachine [("list", .array 0)]).SameData m'' := by
  have bound : (storeMachine [("list", .array 0)]).lookup "list" = some (.array 0) := by decide
  have cells : (storeMachine [("list", .array 0)]).cellsOf "list" = #[.int 7] := by decide
  obtain ⟨⟨m', left, before⟩, _⟩ := declined_store_spares_data 1 (rfl : storeBefore.op = .arrayAssign) rfl rfl rfl
    (show Cells.Declines _ _ _ by rw [cells]; exact .inl (by decide))
  obtain ⟨⟨m'', left', far⟩, _⟩ := declined_store_spares_data 1 (rfl : storeFarOff.op = .arrayAssign) rfl rfl rfl
    (show Cells.Declines _ _ _ by rw [cells]; exact .inr (by decide))
  exact ⟨m', m'', left, before.bound ⟨0, bound⟩, left', far.bound ⟨0, bound⟩⟩

theorem declined_store_binds_name : ∃ m' m'' fault,
    (interpreter 1).arg storeBefore 1 (storeMachine [("list", .int 5)]) =
      .done (.int (-1)) (storeMachine [("list", .int 5)]) ∧
    (interpreter 1).arg storeBefore 2 (storeMachine [("list", .int 5)]) =
      .done (.int 3) (storeMachine [("list", .int 5)]) ∧
    exec 2 storeBefore (storeMachine [("list", .int 5)]) = .done .zero m' ∧
    (storeMachine [("list", .int 5)]).global? "list" = some (.int 5) ∧ m'.global? "list" = some (.array 1) ∧
    exec 2 storeFarOff (storeMachine []) = .failed fault m'' ∧ fault.kind = .outOfMemory ∧
    (storeMachine []).global? "list" = none ∧ m''.global? "list" = some (.array 1) :=
  ⟨_, _, _, rfl, rfl, rfl, by decide, by decide +kernel, rfl, rfl, by decide, by decide +kernel⟩

end CueScript
