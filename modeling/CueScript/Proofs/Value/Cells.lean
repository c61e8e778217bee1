import CueScript.Proofs.Machine.ArrayStores

set_option autoImplicit false

namespace CueScript

/-- What a writer is told, whether it stored or which index could not be reached, and the cells it leaves behind. -/
def Growth.settle (old : Cells) : Growth → Except Int64 Bool × Cells
  | .stored cells => (.ok true, cells)
  | .negative => (.ok false, old)
  | .refused index => (.error index, old)

namespace Cells

variable {cells : Cells} {index : Int64} {slot : Nat} {grants : Allocator} {value : Value}

structure PaddedTo (old : Cells) (length : Nat) (new : Cells) : Prop where
  size : new.size = max old.size length
  kept (j : Nat) : j < old.size → new[j]? = old[j]?
  zeros (j : Nat) : old.size ≤ j → j < length → new[j]? = some zero

/-- The old cells with a value in one of them, and zeros up to it if there were too few. -/
structure StoredAt (old : Cells) (slot : Nat) (value : Value) (new : Cells) : Prop where
  size : new.size = max old.size (slot + 1)
  cell : new[slot]? = some value
  others (j : Nat) : j < old.size → j ≠ slot → new[j]? = old[j]?
  zeros (j : Nat) : old.size ≤ j → j < slot → new[j]? = some zero

structure InsertedAt (old : Cells) (slot : Nat) (value : Value) (new : Cells) : Prop where
  size : new.size = max old.size slot + 1
  below (j : Nat) : j < min slot old.size → new[j]? = old[j]?
  zeros (j : Nat) : old.size ≤ j → j < slot → new[j]? = some zero
  cell : new[slot]? = some value
  moved (j : Nat) : slot ≤ j → j < old.size → new[j + 1]? = old[j]?

section Slots

theorem slot?_negative (negative : index < 0) : slot? index = none := by
  rw [slot?, if_pos negative]

theorem slot?_natural (natural : index.toInt = slot) : slot? index = some slot := by
  have zero := Int64.toInt_zero
  have notNegative : ¬ index < 0 := by
    rw [Int64.lt_iff_toInt_lt]
    omega
  rw [slot?, if_neg notNegative, natural, Int.toNat_natCast]

end Slots

section Padding

theorem size_padTo (cells : Cells) (length : Nat) : (cells.padTo length).size = max cells.size length := by
  rw [padTo, Array.size_append, Array.size_replicate]
  omega

theorem padded_padTo (cells : Cells) (length : Nat) : cells.PaddedTo length (cells.padTo length) where
  size := cells.size_padTo length
  kept j inside := by rw [padTo, Array.getElem?_append_left inside]
  zeros j past below := by
    rw [padTo, Array.getElem?_append_right past, Array.getElem?_replicate, if_pos (by omega)]

end Padding

section Writing

theorem set_inside (natural : index.toInt = slot) (inside : slot < cells.size) :
    ∃ new, cells.set grants index value = .stored new ∧ cells.StoredAt slot value new := by
  refine ⟨cells.setIfInBounds slot value, ?_, ?_, ?_, ?_, ?_⟩
  · simp only [set, slot?_natural natural, if_pos inside]
  · rw [Array.size_setIfInBounds]
    omega
  · rw [Array.getElem?_setIfInBounds_self_of_lt inside]
  · intro j _ other
    rw [Array.getElem?_setIfInBounds_ne (Ne.symm other)]
  · intro j past below
    omega

theorem set_granted (natural : index.toInt = slot) (past : cells.size ≤ slot) (granted : grants (slot + 1) = true) :
    ∃ new, cells.set grants index value = .stored new ∧ cells.StoredAt slot value new := by
  have padded := cells.padded_padTo slot
  have filled : (cells.padTo slot).size = slot := by
    rw [padded.size]
    omega
  refine ⟨(cells.padTo slot).push value, ?_, ?_, ?_, ?_, ?_⟩
  · simp only [set, slot?_natural natural, if_neg (Nat.not_lt.mpr past), if_pos granted]
  · rw [Array.size_push, filled]
    omega
  · rw [Array.getElem?_push, if_pos filled.symm]
  · intro j inside other
    rw [Array.getElem?_push, if_neg (by omega), padded.kept j inside]
  · intro j past' below
    rw [Array.getElem?_push, if_neg (by omega), padded.zeros j past' below]

theorem set_refused (natural : index.toInt = slot) (past : cells.size ≤ slot) (refused : grants (slot + 1) = false) :
    cells.set grants index value = .refused index := by
  simp only [set, slot?_natural natural, if_neg (Nat.not_lt.mpr past), refused, Bool.false_eq_true, if_false]

end Writing

section Inserting

theorem insert_granted (natural : index.toInt = slot) (granted : grants (max cells.size slot + 1) = true) :
    cells.insert grants index value =
      .stored ((cells.padTo slot).insertIdx slot value (by rw [size_padTo]; omega)) := by
  have room : slot ≤ (cells.padTo slot).size := by
    rw [size_padTo]
    omega
  simp only [insert, slot?_natural natural, if_pos granted, Array.insertIdxIfInBounds, dif_pos room]

theorem insertedAt_insertIdx (room : slot ≤ (cells.padTo slot).size) :
    cells.InsertedAt slot value ((cells.padTo slot).insertIdx slot value room) := by
  have padded := cells.padded_padTo slot
  refine ⟨?_, ?_, ?_, ?_, ?_⟩
  · rw [Array.size_insertIdx, padded.size]
  · intro j below
    rw [Array.getElem?_insertIdx_of_lt room (by omega), padded.kept j (by omega)]
  · intro j past below
    rw [Array.getElem?_insertIdx_of_lt room below, padded.zeros j past below]
  · rw [Array.getElem?_insertIdx_self room]
  · intro j from' inside
    have size := padded.size
    rw [Array.getElem?_insertIdx_of_ge (by omega) (by omega), Nat.add_sub_cancel, padded.kept j inside]

theorem remove?_insertIdx (natural : index.toInt = slot) (room : slot ≤ (cells.padTo slot).size) :
    remove? ((cells.padTo slot).insertIdx slot value room) index = some (value, cells.padTo slot) := by
  have inside : slot < ((cells.padTo slot).insertIdx slot value room).size := by
    rw [Array.size_insertIdx]
    omega
  rw [remove?, slot?_natural natural, Option.bind_some, (insertedAt_insertIdx room).cell, Option.map_some,
    Array.eraseIdxIfInBounds_eq, dif_pos inside, Array.eraseIdx_insertIdx_self]

theorem insert_refused (natural : index.toInt = slot) (refused : grants (max cells.size slot + 1) = false) :
    cells.insert grants index value = .refused index := by
  simp only [insert, slot?_natural natural, refused, Bool.false_eq_true, if_false]

end Inserting

section Reading

theorem get?_natural (natural : index.toInt = slot) : cells.get? index = cells[slot]? := by
  rw [get?, slot?_natural natural, Option.bind_some]

theorem isSome_get? (cells : Cells) (index : Int64) :
    (cells.get? index).isSome ↔ 0 ≤ index.toInt ∧ index.toInt < cells.size := by
  by_cases negative : index < 0
  · have below := Int64.lt_iff_toInt_lt.mp negative
    have zero := Int64.toInt_zero
    simp only [get?, slot?_negative negative, Option.bind_none, Option.isSome_none, Bool.false_eq_true, false_iff]
    omega
  · rw [Int64.lt_iff_toInt_lt, Int64.toInt_zero] at negative
    obtain ⟨slot, natural⟩ : ∃ slot : Nat, index.toInt = slot := ⟨index.toInt.toNat, by omega⟩
    rw [get?_natural natural, natural, isSome_getElem?]
    simp

end Reading

section Words

theorem toNat_toUInt64 (natural : index.toInt = slot) : index.toUInt64.toNat = slot := by
  have zero := Int64.toInt_zero
  have notNegative : 0 ≤ index := by
    rw [Int64.le_iff_toInt_le]
    omega
  rw [Int64.toNat_toUInt64_of_le notNegative, Int64.toNatClampNeg, natural, Int.toNat_natCast]

theorem toNat_next (natural : index.toInt = slot) : (index.toUInt64 + 1).toNat = slot + 1 := by
  have upper := index.toInt_lt
  rw [UInt64.toNat_add, toNat_toUInt64 natural, UInt64.toNat_one, Nat.mod_eq_of_lt (by omega)]

theorem toNat_next_max (natural : index.toInt = slot) (fits : cells.size < 0x8000000000000000) :
    (max (UInt64.ofNat cells.size) index.toUInt64 + 1).toNat = max cells.size slot + 1 := by
  have upper := index.toInt_lt
  have size : (UInt64.ofNat cells.size).toNat = cells.size := UInt64.toNat_ofNat_of_lt' (by simp [UInt64.size]; omega)
  have larger : (max (UInt64.ofNat cells.size) index.toUInt64).toNat = max cells.size slot := by
    have order : UInt64.ofNat cells.size ≤ index.toUInt64 ↔ cells.size ≤ slot := by
      rw [UInt64.le_iff_toNat_le, size, toNat_toUInt64 natural]
    change (if _ then _ else _ : UInt64).toNat = _
    split
    next less => rw [toNat_toUInt64 natural, Nat.max_eq_right (order.mp less)]
    next more => rw [size, Nat.max_eq_left (Nat.le_of_not_le fun less => more (order.mpr less))]
  rw [UInt64.toNat_add, larger, UInt64.toNat_one, Nat.mod_eq_of_lt (by omega)]

end Words

end Cells

section Stores

variable {m mid last : Machine} {inner : Inner} {inst : Instruction} {name : String} {id : ArrayId} {index : Int64}
  {value : Value}

/-- The store after an attempt to write to one array, if nothing else is written. -/
def Store.Settles (store : Store) (id : ArrayId) (attempt : Cells → Growth) (store' : Store) : Prop :=
  ∀ other, store'.cells other =
    if other = id then ((attempt (store.cells id)).settle (store.cells id)).2 else store.cells other

theorem Store.cells_put {store : Store} (known : id < store.arrays.size) (cells : Cells) (other : ArrayId) :
    (store.put id cells).cells other = if other = id then cells else store.cells other := by
  by_cases same : other = id
  · subst same
    rw [Store.cells, Store.put, Array.getElem?_setIfInBounds_self_of_lt known, if_pos rfl, Option.getD_some]
  · rw [Store.cells, Store.put, Array.getElem?_setIfInBounds_ne (Ne.symm same), if_neg same, Store.cells]

theorem Store.settles_kept {store : Store} {attempt : Cells → Growth}
    (kept : ((attempt (store.cells id)).settle (store.cells id)).2 = store.cells id) : store.Settles id attempt store := by
  intro other
  split
  next same => rw [kept, same]
  next => rfl

theorem Store.settles_put {store : Store} {attempt : Cells → Growth} {cells : Cells} (known : id < store.arrays.size)
    (stored : attempt (store.cells id) = .stored cells) : store.Settles id attempt (store.put id cells) := by
  intro other
  rw [Store.cells_put known, stored, Growth.settle]

theorem insertCell_settles (known : id < m.store.arrays.size) :
    ∃ m', (Action.insertCell (.array id) index value m).left? = some m' ∧
      m.store.Settles id (·.insert m.grants index value) m'.store := by
  simp only [Action.insertCell, Action.expectArray, Value.array?, Option.isNone_some, bind, Run.bind, pure, Run.pure,
    Run.read, Bool.false_eq_true, if_false]
  cases attempt : Cells.insert m.grants (m.store.cells id) index value with
  | stored cells => exact ⟨_, rfl, Store.settles_put known attempt⟩
  | negative | refused => exact ⟨_, rfl, Store.settles_kept (by rw [attempt, Growth.settle])⟩

theorem arrayAssign_settles (named : (inst.arg? 0).bind Operand.name? = some name)
    (indexed : inner.arg inst 1 m = .done (.int index) mid) (valued : inner.arg inst 2 mid = .done value last)
    (bound : last.lookup name = some (.array id)) (known : id < last.store.arrays.size) :
    ∃ m', (inner.arrayAssign inst m).left? = some m' ∧ last.store.Settles id (·.set last.grants index value) m'.store := by
  have named : Inner.name inst 0 = pure name := by simp only [Inner.name, named]
  have found : Inner.arrayFor name last = .done id last := by simp only [Inner.arrayFor, Run.step, bound]
  simp only [Inner.arrayAssign, named, bind, Run.bind, pure, Run.pure, indexed, valued, found, Run.read, Value.toInt]
  cases attempt : Cells.set last.grants (last.store.cells id) index value with
  | stored cells => exact ⟨_, rfl, Store.settles_put known attempt⟩
  | negative | refused => exact ⟨_, rfl, Store.settles_kept (by rw [attempt, Growth.settle])⟩

end Stores

/-- Every read and write of an array, place by place. Whatever is granted, a write that is not performed leaves the cells
as they are; in 64-bit words the lengths that are asked for come out as they do here; and scripts that write to an array
change no other one. -/
theorem array_accesses_follow_lists (grants : Allocator) (cells : Cells) (index : Int64) (value : Value) :
    (index < 0 → (cells.set grants index value).settle cells = (.ok false, cells) ∧
      (cells.insert grants index value).settle cells = (.ok false, cells)) ∧
    (∀ slot : Nat, index.toInt = slot →
      (cells.size ≤ slot → grants (slot + 1) = false →
        (cells.set grants index value).settle cells = (.error index, cells)) ∧
      (slot < cells.size ∨ grants (slot + 1) = true →
        ∃ new, (cells.set grants index value).settle cells = (.ok true, new) ∧ cells.StoredAt slot value new) ∧
      (grants (max cells.size slot + 1) = false →
        (cells.insert grants index value).settle cells = (.error index, cells)) ∧
      (grants (max cells.size slot + 1) = true →
        ∃ new padded, (cells.insert grants index value).settle cells = (.ok true, new) ∧
          cells.InsertedAt slot value new ∧ new.remove? index = some (value, padded) ∧ cells.PaddedTo slot padded) ∧
      cells.get? index = cells[slot]? ∧
      (index.toUInt64 + 1).toNat = slot + 1 ∧
      (cells.size < 0x8000000000000000 →
        (max (UInt64.ofNat cells.size) index.toUInt64 + 1).toNat = max cells.size slot + 1)) ∧
    ((cells.get? index).isSome ↔ 0 ≤ index.toInt ∧ index.toInt < cells.size) ∧
    (∀ (m : Machine) (id : ArrayId), id < m.store.arrays.size →
      ∃ m', (Action.insertCell (.array id) index value m).left? = some m' ∧
        m.store.Settles id (·.insert m.grants index value) m'.store) ∧
    ∀ (inner : Inner) (inst : Instruction) (name : String) (m mid last : Machine) (id : ArrayId),
      (inst.arg? 0).bind Operand.name? = some name → inner.arg inst 1 m = .done (.int index) mid →
      inner.arg inst 2 mid = .done value last → last.lookup name = some (.array id) → id < last.store.arrays.size →
      ∃ m', (inner.arrayAssign inst m).left? = some m' ∧
        last.store.Settles id (·.set last.grants index value) m'.store := by
  refine ⟨fun negative => ?_, fun slot natural => ⟨fun past refused => ?_, fun granted => ?_, fun refused => ?_,
    fun granted => ?_, Cells.get?_natural natural, Cells.toNat_next natural, Cells.toNat_next_max natural⟩,
    cells.isSome_get? index, fun m id known => insertCell_settles known,
    fun inner inst name m mid last id named indexed valued bound known =>
      arrayAssign_settles named indexed valued bound known⟩
  · have missing := Cells.slot?_negative negative
    exact ⟨by simp only [Cells.set, missing, Growth.settle], by simp only [Cells.insert, missing, Growth.settle]⟩
  · rw [Cells.set_refused natural past refused, Growth.settle]
  · obtain ⟨new, stored, placed⟩ : ∃ new, cells.set grants index value = .stored new ∧ cells.StoredAt slot value new := by
      by_cases inside : slot < cells.size
      · exact Cells.set_inside natural inside
      · exact Cells.set_granted natural (Nat.not_lt.mp inside) (granted.resolve_left inside)
    exact ⟨new, by rw [stored, Growth.settle], placed⟩
  · rw [Cells.insert_refused natural refused, Growth.settle]
  · refine ⟨_, cells.padTo slot, by rw [Cells.insert_granted natural granted, Growth.settle], ?_⟩
    exact ⟨Cells.insertedAt_insertIdx _, Cells.remove?_insertIdx natural _, cells.padded_padTo slot⟩

theorem short_array_grows :
    (Cells.set (fun _ => false) #[.int 7] 3 (.int 5)).settle #[.int 7] = (.error 3, #[.int 7]) ∧
    (∃ new, (Cells.set (fun _ => true) #[.int 7] 3 (.int 5)).settle #[.int 7] = (.ok true, new) ∧
      Cells.StoredAt #[.int 7] 3 (.int 5) new) ∧
    (∃ new padded, (Cells.insert (fun _ => true) #[.int 7] 3 (.int 5)).settle #[.int 7] = (.ok true, new) ∧
      Cells.InsertedAt #[.int 7] 3 (.int 5) new ∧ new.remove? 3 = some (.int 5, padded) ∧
      Cells.PaddedTo #[.int 7] 3 padded) ∧
    ∃ m', (Action.insertCell (.array 0) (-1) (.int 5) (storeMachine [])).left? = some m' ∧
      m'.store.cells 0 = #[.int 7] := by
  obtain ⟨_, denied, _⟩ := array_accesses_follow_lists (fun _ => false) #[.int 7] 3 (.int 5)
  obtain ⟨_, granted, _⟩ := array_accesses_follow_lists (fun _ => true) #[.int 7] 3 (.int 5)
  obtain ⟨_, _, _, inserts, _⟩ := array_accesses_follow_lists (fun _ => true) #[.int 7] (-1) (.int 5)
  obtain ⟨_, stores, _, inserted, _⟩ := granted 3 rfl
  obtain ⟨m', left, settles⟩ := inserts (storeMachine []) 0 (by decide)
  exact ⟨(denied 3 rfl).1 (by decide) rfl, stores (.inr rfl), inserted rfl, m', left, settles 0⟩

end CueScript
