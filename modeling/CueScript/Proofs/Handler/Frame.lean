import CueScript.Proofs.Handler.Invariant

set_option autoImplicit false

namespace CueScript

/-- What a handler may become when the event is offered to the handlers `ids`, each of them once. -/
structure Handler.Passed (ids : List HandlerId) (h h' : Handler) : Prop where
  spared : h.id ∉ ids → h'.pc = h.pc ∧ h'.wait = h.wait ∧ h'.step = h.step
  waiting : 0 < h.wait → h'.pc = h.pc ∧ h'.step = h.step ∧ (h'.wait = h.wait ∨ h'.wait = h.wait - 1)

namespace Handler.Passed

variable {ids : List HandlerId} {id : HandlerId} {h h' : Handler}

theorem refl (ids : List HandlerId) (h : Handler) : h.Passed ids h :=
  ⟨fun _ => ⟨rfl, rfl, rfl⟩, fun _ => ⟨rfl, rfl, .inl rfl⟩⟩

theorem cons {h'' : Handler} (fresh : id ∉ ids) (same : h.Same h') (first : h.Passed [id] h') (rest : h'.Passed ids h'') :
    h.Passed (id :: ids) h'' := by
  constructor
  next =>
    intro spared
    rw [List.mem_cons, not_or] at spared
    obtain ⟨pc, wait, step⟩ := first.spared (by simpa using spared.1)
    obtain ⟨pc', wait', step'⟩ := rest.spared (by rw [same.id]; exact spared.2)
    exact ⟨pc'.trans pc, wait'.trans wait, step'.trans step⟩
  next =>
    -- The event is used up by the first offer or by a later one, never by both.
    intro waits
    by_cases named : h.id = id
    next =>
      obtain ⟨pc, step, wait⟩ := first.waiting waits
      obtain ⟨pc', wait', step'⟩ := rest.spared (by rw [same.id, named]; exact fresh)
      exact ⟨pc'.trans pc, step'.trans step, wait'.symm ▸ wait⟩
    next =>
      obtain ⟨pc, wait, step⟩ := first.spared (by simpa using named)
      obtain ⟨pc', step', wait'⟩ := rest.waiting (wait.symm ▸ waits)
      exact ⟨pc'.trans pc, step'.trans step, wait ▸ wait'⟩

theorem poll (h : Handler) : h.Passed [h.id] h.poll.2 := by
  unfold Handler.poll
  split
  · exact refl _ h
  · split
    · exact ⟨fun spared => absurd (List.mem_singleton.mpr rfl) spared, fun _ => ⟨rfl, rfl, .inr rfl⟩⟩
    · exact refl _ h

theorem kept (due : h.id = id → ¬ 0 < h.wait) (kept : h.Kept (some id) h') : h.Passed [id] h' := by
  have steady (other : h.id ≠ id) : h'.step = h.step := kept.step fun same => other (Option.some.inj same)
  constructor
  next =>
    intro spared
    exact ⟨kept.pc, kept.wait, steady (by simpa using spared)⟩
  next =>
    intro waits
    exact ⟨kept.pc, steady fun named => due named waits, .inl kept.wait⟩

theorem changed {h'' : Handler} (due : h.id = id → ¬ 0 < h.wait) (passed : h.Passed [id] h')
    (others : h.id ≠ id → h'' = h') : h.Passed [id] h'' := by
  -- How the run ended matters only to the handler that ran.
  by_cases named : h.id = id
  next => exact ⟨fun spared => absurd (by simp [named]) spared, fun waits => absurd waits (due named)⟩
  next => rw [others named]; exact passed

theorem fresh (spared : h.id ∉ ids) (fresh : h.Fresh none) (passed : h.Passed ids h') : h'.Fresh none := by
  obtain ⟨pc, wait, step⟩ := passed.spared spared
  exact ⟨pc.trans fresh.pc, wait.trans fresh.wait, fun _ => step.trans (fresh.step nofun)⟩

end Handler.Passed

abbrev Registry.Passed (ids : List HandlerId) : Registry → Registry → Prop :=
  Registry.Evolves (Handler.Passed ids) (Handler.Fresh none)

namespace Registry.Passed

variable {r r' r'' : Registry} {ids : List HandlerId} {id : HandlerId}

theorem refl (ids : List HandlerId) (r : Registry) : r.Passed ids r :=
  .of_ids rfl rfl fun h member => ⟨h, member, .refl h, .refl ids h⟩

theorem cons (fresh : id ∉ ids) (known : ∀ id ∈ ids, id < r.nextId) (first : r.Passed [id] r') (rest : r'.Passed ids r'') :
    r.Passed (id :: ids) r'' := by
  refine first.trans rest (fun a b c _ same passed later => passed.cons fresh same later) ?_ fun _ _ new => new
  intro a b later _ new passed
  exact passed.fresh (fun member => absurd (known a.id member) (Nat.not_lt.mpr later)) new

end Registry.Passed

section Pass

variable {m m' : Machine} {ids : List HandlerId} {id : HandlerId} {h other : Handler}

theorem due_of_ready (distinct : m.handlers.Distinct) (found : m.handlers.get? id = some h) (ready : h.Ready)
    (member : other ∈ m.handlers.handlers) (named : other.id = id) : ¬ 0 < other.wait := by
  obtain ⟨present, called⟩ := Registry.mem_of_get? found
  rw [distinct.eq_of_id member present (named.trans called.symm)]
  exact ready.2.2

theorem ne_of_later (distinct : m.handlers.Distinct) (found : m.handlers.get? id = some h)
    (later : m.handlers.nextId ≤ other.id) : other.id ≠ id := by
  intro named
  obtain ⟨present, called⟩ := Registry.mem_of_get? found
  exact absurd (called ▸ named ▸ later) (distinct.not_later present)

theorem Effects.passed (distinct : m.handlers.Distinct) (found : m.handlers.get? id = some h) (ready : h.Ready)
    (effects : Effects (m.enterHandler id) m') : m.handlers.Passed [id] m'.handlers := by
  have grown : m.handlers.Grown (some id) m'.handlers := effects.grown distinct
  refine ⟨grown.ids, grown.next, fun h' member' => ?_⟩
  rcases grown.each h' member' with ⟨old, present, same, kept⟩ | ⟨later, fresh⟩
  · exact .inl ⟨old, present, same, .kept (due_of_ready distinct found ready present) kept⟩
  · have others := ne_of_later distinct found later
    exact .inr ⟨later, fresh.pc, fresh.wait, fun _ => fresh.step fun same => others (Option.some.inj same)⟩

theorem finish_passed (distinct : m.handlers.Distinct) (found : m.handlers.get? id = some h) (ready : h.Ready)
    (passed : m.handlers.Passed [id] m'.handlers) (outcome : RunOutcome) :
    m.handlers.Passed [id] (m'.handlers.modify id (·.finish outcome)) := by
  have same (h : Handler) := Handler.Same.finish h outcome
  refine passed.trans (.modify (passed.distinct distinct) same id) ?_ ?_ fun _ _ new => new
  · intro a b c member same before changed
    refine before.changed (due_of_ready distinct found ready member) fun others => changed.2 ?_
    rw [same.id]
    exact others
  · intro a b later _ fresh changed
    rw [changed.2 (ne_of_later distinct found later)]
    exact fresh

theorem offer_passed (distinct : m.handlers.Distinct) (fuel : Nat) (id : HandlerId) :
    (offer fuel id m).Ends (fun _ m' => m.handlers.Passed [id] m'.handlers) fun m' =>
      m.handlers.Passed [id] m'.handlers := by
  have offered := offer_offered fuel id m
  generalize offer fuel id m = outcome at offered ⊢
  cases offered with
  | passed => exact .refl _ _
  | waited =>
    refine (Registry.Evolves.modify distinct Handler.Same.poll id).imp (fun h _ h' changed => ?_) fun _ fresh => fresh
    by_cases named : h.id = id
    next => rw [changed.1 named, ← named]; exact .poll h
    next => rw [changed.2 named]; exact .refl _ h
  | @ran h m' outcome found ready run =>
    have ends := runFrom_effects fuel h.pc (h.body.drop h.pc) (m.enterHandler id)
    rw [← runBody, run] at ends
    exact finish_passed distinct found ready (ends.1.passed distinct found ready) outcome
  | @aborted h m' fault found ready run =>
    have ends := runFrom_effects fuel h.pc (h.body.drop h.pc) (m.enterHandler id)
    rw [← runBody, run] at ends
    have passed : m.handlers.Passed [id] m'.handlers := Effects.passed distinct found ready ends
    exact passed
  | exhausted => trivial

theorem handlers_checkStop (m : Machine) : m.checkStop.2.handlers = m.handlers := by
  unfold Machine.checkStop
  split
  · rfl
  · split
    · split <;> rfl
    · rfl

theorem offerAll_passed (distinct : m.handlers.Distinct) (fuel : Nat) (nodup : ids.Nodup)
    (known : ∀ id ∈ ids, id < m.handlers.nextId) :
    (offerAll fuel ids m).Ends (fun _ m' => m.handlers.Passed ids m'.handlers) fun m' =>
      m.handlers.Passed ids m'.handlers := by
  induction ids generalizing m with
  | nil => exact .refl _ _
  | cons id rest ih =>
    obtain ⟨absent, nodup⟩ := List.nodup_cons.mp nodup
    have knownRest (later : HandlerId) (member : later ∈ rest) := known later (List.mem_cons_of_mem id member)
    have checked := handlers_checkStop m
    unfold offerAll
    generalize m.checkStop = stop at checked ⊢
    obtain ⟨stopping, m₁⟩ := stop
    cases stopping with
    | true => exact checked ▸ .refl _ _
    | false =>
      dsimp only at checked ⊢
      rw [← checked] at distinct knownRest ⊢
      have ends := offer_passed distinct fuel id
      generalize offer fuel id m₁ = outcome at ends ⊢
      cases outcome with
      | exhausted => trivial
      | failed fault m₂ => exact ends.cons absent knownRest (.refl _ _)
      | done _ m₂ =>
        have passed := ih (ends.distinct distinct) nodup fun later member =>
          Nat.lt_of_lt_of_le (knownRest later member) ends.next
        exact passed.imp (fun _ _ rest => ends.cons absent knownRest rest) fun _ rest => ends.cons absent knownRest rest

end Pass

section Sweep

variable {r r' : Registry}

theorem Registry.sweep_handlers (r : Registry) : r.sweep.handlers.Sublist r.handlers :=
  List.filter_sublist

theorem Registry.retired_sweep {h : Handler} (member : h ∈ r.sweep.handlers) : h.retired = false := by
  simpa using (List.mem_filter.mp member).2

end Sweep

theorem dispatch_passed {fuel : Nat} {event : Event} {m m' : Machine} (distinct : m.handlers.Distinct)
    (left : (dispatch fuel event m).left? = some m') :
    ∃ r, m.handlers.Passed (m.handlers.idsFor event.kind) r ∧ m'.handlers.handlers.Sublist r.handlers ∧
      m'.handlers.nextId = r.nextId := by
  have members : (m.handlers.idsFor event.kind).Sublist m.handlers.ids := List.filter_sublist.map _
  have ends := offerAll_passed (m := m.publish event.params) distinct fuel (distinct.nodup.sublist members)
    fun id member => distinct.below id (members.subset member)
  rw [dispatch_eq] at left
  generalize offerAll fuel (m.handlers.idsFor event.kind) (m.publish event.params) = outcome at ends left
  cases outcome with
  | done _ m₁ =>
    cases left
    exact ⟨m₁.handlers, ends, m₁.handlers.sweep_handlers, rfl⟩
  | failed fault m₁ =>
    cases left
    exact ⟨_, ends, .refl _, rfl⟩
  | exhausted => cases left

theorem fresh_of_dispatch {fuel : Nat} {event : Event} {m m' : Machine} (distinct : m.handlers.Distinct)
    (left : (dispatch fuel event m).left? = some m') {h' : Handler} (member : h' ∈ m'.handlers.handlers)
    (later : m.handlers.nextId ≤ h'.id) : h'.Fresh none := by
  obtain ⟨r, passed, rest, _⟩ := dispatch_passed distinct left
  exact passed.fresh_of_later distinct (rest.subset member) later

theorem retired_of_dispatch {fuel : Nat} {event : Event} {m m' : Machine} (ran : dispatch fuel event m = .done () m')
    {h : Handler} (member : h ∈ m'.handlers.handlers) : h.retired = false := by
  obtain ⟨m₁, _, rfl⟩ := dispatch_done ran
  exact Registry.retired_sweep member

theorem not_mem_idsFor {r : Registry} (distinct : r.Distinct) {kind : EventKind} {h : Handler} (member : h ∈ r.handlers)
    (other : h.kind ≠ kind) : h.id ∉ r.idsFor kind := by
  intro named
  obtain ⟨found, present, same⟩ := List.mem_map.mp named
  obtain ⟨present, wanted⟩ := List.mem_filter.mp present
  rw [distinct.eq_of_id present member same] at wanted
  exact other (by simpa using wanted)

theorem dispatch_resume_points {fuel : Nat} {event : Event} {m m' : Machine} (distinct : m.handlers.Distinct)
    (left : (dispatch fuel event m).left? = some m') :
    (∀ h ∈ m.handlers.handlers, ∀ h' ∈ m'.handlers.handlers, h'.id = h.id → h.kind ≠ event.kind →
      h'.pc = h.pc ∧ h'.wait = h.wait ∧ h'.step = h.step ∧ h'.oneShot = h.oneShot ∧ h'.body = h.body) ∧
    (∀ h ∈ m.handlers.handlers, ∀ h' ∈ m'.handlers.handlers, h'.id = h.id → h.kind = event.kind → 0 < h.wait →
      h'.pc = h.pc ∧ h'.step = h.step ∧ (h'.wait = h.wait ∨ h'.wait = h.wait - 1)) ∧
    (∀ h' ∈ m'.handlers.handlers, m.handlers.nextId ≤ h'.id → h'.pc = 0 ∧ h'.wait = 0 ∧ h'.step = 1) ∧
    (∃ old new : List HandlerId, m'.handlers.ids = old ++ new ∧ old.Sublist m.handlers.ids ∧
      (∀ id ∈ new, m.handlers.nextId ≤ id) ∧ new.Pairwise (· < ·)) ∧
    (dispatch fuel event m = .done () m' → ∀ h' ∈ m'.handlers.handlers, h'.retired = false) := by
  obtain ⟨r, passed, rest, _⟩ := dispatch_passed distinct left
  refine ⟨?_, ?_, ?_, ?_, ?_⟩
  · intro h member h' member' named other
    obtain ⟨same, passed⟩ := passed.of_id distinct member (rest.subset member') named
    obtain ⟨pc, wait, step⟩ := passed.spared (not_mem_idsFor distinct member other)
    exact ⟨pc, wait, step, same.oneShot, same.body⟩
  · intro h member h' member' named _ waits
    exact (passed.of_id distinct member (rest.subset member') named).2.waiting waits
  · intro h' member' later
    have fresh := fresh_of_dispatch distinct left member' later
    exact ⟨fresh.pc, fresh.wait, fresh.step nofun⟩
  · obtain ⟨new, ids, increasing, given⟩ := passed.ids
    have remaining : m'.handlers.ids.Sublist (m.handlers.ids ++ new) := ids ▸ rest.map _
    obtain ⟨old, added, split, fromOld, fromNew⟩ := List.sublist_append_iff.mp remaining
    exact ⟨old, added, split, fromOld, fun id member => (given id (fromNew.subset member)).1, increasing.sublist fromNew⟩
  · intro ran h' member'
    exact retired_of_dispatch ran member'

def crowded : Machine where
  settings := {}
  main := []
  file := none
  functions := []
  builtins := []
  audio := .silent {}
  random := { state := 0 }
  handlers :=
    { handlers :=
        [{ id := 1, kind := .time, body := [.mk .onEvent [.int 0, .block []] none] },
         { id := 2, kind := .time, body := [], wait := 3 }, { id := 3, kind := .user, body := [], wait := 2 }]
      nextId := 4 }

theorem crowded_resume_points : ∃ m', dispatch 2 { kind := .time } crowded = .done () m' ∧ m'.handlers.ids = [1, 2, 3, 4] ∧
    ∀ h ∈ crowded.handlers.handlers, ∀ h' ∈ m'.handlers.handlers, h'.id = h.id → h.kind = .time → 0 < h.wait →
      h'.pc = h.pc ∧ h'.step = h.step ∧ (h'.wait = h.wait ∨ h'.wait = h.wait - 1) := by
  have distinct : crowded.handlers.Distinct := ⟨by decide, by decide⟩
  have ran : dispatch 2 { kind := .time } crowded = .done () _ := rfl
  have left := congrArg Outcome.left? ran
  exact ⟨_, ran, rfl, (dispatch_resume_points distinct left).2.1⟩

end CueScript
