import CueScript.Proofs.Handler.Registry
import CueScript.Proofs.Machine.Dispatch

set_option autoImplicit false

namespace CueScript

/-- The same handler later on: what never changes, and that a retired handler stays so. -/
structure Handler.Same (h h' : Handler) : Prop where
  id : h'.id = h.id
  kind : h'.kind = h.kind
  body : h'.body = h.body
  oneShot : h'.oneShot = h.oneShot
  retired : h.retired = true → h'.retired = true

namespace Handler.Same

variable {h h' h'' : Handler}

theorem refl (h : Handler) : h.Same h :=
  ⟨rfl, rfl, rfl, rfl, fun retired => retired⟩

theorem trans (first : h.Same h') (rest : h'.Same h'') : h.Same h'' where
  id := rest.id.trans first.id
  kind := rest.kind.trans first.kind
  body := rest.body.trans first.body
  oneShot := rest.oneShot.trans first.oneShot
  retired gone := rest.retired (first.retired gone)

theorem steered (steered : h.Steered h') : h.Same h' := by
  cases steered with
  | kept => exact refl h
  | retired => exact ⟨rfl, rfl, rfl, rfl, fun _ => rfl⟩
  | frozen => exact ⟨rfl, rfl, rfl, rfl, fun retired => retired⟩
  | activated =>
    unfold Handler.activate
    split
    next => exact refl h
    next => exact ⟨rfl, rfl, rfl, rfl, fun retired => retired⟩

theorem poll (h : Handler) : h.Same h.poll.2 := by
  unfold Handler.poll
  split
  · exact refl h
  · split
    · exact ⟨rfl, rfl, rfl, rfl, fun retired => retired⟩
    · exact refl h

theorem finish (h : Handler) (outcome : RunOutcome) : h.Same (h.finish outcome) := by
  cases outcome with
  | suspended => exact ⟨rfl, rfl, rfl, rfl, fun retired => retired⟩
  | completed =>
    unfold Handler.finish
    dsimp only
    split
    · exact steered .retired
    · exact ⟨rfl, rfl, rfl, rfl, fun retired => retired⟩

end Handler.Same

section Steered

variable {h' : Handler} {handlers handlers' : List Handler}

theorem ids_of_steered (each : List.Forall₂ Handler.Steered handlers handlers') :
    handlers'.map (·.id) = handlers.map (·.id) := by
  induction each with
  | nil => rfl
  | cons steered _ ih => simp [(Handler.Same.steered steered).id, ih]

theorem source_of_steered (each : List.Forall₂ Handler.Steered handlers handlers') (member : h' ∈ handlers') :
    ∃ h ∈ handlers, h.Steered h' := by
  induction each with
  | nil => cases member
  | cons steered _ ih =>
    rcases List.mem_cons.mp member with rfl | member
    · exact ⟨_, by simp, steered⟩
    · obtain ⟨h, present, steered⟩ := ih member
      exact ⟨h, by simp [present], steered⟩

end Steered

/-- How the registry may look later on: the handlers that were there, in their places, each related to what it was, and
then new ones, in the order they were registered. -/
structure Registry.Evolves (kept : Handler → Handler → Prop) (fresh : Handler → Prop) (r r' : Registry) : Prop where
  ids : ∃ new : List HandlerId, r'.ids = r.ids ++ new ∧ new.Pairwise (· < ·) ∧
    ∀ id ∈ new, r.nextId ≤ id ∧ id < r'.nextId
  next : r.nextId ≤ r'.nextId
  each : ∀ h' ∈ r'.handlers,
    (∃ h ∈ r.handlers, h.Same h' ∧ kept h h') ∨ (r.nextId ≤ h'.id ∧ fresh h')

namespace Registry.Evolves

variable {kept kept₁ kept₂ : Handler → Handler → Prop} {fresh fresh₁ fresh₂ : Handler → Prop} {r r' r'' : Registry}

theorem distinct (evolves : Evolves kept fresh r r') (distinct : r.Distinct) : r'.Distinct := by
  obtain ⟨new, ids, increasing, given⟩ := evolves.ids
  constructor
  next =>
    rw [ids, List.nodup_append]
    refine ⟨distinct.nodup, increasing.imp fun less => Nat.ne_of_lt less, ?_⟩
    intro old member id present
    exact Nat.ne_of_lt (Nat.lt_of_lt_of_le (distinct.below old member) (given id present).1)
  next =>
    rw [ids]
    intro id member
    rcases List.mem_append.mp member with old | present
    · exact Nat.lt_of_lt_of_le (distinct.below id old) evolves.next
    · exact (given id present).2

theorem of_id (evolves : Evolves kept fresh r r') (distinct : r.Distinct) {h h' : Handler} (member : h ∈ r.handlers)
    (member' : h' ∈ r'.handlers) (named : h'.id = h.id) : h.Same h' ∧ kept h h' := by
  rcases evolves.each h' member' with ⟨old, present, same, kept⟩ | ⟨later, _⟩
  · rw [distinct.eq_of_id member present (named.symm.trans same.id)]
    exact ⟨same, kept⟩
  · -- An identity that was given out before is not given out again.
    exact absurd (named ▸ later) (distinct.not_later member)

theorem fresh_of_later (evolves : Evolves kept fresh r r') (distinct : r.Distinct) {h' : Handler}
    (member : h' ∈ r'.handlers) (later : r.nextId ≤ h'.id) : fresh h' := by
  rcases evolves.each h' member with ⟨h, present, same, _⟩ | ⟨_, new⟩
  · exact absurd (same.id ▸ later) (distinct.not_later present)
  · exact new

theorem of_ids (ids : r'.ids = r.ids) (next : r'.nextId = r.nextId)
    (each : ∀ h' ∈ r'.handlers, ∃ h ∈ r.handlers, h.Same h' ∧ kept h h') : Evolves kept fresh r r' where
  ids := ⟨[], by rw [ids, List.append_nil], List.Pairwise.nil, fun id member => by cases member⟩
  next := Nat.le_of_eq next.symm
  each h' member := .inl (each h' member)

theorem trans (first : Evolves kept₁ fresh₁ r r') (rest : Evolves kept₂ fresh₂ r' r'')
    (joins : ∀ a b c, a ∈ r.handlers → a.Same b → kept₁ a b → kept₂ b c → kept a c)
    (lasts : ∀ a b, r.nextId ≤ a.id → a.Same b → fresh₁ a → kept₂ a b → fresh b)
    (comes : ∀ a, r'.nextId ≤ a.id → fresh₂ a → fresh a) : Evolves kept fresh r r'' := by
  obtain ⟨new, ids, increasing, given⟩ := first.ids
  obtain ⟨more, ids', increasing', given'⟩ := rest.ids
  refine ⟨⟨new ++ more, ?_, ?_, ?_⟩, Nat.le_trans first.next rest.next, ?_⟩
  · rw [ids', ids, List.append_assoc]
  · refine List.pairwise_append.mpr ⟨increasing, increasing', fun id member later present => ?_⟩
    exact Nat.lt_of_lt_of_le (given id member).2 (given' later present).1
  · intro id member
    rcases List.mem_append.mp member with old | present
    · exact ⟨(given id old).1, Nat.lt_of_lt_of_le (given id old).2 rest.next⟩
    · exact ⟨Nat.le_trans first.next (given' id present).1, (given' id present).2⟩
  · intro h'' member
    rcases rest.each h'' member with ⟨h', present, same', kept'⟩ | ⟨later, new⟩
    · rcases first.each h' present with ⟨h, old, same, before⟩ | ⟨later, new⟩
      · exact .inl ⟨h, old, same.trans same', joins h h' h'' old same before kept'⟩
      · exact .inr ⟨same'.id ▸ later, lasts h' h'' later same' new kept'⟩
    · exact .inr ⟨Nat.le_trans first.next later, comes h'' later new⟩

theorem imp (evolves : Evolves kept₁ fresh₁ r r') (weaker : ∀ a ∈ r.handlers, ∀ b, kept₁ a b → kept a b)
    (weakerFresh : ∀ a, fresh₁ a → fresh a) : Evolves kept fresh r r' := by
  refine ⟨evolves.ids, evolves.next, fun h' member => ?_⟩
  rcases evolves.each h' member with ⟨h, present, same, before⟩ | ⟨later, new⟩
  · exact .inl ⟨h, present, same, weaker h present h' before⟩
  · exact .inr ⟨later, weakerFresh h' new⟩

theorem modify (distinct : r.Distinct) {change : Handler → Handler} (same : ∀ h : Handler, h.Same (change h)) (id : HandlerId) :
    Evolves (fun h h' => (h.id = id → h' = change h) ∧ (h.id ≠ id → h' = h)) fresh r (r.modify id change) := by
  refine of_ids (ids_modify (fun h => (same h).id) id) rfl fun h' member => ?_
  rcases distinct.mem_modify member with ⟨old, other⟩ | ⟨h, present, named, rfl⟩
  · exact ⟨h', old, .refl h', fun named => absurd named other, fun _ => rfl⟩
  · exact ⟨h, present, same h, fun _ => rfl, fun other => absurd named other⟩

end Registry.Evolves

/-- Where a handler resumes stays while the handler `current` runs, and so does its step unless it is that handler. -/
structure Handler.Kept (current : Option HandlerId) (h h' : Handler) : Prop where
  pc : h'.pc = h.pc
  wait : h'.wait = h.wait
  step : some h.id ≠ current → h'.step = h.step

structure Handler.Fresh (current : Option HandlerId) (h : Handler) : Prop where
  pc : h.pc = 0
  wait : h.wait = 0
  step : some h.id ≠ current → h.step = 1

theorem Handler.Kept.refl {current : Option HandlerId} (h : Handler) : h.Kept current h :=
  ⟨rfl, rfl, fun _ => rfl⟩

abbrev Registry.Grown (current : Option HandlerId) : Registry → Registry → Prop :=
  Registry.Evolves (Handler.Kept current) (Handler.Fresh current)

namespace Registry.Grown

variable {current : Option HandlerId} {r r' r'' : Registry}

theorem refl (r : Registry) : Grown current r r :=
  .of_ids rfl rfl fun h member => ⟨h, member, .refl h, .refl h⟩

theorem trans (first : Grown current r r') (rest : Grown current r' r'') : Grown current r r'' := by
  refine Evolves.trans first rest ?_ ?_ fun h _ fresh => fresh
  · rintro a b c - same ⟨pc, wait, step⟩ ⟨pc', wait', step'⟩
    exact ⟨pc'.trans pc, wait'.trans wait, fun other => (step' (same.id ▸ other)).trans (step other)⟩
  · rintro a b - same ⟨pc, wait, step⟩ ⟨pc', wait', step'⟩
    exact ⟨pc'.trans pc, wait'.trans wait, fun other => (step' (same.id ▸ other)).trans (step (same.id ▸ other))⟩

theorem register (r : Registry) (kind : EventKind) (body : Block) : Grown current r (r.register kind body).2 where
  ids := ⟨[r.nextId], by simp [Registry.register, Registry.ids], List.pairwise_singleton _ _, fun id member => by
    rw [List.mem_singleton.mp member]
    exact ⟨Nat.le_refl _, Nat.lt_succ_self _⟩⟩
  next := Nat.le_succ _
  each h' member := by
    rcases List.mem_append.mp member with old | new
    · exact .inl ⟨h', old, .refl h', .refl h'⟩
    · rw [List.mem_singleton.mp new]
      exact .inr ⟨Nat.le_refl _, rfl, rfl, fun _ => rfl⟩

theorem steered {handlers : List Handler} (each : List.Forall₂ Handler.Steered r.handlers handlers) :
    Grown current r { r with handlers } := by
  refine .of_ids (ids_of_steered each) rfl fun h' member => ?_
  obtain ⟨h, present, steered⟩ := source_of_steered each member
  refine ⟨h, present, .steered steered, ?_⟩
  cases steered with
  | kept | retired | frozen => exact ⟨rfl, rfl, fun _ => rfl⟩
  | activated =>
    unfold Handler.activate
    split <;> exact ⟨rfl, rfl, fun _ => rfl⟩

theorem setStep (distinct : r.Distinct) {id : HandlerId} (running : current = some id) (perUnit : Int64) :
    Grown current r (r.modify id (·.setStep perUnit)) := by
  have same (h : Handler) : h.Same (h.setStep perUnit) := ⟨rfl, rfl, rfl, rfl, fun retired => retired⟩
  refine (Evolves.modify distinct same id).imp (fun h _ h' changed => ?_) fun h fresh => fresh
  by_cases named : h.id = id
  next =>
    -- A step that is set is the running handler's own.
    rw [changed.1 named]
    exact ⟨rfl, rfl, fun other => absurd (by rw [running, named]) other⟩
  next =>
    rw [changed.2 named]
    exact .refl h

end Registry.Grown

theorem Effects.fixed {m m' : Machine} (effects : Effects m m') : m'.current = m.current ∧ m'.main = m.main := by
  induction effects with
  | refl | report | note | putVariables | putStore | putFiles | putRandom | putAudio | post | stop | settle | register | steer =>
    exact ⟨rfl, rfl⟩
  | trans _ _ first rest => exact ⟨rest.1.trans first.1, rest.2.trans first.2⟩
  | setStep m perUnit =>
    unfold Machine.setStep
    split <;> exact ⟨rfl, rfl⟩
  | pend _ _ _ _ later => exact later
  | call frame _ inside => exact inside

theorem Effects.grown {m m' : Machine} (effects : Effects m m') (distinct : m.handlers.Distinct) :
    m.handlers.Grown m.current m'.handlers := by
  induction effects with
  | refl | report | note | putVariables | putStore | putFiles | putRandom | putAudio | post | stop | settle => exact .refl _
  | trans first rest before after =>
    have grown := before distinct
    exact grown.trans (first.fixed.1 ▸ after (grown.distinct distinct))
  | register m kind body => exact .register m.handlers kind body
  | setStep m perUnit =>
    unfold Machine.setStep
    split
    next h running =>
      obtain ⟨id, current, found⟩ := Option.bind_eq_some_iff.mp running
      have named := (Registry.mem_of_get? found).2
      exact .setStep distinct (by rw [named, current]) perUnit
    next => exact .refl _
  | steer m handlers each => exact .steered each
  | pend _ _ _ _ later => exact later distinct
  | call frame _ inside => exact inside distinct

end CueScript
