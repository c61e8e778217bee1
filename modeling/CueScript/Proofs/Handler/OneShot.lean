import CueScript.Proofs.Handler.History

set_option autoImplicit false

namespace CueScript

def RunOutcome.resume? : RunOutcome → Option Nat
  | .suspended pc _ => some pc
  | .completed => none

/-- Runs of a one-shot handler that follow one another without a gap, from one place in its block to another. There is no
place to go on at once it is through. -/
inductive Covers (body : Block) : Option Nat → List Stretch → Option Nat → Prop
  | nil (place : Option Nat) : Covers body place [] place
  | cons {s : Stretch} {rest : List Stretch} {pc : Nat} {last : Option Nat} (same : s.handler.body = body)
    (oneShot : s.handler.oneShot = true)
    (executed : s.outcome.Executed pc (pc + (body.length - pc)) s.executed)
    (after : Covers body s.outcome.resume? rest last) : Covers body (some pc) (s :: rest) last

namespace Covers

variable {body : Block} {first next last : Option Nat} {runs more : List Stretch}

theorem append (before : Covers body first runs next) (after : Covers body next more last) :
    Covers body first (runs ++ more) last := by
  induction before with
  | nil => exact after
  | cons same oneShot executed _ ih => exact .cons same oneShot executed (ih after)

theorem of_none (covers : Covers body none runs last) : runs = [] ∧ last = none := by
  cases covers
  exact ⟨rfl, rfl⟩

theorem none_of_completed (covers : Covers body first runs last) {s : Stretch} (member : s ∈ runs)
    (completed : s.outcome = .completed) : last = none := by
  induction covers with
  | nil => cases member
  | cons _ _ _ after ih =>
    rcases List.mem_cons.mp member with rfl | later
    · rw [completed] at after
      exact after.of_none.2
    · exact ih later

theorem of_mem (covers : Covers body first runs last) {s : Stretch} (member : s ∈ runs) :
    s.handler.body = body ∧ s.handler.oneShot = true := by
  induction covers with
  | nil => cases member
  | cons same oneShot _ _ ih =>
    rcases List.mem_cons.mp member with rfl | later
    · exact ⟨same, oneShot⟩
    · exact ih later

end Covers

structure Registry.Knows (h : Handler) (r : Registry) : Prop where
  given : h.id < r.nextId
  same : ∀ h' ∈ r.handlers, h'.id = h.id → h.Same h'

/-- It is to go on at a place, or it is retired if there is none. -/
def Handler.At (h : Handler) : Option Nat → Prop
  | some pc => h.pc = pc
  | none => h.retired = true

structure Registry.Tracks (h : Handler) (place : Option Nat) (r : Registry) : Prop extends r.Knows h where
  stays : ∀ h' ∈ r.handlers, h'.id = h.id → h'.At place

section Evolution

variable {kept : Handler → Handler → Prop} {fresh : Handler → Prop} {r r' : Registry} {h : Handler}

theorem Registry.Knows.source (knows : r.Knows h) (evolves : r.Evolves kept fresh r') {h' : Handler}
    (member : h' ∈ r'.handlers) (named : h'.id = h.id) : ∃ old ∈ r.handlers, old.id = h.id ∧ old.Same h' ∧ kept old h' := by
  rcases evolves.each h' member with ⟨old, present, same, kept⟩ | ⟨later, _⟩
  · exact ⟨old, present, same.id.symm.trans named, same, kept⟩
  · rw [named] at later
    exact absurd knows.given (Nat.not_lt.mpr later)

theorem Registry.Knows.evolves (knows : r.Knows h) (evolves : r.Evolves kept fresh r') : r'.Knows h := by
  refine ⟨Nat.lt_of_lt_of_le knows.given evolves.next, fun h' member named => ?_⟩
  obtain ⟨old, present, called, same, _⟩ := knows.source evolves member named
  exact (knows.same old present called).trans same

theorem Registry.Tracks.evolves {place : Option Nat} (tracks : r.Tracks h place) (evolves : r.Evolves kept fresh r')
    (steady : ∀ a ∈ r.handlers, ∀ b, a.id = h.id → kept a b → b.pc = a.pc) : r'.Tracks h place := by
  refine ⟨tracks.toKnows.evolves evolves, fun h' member named => ?_⟩
  obtain ⟨old, present, called, same, kept⟩ := tracks.source evolves member named
  have before := tracks.stays old present called
  cases place with
  | some pc => exact (steady old present h' called kept).trans before
  | none => exact same.retired before

theorem Registry.Knows.sublist (knows : r.Knows h) (next : r'.nextId = r.nextId)
    (rest : r'.handlers.Sublist r.handlers) : r'.Knows h :=
  ⟨next ▸ knows.given, fun h' member => knows.same h' (rest.subset member)⟩

end Evolution

theorem runsOf_append (id : HandlerId) (runs more : List Stretch) :
    runsOf id (runs ++ more) = runsOf id runs ++ runsOf id more :=
  List.filter_append _ _

theorem mem_runsOf {id : HandlerId} {runs : List Stretch} {s : Stretch} :
    s ∈ runsOf id runs ↔ s ∈ runs ∧ s.handler.id = id := by
  simp [runsOf]

theorem runsOf_own {id : HandlerId} {s : Stretch} (own : s.handler.id = id) : runsOf id [s] = [s] := by
  simp [runsOf, own]

theorem runsOf_other {id : HandlerId} {s : Stretch} (other : s.handler.id ≠ id) : runsOf id [s] = [] := by
  simp [runsOf, other]

section Offering

variable {fuel : Nat} {id : HandlerId} {m m' : Machine} {h : Handler} {place : Option Nat}

theorem passed_of_offer (distinct : m.handlers.Distinct) (ran : offer fuel id m = .done () m') :
    m.handlers.Passed [id] m'.handlers := by
  have ends := offer_passed distinct fuel id
  rw [ran] at ends
  exact ends

theorem Handler.pc_poll (h : Handler) : h.poll.2.pc = h.pc := by
  unfold Handler.poll
  split
  · rfl
  · split <;> rfl

theorem Handler.at_finish {outcome : RunOutcome} (oneShot : h.oneShot = true) : (h.finish outcome).At outcome.resume? := by
  cases outcome with
  | suspended => rfl
  | completed => simp [Handler.finish, Handler.At, RunOutcome.resume?, Handler.retire, oneShot]

theorem Registry.Tracks.spared (tracks : m.handlers.Tracks h place) (distinct : m.handlers.Distinct)
    (other : h.id ≠ id) (ran : offer fuel id m = .done () m') : m'.handlers.Tracks h place := by
  refine tracks.evolves (passed_of_offer distinct ran) fun a _ b named passed => ?_
  exact (passed.spared (by rw [named]; simpa using other)).1

theorem Registry.Tracks.offer (tracks : m.handlers.Tracks h place) (oneShot : h.oneShot = true)
    (distinct : m.handlers.Distinct) (ran : offer fuel id m = .done () m') :
    ∃ next, Covers h.body place (runsOf h.id (stretch? fuel id m).toList) next ∧ m'.handlers.Tracks h next := by
  have offered := offer_offered fuel id m
  have later := tracks.toKnows.evolves (passed_of_offer distinct ran)
  rw [ran] at offered
  cases offered with
  | passed idle =>
    rw [stretch_of_idle idle]
    exact ⟨place, .nil place, tracks⟩
  | @waited waiting found waits =>
    have idle (other : Handler) (present : m.handlers.get? id = some other) : ¬ other.Ready := by
      intro ready
      rw [Option.some.inj (present.symm.trans found)] at ready
      exact ready.2.2 waits
    rw [stretch_of_idle idle]
    have polled : m.handlers.Evolves _ (Handler.Fresh none) (m.handlers.modify id (·.poll.2)) :=
      .modify distinct Handler.Same.poll id
    refine ⟨place, .nil place, tracks.evolves polled fun a _ b _ changed => ?_⟩
    by_cases named : a.id = id
    · rw [changed.1 named, a.pc_poll]
    · rw [changed.2 named]
  | @ran own m₁ outcome found ready run =>
    obtain ⟨member, called⟩ := Registry.mem_of_get? found
    rw [stretch_of_ready found ready run, Option.toList_some]
    by_cases named : h.id = id
    next =>
      have same := tracks.same own member (called.trans named.symm)
      have stays := tracks.stays own member (called.trans named.symm)
      -- A handler that is through is retired, and a retired one is not ready.
      cases place with
      | none => exact absurd (stays.symm.trans ready.2.1) nofun
      | some pc =>
        obtain rfl : own.pc = pc := stays
        rw [runsOf_own (same.id)]
        refine ⟨outcome.resume?, ?_, later, fun h' member' named' => ?_⟩
        · have executed := runNoting_executed fuel own.pc (own.body.drop own.pc) (m.enterHandler id)
          have length : (own.body.drop own.pc).length = h.body.length - own.pc := by rw [List.length_drop, same.body]
          rw [runNoting_outcome, ← runBody, run, length] at executed
          exact .cons same.body (same.oneShot.trans oneShot) executed (.nil _)
        · -- The handler at the end of its run is still one-shot, so it takes note of the end as such.
          have ends := runFrom_effects fuel own.pc (own.body.drop own.pc) (m.enterHandler id)
          rw [← runBody, run] at ends
          have passed := ends.1.passed distinct found ready
          rcases (passed.distinct distinct).mem_modify member' with ⟨_, other⟩ | ⟨old, present, called', rfl⟩
          · exact absurd (named'.trans named) other
          · have known := (tracks.toKnows.evolves passed).same old present (called'.trans named.symm)
            exact Handler.at_finish (known.oneShot.trans oneShot)
    next =>
      rw [runsOf_other (fun same => named (same.symm.trans called))]
      exact ⟨place, .nil place, tracks.spared distinct named ran⟩

end Offering

section Dispatching

variable {fuel : Nat} {m m' : Machine} {h : Handler} {place : Option Nat}

theorem Registry.Tracks.checkStop (tracks : m.handlers.Tracks h place) : m.checkStop.2.handlers.Tracks h place :=
  handlers_checkStop m ▸ tracks

theorem stretches_cons {id : HandlerId} {rest : List HandlerId} (ran : offerAll fuel (id :: rest) m = .done () m') :
    (m' = m.checkStop.2 ∧ stretches fuel (id :: rest) m = []) ∨
    ∃ m₁, offer fuel id m.checkStop.2 = .done () m₁ ∧ offerAll fuel rest m₁ = .done () m' ∧
      stretches fuel (id :: rest) m = (stretch? fuel id m.checkStop.2).toList ++ stretches fuel rest m₁ := by
  unfold offerAll at ran
  simp only [stretches]
  generalize m.checkStop = stop at ran ⊢
  obtain ⟨stopping, m₀⟩ := stop
  cases stopping with
  | true =>
    cases ran
    exact .inl ⟨rfl, rfl⟩
  | false =>
    dsimp only at ran ⊢
    generalize offer fuel id m₀ = outcome at ran ⊢
    cases outcome with
    | done _ m₁ => exact .inr ⟨m₁, rfl, ran, rfl⟩
    | failed | exhausted => cases ran

theorem Registry.Tracks.offerAll {ids : List HandlerId} (tracks : m.handlers.Tracks h place) (oneShot : h.oneShot = true)
    (distinct : m.handlers.Distinct) (ran : offerAll fuel ids m = .done () m') :
    ∃ next, Covers h.body place (runsOf h.id (stretches fuel ids m)) next ∧ m'.handlers.Tracks h next := by
  induction ids generalizing m place with
  | nil =>
    cases ran
    exact ⟨place, .nil place, tracks⟩
  | cons id rest ih =>
    have tracks₀ := tracks.checkStop
    have distinct₀ : m.checkStop.2.handlers.Distinct := handlers_checkStop m ▸ distinct
    rcases stretches_cons ran with ⟨rfl, none⟩ | ⟨m₁, offered, ran, runs⟩
    · rw [none]
      exact ⟨place, .nil place, tracks₀⟩
    · obtain ⟨next, covers, tracks₁⟩ := tracks₀.offer oneShot distinct₀ offered
      have distinct₁ := (passed_of_offer distinct₀ offered).distinct distinct₀
      obtain ⟨last, covers', tracks'⟩ := ih tracks₁ distinct₁ ran
      rw [runs, runsOf_append]
      exact ⟨last, covers.append covers', tracks'⟩

theorem Registry.Knows.stretches {ids : List HandlerId} (knows : m.handlers.Knows h) (distinct : m.handlers.Distinct)
    (ran : CueScript.offerAll fuel ids m = .done () m') {s : Stretch} (member : s ∈ stretches fuel ids m)
    (named : s.handler.id = h.id) : h.Same s.handler := by
  induction ids generalizing m with
  | nil => cases member
  | cons id rest ih =>
    have knows₀ : m.checkStop.2.handlers.Knows h := handlers_checkStop m ▸ knows
    have distinct₀ : m.checkStop.2.handlers.Distinct := handlers_checkStop m ▸ distinct
    rcases stretches_cons ran with ⟨_, none⟩ | ⟨m₁, offered, ran, runs⟩
    · rw [none] at member
      cases member
    · rw [runs] at member
      have passed := passed_of_offer distinct₀ offered
      rcases List.mem_append.mp member with first | later
      · exact knows₀.same s.handler (handler_of_stretch (Option.mem_toList.mp first)).1 named
      · exact ih (knows₀.evolves passed) (passed.distinct distinct₀) ran later

theorem id_of_stretches {ids : List HandlerId} (ran : CueScript.offerAll fuel ids m = .done () m') {s : Stretch}
    (member : s ∈ stretches fuel ids m) : s.handler.id ∈ ids := by
  induction ids generalizing m with
  | nil => cases member
  | cons id rest ih =>
    rcases stretches_cons ran with ⟨_, none⟩ | ⟨m₁, _, ran, runs⟩
    · rw [none] at member
      cases member
    · rw [runs] at member
      rcases List.mem_append.mp member with first | later
      · rw [(handler_of_stretch (Option.mem_toList.mp first)).2]
        exact List.mem_cons_self
      · exact List.mem_cons_of_mem id (ih ran later)

theorem distinct_dispatch {event : Event} (distinct : m.handlers.Distinct) (ran : dispatch fuel event m = .done () m') :
    m'.handlers.Distinct := by
  obtain ⟨r, passed, rest, next⟩ := dispatch_passed distinct (congrArg Outcome.left? ran)
  exact (passed.distinct distinct).sublist rest next

theorem Registry.Knows.dispatch {event : Event} (knows : m.handlers.Knows h) (distinct : m.handlers.Distinct)
    (ran : dispatch fuel event m = .done () m') : m'.handlers.Knows h := by
  obtain ⟨r, passed, rest, next⟩ := dispatch_passed distinct (congrArg Outcome.left? ran)
  exact (knows.evolves passed).sublist next rest

theorem Registry.Tracks.dispatch {event : Event} (tracks : m.handlers.Tracks h place) (oneShot : h.oneShot = true)
    (distinct : m.handlers.Distinct) (ran : dispatch fuel event m = .done () m') :
    ∃ next, Covers h.body place (runsOf h.id (dispatchStretches fuel event m)) next ∧ m'.handlers.Tracks h next ∧
      (next = none → h.id ∉ m'.handlers.ids) := by
  obtain ⟨m₁, offered, rfl⟩ := dispatch_done ran
  obtain ⟨next, covers, tracks₁⟩ := Tracks.offerAll (m := m.publish event.params) tracks oneShot distinct offered
  have rest := m₁.handlers.sweep_handlers
  have stays (h' : Handler) (member : h' ∈ m₁.sweep.handlers.handlers) := tracks₁.stays h' (rest.subset member)
  refine ⟨next, covers, ⟨tracks₁.toKnows.sublist rfl rest, stays⟩, ?_⟩
  -- A handler that is through is retired, and the retired ones are gone.
  rintro rfl named
  obtain ⟨h', member, same⟩ := List.mem_map.mp named
  exact absurd ((stays h' member same).symm.trans (retired_of_dispatch ran member)) nofun

end Dispatching

section Sequences

variable {fuel : Nat} {m m' : Machine} {events : List Event} {h : Handler} {place : Option Nat}

theorem history_cons {event : Event} {rest : List Event} (ran : dispatchAll fuel (event :: rest) m = .done () m') :
    ∃ m₁, dispatch fuel event m = .done () m₁ ∧ dispatchAll fuel rest m₁ = .done () m' ∧
      history fuel (event :: rest) m = dispatchStretches fuel event m ++ history fuel rest m₁ := by
  obtain ⟨m₁, first, later⟩ := dispatchAll_cons.mp ran
  exact ⟨m₁, first, later, by simp only [history, first]⟩

def Followed (h : Handler) (place : Option Nat) (runs : List Stretch) (r : Registry) : Prop :=
  ∃ last, Covers h.body place (runsOf h.id runs) last ∧ r.Tracks h last ∧ (last = none → h.id ∉ r.ids)

theorem Registry.Tracks.history (tracks : m.handlers.Tracks h place) (absent : place = none → h.id ∉ m.handlers.ids)
    (oneShot : h.oneShot = true) (distinct : m.handlers.Distinct) (ran : dispatchAll fuel events m = .done () m') :
    Followed h place (history fuel events m) m'.handlers := by
  induction events generalizing m place with
  | nil =>
    cases ran
    exact ⟨place, .nil place, tracks, absent⟩
  | cons event rest ih =>
    obtain ⟨m₁, first, later, runs⟩ := history_cons ran
    obtain ⟨next, covers, tracks₁, absent₁⟩ := tracks.dispatch oneShot distinct first
    obtain ⟨last, covers', followed⟩ := ih tracks₁ absent₁ (distinct_dispatch distinct first) later
    rw [runs]
    exact ⟨last, by rw [runsOf_append]; exact covers.append covers', followed⟩

theorem Registry.Knows.history (knows : m.handlers.Knows h) (distinct : m.handlers.Distinct)
    (ran : dispatchAll fuel events m = .done () m') {s : Stretch} (member : s ∈ history fuel events m)
    (named : s.handler.id = h.id) : h.Same s.handler := by
  induction events generalizing m with
  | nil => cases member
  | cons event rest ih =>
    obtain ⟨m₁, first, later, runs⟩ := history_cons ran
    rw [runs] at member
    rcases List.mem_append.mp member with now | after
    · obtain ⟨m₀, offered, _⟩ := dispatch_done first
      exact Knows.stretches (m := m.publish event.params) knows distinct offered now named
    · exact ih (knows.dispatch distinct first) (distinct_dispatch distinct first) later after

theorem Registry.tracks_of_mem {r : Registry} (distinct : r.Distinct) (member : h ∈ r.handlers) :
    r.Tracks h (some h.pc) := by
  refine ⟨⟨distinct.below h.id (mem_ids member), fun h' present named => ?_⟩, fun h' present named => ?_⟩ <;>
    obtain rfl := distinct.eq_of_id present member named
  · exact .refl h'
  · rfl

theorem followed_of_new (distinct : m.handlers.Distinct) (ran : dispatchAll fuel events m = .done () m') {s : Stretch}
    (member : s ∈ history fuel events m) (new : m.handlers.nextId ≤ s.handler.id) (oneShot : s.handler.oneShot = true) :
    ∃ h : Handler, h.id = s.handler.id ∧ h.body = s.handler.body ∧ h.oneShot = true ∧
      Followed h (some 0) (history fuel events m) m'.handlers := by
  induction events generalizing m with
  | nil => cases member
  | cons event rest ih =>
    obtain ⟨m₁, first, later, runs⟩ := history_cons ran
    have distinct₁ := distinct_dispatch distinct first
    -- Whoever the first event is offered to was there before.
    have before (t : Stretch) (now : t ∈ dispatchStretches fuel event m) : t.handler.id ≠ s.handler.id := by
      intro same
      obtain ⟨m₀, offered, _⟩ := dispatch_done first
      obtain ⟨h, present, named⟩ := List.mem_map.mp (id_of_stretches offered now)
      have given := distinct.below h.id (Registry.mem_ids (List.mem_filter.mp present).1)
      rw [named, same] at given
      exact absurd given (Nat.not_lt.mpr new)
    have noRuns : runsOf s.handler.id (dispatchStretches fuel event m) = [] := by
      simpa [runsOf] using before
    have after : s ∈ history fuel rest m₁ := by
      rw [runs] at member
      exact (List.mem_append.mp member).resolve_left fun now => before s now rfl
    have onward (h : Handler) (named : h.id = s.handler.id) :
        runsOf h.id (history fuel (event :: rest) m) = runsOf h.id (history fuel rest m₁) := by
      rw [runs, runsOf_append, named, noRuns, List.nil_append]
    -- It is registered by a later event or by the first one, and then it has not run yet.
    by_cases given : m₁.handlers.nextId ≤ s.handler.id
    next =>
      obtain ⟨h, named, body, single, last, covers, followed⟩ := ih distinct₁ later after given
      exact ⟨h, named, body, single, last, onward h named ▸ covers, followed⟩
    next =>
      by_cases present : ∃ h ∈ m₁.handlers.handlers, h.id = s.handler.id
      next =>
        obtain ⟨h, present, named⟩ := present
        have tracks := Registry.tracks_of_mem distinct₁ present
        have same := tracks.toKnows.history distinct₁ later after named.symm
        have single : h.oneShot = true := same.oneShot.symm.trans oneShot
        have fresh := fresh_of_dispatch distinct (congrArg Outcome.left? first) present (named ▸ new)
        rw [fresh.pc] at tracks
        obtain ⟨last, covers, followed⟩ := tracks.history nofun single distinct₁ later
        exact ⟨h, named, same.body.symm, single, last, onward h named ▸ covers, followed⟩
      next =>
        -- It was registered and removed by the first event, so it never ran.
        have missing (h : Handler) (member : h ∈ m₁.handlers.handlers) : h.id ≠ s.handler.id :=
          fun named => present ⟨h, member, named⟩
        have gone : m₁.handlers.Tracks s.handler none :=
          ⟨⟨Nat.not_le.mp given, fun h member named => absurd named (missing h member)⟩,
            fun h member named => absurd named (missing h member)⟩
        have absent : s.handler.id ∉ m₁.handlers.ids := by
          rintro named
          obtain ⟨h, member, same⟩ := List.mem_map.mp named
          exact missing h member same
        obtain ⟨last, covers, _⟩ := gone.history (fun _ => absent) oneShot distinct₁ later
        have listed : s ∈ runsOf s.handler.id (history fuel rest m₁) := mem_runsOf.mpr ⟨after, rfl⟩
        rw [covers.of_none.1] at listed
        cases listed

theorem history_append {before : List Event} {mid : Machine} (after : List Event)
    (first : dispatchAll fuel before m = .done () mid) :
    dispatchAll fuel (before ++ after) m = dispatchAll fuel after mid ∧
      history fuel (before ++ after) m = history fuel before m ++ history fuel after mid := by
  induction before generalizing m with
  | nil =>
    cases first
    exact ⟨rfl, rfl⟩
  | cons event rest ih =>
    obtain ⟨m₁, now, later, runs⟩ := history_cons first
    obtain ⟨ran, history⟩ := ih later
    simp only [List.cons_append, runs, List.append_assoc, ← history, ← ran]
    constructor
    · simp only [dispatchAll, bind, Run.bind, now]
    · simp only [CueScript.history, now]

/-- The runs of a one-shot handler, first those before a state of the machine and then those after it: they go through the
block once, and when one of them ended without being suspended, the handler is gone and does not run again. -/
structure RunsOnce (h : Handler) (pc : Nat) (before : List Stretch) (mid : Machine) (after : List Stretch) : Prop where
  covers : ∃ last, Covers h.body (some pc) (runsOf h.id (before ++ after)) last
  through : ∀ s ∈ runsOf h.id before, s.outcome = .completed → h.id ∉ mid.handlers.ids ∧ runsOf h.id after = []

theorem Followed.runsOnce {before : List Stretch} {pc : Nat} {mid : Machine} (oneShot : h.oneShot = true)
    (distinct : mid.handlers.Distinct) (followed : Followed h (some pc) before mid.handlers)
    (ran : dispatchAll fuel events mid = .done () m') : RunsOnce h pc before mid (history fuel events mid) := by
  obtain ⟨next, covers, tracks, absent⟩ := followed
  obtain ⟨last, later, _⟩ := tracks.history absent oneShot distinct ran
  constructor
  · rw [runsOf_append]
    exact ⟨last, covers.append later⟩
  · intro s member completed
    obtain rfl := covers.none_of_completed member completed
    exact ⟨absent rfl, later.of_none.1⟩

theorem distinct_dispatchAll (distinct : m.handlers.Distinct) (ran : dispatchAll fuel events m = .done () m') :
    m'.handlers.Distinct := by
  induction events generalizing m with
  | nil =>
    cases ran
    exact distinct
  | cons event rest ih =>
    obtain ⟨m₁, first, later⟩ := dispatchAll_cons.mp ran
    exact ih (distinct_dispatch distinct first) later

section Halves

variable {before after : List Event} {mid : Machine}

theorem runsOnce_of_mem (distinct : m.handlers.Distinct) (first : dispatchAll fuel before m = .done () mid)
    (later : dispatchAll fuel after mid = .done () m') (member : h ∈ m.handlers.handlers) (oneShot : h.oneShot = true) :
    RunsOnce h h.pc (history fuel before m) mid (history fuel after mid) := by
  have followed := (Registry.tracks_of_mem distinct member).history nofun oneShot distinct first
  exact followed.runsOnce oneShot (distinct_dispatchAll distinct first) later

theorem runsOnce_of_new (distinct : m.handlers.Distinct) (first : dispatchAll fuel before m = .done () mid)
    (later : dispatchAll fuel after mid = .done () m') {s : Stretch}
    (member : s ∈ history fuel before m ++ history fuel after mid) (new : m.handlers.nextId ≤ s.handler.id)
    (oneShot : s.handler.oneShot = true) :
    RunsOnce s.handler 0 (history fuel before m) mid (history fuel after mid) := by
  obtain ⟨ran, runs⟩ := history_append after first
  obtain ⟨h, named, body, _, last, covers, _⟩ := followed_of_new distinct (ran.trans later) (runs ▸ member) new oneShot
  rw [runs, named, body] at covers
  constructor
  · exact ⟨last, covers⟩
  · -- The run that completed is one of the same handler, so it can be followed from there.
    intro t present completed
    obtain ⟨listed, called⟩ := mem_runsOf.mp present
    have whole : t ∈ runsOf s.handler.id (history fuel before m ++ history fuel after mid) := by
      rw [runsOf_append]
      exact List.mem_append_left _ present
    obtain ⟨own, same, _, single, followed⟩ :=
      followed_of_new distinct first listed (called.symm ▸ new) (covers.of_mem whole).2
    have once := followed.runsOnce single (distinct_dispatchAll distinct first) later
    rw [called] at same
    rw [← same] at present ⊢
    exact once.through t present completed

end Halves

end Sequences

section Parking

variable {fuel : Nat} {m m' : Machine}

theorem stopped_of_checkStop (stops : m.checkStop.1 = true) : m.checkStop.2.stopped = true := by
  unfold Machine.checkStop at stops ⊢
  split
  · assumption
  · split
    · split <;> simp_all
    · simp_all

theorem runFrom_waited {pc next : Nat} {wait : Int64} {body : Block}
    (ran : runFrom fuel pc body m = .done (.suspended next wait) m') (goes : m'.stopped = false) :
    ∃ i inst before, next = pc + i + 1 ∧ body[i]? = some inst ∧ exec fuel inst before = .done (.wait wait) m' := by
  induction body generalizing pc m with
  | nil => cases ran
  | cons inst rest ih =>
    have onward (m₁ : Machine) (ran : runFrom fuel (pc + 1) rest m₁ = .done (.suspended next wait) m') :
        ∃ i inst' before, next = pc + i + 1 ∧ (inst :: rest)[i]? = some inst' ∧
          exec fuel inst' before = .done (.wait wait) m' := by
      obtain ⟨i, inst', before, place, found, waited⟩ := ih ran
      exact ⟨i + 1, inst', before, by omega, found, waited⟩
    have stopping := stopped_of_checkStop (m := m)
    unfold runFrom at ran
    generalize m.checkStop = stop at ran stopping
    obtain ⟨stops, m₁⟩ := stop
    cases stops with
    | true =>
      -- The run is to end, and then the machine is stopped.
      cases ran
      rw [stopping rfl] at goes
      cases goes
    | false =>
      dsimp only at ran
      cases executed : exec fuel inst m₁ with
      | exhausted =>
        rw [executed] at ran
        cases ran
      | failed fault m₂ =>
        rw [executed] at ran
        dsimp only at ran
        split at ran
        · cases ran
        · split at ran
          · cases ran
          · exact onward _ ran
      | done flow m₂ =>
        rw [executed] at ran
        cases flow with
        | wait events =>
          cases ran
          exact ⟨0, inst, m₁, rfl, rfl, executed⟩
        | returned => cases ran
        | normal | breakLoop | continueLoop =>
          dsimp only at ran
          split at ran
          · cases ran
          · exact onward _ ran

theorem park_handlers (distinct : m.handlers.Distinct) (pc : Nat) (wait : Int64) :
    (m.park pc wait).handlers.handlers = m.handlers.handlers ++
      [{ id := m.handlers.nextId, kind := .time, body := m.main, pc, wait, oneShot := true, step := m.step }] := by
  have unknown : m.handlers.nextId ∉ m.handlers.handlers.map (·.id) :=
    fun member => absurd (distinct.below _ member) (Nat.lt_irrefl _)
  exact Registry.modifyFirst_concat unknown rfl

theorem distinct_park (distinct : m.handlers.Distinct) (pc : Nat) (wait : Int64) : (m.park pc wait).handlers.Distinct := by
  have grown : m.handlers.Grown none _ := .register m.handlers .time m.main
  have keeps (h : Handler) : { h with pc, wait, oneShot := true, step := m.step : Handler }.id = h.id := rfl
  exact (grown.distinct distinct).modify keeps m.handlers.nextId

/-- The rest of the program `main`, which the machine `m` started to run: it goes on right after the instruction that
waited, and everything before that place was executed. -/
def Handler.IsRestOf (h : Handler) (fuel : Nat) (m : Machine) : Prop :=
  h.oneShot = true ∧ h.body = m.main ∧ (runNoting fuel 0 m.main m).1 = List.range h.pc ∧
    ∃ i inst before after, h.pc = i + 1 ∧ m.main[i]? = some inst ∧ exec fuel inst before = .done (.wait h.wait) after

theorem handlers_of_runProgram (distinct : m.handlers.Distinct) (ran : runProgram fuel m = .done () m') :
    m'.handlers.Distinct ∧
      ∀ h ∈ m'.handlers.handlers, m.handlers.nextId ≤ h.id → h.pc = 0 ∨ h.IsRestOf fuel m := by
  have ends := runFrom_effects fuel 0 (m.main.drop 0) m
  have noted := runNoting_executed fuel 0 (m.main.drop 0) m
  rw [runNoting_outcome] at noted
  rw [← runBody] at ends noted
  rw [runProgram_eq] at ran
  cases body : runBody fuel m.main 0 m with
  | failed | exhausted =>
    rw [body] at ran
    cases ran
  | done outcome m₁ =>
    rw [body] at ran ends noted
    have grown := ends.1.grown distinct
    have distinct₁ := grown.distinct distinct
    have new (h : Handler) (member : h ∈ m₁.handlers.handlers) (later : m.handlers.nextId ≤ h.id) : h.pc = 0 :=
      (grown.fresh_of_later distinct member later).pc
    cases outcome with
    | completed =>
      cases ran
      exact ⟨distinct₁, fun h member later => .inl (new h member later)⟩
    | suspended pc wait =>
      dsimp only at ran
      split at ran
      · cases ran
        exact ⟨distinct₁, fun h member later => .inl (new h member later)⟩
      next goes =>
        cases ran
        refine ⟨distinct_park distinct₁ pc wait, fun h member later => ?_⟩
        rw [park_handlers distinct₁] at member
        rcases List.mem_append.mp member with old | parked
        · exact .inl (new h old later)
        · obtain rfl := List.mem_singleton.mp parked
          obtain ⟨i, inst, before, place, found, waited⟩ := runFrom_waited body (by simpa using goes)
          rw [Nat.zero_add] at place
          refine .inr ⟨rfl, ends.1.fixed.2, ?_, i, inst, before, m₁, place, found, waited⟩
          obtain ⟨_, _, executed⟩ := noted
          rw [List.range_eq_range']
          exact executed

end Parking

theorem one_shot_runs_once (fuel : Nat) {m : Machine} (distinct : m.handlers.Distinct) :
    (∀ (before after : List Event) (mid m' : Machine),
      dispatchAll fuel before m = .done () mid → dispatchAll fuel after mid = .done () m' →
      (∀ h ∈ m.handlers.handlers, h.oneShot = true →
        RunsOnce h h.pc (history fuel before m) mid (history fuel after mid)) ∧
      (∀ s ∈ history fuel before m ++ history fuel after mid, m.handlers.nextId ≤ s.handler.id →
        s.handler.oneShot = true → RunsOnce s.handler 0 (history fuel before m) mid (history fuel after mid))) ∧
    (∀ m', runProgram fuel m = .done () m' → m'.handlers.Distinct ∧
      ∀ h ∈ m'.handlers.handlers, m.handlers.nextId ≤ h.id → h.pc = 0 ∨ h.IsRestOf fuel m) := by
  refine ⟨fun before after mid m' first later => ⟨?_, ?_⟩, fun m' ran => handlers_of_runProgram distinct ran⟩
  · intro h member oneShot
    exact runsOnce_of_mem distinct first later member oneShot
  · intro s member new oneShot
    exact runsOnce_of_new distinct first later member new oneShot

def stepping : Machine where
  settings := {}
  main := []
  file := none
  functions := []
  builtins := []
  audio := .silent {}
  random := { state := 0 }
  handlers :=
    { handlers :=
        [{ id := 1, kind := .time,
           body := [.mk .setStep [.int 1] none, .mk .wait [.int 1] none, .mk .setStep [.int 2] none] }]
      nextId := 2 }

def ticks (count : Nat) : List Event :=
  List.replicate count { kind := .time }

theorem stepping_runs_once : ∃ mid, dispatchAll 2 (ticks 3) stepping = .done () mid ∧ mid.handlers.ids = [] ∧
    (history 2 (ticks 3) stepping).map (·.executed) = [[0, 1], [2]] ∧
    ∀ h ∈ stepping.handlers.handlers, h.oneShot = true →
      RunsOnce h h.pc (history 2 (ticks 3) stepping) mid (history 2 [] mid) := by
  have distinct : stepping.handlers.Distinct := ⟨by decide, by decide⟩
  have executed : (history 2 (ticks 3) stepping).map (·.executed) = [[0, 1], [2]] := by decide +kernel
  have gone : (dispatchAll 2 (ticks 3) stepping).result?.map (·.2.handlers.ids) = some [] := by decide +kernel
  obtain ⟨⟨_, mid⟩, result, empty⟩ := Option.map_eq_some_iff.mp gone
  have first := Outcome.done_of_result result
  exact ⟨mid, first, empty, executed, ((one_shot_runs_once 2 distinct).1 _ [] _ _ first rfl).1⟩

end CueScript
