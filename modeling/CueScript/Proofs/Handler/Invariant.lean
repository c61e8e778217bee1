import CueScript.Machine.Create
import CueScript.Proofs.Handler.Growth
import CueScript.Proofs.Handler.Waits

set_option autoImplicit false

namespace CueScript

structure Handler.Sound (h : Handler) : Prop where
  wait : 0 ≤ h.wait
  step : 1 ≤ h.step
  pc : h.pc ≤ h.body.length
  retired : h.retired = true → h.active = false

structure Registry.Sound (r : Registry) : Prop where
  increasing : r.ids.Pairwise (· < ·)
  given : ∀ id ∈ r.ids, 1 ≤ id ∧ id < r.nextId
  next : 1 ≤ r.nextId
  each : ∀ h ∈ r.handlers, h.Sound

/-- A pending wait becomes the wait of a handler, so it is part of the invariant. -/
structure Machine.Sound (m : Machine) : Prop where
  handlers : m.handlers.Sound
  step : 1 ≤ m.step
  pending : ∀ n, m.pendingWait = some n → 0 ≤ n

namespace Handler.Sound

variable {h h' : Handler}

theorem steered (sound : h.Sound) (steered : h.Steered h') : h'.Sound := by
  cases steered with
  | kept => exact sound
  | retired | frozen => exact ⟨sound.wait, sound.step, sound.pc, fun _ => rfl⟩
  | activated =>
    unfold Handler.activate
    split
    next => exact sound
    next kept => exact ⟨sound.wait, sound.step, sound.pc, fun retired => absurd retired kept⟩

theorem polled (sound : h.Sound) : h.poll.2.Sound := by
  unfold Handler.poll
  split
  next => exact sound
  next =>
    split
    next waits => exact ⟨nonneg_pred waits, sound.step, sound.pc, sound.retired⟩
    next => exact sound

theorem finished {outcome : RunOutcome} (sound : h.Sound)
    (inside : ∀ pc wait, outcome = .suspended pc wait → pc ≤ h.body.length) : (h.finish outcome).Sound := by
  cases outcome with
  | suspended pc wait => exact ⟨nonneg_max_zero wait, sound.step, inside pc wait rfl, sound.retired⟩
  | completed =>
    unfold Handler.finish
    dsimp only
    split
    next => exact sound.steered .retired
    next => exact ⟨Int64.le_refl 0, sound.step, Nat.zero_le _, sound.retired⟩

end Handler.Sound

namespace Registry.Sound

variable {r r' : Registry}

theorem distinct (sound : r.Sound) : r.Distinct where
  nodup := sound.increasing.imp fun less => Nat.ne_of_lt less
  below id member := (sound.given id member).2

theorem of_ids (sound : r.Sound) (ids : r'.ids = r.ids) (next : r'.nextId = r.nextId)
    (each : ∀ h ∈ r'.handlers, h.Sound) : r'.Sound where
  increasing := ids ▸ sound.increasing
  given := by rw [ids, next]; exact sound.given
  next := next ▸ sound.next
  each := each

theorem steered (sound : r.Sound) {handlers : List Handler}
    (each : List.Forall₂ Handler.Steered r.handlers handlers) : Sound { r with handlers } := by
  refine sound.of_ids (ids_of_steered each) rfl fun h' member => ?_
  obtain ⟨h, present, steered⟩ := source_of_steered each member
  exact (sound.each h present).steered steered

theorem modify (sound : r.Sound) {id : HandlerId} {change : Handler → Handler} (keeps : ∀ h, (change h).id = h.id)
    (changed : ∀ h ∈ r.handlers, h.id = id → (change h).Sound) : (r.modify id change).Sound := by
  refine sound.of_ids (ids_modify keeps id) rfl fun h' member => ?_
  rcases sound.distinct.mem_modify member with ⟨old, _⟩ | ⟨h, present, named, rfl⟩
  · exact sound.each h' old
  · exact changed h present named

theorem register (sound : r.Sound) (kind : EventKind) (body : Block) : (r.register kind body).2.Sound := by
  have ids : (r.register kind body).2.ids = r.ids ++ [r.nextId] := by simp [Registry.register, Registry.ids]
  have later : (r.register kind body).2.nextId = r.nextId + 1 := rfl
  refine ⟨?_, ?_, ?_, ?_⟩
  · rw [ids, List.pairwise_append]
    refine ⟨sound.increasing, List.pairwise_singleton _ _, fun id member new known => ?_⟩
    rw [List.mem_singleton.mp known]
    exact (sound.given id member).2
  · rw [ids, later]
    intro id member
    rcases List.mem_append.mp member with old | new
    · exact ⟨(sound.given id old).1, Nat.lt_succ_of_lt (sound.given id old).2⟩
    · rw [List.mem_singleton.mp new]
      exact ⟨sound.next, Nat.lt_succ_self _⟩
  · rw [later]
    exact Nat.le_add_left 1 _
  · intro h member
    rcases List.mem_append.mp member with old | new
    · exact sound.each h old
    · rw [List.mem_singleton.mp new]
      exact ⟨Int64.le_refl 0, Int64.le_refl 1, Nat.zero_le _, fun retired => by cases retired⟩

theorem sweep (sound : r.Sound) : r.sweep.Sound := by
  have kept : r.sweep.handlers.Sublist r.handlers := List.filter_sublist
  have ids : r.sweep.ids.Sublist r.ids := kept.map _
  exact ⟨sound.increasing.sublist ids, fun id member => sound.given id (ids.subset member), sound.next,
    fun h member => sound.each h (kept.subset member)⟩

end Registry.Sound

namespace Machine.Sound

variable {m m' : Machine}

theorem stepNow (sound : m.Sound) : 1 ≤ m.stepNow := by
  unfold Machine.stepNow
  cases running : m.running? with
  | none => exact sound.step
  | some h =>
    obtain ⟨id, _, found⟩ := Option.bind_eq_some_iff.mp running
    exact (sound.handlers.each h (Registry.mem_of_get? found).1).step

theorem asks (sound : m.Sound) {n : Int64} (asks : m.Asks n) : 0 ≤ n := by
  rcases asks with pending | ⟨units, positive, rfl⟩
  · exact sound.pending n pending
  · exact Int64.le_of_lt (saturatingMul_pos positive sound.stepNow)

theorem setStep (sound : m.Sound) (perUnit : Int64) : (m.setStep perUnit).Sound := by
  unfold Machine.setStep
  split
  next h running =>
    refine ⟨sound.handlers.modify (fun _ => rfl) fun h present _ => ?_, sound.step, sound.pending⟩
    have old := sound.handlers.each h present
    exact ⟨old.wait, one_le_clampStep perUnit, old.pc, old.retired⟩
  next => exact ⟨sound.handlers, one_le_clampStep perUnit, sound.pending⟩

theorem effects (sound : m.Sound) (effects : Effects m m') : m'.Sound := by
  induction effects with
  | refl | report | note | putVariables | putStore | putFiles | putRandom | putAudio | post | stop =>
    exact ⟨sound.handlers, sound.step, sound.pending⟩
  | trans _ _ first rest => exact rest (first sound)
  | register m kind body => exact ⟨sound.handlers.register kind body, sound.step, sound.pending⟩
  | setStep m perUnit => exact sound.setStep perUnit
  | steer m handlers each => exact ⟨sound.handlers.steered each, sound.step, sound.pending⟩
  | pend _ asks _ asking later =>
    have nonneg := (asking sound).asks asks
    refine ⟨(later sound).handlers, (later sound).step, ?_⟩
    rintro n ⟨⟩
    exact nonneg
  | settle => exact ⟨sound.handlers, sound.step, fun n pending => by cases pending⟩
  | call frame _ inside =>
    have after := inside ⟨sound.handlers, sound.step, sound.pending⟩
    exact ⟨after.handlers, after.step, after.pending⟩

theorem mayAsk (sound : m.Sound) {n : Int64} (mayAsk : m.MayAsk n) : 0 ≤ n := by
  obtain ⟨asking, reached, asks⟩ := mayAsk
  exact (sound.effects reached).asks asks

theorem changeHandler (sound : m.Sound) {id : HandlerId} {change : Handler → Handler} (keeps : ∀ h, (change h).id = h.id)
    (changed : ∀ h ∈ m.handlers.handlers, h.id = id → (change h).Sound) : (m.changeHandler id change).Sound :=
  ⟨sound.handlers.modify keeps changed, sound.step, sound.pending⟩

theorem offered (sound : m.Sound) {fuel : Nat} {id : HandlerId} {outcome : Outcome Unit}
    (offered : Offered fuel id m outcome) : outcome.Ends (fun _ m' => m'.Sound) Machine.Sound := by
  have entered : (m.enterHandler id).Sound := ⟨sound.handlers, sound.step, sound.pending⟩
  have fits (h : Handler) (found : m.handlers.get? id = some h) :=
    runBody_effects fuel h.body h.pc (m.enterHandler id) (sound.handlers.each h (Registry.mem_of_get? found).1).pc
  cases offered with
  | passed => exact sound
  | waited => exact sound.changeHandler (fun h => (Handler.Same.poll h).id) fun h present _ => (sound.handlers.each h present).polled
  | @ran h m' outcome found ready run =>
    have ends := fits h found
    rw [run] at ends
    have after := entered.effects ends.1
    have left : m'.leaveHandler.Sound := ⟨after.handlers, after.step, after.pending⟩
    refine left.changeHandler (fun h => (Handler.Same.finish h outcome).id) fun h' present named => ?_
    refine (left.handlers.each h' present).finished fun pc wait suspended => ?_
    -- The handler that is suspended still has the block that was run.
    obtain ⟨member, same⟩ := Registry.mem_of_get? found
    have grown := ends.1.grown sound.handlers.distinct
    have kept := grown.of_id sound.handlers.distinct member present (named.trans same.symm)
    rw [kept.1.body]
    have inside := ends.2
    rw [suspended] at inside
    exact inside.2.1
  | @aborted h m' fault found ready run =>
    have ends := fits h found
    rw [run] at ends
    have after := entered.effects ends
    exact ⟨after.handlers, after.step, after.pending⟩
  | exhausted => trivial

theorem checkStop (sound : m.Sound) : m.checkStop.2.Sound :=
  sound.effects (checkStop_effects m)

theorem offerAll (sound : m.Sound) (fuel : Nat) (ids : List HandlerId) :
    (offerAll fuel ids m).Ends (fun _ m' => m'.Sound) Machine.Sound := by
  induction ids generalizing m with
  | nil => exact sound
  | cons id rest ih =>
    have checked := sound.checkStop
    unfold CueScript.offerAll
    generalize m.checkStop = stop at checked ⊢
    obtain ⟨stopping, m₁⟩ := stop
    cases stopping with
    | true => exact checked
    | false =>
      have ends := offered checked (offer_offered fuel id m₁)
      dsimp only at ends ⊢
      generalize offer fuel id m₁ = outcome at ends ⊢
      cases outcome with
      | done _ m₂ => exact ih ends
      | failed fault m₂ => exact ends
      | exhausted => trivial

theorem dispatch (sound : m.Sound) (fuel : Nat) (event : Event) :
    (dispatch fuel event m).Ends (fun _ m' => m'.Sound) Machine.Sound := by
  have published : (m.publish event.params).Sound := ⟨sound.handlers, sound.step, sound.pending⟩
  have ends := published.offerAll fuel (m.handlers.idsFor event.kind)
  rw [dispatch_eq]
  generalize CueScript.offerAll fuel (m.handlers.idsFor event.kind) (m.publish event.params) = outcome at ends ⊢
  cases outcome with
  | done _ m' => exact ⟨ends.handlers.sweep, ends.step, ends.pending⟩
  | failed fault m' => exact ends
  | exhausted => trivial

theorem pump (sound : m.Sound) (fuel : Nat) : (pump fuel m).Ends (fun _ m' => m'.Sound) Machine.Sound := by
  unfold CueScript.pump
  split
  next => exact sound
  next event events _ =>
    have popped : Sound { m with events } := ⟨sound.handlers, sound.step, sound.pending⟩
    have ends := popped.dispatch fuel event
    generalize CueScript.dispatch fuel event { m with events } = outcome at ends ⊢
    cases outcome with
    | done | failed => exact ends
    | exhausted => trivial

theorem park (sound : m.Sound) {pc : Nat} {wait : Int64} (inside : pc ≤ m.main.length) (nonneg : 0 ≤ wait) :
    (m.park pc wait).Sound := by
  have registered : (m.registerHandler .time m.main).2.Sound :=
    ⟨sound.handlers.register .time m.main, sound.step, sound.pending⟩
  refine registered.changeHandler (fun _ => rfl) fun h member named => ?_
  -- The handler that is changed is the one that was just registered.
  rcases List.mem_append.mp member with old | new
  · have below := (sound.handlers.given h.id (Registry.mem_ids old)).2
    exact absurd named (Nat.ne_of_lt below)
  · obtain rfl := List.mem_singleton.mp new
    exact ⟨nonneg, sound.step, inside, fun retired => by cases retired⟩

theorem runProgram (sound : m.Sound) (fuel : Nat) : (runProgram fuel m).Ends (fun _ m' => m'.Sound) Machine.Sound := by
  have ends := runBody_effects fuel m.main 0 m (Nat.zero_le _)
  rw [runProgram_eq]
  generalize runBody fuel m.main 0 m = outcome at ends ⊢
  cases outcome with
  | exhausted => trivial
  | failed fault m' => exact sound.effects ends
  | done outcome m' =>
    obtain ⟨effects, fits⟩ := ends
    have after := sound.effects effects
    cases outcome with
    | completed => exact after
    | suspended pc wait =>
      obtain ⟨_, inside, asked⟩ := fits
      have nonneg : 0 ≤ wait := by
        rcases asked with rfl | asks
        · exact Int64.le_refl 0
        · exact sound.mayAsk asks
      show Sound (if m'.stopped then m' else m'.park pc wait)
      split
      · exact after
      · exact after.park (effects.fixed.2 ▸ inside) nonneg

theorem created {program : Program} {settings : Settings} {audio : Audio} {disk : Disk} {seed : UInt64}
    {grants : Allocator} {draw : UInt64 → List Nat → Nat}
    (created : Machine.create program settings audio disk seed grants draw = .ok m) : m.Sound := by
  unfold Machine.create at created
  split at created
  · cases created
  · cases created
    have noHandlers : Registry.Sound {} := ⟨.nil, nofun, Nat.le_refl 1, nofun⟩
    exact ⟨noHandlers, Int64.le_refl 1, fun n pending => by cases pending⟩

end Machine.Sound

inductive Reachable (program : Program) (settings : Settings) : Machine → Prop
  | created {m : Machine} {audio : Audio} {disk : Disk} {seed : UInt64} {grants : Allocator}
    {draw : UInt64 → List Nat → Nat} (created : Machine.create program settings audio disk seed grants draw = .ok m) :
    Reachable program settings m
  | ran {m m' : Machine} (fuel : Nat) (before : Reachable program settings m)
    (left : (runProgram fuel m).left? = some m') : Reachable program settings m'
  | posted {m : Machine} (event : Event) (before : Reachable program settings m) : Reachable program settings (m.post event)
  | dispatched {m m' : Machine} (fuel : Nat) (event : Event) (before : Reachable program settings m)
    (left : (dispatch fuel event m).left? = some m') : Reachable program settings m'
  | pumped {m m' : Machine} (fuel : Nat) (before : Reachable program settings m)
    (left : (pump fuel m).left? = some m') : Reachable program settings m'

theorem Reachable.sound {program : Program} {settings : Settings} {m : Machine}
    (reachable : Reachable program settings m) : m.Sound := by
  induction reachable with
  | created created => exact Machine.Sound.created created
  | ran fuel _ left sound => exact (sound.runProgram fuel).left left
  | posted event _ sound => exact ⟨sound.handlers, sound.step, sound.pending⟩
  | dispatched fuel event _ left sound => exact (sound.dispatch fuel event).left left
  | pumped fuel _ left sound => exact (sound.pump fuel).left left

theorem reachable_handlers_well_formed {program : Program} {settings : Settings} {m : Machine}
    (reachable : Reachable program settings m) :
    m.handlers.ids.Pairwise (· < ·) ∧ (∀ id ∈ m.handlers.ids, 1 ≤ id ∧ id < m.handlers.nextId) ∧
    (∀ h ∈ m.handlers.handlers,
      0 ≤ h.wait ∧ 1 ≤ h.step ∧ h.pc ≤ h.body.length ∧ (h.retired = true → h.active = false)) ∧
    1 ≤ m.step := by
  obtain ⟨handlers, step, _⟩ := reachable.sound
  refine ⟨handlers.increasing, handlers.given, fun h member => ?_, step⟩
  obtain ⟨wait, own, pc, retired⟩ := handlers.each h member
  exact ⟨wait, own, pc, retired⟩

def waitingTitle : Program where
  instructions := [.mk .onEvent [.int 0, .block [.mk .setStep [.int 5] none]] none, .mk .wait [.int 3] none]

theorem waiting_title_well_formed : ∃ m, Reachable waitingTitle { headless := true } m ∧
    m.handlers.ids = [1, 2] ∧ m.handlers.ids.Pairwise (· < ·) ∧
    (∀ id ∈ m.handlers.ids, 1 ≤ id ∧ id < m.handlers.nextId) ∧
    (∀ h ∈ m.handlers.handlers,
      0 ≤ h.wait ∧ 1 ≤ h.step ∧ h.pc ≤ h.body.length ∧ (h.retired = true → h.active = false)) ∧
    1 ≤ m.step := by
  have started : Machine.create waitingTitle { headless := true } (.silent {}) {} 0 = .ok _ := rfl
  have reachable := Reachable.ran 3 (.created started) rfl
  exact ⟨_, reachable, rfl, reachable_handlers_well_formed reachable⟩

end CueScript
