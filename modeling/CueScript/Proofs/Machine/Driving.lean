import CueScript.Proofs.Machine.Dispatch

set_option autoImplicit false

namespace CueScript

open Run

structure Machine.Outer (m₁ m₂ : Machine) : Prop where
  main : m₁.main = m₂.main
  handlers : m₁.handlers = m₂.handlers
  current : m₁.current = m₂.current
  step : m₁.step = m₂.step
  stopped : m₁.stopped = m₂.stopped
  deadline : m₁.deadline = m₂.deadline
  now : m₁.now = m₂.now

/-- Joined machines look the same to the runner of blocks, and what it does itself while a block runs leaves them
joined. -/
structure Pacing (S : Machine → Machine → Prop) : Prop where
  outer {m₁ m₂ : Machine} : S m₁ m₂ → m₁.Outer m₂
  report {m₁ m₂ : Machine} (severity : Severity) (text : String) :
    S m₁ m₂ → S (m₁.report severity text) (m₂.report severity text)
  stop {m₁ m₂ : Machine} : S m₁ m₂ → S { m₁ with stopped := true } { m₂ with stopped := true }

namespace Pacing

variable {E : Excuse} {S : Machine → Machine → Prop} {m₁ m₂ : Machine} {fuel fuel' : Nat} {body : Block}

theorem checkStop (pacing : Pacing S) (joined : S m₁ m₂) :
    m₁.checkStop.1 = m₂.checkStop.1 ∧ S m₁.checkStop.2 m₂.checkStop.2 := by
  have outer := pacing.outer joined
  unfold Machine.checkStop
  rw [← outer.stopped, ← outer.deadline, ← outer.now]
  split
  · exact ⟨rfl, joined⟩
  · split
    · split
      · have stopping := pacing.stop joined
        rw [← outer.deadline, ← outer.now] at stopping
        exact ⟨rfl, stopping⟩
      · exact ⟨rfl, joined⟩
    · exact ⟨rfl, joined⟩

theorem isRetired (pacing : Pacing S) (joined : S m₁ m₂) : m₁.isRetired = m₂.isRetired := by
  have outer := pacing.outer joined
  simp only [Machine.isRetired, Machine.running?, outer.current, outer.handlers]

theorem runFrom (pacing : Pacing S) (executes : ∀ inst ∈ body, Parallel E S (exec fuel inst) (exec fuel' inst))
    (pc : Nat) : Parallel E S (runFrom fuel pc body) (runFrom fuel' pc body) := by
  induction body generalizing pc with
  | nil => exact agrees_pure trivial
  | cons inst rest ih =>
    intro m₁ m₂ joined
    -- After an instruction both blocks end here, as the running handler was retired, or both go on.
    have onward {n₁ n₂ : Machine} (joined : S n₁ n₂) : Outcome.Agrees E S (fun _ => True)
        (if n₁.isRetired then .done .completed n₁ else CueScript.runFrom fuel (pc + 1) rest n₁)
        (if n₂.isRetired then .done .completed n₂ else CueScript.runFrom fuel' (pc + 1) rest n₂) := by
      rw [pacing.isRetired joined]
      split
      · exact .done trivial joined
      · exact ih (fun inst member => executes inst (List.mem_cons_of_mem _ member)) (pc + 1) _ _ joined
    obtain ⟨same, checked⟩ := pacing.checkStop joined
    unfold CueScript.runFrom
    generalize m₁.checkStop = stop₁, m₂.checkStop = stop₂ at same checked ⊢
    obtain ⟨stopping, n₁⟩ := stop₁
    obtain ⟨stopping', n₂⟩ := stop₂
    obtain rfl : stopping = stopping' := same
    cases stopping with
    | true => exact .done trivial checked
    | false =>
      have ends := executes inst List.mem_cons_self n₁ n₂ checked
      dsimp only
      generalize exec fuel inst n₁ = leftEnd, exec fuel' inst n₂ = rightEnd at ends ⊢
      cases ends with
      | @done flow _ _ _ joined =>
        cases flow with
        | wait _ | returned _ => exact .done trivial joined
        | normal _ | breakLoop | continueLoop => exact onward joined
      | failed joined =>
        dsimp only
        split
        · exact .failed joined
        · exact onward (pacing.report _ _ joined)
      | exhausted excused => exact .exhausted excused _
      | @abandoned fault _ excused =>
        have fatal : fault.isFatal = true := E.fatal fault.kind excused
        simp only [fatal, if_true]
        exact .abandoned excused _

end Pacing

/-- The actions of the runner of blocks leave machines joined. `S current` joins them while the handler `current` runs,
and the blocks that are run are of instructions in `P`. -/
structure Driving (P : Instruction → Prop) (S : Option HandlerId → Machine → Machine → Prop) : Prop where
  outer {current : Option HandlerId} {m₁ m₂ : Machine} : S current m₁ m₂ → m₁.Outer m₂
  main {m₁ m₂ : Machine} : S none m₁ m₂ → ∀ inst ∈ m₁.main, P inst
  bodies {m₁ m₂ : Machine} : S none m₁ m₂ → ∀ h ∈ m₁.handlers.handlers, ∀ inst ∈ h.body, P inst
  report {current : Option HandlerId} {m₁ m₂ : Machine} (severity : Severity) (text : String) :
    S current m₁ m₂ → S current (m₁.report severity text) (m₂.report severity text)
  stop {current : Option HandlerId} {m₁ m₂ : Machine} :
    S current m₁ m₂ → S current { m₁ with stopped := true } { m₂ with stopped := true }
  publish {m₁ m₂ : Machine} (params : List Value) : S none m₁ m₂ → S none (m₁.publish params) (m₂.publish params)
  enter {m₁ m₂ : Machine} (id : HandlerId) : S none m₁ m₂ → S (some id) (m₁.enterHandler id) (m₂.enterHandler id)
  leave {m₁ m₂ : Machine} {id : HandlerId} : S (some id) m₁ m₂ → S none m₁.leaveHandler m₂.leaveHandler
  change {m₁ m₂ : Machine} (id : HandlerId) {change : Handler → Handler} : (∀ h, (change h).body = h.body) →
    S none m₁ m₂ → S none (m₁.changeHandler id change) (m₂.changeHandler id change)
  register {m₁ m₂ : Machine} : S none m₁ m₂ →
    S none (m₁.registerHandler .time m₁.main).2 (m₂.registerHandler .time m₂.main).2
  sweep {m₁ m₂ : Machine} : S none m₁ m₂ → S none m₁.sweep m₂.sweep

theorem Handler.body_poll (h : Handler) : h.poll.2.body = h.body := by
  unfold Handler.poll
  split
  · rfl
  · split <;> rfl

theorem Handler.body_finish (h : Handler) (outcome : RunOutcome) : (h.finish outcome).body = h.body := by
  cases outcome with
  | suspended => rfl
  | completed =>
    unfold Handler.finish
    dsimp only
    split <;> rfl

namespace Driving

variable {E : Excuse} {P : Instruction → Prop} {S : Option HandlerId → Machine → Machine → Prop} {m₁ m₂ : Machine}
  {current : Option HandlerId} {fuel fuel' : Nat} {body : Block}

theorem pacing (driving : Driving P S) (current : Option HandlerId) : Pacing (S current) where
  outer joined := driving.outer joined
  report severity text joined := driving.report severity text joined
  stop joined := driving.stop joined

def Executes (E : Excuse) (P : Instruction → Prop) (S : Option HandlerId → Machine → Machine → Prop)
    (fuel fuel' : Nat) : Prop :=
  ∀ current inst, P inst → Parallel E (S current) (exec fuel inst) (exec fuel' inst)

theorem runBody (driving : Driving P S) (current : Option HandlerId) (executes : Executes E P S fuel fuel')
    (admitted : ∀ inst ∈ body, P inst) (pc : Nat) :
    Parallel E (S current) (runBody fuel body pc) (runBody fuel' body pc) := by
  refine (driving.pacing current).runFrom (fun inst member => ?_) pc
  exact executes current inst (admitted inst (List.mem_of_mem_drop member))

theorem park (driving : Driving P S) (joined : S none m₁ m₂) (pc : Nat) (wait : Int64) :
    S none (m₁.park pc wait) (m₂.park pc wait) := by
  have outer := driving.outer joined
  have registered := driving.register joined
  -- Both machines give out the same identity to the handler that goes on with the program.
  have parked : S none (m₁.park pc wait) _ := driving.change m₁.handlers.nextId (fun _ => rfl) registered
  have right : m₂.park pc wait = (m₂.registerHandler .time m₂.main).2.changeHandler m₁.handlers.nextId
      fun h => { h with pc, wait, oneShot := true, step := m₁.step } := by
    rw [outer.handlers, outer.step]
    rfl
  exact right ▸ parked

theorem runProgram (driving : Driving P S) (executes : Executes E P S fuel fuel') :
    Parallel E (S none) (runProgram fuel) (runProgram fuel') := by
  intro m₁ m₂ joined
  have ends := driving.runBody none executes (driving.main joined) 0 m₁ m₂ joined
  rw [runProgram_eq, runProgram_eq, ← (driving.outer joined).main]
  generalize CueScript.runBody fuel m₁.main 0 m₁ = leftEnd, CueScript.runBody fuel' m₁.main 0 m₂ = rightEnd at ends ⊢
  cases ends with
  | @done outcome _ _ _ joined =>
    cases outcome with
    | completed => exact .done trivial joined
    | suspended pc wait =>
      refine .done trivial ?_
      rw [(driving.outer joined).stopped]
      split
      · exact joined
      · exact driving.park joined pc wait
  | failed joined => exact .failed joined
  | exhausted excused => exact .exhausted excused _
  | abandoned excused => exact .abandoned excused _

theorem offer (driving : Driving P S) (executes : Executes E P S fuel fuel') (id : HandlerId) :
    Parallel E (S none) (offer fuel id) (offer fuel' id) := by
  intro m₁ m₂ joined
  have handlers := (driving.outer joined).handlers
  cases found : m₁.handlers.get? id with
  | none =>
    rw [offer_none found, offer_none (handlers ▸ found)]
    exact .done trivial joined
  | some h =>
    have other : m₂.handlers.get? id = some h := handlers ▸ found
    -- It takes no events, or it waits for one event less, or it runs.
    rcases h.poll_cases with ⟨skips, -⟩ | ⟨-, waits⟩ | ready
    · rw [offer_skipped found skips, offer_skipped other skips]
      exact .done trivial joined
    · rw [offer_waiting found waits, offer_waiting other waits]
      exact .done trivial (driving.change id Handler.body_poll joined)
    · rw [offer_ready found ready, offer_ready other ready]
      have admitted := driving.bodies joined h (List.mem_of_find?_eq_some found)
      have ends := driving.runBody (some id) executes admitted h.pc _ _ (driving.enter id joined)
      generalize CueScript.runBody fuel h.body h.pc (m₁.enterHandler id) = leftEnd,
        CueScript.runBody fuel' h.body h.pc (m₂.enterHandler id) = rightEnd at ends ⊢
      cases ends with
      | done _ joined => exact .done trivial (driving.change id (fun h => h.body_finish _) (driving.leave joined))
      | failed joined => exact .failed (driving.leave joined)
      | exhausted excused => exact .exhausted excused _
      | abandoned excused => exact .abandoned excused _

theorem offerAll (driving : Driving P S) (executes : Executes E P S fuel fuel') (ids : List HandlerId) :
    Parallel E (S none) (offerAll fuel ids) (offerAll fuel' ids) := by
  induction ids with
  | nil => exact agrees_pure trivial
  | cons id rest ih =>
    intro m₁ m₂ joined
    obtain ⟨same, checked⟩ := (driving.pacing none).checkStop joined
    unfold CueScript.offerAll
    generalize m₁.checkStop = stop₁, m₂.checkStop = stop₂ at same checked ⊢
    obtain ⟨stopping, n₁⟩ := stop₁
    obtain ⟨stopping', n₂⟩ := stop₂
    obtain rfl : stopping = stopping' := same
    cases stopping with
    | true => exact .done trivial checked
    | false =>
      have ends := driving.offer executes id n₁ n₂ checked
      dsimp only
      generalize CueScript.offer fuel id n₁ = leftEnd, CueScript.offer fuel' id n₂ = rightEnd at ends ⊢
      cases ends with
      | done _ joined => exact ih _ _ joined
      | failed joined => exact .failed joined
      | exhausted excused => exact .exhausted excused _
      | abandoned excused => exact .abandoned excused _

theorem dispatch (driving : Driving P S) (executes : Executes E P S fuel fuel') (event : Event) :
    Parallel E (S none) (dispatch fuel event) (dispatch fuel' event) := by
  intro m₁ m₂ joined
  have ends := driving.offerAll executes (m₁.handlers.idsFor event.kind) _ _ (driving.publish event.params joined)
  rw [dispatch_eq, dispatch_eq, ← (driving.outer joined).handlers]
  generalize CueScript.offerAll fuel (m₁.handlers.idsFor event.kind) (m₁.publish event.params) = leftEnd,
    CueScript.offerAll fuel' (m₁.handlers.idsFor event.kind) (m₂.publish event.params) = rightEnd at ends ⊢
  cases ends with
  | done _ joined => exact .done trivial (driving.sweep joined)
  | failed joined => exact .failed joined
  | exhausted excused => exact .exhausted excused _
  | abandoned excused => exact .abandoned excused _

end Driving

section Fuel

variable {α : Type} {E : Excuse} {S : Machine → Machine → Prop} {ok : α → Prop} {outcome other : Outcome α}
  {fuel fuel' : Nat} {m m' : Machine}

theorem Outcome.Agrees.left (agrees : outcome.Agrees .fuel S ok other) (left : outcome.left? = some m) :
    ∃ m', other.left? = some m' ∧ S m m' := by
  cases agrees with
  | done _ joined | failed joined =>
    cases left
    exact ⟨_, rfl, joined⟩
  | exhausted => cases left
  | abandoned excused => exact excused.elim

theorem Outcome.Agrees.ended (agrees : outcome.Agrees .nothing S ok other) :
    ∃ m m', outcome.left? = some m ∧ S m m' := by
  cases agrees with
  | done _ joined | failed joined => exact ⟨_, _, rfl, joined⟩
  | exhausted excused | abandoned excused => exact excused.elim

theorem driving_same : Driving (fun _ => True) fun _ => Eq where
  outer joined := by
    rw [joined]
    exact ⟨rfl, rfl, rfl, rfl, rfl, rfl, rfl⟩
  main _ _ _ := trivial
  bodies _ _ _ _ _ := trivial
  report _ _ joined := by rw [joined]
  stop joined := by rw [joined]
  publish _ joined := by rw [joined]
  enter _ joined := by rw [joined]
  leave joined := by rw [joined]
  change _ _ _ joined := by rw [joined]
  register joined := by rw [joined]
  sweep joined := by rw [joined]

theorem executes_same (enough : fuel ≤ fuel') : Driving.Executes .fuel (fun _ => True) (fun _ => Eq) fuel fuel' := by
  rintro current inst - m _ rfl
  have ends := (interpreter_agree Effects.simulation enough m).exec inst.within_any m m ⟨rfl, .refl m⟩
  exact ends.imp (fun _ _ reached => reached.1) fun _ _ => trivial

theorem runProgram_more_fuel (enough : fuel ≤ fuel') (left : (runProgram fuel m).left? = some m') :
    (runProgram fuel' m).left? = some m' := by
  obtain ⟨_, same, rfl⟩ := (driving_same.runProgram (executes_same enough) m m rfl).left left
  exact same

theorem dispatch_more_fuel {event : Event} (enough : fuel ≤ fuel') (left : (dispatch fuel event m).left? = some m') :
    (dispatch fuel' event m).left? = some m' := by
  obtain ⟨_, same, rfl⟩ := (driving_same.dispatch (executes_same enough) event m m rfl).left left
  exact same

end Fuel

end CueScript
