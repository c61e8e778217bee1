import CueScript.Machine.Dispatch
import CueScript.Proofs.Machine.Effects

set_option autoImplicit false

namespace CueScript

/-- However the run ended, its end is as told; a run without an end is as told anyway. -/
def Outcome.Ends {α : Type} (done : α → Machine → Prop) (failed : Machine → Prop) : Outcome α → Prop
  | .done a m => done a m
  | .failed _ m => failed m
  | .exhausted => True

def Outcome.left? {α : Type} : Outcome α → Option Machine
  | .done _ m | .failed _ m => some m
  | .exhausted => none

def Outcome.result? {α : Type} : Outcome α → Option (α × Machine)
  | .done a m => some (a, m)
  | _ => none

theorem Outcome.Ends.left {α : Type} {P : Machine → Prop} {outcome : Outcome α} {m : Machine}
    (ends : outcome.Ends (fun _ => P) P) (left : outcome.left? = some m) : P m := by
  cases outcome with
  | done | failed =>
    cases left
    exact ends
  | exhausted => cases left

theorem Outcome.done_of_result {α : Type} {outcome : Outcome α} {a : α} {m : Machine}
    (result : outcome.result? = some (a, m)) : outcome = .done a m := by
  cases outcome with
  | done =>
    cases result
    rfl
  | failed | exhausted => cases result

theorem ok_of_toOption {ε α : Type} {x : Except ε α} {a : α} (some : x.toOption = some a) : x = .ok a := by
  cases x with
  | ok =>
    cases some
    rfl
  | error => cases some

theorem Outcome.Ends.imp {α : Type} {done done' : α → Machine → Prop} {failed failed' : Machine → Prop}
    {outcome : Outcome α} (ends : outcome.Ends done failed) (onDone : ∀ a m, done a m → done' a m)
    (onFailed : ∀ m, failed m → failed' m) : outcome.Ends done' failed' := by
  cases outcome with
  | done a m => exact onDone a m ends
  | failed fault m => exact onFailed m ends
  | exhausted => trivial

/-- Suspended not before `pc` and not beyond `last`, for no events or for a number that the machine may ask for. -/
def RunOutcome.Fits (m : Machine) (pc last : Nat) : RunOutcome → Prop
  | .suspended next wait => pc ≤ next ∧ next ≤ last ∧ (wait = 0 ∨ m.MayAsk wait)
  | .completed => True

theorem checkStop_effects (m : Machine) : Effects m m.checkStop.2 := by
  unfold Machine.checkStop
  split
  · exact .refl m
  · split
    · split
      · exact .stop m
      · exact .refl m
    · exact .refl m

theorem Machine.MayAsk.after {m m' : Machine} {n : Int64} (asks : m'.MayAsk n) (reached : Effects m m') : m.MayAsk n := by
  obtain ⟨asking, later, asks⟩ := asks
  exact ⟨asking, reached.trans later, asks⟩

theorem RunOutcome.Fits.after {m m' : Machine} {pc last : Nat} {outcome : RunOutcome}
    (fits : outcome.Fits m' (pc + 1) last) (reached : Effects m m') : outcome.Fits m pc last := by
  cases outcome with
  | completed => trivial
  | suspended next wait =>
    obtain ⟨low, high, asks⟩ := fits
    exact ⟨by omega, high, asks.imp_right fun asks => asks.after reached⟩

theorem runFrom_effects (fuel pc : Nat) (body : Block) (m : Machine) :
    (runFrom fuel pc body m).Ends (fun outcome m' => Effects m m' ∧ outcome.Fits m pc (pc + body.length)) (Effects m) := by
  induction body generalizing pc m with
  | nil => exact ⟨.refl m, trivial⟩
  | cons inst rest ih =>
    have checked := checkStop_effects m
    -- Whatever is executed next, the rest of the block starts in a state that effects lead to.
    have onward (m' : Machine) (reached : Effects m m') : (runFrom fuel (pc + 1) rest m').Ends
        (fun outcome m' => Effects m m' ∧ outcome.Fits m pc (pc + (inst :: rest).length)) (Effects m) := by
      refine (ih (pc + 1) m').imp (fun outcome m' ends => ⟨reached.trans ends.1, ?_⟩) fun m' ends => reached.trans ends
      have length : pc + 1 + rest.length = pc + (inst :: rest).length := by simp only [List.length_cons]; omega
      exact (length ▸ ends.2).after reached
    unfold runFrom
    generalize m.checkStop = stop at checked ⊢
    obtain ⟨stopping, m₁⟩ := stop
    cases stopping with
    | true => exact ⟨checked, by omega, by omega, .inl rfl⟩
    | false =>
      dsimp only at checked ⊢
      cases ran : exec fuel inst m₁ with
      | exhausted => trivial
      | failed fault m₂ =>
        have reached := checked.trans (effects_of_failed ran)
        dsimp only
        split
        · exact reached
        · have reported := reached.trans (.report m₂ .error fault.display)
          split
          · exact ⟨reported, trivial⟩
          · exact onward _ reported
      | done flow m₂ =>
        obtain ⟨effects, owes⟩ := effects_of_done ran
        have reached := checked.trans effects
        cases flow with
        | wait events => exact ⟨reached, by omega, by simp, .inr (Machine.MayAsk.after owes checked)⟩
        | returned value => exact ⟨reached, trivial⟩
        | normal _ | breakLoop | continueLoop =>
          dsimp only
          split
          · exact ⟨reached, trivial⟩
          · exact onward _ reached

theorem runBody_effects (fuel : Nat) (body : Block) (pc : Nat) (m : Machine) (inside : pc ≤ body.length) :
    (runBody fuel body pc m).Ends (fun outcome m' => Effects m m' ∧ outcome.Fits m pc body.length) (Effects m) := by
  have ends := runFrom_effects fuel pc (body.drop pc) m
  have length : pc + (body.drop pc).length = body.length := by simp only [List.length_drop]; omega
  rw [length] at ends
  exact ends

def Machine.changeHandler (m : Machine) (id : HandlerId) (change : Handler → Handler) : Machine :=
  { m with handlers := m.handlers.modify id change }

def Handler.Ready (h : Handler) : Prop :=
  h.active = true ∧ h.retired = false ∧ ¬ 0 < h.wait

theorem modifyFirst_of_fixed {change : Handler → Handler} {h : Handler} {handlers : List Handler} {id : HandlerId}
    (found : handlers.find? (·.id == id) = some h) (fixed : change h = h) :
    Registry.modifyFirst id change handlers = handlers := by
  induction handlers with
  | nil => rfl
  | cons first rest ih =>
    unfold Registry.modifyFirst
    by_cases named : first.id = id
    · obtain rfl : first = h := by simpa [List.find?_cons, named] using found
      simp [named, fixed]
    · have later : rest.find? (·.id == id) = some h := by simpa [List.find?_cons, named] using found
      simp [named, ih later]

section Offering

variable {fuel : Nat} {id : HandlerId} {m : Machine} {h : Handler}

theorem changeHandler_of_fixed {change : Handler → Handler} (found : m.handlers.get? id = some h) (fixed : change h = h) :
    m.changeHandler id change = m := by
  simp only [Machine.changeHandler, Registry.modify, modifyFirst_of_fixed found fixed]

theorem offer_none (missing : m.handlers.get? id = none) : offer fuel id m = .done () m := by
  simp only [offer, bind, Run.bind, Run.read, missing]
  rfl

theorem offer_skipped (found : m.handlers.get? id = some h) (skips : h.poll = (.skip, h)) :
    offer fuel id m = .done () m := by
  have polled : m.changeHandler id (·.poll.2) = m := changeHandler_of_fixed found (by rw [skips])
  simp only [offer, bind, Run.bind, Run.read, found, skips]
  exact congrArg (Outcome.done ()) polled

theorem offer_waiting {remaining : Int64} {later : Handler} (found : m.handlers.get? id = some h)
    (waits : h.poll = (.waiting remaining, later)) : offer fuel id m = .done () (m.changeHandler id (·.poll.2)) := by
  simp only [offer, bind, Run.bind, Run.read, found, waits]
  rfl

theorem Handler.Ready.poll (ready : h.Ready) : h.poll = (.run h.pc, h) := by
  obtain ⟨active, kept, due⟩ := ready
  simp [Handler.poll, active, kept, due]

theorem Handler.poll_cases (h : Handler) :
    (h.poll = (.skip, h) ∧ ¬ h.Ready) ∨ (0 < h.wait ∧ h.poll = (.waiting (h.wait - 1), { h with wait := h.wait - 1 })) ∨
      h.Ready := by
  by_cases live : h.active = true ∧ h.retired = false
  · by_cases waits : 0 < h.wait
    · exact .inr (.inl ⟨waits, by simp [Handler.poll, live, waits]⟩)
    · exact .inr (.inr ⟨live.1, live.2, waits⟩)
  · have idle : (!h.active || h.retired) = true := by
      cases active : h.active <;> cases retired : h.retired <;> simp_all
    exact .inl ⟨by simp [Handler.poll, idle], fun ready => live ⟨ready.1, ready.2.1⟩⟩

theorem offer_ready (found : m.handlers.get? id = some h) (ready : h.Ready) :
    offer fuel id m = match runBody fuel h.body h.pc (m.enterHandler id) with
      | .done outcome m' => .done () (m'.leaveHandler.changeHandler id (·.finish outcome))
      | .failed fault m' => .failed fault m'.leaveHandler
      | .exhausted => .exhausted := by
  have polled : m.changeHandler id (·.poll.2) = m := changeHandler_of_fixed found (by rw [ready.poll])
  simp only [offer, bind, Run.bind, Run.read, found, ready.poll]
  change Run.bind ((runBody fuel h.body h.pc).afterwards Machine.leaveHandler) _
    ((m.changeHandler id (·.poll.2)).enterHandler id) = _
  rw [polled]
  unfold Run.bind Run.afterwards
  cases runBody fuel h.body h.pc (m.enterHandler id) <;> rfl

inductive Offered (fuel : Nat) (id : HandlerId) (m : Machine) : Outcome Unit → Prop
  | passed (idle : ∀ h, m.handlers.get? id = some h → ¬ h.Ready) : Offered fuel id m (.done () m)
  | waited {h : Handler} (found : m.handlers.get? id = some h) (waits : 0 < h.wait) :
    Offered fuel id m (.done () (m.changeHandler id (·.poll.2)))
  | ran {h : Handler} {m' : Machine} {outcome : RunOutcome} (found : m.handlers.get? id = some h) (ready : h.Ready)
    (run : runBody fuel h.body h.pc (m.enterHandler id) = .done outcome m') :
    Offered fuel id m (.done () (m'.leaveHandler.changeHandler id (·.finish outcome)))
  | aborted {h : Handler} {m' : Machine} {fault : Fault} (found : m.handlers.get? id = some h) (ready : h.Ready)
    (run : runBody fuel h.body h.pc (m.enterHandler id) = .failed fault m') :
    Offered fuel id m (.failed fault m'.leaveHandler)
  | exhausted : Offered fuel id m .exhausted

theorem offer_offered (fuel : Nat) (id : HandlerId) (m : Machine) : Offered fuel id m (offer fuel id m) := by
  cases found : m.handlers.get? id with
  | none => exact offer_none found ▸ .passed fun h present => by simp [found] at present
  | some h =>
    rcases h.poll_cases with ⟨skips, idle⟩ | ⟨waits, polled⟩ | ready
    · rw [offer_skipped found skips]
      refine .passed fun other present ready => idle ?_
      obtain rfl : h = other := Option.some.inj (found.symm.trans present)
      exact ready
    · rw [offer_waiting found polled]
      exact .waited found waits
    · rw [offer_ready found ready]
      cases run : runBody fuel h.body h.pc (m.enterHandler id) with
      | done outcome m' => exact .ran found ready run
      | failed fault m' => exact .aborted found ready run
      | exhausted => exact .exhausted

end Offering

theorem dispatch_eq (fuel : Nat) (event : Event) (m : Machine) :
    dispatch fuel event m = match offerAll fuel (m.handlers.idsFor event.kind) (m.publish event.params) with
      | .done () m' => .done () m'.sweep
      | .failed fault m' => .failed fault m'
      | .exhausted => .exhausted := by
  have same : (m.publish event.params).handlers = m.handlers := rfl
  unfold dispatch
  simp only [bind, Run.bind, Run.modify, Run.read, same]
  cases offerAll fuel (m.handlers.idsFor event.kind) (m.publish event.params) <;> rfl

theorem dispatch_done {fuel : Nat} {event : Event} {m m' : Machine} (ran : dispatch fuel event m = .done () m') :
    ∃ m₁, offerAll fuel (m.handlers.idsFor event.kind) (m.publish event.params) = .done () m₁ ∧ m' = m₁.sweep := by
  rw [dispatch_eq] at ran
  generalize offerAll fuel (m.handlers.idsFor event.kind) (m.publish event.params) = outcome at ran ⊢
  cases outcome with
  | done _ m₁ =>
    cases ran
    exact ⟨m₁, rfl, rfl⟩
  | failed | exhausted => cases ran

def dispatchAll (fuel : Nat) : List Event → Run Unit
  | [] => pure ()
  | event :: rest => do
    dispatch fuel event
    dispatchAll fuel rest

theorem dispatchAll_cons {fuel : Nat} {event : Event} {rest : List Event} {m m' : Machine} :
    dispatchAll fuel (event :: rest) m = .done () m' ↔
      ∃ m₁, dispatch fuel event m = .done () m₁ ∧ dispatchAll fuel rest m₁ = .done () m' := by
  simp only [dispatchAll, bind, Run.bind]
  cases dispatch fuel event m <;> simp

theorem runProgram_eq (fuel : Nat) (m : Machine) :
    runProgram fuel m = match runBody fuel m.main 0 m with
      | .done (.suspended pc wait) m' => .done () (if m'.stopped then m' else m'.park pc wait)
      | .done .completed m' => .done () m'
      | .failed fault m' => .failed fault m'
      | .exhausted => .exhausted := by
  unfold runProgram
  simp only [bind, Run.bind, Run.read]
  cases runBody fuel m.main 0 m with
  | done outcome m' => cases outcome <;> rfl
  | failed | exhausted => rfl

end CueScript
