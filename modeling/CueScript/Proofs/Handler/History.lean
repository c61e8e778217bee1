import CueScript.Proofs.Handler.Frame

set_option autoImplicit false

namespace CueScript

/-- Runs a block like `runFrom` and keeps the numbers of the instructions that it executes. -/
def runNoting (fuel : Nat) (pc : Nat) : Block → Machine → List Nat × Outcome RunOutcome
  | [], m => ([], .done .completed m)
  | inst :: rest, m =>
    match m.checkStop with
    | (true, m) => ([], .done (.suspended pc 0) m)
    | (false, m) =>
      match exec fuel inst m with
      | .done (.wait events) m => ([pc], .done (.suspended (pc + 1) events) m)
      | .done (.returned _) m => ([pc], .done .completed m)
      | .done _ m =>
        if m.isRetired then ([pc], .done .completed m)
        else
          let (more, outcome) := runNoting fuel (pc + 1) rest m
          (pc :: more, outcome)
      | .failed fault m =>
        if fault.isFatal then ([pc], .failed fault m)
        else
          let m := m.report .error fault.display
          if m.isRetired then ([pc], .done .completed m)
          else
            let (more, outcome) := runNoting fuel (pc + 1) rest m
            (pc :: more, outcome)
      | .exhausted => ([pc], .exhausted)

theorem runNoting_outcome (fuel pc : Nat) (body : Block) (m : Machine) :
    (runNoting fuel pc body m).2 = runFrom fuel pc body m := by
  induction body generalizing pc m with
  | nil => rfl
  | cons inst rest ih =>
    unfold runNoting runFrom
    cases m.checkStop with
    | mk stopping m₁ =>
      cases stopping with
      | true => rfl
      | false =>
        dsimp only
        cases exec fuel inst m₁ with
        | exhausted => rfl
        | failed fault m₂ =>
          by_cases fatal : fault.isFatal <;> by_cases retired : (m₂.report .error fault.display).isRetired <;>
            simp [fatal, retired, ih]
        | done flow m₂ =>
          cases flow with
          | wait | returned => rfl
          | normal | breakLoop | continueLoop => by_cases retired : m₂.isRetired <;> simp [retired, ih]

/-- The instructions from `pc` to the place where the run ended, each once and in order. -/
def RunOutcome.Executed (pc last : Nat) (executed : List Nat) : RunOutcome → Prop
  | .suspended next _ => pc ≤ next ∧ next ≤ last ∧ executed = List.range' pc (next - pc)
  | .completed => ∃ count, pc + count ≤ last ∧ executed = List.range' pc count

theorem RunOutcome.Executed.cons {pc last : Nat} {executed : List Nat} {outcome : RunOutcome}
    (after : outcome.Executed (pc + 1) last executed) : outcome.Executed pc last (pc :: executed) := by
  cases outcome with
  | suspended next wait =>
    obtain ⟨low, high, rfl⟩ := after
    have count : next - pc = (next - (pc + 1)) + 1 := by omega
    exact ⟨by omega, high, by rw [count, List.range'_succ]⟩
  | completed =>
    obtain ⟨count, inside, rfl⟩ := after
    exact ⟨count + 1, by omega, by rw [List.range'_succ]⟩

theorem runNoting_executed (fuel pc : Nat) (body : Block) (m : Machine) :
    (runNoting fuel pc body m).2.Ends
      (fun outcome _ => outcome.Executed pc (pc + body.length) (runNoting fuel pc body m).1) fun _ => True := by
  induction body generalizing pc m with
  | nil => exact ⟨0, by simp, rfl⟩
  | cons inst rest ih =>
    have length : pc + 1 + rest.length = pc + (inst :: rest).length := by simp only [List.length_cons]; omega
    have onward (m : Machine) := (ih (pc + 1) m).imp
      (fun outcome _ executed => (length ▸ executed).cons) fun _ _ => trivial
    -- A run that ends here has executed this instruction and no other.
    have only : RunOutcome.completed.Executed pc (pc + (inst :: rest).length) [pc] := ⟨1, by simp, rfl⟩
    unfold runNoting
    cases m.checkStop with
    | mk stopping m₁ =>
      cases stopping with
      | true => exact ⟨by omega, by omega, by simp⟩
      | false =>
        dsimp only
        cases exec fuel inst m₁ with
        | exhausted => trivial
        | failed fault m₂ =>
          by_cases fatal : fault.isFatal
          · simp only [if_pos fatal]
            trivial
          · by_cases retired : (m₂.report .error fault.display).isRetired
            · simp only [if_neg fatal, if_pos retired]
              exact only
            · simp only [if_neg fatal, if_neg retired]
              exact onward _
        | done flow m₂ =>
          cases flow with
          | wait events => exact ⟨by omega, by simp, by simp⟩
          | returned => exact only
          | normal | breakLoop | continueLoop =>
            by_cases retired : m₂.isRetired
            · simp only [if_pos retired]
              exact only
            · simp only [if_neg retired]
              exact onward _

/-- A run of a handler that came to an end: the handler as it was before, the instructions executed, and the end. -/
structure Stretch where
  handler : Handler
  executed : List Nat
  outcome : RunOutcome

def stretch? (fuel : Nat) (id : HandlerId) (m : Machine) : Option Stretch :=
  match m.handlers.get? id with
  | none => none
  | some handler =>
    match handler.poll.1 with
    | .skip | .waiting _ => none
    | .run pc =>
      match runNoting fuel pc (handler.body.drop pc) (m.enterHandler id) with
      | (executed, .done outcome _) => some { handler, executed, outcome }
      | _ => none

section Offering

variable {fuel : Nat} {id : HandlerId} {m m' : Machine} {h : Handler}

theorem stretch_of_idle (idle : ∀ h, m.handlers.get? id = some h → ¬ h.Ready) : stretch? fuel id m = none := by
  unfold stretch?
  split
  next => rfl
  next h found =>
    have busy := idle h found
    unfold Handler.poll
    by_cases off : (!h.active || h.retired) = true
    · simp [off]
    · by_cases waits : 0 < h.wait
      · simp [off, waits]
      · refine absurd ⟨?_, ?_, waits⟩ busy <;> cases active : h.active <;> cases retired : h.retired <;> simp_all

theorem stretch_of_ready {outcome : RunOutcome} (found : m.handlers.get? id = some h) (ready : h.Ready)
    (run : runBody fuel h.body h.pc (m.enterHandler id) = .done outcome m') :
    stretch? fuel id m =
      some { handler := h, executed := (runNoting fuel h.pc (h.body.drop h.pc) (m.enterHandler id)).1, outcome } := by
  have noted := runNoting_outcome fuel h.pc (h.body.drop h.pc) (m.enterHandler id)
  rw [← runBody, run] at noted
  unfold stretch?
  simp only [found, ready.poll]
  generalize runNoting fuel h.pc (h.body.drop h.pc) (m.enterHandler id) = record at noted ⊢
  obtain ⟨executed, ended⟩ := record
  subst noted
  rfl

theorem handler_of_stretch {s : Stretch} (ran : stretch? fuel id m = some s) :
    s.handler ∈ m.handlers.handlers ∧ s.handler.id = id := by
  unfold stretch? at ran
  split at ran
  next => cases ran
  next handler found =>
    split at ran
    next => cases ran
    next => cases ran
    next =>
      split at ran
      next =>
        cases ran
        exact Registry.mem_of_get? found
      next => cases ran

end Offering

def stretches (fuel : Nat) : List HandlerId → Machine → List Stretch
  | [], _ => []
  | id :: rest, m =>
    match m.checkStop with
    | (true, _) => []
    | (false, m) =>
      (stretch? fuel id m).toList ++
        match offer fuel id m with
        | .done () m => stretches fuel rest m
        | _ => []

def dispatchStretches (fuel : Nat) (event : Event) (m : Machine) : List Stretch :=
  stretches fuel (m.handlers.idsFor event.kind) (m.publish event.params)

def history (fuel : Nat) : List Event → Machine → List Stretch
  | [], _ => []
  | event :: rest, m =>
    dispatchStretches fuel event m ++
      match dispatch fuel event m with
      | .done () m => history fuel rest m
      | _ => []

def runsOf (id : HandlerId) (runs : List Stretch) : List Stretch :=
  runs.filter (·.handler.id == id)

end CueScript
