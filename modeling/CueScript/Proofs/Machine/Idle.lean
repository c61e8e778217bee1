import CueScript.Machine.Create
import CueScript.Proofs.Handler.Growth
import CueScript.Proofs.Machine.Driving

set_option autoImplicit false

namespace CueScript

theorem Bindings.Written.trans {a b c : Bindings} (first : a.Written b) (rest : b.Written c) : a.Written c := by
  obtain ⟨early, rfl⟩ := first
  obtain ⟨late, rfl⟩ := rest
  exact ⟨early ++ late, by rw [List.foldl_append]⟩

namespace SameScopes

variable {a b c : List Bindings}

theorem trans (first : SameScopes a b) (rest : SameScopes b c) : SameScopes a c := by
  cases first with
  | outside => exact rest
  | inside callers written =>
    cases rest with
    | inside _ later => exact .inside callers (written.trans later)

theorem tail_eq (same : SameScopes a b) : b.tail = a.tail := by
  cases same <;> rfl

end SameScopes

/-- The same calls are in progress as before, and the same handler runs. -/
structure Machine.Restored (m m' : Machine) : Prop where
  depth : m'.frames.length = m.frames.length
  scopes : SameScopes m.frames m'.frames
  current : m'.current = m.current

section Restoring

variable {α : Type} {m m' : Machine} {fuel : Nat}

theorem Effects.scopes (effects : Effects m m') : SameScopes m.frames m'.frames := by
  induction effects with
  | refl | report | note | putStore | putFiles | putRandom | putAudio | post | stop | settle | register | steer => exact .refl _
  | putVariables m globals frames scopes => exact scopes
  | trans _ _ first rest => exact first.trans rest
  | setStep m perUnit =>
    unfold Machine.setStep
    split <;> exact .refl _
  | pend _ _ _ _ later => exact later
  | @call m m' frame _ inside =>
    -- The scope of the call is the innermost one, so those below it are as they were.
    have below : m'.leaveCall.frames = m.frames := inside.tail_eq
    exact below ▸ .refl _

theorem Effects.restored (effects : Effects m m') : m.Restored m' where
  depth := effects.scopes.length_eq
  scopes := effects.scopes
  current := effects.fixed.1

theorem effects_of_agrees {ok : α → Prop} {x y : Run α} (agrees : Run.Agrees .fuel (Effects.Reached m) ok x y)
    (left : (x m).left? = some m') : Effects m m' := by
  obtain ⟨_, _, _, effects⟩ := (agrees m m ⟨rfl, .refl m⟩).left left
  exact effects

theorem interpreter_reached (fuel : Nat) (origin : Machine) :
    (interpreter fuel).Agree .fuel .any (fun inst => inst.within .any = true) (Operand.Itself .any)
      (Effects.Reached origin) origin.MayAsk (interpreter fuel) :=
  interpreter_agree Effects.simulation (Nat.le_refl fuel) origin

theorem calls_reached (fuel : Nat) (origin : Machine) :
    Inner.CallAlike .fuel (fun f => f.within .any = true) (Effects.Reached origin) origin.MayAsk (interpreter fuel)
      (interpreter fuel) :=
  callAlike_of_agreed Effects.simulation (interpreter_reached fuel) origin

theorem exec_effects {inst : Instruction} (left : (exec fuel inst m).left? = some m') : Effects m m' :=
  effects_of_agrees ((interpreter_reached fuel m).exec inst.within_any) left

theorem execBlock_effects {body : Block} (left : (execBlock fuel body m).left? = some m') : Effects m m' := by
  have block := Inner.Agree.block (Effects.actions _ m) (interpreter_reached fuel m)
    fun inst (_ : inst ∈ body) => inst.within_any
  exact effects_of_agrees block left

theorem eval_effects {operand : Operand} (left : (eval fuel operand m).left? = some m') : Effects m m' :=
  effects_of_agrees ((interpreter_reached fuel m).eval ⟨rfl, operand.within_any⟩) left

theorem callNamed_effects {name : String} {args : List Value} (left : (callNamed fuel name args m).left? = some m') :
    Effects m m' := by
  have called : Run.Agrees .fuel (Effects.Reached m) (Flow.Owes m.MayAsk) (callNamed fuel name args) _ :=
    Inner.Agree.callNamed (Effects.actions (fun _ => True) m) (calls_reached fuel m) rfl args
  exact effects_of_agrees called left

theorem callFunction_effects {f : FunctionDef} {args : List Value}
    (left : ((interpreter fuel).callFunction f args m).left? = some m') : Effects m m' :=
  effects_of_agrees (calls_reached fuel m f args f.within_any) left

theorem exec_restores {inst : Instruction} (left : (exec fuel inst m).left? = some m') : m.Restored m' :=
  (exec_effects left).restored

theorem execBlock_restores {body : Block} (left : (execBlock fuel body m).left? = some m') : m.Restored m' :=
  (execBlock_effects left).restored

theorem eval_restores {operand : Operand} (left : (eval fuel operand m).left? = some m') : m.Restored m' :=
  (eval_effects left).restored

theorem callNamed_restores {name : String} {args : List Value} (left : (callNamed fuel name args m).left? = some m') :
    m.Restored m' :=
  (callNamed_effects left).restored

theorem callFunction_restores {f : FunctionDef} {args : List Value}
    (left : ((interpreter fuel).callFunction f args m).left? = some m') : m.Restored m' :=
  (callFunction_effects left).restored

theorem exec_settles {inst : Instruction} (left : (exec fuel inst m).left? = some m') : m'.pendingWait = none := by
  cases fuel with
  | zero => cases left
  | succ fuel =>
    unfold exec Inner.statement at left
    split at left <;> cases left <;> rfl

end Restoring

structure Machine.Rests (current : Option HandlerId) (m : Machine) : Prop where
  frames : m.frames = []
  handler : m.current = current
  pending : m.pendingWait = none

abbrev Machine.Idle (m : Machine) : Prop :=
  m.Rests none

namespace Machine.Rests

variable {current : Option HandlerId} {m m' : Machine} {fuel : Nat}

theorem exec (rests : m.Rests current) {inst : Instruction} (left : (exec fuel inst m).left? = some m') :
    m'.Rests current where
  frames := by
    have none : m'.frames.length = 0 := (exec_restores left).depth.trans (by rw [rests.frames]; rfl)
    exact List.length_eq_zero_iff.mp none
  handler := (exec_restores left).current.trans rests.handler
  pending := exec_settles left

def Both (current : Option HandlerId) (m₁ m₂ : Machine) : Prop :=
  m₁ = m₂ ∧ m₁.Rests current

theorem driving : Driving (fun _ => True) Both where
  outer joined := by
    obtain ⟨rfl, _⟩ := joined
    exact ⟨rfl, rfl, rfl, rfl, rfl, rfl, rfl⟩
  main _ _ _ := trivial
  bodies _ _ _ _ _ := trivial
  report _ _ joined := ⟨by rw [joined.1], joined.2.frames, joined.2.handler, joined.2.pending⟩
  stop joined := ⟨by rw [joined.1], joined.2.frames, joined.2.handler, joined.2.pending⟩
  publish _ joined := ⟨by rw [joined.1], joined.2.frames, joined.2.handler, joined.2.pending⟩
  enter _ joined := ⟨by rw [joined.1], joined.2.frames, rfl, joined.2.pending⟩
  leave joined := ⟨by rw [joined.1], joined.2.frames, rfl, joined.2.pending⟩
  change _ _ _ joined := ⟨by rw [joined.1], joined.2.frames, joined.2.handler, joined.2.pending⟩
  register joined := ⟨by rw [joined.1], joined.2.frames, joined.2.handler, joined.2.pending⟩
  sweep joined := ⟨by rw [joined.1], joined.2.frames, joined.2.handler, joined.2.pending⟩

theorem executes (fuel : Nat) : Driving.Executes .fuel (fun _ => True) Both fuel fuel := by
  rintro current inst - m _ ⟨rfl, rests⟩
  cases ran : CueScript.exec fuel inst m with
  | done flow m' => exact .done trivial ⟨rfl, rests.exec (by rw [ran]; rfl)⟩
  | failed fault m' => exact .failed ⟨rfl, rests.exec (by rw [ran]; rfl)⟩
  | exhausted => exact .exhausted trivial _

theorem runProgram (idle : m.Idle) (left : (runProgram fuel m).left? = some m') : m'.Idle := by
  obtain ⟨_, _, _, rests⟩ := (driving.runProgram (executes fuel) m m ⟨rfl, idle⟩).left left
  exact rests

theorem dispatch (idle : m.Idle) {event : Event} (left : (dispatch fuel event m).left? = some m') : m'.Idle := by
  obtain ⟨_, _, _, rests⟩ := (driving.dispatch (executes fuel) event m m ⟨rfl, idle⟩).left left
  exact rests

end Machine.Rests

theorem machine_restored_by_every_run (fuel : Nat) (m m' : Machine) :
    (∀ inst, (exec fuel inst m).left? = some m' → m.Restored m') ∧
    (∀ body, (execBlock fuel body m).left? = some m' → m.Restored m') ∧
    (∀ operand, (eval fuel operand m).left? = some m' → m.Restored m') ∧
    (∀ name args, (callNamed fuel name args m).left? = some m' → m.Restored m') ∧
    (∀ f args, ((interpreter fuel).callFunction f args m).left? = some m' → m.Restored m') ∧
    (m.Idle → (runProgram fuel m).left? = some m' → m'.Idle) ∧
    (m.Idle → ∀ event, (dispatch fuel event m).left? = some m' → m'.Idle) :=
  ⟨fun _ => exec_restores, fun _ => execBlock_restores, fun _ => eval_restores, fun _ _ => callNamed_restores,
    fun _ _ => callFunction_restores, fun idle => idle.runProgram, fun idle _ => idle.dispatch⟩

def brokenTitle : Program where
  instructions := [.mk .call [.text "f"] none]
  functions :=
    [("f", { name := "f", body := [.mk .assign [.var "x", .node (.mk .call [.text "g"] none)] none] }),
     ("g", { name := "g", params := [{ name := "a", default := some (.int 1) }], body := [.mk .call [.text "h"] none] })]

theorem broken_title_idle_again : ∃ m m' fault,
    Machine.create brokenTitle { headless := true } (.silent {}) {} 0 = .ok m ∧
    runProgram 9 m = .failed fault m' ∧ fault.kind = .undefinedFunction ∧ m'.Idle := by
  have broken : ∃ m, Machine.create brokenTitle { headless := true } (.silent {}) {} 0 = .ok m ∧ m.Idle ∧
      ∃ m' fault, runProgram 9 m = .failed fault m' ∧ fault.kind = .undefinedFunction :=
    ⟨_, rfl, ⟨rfl, rfl, rfl⟩, _, _, rfl, rfl⟩
  obtain ⟨m, created, idle, m', fault, ran, kind⟩ := broken
  have again := (machine_restored_by_every_run 9 m m').2.2.2.2.2.1 idle (by rw [ran]; rfl)
  exact ⟨m, m', fault, created, ran, kind, again⟩

end CueScript
