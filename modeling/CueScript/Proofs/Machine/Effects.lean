import CueScript.Proofs.Machine.Interpreter
import CueScript.Proofs.Machine.Steering

/-!
Everything that executing an instruction can do to the machine, said once: a run of elementary actions, with calls
nested in it. What holds of every such run is then shown by induction on it and not on the interpreter.
-/

set_option autoImplicit false

namespace CueScript

/-- A wait of `n` events is pending, or what runs right now may ask for it. -/
def Machine.Asks (m : Machine) (n : Int64) : Prop :=
  m.pendingWait = some n ∨ ∃ units : Int64, 0 < units ∧ n = saturatingMul units m.stepNow

def Bindings.Written (b b' : Bindings) : Prop :=
  ∃ writes : List (String × Value), b' = writes.foldl (fun b write => b.set write.1 write.2) b

/-- The scopes of the same calls later on. Only the innermost one can have been written. -/
inductive SameScopes : List Bindings → List Bindings → Prop
  | outside : SameScopes [] []
  | inside {frame frame' : Bindings} (callers : List Bindings) (written : frame.Written frame') :
    SameScopes (frame :: callers) (frame' :: callers)

inductive Effects : Machine → Machine → Prop
  | refl (m : Machine) : Effects m m
  | trans {a b c : Machine} (first : Effects a b) (rest : Effects b c) : Effects a c
  | report (m : Machine) (severity : Severity) (text : String) : Effects m (m.report severity text)
  | note (m : Machine) (call : CallRecord) (silent : call.posted? = none) : Effects m (m.note call)
  | putVariables (m : Machine) (globals : Bindings) (frames : List Bindings) (scopes : SameScopes m.frames frames) :
    Effects m { m with globals, frames }
  | putStore (m : Machine) (store : Store) : Effects m { m with store }
  | putFiles (m : Machine) (files : Files) : Effects m { m with files }
  | putRandom (m : Machine) (random : Generator) : Effects m { m with random }
  | putAudio (m : Machine) (audio : Audio) (timer : audio.timerRunning = m.audio.timerRunning) :
    Effects m { m with audio }
  | register (m : Machine) (kind : EventKind) (body : Block) : Effects m (m.registerHandler kind body).2
  | setStep (m : Machine) (perUnit : Int64) : Effects m (m.setStep perUnit)
  | steer (m : Machine) (handlers : List Handler)
    (each : List.Forall₂ Handler.Steered m.handlers.handlers handlers) :
    Effects m { m with handlers := { m.handlers with handlers } }
  | post (m : Machine) (call : CallRecord) (event : Event) (posted : call.posted? = some event) :
    Effects m ((m.note call).post event)
  | stop (m : Machine) : Effects m { m with stopped := true }
  | pend {m asking later : Machine} {n : Int64} (reached : Effects m asking) (asks : asking.Asks n)
    (rest : Effects m later) : Effects m { later with pendingWait := some n }
  | settle (m : Machine) : Effects m { m with pendingWait := none }
  | call {m m' : Machine} (frame : Bindings) (inside : Effects (m.enterCall frame) m') : Effects m m'.leaveCall

def Machine.MayAsk (m : Machine) (n : Int64) : Prop :=
  ∃ asking, Effects m asking ∧ asking.Asks n

theorem Bindings.written_set (b : Bindings) (name : String) (value : Value) : b.Written (b.set name value) :=
  ⟨[(name, value)], rfl⟩

theorem SameScopes.refl (frames : List Bindings) : SameScopes frames frames := by
  cases frames with
  | nil => exact .outside
  | cons frame callers => exact .inside callers ⟨[], rfl⟩

theorem SameScopes.length_eq {a b : List Bindings} (same : SameScopes a b) : b.length = a.length := by
  cases same <;> rfl

theorem declare_writes (m : Machine) (name : String) (value : Value) :
    ∃ globals frames, SameScopes m.frames frames ∧ ∀ m' : Machine, m'.globals = m.globals → m'.frames = m.frames →
      m'.declare name value = { m' with globals, frames } := by
  cases inside : m.frames with
  | nil =>
    refine ⟨m.globals.set name value, [], .outside, fun m' globals frames => ?_⟩
    simp only [Machine.declare, globals, frames]
  | cons frame callers =>
    refine ⟨m.globals, frame.set name value :: callers, .inside callers (frame.written_set name value), ?_⟩
    intro m' globals frames
    simp only [Machine.declare, ← globals, frames]

theorem assign_writes (m : Machine) (name : String) (value : Value) :
    ∃ globals frames, SameScopes m.frames frames ∧ ∀ m' : Machine, m'.globals = m.globals → m'.frames = m.frames →
      m'.assign name value = { m' with globals, frames } := by
  obtain ⟨globals, frames, scopes, declared⟩ := declare_writes m name value
  cases inside : m.frames with
  | nil =>
    refine ⟨globals, frames, inside ▸ scopes, fun m' sameGlobals sameFrames => ?_⟩
    simp only [Machine.assign, sameFrames]
    exact declared m' sameGlobals (sameFrames.trans inside.symm)
  | cons frame callers =>
    by_cases here : (frame.contains name || !m.globals.contains name) = true
    · refine ⟨globals, frames, inside ▸ scopes, fun m' sameGlobals sameFrames => ?_⟩
      simp only [Machine.assign, sameFrames, sameGlobals, here, if_true]
      exact declared m' sameGlobals (sameFrames.trans inside.symm)
    · refine ⟨m.globals.set name value, frame :: callers, .refl _, fun m' sameGlobals sameFrames => ?_⟩
      simp only [Machine.assign, sameFrames, sameGlobals, here]
      rfl

theorem declare_effects (m : Machine) (name : String) (value : Value) : Effects m (m.declare name value) := by
  obtain ⟨globals, frames, scopes, declared⟩ := declare_writes m name value
  exact declared m rfl rfl ▸ .putVariables m globals frames scopes

theorem assign_effects (m : Machine) (name : String) (value : Value) : Effects m (m.assign name value) := by
  obtain ⟨globals, frames, scopes, assigned⟩ := assign_writes m name value
  exact assigned m rfl rfl ▸ .putVariables m globals frames scopes

namespace Effects

def Reached (origin m₁ m₂ : Machine) : Prop :=
  m₁ = m₂ ∧ Effects origin m₁

variable {origin : Machine}

theorem sharing (origin : Machine) : Sharing (Reached origin) where
  alike joined := joined.1 ▸ Machine.Alike.refl _
  handlers joined := by rw [joined.1]
  current joined := by rw [joined.1]
  audio joined := by rw [joined.1]
  headless joined := by rw [joined.1]
  report severity text joined := ⟨by rw [joined.1], joined.2.trans (.report _ severity text)⟩
  steer each joined := ⟨by rw [joined.1], joined.2.trans (.steer _ _ each)⟩
  note silent joined := ⟨by rw [joined.1], joined.2.trans (.note _ _ silent)⟩
  post posted joined := ⟨by rw [joined.1], joined.2.trans (.post _ _ _ posted)⟩
  stop joined := ⟨by rw [joined.1], joined.2.trans (.stop _)⟩
  putAudio timer joined := ⟨by rw [joined.1], joined.2.trans (.putAudio _ _ timer)⟩

theorem actions (P : Instruction → Prop) (origin : Machine) :
    Actions .fuel .any P (fun f => f.within .any = true) (Reached origin) origin.MayAsk where
  alike joined := joined.1 ▸ Machine.Alike.refl _
  lookup _ joined := by rw [joined.1]
  builtin _ joined := by rw [joined.1]
  function _ joined _ found := ⟨FunctionDef.within_any _, joined.1 ▸ found⟩
  undefined _ joined missing := .inr (joined.1 ▸ missing)
  report severity text joined := ⟨by rw [joined.1], joined.2.trans (.report _ severity text)⟩
  note silent joined := (sharing origin).note silent joined
  assign value _ joined := ⟨by rw [joined.1], joined.2.trans (assign_effects _ _ value)⟩
  declare value _ joined := ⟨by rw [joined.1], joined.2.trans (declare_effects _ _ value)⟩
  putStore store joined := ⟨by rw [joined.1], joined.2.trans (.putStore _ store)⟩
  putFiles files joined := ⟨by rw [joined.1], joined.2.trans (.putFiles _ files)⟩
  putRandom random joined := ⟨by rw [joined.1], joined.2.trans (.putRandom _ random)⟩
  register {_ _} kind {body} _ _ joined := by
    obtain ⟨rfl, reached⟩ := joined
    exact ⟨rfl, rfl, reached.trans (.register _ kind body)⟩
  setStep perUnit _ joined := ⟨by rw [joined.1], joined.2.trans (.setStep _ perUnit)⟩
  wait {m₁ m₂ units} _ positive joined := ⟨by rw [joined.1], m₁, joined.2, .inr ⟨units, positive, rfl⟩⟩
  pend asked joined := by
    obtain ⟨asking, reached, asks⟩ := asked
    exact ⟨by rw [joined.1], .pend reached asks joined.2⟩
  waits _ _ _ _ := rfl
  steers _ _ _ steers args := (sharing origin).steeringValue steers args
  plays _ plays args := (sharing origin).playingValue plays args
  loops _ _ := trivial

theorem simulation : Simulation .fuel .any Reached Machine.MayAsk where
  excused := trivial
  acts origin := actions _ origin
  settles origin :=
    { pending := fun joined => by rw [joined.1]
      owed := fun {m₁ _ _} joined pending => ⟨m₁, joined.2, .inl pending⟩
      settle := fun joined => ⟨by rw [joined.1], joined.2.trans (.settle _)⟩ }
  room joined := Machine.room_of_same (by rw [joined.1]) (by rw [joined.1])
  note silent joined := ⟨by rw [joined.1], joined.2.trans (.note _ _ silent)⟩
  call {origin m₁ m₂} frame joined := by
    obtain ⟨rfl, reached⟩ := joined
    -- Inside the call the origin is the machine that has just entered it.
    refine ⟨m₁.enterCall frame, ⟨rfl, .refl _⟩, ?_, ?_⟩
    · rintro n ⟨asking, inside, asks⟩
      exact ⟨asking.leaveCall, reached.trans (.call frame inside), asks⟩
    · rintro n₁ n₂ ⟨rfl, inside⟩
      exact ⟨rfl, reached.trans (.call frame inside)⟩

end Effects

section Executing

variable {fuel : Nat} {inst : Instruction} {flow : Flow} {m m' : Machine} {fault : Fault}

theorem exec_of_performed (performed : (interpreter fuel).perform fuel inst m = .done flow m') :
    exec (fuel + 1) inst m = .done (Inner.withPending m'.pendingWait flow) { m' with pendingWait := none } := by
  change (interpreter fuel).statement fuel inst m = _
  simp only [Inner.statement, Run.locate, performed]

theorem exec_agrees_with_itself (fuel : Nat) (inst : Instruction) (m : Machine) :
    (exec fuel inst m).Agrees .fuel (Effects.Reached m) (Flow.Owes m.MayAsk) (exec fuel inst m) :=
  (interpreter_agree Effects.simulation (Nat.le_refl fuel) m).exec inst.within_any m m ⟨rfl, .refl m⟩

theorem effects_of_done (ran : exec fuel inst m = .done flow m') : Effects m m' ∧ flow.Owes m.MayAsk := by
  have ends := exec_agrees_with_itself fuel inst m
  rw [ran] at ends
  cases ends with
  | done holds joined => exact ⟨joined.2, holds⟩

theorem effects_of_failed (ran : exec fuel inst m = .failed fault m') : Effects m m' := by
  have ends := exec_agrees_with_itself fuel inst m
  rw [ran] at ends
  cases ends with
  | failed joined => exact joined.2
  | abandoned excused => exact excused.elim

end Executing

end CueScript
