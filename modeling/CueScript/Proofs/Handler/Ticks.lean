import CueScript.Machine.Create
import CueScript.Proofs.Handler.Growth
import CueScript.Proofs.Machine.Idle
import Mathlib.Logic.Relation

set_option autoImplicit false

namespace CueScript

namespace Audio

@[simp]
theorem timerRunning_startTimer (audio : Audio) (now : Nat) : (audio.startTimer now).timerRunning = true := by
  cases audio with
  | silent | scripted => rfl
  | standIn device =>
    simp only [startTimer, timerRunning, TickTimer.start]
    split
    next runs => exact runs
    next => rfl

@[simp]
theorem timerRunning_update (audio : Audio) (now : Nat) : (audio.update now).audio.timerRunning = audio.timerRunning := by
  cases audio with
  | silent => rfl
  | standIn device =>
    simp only [update, timerRunning, TickTimer.due]
    split <;> rfl
  | scripted device =>
    simp only [update]
    split <;> rfl

end Audio

/-- How a machine that keeps time may look later on: a timer that ran still runs, and a handler for ticks is an old one
or has a timer that runs. -/
structure Machine.KeepsTime (m m' : Machine) : Prop where
  runs : m.audio.timerRunning = true → m'.audio.timerRunning = true
  ticks : ∀ h' ∈ m'.handlers.handlers, h'.kind = .time →
    m'.audio.timerRunning = true ∨ ∃ h ∈ m.handlers.handlers, h.kind = .time

def Machine.Ticking (m : Machine) : Prop :=
  ∀ h ∈ m.handlers.handlers, h.kind = .time → m.audio.timerRunning = true

namespace Machine.KeepsTime

variable {m m' m'' : Machine} {fuel : Nat}

theorem ticking (keeps : m.KeepsTime m') (before : m.Ticking) : m'.Ticking := by
  intro h' member ticks
  rcases keeps.ticks h' member ticks with runs | ⟨h, present, ticked⟩
  · exact runs
  · exact keeps.runs (before h present ticked)

theorem trans (first : m.KeepsTime m') (rest : m'.KeepsTime m'') : m.KeepsTime m'' where
  runs running := rest.runs (first.runs running)
  ticks h'' member ticks := by
    rcases rest.ticks h'' member ticks with runs | ⟨h', present, ticked⟩
    · exact .inl runs
    · exact (first.ticks h' present ticked).imp_left rest.runs

theorem of_sources (timer : m'.audio.timerRunning = m.audio.timerRunning)
    (sources : ∀ h' ∈ m'.handlers.handlers, ∃ h ∈ m.handlers.handlers, h'.kind = h.kind) : m.KeepsTime m' where
  runs running := timer.trans running
  ticks h' member ticks := by
    obtain ⟨h, present, same⟩ := sources h' member
    exact .inr ⟨h, present, same.symm.trans ticks⟩

theorem of_same (timer : m'.audio.timerRunning = m.audio.timerRunning)
    (handlers : m'.handlers.handlers = m.handlers.handlers) : m.KeepsTime m' :=
  of_sources timer fun h' member => ⟨h', handlers ▸ member, rfl⟩

theorem refl (m : Machine) : m.KeepsTime m :=
  of_same rfl rfl

theorem changeHandler (m : Machine) {change : Handler → Handler} (same : ∀ h, (change h).kind = h.kind)
    (id : HandlerId) : m.KeepsTime (m.changeHandler id change) := by
  refine of_sources rfl fun h' member => ?_
  rcases Registry.source_of_modifyFirst member with old | ⟨h, present, rfl⟩
  · exact ⟨h', old, rfl⟩
  · exact ⟨h, present, same h⟩

theorem registerHandler (m : Machine) (kind : EventKind) (body : Block) :
    m.KeepsTime (m.registerHandler kind body).2 := by
  have audio : (m.registerHandler kind body).2.audio.timerRunning =
      (decide (kind = .time) || m.audio.timerRunning) := by
    by_cases ticks : kind = .time <;> cases running : m.audio.timerRunning <;>
      simp [Machine.registerHandler, ticks, running]
  constructor
  next =>
    intro running
    rw [audio, running, Bool.or_true]
  next =>
    intro h' member ticks
    rcases List.mem_append.mp member with old | new
    · exact .inr ⟨h', old, ticks⟩
    · obtain rfl := List.mem_singleton.mp new
      have ticks : kind = .time := ticks
      exact .inl (by rw [audio, decide_eq_true ticks, Bool.true_or])

theorem setStep (m : Machine) (perUnit : Int64) : m.KeepsTime (m.setStep perUnit) := by
  unfold Machine.setStep
  split
  next h _ =>
    have same (h : Handler) : (h.setStep perUnit).kind = h.kind := rfl
    exact changeHandler m same h.id
  next => exact of_same rfl rfl

theorem effects (effects : Effects m m') : m.KeepsTime m' := by
  induction effects with
  | refl m => exact refl m
  | trans _ _ first rest => exact first.trans rest
  | report | note | putVariables | putStore | putFiles | putRandom | post | stop | settle => exact of_same rfl rfl
  | putAudio m audio timer => exact of_same timer rfl
  | register m kind body => exact registerHandler m kind body
  | setStep m perUnit => exact setStep m perUnit
  | steer m handlers each =>
    refine of_sources rfl fun h' member => ?_
    obtain ⟨h, present, steered⟩ := source_of_steered each member
    exact ⟨h, present, (Handler.Same.steered steered).kind⟩
  | pend _ _ _ _ later => exact later.trans (of_same rfl rfl)
  | @call m m' frame _ inside =>
    have entered : m.KeepsTime (m.enterCall frame) := of_same rfl rfl
    exact (entered.trans inside).trans (of_same rfl rfl)

section Runs

theorem runBody (m : Machine) (fuel : Nat) (body : Block) (pc : Nat) :
    (runBody fuel body pc m).Ends (fun _ => m.KeepsTime) m.KeepsTime :=
  (runFrom_effects fuel pc (body.drop pc) m).imp (fun _ _ ends => effects ends.1) fun _ ends => effects ends

theorem offer (m : Machine) (fuel : Nat) (id : HandlerId) :
    (offer fuel id m).Ends (fun _ => m.KeepsTime) m.KeepsTime := by
  have entered : m.KeepsTime (m.enterHandler id) := of_same rfl rfl
  have ran (h : Handler) := runBody (m.enterHandler id) fuel h.body h.pc
  have left (m' : Machine) : m'.KeepsTime m'.leaveHandler := of_same rfl rfl
  have offered := offer_offered fuel id m
  generalize CueScript.offer fuel id m = outcome at offered ⊢
  cases offered with
  | passed => exact refl m
  | waited => exact changeHandler m (fun h => (Handler.Same.poll h).kind) id
  | @ran h m' outcome found ready run =>
    have inside := ran h
    rw [run] at inside
    have finished := changeHandler m'.leaveHandler (fun h => (Handler.Same.finish h outcome).kind) id
    exact ((entered.trans inside).trans (left m')).trans finished
  | @aborted h m' fault found ready run =>
    have inside := ran h
    rw [run] at inside
    exact (entered.trans inside).trans (left m')
  | exhausted => trivial

theorem offerAll (m : Machine) (fuel : Nat) (ids : List HandlerId) :
    (offerAll fuel ids m).Ends (fun _ => m.KeepsTime) m.KeepsTime := by
  induction ids generalizing m with
  | nil => exact refl m
  | cons id rest ih =>
    have checked := effects (checkStop_effects m)
    unfold CueScript.offerAll
    generalize m.checkStop = stop at checked ⊢
    obtain ⟨stopping, m₁⟩ := stop
    cases stopping with
    | true => exact checked
    | false =>
      have ends := offer m₁ fuel id
      dsimp only at ends ⊢
      generalize CueScript.offer fuel id m₁ = outcome at ends ⊢
      cases outcome with
      | done _ m₂ =>
        have sofar := checked.trans ends
        exact (ih m₂).imp (fun _ _ => sofar.trans) fun _ => sofar.trans
      | failed fault m₂ => exact checked.trans ends
      | exhausted => trivial

theorem dispatch (m : Machine) (fuel : Nat) (event : Event) :
    (dispatch fuel event m).Ends (fun _ => m.KeepsTime) m.KeepsTime := by
  have published : m.KeepsTime (m.publish event.params) := of_same rfl rfl
  have ends := offerAll (m.publish event.params) fuel (m.handlers.idsFor event.kind)
  rw [dispatch_eq]
  generalize CueScript.offerAll fuel (m.handlers.idsFor event.kind) (m.publish event.params) = outcome at ends ⊢
  cases outcome with
  | done _ m' =>
    have swept : m'.KeepsTime m'.sweep := of_sources rfl fun h' member => ⟨h', List.mem_of_mem_filter member, rfl⟩
    exact (published.trans ends).trans swept
  | failed fault m' => exact published.trans ends
  | exhausted => trivial

theorem pump (m : Machine) (fuel : Nat) : (pump fuel m).Ends (fun _ => m.KeepsTime) m.KeepsTime := by
  unfold CueScript.pump
  split
  next => exact refl m
  next event events _ =>
    have popped : m.KeepsTime { m with events } := of_same rfl rfl
    have ends := dispatch { m with events } fuel event
    generalize CueScript.dispatch fuel event { m with events } = outcome at ends ⊢
    cases outcome with
    | done | failed => exact popped.trans ends
    | exhausted => trivial

theorem runProgram (m : Machine) (fuel : Nat) : (runProgram fuel m).Ends (fun _ => m.KeepsTime) m.KeepsTime := by
  have ends := runBody m fuel m.main 0
  rw [runProgram_eq]
  generalize CueScript.runBody fuel m.main 0 m = outcome at ends ⊢
  cases outcome with
  | exhausted => trivial
  | failed fault m' => exact ends
  | done outcome m' =>
    cases outcome with
    | completed => exact ends
    | suspended pc wait =>
      show m.KeepsTime (if m'.stopped then m' else m'.park pc wait)
      split
      · exact ends
      · -- The parked program is a handler like any other, so registering it starts the timer.
        have registered := ends.trans (registerHandler m' .time m'.main)
        let parked (h : Handler) : Handler := { h with pc, wait, oneShot := true, step := m'.step }
        have resumes (h : Handler) : (parked h).kind = h.kind := rfl
        exact registered.trans (changeHandler _ resumes m'.handlers.nextId)

theorem updateAudio (m : Machine) : m.KeepsTime m.updateAudio.2 := by
  have posted (kinds : List EventKind) (m : Machine) : m.KeepsTime (kinds.foldl (fun m kind => m.post { kind }) m) := by
    induction kinds generalizing m with
    | nil => exact refl m
    | cons kind rest ih =>
      have first : m.KeepsTime (m.post { kind }) := of_same rfl rfl
      exact first.trans (ih _)
  have updated : m.KeepsTime
      { m with audio := (m.audio.update m.now).audio, stopped := m.stopped || (m.audio.update m.now).stop } :=
    of_same (m.audio.timerRunning_update m.now) rfl
  exact updated.trans (posted _ _)

theorem turn (m : Machine) (fuel : Nat) : (turn fuel m).Ends (fun _ => m.KeepsTime) m.KeepsTime := by
  have checked := effects (checkStop_effects m)
  unfold CueScript.turn
  generalize m.checkStop = stop at checked ⊢
  obtain ⟨stopping, m₁⟩ := stop
  cases stopping with
  | true => exact checked
  | false =>
    dsimp only at checked ⊢
    split
    next => exact checked
    next =>
      have sofar := checked.trans (updateAudio m₁)
      have ends := pump m₁.updateAudio.2 fuel
      generalize CueScript.pump fuel m₁.updateAudio.2 = outcome at ends ⊢
      cases outcome with
      | done more m₂ => cases more <;> exact sofar.trans ends
      | failed fault m₂ => exact sofar.trans ends
      | exhausted => trivial

end Runs

end Machine.KeepsTime

/-- What brings a title on until it is shut down: whoever created the machine acts, or the event loop takes a turn.
Meanwhile the clock goes on, and the run may be given a time or be asked to end. -/
inductive Machine.Goes : Machine → Machine → Prop
  | ran {m m' : Machine} (fuel : Nat) (left : (runProgram fuel m).left? = some m') : Goes m m'
  | posted {m : Machine} (event : Event) : Goes m (m.post event)
  | dispatched {m m' : Machine} (fuel : Nat) (event : Event) (left : (dispatch fuel event m).left? = some m') : Goes m m'
  | pumped {m m' : Machine} (fuel : Nat) (left : (pump fuel m).left? = some m') : Goes m m'
  | turned {m m' : Machine} (fuel : Nat) (left : (turn fuel m).left? = some m') : Goes m m'
  | paced {m : Machine} (now : Nat) (deadline : Option Nat) (stopped : Bool) : Goes m { m with now, deadline, stopped }

/-- A step of a script: a statement, a block, the value of an operand or a call. -/
inductive Machine.Steps (m m' : Machine) : Prop
  | statement (fuel : Nat) (inst : Instruction) (left : (exec fuel inst m).left? = some m')
  | block (fuel : Nat) (body : Block) (left : (execBlock fuel body m).left? = some m')
  | operand (fuel : Nat) (operand : Operand) (left : (eval fuel operand m).left? = some m')
  | call (fuel : Nat) (name : String) (args : List Value) (left : (callNamed fuel name args m).left? = some m')

section Going

variable {m m' : Machine}

theorem Machine.Goes.keepsTime (goes : m.Goes m') : m.KeepsTime m' := by
  cases goes with
  | ran fuel left => exact (KeepsTime.runProgram m fuel).left left
  | posted | paced => exact .of_same rfl rfl
  | dispatched fuel event left => exact (KeepsTime.dispatch m fuel event).left left
  | pumped fuel left => exact (KeepsTime.pump m fuel).left left
  | turned fuel left => exact (KeepsTime.turn m fuel).left left

theorem Machine.Steps.keepsTime (steps : m.Steps m') : m.KeepsTime m' := by
  cases steps with
  | statement fuel inst left => exact .effects (exec_effects left)
  | block fuel body left => exact .effects (execBlock_effects left)
  | operand fuel operand left => exact .effects (eval_effects left)
  | call fuel name args left => exact .effects (callNamed_effects left)

theorem Machine.Ticking.goes (before : m.Ticking) (goes : Relation.ReflTransGen Machine.Goes m m') : m'.Ticking := by
  induction goes with
  | refl => exact before
  | tail _ step ih => exact step.keepsTime.ticking ih

theorem Machine.Ticking.created {program : Program} {settings : Settings} {audio : Audio} {disk : Disk} {seed : UInt64}
    {grants : Allocator} {draw : UInt64 → List Nat → Nat}
    (created : Machine.create program settings audio disk seed grants draw = .ok m) : m.Ticking := by
  unfold Machine.create at created
  split at created
  · cases created
  · cases created
    exact nofun

end Going

/-- A handler for ticks has a timer that runs, whatever has happened before the machine is shut down; and a timer that
runs goes on, whatever a script does. -/
theorem time_handlers_have_running_timer {program : Program} {settings : Settings} {audio : Audio} {disk : Disk}
    {seed : UInt64} {grants : Allocator} {draw : UInt64 → List Nat → Nat} {start m : Machine}
    (created : Machine.create program settings audio disk seed grants draw = .ok start)
    (reached : Relation.ReflTransGen Machine.Goes start m) :
    ((∃ h ∈ m.handlers.handlers, h.kind = .time) → m.audio.timerRunning = true) ∧
    (∀ n n' : Machine, n.Goes n' → n.audio.timerRunning = true → n'.audio.timerRunning = true) ∧
    ∀ n n' : Machine, n.Steps n' → n.audio.timerRunning = true → n'.audio.timerRunning = true := by
  have ticking : m.Ticking := (Machine.Ticking.created created).goes reached
  refine ⟨?_, fun n n' goes => goes.keepsTime.runs, fun n n' steps => steps.keepsTime.runs⟩
  rintro ⟨h, member, ticks⟩
  exact ticking h member ticks

def clickedTitle : Program where
  instructions := [
    .mk .onEvent [.text "LBDOWN", .block [
      .mk .call [.text "StopMIDI"] none,
      .mk .onEvent [.text "TIME", .block []] none]] none]

theorem clicked_title_ticks : ∃ start m,
    Machine.create clickedTitle { headless := true } (.standIn { timer := .ofRate 60 }) {} 0 = .ok start ∧
    start.audio.timerRunning = false ∧ Relation.ReflTransGen Machine.Goes start m ∧
    (∃ h ∈ m.handlers.handlers, h.kind = .time) ∧ m.audio.timerRunning = true := by
  have trace : ((Machine.create clickedTitle { headless := true } (.standIn { timer := .ofRate 60 }) {} 0).toOption.bind
      fun start => (runProgram 3 start).left?.bind fun ran => (dispatch 3 { kind := .leftDown } ran).left?.map fun m =>
        (start.audio.timerRunning, m.handlers.handlers.map (·.kind))) = some (false, [.leftDown, .time]) := by
    decide +kernel
  obtain ⟨start, made, trace⟩ := Option.bind_eq_some_iff.mp trace
  have created := ok_of_toOption made
  obtain ⟨ran, program, trace⟩ := Option.bind_eq_some_iff.mp trace
  obtain ⟨m, event, shown⟩ := Option.map_eq_some_iff.mp trace
  obtain ⟨silent, kinds⟩ := Prod.mk.inj shown
  have reached : Relation.ReflTransGen Machine.Goes start m :=
    .tail (.single (.ran 3 program)) (.dispatched 3 { kind := .leftDown } event)
  have handler : ∃ h ∈ m.handlers.handlers, h.kind = .time := by
    have last : EventKind.time ∈ m.handlers.handlers.map (·.kind) := by simp [kinds]
    simpa using last
  have runs := (time_handlers_have_running_timer created reached).1 handler
  exact ⟨start, m, created, silent, reached, handler, runs⟩

end CueScript
