import CueScript.Proofs.Handler.Frame
import CueScript.Proofs.Machine.Driving
import CueScript.Proofs.Machine.Twin

/-!
When the event loop is over. It ends once no handler is registered, so handlers that were retired must not stay behind.
Every dispatch sweeps them out. Before the first one only the program has run, and it can retire handlers in no other way
than by calling `del_all`.
-/

set_option autoImplicit false

namespace CueScript

open Run

def Vocabulary.calling (names : String → Bool) : Vocabulary where
  callee name := names (Text.lower name)

mutual

/-- Whether running the block calls by name only what is in `names`. Blocks that are left to later do not count. -/
def blockCallsOnly (names : String → Bool) : List Instruction → Bool
  | [] => true
  | inst :: rest => (inst.op.postpones || inst.callsOnly names) && blockCallsOnly names rest

def Instruction.callsOnly (names : String → Bool) : Instruction → Bool
  | .mk op args _ => (op != .call || (Vocabulary.calling names).allowsCall args) && operandsCallOnly names args

def operandsCallOnly (names : String → Bool) : List Operand → Bool
  | [] => true
  | arg :: rest => arg.callsOnly names && operandsCallOnly names rest

def Operand.callsOnly (names : String → Bool) : Operand → Bool
  | .node inst => inst.callsOnly names
  | .block body => blockCallsOnly names body
  | _ => true

end

def FunctionDef.callsOnly (names : String → Bool) (f : FunctionDef) : Bool :=
  blockCallsOnly names f.body && f.params.all fun p => p.default.all (·.callsOnly names)

/-- Whether running the program calls by name only what is in `names`, directly or in functions that it calls. -/
def Program.callsOnly (names : String → Bool) (program : Program) : Bool :=
  blockCallsOnly names program.instructions &&
    program.collectFunctions.2.all fun entry => !names entry.1 || entry.2.callsOnly names

section Calls

variable {names : String → Bool}

def Instruction.Confined (names : String → Bool) (inst : Instruction) : Prop :=
  inst.op.postpones = true ∨ inst.callsOnly names = true

def Operand.Confined (names : String → Bool) (a a' : Operand) : Prop :=
  a' = a ∧ a.callsOnly names = true

theorem operandsCallOnly_iff {args : List Operand} :
    operandsCallOnly names args = true ↔ ∀ arg ∈ args, arg.callsOnly names = true := by
  induction args with
  | nil => simp [operandsCallOnly]
  | cons arg rest ih => simp [operandsCallOnly, ih]

theorem confined_of_blockCallsOnly {body : Block} (only : blockCallsOnly names body = true) :
    ∀ inst ∈ body, inst.Confined names := by
  induction body with
  | nil => exact nofun
  | cons first rest ih =>
    simp only [blockCallsOnly, Bool.and_eq_true, Bool.or_eq_true] at only
    intro inst member
    rcases List.mem_cons.mp member with rfl | later
    · exact only.1
    · exact ih only.2 inst later

theorem Instruction.paired_of_callsOnly {inst : Instruction} (only : inst.callsOnly names = true) :
    inst.Paired (.calling names) (Operand.Confined names) inst := by
  cases inst with
  | mk op args line =>
    simp only [Instruction.callsOnly, Bool.and_eq_true, Bool.or_eq_true, bne_iff_ne] at only
    obtain ⟨called, operands⟩ := only
    refine ⟨rfl, rfl, rfl, fun calls => called.resolve_left (absurd calls), ?_, fun _ => rfl⟩
    exact List.forall₂_same.mpr fun arg member => ⟨rfl, operandsCallOnly_iff.mp operands arg member⟩

theorem pairing_of_callsOnly (names : String → Bool) :
    Pairing (.calling names) (Instruction.Confined names) (Operand.Confined names) where
  name paired := by rw [paired.1]
  mention _ _ := rfl
  block paired := by rw [paired.1]
  body {a _ body} paired held := by
    cases a with
    | block own =>
      cases held
      exact confined_of_blockCallsOnly (by simpa only [Operand.callsOnly] using paired.2)
    | nil | int | float | text | var | node => cases held
  arm paired _ := Instruction.paired_of_callsOnly (by simpa only [Operand.callsOnly] using paired.2)

end Calls

/-- The program runs, not a handler, and unless the run is to end no handler is retired. -/
structure Machine.Tidy (names : String → Bool) (m : Machine) : Prop where
  current : m.current = none
  builtins : m.builtins = Builtin.standard
  functions : ∀ entry ∈ m.functions, names entry.1 = true → entry.2.callsOnly names = true
  kept : m.stopped = true ∨ ∀ h ∈ m.handlers.handlers, h.retired = false

namespace Machine.Tidy

variable {names : String → Bool} {m m₁ m₂ : Machine} {fuel : Nat}

-- What the program does to anything but handlers leaves the machine tidy.
theorem update (tidy : m.Tidy names) {globals : Bindings} {frames : List Bindings} {store : Store} {events : EventQueue}
    {files : Files} {audio : Audio} {step : Int64} {pendingWait : Option Int64} {random : Generator}
    {log : Array LogRecord} {calls : List CallRecord} :
    Tidy names { m with globals, frames, store, events, files, audio, step, pendingWait, random, log, calls } :=
  ⟨tidy.current, tidy.builtins, tidy.functions, tidy.kept⟩

theorem stop (tidy : m.Tidy names) (handlers : Registry) : Tidy names { m with handlers, stopped := true } :=
  ⟨tidy.current, tidy.builtins, tidy.functions, .inl rfl⟩

theorem declare (tidy : m.Tidy names) (name : String) (value : Value) : (m.declare name value).Tidy names := by
  obtain ⟨globals, frames, _, declared⟩ := declare_writes m name value
  exact declared m rfl rfl ▸ tidy.update

theorem assign (tidy : m.Tidy names) (name : String) (value : Value) : (m.assign name value).Tidy names := by
  obtain ⟨globals, frames, _, assigned⟩ := assign_writes m name value
  exact assigned m rfl rfl ▸ tidy.update

theorem running?_eq_none (tidy : m.Tidy names) : m.running? = none := by
  rw [Machine.running?, tidy.current, Option.bind_none]

theorem setStep (tidy : m.Tidy names) (perUnit : Int64) : (m.setStep perUnit).Tidy names := by
  unfold Machine.setStep
  rw [tidy.running?_eq_none]
  exact tidy.update

theorem register (tidy : m.Tidy names) (kind : EventKind) (body : Block) :
    (m.registerHandler kind body).2.Tidy names := by
  refine ⟨tidy.current, tidy.builtins, tidy.functions, tidy.kept.imp_right fun kept h member => ?_⟩
  rcases List.mem_append.mp member with old | new
  · exact kept h old
  · rw [List.mem_singleton.mp new]

theorem changeHandler (tidy : m.Tidy names) (change : Handler → Handler) (keeps : ∀ h, (change h).retired = h.retired)
    (id : HandlerId) : (m.changeHandler id change).Tidy names := by
  refine ⟨tidy.current, tidy.builtins, tidy.functions, tidy.kept.imp_right fun kept h' member => ?_⟩
  rcases Registry.source_of_modifyFirst member with old | ⟨h, present, rfl⟩
  · exact kept h' old
  · exact (keeps h).trans (kept h present)

theorem park (tidy : m.Tidy names) (pc : Nat) (wait : Int64) : (m.park pc wait).Tidy names :=
  (tidy.register .time m.main).changeHandler (fun h => { h with pc, wait, oneShot := true, step := m.step })
    (fun _ => rfl) m.handlers.nextId

def Both (names : String → Bool) (m₁ m₂ : Machine) : Prop :=
  m₁ = m₂ ∧ m₁.Tidy names

theorem reporting (names : String → Bool) : Reporting (Both names) where
  alike joined := joined.1 ▸ Machine.Alike.refl _
  handlers joined := by rw [joined.1]
  report _ _ joined := ⟨by rw [joined.1], joined.2.update⟩
  note _ joined := ⟨by rw [joined.1], joined.2.update⟩
  post _ joined := ⟨by rw [joined.1], joined.2.update⟩

section Steering

theorem retireAll_of_standard : Builtin.standard.all (fun entry =>
    match entry.2 with
    | .retireAll => entry.1 == "del_all"
    | _ => true) = true := by
  decide +kernel

theorem not_retireAll (standard : m.builtins = Builtin.standard) (spared : names "del_all" = false) {name : String}
    (callee : (Vocabulary.calling names).callee name = true) : m.builtin? name ≠ some .retireAll := by
  intro found
  rw [Machine.builtin?, standard] at found
  have called : Text.lower name = "del_all" := by
    simpa using List.all_eq_true.mp retireAll_of_standard _ (mem_of_lookup found)
  have allowed : names (Text.lower name) = true := callee
  rw [called, spared] at allowed
  cases allowed

theorem steering {b : Builtin} (steers : b.steers = true) (other : b ≠ .retireAll) (args : List Value) :
    Parallel .fuel (Both names) (b.traced args) (b.traced args) := by
  have noted (silent : CallRecord.posted? (.builtin b args) = none)
      (value : Parallel .fuel (Both names) (b.value args) (b.value args)) :
      Parallel .fuel (Both names) (b.traced args) (b.traced args) :=
    ((reporting names).noting silent).bind fun _ _ => value
  have changing (change : Handler → Handler) (keeps : ∀ h, (change h).retired = h.retired) (id : HandlerId) :
      Parallel .fuel (Both names) (modify fun m => { m with handlers := m.handlers.modify id change })
        (modify fun m => { m with handlers := m.handlers.modify id change }) :=
    parallel_modify fun _ _ joined => ⟨by rw [joined.1], joined.2.changeHandler change keeps id⟩
  cases b with
  -- Outside of handlers `del_me` and `del_us` find nothing to retire.
  | retireMe =>
    refine noted rfl (Actions.zeroAfter ?_)
    rintro m _ ⟨rfl, tidy⟩
    simp only [Action.retireMe, bind, Run.bind, Run.read, tidy.current]
    exact .done trivial ⟨rfl, tidy.update⟩
  | retireKind =>
    refine noted rfl (Actions.zeroAfter ?_)
    rintro m _ ⟨rfl, tidy⟩
    simp only [Action.retireKind, bind, Run.bind, Run.read, tidy.running?_eq_none]
    exact .done trivial ⟨rfl, tidy.update⟩
  | retireAll => exact absurd rfl other
  | freeze =>
    exact noted rfl (Actions.zeroAfter ((reporting names).steer_with _ (changing Handler.freeze fun _ => rfl) args))
  | activate =>
    refine noted rfl (Actions.zeroAfter ((reporting names).steer_with _ (changing Handler.activate fun h => ?_) args))
    unfold Handler.activate
    split <;> rfl
  | post => exact (reporting names).posting args
  | exitTitle =>
    -- It retires all handlers, but there will be no loop any more that could miss them.
    refine noted rfl ?_
    rintro m _ ⟨rfl, tidy⟩
    exact .done trivial ⟨rfl, tidy.stop _⟩
  | _ => cases steers

end Steering

theorem actions (spared : names "del_all" = false) (P : Instruction → Prop) :
    Actions .fuel (.calling names) P (fun f => f.callsOnly names = true) (Both names) fun _ => True where
  alike joined := joined.1 ▸ Machine.Alike.refl _
  lookup _ joined := by rw [joined.1]
  builtin _ joined := by rw [joined.1]
  function callee joined _ found := ⟨joined.2.functions _ (mem_of_lookup found) callee, joined.1 ▸ found⟩
  undefined _ joined missing := .inr (joined.1 ▸ missing)
  report severity text joined := (reporting names).report severity text joined
  note silent joined := (reporting names).note silent joined
  assign value _ joined := ⟨by rw [joined.1], joined.2.assign _ value⟩
  declare value _ joined := ⟨by rw [joined.1], joined.2.declare _ value⟩
  putStore _ joined := ⟨by rw [joined.1], joined.2.update⟩
  putFiles _ joined := ⟨by rw [joined.1], joined.2.update⟩
  putRandom _ joined := ⟨by rw [joined.1], joined.2.update⟩
  register kind _ _ _ joined := by
    obtain ⟨rfl, tidy⟩ := joined
    exact ⟨rfl, rfl, tidy.register kind _⟩
  setStep perUnit _ joined := ⟨by rw [joined.1], joined.2.setStep perUnit⟩
  wait _ _ joined := ⟨by rw [joined.1], trivial⟩
  pend _ joined := ⟨by rw [joined.1], joined.2.update⟩
  waits _ _ _ _ := rfl
  steers callee joined found steers := by
    refine steering steers ?_
    rintro rfl
    exact not_retireAll joined.2.builtins spared callee found
  plays b plays args := by
    rintro m _ ⟨rfl, tidy⟩
    obtain ⟨audio, log, played⟩ := Twin.playing_unseen plays args m
    rw [played]
    exact .done trivial ⟨rfl, tidy.update⟩
  loops _ _ := trivial

theorem settles (names : String → Bool) : Settles (Both names) fun _ => True where
  pending joined := by rw [joined.1]
  owed _ _ := trivial
  settle joined := ⟨by rw [joined.1], joined.2.update⟩

theorem callAlike {inner : Inner} (spared : names "del_all" = false)
    (agree : Inner.Agree .fuel (.calling names) (Instruction.Confined names) (Operand.Confined names) (Both names)
      (fun _ => True) inner inner) :
    Inner.CallAlike .fuel (fun f => f.callsOnly names = true) (Both names) (fun _ => True) inner inner := by
  intro f args only
  have acts := actions spared (Instruction.Confined names)
  simp only [FunctionDef.callsOnly, Bool.and_eq_true, List.all_eq_true] at only
  obtain ⟨body, defaults⟩ := only
  refine Inner.Agree.callFunction acts (fun _ _ _ _ joined => ?_) (fun _ _ joined => ?_)
    fun _ _ _ _ => ⟨?_, fun frame m₁ m₂ joined => ?_⟩
  · exact ⟨by rw [joined.1], joined.2.update⟩
  · exact Machine.room_of_same (by rw [joined.1]) (by rw [joined.1])
  · refine agree.bindParams (fun p member operand fallback => ⟨rfl, ?_⟩) _ args
    simpa [fallback] using defaults p member
  · have block := Inner.Agree.block acts agree (confined_of_blockCallsOnly body)
    refine Inner.Agree.inFrame frame block ?_ (fun _ _ => trivial) fun _ _ joined => ?_
    · exact ⟨by rw [joined.1], joined.2.update⟩
    · exact ⟨by rw [joined.1], joined.2.update⟩

theorem interpreter_tidy (spared : names "del_all" = false) (fuel : Nat) :
    Inner.Agree .fuel (.calling names) (Instruction.Confined names) (Operand.Confined names) (Both names) (fun _ => True)
      (interpreter fuel) (interpreter fuel) := by
  induction fuel with
  | zero => exact Inner.Agree.exhausted (pairing_of_callsOnly names) trivial _
  | succ fuel ih =>
    have acts := actions spared (Instruction.Confined names)
    have calls := callAlike spared ih
    refine ⟨pairing_of_callsOnly names, fun {inst} confined => ?_, fun {a a'} paired => ?_⟩
    · rcases confined with postpones | only
      -- The operands of what is postponed need not be paired: its block is free to call `del_all` later.
      · have performed := Inner.Agree.postponed (actions spared fun _ => True) rfl postpones (interpreter fuel) fuel
        exact Inner.Agree.settled acts (settles names) performed rfl
      · have pair := Instruction.paired_of_callsOnly only
        exact Inner.Agree.statement acts (settles names) ih calls (Nat.le_refl fuel) pair
    · obtain ⟨rfl, only⟩ := paired
      refine Inner.Agree.operand acts ih calls (fun _ _ => rfl) ?_
      rintro inst rfl
      exact Instruction.paired_of_callsOnly (by simpa only [Operand.callsOnly] using only)

theorem pacing (names : String → Bool) : Pacing (Both names) where
  outer joined := by
    obtain ⟨rfl, _⟩ := joined
    exact ⟨rfl, rfl, rfl, rfl, rfl, rfl, rfl⟩
  report severity text joined := (reporting names).report severity text joined
  stop joined := ⟨by rw [joined.1], joined.2.stop _⟩

theorem runProgram (tidy : m.Tidy names) (spared : names "del_all" = false) (main : blockCallsOnly names m.main = true)
    {m' : Machine} (ran : runProgram fuel m = .done () m') : m'.Tidy names := by
  have executes (inst : Instruction) (member : inst ∈ m.main.drop 0) :
      Parallel .fuel (Both names) (exec fuel inst) (exec fuel inst) :=
    ((interpreter_tidy spared fuel).exec (confined_of_blockCallsOnly main inst member)).weaken fun _ _ => trivial
  have ends := (pacing names).runFrom executes 0 m m ⟨rfl, tidy⟩
  rw [runProgram_eq, runBody] at ran
  generalize runFrom fuel 0 (m.main.drop 0) m = outcome at ends ran
  cases outcome with
  | failed | exhausted => cases ran
  | done outcome n =>
    obtain ⟨_, _, _, after⟩ := ends.of_done
    cases outcome with
    | completed =>
      cases ran
      exact after
    | suspended pc wait =>
      cases ran
      split
      · exact after
      · exact after.park pc wait

end Machine.Tidy

/-- The states in which the event loop asks whether it is over, after the program ran from `start`; told with each is
whether an event was dispatched before. -/
inductive LoopHead (fuel : Nat) (start : Machine) : Bool → Machine → Prop
  | first {m : Machine} (ran : runProgram fuel start = .done () m) (going : m.stopped = false) :
    LoopHead fuel start false m
  | busy {dispatched : Bool} {m m' : Machine} (before : LoopHead fuel start dispatched m)
    (turned : turn fuel m = .done .busy m') : LoopHead fuel start true m'
  | idle {dispatched : Bool} {m m' : Machine} (before : LoopHead fuel start dispatched m)
    (turned : turn fuel m = .done .idle m') : LoopHead fuel start dispatched { m' with now := m'.now + idleTime }

section Turns

variable {fuel : Nat} {m m' : Machine}

inductive Turned (fuel : Nat) (m : Machine) : Outcome Turn → Prop
  | finished (ended : m.checkStop.1 = true ∨ m.handlers.isEmpty = true) : Turned fuel m (.done .finished m.checkStop.2)
  | busy {event : Event} {n m' : Machine} (left : m.handlers.isEmpty = false)
    (ran : dispatch fuel event n = .done () m') : Turned fuel m (.done .busy m')
  | idle (left : m.handlers.isEmpty = false) : Turned fuel m (.done .idle m.checkStop.2.updateAudio.2)
  | broken {fault : Fault} {m' : Machine} (left : m.handlers.isEmpty = false) : Turned fuel m (.failed fault m')
  | exhausted (left : m.handlers.isEmpty = false) : Turned fuel m .exhausted

theorem turn_turned (fuel : Nat) (m : Machine) : Turned fuel m (turn fuel m) := by
  have finished : _ → Turned fuel m _ := .finished
  have idle : _ → Turned fuel m _ := .idle
  have same := handlers_checkStop m
  unfold turn
  generalize m.checkStop = stop at finished idle same ⊢
  obtain ⟨stopping, m₁⟩ := stop
  cases stopping with
  | true => exact finished (.inl rfl)
  | false =>
    dsimp only at finished idle same ⊢
    rw [same]
    cases left : m.handlers.isEmpty with
    | true => exact finished (.inr left)
    | false =>
      simp only [Bool.false_eq_true, if_false, pump]
      cases popped : m₁.updateAudio.2.events.pop? with
      | none => exact idle left
      | some next =>
        dsimp only
        cases ran : dispatch fuel next.1 { m₁.updateAudio.2 with events := next.2 } with
        | done _ m' => exact .busy left ran
        | failed fault m' => exact .broken left
        | exhausted => exact .exhausted left

theorem handlers_updateAudio (m : Machine) : m.updateAudio.2.handlers = m.handlers := by
  have posted (kinds : List EventKind) (m : Machine) :
      (kinds.foldl (fun m kind => m.post { kind }) m).handlers = m.handlers := by
    induction kinds generalizing m with
    | nil => rfl
    | cons kind rest ih => exact ih (m.post { kind })
  exact posted _ _

theorem handlers_of_idle (turned : turn fuel m = .done .idle m') : m'.handlers = m.handlers := by
  have ends := turn_turned fuel m
  rw [turned] at ends
  cases ends with
  | idle => rw [handlers_updateAudio, handlers_checkStop]

theorem retired_of_busy (turned : turn fuel m = .done .busy m') : ∀ h ∈ m'.handlers.handlers, h.retired = false := by
  have ends := turn_turned fuel m
  rw [turned] at ends
  cases ends with
  | busy _ ran => exact fun h member => retired_of_dispatch ran member

theorem finished_of_isEmpty (none : m.handlers.isEmpty = true) (fuel : Nat) :
    turn fuel m = .done .finished m.checkStop.2 := by
  have turned := turn_turned fuel m
  generalize turn fuel m = outcome at turned ⊢
  cases turned with
  | finished => rfl
  | busy left | idle left | broken left | exhausted left => rw [none] at left; cases left

end Turns

theorem Machine.Tidy.created {program : Program} {settings : Settings} {audio : Audio} {disk : Disk} {seed : UInt64}
    {grants : Allocator} {draw : UInt64 → List Nat → Nat} {names : String → Bool} {m : Machine}
    (created : Machine.create program settings audio disk seed grants draw = .ok m)
    (only : program.callsOnly names = true) : m.startClock.Tidy names ∧ blockCallsOnly names m.main = true := by
  simp only [Program.callsOnly, Bool.and_eq_true, List.all_eq_true, Bool.or_eq_true, Bool.not_eq_true'] at only
  obtain ⟨main, functions⟩ := only
  unfold Machine.create at created
  split at created
  · cases created
  · cases created
    refine ⟨⟨rfl, rfl, fun entry member known => ?_, .inr nofun⟩, main⟩
    exact (functions entry member).resolve_left (by simp [known])

theorem LoopHead.retired {fuel : Nat} {start head : Machine} {dispatched : Bool}
    (reached : LoopHead fuel start dispatched head)
    (first : dispatched = false → ∀ m, runProgram fuel start = .done () m → m.stopped = false →
      ∀ h ∈ m.handlers.handlers, h.retired = false) :
    ∀ h ∈ head.handlers.handlers, h.retired = false := by
  induction reached with
  | first ran going => exact first rfl _ ran going
  | busy _ turned => exact retired_of_busy turned
  | @idle dispatched m m' _ turned ih =>
    have same : m'.handlers = m.handlers := handlers_of_idle turned
    intro h member
    exact ih first h (same ▸ member)

theorem Registry.isEmpty_iff_none_live {r : Registry} (kept : ∀ h ∈ r.handlers, h.retired = false) :
    r.isEmpty = true ↔ ¬ ∃ h ∈ r.handlers, h.retired = false := by
  rw [Registry.isEmpty, List.isEmpty_iff, List.eq_nil_iff_forall_not_mem]
  exact ⟨fun none ⟨h, member, _⟩ => none h member, fun none h member => none ⟨h, member, kept h member⟩⟩

theorem loop_exit_counts_live_handlers {program : Program} {settings : Settings} {audio : Audio} {disk : Disk}
    {seed : UInt64} {grants : Allocator} {draw : UInt64 → List Nat → Nat} {m head : Machine} {fuel : Nat}
    {dispatched : Bool}
    (created : Machine.create program settings audio disk seed grants draw = .ok m)
    (reached : LoopHead fuel m.startClock dispatched head)
    (spared : dispatched = true ∨ ∃ names, names "del_all" = false ∧ program.callsOnly names = true) :
    (∀ h ∈ head.handlers.handlers, h.retired = false) ∧
    (head.handlers.isEmpty = true ↔ ¬ ∃ h ∈ head.handlers.handlers, h.retired = false) ∧
    ((¬ ∃ h ∈ head.handlers.handlers, h.retired = false) → ∃ m', turn fuel head = .done .finished m') := by
  have kept : ∀ h ∈ head.handlers.handlers, h.retired = false := by
    refine reached.retired fun early n ran going => ?_
    obtain ⟨names, spared, only⟩ := spared.resolve_left (by simp [early])
    obtain ⟨tidy, main⟩ := Machine.Tidy.created created only
    exact (tidy.runProgram spared main ran).kept.resolve_left (by simp [going])
  have counts := Registry.isEmpty_iff_none_live kept
  exact ⟨kept, counts, fun none => ⟨_, finished_of_isEmpty (counts.mpr none) fuel⟩⟩

def closingTitle : Program where
  instructions :=
    [.mk .onEvent [.text "LBDOWN", .block []] none,
     .mk .onEvent [.text "TIME", .block [.mk .call [.text "close"] none]] none]
  functions := [("close", { name := "close", body := [.mk .call [.text "del_all"] none] })]

theorem closing_title_leaves_loop : ∃ m early late,
    Machine.create closingTitle { headless := true } (.scripted { updates := [[.time]] }) {} 0 = .ok m ∧
    LoopHead 5 m.startClock false early ∧ early.handlers.size = 2 ∧ (∀ h ∈ early.handlers.handlers, h.retired = false) ∧
    LoopHead 5 m.startClock true late ∧ (¬ ∃ h ∈ late.handlers.handlers, h.retired = false) ∧
    ∃ m', turn 5 late = .done .finished m' := by
  have trace : ((Machine.create closingTitle { headless := true } (.scripted { updates := [[.time]] }) {} 0).toOption.bind
      fun m => (runProgram 5 m.startClock).result?.bind fun early => (turn 5 early.2).result?.map fun late =>
        (early.2.stopped, early.2.handlers.size, late.1, late.2.handlers.isEmpty)) = some (false, 2, .busy, true) := by
    decide +kernel
  have only : closingTitle.callsOnly (fun _ => false) = true := by decide +kernel
  cases created : Machine.create closingTitle { headless := true } (.scripted { updates := [[.time]] }) {} 0 with
  | error =>
    rw [created] at trace
    cases trace
  | ok m =>
    rw [created] at trace
    obtain ⟨_, made, trace⟩ := Option.bind_eq_some_iff.mp trace
    cases made
    obtain ⟨early, ran, trace⟩ := Option.bind_eq_some_iff.mp trace
    obtain ⟨late, turned, shown⟩ := Option.map_eq_some_iff.mp trace
    simp only [Prod.mk.injEq] at shown
    obtain ⟨going, size, busy, none⟩ := shown
    have first : LoopHead 5 m.startClock false early.2 := .first (Outcome.done_of_result ran) going
    have second : LoopHead 5 m.startClock true late.2 := .busy first (busy ▸ Outcome.done_of_result turned)
    have before := loop_exit_counts_live_handlers created first (.inr ⟨_, rfl, only⟩)
    have after := loop_exit_counts_live_handlers created second (.inl rfl)
    exact ⟨m, early.2, late.2, rfl, first, size, before.1, second, after.2.1.mp none, after.2.2 (after.2.1.mp none)⟩

section Deserted

variable {m : Machine}

structure Machine.Deserted (m : Machine) : Prop where
  stopped : m.stopped = false
  deadline : m.deadline = none
  left : m.handlers.isEmpty = false
  events : m.events.pop? = none
  audio : ∃ device, m.audio = .silent device

theorem Machine.Deserted.turn (deserted : m.Deserted) (fuel : Nat) : turn fuel m = .done .idle m := by
  obtain ⟨device, silent⟩ := deserted.audio
  have checked : m.checkStop = (false, m) := by simp [Machine.checkStop, deserted.stopped, deserted.deadline]
  have updated : m.updateAudio.2 = m := by
    simp only [Machine.updateAudio, silent, Audio.update, List.foldl_nil, Bool.or_false]
    rw [← silent]
  simp only [CueScript.turn, checked, deserted.left, Bool.false_eq_true, if_false, updated, pump, deserted.events]

theorem Machine.Deserted.eventLoop (deserted : m.Deserted) (fuel turns : Nat) : eventLoop fuel turns m = .exhausted := by
  induction turns generalizing m with
  | zero => rfl
  | succ turns ih =>
    simp only [CueScript.eventLoop, deserted.turn fuel]
    -- Only the clock has gone on.
    exact ih ⟨deserted.stopped, deserted.deadline, deserted.left, deserted.events, deserted.audio⟩

theorem Machine.Deserted.run {least : Nat} {start : Machine} (deserted : m.Deserted)
    (ran : runProgram least start.startClock = .done () m) (fuel : Nat) : run fuel start = .exhausted := by
  have ends : runProgram fuel start.startClock = .exhausted ∨ runProgram fuel start.startClock = .done () m := by
    rcases Nat.le_total fuel least with fewer | enough
    · have agrees := driving_same.runProgram (executes_same fewer) start.startClock start.startClock rfl
      rw [ran] at agrees
      generalize runProgram fuel start.startClock = outcome at agrees ⊢
      cases agrees with
      | done _ same => exact .inr (by rw [same])
      | exhausted => exact .inl rfl
      | abandoned excused => exact excused.elim
    · have agrees := driving_same.runProgram (executes_same enough) start.startClock start.startClock rfl
      rw [ran] at agrees
      obtain ⟨_, same, rfl⟩ := agrees.of_done
      exact .inr same
  simp only [CueScript.run, bind, Run.bind, Run.modify, Run.afterwards]
  rcases ends with used | done
  · rw [used]
  · rw [done]
    simp only [deserted.eventLoop]

end Deserted

def lingeringTitle : Program where
  instructions := [.mk .onEvent [.text "LBDOWN", .block []] none, .mk .call [.text "del_all"] none]

theorem lingering_handler_keeps_loop_idle : ∃ m,
    Machine.create lingeringTitle { headless := true } (.silent {}) {} 0 = .ok m ∧
    (∃ head, LoopHead 1 m.startClock false head ∧ head.handlers.isEmpty = false ∧
      ∀ h ∈ head.handlers.handlers, h.retired = true) ∧
    ∀ fuel, run fuel m = .exhausted := by
  have trace : ((Machine.create lingeringTitle { headless := true } (.silent {}) {} 0).toOption.bind fun m =>
      (runProgram 1 m.startClock).result?.map fun (_, head) => (head.stopped, head.deadline,
        head.handlers.handlers.map (·.retired), head.events.pop?.isNone, head.audio matches .silent _)) =
      some (false, none, [true], true, true) := by
    decide +kernel
  cases created : Machine.create lingeringTitle { headless := true } (.silent {}) {} 0 with
  | error =>
    rw [created] at trace
    cases trace
  | ok m =>
    rw [created] at trace
    obtain ⟨_, made, trace⟩ := Option.bind_eq_some_iff.mp trace
    cases made
    obtain ⟨⟨_, head⟩, result, shown⟩ := Option.map_eq_some_iff.mp trace
    simp only [Prod.mk.injEq, Option.isNone_iff_eq_none] at shown
    obtain ⟨going, endless, retired, quiet, silent⟩ := shown
    have ran := Outcome.done_of_result result
    have left : head.handlers.isEmpty = false := by
      rw [Registry.isEmpty, ← List.isEmpty_map (f := (·.retired)), retired]
      rfl
    have deserted : head.Deserted := by
      refine ⟨going, endless, left, quiet, ?_⟩
      cases device : head.audio with
      | silent d => exact ⟨d, rfl⟩
      | standIn | scripted => simp [device] at silent
    refine ⟨m, rfl, ⟨head, .first ran going, left, fun h member => ?_⟩, deserted.run ran⟩
    have marked : h.retired ∈ head.handlers.handlers.map (·.retired) := List.mem_map_of_mem member
    simpa [retired] using marked

end CueScript
