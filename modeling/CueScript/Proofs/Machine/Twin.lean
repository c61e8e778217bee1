import CueScript.Machine.Create
import CueScript.Machine.Dispatch
import CueScript.Proofs.Machine.Interpreter

/-!
A program that leaves handlers alone does not notice whether it runs on its own or as a handler: two machines, of which
one runs the program as it is and the other has it parked, stay twins.
-/

set_option autoImplicit false

namespace CueScript

def controlNames : List String :=
  ["del_me", "end_step", "del_us", "del_all", "FreezeMes", "ActivateMes", "PostMes", "Wait", "ExitTitle"]

/-- Scripts that do not wait, neither register nor steer handlers, and do not look at the parameters of events. -/
def Vocabulary.quiet : Vocabulary where
  opcode op := op != .wait && op != .onEvent
  mention name := !paramNames.contains name
  callee name := !(controlNames.map Text.lower).contains (Text.lower name)

structure Machine.Undisturbed (m : Machine) : Prop where
  stopped : m.stopped = false
  deadline : m.deadline = none
  pending : m.pendingWait = none
  builtins : m.builtins = Builtin.standard
  functions : ∀ key f, m.functions.find? key = some f → f.within .quiet = true

/-- The machine runs what was parked as `parked`, its only handler, or else runs without any, with the given step. -/
def Machine.RunsAs (parked : Option Handler) (step : Int64) (m : Machine) : Prop :=
  match parked with
  | none => m.handlers.handlers = [] ∧ m.current = none ∧ m.step = step
  | some h => m.handlers.handlers = [{ h with step }] ∧ m.current = some h.id ∧ h.retired = false

structure Twin (parked : Option Handler) (m₁ m₂ : Machine) : Prop where
  alike : m₁.Alike m₂
  limit : m₁.settings.stackLimit = m₂.settings.stackLimit
  functions : m₁.functions = m₂.functions
  frames : m₁.frames = m₂.frames
  globals : ∀ name, Vocabulary.quiet.mention name = true → m₁.globals.get? name = m₂.globals.get? name
  left : m₁.Undisturbed
  right : m₂.Undisturbed
  alone : m₁.RunsAs none m₁.step
  place : m₂.RunsAs parked m₁.step

section Control

theorem control_of_standard :
    Builtin.standard.all (fun entry => !(entry.2.waits || entry.2.steers) || (controlNames.map Text.lower).contains entry.1) =
      true := by
  decide +kernel

theorem not_control {m : Machine} {name : String} {b : Builtin} (standard : m.builtins = Builtin.standard)
    (callee : Vocabulary.quiet.callee name = true) (found : m.builtin? name = some b) :
    b.waits = false ∧ b.steers = false := by
  unfold Machine.builtin? at found
  rw [standard] at found
  -- The standard builtins that wait or steer are among the control names, and a quiet script calls none of those.
  have missing : (!(controlNames.map Text.lower).contains (Text.lower name)) = true := callee
  have listed : (!(b.waits || b.steers) || (controlNames.map Text.lower).contains (Text.lower name)) = true :=
    List.all_eq_true.mp control_of_standard _ (mem_of_lookup found)
  generalize (controlNames.map Text.lower).contains (Text.lower name) = control at missing listed
  obtain rfl : control = false := by simpa using missing
  simpa using listed

end Control

namespace Twin

open Run

variable {parked : Option Handler} {m₁ m₂ : Machine}

-- The log, what is noted and the audio device may change on each side as they like: no script sees them.
theorem update (twin : Twin parked m₁ m₂) {store₁ store₂ : Store} {files₁ files₂ : Files} {random₁ random₂ : Generator}
    {frames₁ frames₂ : List Bindings} {globals₁ globals₂ : Bindings} {pending₁ pending₂ : Option Int64}
    {log₁ log₂ : Array LogRecord} {calls₁ calls₂ : List CallRecord} {audio₁ audio₂ : Audio} (store : store₁ = store₂) (files : files₁ = files₂)
    (random : random₁ = random₂) (frames : frames₁ = frames₂)
    (globals : ∀ name, Vocabulary.quiet.mention name = true → globals₁.get? name = globals₂.get? name)
    (settled₁ : pending₁ = none) (settled₂ : pending₂ = none) :
    Twin parked
      { m₁ with store := store₁, files := files₁, random := random₁, frames := frames₁, globals := globals₁,
                pendingWait := pending₁, log := log₁, calls := calls₁, audio := audio₁ }
      { m₂ with store := store₂, files := files₂, random := random₂, frames := frames₂, globals := globals₂,
                pendingWait := pending₂, log := log₂, calls := calls₂, audio := audio₂ } where
  alike := ⟨twin.alike.file, twin.alike.encoding, twin.alike.baseDir, store, files, random, twin.alike.grants⟩
  limit := twin.limit
  functions := twin.functions
  frames := frames
  globals := globals
  left := ⟨twin.left.stopped, twin.left.deadline, settled₁, twin.left.builtins, twin.left.functions⟩
  right := ⟨twin.right.stopped, twin.right.deadline, settled₂, twin.right.builtins, twin.right.functions⟩
  alone := twin.alone
  place := twin.place

theorem unseen (twin : Twin parked m₁ m₂) (log₁ log₂ : Array LogRecord) (calls₁ calls₂ : List CallRecord)
    (audio₁ audio₂ : Audio) :
    Twin parked { m₁ with log := log₁, calls := calls₁, audio := audio₁ }
      { m₂ with log := log₂, calls := calls₂, audio := audio₂ } :=
  twin.update twin.alike.store twin.alike.files twin.alike.random twin.frames twin.globals twin.left.pending
    twin.right.pending

theorem report (twin : Twin parked m₁ m₂) (severity : Severity) (text : String) :
    Twin parked (m₁.report severity text) (m₂.report severity text) :=
  twin.unseen _ _ _ _ _ _

theorem putFrames (twin : Twin parked m₁ m₂) {frames₁ frames₂ : List Bindings} (frames : frames₁ = frames₂) :
    Twin parked { m₁ with frames := frames₁ } { m₂ with frames := frames₂ } :=
  twin.update twin.alike.store twin.alike.files twin.alike.random frames twin.globals twin.left.pending
    twin.right.pending

theorem setGlobal (twin : Twin parked m₁ m₂) (name : String) (value : Value) :
    Twin parked { m₁ with globals := m₁.globals.set name value } { m₂ with globals := m₂.globals.set name value } := by
  refine twin.update twin.alike.store twin.alike.files twin.alike.random twin.frames ?_ twin.left.pending
    twin.right.pending
  intro wanted mentioned
  rw [Bindings.get?_set, Bindings.get?_set, twin.globals wanted mentioned]

theorem lookup (twin : Twin parked m₁ m₂) {name : String} (mentioned : Vocabulary.quiet.mention name = true) :
    m₁.lookup name = m₂.lookup name := by
  unfold Machine.lookup lookupNearest Machine.scopes
  simp only [twin.frames, List.findSome?_append, List.findSome?_cons, twin.globals name mentioned]

theorem declare (twin : Twin parked m₁ m₂) (name : String) (value : Value) :
    Twin parked (m₁.declare name value) (m₂.declare name value) := by
  cases frames₁ : m₁.frames with
  | nil =>
    have frames₂ : m₂.frames = [] := twin.frames ▸ frames₁
    have left : m₁.declare name value = { m₁ with globals := m₁.globals.set name value } := by
      simp only [Machine.declare, frames₁]
    have right : m₂.declare name value = { m₂ with globals := m₂.globals.set name value } := by
      simp only [Machine.declare, frames₂]
    rw [left, right]
    exact twin.setGlobal name value
  | cons frame rest =>
    have frames₂ : m₂.frames = frame :: rest := twin.frames ▸ frames₁
    have left : m₁.declare name value = { m₁ with frames := frame.set name value :: rest } := by
      simp only [Machine.declare, frames₁]
    have right : m₂.declare name value = { m₂ with frames := frame.set name value :: rest } := by
      simp only [Machine.declare, frames₂]
    rw [left, right]
    exact twin.putFrames rfl

theorem assign (twin : Twin parked m₁ m₂) {name : String} (value : Value)
    (mentioned : Vocabulary.quiet.mention name = true) : Twin parked (m₁.assign name value) (m₂.assign name value) := by
  have bound : m₁.globals.contains name = m₂.globals.contains name := by
    rw [Bindings.contains, Bindings.contains, twin.globals name mentioned]
  have declared := twin.declare name value
  have global := twin.setGlobal name value
  unfold Machine.assign
  cases frames₁ : m₁.frames with
  | nil =>
    have frames₂ : m₂.frames = [] := twin.frames ▸ frames₁
    simp only [frames₂]
    exact declared
  | cons frame rest =>
    have frames₂ : m₂.frames = frame :: rest := twin.frames ▸ frames₁
    rw [frames₁, frames₂] at global
    simp only [frames₂, bound]
    split
    · exact declared
    · exact global

-- The twin on the right may be moved to another place: into a handler, or out of one.
theorem move (twin : Twin parked m₁ m₂) {parked' : Option Handler} {step₁ step₂ : Int64} {handlers : Registry}
    {current : Option HandlerId} (place : Machine.RunsAs parked' step₁ { m₂ with step := step₂, handlers, current }) :
    Twin parked' { m₁ with step := step₁ } { m₂ with step := step₂, handlers, current } where
  alike := ⟨twin.alike.file, twin.alike.encoding, twin.alike.baseDir, twin.alike.store, twin.alike.files,
    twin.alike.random, twin.alike.grants⟩
  limit := twin.limit
  functions := twin.functions
  frames := twin.frames
  globals := twin.globals
  left := ⟨twin.left.stopped, twin.left.deadline, twin.left.pending, twin.left.builtins, twin.left.functions⟩
  right := ⟨twin.right.stopped, twin.right.deadline, twin.right.pending, twin.right.builtins, twin.right.functions⟩
  alone := ⟨twin.alone.1, twin.alone.2.1, rfl⟩
  place := place

theorem running_left (twin : Twin parked m₁ m₂) : m₁.running? = none := by
  simp [Machine.running?, twin.alone.2.1]

theorem running_right (twin : Twin parked m₁ m₂) :
    m₂.running? = parked.map fun h => { h with step := m₁.step } := by
  cases parked with
  | none => simp [Machine.running?, twin.place.2.1]
  | some h =>
    obtain ⟨own, inside, _⟩ := twin.place
    simp [Machine.running?, inside, Registry.get?, own]

theorem stepNow (twin : Twin parked m₁ m₂) : m₁.stepNow = m₁.step ∧ m₂.stepNow = m₁.step := by
  unfold Machine.stepNow
  rw [twin.running_left, twin.running_right]
  cases parked with
  | none => exact ⟨rfl, twin.place.2.2⟩
  | some h => exact ⟨rfl, rfl⟩

theorem isRetired (twin : Twin parked m₁ m₂) : m₁.isRetired = false ∧ m₂.isRetired = false := by
  unfold Machine.isRetired
  rw [twin.running_left, twin.running_right]
  cases parked with
  | none => exact ⟨rfl, rfl⟩
  | some h => exact ⟨rfl, twin.place.2.2⟩

theorem setStep (twin : Twin parked m₁ m₂) (perUnit : Int64) : Twin parked (m₁.setStep perUnit) (m₂.setStep perUnit) := by
  -- What runs on its own sets the step of the machine, and what was parked its own.
  unfold Machine.setStep
  rw [twin.running_left, twin.running_right]
  cases parked with
  | none => exact twin.move ⟨twin.place.1, twin.place.2.1, rfl⟩
  | some h =>
    obtain ⟨own, inside, kept⟩ := twin.place
    refine twin.move ⟨?_, inside, kept⟩
    simp [Registry.modify, own, Registry.modifyFirst, Handler.setStep]

section Sounds

theorem play_unseen (label : String) (start : String → Audio → Played) (name : Value) (m : Machine) :
    ∃ audio log, Action.play label start name m = .done (.int 0) { m with audio, log } := by
  simp only [Action.play, bind, Run.bind, Run.read, Run.modify]
  generalize start (m.resolve (name.display m.store)) m.audio = played
  cases played.warning <;> cases played.failure <;> exact ⟨_, _, rfl⟩

theorem mute_unseen (flag : Value) (m : Machine) :
    ∃ audio log, Action.mute flag m = .done (.int 0) { m with audio, log } := by
  simp only [Action.mute, bind, Run.bind, Run.read, Run.modify]
  split
  · exact ⟨m.audio, m.log, rfl⟩
  · exact ⟨_, m.log, rfl⟩

theorem playing_unseen {b : Builtin} (plays : b.plays = true) (args : List Value) (m : Machine) :
    ∃ audio log, b.value args m = .done (.int 0) { m with audio, log } := by
  cases b with dsimp only [Builtin.value]
  | playMidi | playWave => exact play_unseen _ _ _ m
  | stopMidi | stopWave => exact ⟨_, m.log, rfl⟩
  | muteMidi => exact mute_unseen _ m
  | _ => cases plays

end Sounds

theorem actions (P : Instruction → Prop) (parked : Option Handler) :
    Actions .fuel .quiet P (fun f => f.within .quiet = true) (Twin parked) fun _ => False where
  alike twin := twin.alike
  lookup mentioned twin := twin.lookup mentioned
  builtin _ twin := by rw [Machine.builtin?, Machine.builtin?, twin.left.builtins, twin.right.builtins]
  function _ twin _ found := ⟨twin.left.functions _ _ found, twin.functions ▸ found⟩
  undefined _ twin missing := .inr (twin.functions ▸ missing)
  report severity text twin := twin.report severity text
  note _ twin := twin.unseen _ _ _ _ _ _
  assign value mentioned twin := twin.assign value mentioned
  declare value _ twin := twin.declare _ value
  putStore _ twin := twin.update rfl twin.alike.files twin.alike.random twin.frames twin.globals twin.left.pending
    twin.right.pending
  putFiles _ twin := twin.update twin.alike.store rfl twin.alike.random twin.frames twin.globals twin.left.pending
    twin.right.pending
  putRandom _ twin := twin.update twin.alike.store twin.alike.files rfl twin.frames twin.globals twin.left.pending
    twin.right.pending
  register _ _ allowed _ _ := absurd allowed (by decide)
  setStep perUnit _ twin := twin.setStep perUnit
  wait allowed _ _ := absurd allowed (by decide)
  pend never _ := never.elim
  waits callee twin found waits := absurd ((not_control twin.left.builtins callee found).1.symm.trans waits) nofun
  steers callee twin found steers := absurd ((not_control twin.left.builtins callee found).2.symm.trans steers) nofun
  plays b plays args m₁ m₂ twin := by
    obtain ⟨audio₁, log₁, left⟩ := playing_unseen plays args m₁
    obtain ⟨audio₂, log₂, right⟩ := playing_unseen plays args m₂
    rw [left, right]
    exact .done trivial (twin.unseen log₁ log₂ _ _ audio₁ audio₂)
  loops _ _ := trivial

theorem simulation : Simulation .fuel .quiet Twin fun _ _ => False where
  excused := trivial
  acts parked := actions _ parked
  settles parked :=
    { pending := fun twin => twin.left.pending.trans twin.right.pending.symm
      owed := fun twin pending => absurd (twin.left.pending.symm.trans pending) nofun
      settle := fun twin =>
        twin.update twin.alike.store twin.alike.files twin.alike.random twin.frames twin.globals rfl rfl }
  room twin := Machine.room_of_same twin.limit (congrArg List.length twin.frames)
  note _ twin := twin.unseen _ _ _ _ _ _
  call {parked m₁ m₂} frame twin := by
    refine ⟨parked, twin.putFrames (by rw [twin.frames]), fun _ never => never, fun n₁ n₂ inside => ?_⟩
    exact inside.putFrames (by rw [inside.frames])

end Twin

end CueScript
