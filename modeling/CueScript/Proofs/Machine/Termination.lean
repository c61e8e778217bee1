import CueScript.Proofs.Handler.Growth
import CueScript.Proofs.Machine.Driving

/-!
Titles without loops whose runs all end. A call of a function uses up a place on the stack for the time that its body
runs, but its defaults are evaluated before that, so the calls in defaults have to be well-founded on their own: each
function has a rank, and its defaults call only functions of a lower rank.
-/

set_option autoImplicit false

namespace CueScript

/-- No loops, and only calls of builtins, of functions that are not there, and of functions of a rank below `r`. -/
def Vocabulary.ranked (builtins : List (String × Builtin)) (functions : FunctionTable) (rank : String → Nat) (r : Nat) :
    Vocabulary where
  opcode op := !op.loops
  callee name :=
    let key := Text.lower name
    (builtins.lookup key).isSome || (functions.find? key).isNone || decide (rank key < r)

/-- The functions in progress after some calls, the latest of which come first. -/
def nestedCalls : List CallRecord → Nat
  | [] => 0
  | .builtin _ _ :: calls => nestedCalls calls
  | .entered _ :: calls => nestedCalls calls + 1
  | .left :: calls => nestedCalls calls - 1

def deepestNesting : List CallRecord → Nat
  | [] => 0
  | call :: calls => max (nestedCalls (call :: calls)) (deepestNesting calls)

theorem nestedCalls_le (calls : List CallRecord) : nestedCalls calls ≤ deepestNesting calls := by
  cases calls with
  | nil => exact Nat.le_refl 0
  | cons call calls => exact Nat.le_max_left _ _

/-- What bounds the runs of a title. The ranks of its functions are below `top`, and `size` is at least the size of each
instruction and of each default. -/
structure Bounds where
  functions : FunctionTable
  builtins : List (String × Builtin)
  limit : Nat
  rank : String → Nat
  top : Nat
  size : Nat

def Machine.outline (m : Machine) :
    FunctionTable × List (String × Builtin) × Nat × Nat × Block × Registry × List CallRecord :=
  (m.functions, m.builtins, m.settings.stackLimit, m.frames.length, m.main, m.handlers, m.calls)

namespace Bounds

variable {b : Bounds} {depth active r fuel : Nat}

def vocabulary (b : Bounds) (r : Nat) : Vocabulary :=
  .ranked b.builtins b.functions b.rank r

def Admits (b : Bounds) (inst : Instruction) : Prop :=
  inst.within (b.vocabulary b.top) = true ∧ sizeOf inst ≤ b.size

structure Sound (b : Bounds) : Prop where
  rank {key : String} {f : FunctionDef} : b.functions.find? key = some f → b.rank key < b.top
  body {key : String} {f : FunctionDef} : b.functions.find? key = some f → ∀ inst ∈ f.body, b.Admits inst
  default {key : String} {f : FunctionDef} {p : Param} {operand : Operand} : b.functions.find? key = some f →
    p ∈ f.params → p.default = some operand →
    operand.within (b.vocabulary (b.rank key)) = true ∧ sizeOf operand ≤ b.size

/-- The fuel for all calls that can be nested where `depth` calls are in progress and functions of a rank below `r` may
be called. -/
def need (b : Bounds) (depth r : Nat) : Nat :=
  ((b.limit - depth) * (b.top + 1) + r) * (b.size + 1)

theorem need_default {rank : Nat} (below : rank < r) : b.need depth rank + b.size + 1 ≤ b.need depth r := by
  have more : (b.limit - depth) * (b.top + 1) + rank + 1 ≤ (b.limit - depth) * (b.top + 1) + r := by omega
  have scaled := Nat.mul_le_mul_right (b.size + 1) more
  simp only [need]
  rw [Nat.add_mul _ 1] at scaled
  omega

theorem need_body {rank : Nat} (below : rank < r) (free : depth < b.limit) :
    b.need (depth + 1) b.top + b.size + 1 ≤ b.need depth r := by
  -- A place on the stack is worth more than all ranks together.
  have place : b.limit - depth = b.limit - (depth + 1) + 1 := by omega
  have more : (b.limit - (depth + 1)) * (b.top + 1) + b.top + 1 ≤ (b.limit - depth) * (b.top + 1) + r := by
    rw [place, Nat.add_mul _ 1]
    omega
  have scaled := Nat.mul_le_mul_right (b.size + 1) more
  simp only [need]
  rw [Nat.add_mul _ 1] at scaled
  omega

def nesting (b : Bounds) : Nat :=
  b.limit * b.top + 1

/-- How many calls can be nested where `depth` bodies are in progress and functions of a rank below `r` may be called.
The last one finds no place any more. -/
def room (b : Bounds) (depth r : Nat) : Nat :=
  if depth < b.limit then (b.limit - depth - 1) * b.top + r + 1 else 1

theorem room_pos : 1 ≤ b.room depth r := by
  unfold room
  split <;> omega

theorem room_default {rank : Nat} (below : rank < r) (free : depth < b.limit) :
    b.room depth rank + 1 ≤ b.room depth r := by
  simp only [room, free, if_true]
  omega

theorem room_body {rank : Nat} (below : rank < r) (free : depth < b.limit) :
    b.room (depth + 1) b.top + 1 ≤ b.room depth r := by
  unfold room
  rw [if_pos free]
  split
  · have place : b.limit - depth - 1 = b.limit - (depth + 1) - 1 + 1 := by omega
    rw [place, Nat.add_mul _ 1]
    omega
  · omega

theorem room_outside : b.room 0 b.top ≤ b.nesting := by
  unfold room nesting
  split
  · have place : b.limit - 0 - 1 + 1 = b.limit := by omega
    have all : (b.limit - 0 - 1 + 1) * b.top = b.limit * b.top := by rw [place]
    rw [Nat.add_mul] at all
    omega
  · omega

def Affords (b : Bounds) (depth r fuel size : Nat) : Prop :=
  size ≤ b.size ∧ size + b.need depth r ≤ fuel

theorem Affords.mono {size part : Nat} (affords : b.Affords depth r fuel size) (smaller : part ≤ size) :
    b.Affords depth r fuel part := by
  unfold Affords at *
  omega

theorem Affords.part {size part : Nat} (affords : b.Affords depth r (fuel + 1) size) (smaller : part < size) :
    b.Affords depth r fuel part := by
  unfold Affords at *
  omega

section Syntax

variable {inst : Instruction} {a : Operand} {body : Block}

theorem sizeOf_pos (inst : Instruction) : 0 < sizeOf inst := by
  cases inst
  simp only [Instruction.mk.sizeOf_spec]
  omega

theorem sizeOf_operand_pos (a : Operand) : 0 < sizeOf a := by
  cases a <;> simp only [Operand.nil.sizeOf_spec, Operand.int.sizeOf_spec, Operand.float.sizeOf_spec,
    Operand.text.sizeOf_spec, Operand.var.sizeOf_spec, Operand.node.sizeOf_spec, Operand.block.sizeOf_spec] <;> omega

theorem sizeOf_arg (member : a ∈ inst.args) : sizeOf a < sizeOf inst := by
  cases inst with
  | mk op args line =>
    have less := List.sizeOf_lt_of_mem member
    simp only [Instruction.args, Instruction.mk.sizeOf_spec] at less ⊢
    omega

theorem sizeOf_instruction (held : a.block? = some body) (member : inst ∈ body) : sizeOf inst < sizeOf a := by
  cases a with
  | block instructions =>
    cases held
    have less := List.sizeOf_lt_of_mem member
    simp only [Operand.block.sizeOf_spec]
    omega
  | _ => cases held

def Finite (b : Bounds) (depth r fuel : Nat) (inst : Instruction) : Prop :=
  inst.within (b.vocabulary r) = true ∧ b.Affords depth r fuel (sizeOf inst)

def FiniteOperand (b : Bounds) (depth r fuel : Nat) (a a' : Operand) : Prop :=
  Operand.Itself (b.vocabulary r) a a' ∧ b.Affords depth r fuel (sizeOf a)

theorem paired (within : inst.within (b.vocabulary r) = true)
    (affords : ∀ arg ∈ inst.args, b.Affords depth r fuel (sizeOf arg)) :
    inst.Paired (b.vocabulary r) (b.FiniteOperand depth r fuel) inst := by
  have itself := Instruction.paired_of_within within
  exact { itself with args := List.forall₂_same.mpr fun arg member => ⟨itself.own arg member, affords arg member⟩ }

theorem pairing (b : Bounds) (depth r fuel : Nat) :
    Pairing (b.vocabulary r) (b.Finite depth r fuel) (b.FiniteOperand depth r fuel) where
  name paired := (pairing_of_within _).name paired.1
  mention paired := (pairing_of_within _).mention paired.1
  block paired := (pairing_of_within _).block paired.1
  body paired held inst member :=
    ⟨(pairing_of_within _).body paired.1 held inst member, paired.2.mono (Nat.le_of_lt (sizeOf_instruction held member))⟩
  arm {arm} finite _ := by
    have node : sizeOf arm < sizeOf (Operand.node arm) := by simp
    refine paired (by simpa [Operand.within] using finite.1.2) fun arg member => finite.2.mono ?_
    have part := sizeOf_arg member
    omega

end Syntax

def Callable (b : Bounds) (r : Nat) (f : FunctionDef) : Prop :=
  ∃ key, b.functions.find? key = some f ∧ b.rank key < r

/-- A machine within the bounds that `active` calls are in progress on, with the bodies of `depth` of them. -/
structure Governs (b : Bounds) (depth active : Nat) (m : Machine) : Prop where
  functions : m.functions = b.functions
  builtins : m.builtins = b.builtins
  limit : m.settings.stackLimit = b.limit
  depth : m.frames.length = depth
  main : ∀ inst ∈ m.main, b.Admits inst
  bodies : ∀ h ∈ m.handlers.handlers, ∀ inst ∈ h.body, b.Admits inst
  active : nestedCalls m.calls = active
  deepest : deepestNesting m.calls ≤ b.nesting

theorem below_top (b : Bounds) (low : r ≤ b.top) : (b.vocabulary r).Below (b.vocabulary b.top) where
  opcode allowed := allowed
  mention allowed := allowed
  callee := by
    intro name allowed
    simp only [vocabulary, Vocabulary.ranked, Bool.or_eq_true, decide_eq_true_eq] at allowed ⊢
    exact allowed.imp_right fun below => Nat.lt_of_lt_of_le below low

theorem Finite.admits {inst : Instruction} (finite : b.Finite depth r fuel inst) (low : r ≤ b.top) : b.Admits inst :=
  ⟨Instruction.within_mono (b.below_top low) inst finite.1, finite.2.1⟩

namespace Governs

variable {m m' m₁ m₂ : Machine}

theorem of_outline (governs : b.Governs depth active m) (same : m'.outline = m.outline) : b.Governs depth active m' := by
  simp only [Machine.outline, Prod.mk.injEq] at same
  obtain ⟨functions, builtins, limit, frames, main, handlers, calls⟩ := same
  exact ⟨functions.trans governs.functions, builtins.trans governs.builtins, limit.trans governs.limit,
    frames.trans governs.depth, main ▸ governs.main, handlers ▸ governs.bodies, calls ▸ governs.active,
    calls ▸ governs.deepest⟩

theorem builtin (governs : b.Governs depth active m) (builtin : Builtin) (args : List Value) :
    b.Governs depth active (m.note (.builtin builtin args)) := by
  refine { governs with deepest := ?_ }
  have deepest := governs.deepest
  have latest : nestedCalls m.calls ≤ deepestNesting m.calls := nestedCalls_le m.calls
  simp only [Machine.note, deepestNesting, nestedCalls]
  omega

theorem entered (governs : b.Governs depth active m) (fits : active + 1 ≤ b.nesting) (function : String) :
    b.Governs depth (active + 1) (m.note (.entered function)) := by
  have latest := governs.active
  have deepest := governs.deepest
  refine { governs with active := congrArg (· + 1) latest, deepest := ?_ }
  simp only [Machine.note, deepestNesting, nestedCalls]
  omega

theorem left (governs : b.Governs depth (active + 1) m) : b.Governs depth active (m.note .left) := by
  have latest := governs.active
  have deepest := governs.deepest
  have most : nestedCalls m.calls ≤ deepestNesting m.calls := nestedCalls_le m.calls
  refine { governs with active := by simp [Machine.note, nestedCalls, latest], deepest := ?_ }
  simp only [Machine.note, deepestNesting, nestedCalls]
  omega

theorem scopes (governs : b.Governs depth active m) (globals : Bindings) {frames : List Bindings}
    (same : SameScopes m.frames frames) : b.Governs depth active { m with globals, frames } :=
  governs.of_outline (by simp [Machine.outline, same.length_eq])

theorem handlers (governs : b.Governs depth active m) {registry : Registry}
    (old : ∀ h' ∈ registry.handlers, ∃ h ∈ m.handlers.handlers, h'.body = h.body) :
    b.Governs depth active { m with handlers := registry } := by
  refine { governs with bodies := fun h' member => ?_ }
  obtain ⟨h, present, same⟩ := old h' member
  rw [same]
  exact governs.bodies h present

theorem register (governs : b.Governs depth active m) (kind : EventKind) {body : Block}
    (admitted : ∀ inst ∈ body, b.Admits inst) : b.Governs depth active (m.registerHandler kind body).2 := by
  refine { governs with bodies := fun h member => ?_ }
  rcases List.mem_append.mp member with old | new
  · exact governs.bodies h old
  · rw [List.mem_singleton.mp new]
    exact admitted

theorem modify (governs : b.Governs depth active m) (id : HandlerId) {change : Handler → Handler}
    (keeps : ∀ h, (change h).body = h.body) : b.Governs depth active (m.changeHandler id change) := by
  refine governs.handlers fun h' member => ?_
  rcases Registry.source_of_modifyFirst member with old | ⟨h, present, rfl⟩
  · exact ⟨h', old, rfl⟩
  · exact ⟨h, present, keeps h⟩

theorem setStep (governs : b.Governs depth active m) (perUnit : Int64) : b.Governs depth active (m.setStep perUnit) := by
  unfold Machine.setStep
  split
  next h _ => exact governs.modify h.id fun _ => rfl
  next => exact governs.of_outline rfl

def Both (b : Bounds) (depth active : Nat) (m₁ m₂ : Machine) : Prop :=
  m₁ = m₂ ∧ b.Governs depth active m₁

theorem update (joined : Both b depth active m₁ m₂) (change : Machine → Machine)
    (same : (change m₁).outline = m₁.outline) : Both b depth active (change m₁) (change m₂) :=
  ⟨by rw [joined.1], joined.2.of_outline same⟩

theorem sharing (b : Bounds) (depth active : Nat) : Sharing (Both b depth active) where
  alike joined := joined.1 ▸ Machine.Alike.refl _
  handlers joined := by rw [joined.1]
  current joined := by rw [joined.1]
  audio joined := by rw [joined.1]
  headless joined := by rw [joined.1]
  report severity text joined := update joined (·.report severity text) rfl
  steer each joined := by
    refine ⟨by rw [joined.1], joined.2.handlers fun h' member => ?_⟩
    obtain ⟨h, present, steered⟩ := source_of_steered each member
    exact ⟨h, present, (Handler.Same.steered steered).body⟩
  note _ joined := ⟨by rw [joined.1], joined.2.builtin _ _⟩
  post {_ _ call event} posted joined := by
    obtain ⟨builtin, args, rfl⟩ := CallRecord.builtin_of_posted posted
    have noted := joined.2.builtin builtin args
    exact ⟨by rw [joined.1], noted.of_outline rfl⟩
  stop joined := update joined (fun m => { m with stopped := true }) rfl
  putAudio {_ _ audio} _ joined := update joined (fun m => { m with audio }) rfl

theorem actions (b : Bounds) (low : r ≤ b.top) (depth active fuel : Nat) :
    Actions .nothing (b.vocabulary r) (b.Finite depth r fuel) (b.Callable r) (Both b depth active) fun _ => True where
  alike joined := joined.1 ▸ Machine.Alike.refl _
  lookup _ joined := by rw [joined.1]
  builtin _ joined := by rw [joined.1]
  function {m₁ _ name _} allowed joined hidden found := by
    refine ⟨⟨Text.lower name, joined.2.functions ▸ found, ?_⟩, joined.1 ▸ found⟩
    rw [Machine.builtin?, joined.2.builtins] at hidden
    rw [joined.2.functions] at found
    simpa [vocabulary, Vocabulary.ranked, hidden, found] using allowed
  undefined _ joined missing := .inr (joined.1 ▸ missing)
  report severity text joined := (sharing b depth active).report severity text joined
  note silent joined := (sharing b depth active).note silent joined
  assign value _ joined := by
    refine ⟨by rw [joined.1], ?_⟩
    obtain ⟨globals, frames, same, assigned⟩ := assign_writes _ _ value
    exact assigned _ rfl rfl ▸ joined.2.scopes globals same
  declare value _ joined := by
    refine ⟨by rw [joined.1], ?_⟩
    obtain ⟨globals, frames, same, declared⟩ := declare_writes _ _ value
    exact declared _ rfl rfl ▸ joined.2.scopes globals same
  putStore store joined := update joined (fun m => { m with store }) rfl
  putFiles files joined := update joined (fun m => { m with files }) rfl
  putRandom random joined := update joined (fun m => { m with random }) rfl
  register {_ _} kind {body} _ finite joined := by
    obtain ⟨rfl, governs⟩ := joined
    exact ⟨rfl, rfl, governs.register kind fun inst member => (finite inst member).admits low⟩
  setStep perUnit _ joined := ⟨by rw [joined.1], joined.2.setStep perUnit⟩
  wait _ _ joined := ⟨by rw [joined.1], trivial⟩
  pend {_ _ n} _ joined := update joined (fun m => { m with pendingWait := some n }) rfl
  waits _ _ _ _ := rfl
  steers _ _ _ steers args := (sharing b depth active).steeringValue steers args
  plays _ plays args := (sharing b depth active).playingValue plays args
  loops {op} loops allowed := by simp [vocabulary, Vocabulary.ranked, loops] at allowed

theorem settles (b : Bounds) (depth active : Nat) : Settles (Both b depth active) fun _ => True where
  pending joined := by rw [joined.1]
  owed _ _ := trivial
  settle joined := update joined (fun m => { m with pendingWait := none }) rfl

theorem enter (joined : Both b depth active m₁ m₂) (frame : Bindings) :
    Both b (depth + 1) active (m₁.enterCall frame) (m₂.enterCall frame) :=
  ⟨by rw [joined.1], { joined.2 with depth := congrArg (· + 1) joined.2.depth }⟩

theorem leave (joined : Both b (depth + 1) active m₁ m₂) : Both b depth active m₁.leaveCall m₂.leaveCall := by
  refine ⟨by rw [joined.1], { joined.2 with depth := ?_ }⟩
  simp [Machine.leaveCall, joined.2.depth]

end Governs

open Governs

def Ends (b : Bounds) (fuel : Nat) : Prop :=
  ∀ depth active r, r ≤ b.top → active + b.room depth r ≤ b.nesting →
    (interpreter fuel).Agree .nothing (b.vocabulary r) (b.Finite depth r fuel) (b.FiniteOperand depth r fuel)
      (Both b depth active) (fun _ => True) (interpreter fuel)

theorem Ends.applied (ends : b.Ends fuel) (sound : b.Sound) (low : r ≤ b.top) (enough : b.need depth r ≤ fuel)
    (places : active + b.room depth r ≤ b.nesting) {f : FunctionDef} (callable : b.Callable r f) (args : List Value) :
    Run.Agrees .nothing (Both b depth (active + 1)) (Flow.Owes fun _ => True) ((interpreter fuel).applyFunction f args)
      ((interpreter fuel).applyFunction f args) := by
  obtain ⟨key, found, below⟩ := callable
  refine Inner.Agree.applyFunction (actions b low depth (active + 1) fuel)
    (fun m₁ m₂ joined => Machine.room_of_same (by rw [joined.1]) (by rw [joined.1])) fun m₁ m₂ joined free => ?_
  have place : depth < b.limit := by
    have free : ¬ m₁.settings.stackLimit ≤ m₁.frames.length := free
    rw [joined.2.limit, joined.2.depth] at free
    omega
  constructor
  · -- The defaults run before the call takes its place, and are of a lower rank.
    have nested : b.room depth (b.rank key) + 1 ≤ b.room depth r := room_default below place
    refine (ends depth (active + 1) (b.rank key) (Nat.le_of_lt (sound.rank found)) (by omega)).bindParams
      (fun p member operand given => ?_) {} args
    obtain ⟨within, size⟩ := sound.default found member given
    have fits : b.need depth (b.rank key) + b.size + 1 ≤ b.need depth r := need_default below
    exact ⟨⟨rfl, within⟩, size, by omega⟩
  · -- The body may call any function again, but one place deeper.
    intro frame m₁ m₂ joined
    have nested : b.room (depth + 1) b.top + 1 ≤ b.room depth r := room_body below place
    have fits := b.need_body below place
    have body : ∀ inst ∈ f.body, b.Finite (depth + 1) b.top fuel inst := by
      intro inst member
      obtain ⟨within, size⟩ := sound.body found inst member
      exact ⟨within, size, by omega⟩
    have inside := Inner.Agree.block (actions b (Nat.le_refl _) (depth + 1) (active + 1) fuel)
      (ends (depth + 1) (active + 1) b.top (Nat.le_refl _) (by omega)) body
    exact Inner.Agree.inFrame frame inside (enter joined frame) (fun _ _ => trivial) fun _ _ joined => leave joined

theorem Ends.calls (ends : b.Ends fuel) (sound : b.Sound) (low : r ≤ b.top) (enough : b.need depth r ≤ fuel)
    (places : active + b.room depth r ≤ b.nesting) :
    Inner.CallAlike .nothing (b.Callable r) (Both b depth active) (fun _ => True) (interpreter fuel)
      (interpreter fuel) := by
  intro f args callable
  have one : 1 ≤ b.room depth r := room_pos
  have counted : active + 1 ≤ b.nesting := by omega
  exact (ends.applied sound low enough places callable args).traced
    (fun _ _ joined => ⟨by rw [joined.1], joined.2.entered counted f.name⟩)
    fun _ _ joined => ⟨by rw [joined.1], joined.2.left⟩

theorem ends (sound : b.Sound) (fuel : Nat) : b.Ends fuel := by
  -- A part of an instruction is smaller and gets one unit less. For a call there is enough left, as the need of its
  -- defaults and that of its body are below the need where it is made.
  induction fuel with
  | zero =>
    -- Everything has a size, so none of it is to be had without fuel.
    intro depth active r low _
    refine ⟨b.pairing depth r 0, fun {inst} finite => ?_, fun {a _} finite => ?_⟩
    · have positive := sizeOf_pos inst
      have fits := finite.2.2
      omega
    · have positive := sizeOf_operand_pos a
      have fits := finite.2.2
      omega
  | succ fuel ih =>
    intro depth active r low places
    have acts := actions b low depth active fuel
    refine ⟨b.pairing depth r (fuel + 1), fun {inst} finite => ?_, fun {a _} finite => ?_⟩
    · have positive := sizeOf_pos inst
      have fits := finite.2.2
      have enough : b.need depth r ≤ fuel := by omega
      have pair := paired finite.1 fun arg member => finite.2.part (sizeOf_arg member)
      exact Inner.Agree.statement acts (settles b depth active) (ih depth active r low places)
        (ih.calls sound low enough places) (Nat.le_refl fuel) pair
    · have positive := sizeOf_operand_pos a
      have fits := finite.2.2
      have enough : b.need depth r ≤ fuel := by omega
      obtain ⟨⟨rfl, within⟩, affords⟩ := finite
      refine Inner.Agree.operand acts (ih depth active r low places) (ih.calls sound low enough places)
        (fun name => Operand.within_name within) ?_
      rintro inst rfl
      refine paired (by simpa [Operand.within] using within) fun arg member => affords.part ?_
      have part := sizeOf_arg member
      simp only [Operand.node.sizeOf_spec]
      omega

theorem driving (b : Bounds) : Driving b.Admits fun _ => Both b 0 0 where
  outer joined := by
    rw [joined.1]
    exact ⟨rfl, rfl, rfl, rfl, rfl, rfl, rfl⟩
  main joined := joined.2.main
  bodies joined := joined.2.bodies
  report severity text joined := update joined (·.report severity text) rfl
  stop joined := update joined (fun m => { m with stopped := true }) rfl
  publish params joined := update joined (·.publish params) rfl
  enter id joined := update joined (·.enterHandler id) rfl
  leave joined := update joined Machine.leaveHandler rfl
  change id _ keeps joined := ⟨by rw [joined.1], joined.2.modify id keeps⟩
  register joined := ⟨by rw [joined.1], joined.2.register .time joined.2.main⟩
  sweep joined := by
    refine ⟨by rw [joined.1], joined.2.handlers fun h member => ?_⟩
    exact ⟨h, List.mem_of_mem_filter member, rfl⟩

def enough (b : Bounds) : Nat :=
  b.size + b.need 0 b.top

theorem executes (sound : b.Sound) (fits : b.enough ≤ fuel) :
    Driving.Executes .nothing b.Admits (fun _ => Both b 0 0) fuel fuel := by
  rintro current inst ⟨within, size⟩
  have finite : b.Finite 0 b.top fuel inst := by
    unfold enough at fits
    exact ⟨within, size, by omega⟩
  have places : 0 + b.room 0 b.top ≤ b.nesting := by
    have outside : b.room 0 b.top ≤ b.nesting := room_outside
    omega
  exact ((ends sound fuel 0 0 b.top (Nat.le_refl _) places).exec finite).weaken fun _ _ => trivial

section Driven

variable {m m' : Machine} {event : Event}

theorem runProgram_ends (sound : b.Sound) (governs : b.Governs 0 0 m) (fits : b.enough ≤ fuel) :
    ∃ m', (runProgram fuel m).left? = some m' ∧ b.Governs 0 0 m' := by
  obtain ⟨m', _, left, joined⟩ := (b.driving.runProgram (executes sound fits) m m ⟨rfl, governs⟩).ended
  exact ⟨m', left, joined.2⟩

theorem dispatch_ends (sound : b.Sound) (governs : b.Governs 0 0 m) (event : Event) (fits : b.enough ≤ fuel) :
    ∃ m', (dispatch fuel event m).left? = some m' ∧ b.Governs 0 0 m' := by
  obtain ⟨m', _, left, joined⟩ := (b.driving.dispatch (executes sound fits) event m m ⟨rfl, governs⟩).ended
  exact ⟨m', left, joined.2⟩

-- A run that ends with too little fuel ends in the same state with enough of it.

theorem governs_of_runProgram (sound : b.Sound) (governs : b.Governs 0 0 m) (left : (runProgram fuel m).left? = some m') :
    b.Governs 0 0 m' := by
  obtain ⟨last, ended, governed⟩ := runProgram_ends sound governs (Nat.le_add_left b.enough fuel)
  have same : some m' = some last := (runProgram_more_fuel (Nat.le_add_right fuel _) left).symm.trans ended
  cases same
  exact governed

theorem governs_of_dispatch (sound : b.Sound) (governs : b.Governs 0 0 m)
    (left : (dispatch fuel event m).left? = some m') : b.Governs 0 0 m' := by
  obtain ⟨last, ended, governed⟩ := dispatch_ends sound governs event (Nat.le_add_left b.enough fuel)
  have same : some m' = some last := (dispatch_more_fuel (Nat.le_add_right fuel _) left).symm.trans ended
  cases same
  exact governed

end Driven

end Bounds

end CueScript
