import CueScript.Proofs.Handler.Invariant
import CueScript.Proofs.Machine.Termination

set_option autoImplicit false

namespace CueScript

def Vocabulary.loopFree : Vocabulary where
  opcode op := !op.loops

namespace Program

variable {program : Program} {settings : Settings} {rank : String → Nat} {top : Nat}

structure LoopFree (p : Program) : Prop where
  instructions : blockWithin .loopFree p.instructions = true
  functions : ∀ entry ∈ p.functions, entry.2.within .loopFree = true

/-- The defaults of every function call only functions of a lower rank. -/
def RanksDefaults (p : Program) (rank : String → Nat) : Prop :=
  ∀ key f, p.collectFunctions.2.find? key = some f → ∀ param ∈ f.params, ∀ operand, param.default = some operand →
    operand.within (.ranked Builtin.standard p.collectFunctions.2 rank (rank key)) = true

def RanksBelow (p : Program) (rank : String → Nat) (top : Nat) : Prop :=
  ∀ key f, p.collectFunctions.2.find? key = some f → rank key < top

noncomputable def bounds (p : Program) (settings : Settings) (rank : String → Nat) (top : Nat) : Bounds where
  functions := p.collectFunctions.2
  builtins := Builtin.standard
  limit := settings.stackLimit
  rank
  top
  size := sizeOf p.instructions + sizeOf p.collectFunctions.2

theorem ranks_below_some (program : Program) (rank : String → Nat) : ∃ top, program.RanksBelow rank top := by
  refine ⟨(program.collectFunctions.2.map fun entry => rank entry.1).max?.getD 0 + 1, fun key f found => ?_⟩
  have member : rank key ∈ program.collectFunctions.2.map fun entry => rank entry.1 :=
    List.mem_map_of_mem (f := fun entry : String × FunctionDef => rank entry.1) (mem_of_lookup found)
  exact Nat.lt_succ_of_le (List.le_max?_getD_of_mem member)

theorem RanksBelow.loopFree (bounded : program.RanksBelow rank top) :
    Vocabulary.loopFree.Below ((program.bounds settings rank top).vocabulary top) where
  opcode allowed := allowed
  mention _ := rfl
  callee {name} _ := by
    -- The rank of a function that is there is below the top one.
    simp only [Bounds.vocabulary, Vocabulary.ranked, Bool.or_eq_true, decide_eq_true_eq]
    cases found : (program.bounds settings rank top).functions.find? (Text.lower name) with
    | none => exact .inl (.inr rfl)
    | some f => exact .inr (bounded _ f found)

theorem sizeOf_function {key : String} {f : FunctionDef} (found : program.collectFunctions.2.find? key = some f) :
    sizeOf f.body + sizeOf f.params ≤ (program.bounds settings rank top).size := by
  have entry := List.sizeOf_lt_of_mem (mem_of_lookup found)
  have whole : (program.bounds settings rank top).size =
      sizeOf program.instructions + sizeOf program.collectFunctions.2 := rfl
  obtain ⟨name, params, body⟩ := f
  simp only [Prod.mk.sizeOf_spec, FunctionDef.mk.sizeOf_spec] at entry ⊢
  omega

theorem LoopFree.sound (loopFree : program.LoopFree) (ranked : program.RanksDefaults rank)
    (bounded : program.RanksBelow rank top) : (program.bounds settings rank top).Sound where
  rank {key f} found := bounded key f found
  body {key f} found inst member := by
    have within := Program.within_functions loopFree.functions
      (fun inst member _ => mem_of_blockWithin loopFree.instructions inst member) _ (mem_of_lookup found)
    simp only [FunctionDef.within, Bool.and_eq_true] at within
    have whole : sizeOf f.body + sizeOf f.params ≤ (program.bounds settings rank top).size := sizeOf_function found
    have part := List.sizeOf_lt_of_mem member
    exact ⟨Instruction.within_mono bounded.loopFree inst (mem_of_blockWithin within.1 inst member), by omega⟩
  default {key f param operand} found member given := by
    have whole : sizeOf f.body + sizeOf f.params ≤ (program.bounds settings rank top).size := sizeOf_function found
    have part := List.sizeOf_lt_of_mem member
    obtain ⟨name, fallback⟩ := param
    obtain rfl : fallback = some operand := given
    simp only [Param.mk.sizeOf_spec, Option.some.sizeOf_spec] at part
    exact ⟨ranked key f found _ member operand rfl, by omega⟩

end Program

section Reached

variable {program : Program} {settings : Settings} {rank : String → Nat} {top : Nat} {m m' : Machine} {fuel : Nat}

theorem left_of_pump (left : (pump fuel m).left? = some m') :
    m' = m ∨ ∃ event events, (dispatch fuel event { m with events }).left? = some m' := by
  unfold pump at left
  split at left
  next =>
    cases left
    exact .inl rfl
  next event events _ =>
    refine .inr ⟨event, events, ?_⟩
    generalize dispatch fuel event { m with events } = outcome at left ⊢
    cases outcome <;> exact left

theorem Program.LoopFree.governs (loopFree : program.LoopFree) (ranked : program.RanksDefaults rank)
    (bounded : program.RanksBelow rank top) (reachable : Reachable program settings m) :
    (program.bounds settings rank top).Governs 0 0 m := by
  have sound : (program.bounds settings rank top).Sound := loopFree.sound ranked bounded
  induction reachable with
  | created created =>
    unfold Machine.create at created
    split at created
    · cases created
    · cases created
      refine ⟨rfl, rfl, rfl, rfl, fun inst member => ⟨?_, ?_⟩, nofun, rfl, Nat.zero_le _⟩
      · exact Instruction.within_mono bounded.loopFree inst (mem_of_blockWithin loopFree.instructions inst member)
      · have part := List.sizeOf_lt_of_mem member
        show sizeOf inst ≤ sizeOf program.instructions + sizeOf program.collectFunctions.2
        dsimp only at part
        omega
  | ran fuel _ left governs => exact Bounds.governs_of_runProgram sound governs left
  | posted event _ governs => exact governs.of_outline rfl
  | dispatched fuel event _ left governs => exact Bounds.governs_of_dispatch sound governs left
  | @pumped m m' fuel _ left governs =>
    rcases left_of_pump left with rfl | ⟨event, events, left⟩
    · exact governs
    · have popped : (program.bounds settings rank top).Governs 0 0 { m with events } := governs.of_outline rfl
      exact Bounds.governs_of_dispatch sound popped left

end Reached

/-- A call takes up no place on the stack while its defaults are evaluated, but calls in defaults nest no deeper than the
ranks do. Where no default calls a function all ranks may be 0, and `top` 1. -/
theorem loop_free_title_ends {program : Program} {settings : Settings} {rank : String → Nat}
    (loopFree : program.LoopFree) (ranked : program.RanksDefaults rank) :
    (∃ fuel, ∀ m, Reachable program settings m →
      (∃ m', (runProgram fuel m).left? = some m') ∧ ∀ event, ∃ m', (dispatch fuel event m).left? = some m') ∧
    ∀ top, program.RanksBelow rank top → ∀ m, Reachable program settings m →
      deepestNesting m.calls ≤ settings.stackLimit * top + 1 := by
  constructor
  next =>
    obtain ⟨top, bounded⟩ := program.ranks_below_some rank
    have sound : (program.bounds settings rank top).Sound := loopFree.sound ranked bounded
    refine ⟨(program.bounds settings rank top).enough, fun m reachable => ?_⟩
    have governs := loopFree.governs ranked bounded reachable
    constructor
    · obtain ⟨m', left, _⟩ := Bounds.runProgram_ends sound governs (Nat.le_refl _)
      exact ⟨m', left⟩
    · intro event
      obtain ⟨m', left, _⟩ := Bounds.dispatch_ends sound governs event (Nat.le_refl _)
      exact ⟨m', left⟩
  next =>
    intro top bounded m reachable
    exact (loopFree.governs ranked bounded reachable).deepest

def descendingTitle : Program where
  instructions := [.mk .onEvent [.int 0, .block [.mk .call [.text "f"] none]] none, .mk .call [.text "f"] none]
  functions :=
    [("f", { name := "f", params := [{ name := "x", default := some (.node (.mk .call [.text "g"] none)) }],
             body := [.mk .call [.text "f"] none] }),
     ("g", { name := "g", body := [.mk .returnValue [.int 1] none] })]

theorem descending_title_ends : ∃ fuel m m', Reachable descendingTitle { headless := true, stackLimit := 3 } m ∧
    (runProgram fuel m).left? = some m' ∧ (∀ event, ∃ m', (dispatch fuel event m).left? = some m') ∧
    deepestNesting m'.calls ≤ 3 * 2 + 1 := by
  let settings : Settings := { headless := true, stackLimit := 3 }
  let rank (key : String) : Nat := if key = "f" then 1 else 0
  have table : descendingTitle.collectFunctions.2 = descendingTitle.functions := rfl
  have loopFree : descendingTitle.LoopFree := ⟨by decide, by decide⟩
  have ranked : descendingTitle.RanksDefaults rank := by
    intro key f found param member operand given
    have entry := mem_of_lookup found
    rw [table] at entry ⊢
    simp only [descendingTitle, List.mem_cons, List.not_mem_nil, or_false, Prod.mk.injEq] at entry
    rcases entry with ⟨rfl, rfl⟩ | ⟨rfl, rfl⟩
    · obtain rfl := List.mem_singleton.mp member
      cases given
      rfl
    · cases member
  have bounded : descendingTitle.RanksBelow rank 2 := by
    intro key f found
    dsimp only [rank]
    split <;> omega
  obtain ⟨⟨fuel, ends⟩, nests⟩ : (∃ fuel, ∀ m, Reachable descendingTitle settings m → _) ∧ _ :=
    loop_free_title_ends loopFree ranked
  have started : Machine.create descendingTitle settings (.silent {}) {} 0 = .ok _ := rfl
  have reachable := Reachable.created started
  obtain ⟨⟨m', left⟩, dispatches⟩ := ends _ reachable
  exact ⟨fuel, _, m', reachable, left, dispatches, nests 2 bounded m' (.ran fuel reachable left)⟩

section SelfDefault

variable {m : Machine} {inner : Inner} {name : String} {f : FunctionDef} {p : Param} {others : List Param}
  {line : Option UInt32} {operand : Operand}

theorem call_stuck_default (hidden : m.builtin? name = none) (found : m.functions.find? (Text.lower name) = some f)
    (free : ¬ m.Full) (params : f.params = p :: others) (default : p.default = some operand)
    (stuck : inner.eval operand (m.note (.entered f.name)) = .exhausted) :
    inner.call (.mk .call [.text name] line) m = .exhausted := by
  have bound : inner.bindParams {} f.params [] (m.note (.entered f.name)) = .exhausted := by
    rw [params]
    simp only [Inner.bindParams, default, bind, Run.bind, stuck]
  have applied : inner.applyFunction f [] (m.note (.entered f.name)) = .exhausted := by
    have free : ¬ (m.note (.entered f.name)).Full := free
    rw [Inner.applyFunction_free free]
    simp only [bind, Run.bind, bound]
  have called : inner.callNamed name [] m = .exhausted := by
    rw [Inner.callNamed_function hidden found]
    simp only [Inner.callFunction, Run.traced, Run.afterwards, bind, Run.bind, Run.modify, applied]
  exact called

theorem eval_self_default (hidden : m.builtin? name = none) (found : m.functions.find? (Text.lower name) = some f)
    (free : ¬ m.Full) (params : f.params = p :: others)
    (again : p.default = some (.node (.mk .call [.text name] line))) (fuel : Nat) :
    eval fuel (.node (.mk .call [.text name] line)) m = .exhausted := by
  -- The default is evaluated in the state that the call was made in, but for the note of the call.
  induction fuel generalizing m with
  | zero => rfl
  | succ fuel ih =>
    have stuck : (interpreter fuel).call (.mk .call [.text name] line) m = .exhausted :=
      call_stuck_default hidden found free params again (ih (m := m.note (.entered f.name)) hidden found free)
    simp only [interpreter] at stuck
    simp only [eval, Inner.operand, Inner.node, Instruction.op, Inner.callValue, Run.locate, bind, Run.bind, stuck]

theorem exec_self_default (hidden : m.builtin? name = none) (found : m.functions.find? (Text.lower name) = some f)
    (free : ¬ m.Full) (params : f.params = p :: others)
    (again : p.default = some (.node (.mk .call [.text name] line))) (fuel : Nat) :
    exec fuel (.mk .call [.text name] line) m = .exhausted := by
  cases fuel with
  | zero => rfl
  | succ fuel =>
    have stuck : (interpreter fuel).call (.mk .call [.text name] line) m = .exhausted :=
      call_stuck_default hidden found free params again
        (eval_self_default (m := m.note (.entered f.name)) hidden found free params again fuel)
    simp only [interpreter] at stuck
    simp only [exec, Inner.statement, Inner.perform, Instruction.op, Run.locate, stuck]

end SelfDefault

def selfDefault : FunctionDef where
  name := "f"
  params := [{ name := "x", default := some (.node (.mk .call [.text "f"] none)) }]
  body := []

def selfDefaultTitle : Program where
  instructions := [.mk .call [.text "f"] none]
  functions := [("f", selfDefault)]

/-- A title without loops that overflows no stack and never ends. -/
theorem self_default_title_never_ends : selfDefaultTitle.LoopFree ∧
    ∃ m, Machine.create selfDefaultTitle { headless := true, stackLimit := 1 } (.silent {}) {} 0 = .ok m ∧
      ∀ fuel, runProgram fuel m = .exhausted := by
  refine ⟨⟨by decide, by decide⟩, ?_⟩
  have started : ∃ m, Machine.create selfDefaultTitle { headless := true, stackLimit := 1 } (.silent {}) {} 0 = .ok m ∧
      m.main = selfDefaultTitle.instructions ∧ m.checkStop = (false, m) ∧ m.builtin? "f" = none ∧
      m.functions.find? (Text.lower "f") = some selfDefault ∧ ¬ m.Full :=
    ⟨_, rfl, rfl, rfl, rfl, rfl, Nat.not_succ_le_zero 0⟩
  obtain ⟨m, created, main, going, hidden, found, free⟩ := started
  refine ⟨m, created, fun fuel => ?_⟩
  have stuck := exec_self_default hidden found free rfl rfl fuel
  have body : runBody fuel m.main 0 m = .exhausted := by
    simp only [runBody, main, selfDefaultTitle, List.drop_zero, runFrom, going]
    rw [stuck]
  rw [runProgram_eq, body]

end CueScript
