import CueScript.Proofs.Machine.Signals

set_option autoImplicit false

namespace CueScript

open Run

section Blocks

variable {α β : Type} {inner : Inner}

theorem Run.Yields.bind_congr {P : α → Prop} {x : Run α} {f g : α → Run β} (yields : x.Yields P)
    (same : ∀ a, P a → f a = g a) : x >>= f = x >>= g := by
  funext m
  simp only [Bind.bind, Run.bind]
  cases ran : x m with
  | done a m' => simp only [same a (yields.holds ran)]
  | failed | exhausted => rfl

namespace Inner

theorem blockFrom_append (last : Value) (first rest : Block) :
    inner.blockFrom last (first ++ rest) = (do
      match ← inner.blockFrom last first with
      | .normal value => inner.blockFrom value rest
      | flow => pure flow) := by
  induction first generalizing last with
  | nil => rfl
  | cons inst more ih =>
    funext m
    simp only [List.cons_append, blockFrom, bind, Run.bind] at ih ⊢
    cases inner.exec inst m with
    | done flow m' =>
      cases flow with
      | normal value => exact congrFun (ih value) m'
      | breakLoop | continueLoop | returned | wait => rfl
    | failed fault m' =>
      by_cases fatal : fault.isFatal = true
      · simp only [fatal, if_true]
      · simp only [fatal]
        exact congrFun (ih last) (m'.report .error fault.display)
    | exhausted => rfl

theorem loopEnd_blockFrom (last other : Value) (body : Block) :
    loopEnd <$> inner.blockFrom last body = loopEnd <$> inner.blockFrom other body := by
  simp only [map_eq_pure_bind]
  induction body generalizing last other with
  | nil => rfl
  | cons inst rest ih =>
    funext m
    simp only [blockFrom, bind, Run.bind] at ih ⊢
    cases inner.exec inst m with
    | done flow m' => cases flow <;> rfl
    | failed fault m' =>
      by_cases fatal : fault.isFatal = true
      · simp only [fatal, if_true]
      · simp only [fatal]
        exact congrFun (ih last other) (m'.report .error fault.display)
    | exhausted => rfl

theorem loopEnd_block_append {body post : Block} (goesOn : (inner.block body).Yields (· ≠ .continueLoop))
    (stays : (inner.block post).Yields fun flow => flow ≠ .breakLoop ∧ flow ≠ .continueLoop) :
    loopEnd <$> inner.block (body ++ post) = (do
      match loopEnd (← inner.block body) with
      | some flow => pure (some flow)
      | none =>
        match ← inner.block post with
        | .normal _ => pure none
        | flow => pure (some flow)) := by
  have last : loopEnd <$> inner.block post = (do
      match ← inner.block post with
      | .normal _ => pure none
      | flow => pure (some flow)) := by
    rw [map_eq_pure_bind]
    apply stays.bind_congr
    rintro flow ⟨stays, goesOn⟩
    cases flow with
    | normal | returned | wait => rfl
    | breakLoop => exact absurd rfl stays
    | continueLoop => exact absurd rfl goesOn
  rw [block, blockFrom_append, map_bind]
  apply goesOn.bind_congr
  intro flow goesOn
  cases flow with
  | normal value => exact (loopEnd_blockFrom value .nil post).trans last
  | continueLoop => exact absurd rfl goesOn
  | breakLoop | returned | wait => rfl

end Inner

end Blocks

section For

variable {init post body : Block} {condition : Operand} {line : Option UInt32} {fuel : Nat}

/-- A `for` loop in full: its first block, and then a `while` loop over its body and its last block. -/
def forInFull (init : Block) (condition : Operand) (post body : Block) (line : Option UInt32) (fuel : Nat) : Run Flow := do
  match ← execBlock fuel init with
  | .normal _ => (interpreter fuel).perform fuel (.mk .whileLoop [condition, .block (body ++ post)] line)
  | flow => pure flow

theorem forInFull_nil (condition : Operand) (post body : Block) (line : Option UInt32) :
    forInFull [] condition post body line =
      fun fuel => (interpreter fuel).perform fuel (.mk .whileLoop [condition, .block (body ++ post)] line) :=
  rfl

theorem forCondition_eq_truth (inner : Inner) (asks : condition ≠ .nil) (line' : Option UInt32) :
    inner.forCondition (.mk .forLoop [.block init, condition, .block post, .block body] line) =
      inner.truth (.mk .whileLoop [condition, .block (body ++ post)] line') 0 := by
  cases condition with
  | nil => exact absurd rfl asks
  | int | float | text | var | node | block => rfl

theorem forRound_eq_whileRound (asks : condition ≠ .nil) (goesOn : blockKeeps .roundExit body = true)
    (stays : blockKeeps .loopExit post = true) (line' : Option UInt32) :
    (interpreter fuel).forRound (.mk .forLoop [.block init, condition, .block post, .block body] line) post body =
      (interpreter fuel).whileRound (.mk .whileLoop [condition, .block (body ++ post)] line') (body ++ post) := by
  have ends := Inner.loopEnd_block_append
    ((execBlock_keeps goesOn fuel).mono fun flow => Signal.roundExit_raised.mp)
    ((execBlock_keeps stays fuel).mono fun flow => Signal.loopExit_raised.mp)
  rw [Inner.forRound, Inner.whileRound, forCondition_eq_truth _ asks line']
  congr 1
  funext goes
  cases goes with
  | false => rfl
  | true => exact ends.symm

theorem perform_for (asks : condition ≠ .nil) (goesOn : blockKeeps .roundExit body = true)
    (stays : blockKeeps .loopExit post = true) (line' : Option UInt32) :
    (interpreter fuel).perform fuel (.mk .forLoop [.block init, condition, .block post, .block body] line) =
      forInFull init condition post body line' fuel := by
  change (do
    match ← (interpreter fuel).block init with
    | .normal _ => Inner.rounds ((interpreter fuel).forRound _ post body) fuel
    | flow => pure flow : Run Flow) = _
  rw [forRound_eq_whileRound asks goesOn stays line']
  rfl

end For

section Do

variable {α : Type} {inner : Inner} {body : Block} {fuel : Nat}

theorem Run.parallel_same (x : Run α) : Parallel .fuel Eq x x := by
  rintro m _ rfl
  cases x m with
  | done => exact .done trivial rfl
  | failed => exact .failed rfl
  | exhausted => exact .exhausted trivial _

theorem Outcome.Agrees.eq_of_ended {outcome other : Outcome α} {ok : α → Prop}
    (agrees : outcome.Agrees .fuel Eq ok other) (ended : outcome ≠ .exhausted) : other = outcome := by
  cases agrees with
  | done _ same => rw [same]
  | failed same => rw [same]
  | exhausted => exact absurd rfl ended
  | abandoned excused => exact excused.elim

namespace Inner

theorem rounds_succ (round : Run (Option Flow)) (fuel : Nat) :
    rounds round (fuel + 1) = (do
      match ← round with
      | none => rounds round fuel
      | some flow => pure flow) := by
  funext m
  simp only [rounds, bind, Run.bind]
  cases round m with
  | done ending m' => cases ending <;> rfl
  | failed | exhausted => rfl

def bodyThen (inner : Inner) (body : Block) (next : Run Flow) : Run Flow := do
  match loopEnd (← inner.block body) with
  | some flow => pure flow
  | none => next

def whenTrue (goes : Run Bool) (next : Run Flow) : Run Flow := do
  if ← goes then next else pure .zero

theorem bodyThen_parallel {next next' : Run Flow} (agree : Parallel .fuel Eq next next') :
    Parallel .fuel Eq (inner.bodyThen body next) (inner.bodyThen body next') := by
  apply (parallel_same (inner.block body)).bind
  intro flow _
  cases loopEnd flow with
  | some flow => exact agrees_pure trivial
  | none => exact agree

theorem whenTrue_parallel {goes : Run Bool} {next next' : Run Flow} (agree : Parallel .fuel Eq next next') :
    Parallel .fuel Eq (whenTrue goes next) (whenTrue goes next') := by
  apply (parallel_same goes).bind
  intro holds _
  cases holds with
  | true => exact agree
  | false => exact agrees_pure trivial

variable {inst inst' : Instruction}

theorem rounds_doWhile (inst : Instruction) (body : Block) (fuel : Nat) :
    rounds (inner.doWhileRound inst body) (fuel + 1) =
      inner.bodyThen body (whenTrue (inner.truth inst 1) (rounds (inner.doWhileRound inst body) fuel)) := by
  simp only [rounds_succ, doWhileRound, bodyThen, whenTrue, bind_assoc]
  congr 1
  funext flow
  cases loopEnd flow with
  | some flow => rfl
  | none =>
    simp only [bind_assoc]
    congr 1
    funext goes
    cases goes <;> rfl

theorem rounds_while (inst : Instruction) (body : Block) (fuel : Nat) :
    rounds (inner.whileRound inst body) (fuel + 1) =
      whenTrue (inner.truth inst 0) (inner.bodyThen body (rounds (inner.whileRound inst body) fuel)) := by
  simp only [rounds_succ, whileRound, bodyThen, whenTrue, bind_assoc]
  congr 1
  funext goes
  cases goes with
  | false => rfl
  | true =>
    simp only [if_true, bind_map_left]
    congr 1
    funext flow
    cases loopEnd flow <;> rfl

-- One round of the left loop is the condition and the body of the right one in the other order, so what they leave over
-- is the first body on the right, and the last condition on the left.
theorem rounds_doWhile_parallel (same : inner.truth inst 1 = inner.truth inst' 0) (fuel : Nat) :
    Parallel .fuel Eq (rounds (inner.doWhileRound inst body) fuel)
      (inner.bodyThen body (rounds (inner.whileRound inst' body) fuel)) := by
  induction fuel with
  | zero => exact agrees_exhausted trivial _
  | succ fuel ih =>
    rw [rounds_doWhile, rounds_while, same]
    exact bodyThen_parallel (whenTrue_parallel ih)

theorem bodyThen_while_parallel (same : inner.truth inst 1 = inner.truth inst' 0) (fuel : Nat) :
    Parallel .fuel Eq (inner.bodyThen body (rounds (inner.whileRound inst' body) fuel))
      (rounds (inner.doWhileRound inst body) (fuel + 1)) := by
  induction fuel with
  | zero =>
    rw [rounds_doWhile]
    exact bodyThen_parallel (agrees_exhausted trivial _)
  | succ fuel ih =>
    rw [rounds_doWhile, rounds_while, same]
    exact bodyThen_parallel (whenTrue_parallel ih)

end Inner

theorem rounds_doWhile_deeper (inst : Instruction) (body : Block) (rounds fuel : Nat) :
    Parallel .fuel Eq (Inner.rounds ((interpreter fuel).doWhileRound inst body) rounds)
      (Inner.rounds ((interpreter (fuel + 1)).doWhileRound inst body) rounds) := by
  rintro m _ rfl
  have agree := interpreter_agree Effects.simulation (Nat.le_succ fuel) m
  have round := Inner.Agree.doWhileRound (Effects.actions _ m) agree (Instruction.paired_of_within inst.within_any)
    fun inst (_ : inst ∈ body) => inst.within_any
  have ends := Inner.Agree.rounds trivial round (Nat.le_refl rounds) m m ⟨rfl, .refl m⟩
  exact ends.imp (fun _ _ reached => reached.1) fun _ _ => trivial

def doInFull (body : Block) (condition : Operand) (line : Option UInt32) (fuel : Nat) : Run Flow := do
  match ← execBlock fuel body with
  | .normal _ | .continueLoop => (interpreter fuel).perform fuel (.mk .whileLoop [condition, .block body] line)
  | .breakLoop => pure .zero
  | flow => pure flow

theorem doInFull_eq (body : Block) (condition : Operand) (line : Option UInt32) (fuel : Nat) :
    doInFull body condition line fuel = (interpreter fuel).bodyThen body
      (Inner.rounds ((interpreter fuel).whileRound (.mk .whileLoop [condition, .block body] line) body) fuel) := by
  unfold doInFull Inner.bodyThen
  congr 1
  funext flow
  cases flow <;> rfl

end Do

/-- The run ends so, given enough fuel. -/
def EndsIn {α : Type} (run : Nat → Run α) (m : Machine) (outcome : Outcome α) : Prop :=
  outcome ≠ .exhausted ∧ ∃ fuel, run fuel m = outcome

/-- A `for` loop is what it is short for, unless its body skips the last block or the last block leaves the loop, and a
`do` loop always is. The blocks that a `for` loop inside of these executes before its rounds and after them are not part
of its body. -/
theorem loops_agree_with_while (m : Machine) (outcome : Outcome Flow) :
    (∀ init condition post body line line', condition ≠ .nil → blockKeeps .roundExit body = true →
      blockKeeps .loopExit post = true →
      (EndsIn (fun fuel => (interpreter fuel).perform fuel
          (.mk .forLoop [.block init, condition, .block post, .block body] line)) m outcome ↔
        EndsIn (forInFull init condition post body line') m outcome)) ∧
    ∀ body condition line line',
      EndsIn (fun fuel => (interpreter fuel).perform fuel (.mk .doWhile [.block body, condition] line)) m outcome ↔
        EndsIn (doInFull body condition line') m outcome := by
  constructor
  next =>
    intro init condition post body line line' asks goesOn stays
    have same : (fun fuel => (interpreter fuel).perform fuel
        (.mk .forLoop [.block init, condition, .block post, .block body] line)) =
        forInFull init condition post body line' :=
      funext fun fuel => perform_for asks goesOn stays line'
    rw [same]
  next =>
    intro body condition line line'
    constructor
    next =>
      rintro ⟨ended, fuel, rfl⟩
      refine ⟨ended, fuel, ?_⟩
      rw [doInFull_eq]
      exact (Inner.rounds_doWhile_parallel rfl fuel m m rfl).eq_of_ended ended
    next =>
      rintro ⟨ended, fuel, rfl⟩
      refine ⟨ended, fuel + 1, ?_⟩
      rw [doInFull_eq] at ended ⊢
      -- One more unit of fuel gives the loop its last round, and it does no harm to what is inside.
      have rounded : Inner.rounds ((interpreter fuel).doWhileRound (.mk .doWhile [.block body, condition] line) body)
          (fuel + 1) m = _ :=
        (Inner.bodyThen_while_parallel rfl fuel m m rfl).eq_of_ended ended
      rw [← rounded] at ended ⊢
      exact (rounds_doWhile_deeper _ body (fuel + 1) fuel m m rfl).eq_of_ended ended

def stepUp (name : String) : Instruction :=
  .mk .assign [.var name, .node (.mk (.binary .add) [.var name, .int 1] none)] none

def isBelow (name : String) (limit : Int64) : Operand :=
  .node (.mk (.binary .lt) [.var name, .int limit] none)

def countingBody : Block := [
  .mk .doWhile [.block [.mk .continueLoop [] none, stepUp "n"], .int 0] none,
  .mk .conditional [isBelow "i" 3, .block [stepUp "n"], .block [.mk .breakLoop [] none]] none]

theorem counting_loops_agree : ∃ m ended ended',
    Machine.create {} { headless := true } (.silent {}) {} 0 = .ok m ∧
    blockKeeps .roundExit countingBody = true ∧ blockKeeps .loopExit [stepUp "i"] = true ∧
    ended.global? "n" = some (.int 3) ∧ ended'.global? "i" = some (.int 3) ∧
    EndsIn (fun fuel => (interpreter fuel).perform fuel
      (.mk .forLoop [.block [], isBelow "i" 9, .block [stepUp "i"], .block countingBody] none)) m (.done .zero ended) ∧
    EndsIn (forInFull [] (isBelow "i" 9) [stepUp "i"] countingBody none) m (.done .zero ended) ∧
    EndsIn (fun fuel => (interpreter fuel).perform fuel (.mk .doWhile [.block [stepUp "i"], isBelow "i" 3] none)) m
      (.done .zero ended') ∧
    EndsIn (doInFull [stepUp "i"] (isBelow "i" 3) none) m (.done .zero ended') := by
  have trace : ((Machine.create {} { headless := true } (.silent {}) {} 0).toOption.bind fun m =>
      ((interpreter 9).perform 9
        (.mk .forLoop [.block [], isBelow "i" 9, .block [stepUp "i"], .block countingBody] none) m).result?.bind fun ended =>
      ((interpreter 9).perform 9 (.mk .doWhile [.block [stepUp "i"], isBelow "i" 3] none) m).result?.map fun ended' =>
        (ended.1, ended.2.global? "n", ended'.1, ended'.2.global? "i")) =
      some (.zero, some (.int 3), .zero, some (.int 3)) := by
    decide +kernel
  obtain ⟨m, made, trace⟩ := Option.bind_eq_some_iff.mp trace
  obtain ⟨⟨flow, ended⟩, ran, trace⟩ := Option.bind_eq_some_iff.mp trace
  obtain ⟨⟨flow', ended'⟩, ran', shown⟩ := Option.map_eq_some_iff.mp trace
  simp only [Prod.mk.injEq] at shown
  obtain ⟨rfl, n, rfl, i⟩ := shown
  have keepsBody : blockKeeps .roundExit countingBody = true := by decide +kernel
  have keepsPost : blockKeeps .loopExit [stepUp "i"] = true := by decide +kernel
  have inFull := (loops_agree_with_while m (.done .zero ended)).1 [] (isBelow "i" 9) [stepUp "i"] countingBody none none
    nofun keepsBody keepsPost
  have inFull' := (loops_agree_with_while m (.done .zero ended')).2 [stepUp "i"] (isBelow "i" 3) none none
  have counted := inFull.mp ⟨nofun, 9, Outcome.done_of_result ran⟩
  have repeated := inFull'.mp ⟨nofun, 9, Outcome.done_of_result ran'⟩
  exact ⟨m, ended, ended', ok_of_toOption made, keepsBody, keepsPost, n, i, inFull.mpr counted, counted,
    inFull'.mpr repeated, repeated⟩

section Once

variable {m : Machine} {inst : Instruction}

theorem perform_deeper {fuel fuel' : Nat} (enough : fuel ≤ fuel') (inst : Instruction) :
    Parallel .fuel Eq ((interpreter fuel).perform fuel inst) ((interpreter fuel').perform fuel' inst) := by
  rintro m _ rfl
  have agreed := interpreter_agree Effects.simulation enough
  have ends := Inner.Agree.perform (Effects.actions _ m) (agreed m) (callAlike_of_agreed Effects.simulation agreed m)
    enough (Instruction.paired_of_within inst.within_any) m m ⟨rfl, .refl m⟩
  exact ends.imp (fun _ _ reached => reached.1) fun _ _ => trivial

theorem EndsIn.once {outcome outcome' : Outcome Flow}
    (one : EndsIn (fun fuel => (interpreter fuel).perform fuel inst) m outcome)
    (other : EndsIn (fun fuel => (interpreter fuel).perform fuel inst) m outcome') : outcome = outcome' := by
  obtain ⟨ended, fuel, rfl⟩ := one
  obtain ⟨ended', fuel', rfl⟩ := other
  obtain enough | enough := Nat.le_total fuel fuel'
  · exact ((perform_deeper enough inst m m rfl).eq_of_ended ended).symm
  · exact (perform_deeper enough inst m m rfl).eq_of_ended ended'

end Once

def skippingBody : Block := [
  stepUp "i",
  .mk .forLoop [.block [], .int 1, .block [.mk .continueLoop [] none], .block []] none]

theorem skipping_loops_differ : ∃ m ended,
    Machine.create {} { headless := true } (.silent {}) {} 0 = .ok m ∧ ended.global? "n" = some (.int 2) ∧
    EndsIn (fun fuel => (interpreter fuel).perform fuel
      (.mk .forLoop [.block [], isBelow "i" 2, .block [stepUp "n"], .block skippingBody] none)) m (.done .zero ended) ∧
    ¬ EndsIn (forInFull [] (isBelow "i" 2) [stepUp "n"] skippingBody none) m (.done .zero ended) := by
  have trace : ((Machine.create {} { headless := true } (.silent {}) {} 0).toOption.bind fun m =>
      ((interpreter 9).perform 9
        (.mk .forLoop [.block [], isBelow "i" 2, .block [stepUp "n"], .block skippingBody] none) m).result?.bind fun ended =>
      (forInFull [] (isBelow "i" 2) [stepUp "n"] skippingBody none 9 m).result?.map fun ended' =>
        (ended.1, ended.2.global? "n", ended'.1, ended'.2.global? "n")) =
      some (.zero, some (.int 2), .zero, none) := by
    decide +kernel
  obtain ⟨m, made, trace⟩ := Option.bind_eq_some_iff.mp trace
  obtain ⟨⟨flow, ended⟩, ran, trace⟩ := Option.bind_eq_some_iff.mp trace
  obtain ⟨⟨flow', ended'⟩, ran', shown⟩ := Option.map_eq_some_iff.mp trace
  simp only [Prod.mk.injEq] at shown
  obtain ⟨rfl, two, rfl, uncounted⟩ := shown
  refine ⟨m, ended, ok_of_toOption made, two, ⟨nofun, 9, Outcome.done_of_result ran⟩, fun full => ?_⟩
  -- In full the loop skips its last block, so it never counts.
  have short : EndsIn (forInFull [] (isBelow "i" 2) [stepUp "n"] skippingBody none) m (.done .zero ended') :=
    ⟨nofun, 9, Outcome.done_of_result ran'⟩
  rw [forInFull_nil] at full short
  have same : Outcome.done Flow.zero ended = .done .zero ended' := full.once short
  cases same
  rw [two] at uncounted
  cases uncounted

end CueScript
