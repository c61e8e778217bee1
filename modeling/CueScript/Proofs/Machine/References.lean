import CueScript.Proofs.Handler.Parking
import CueScript.Proofs.Value.Cells

set_option autoImplicit false

namespace CueScript

/-- The name stands for a function of the script that has one parameter and consists of one instruction. -/
structure Machine.Runs (m : Machine) (name param : String) (inst : Instruction) : Prop where
  hidden : m.builtin? name = none
  found : ∃ f p, m.functions.find? (Text.lower name) = some f ∧ f.params = [p] ∧ p.name = param ∧ f.body = [inst]

/-- The first of `depth` functions that call each other with their parameter. The last one stores a literal in a cell of
its parameter. -/
inductive Machine.HandsOn (m : Machine) (index : Int64) (literal : Operand) : Nat → String → Prop
  | stores {name param : String} {target : Operand} {line : Option UInt32} (named : target.name? = some param)
      (runs : m.Runs name param (.mk .arrayAssign [target, .int index, literal] line)) :
      HandsOn m index literal 1 name
  | calls {depth : Nat} {name next param : String} {callee : Operand} {line : Option UInt32}
      (named : callee.name? = some next) (runs : m.Runs name param (.mk .call [callee, .var param] line))
      (rest : HandsOn m index literal depth next) : HandsOn m index literal (depth + 1) name

def Machine.rewritten (m : Machine) (id : ArrayId) (cells : Cells) (calls : List CallRecord) : Machine :=
  { m with store := m.store.put id cells, pendingWait := none, calls }

section Statements

variable {m last : Machine} {name x : String} {callee target operand : Operand} {fuel : Nat}
  {id : ArrayId} {index : Int64} {value arg : Value} {cells : Cells} {flow : Flow}

theorem Machine.lookup_enterCall (m : Machine) (x : String) (value : Value) :
    (m.enterCall (({} : Bindings).set x value)).lookup x = some value := by
  have bound : (({} : Bindings).set x value).get? x = some value := by rw [Bindings.get?_set, if_pos rfl]
  change List.findSome? (·.get? x) [({} : Bindings).set x value, m.globals] = _
  rw [List.findSome?_cons, bound]

theorem exec_call (named : callee.name? = some name) (read : m.lookup x = some arg)
    (called : (interpreter (fuel + 1)).callNamed name [arg] m = .done flow last) (line : Option UInt32) :
    exec (fuel + 2) (.mk .call [callee, .var x] line) m =
      .done (Inner.withPending last.pendingWait flow) { last with pendingWait := none } := by
  refine exec_of_performed ?_
  have calleeName : Inner.name (.mk .call [callee, .var x] line) 0 = pure name := by
    simp only [Inner.name, Instruction.arg?, Instruction.args, List.getElem?_cons_zero, Option.bind_some, named]
  have variableRead : (interpreter (fuel + 1)).eval (.var x) m = .done arg m := by
    simp only [interpreter, eval, Inner.operand, Run.read, read, Option.getD_some]
  simp only [Inner.perform, Instruction.op, Inner.call, calleeName, Instruction.args, List.drop_one, List.tail_cons,
    Inner.evalAll, bind, Run.bind, pure, Run.pure, variableRead, called]

theorem exec_arrayAssign (named : target.name? = some x) (read : m.lookup x = some (.array id))
    (literal : operand.literal? = some value) (stored : (m.store.cells id).set m.grants index value = .stored cells)
    (fuel : Nat) (line : Option UInt32) :
    exec (fuel + 2) (.mk .arrayAssign [target, .int index, operand] line) m =
      .done (Inner.withPending m.pendingWait (.normal value)) (m.rewritten id cells m.calls) := by
  let inst : Instruction := .mk .arrayAssign [target, .int index, operand] line
  have targetName : Inner.name inst 0 = pure x := by
    simp only [Inner.name, Instruction.arg?, Instruction.args, inst, List.getElem?_cons_zero, Option.bind_some, named]
  have indexed : (interpreter (fuel + 1)).arg inst 1 = pure (.int index) := rfl
  have valued : (interpreter (fuel + 1)).arg inst 2 = pure value := eval_literal literal fuel
  have array : Inner.arrayFor x m = .done id m := by simp only [Inner.arrayFor, Run.step, read]
  have assigned : (interpreter (fuel + 1)).arrayAssign inst m = .done value { m with store := m.store.put id cells } := by
    simp only [Inner.arrayAssign, targetName, indexed, valued, bind, Run.bind, pure, Run.pure, array, Run.read, Value.toInt,
      stored]
    rfl
  have performed : (interpreter (fuel + 1)).perform (fuel + 1) inst m =
      .done (.normal value) { m with store := m.store.put id cells } := by
    change (Flow.normal <$> (interpreter (fuel + 1)).arrayAssign inst : Run Flow) m = _
    simp only [Functor.map, Run.bind, assigned]
    rfl
  exact exec_of_performed performed

theorem Machine.Runs.callNamed {param : String} {inst : Instruction} (runs : m.Runs name param inst) (free : ¬ m.Full)
    (inner : Inner) (arg : Value) : ∃ function, ∀ pending value last,
      inner.exec inst ((m.note (.entered function)).enterCall (({} : Bindings).set param arg)) =
        .done (Inner.withPending pending (.normal value)) last →
      inner.callNamed name [arg] m = .done (Inner.withPending pending .zero) (last.leaveCall.note .left) := by
  obtain ⟨f, p, found, params, rfl, body⟩ := runs.found
  refine ⟨f.name, fun pending value last ran => ?_⟩
  let entered := m.note (.entered f.name)
  have block : inner.block f.body (entered.enterCall (({} : Bindings).set p.name arg)) =
      .done (Inner.withPending pending (.normal value)) last := by
    rw [body]
    cases pending with
    | none => simp only [Inner.block, Inner.blockFrom, entered, ran, Inner.withPending]; rfl
    | some events => simp only [Inner.block, Inner.blockFrom, entered, ran, Inner.withPending]
  -- Only the frame goes: what the instruction did to the rest of the machine stays.
  have framed : inner.inFrame (({} : Bindings).set p.name arg) f.body entered =
      .done (Inner.withPending pending (.normal value)) last.leaveCall := by
    change (inner.block f.body).afterwards Machine.leaveCall (entered.enterCall (({} : Bindings).set p.name arg)) = _
    simp only [Run.afterwards, block]
  have applied : inner.applyFunction f [arg] entered = .done (Inner.withPending pending .zero) last.leaveCall := by
    have free : ¬ entered.Full := free
    rw [Inner.applyFunction_free free]
    simp only [params, Inner.bindParams, bind, Run.bind, pure, Run.pure, framed]
    cases pending <;> rfl
  rw [Inner.callNamed_function runs.hidden found]
  change (inner.applyFunction f [arg]).afterwards (·.note .left) entered = _
  simp only [Run.afterwards, applied]

end Statements

section Chains

variable {m n : Machine} {name : String} {literal : Operand} {index : Int64} {depth fuel : Nat} {id : ArrayId}
  {value : Value} {cells : Cells}

theorem Machine.Runs.transfer {param : String} {inst : Instruction} (runs : m.Runs name param inst)
    (functions : n.functions = m.functions) (builtins : n.builtins = m.builtins) : n.Runs name param inst where
  hidden := by rw [Machine.builtin?, builtins]; exact runs.hidden
  found := by rw [functions]; exact runs.found

theorem Machine.HandsOn.callNamed (chain : m.HandsOn index literal depth name) (isLiteral : literal.literal? = some value)
    (functions : n.functions = m.functions) (builtins : n.builtins = m.builtins)
    (stored : (n.store.cells id).set n.grants index value = .stored cells)
    (room : n.frames.length + depth ≤ n.settings.stackLimit) (enough : depth + 1 ≤ fuel) :
    ∃ calls, (interpreter fuel).callNamed name [.array id] n =
      .done (Inner.withPending n.pendingWait .zero) (n.rewritten id cells calls) := by
  induction chain generalizing n fuel with
  | @stores name param target line named runs =>
    obtain ⟨fuel, rfl⟩ : ∃ less, fuel = less + 2 := ⟨fuel - 2, by omega⟩
    have free : ¬ n.Full := by unfold Machine.Full; omega
    obtain ⟨function, finishes⟩ :=
      (runs.transfer functions builtins).callNamed free (interpreter (fuel + 2)) (.array id)
    let inside := (n.note (.entered function)).enterCall (({} : Bindings).set param (.array id))
    have ran := exec_arrayAssign (m := inside) named (Machine.lookup_enterCall _ param (.array id)) isLiteral stored fuel
      line
    exact ⟨_, finishes n.pendingWait value _ ran⟩
  | @calls depth name next param callee line named runs rest ih =>
    obtain ⟨fuel, rfl⟩ : ∃ less, fuel = less + 2 := ⟨fuel - 2, by omega⟩
    have free : ¬ n.Full := by unfold Machine.Full; omega
    obtain ⟨function, finishes⟩ :=
      (runs.transfer functions builtins).callNamed free (interpreter (fuel + 2)) (.array id)
    let inside := (n.note (.entered function)).enterCall (({} : Bindings).set param (.array id))
    obtain ⟨calls, called⟩ := ih (n := inside) functions builtins stored
      (by simp only [inside, Machine.note, Machine.enterCall, List.length_cons]; omega) (show depth + 1 ≤ fuel + 1 by omega)
    -- The wait was taken up by the innermost statement already.
    have settled (flow : Flow) : Inner.withPending none flow = flow := by cases flow <;> rfl
    have ran : exec (fuel + 2) (.mk .call [callee, .var param] line) inside =
        .done (Inner.withPending n.pendingWait .zero) (inside.rewritten id cells calls) := by
      rw [exec_call named (Machine.lookup_enterCall _ param (.array id)) called line]
      exact congrArg (Outcome.done · _) (settled _)
    exact ⟨_, finishes n.pendingWait (.int 0) _ ran⟩

end Chains

theorem eval_arrayRead {m : Machine} {x : String} {id : ArrayId} {index : Int64} {cell : Value}
    (read : m.lookup x = some (.array id)) (present : (m.store.cells id).get? index = some cell) (fuel : Nat)
    (line : Option UInt32) : eval (fuel + 2) (.node (.mk .arrayRead [.var x, .int index] line)) m = .done cell m := by
  let inst : Instruction := .mk .arrayRead [.var x, .int index] line
  have named : Inner.name inst 0 = pure x := rfl
  have indexed : (interpreter (fuel + 1)).arg inst 1 = pure (.int index) := rfl
  have valued : (interpreter (fuel + 1)).arrayRead inst m = .done cell m := by
    simp only [Inner.arrayRead, named, indexed, bind, Run.bind, pure, Run.pure, Run.read, read, Value.toInt, present]
  change ((interpreter (fuel + 1)).arrayRead inst).locate inst m = _
  simp only [Run.locate, valued]

/-- A store to the parameter of the last of any number of functions that hand an array on is a store to the array that
the first call was given. Every name that stood for it still does and reads the new cells; all else is as it was, but the
calls are noted and a wait that was already asked for is taken up by the statement. -/
theorem arrays_passed_by_reference {m : Machine} {x name : String} {callee literal : Operand} {id : ArrayId}
    {index : Int64} {slot depth fuel : Nat} {value : Value} (bound : m.lookup x = some (.array id))
    (known : id < m.store.arrays.size) (natural : index.toInt = slot)
    (accepted : slot < (m.store.cells id).size ∨ m.grants (slot + 1) = true)
    (isLiteral : literal.literal? = some value) (chain : m.HandsOn index literal depth name)
    (named : callee.name? = some name) (room : m.frames.length + depth ≤ m.settings.stackLimit)
    (enough : depth + 2 ≤ fuel) (line : Option UInt32) :
    ∃ m', exec fuel (.mk .call [callee, .var x] line) m = .done (Inner.withPending m.pendingWait (.normal (.int 0))) m' ∧
      (m.pendingWait = none → exec fuel (.mk .call [callee, .var x] line) m = .done (.normal (.int 0)) m') ∧
      m' = { m with store := m'.store, pendingWait := none, calls := m'.calls } ∧
      m'.globals = m.globals ∧ m'.frames = m.frames ∧ (∀ y, m'.lookup y = m.lookup y) ∧
      (m.store.cells id).StoredAt slot value (m'.store.cells id) ∧
      (∀ other, other ≠ id → m'.store.cells other = m.store.cells other) ∧
      ∀ y, m.lookup y = some (.array id) → ∀ place cell, (m'.store.cells id).get? place = some cell →
        ∀ line, eval fuel (.node (.mk .arrayRead [.var y, .int place] line)) m' = .done cell m' := by
  obtain ⟨fuel, rfl⟩ : ∃ less, fuel = less + 2 := ⟨fuel - 2, by omega⟩
  obtain ⟨cells, stored, placed⟩ : ∃ cells, (m.store.cells id).set m.grants index value = .stored cells ∧
      (m.store.cells id).StoredAt slot value cells := by
    by_cases inside : slot < (m.store.cells id).size
    next => exact Cells.set_inside natural inside
    next => exact Cells.set_granted natural (Nat.not_lt.mp inside) (accepted.resolve_left inside)
  have contents (other : ArrayId) := m.store.cells_put known cells other
  obtain ⟨calls, called⟩ := chain.callNamed isLiteral rfl rfl stored room (show depth + 1 ≤ fuel + 1 by omega)
  have ran : exec (fuel + 2) (.mk .call [callee, .var x] line) m =
      .done (Inner.withPending m.pendingWait (.normal (.int 0))) (m.rewritten id cells calls) := by
    rw [exec_call named bound called]
    cases m.pendingWait <;> rfl
  have written : (m.rewritten id cells calls).store.cells id = cells := (contents id).trans (if_pos rfl)
  refine ⟨m.rewritten id cells calls, ran, fun settled => ?_, rfl, rfl, rfl, fun _ => rfl, ?_, fun other differs => ?_,
    fun y same place cell present line => ?_⟩
  next => rw [ran, settled]; rfl
  next => rw [written]; exact placed
  next => exact (contents other).trans (if_neg differs)
  next => exact eval_arrayRead (m := m.rewritten id cells calls) same present fuel line

def sharingMachine : Machine :=
  { storeMachine [("data", .array 0), ("copy", .array 0)] with
    functions :=
      [("outer", { name := "outer", params := [{ name := "copy" }],
                   body := [.mk .call [.text "Inner", .var "copy"] none] }),
       ("inner", { name := "inner", params := [{ name := "a" }],
                   body := [.mk .arrayAssign [.var "a", .int 3, .text "end"] none] })] }

theorem nested_store_reaches_copy : sharingMachine.HandsOn 3 (.text "end") 2 "outer" ∧
    ∃ m', exec 4 (.mk .call [.text "outer", .var "data"] none) sharingMachine = .done (.normal (.int 0)) m' ∧
      Cells.StoredAt #[.int 7] 3 (.text "end") (m'.store.cells 0) ∧
      eval 4 (.node (.mk .arrayRead [.var "copy", .int 3] none)) m' = .done (.text "end") m' := by
  have inner : sharingMachine.HandsOn 3 (.text "end") 1 "Inner" := .stores rfl ⟨rfl, _, _, rfl, rfl, rfl, rfl⟩
  have outer : sharingMachine.HandsOn 3 (.text "end") 2 "outer" := .calls rfl ⟨rfl, _, _, rfl, rfl, rfl, rfl⟩ inner
  obtain ⟨m', _, ran, _, _, _, _, stored, _, aliases⟩ := arrays_passed_by_reference (m := sharingMachine) (x := "data")
    rfl (by decide) rfl (.inr rfl) rfl outer (show (Operand.text "outer").name? = some "outer" from rfl) (by decide)
    (show 2 + 2 ≤ 4 by decide) none
  refine ⟨outer, m', ran rfl, stored, aliases "copy" rfl 3 (.text "end") ?_ none⟩
  exact (Cells.get?_natural rfl).trans stored.cell

end CueScript
