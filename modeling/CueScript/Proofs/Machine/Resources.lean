import CueScript.Builtin.Names
import CueScript.Proofs.Machine.Driving

set_option autoImplicit false

namespace CueScript

open Run

def FunctionTable.Extends (table other : FunctionTable) : Prop :=
  ∀ key f, table.find? key = some f → other.find? key = some f

namespace Machine

def equip (functions : FunctionTable) (limit : Nat) (m : Machine) : Machine :=
  { m with functions, settings := { m.settings with stackLimit := limit } }

structure Equipped (functions : FunctionTable) (limit : Nat) (m₁ m₂ : Machine) : Prop where
  eq : m₂ = m₁.equip functions limit
  functions : m₁.functions.Extends functions
  limit : m₁.settings.stackLimit ≤ limit

end Machine

/-- A call cannot be made for want of a function or of a place on the stack. -/
def Excuse.resources : Excuse where
  exhausted := True
  fault kind := kind = .stackOverflow ∨ kind = .undefinedFunction
  fatal kind lacking := by rcases lacking with rfl | rfl <;> rfl

namespace Machine.Equipped

variable {functions : FunctionTable} {limit : Nat} {m₁ m₂ : Machine}

theorem update (equipped : Equipped functions limit m₁ m₂) (change : Machine → Machine)
    (commutes : change (m₁.equip functions limit) = (change m₁).equip functions limit)
    (table : (change m₁).functions = m₁.functions) (settings : (change m₁).settings = m₁.settings) :
    Equipped functions limit (change m₁) (change m₂) where
  eq := by rw [equipped.eq, commutes]
  functions := table ▸ equipped.functions
  limit := settings ▸ equipped.limit

theorem declare (equipped : Equipped functions limit m₁ m₂) (name : String) (value : Value) :
    Equipped functions limit (m₁.declare name value) (m₂.declare name value) := by
  obtain ⟨globals, frames, _, declared⟩ := declare_writes m₁ name value
  rw [declared m₁ rfl rfl, declared m₂ (by rw [equipped.eq]; rfl) (by rw [equipped.eq]; rfl)]
  exact equipped.update (fun m => { m with globals, frames }) rfl rfl rfl

theorem assign (equipped : Equipped functions limit m₁ m₂) (name : String) (value : Value) :
    Equipped functions limit (m₁.assign name value) (m₂.assign name value) := by
  obtain ⟨globals, frames, _, assigned⟩ := assign_writes m₁ name value
  rw [assigned m₁ rfl rfl, assigned m₂ (by rw [equipped.eq]; rfl) (by rw [equipped.eq]; rfl)]
  exact equipped.update (fun m => { m with globals, frames }) rfl rfl rfl

theorem setStep (equipped : Equipped functions limit m₁ m₂) (perUnit : Int64) :
    Equipped functions limit (m₁.setStep perUnit) (m₂.setStep perUnit) := by
  have running : (m₁.equip functions limit).running? = m₁.running? := rfl
  apply equipped.update (·.setStep perUnit) <;> unfold Machine.setStep
  · rw [running]
    split <;> rfl
  · split <;> rfl
  · split <;> rfl

theorem sharing (functions : FunctionTable) (limit : Nat) : Sharing (Equipped functions limit) where
  alike equipped := by
    rw [equipped.eq]
    exact ⟨rfl, rfl, rfl, rfl, rfl, rfl, rfl⟩
  handlers equipped := by rw [equipped.eq]; rfl
  current equipped := by rw [equipped.eq]; rfl
  audio equipped := by rw [equipped.eq]; rfl
  headless equipped := by rw [equipped.eq]; rfl
  report severity text equipped := equipped.update (·.report severity text) rfl rfl rfl
  steer {_ _ handlers} _ equipped :=
    equipped.update (fun m => { m with handlers := { m.handlers with handlers } }) rfl rfl rfl
  note {_ _ b args} _ equipped := equipped.update (·.note (.builtin b args)) rfl rfl rfl
  post {_ _ call event} _ equipped := equipped.update (fun m => (m.note call).post event) rfl rfl rfl
  stop equipped := equipped.update (fun m => { m with stopped := true }) rfl rfl rfl
  putAudio {_ _ audio} _ equipped := equipped.update (fun m => { m with audio }) rfl rfl rfl

theorem room (equipped : Equipped functions limit m₁ m₂) : m₁.Room .resources m₂ := by
  -- The calls in progress are the same, so the deeper stack is full only if the other one is.
  by_cases full : m₁.Full
  · exact .excused full (.inl rfl)
  · have fits : ¬ m₂.Full := by
      have deeper := equipped.limit
      rw [equipped.eq]
      simp only [Machine.Full, Machine.equip] at full ⊢
      omega
    exact .both full fits

theorem actions (P : Instruction → Prop) (functions : FunctionTable) (limit : Nat) :
    Actions .resources .any P (fun f => f.within .any = true) (Equipped functions limit) fun _ => True where
  alike equipped := (sharing functions limit).alike equipped
  lookup _ equipped := by rw [equipped.eq]; rfl
  builtin _ equipped := by rw [equipped.eq]; rfl
  function _ equipped _ found := by
    rw [equipped.eq]
    exact ⟨FunctionDef.within_any _, equipped.functions _ _ found⟩
  undefined _ _ _ := .inl (.inr rfl)
  report severity text equipped := equipped.update (·.report severity text) rfl rfl rfl
  note silent equipped := (sharing functions limit).note silent equipped
  assign value _ equipped := equipped.assign _ value
  declare value _ equipped := equipped.declare _ value
  putStore store equipped := equipped.update (fun m => { m with store }) rfl rfl rfl
  putFiles files equipped := equipped.update (fun m => { m with files }) rfl rfl rfl
  putRandom random equipped := equipped.update (fun m => { m with random }) rfl rfl rfl
  register {_ _} kind {body} _ _ equipped :=
    ⟨by rw [equipped.eq]; rfl, equipped.update (fun m => (m.registerHandler kind body).2) rfl rfl rfl⟩
  setStep perUnit _ equipped := equipped.setStep perUnit
  wait _ _ equipped := ⟨by rw [equipped.eq]; rfl, trivial⟩
  pend {_ _ n} _ equipped := equipped.update (fun m => { m with pendingWait := some n }) rfl rfl rfl
  waits _ _ _ _ := rfl
  steers _ _ _ steers args := (sharing functions limit).steeringValue steers args
  plays _ plays args := (sharing functions limit).playingValue plays args
  loops _ _ := trivial

theorem simulation (functions : FunctionTable) (limit : Nat) :
    Simulation .resources .any (fun _ : Unit => Equipped functions limit) fun _ _ => True where
  excused := trivial
  acts _ := actions _ functions limit
  settles _ :=
    { pending := fun equipped => by rw [equipped.eq]; rfl
      owed := fun _ _ => trivial
      settle := fun equipped => equipped.update (fun m => { m with pendingWait := none }) rfl rfl rfl }
  room equipped := equipped.room
  note {_ _ _ call} _ equipped := equipped.update (·.note call) rfl rfl rfl
  call frame equipped :=
    ⟨(), equipped.update (·.enterCall frame) rfl rfl rfl, fun _ _ => trivial,
      fun _ _ inside => inside.update Machine.leaveCall rfl rfl rfl⟩

theorem driving (functions : FunctionTable) (limit : Nat) :
    Driving (fun _ => True) fun _ => Equipped functions limit where
  outer equipped := by
    rw [equipped.eq]
    exact ⟨rfl, rfl, rfl, rfl, rfl, rfl, rfl⟩
  main _ _ _ := trivial
  bodies _ _ _ _ _ := trivial
  report severity text equipped := equipped.update (·.report severity text) rfl rfl rfl
  stop equipped := equipped.update (fun m => { m with stopped := true }) rfl rfl rfl
  publish params equipped := equipped.update (·.publish params) rfl rfl rfl
  enter id equipped := equipped.update (·.enterHandler id) rfl rfl rfl
  leave equipped := equipped.update Machine.leaveHandler rfl rfl rfl
  change {_ _} id {change} _ equipped := equipped.update (·.changeHandler id change) rfl rfl rfl
  register equipped := equipped.update (fun m => (m.registerHandler .time m.main).2) rfl rfl rfl
  sweep equipped := equipped.update Machine.sweep rfl rfl rfl

theorem executes (functions : FunctionTable) (limit : Nat) {fuel fuel' : Nat} (enough : fuel ≤ fuel') :
    Driving.Executes .resources (fun _ => True) (fun _ => Equipped functions limit) fuel fuel' := by
  intro current inst _
  have agree := interpreter_agree (simulation functions limit) enough ()
  exact (agree.exec inst.within_any).weaken fun _ _ => trivial

end Machine.Equipped

def Outcome.Unhindered {α : Type} : Outcome α → Prop
  | .done _ _ => True
  | .failed fault _ => fault.kind ≠ .stackOverflow ∧ fault.kind ≠ .undefinedFunction
  | .exhausted => False

instance {α : Type} : (outcome : Outcome α) → Decidable outcome.Unhindered
  | .done _ _ => .isTrue trivial
  | .failed _ _ => inferInstanceAs (Decidable (_ ∧ _))
  | .exhausted => .isFalse id

def Outcome.onMachine {α : Type} (change : Machine → Machine) : Outcome α → Outcome α
  | .done a m => .done a (change m)
  | .failed fault m => .failed fault (change m)
  | .exhausted => .exhausted

theorem Outcome.eq_of_unhindered {α : Type} {functions : FunctionTable} {limit : Nat} {ok : α → Prop}
    {left right : Outcome α} (agrees : left.Agrees .resources (Machine.Equipped functions limit) ok right)
    (unhindered : left.Unhindered) : right = left.onMachine (Machine.equip functions limit) := by
  cases agrees with
  | done _ equipped => rw [equipped.eq]; rfl
  | failed equipped => rw [equipped.eq]; rfl
  | exhausted => exact unhindered.elim
  | abandoned excused =>
    -- The runs part only where the first one ends in one of the two faults.
    rcases excused with overflow | missing
    · exact absurd overflow unhindered.1
    · exact absurd missing unhindered.2

theorem resources_beyond_need_change_nothing {fuel fuel' : Nat} {m : Machine} {functions : FunctionTable} {limit : Nat}
    (enough : fuel ≤ fuel') (more : m.functions.Extends functions) (deeper : m.settings.stackLimit ≤ limit) :
    (∀ body, (execBlock fuel body m).Unhindered →
      execBlock fuel' body (m.equip functions limit) =
        (execBlock fuel body m).onMachine (Machine.equip functions limit)) ∧
    ((runProgram fuel m).Unhindered →
      runProgram fuel' (m.equip functions limit) = (runProgram fuel m).onMachine (Machine.equip functions limit)) ∧
    (∀ event, (dispatch fuel event m).Unhindered →
      dispatch fuel' event (m.equip functions limit) =
        (dispatch fuel event m).onMachine (Machine.equip functions limit)) := by
  have equipped : m.Equipped functions limit (m.equip functions limit) := ⟨rfl, more, deeper⟩
  have driving := Machine.Equipped.driving functions limit
  have executes := Machine.Equipped.executes functions limit enough
  refine ⟨fun body unhindered => ?_, fun unhindered => ?_, fun event unhindered => ?_⟩
  · have inner := interpreter_agree (Machine.Equipped.simulation functions limit) enough ()
    have block := Inner.Agree.block (Machine.Equipped.actions _ functions limit) inner
      fun inst (_ : inst ∈ body) => inst.within_any
    exact Outcome.eq_of_unhindered (block _ _ equipped) unhindered
  · exact Outcome.eq_of_unhindered (driving.runProgram executes _ _ equipped) unhindered
  · exact Outcome.eq_of_unhindered (driving.dispatch executes event _ _ equipped) unhindered

def narrowMachine : Machine where
  settings := { headless := true, stackLimit := 1 }
  main := [.mk .call [.text "f"] none]
  file := none
  functions := [("f", { name := "f", body := [.mk .arrayRead [.var "a", .int 0] none, .mk .returnValue [.int 7] none] })]
  builtins := Builtin.standard
  handlers := { handlers := [{ id := 1, kind := .time, body := [.mk .call [.text "f"] none] }], nextId := 2 }
  audio := .silent {}
  random := { state := 0 }

def widerTable : FunctionTable :=
  ("g", { name := "g", body := [] }) :: narrowMachine.functions

theorem narrow_machine_equipped :
    execBlock 4 narrowMachine.main (narrowMachine.equip widerTable 3) =
      (execBlock 4 narrowMachine.main narrowMachine).onMachine (Machine.equip widerTable 3) ∧
    runProgram 4 (narrowMachine.equip widerTable 3) =
      (runProgram 4 narrowMachine).onMachine (Machine.equip widerTable 3) ∧
    dispatch 4 { kind := .time } (narrowMachine.equip widerTable 3) =
      (dispatch 4 { kind := .time } narrowMachine).onMachine (Machine.equip widerTable 3) := by
  have more : narrowMachine.functions.Extends widerTable := by
    intro key f found
    have entry := List.mem_singleton.mp (mem_of_lookup found)
    cases entry
    rfl
  have same := resources_beyond_need_change_nothing (Nat.le_refl 4) more (by decide : _ ≤ 3)
  refine ⟨same.1 narrowMachine.main ?_, same.2.1 ?_, same.2.2 { kind := .time } ?_⟩ <;> decide +kernel

end CueScript
