import CueScript.Proofs.Machine.Isolation
import CueScript.Proofs.Program.Definitions

set_option autoImplicit false

namespace CueScript

open Run

/-- A registry made by adding builtins to none or to the standard ones, and the names that they were added under, the
latest first. -/
inductive Registered : List (String × Builtin) → List (String × Builtin) → Prop
  | none : Registered [] []
  | standard : Registered (Builtin.standardNames ++ Builtin.sceneryNames.map (·, .scenery)) Builtin.standard
  | added {named : List (String × Builtin)} {m : Machine} (before : Registered named m.builtins) (name : String)
      (builtin : Builtin) : Registered ((name, builtin) :: named) (m.addBuiltin name builtin).builtins

inductive Callee where
  | builtin (b : Builtin)
  | function (f : FunctionDef)
  | undefined

def Callee.run (fuel : Nat) (name : String) (args : List Value) : Callee → Run Flow
  | .builtin b => do
    match ← b.call args with
    | .value v => pure (.normal v)
    | .wait units => Run.read (·.waitFlow units)
  | .function f => (interpreter fuel).callFunction f args
  | .undefined => Run.fail (Fault.undefinedFunction name)

def Machine.callee (m : Machine) (name : String) : Callee :=
  match m.builtin? name, m.functions.find? (Text.lower name) with
  | some b, _ => .builtin b
  | none, some f => .function f
  | none, none => .undefined

/-- What the name stands for in a program, beside builtins that were added under these names. -/
inductive Program.Resolves (p : Program) (named : List (String × Builtin)) (name : String) : Callee → Prop
  | builtin {spelled : String} {b : Builtin}
      (latest : (named.find? fun entry => Text.lower entry.1 = Text.lower name) = some (spelled, b)) :
      Resolves p named name (.builtin b)
  | function {f : FunctionDef} (hidden : ∀ entry ∈ named, Text.lower entry.1 ≠ Text.lower name)
      (provides : p.Provides (Text.lower name) f) : Resolves p named name (.function f)
  | undefined (hidden : ∀ entry ∈ named, Text.lower entry.1 ≠ Text.lower name)
      (missing : ∀ f, ¬ p.Provides (Text.lower name) f) : Resolves p named name .undefined

section Registries

variable {named builtins : List (String × Builtin)}

theorem lookup_filter_other {α : Type} {wanted key : String} (differs : wanted ≠ key) (entries : List (String × α)) :
    (entries.filter (·.1 != key)).lookup wanted = entries.lookup wanted := by
  induction entries with
  | nil => rfl
  | cons entry rest ih =>
    obtain ⟨first, value⟩ := entry
    rw [List.filter_cons, lookup_entry, ← ih]
    by_cases kept : first = key
    next => simp [kept, differs]
    next => simp [kept, lookup_entry]

theorem lookup_lowered {α : Type} (entries : List (String × α)) (key : String) :
    (entries.map fun entry => (Text.lower entry.1, entry.2)).lookup key =
      (entries.find? fun entry => Text.lower entry.1 = key).map Prod.snd := by
  induction entries with
  | nil => rfl
  | cons entry rest ih =>
    rw [List.map_cons, lookup_entry, ih, List.find?_cons]
    by_cases same : Text.lower entry.1 = key
    next => simp [same]
    next => simp [same, Ne.symm same]

theorem Registered.lookup (registered : Registered named builtins) (key : String) :
    builtins.lookup key = (named.find? fun entry => Text.lower entry.1 = key).map Prod.snd := by
  induction registered with
  | none => rfl
  | standard => exact lookup_lowered _ key
  | @added named m before name builtin ih =>
    rw [Machine.addBuiltin, lookup_entry, List.find?_cons]
    by_cases same : Text.lower name = key
    next => simp [same]
    next =>
      -- Only builtins of the new name were taken out.
      simp [same, Ne.symm same, lookup_filter_other (Ne.symm same), ih]

end Registries

section Calls

variable {p : Program} {named : List (String × Builtin)} {m : Machine} {name : String} {callee : Callee}

theorem callNamed_eq (fuel : Nat) (name : String) (args : List Value) (m : Machine) :
    callNamed fuel name args m = (m.callee name).run fuel name args m := by
  unfold Machine.callee
  cases builtin : m.builtin? name with
  | some b => exact Inner.callNamed_builtin builtin
  | none =>
    cases found : m.functions.find? (Text.lower name) with
    | some f => exact Inner.callNamed_function builtin found
    | none => exact Inner.callNamed_undefined builtin found

theorem Program.resolves_iff (distinct : (p.functions.map fun entry => Text.lower entry.2.name).Nodup)
    (registered : Registered named m.builtins) (functions : m.functions = p.collectFunctions.2) :
    p.Resolves named name callee ↔ callee = m.callee name := by
  have found (f : FunctionDef) : m.functions.find? (Text.lower name) = some f ↔ p.Provides (Text.lower name) f := by
    rw [functions]
    exact Program.find?_eq_some distinct
  have builtin : m.builtin? name = (named.find? fun entry => Text.lower entry.1 = Text.lower name).map Prod.snd :=
    registered.lookup (Text.lower name)
  have hidden : (named.find? fun entry => Text.lower entry.1 = Text.lower name) = none ↔
      ∀ entry ∈ named, Text.lower entry.1 ≠ Text.lower name := by simp [List.find?_eq_none]
  unfold Machine.callee
  constructor
  next =>
    intro resolves
    cases resolves with
    | builtin latest => rw [builtin, latest]; rfl
    | function free provides => rw [builtin, hidden.mpr free, (found _).mpr provides]; rfl
    | undefined free missing =>
      have nothing := Option.eq_none_iff_forall_ne_some.mpr fun f present => missing f ((found f).mp present)
      rw [builtin, hidden.mpr free, nothing]
      rfl
  next =>
    rintro rfl
    rw [builtin]
    cases latest : named.find? fun entry => Text.lower entry.1 = Text.lower name with
    | some entry => exact .builtin latest
    | none =>
      cases present : m.functions.find? (Text.lower name) with
      | some f => exact .function (hidden.mp latest) ((found f).mp present)
      | none => exact .undefined (hidden.mp latest) fun f provides => by cases present.symm.trans ((found f).mpr provides)

end Calls

section Orders

namespace Machine

def withFunctions (table : FunctionTable) (m : Machine) : Machine :=
  { m with functions := table }

structure Refiled (table : FunctionTable) (m₁ m₂ : Machine) : Prop where
  eq : m₂ = m₁.withFunctions table
  same : ∀ key, table.find? key = m₁.functions.find? key

namespace Refiled

variable {table : FunctionTable} {m₁ m₂ : Machine}

theorem update (refiled : Refiled table m₁ m₂) (change : Machine → Machine)
    (commutes : change (m₁.withFunctions table) = (change m₁).withFunctions table)
    (functions : (change m₁).functions = m₁.functions) : Refiled table (change m₁) (change m₂) where
  eq := by rw [refiled.eq, commutes]
  same := functions ▸ refiled.same

theorem declare (refiled : Refiled table m₁ m₂) (name : String) (value : Value) :
    Refiled table (m₁.declare name value) (m₂.declare name value) := by
  obtain ⟨globals, frames, _, declared⟩ := declare_writes m₁ name value
  rw [declared m₁ rfl rfl, declared m₂ (by rw [refiled.eq]; rfl) (by rw [refiled.eq]; rfl)]
  exact refiled.update (fun m => { m with globals, frames }) rfl rfl

theorem assign (refiled : Refiled table m₁ m₂) (name : String) (value : Value) :
    Refiled table (m₁.assign name value) (m₂.assign name value) := by
  obtain ⟨globals, frames, _, assigned⟩ := assign_writes m₁ name value
  rw [assigned m₁ rfl rfl, assigned m₂ (by rw [refiled.eq]; rfl) (by rw [refiled.eq]; rfl)]
  exact refiled.update (fun m => { m with globals, frames }) rfl rfl

theorem setStep (refiled : Refiled table m₁ m₂) (perUnit : Int64) :
    Refiled table (m₁.setStep perUnit) (m₂.setStep perUnit) := by
  have running : (m₁.withFunctions table).running? = m₁.running? := rfl
  apply refiled.update (·.setStep perUnit) <;> unfold Machine.setStep
  next =>
    rw [running]
    split <;> rfl
  next => split <;> rfl

theorem sharing (table : FunctionTable) : Sharing (Refiled table) where
  alike refiled := by
    rw [refiled.eq]
    exact ⟨rfl, rfl, rfl, rfl, rfl, rfl, rfl⟩
  handlers refiled := by rw [refiled.eq]; rfl
  current refiled := by rw [refiled.eq]; rfl
  audio refiled := by rw [refiled.eq]; rfl
  headless refiled := by rw [refiled.eq]; rfl
  report severity text refiled := refiled.update (·.report severity text) rfl rfl
  steer {_ _ handlers} _ refiled := refiled.update (fun m => { m with handlers := { m.handlers with handlers } }) rfl rfl
  note {_ _ b args} _ refiled := refiled.update (·.note (.builtin b args)) rfl rfl
  post {_ _ call event} _ refiled := refiled.update (fun m => (m.note call).post event) rfl rfl
  stop refiled := refiled.update (fun m => { m with stopped := true }) rfl rfl
  putAudio {_ _ audio} _ refiled := refiled.update (fun m => { m with audio }) rfl rfl

theorem actions (P : Instruction → Prop) (table : FunctionTable) :
    Actions .fuel .any P (fun f => f.within .any = true) (Refiled table) fun _ => True where
  alike refiled := (sharing table).alike refiled
  lookup _ refiled := by rw [refiled.eq]; rfl
  builtin _ refiled := by rw [refiled.eq]; rfl
  function _ refiled _ found := by
    rw [refiled.eq]
    exact ⟨FunctionDef.within_any _, (refiled.same _).trans found⟩
  undefined _ refiled missing := by
    rw [refiled.eq]
    exact .inr ((refiled.same _).trans missing)
  report severity text refiled := (sharing table).report severity text refiled
  note silent refiled := (sharing table).note silent refiled
  assign value _ refiled := refiled.assign _ value
  declare value _ refiled := refiled.declare _ value
  putStore store refiled := refiled.update (fun m => { m with store }) rfl rfl
  putFiles files refiled := refiled.update (fun m => { m with files }) rfl rfl
  putRandom random refiled := refiled.update (fun m => { m with random }) rfl rfl
  register {_ _} kind {body} _ _ refiled :=
    ⟨by rw [refiled.eq]; rfl, refiled.update (fun m => (m.registerHandler kind body).2) rfl rfl⟩
  setStep perUnit _ refiled := refiled.setStep perUnit
  wait _ _ refiled := ⟨by rw [refiled.eq]; rfl, trivial⟩
  pend {_ _ n} _ refiled := refiled.update (fun m => { m with pendingWait := some n }) rfl rfl
  waits _ _ _ _ := rfl
  steers _ _ _ steers args := (sharing table).steeringValue steers args
  plays _ plays args := (sharing table).playingValue plays args
  loops _ _ := trivial

theorem simulation (table : FunctionTable) :
    Simulation .fuel .any (fun _ : Unit => Refiled table) fun _ _ => True where
  excused := trivial
  acts _ := actions _ table
  settles _ :=
    { pending := fun refiled => by rw [refiled.eq]; rfl
      owed := fun _ _ => trivial
      settle := fun refiled => refiled.update (fun m => { m with pendingWait := none }) rfl rfl }
  room refiled := Machine.room_of_same (by rw [refiled.eq]; rfl) (by rw [refiled.eq]; rfl)
  note {_ _ _ call} _ refiled := refiled.update (·.note call) rfl rfl
  call frame refiled :=
    ⟨(), refiled.update (·.enterCall frame) rfl rfl, fun _ _ => trivial,
      fun _ _ inside => inside.update Machine.leaveCall rfl rfl⟩

theorem callNamed (refiled : Refiled table m₁ m₂) (fuel : Nat) (name : String) (args : List Value) :
    (CueScript.callNamed fuel name args m₁).Agrees .fuel (Refiled table) (Flow.Owes fun _ => True)
      (CueScript.callNamed fuel name args m₂) := by
  have calls := callAlike_of_agreed (simulation table) (interpreter_agree (simulation table) (Nat.le_refl fuel)) ()
  exact Inner.Agree.callNamed (actions (fun inst => inst.within .any = true) table) calls rfl args m₁ m₂ refiled

end Refiled

end Machine

theorem callNamed_withFunctions {m : Machine} {table : FunctionTable}
    (same : ∀ key, table.find? key = m.functions.find? key) (fuel : Nat) (name : String) (args : List Value) :
    callNamed fuel name args (m.withFunctions table) =
      (callNamed fuel name args m).onMachine (Machine.withFunctions table) := by
  have there : m.Refiled table (m.withFunctions table) := ⟨rfl, same⟩
  -- A run out of fuel says nothing about the other one, so the runs are compared both ways.
  have back : (m.withFunctions table).Refiled m.functions m := ⟨rfl, fun key => (same key).symm⟩
  have ends := (there.callNamed fuel name args).matches (back.callNamed fuel name args)
  generalize callNamed fuel name args m = left, callNamed fuel name args (m.withFunctions table) = right at ends ⊢
  cases ends with
  | done _ refiled | failed _ refiled => rw [refiled.eq]; rfl
  | exhausted => rfl

end Orders

/-- A call runs the builtin that was added last under the name; or else the last function that an instruction of the
program defines under it; or else the one of that name in the program's table; or else it fails. The order of that table
does not matter for how the call ends. -/
theorem calls_resolve_names {p : Program} {named : List (String × Builtin)} {m : Machine}
    (distinct : (p.functions.map fun entry => Text.lower entry.2.name).Nodup) (registered : Registered named m.builtins)
    (functions : m.functions = p.collectFunctions.2) (name : String) (args : List Value) (fuel : Nat) :
    (∃! callee, p.Resolves named name callee) ∧
    (∀ callee, p.Resolves named name callee → callNamed fuel name args m = callee.run fuel name args m) ∧
    ∀ table : FunctionTable, p.functions.Perm table →
      callNamed fuel name args (m.withFunctions { p with functions := table }.collectFunctions.2) =
        (callNamed fuel name args m).onMachine (Machine.withFunctions { p with functions := table }.collectFunctions.2) := by
  have resolves (callee : Callee) : p.Resolves named name callee ↔ callee = m.callee name :=
    Program.resolves_iff distinct registered functions
  refine ⟨⟨m.callee name, (resolves _).mpr rfl, fun callee => (resolves callee).mp⟩, fun callee resolved => ?_,
    fun table order => ?_⟩
  next => rw [(resolves callee).mp resolved, callNamed_eq]
  next =>
    refine callNamed_withFunctions (fun key => ?_) fuel name args
    rw [functions]
    exact Program.find?_reorder distinct order key

/-- The first and the third instruction define one function; the second one lacks a block and the fourth is no definition
itself. -/
def rivalTitle : Program where
  instructions :=
    [.mk .defineFunction [.text "GREET", .block []] none,
     .mk .defineFunction [.text "greet"] none,
     .mk .defineFunction [.text "Greet", .block [.mk .returnValue [.int 2] none]] none,
     .mk .conditional [.int 1, .block [.mk .defineFunction [.text "greet", .block []] none]] none]
  functions := [("greet", { name := "Part", body := [] }), ("part", { name := "greet", body := [] })]

def rivalMachine : Machine :=
  let bare : Machine := { narrowMachine with functions := rivalTitle.collectFunctions.2, builtins := [] }
  bare.addBuiltin "Draw" (.host (.value (.int 5)))

theorem rival_definitions_resolved :
    callNamed 3 "gREET" [] rivalMachine =
      (interpreter 3).callFunction { name := "Greet", body := [.mk .returnValue [.int 2] none] } [] rivalMachine ∧
    callNamed 3 "PART" [] rivalMachine = (interpreter 3).callFunction { name := "Part", body := [] } [] rivalMachine ∧
    callNamed 3 "draw" [] rivalMachine =
      .done (.normal (.int 5)) (rivalMachine.note (.builtin (.host (.value (.int 5))) [])) := by
  have distinct : (rivalTitle.functions.map fun entry => Text.lower entry.2.name).Nodup := by decide
  have registered : Registered [("Draw", .host (.value (.int 5)))] rivalMachine.builtins :=
    .added (m := { narrowMachine with functions := rivalTitle.collectFunctions.2, builtins := [] }) .none _ _
  have resolve (name : String) := calls_resolve_names distinct registered rfl name [] 3
  have greet : rivalTitle.Provides (Text.lower "gREET") { name := "Greet", body := [.mk .returnValue [.int 2] none] } :=
    .defined (find?_definitions_eq_some.mp rfl)
  have part : rivalTitle.Provides (Text.lower "PART") { name := "Part", body := [] } :=
    .listed (find?_definitions_eq_none.mp rfl) List.mem_cons_self (by decide)
  refine ⟨?_, ?_, ?_⟩
  next => exact (resolve "gREET").2.1 _ (.function (by decide) greet)
  next => exact (resolve "PART").2.1 _ (.function (by decide) part)
  next => exact (resolve "draw").2.1 _ (.builtin rfl)

end CueScript
