import CueScript.Proofs.Machine.Resources
import CueScript.Proofs.Machine.Twin

/-!
What a call sees of the frames on the stack. The block of a function sees its own frame and the globals, so a call with
an argument for every parameter neither reads nor writes the frames below it. A default is evaluated before the frame of
the call is there: it sees the frame of the caller, but only through the names that it mentions.
-/

set_option autoImplicit false

namespace CueScript

open Run

def Machine.withFrames (frames : List Bindings) (m : Machine) : Machine :=
  { m with frames }

/-- The machines have these functions and differ only in their frames, which `R` joins. -/
def Machine.Framed (table : FunctionTable) (R : List Bindings → List Bindings → Prop) (m₁ m₂ : Machine) : Prop :=
  ∃ (m : Machine) (frames₁ frames₂ : List Bindings),
    m.functions = table ∧ R frames₁ frames₂ ∧ m₁ = m.withFrames frames₁ ∧ m₂ = m.withFrames frames₂

/-- Joined stacks are of the same height, and whoever knows only the names in `seen` cannot tell their innermost frames
apart, also after one of these names is bound in both. -/
structure View (seen : String → Bool) (R : List Bindings → List Bindings → Prop) : Prop where
  height {a b : List Bindings} : R a b → a.length = b.length
  get {frame frame' : Bindings} {a b : List Bindings} {name : String} : R (frame :: a) (frame' :: b) →
    seen name = true → frame.get? name = frame'.get? name
  set {frame frame' : Bindings} {a b : List Bindings} {name : String} (value : Value) : R (frame :: a) (frame' :: b) →
    seen name = true → R (frame.set name value :: a) (frame'.set name value :: b)

namespace Machine.Framed

variable {table : FunctionTable} {seen : String → Bool} {R : List Bindings → List Bindings → Prop} {m₁ m₂ : Machine}

theorem update (framed : Framed table R m₁ m₂) (change : Machine → Machine)
    (commutes : ∀ m frames, change (withFrames frames m) = (change m).withFrames frames)
    (functions : ∀ m, (change m).functions = m.functions) : Framed table R (change m₁) (change m₂) := by
  obtain ⟨m, a, b, known, joined, rfl, rfl⟩ := framed
  exact ⟨change m, a, b, (functions m).trans known, joined, commutes m a, commutes m b⟩

theorem same {α : Type} (framed : Framed table R m₁ m₂) {f : Machine → α}
    (blind : ∀ m frames, f (withFrames frames m) = f m) : f m₁ = f m₂ := by
  obtain ⟨m, a, b, _, _, rfl, rfl⟩ := framed
  rw [blind m a, blind m b]

theorem functions_eq (framed : Framed table R m₁ m₂) : m₁.functions = table ∧ m₂.functions = table := by
  obtain ⟨m, a, b, known, _, rfl, rfl⟩ := framed
  exact ⟨known, known⟩

section Variables

variable {name : String}

theorem lookup (framed : Framed table R m₁ m₂) (view : View seen R) (sees : seen name = true) :
    m₁.lookup name = m₂.lookup name := by
  obtain ⟨m, a, b, _, joined, rfl, rfl⟩ := framed
  have height := view.height joined
  match a, b with
  | [], [] => rfl
  | frame :: a, frame' :: b =>
    have nearest := view.get joined sees
    simp [Machine.lookup, Machine.scopes, Machine.withFrames, lookupNearest, List.findSome?, nearest]
  | [], _ :: _ | _ :: _, [] => cases height

theorem declare (framed : Framed table R m₁ m₂) (view : View seen R) (sees : seen name = true) (value : Value) :
    Framed table R (m₁.declare name value) (m₂.declare name value) := by
  obtain ⟨m, a, b, known, joined, rfl, rfl⟩ := framed
  have height := view.height joined
  match a, b with
  | [], [] => exact ⟨m.setGlobal name value, [], [], known, joined, rfl, rfl⟩
  | frame :: a, frame' :: b =>
    exact ⟨m, frame.set name value :: a, frame'.set name value :: b, known, view.set value joined sees, rfl, rfl⟩
  | [], _ :: _ | _ :: _, [] => cases height

theorem assign (framed : Framed table R m₁ m₂) (view : View seen R) (sees : seen name = true) (value : Value) :
    Framed table R (m₁.assign name value) (m₂.assign name value) := by
  have declared := framed.declare view sees value
  obtain ⟨m, a, b, known, joined, rfl, rfl⟩ := framed
  have height := view.height joined
  match a, b with
  | [], [] => exact declared
  | frame :: a, frame' :: b =>
    have bound : frame.contains name = frame'.contains name := by
      rw [Bindings.contains, Bindings.contains, view.get joined sees]
    -- Both assign to the innermost frame, or both to the globals.
    by_cases here : (frame.contains name || !m.globals.contains name) = true
    · have there : (frame'.contains name || !m.globals.contains name) = true := bound ▸ here
      simpa only [Machine.assign, Machine.withFrames, here, there, if_true] using declared
    · have there : ¬ (frame'.contains name || !m.globals.contains name) = true := bound ▸ here
      simp only [Machine.assign, Machine.withFrames, here, there]
      exact ⟨m.setGlobal name value, _, _, known, joined, rfl, rfl⟩
  | [], _ :: _ | _ :: _, [] => cases height

end Variables

theorem setStep (framed : Framed table R m₁ m₂) (perUnit : Int64) :
    Framed table R (m₁.setStep perUnit) (m₂.setStep perUnit) := by
  apply framed.update (·.setStep perUnit)
  · intro m frames
    have running : (m.withFrames frames).running? = m.running? := rfl
    unfold Machine.setStep
    rw [running]
    split <;> rfl
  · intro m
    unfold Machine.setStep
    split <;> rfl

theorem note (framed : Framed table R m₁ m₂) (call : CallRecord) : Framed table R (m₁.note call) (m₂.note call) :=
  framed.update (·.note call) (fun _ _ => rfl) fun _ => rfl

theorem sharing (table : FunctionTable) (R : List Bindings → List Bindings → Prop) : Sharing (Framed table R) where
  alike framed := by
    obtain ⟨m, a, b, _, _, rfl, rfl⟩ := framed
    exact ⟨rfl, rfl, rfl, rfl, rfl, rfl, rfl⟩
  handlers framed := framed.same fun _ _ => rfl
  current framed := framed.same fun _ _ => rfl
  audio framed := framed.same fun _ _ => rfl
  headless framed := framed.same (f := (·.settings.headless)) fun _ _ => rfl
  report severity text framed := framed.update (·.report severity text) (fun _ _ => rfl) fun _ => rfl
  steer {_ _ handlers} _ framed :=
    framed.update (fun m => { m with handlers := { m.handlers with handlers } }) (fun _ _ => rfl) fun _ => rfl
  note _ framed := framed.note _
  post {_ _ call event} _ framed := framed.update (fun m => (m.note call).post event) (fun _ _ => rfl) fun _ => rfl
  stop framed := framed.update (fun m => { m with stopped := true }) (fun _ _ => rfl) fun _ => rfl
  putAudio {_ _ audio} _ framed := framed.update (fun m => { m with audio }) (fun _ _ => rfl) fun _ => rfl

theorem actions (view : View seen R) {F : FunctionDef → Prop} (P : Instruction → Prop)
    (defined : ∀ key f, table.find? key = some f → F f) :
    Actions .fuel { mention := seen } P F (Framed table R) fun _ => True where
  alike framed := (sharing table R).alike framed
  lookup sees framed := framed.lookup view sees
  builtin {_ _ name} _ framed := framed.same (f := (·.builtin? name)) fun _ _ => rfl
  function _ framed _ found := by
    obtain ⟨left, right⟩ := framed.functions_eq
    rw [left] at found
    exact ⟨defined _ _ found, right ▸ found⟩
  undefined _ framed missing := by
    obtain ⟨left, right⟩ := framed.functions_eq
    rw [left] at missing
    exact .inr (right ▸ missing)
  report severity text framed := (sharing table R).report severity text framed
  note silent framed := (sharing table R).note silent framed
  assign value sees framed := framed.assign view sees value
  declare value sees framed := framed.declare view sees value
  putStore store framed := framed.update (fun m => { m with store }) (fun _ _ => rfl) fun _ => rfl
  putFiles files framed := framed.update (fun m => { m with files }) (fun _ _ => rfl) fun _ => rfl
  putRandom random framed := framed.update (fun m => { m with random }) (fun _ _ => rfl) fun _ => rfl
  register {_ _} kind {body} _ _ framed :=
    ⟨framed.same (f := fun m => (m.registerHandler kind body).1) fun _ _ => rfl,
      framed.update (fun m => (m.registerHandler kind body).2) (fun _ _ => rfl) fun _ => rfl⟩
  setStep perUnit _ framed := framed.setStep perUnit
  wait _ _ framed := ⟨framed.same fun _ _ => rfl, trivial⟩
  pend {_ _ n} _ framed := framed.update (fun m => { m with pendingWait := some n }) (fun _ _ => rfl) fun _ => rfl
  waits _ _ _ _ := rfl
  steers _ _ _ steers args := (sharing table R).steeringValue steers args
  plays _ plays args := (sharing table R).playingValue plays args
  loops _ _ := trivial

theorem settles (table : FunctionTable) (R : List Bindings → List Bindings → Prop) :
    Settles (Framed table R) fun _ => True where
  pending framed := framed.same fun _ _ => rfl
  owed _ _ := trivial
  settle framed := framed.update (fun m => { m with pendingWait := none }) (fun _ _ => rfl) fun _ => rfl

theorem room (view : View seen R) (framed : Framed table R m₁ m₂) : m₁.Room .fuel m₂ := by
  obtain ⟨m, a, b, _, joined, rfl, rfl⟩ := framed
  exact Machine.room_of_same rfl (view.height joined)

theorem enter {R' : List Bindings → List Bindings → Prop} (frame : Bindings)
    (pushed : ∀ a b, R a b → R' (frame :: a) (frame :: b)) (framed : Framed table R m₁ m₂) :
    Framed table R' (m₁.enterCall frame) (m₂.enterCall frame) := by
  obtain ⟨m, a, b, known, joined, rfl, rfl⟩ := framed
  exact ⟨m, frame :: a, frame :: b, known, pushed a b joined, rfl, rfl⟩

theorem imp {R' : List Bindings → List Bindings → Prop} (weaker : ∀ a b, R a b → R' a b) (framed : Framed table R m₁ m₂) :
    Framed table R' m₁ m₂ := by
  obtain ⟨m, a, b, known, joined, rfl, rfl⟩ := framed
  exact ⟨m, a, b, known, weaker a b joined, rfl, rfl⟩

theorem leave {R' : List Bindings → List Bindings → Prop} (popped : ∀ a b, R' a b → R a.tail b.tail)
    (framed : Framed table R' m₁ m₂) : Framed table R m₁.leaveCall m₂.leaveCall := by
  obtain ⟨m, a, b, known, joined, rfl, rfl⟩ := framed
  exact ⟨m, a.tail, b.tail, known, popped a b joined, rfl, rfl⟩

end Machine.Framed

section Ends

variable {α : Type} {S S' : Machine → Machine → Prop} {ok ok' : α → Prop} {left right : Outcome α}

inductive Outcome.Matches (S : Machine → Machine → Prop) : Outcome α → Outcome α → Prop
  | done {m₁ m₂ : Machine} (a : α) (joined : S m₁ m₂) : Matches S (.done a m₁) (.done a m₂)
  | failed {m₁ m₂ : Machine} (fault : Fault) (joined : S m₁ m₂) : Matches S (.failed fault m₁) (.failed fault m₂)
  | exhausted : Matches S .exhausted .exhausted

theorem Outcome.Matches.imp (ends : left.Matches S right) (joins : ∀ m₁ m₂, S m₁ m₂ → S' m₁ m₂) :
    left.Matches S' right := by
  cases ends with
  | done a joined => exact .done a (joins _ _ joined)
  | failed fault joined => exact .failed fault (joins _ _ joined)
  | exhausted => exact .exhausted

theorem Outcome.Agrees.matches (there : left.Agrees .fuel S ok right) (back : right.Agrees .fuel S' ok' left) :
    left.Matches S right := by
  cases there with
  | done _ joined => exact .done _ joined
  | failed joined => exact .failed _ joined
  | exhausted =>
    -- The right run cannot have an end either, as it would be one of the left run.
    cases back with
    | exhausted => exact .exhausted
    | abandoned excused => exact excused.elim
  | abandoned excused => exact excused.elim

end Ends

/-- The same `depth` innermost frames, on top of these two stacks. -/
def Atop (below below' : List Bindings) (depth : Nat) (a b : List Bindings) : Prop :=
  ∃ own : List Bindings, own.length = depth ∧ a = own ++ below ∧ b = own ++ below'

namespace Atop

variable {below below' : List Bindings} {depth : Nat}

theorem push (frame : Bindings) (a b : List Bindings) (atop : Atop below below' depth a b) :
    Atop below below' (depth + 1) (frame :: a) (frame :: b) := by
  obtain ⟨own, rfl, rfl, rfl⟩ := atop
  exact ⟨frame :: own, rfl, rfl, rfl⟩

theorem innermost {a b : List Bindings} (atop : Atop below below' (depth + 1) a b) :
    ∃ frame callers callers', a = frame :: callers ∧ b = frame :: callers' ∧
      Atop below below' depth callers callers' := by
  obtain ⟨own, size, rfl, rfl⟩ := atop
  obtain ⟨frame, rest, rfl⟩ := List.exists_cons_of_length_eq_add_one size
  exact ⟨frame, rest ++ below, rest ++ below', rfl, rfl, rest, Nat.succ.inj size, rfl, rfl⟩

theorem pop (a b : List Bindings) (atop : Atop below below' (depth + 1) a b) : Atop below below' depth a.tail b.tail := by
  obtain ⟨frame, callers, callers', rfl, rfl, rest⟩ := atop.innermost
  exact rest

theorem bare {a b : List Bindings} (atop : Atop below below' 0 a b) : a = below ∧ b = below' := by
  obtain ⟨own, none, rfl, rfl⟩ := atop
  obtain rfl := List.length_eq_zero_iff.mp none
  exact ⟨rfl, rfl⟩

theorem length_eq {a b : List Bindings} (height : below.length = below'.length) (atop : Atop below below' depth a b) :
    a.length = b.length := by
  obtain ⟨own, _, rfl, rfl⟩ := atop
  simp [height]

theorem view (height : below.length = below'.length) (depth : Nat) :
    View (fun _ => true) (Atop below below' (depth + 1)) where
  height := length_eq height
  get atop _ := by
    obtain ⟨frame, _, _, left, right, _⟩ := atop.innermost
    rw [(List.cons.inj left).1, (List.cons.inj right).1]
  set value atop _ := by
    obtain ⟨frame, _, _, left, right, rest⟩ := atop.innermost
    obtain ⟨rfl, rfl⟩ := List.cons.inj left
    obtain ⟨rfl, rfl⟩ := List.cons.inj right
    exact push _ _ _ rest

theorem blind (height : below.length = below'.length) : View (fun _ => false) (Atop below below' 0) where
  height := length_eq height
  get _ sees := by cases sees
  set _ _ sees := by cases sees

theorem simulation (table : FunctionTable) (height : below.length = below'.length) :
    Simulation .fuel .any (fun depth => Machine.Framed table (Atop below below' (depth + 1))) fun _ _ => True where
  excused := trivial
  acts depth := Machine.Framed.actions (view height depth) _ fun _ _ _ => FunctionDef.within_any _
  settles _ := Machine.Framed.settles table _
  room {depth _ _} framed := framed.room (view height depth)
  note _ framed := framed.note _
  call {depth _ _} frame framed :=
    ⟨depth + 1, framed.enter frame (push frame), fun _ _ => trivial, fun _ _ inside => inside.leave pop⟩

theorem inFrame (table : FunctionTable) (height : below.length = below'.length) (frame : Bindings) (body : Block)
    {fuel fuel' : Nat} (enough : fuel ≤ fuel') :
    Agrees .fuel (Machine.Framed table (Atop below below' 0)) (Flow.Owes fun _ => True)
      ((interpreter fuel).inFrame frame body) ((interpreter fuel').inFrame frame body) := by
  intro m₁ m₂ framed
  have inside := Inner.Agree.block (Machine.Framed.actions (view height 0) _ fun _ _ _ => trivial)
    (interpreter_agree (simulation table height) enough 0) fun inst (_ : inst ∈ body) => inst.within_any
  exact Inner.Agree.inFrame frame inside (framed.enter frame (push frame)) (fun _ _ => trivial)
    fun _ _ later => later.leave pop

end Atop

section Calls

variable {f : FunctionDef} {args : List Value} {fuel : Nat} {m : Machine} {frames : List Bindings}

theorem bindParams_supplied {params : List Param} (supplied : params.length ≤ args.length) (frame : Bindings) :
    ∃ bound, ∀ inner : Inner, inner.bindParams frame params args = pure bound := by
  induction params generalizing args frame with
  | nil => exact ⟨frame, fun inner => by cases args <;> rfl⟩
  | cons p rest ih =>
    match args with
    | [] => exact absurd supplied (Nat.not_succ_le_zero _)
    | value :: args =>
      obtain ⟨bound, binds⟩ := ih (Nat.le_of_succ_le_succ supplied) (frame.set p.name value)
      exact ⟨bound, fun inner => binds inner⟩

theorem callFunction_atop {below below' : List Bindings} (table : FunctionTable)
    (height : below.length = below'.length) (supplied : f.params.length ≤ args.length) (fuel : Nat) :
    Agrees .fuel (Machine.Framed table (Atop below below' 0)) (Flow.Owes fun _ => True)
      ((interpreter fuel).callFunction f args) ((interpreter fuel).callFunction f args) := by
  have acts : Actions .fuel { mention := fun _ => false } (fun _ => True) (fun _ => True)
      (Machine.Framed table (Atop below below' 0)) fun _ => True :=
    Machine.Framed.actions (Atop.blind height) _ fun _ _ _ => trivial
  refine Inner.Agree.callFunction acts (fun call _ _ _ framed => framed.note call)
    (fun _ _ framed => framed.room (Atop.blind height)) fun _ _ _ _ => ⟨?_, fun frame => ?_⟩
  · obtain ⟨bound, binds⟩ := bindParams_supplied supplied {}
    rw [binds]
    exact agrees_pure trivial
  · exact Atop.inFrame table height frame f.body (Nat.le_refl fuel)

theorem calls_isolated_from_callers (supplied : f.params.length ≤ args.length)
    (height : frames.length = m.frames.length) (fuel : Nat) :
    (interpreter fuel).callFunction f args (m.withFrames frames) =
      ((interpreter fuel).callFunction f args m).onMachine (Machine.withFrames frames) ∧
    ∀ m', ((interpreter fuel).callFunction f args m).left? = some m' → m'.frames = m.frames := by
  have there := callFunction_atop m.functions height.symm supplied fuel m (m.withFrames frames)
    ⟨m, m.frames, frames, rfl, ⟨[], rfl, rfl, rfl⟩, rfl, rfl⟩
  have back := callFunction_atop m.functions height supplied fuel (m.withFrames frames) m
    ⟨m, frames, m.frames, rfl, ⟨[], rfl, rfl, rfl⟩, rfl, rfl⟩
  have ends := there.matches back
  generalize (interpreter fuel).callFunction f args m = left,
    (interpreter fuel).callFunction f args (m.withFrames frames) = right at ends ⊢
  cases ends with
  | done _ joined | failed _ joined =>
    obtain ⟨n, _, _, _, atop, rfl, rfl⟩ := joined
    obtain ⟨rfl, rfl⟩ := atop.bare
    refine ⟨rfl, fun m' left => ?_⟩
    cases left
    rfl
  | exhausted => exact ⟨rfl, fun _ left => by cases left⟩

end Calls

def shadowing : FunctionDef where
  name := "f"
  params := [{ name := "x" }]
  body :=
    [.mk .declare [.var "v", .var "x"] none, .mk .call [.text "g", .int 3] none,
     .mk .assign [.var "total", .node (.mk (.binary .add) [.var "total", .var "v"] none)] none,
     .mk .returnValue [.var "v"] none]

def shadowingMachine : Machine where
  settings := { headless := true }
  main := []
  file := none
  functions := [("g", { name := "g", params := [{ name := "v" }], body := [.mk .assign [.var "v", .int 4] none] })]
  builtins := Builtin.standard
  globals := { entries := [("total", .int 1)] }
  frames := [{ entries := [("v", .int 5)] }]
  audio := .silent {}
  random := { state := 0 }

def otherCallers : List Bindings :=
  [{ entries := [("x", .nil), ("total", .int 8)] }]

theorem shadowing_call_isolated :
    (∃ m, (interpreter 9).callFunction shadowing [.int 2] shadowingMachine = .done (.normal (.int 2)) m ∧
      m.global? "total" = some (.int 3) ∧ m.frames = shadowingMachine.frames) ∧
    (interpreter 9).callFunction shadowing [.int 2] (shadowingMachine.withFrames otherCallers) =
      ((interpreter 9).callFunction shadowing [.int 2] shadowingMachine).onMachine (Machine.withFrames otherCallers) := by
  have isolated := calls_isolated_from_callers (by decide : shadowing.params.length ≤ [Value.int 2].length)
    (by decide : otherCallers.length = shadowingMachine.frames.length) 9
  have called : (((interpreter 9).callFunction shadowing [.int 2] shadowingMachine).result?.map
      fun (flow, m) => (flow, m.global? "total")) = some (.normal (.int 2), some (.int 3)) := by decide +kernel
  obtain ⟨⟨flow, m⟩, result, shown⟩ := Option.map_eq_some_iff.mp called
  obtain ⟨rfl, total⟩ := Prod.mk.inj shown
  have ran := Outcome.done_of_result result
  exact ⟨⟨m, ran, total, isolated.2 m (by rw [ran]; rfl)⟩, isolated.1⟩

section Defaults

variable {seen : String → Bool} {a a' b b' : List Bindings}

/-- The stacks are of the same height, and their innermost frames bind the names in `seen` alike. -/
inductive SameView (seen : String → Bool) : List Bindings → List Bindings → Prop
  | outside : SameView seen [] []
  | inside {frame frame' : Bindings} {callers callers' : List Bindings} (height : callers.length = callers'.length)
    (same : ∀ name, seen name = true → frame.get? name = frame'.get? name) :
    SameView seen (frame :: callers) (frame' :: callers')

/-- The same stack later on: at most names in `seen` were bound anew, in the innermost frame. -/
inductive Rebound (seen : String → Bool) : List Bindings → List Bindings → Prop
  | outside : Rebound seen [] []
  | inside {frame frame' : Bindings} (callers : List Bindings)
    (kept : ∀ name, seen name = false → frame'.get? name = frame.get? name) :
    Rebound seen (frame :: callers) (frame' :: callers)

theorem Rebound.refl (seen : String → Bool) (a : List Bindings) : Rebound seen a a := by
  cases a with
  | nil => exact .outside
  | cons frame callers => exact .inside callers fun _ _ => rfl

theorem Rebound.set {frame : Bindings} {callers : List Bindings} {name : String}
    (rebound : Rebound seen a (frame :: callers)) (sees : seen name = true) (value : Value) : Rebound seen a (frame.set name value :: callers) := by
  cases rebound with
  | inside _ kept =>
    refine .inside callers fun other unseen => ?_
    have differs : other ≠ name := fun same => by rw [same, sees] at unseen; cases unseen
    rw [Bindings.get?_set, if_neg differs, kept other unseen]

def ViewedAlike (seen : String → Bool) (start start' a b : List Bindings) : Prop :=
  SameView seen a b ∧ Rebound seen start a ∧ Rebound seen start' b

theorem ViewedAlike.view (seen : String → Bool) (start start' : List Bindings) :
    View seen (ViewedAlike seen start start') where
  height alike := by
    cases alike.1 with
    | outside => rfl
    | inside height => exact congrArg Nat.succ height
  get alike sees := by
    cases alike.1 with
    | inside _ same => exact same _ sees
  set value alike sees := by
    refine ⟨?_, alike.2.1.set sees value, alike.2.2.set sees value⟩
    cases alike.1 with
    | inside height same =>
      refine .inside height fun other known => ?_
      rw [Bindings.get?_set, Bindings.get?_set, same other known]

def FunctionDef.DefaultsMention (seen : String → Bool) (f : FunctionDef) : Prop :=
  ∀ p ∈ f.params, p.default.all (·.within { mention := seen }) = true

variable {table : FunctionTable} {start start' : List Bindings} {fuel fuel' : Nat}

/-- In the frame of the caller only the names in `seen` matter: the blocks of functions run in frames of their own. -/
theorem interpreter_viewed_alike (defined : ∀ key f, table.find? key = some f → f.DefaultsMention seen)
    (enough : fuel ≤ fuel') :
    Inner.Agree .fuel { mention := seen } (fun inst => inst.within { mention := seen } = true)
      (Operand.Itself { mention := seen }) (Machine.Framed table (ViewedAlike seen start start')) (fun _ => True)
      (interpreter fuel) (interpreter fuel') := by
  have view := ViewedAlike.view seen start start'
  induction fuel generalizing fuel' with
  | zero => exact Inner.Agree.exhausted (pairing_of_within _) trivial _
  | succ fuel ih =>
    obtain ⟨more, rfl⟩ : ∃ more, fuel' = more + 1 := ⟨fuel' - 1, by omega⟩
    have fewer : fuel ≤ more := by omega
    have acts := Machine.Framed.actions view (fun inst => inst.within { mention := seen } = true) defined
    refine (ih fewer).deeper acts (Machine.Framed.settles table _) (fun f args mentions => ?_) fewer
    refine Inner.Agree.callFunction acts (fun call _ _ _ framed => framed.note call)
      (fun _ _ framed => framed.room view) fun _ _ _ _ => ⟨?_, fun frame => ?_⟩
    · refine (ih fewer).bindParams (fun p member operand fallback => ⟨rfl, ?_⟩) _ args
      simpa [fallback] using mentions p member
    · rintro m₁ m₂ ⟨m, a, b, known, alike, rfl, rfl⟩
      have inside := Atop.inFrame table (view.height alike) frame f.body fewer _ _
        ⟨m, a, b, known, ⟨[], rfl, rfl, rfl⟩, rfl, rfl⟩
      refine inside.imp (fun _ _ later => later.imp fun a' b' atop => ?_) fun _ owes => owes
      obtain ⟨rfl, rfl⟩ := atop.bare
      exact alike

theorem bindParams_viewed_alike (defined : ∀ key f, table.find? key = some f → f.DefaultsMention seen)
    {f : FunctionDef} (mentions : f.DefaultsMention seen) (args : List Value) (fuel : Nat) :
    Parallel .fuel (Machine.Framed table (ViewedAlike seen start start'))
      ((interpreter fuel).bindParams {} f.params args) ((interpreter fuel).bindParams {} f.params args) := by
  refine (interpreter_viewed_alike defined (Nat.le_refl fuel)).bindParams (fun p member operand fallback => ⟨rfl, ?_⟩) {} args
  simpa [fallback] using mentions p member

theorem SameView.symm (same : SameView seen a b) : SameView seen b a := by
  cases same with
  | outside => exact .outside
  | inside height same => exact .inside height.symm fun name sees => (same name sees).symm

end Defaults

theorem defaults_see_only_mentioned_locals {seen : String → Bool} {f : FunctionDef} {m : Machine} {frames : List Bindings}
    (own : f.DefaultsMention seen) (others : ∀ entry ∈ m.functions, entry.2.DefaultsMention seen)
    (same : SameView seen m.frames frames) (args : List Value) (fuel : Nat) :
    ((interpreter fuel).bindParams {} f.params args m).Matches
      (fun m₁ m₂ => m₂ = m₁.withFrames m₂.frames ∧ Rebound seen m.frames m₁.frames ∧ Rebound seen frames m₂.frames)
      ((interpreter fuel).bindParams {} f.params args (m.withFrames frames)) := by
  have defined (key : String) (f : FunctionDef) (found : m.functions.find? key = some f) : f.DefaultsMention seen :=
    others (key, f) (mem_of_lookup found)
  have there := bindParams_viewed_alike defined own args fuel m (m.withFrames frames)
    ⟨m, m.frames, frames, rfl, ⟨same, .refl seen _, .refl seen _⟩, rfl, rfl⟩
  have back := bindParams_viewed_alike defined own args fuel (m.withFrames frames) m
    ⟨m, frames, m.frames, rfl, ⟨same.symm, .refl seen _, .refl seen _⟩, rfl, rfl⟩
  refine (there.matches back).imp ?_
  rintro m₁ m₂ ⟨n, a, b, _, ⟨_, left, right⟩, rfl, rfl⟩
  exact ⟨rfl, left, right⟩

def leaky : FunctionDef where
  name := "f"
  params :=
    [{ name := "x", default := some (.var "v") },
     { name := "y", default := some (.node (.mk .assign [.var "v", .int 5] none)) }]
  body := []

def leakyMachine (frames : List Bindings) : Machine where
  settings := { headless := true }
  main := []
  file := none
  functions := []
  builtins := []
  globals := { entries := [("v", .int 1)] }
  frames := frames
  audio := .silent {}
  random := { state := 0 }

theorem leaky_defaults_matched :
    ((interpreter 3).bindParams {} leaky.params [] (leakyMachine [{ entries := [("v", .int 7), ("w", .int 2)] }])).Matches
      (fun m₁ m₂ => m₂ = m₁.withFrames m₂.frames ∧
        Rebound (· == "v") [{ entries := [("v", .int 7), ("w", .int 2)] }] m₁.frames ∧
        Rebound (· == "v") [{ entries := [("w", .nil), ("v", .int 7)] }] m₂.frames)
      ((interpreter 3).bindParams {} leaky.params [] (leakyMachine [{ entries := [("w", .nil), ("v", .int 7)] }])) := by
  have mentions : leaky.DefaultsMention (· == "v") := by
    intro p member
    rcases List.mem_cons.mp member with rfl | later
    · decide
    · obtain rfl := List.mem_singleton.mp later
      decide
  have same : SameView (· == "v") (leakyMachine [{ entries := [("v", .int 7), ("w", .int 2)] }]).frames
      [{ entries := [("w", .nil), ("v", .int 7)] }] := by
    refine .inside rfl fun name sees => ?_
    obtain rfl : name = "v" := by simpa using sees
    rfl
  exact defaults_see_only_mentioned_locals mentions (fun _ member => by cases member) same [] 3

theorem default_reads_and_writes_caller :
    (interpreter 3).bindParams {} leaky.params [] (leakyMachine [{ entries := [("v", .int 7)] }]) =
      .done { entries := [("x", .int 7), ("y", .int 5)] } (leakyMachine [{ entries := [("v", .int 5)] }]) ∧
    (interpreter 3).bindParams {} leaky.params [] (leakyMachine [{ entries := [("w", .int 7)] }]) =
      .done { entries := [("x", .int 1), ("y", .int 5)] }
        ((leakyMachine [{ entries := [("w", .int 7)] }]).setGlobal "v" (.int 5)) :=
  ⟨rfl, rfl⟩

end CueScript
