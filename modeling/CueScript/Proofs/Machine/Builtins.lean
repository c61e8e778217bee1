import CueScript.Proofs.Machine.Simulation

set_option autoImplicit false

namespace CueScript

namespace Actions

open Run

variable {α : Type} {E : Excuse} {v : Vocabulary} {P : Instruction → Prop} {F : FunctionDef → Prop}
  {S : Machine → Machine → Prop} {W : Int64 → Prop}

theorem reading (acts : Actions E v P F S W) {f : Machine → α} (same : ∀ m₁ m₂ : Machine, m₁.Alike m₂ → f m₁ = f m₂) :
    Parallel E S (read f) (read f) :=
  agrees_read (fun m₁ m₂ joined => same m₁ m₂ (acts.alike joined)) fun _ _ _ => trivial

theorem reporting (acts : Actions E v P F S W) (severity : Severity) (text : String) :
    Parallel E S (Run.report severity text) (Run.report severity text) :=
  parallel_modify fun _ _ joined => acts.report severity text joined

theorem warning (acts : Actions E v P F S W) (text : String) : Parallel E S (warn text) (warn text) :=
  acts.reporting .warning text

theorem putCells (acts : Actions E v P F S W) (id : ArrayId) (cells : Cells) :
    Parallel E S (Action.putCells id cells) (Action.putCells id cells) := by
  apply parallel_modify
  intro m₁ m₂ joined
  rw [(acts.alike joined).store]
  exact acts.putStore _ joined

section Texts

theorem charCode (acts : Actions E v P F S W) (code : Value) :
    Parallel E S (Action.charCode code) (Action.charCode code) := by
  unfold Action.charCode
  split
  · exact acts.reading fun m₁ m₂ alike => by rw [alike.encoding]
  · exact (acts.reporting _ _).bind fun _ _ => agrees_pure trivial

theorem encode (acts : Actions E v P F S W) (text : String) : Parallel E S (Action.encode text) (Action.encode text) := by
  unfold Action.encode
  refine (acts.reading fun m₁ m₂ alike => by rw [alike.encoding]).bind fun encoding _ => ?_
  cases encoding.warning? text with
  | none => exact agrees_pure trivial
  | some warning => exact (acts.warning warning).bind fun _ _ => agrees_pure trivial

theorem strCode (acts : Actions E v P F S W) (text : List Char) :
    Parallel E S (Action.strCode text) (Action.strCode text) := by
  cases text with
  | nil => exact agrees_pure trivial
  | cons c rest => exact (acts.encode _).map _

theorem print (acts : Actions E v P F S W) (args : List Value) :
    Parallel E S (Action.print args) (Action.print args) := by
  cases args with
  | nil => exact (acts.reporting _ _).bind fun _ _ => agrees_pure trivial
  | cons text args =>
    refine (acts.reading fun m₁ m₂ alike => by rw [alike.store]).bind fun formatted _ => ?_
    exact (parallel_forM acts.warning formatted.warnings).bind fun _ _ => agrees_pure trivial

end Texts

section Numbers

theorem extremeOf (acts : Actions E v P F S W) (name : String) (keeps : Float → Float → Bool) (args : List Value) :
    Parallel E S (Action.extremeOf name keeps args) (Action.extremeOf name keeps args) := by
  cases args with
  | nil => exact (acts.reporting _ _).bind fun _ _ => agrees_pure trivial
  | cons first rest => exact agrees_pure trivial

theorem draw (acts : Actions E v P F S W) (limit : Int64) :
    Parallel E S (Action.random limit) (Action.random limit) := by
  unfold Action.random
  split
  · exact agrees_pure trivial
  · refine agrees_step ?_ ?_ fun _ _ _ => trivial
    · intro m₁ m₂ joined
      simp only [(acts.alike joined).random]
    · intro m₁ m₂ joined
      simp only [(acts.alike joined).random]
      exact acts.putRandom _ joined

theorem expectArray (acts : Actions E v P F S W) (name : String) (value : Value) :
    Parallel E S (Action.expectArray name value) (Action.expectArray name value) := by
  unfold Action.expectArray
  split
  · exact (acts.reporting _ _).bind fun _ _ => agrees_pure trivial
  · exact agrees_pure trivial

theorem arraySize (acts : Actions E v P F S W) (array : Value) :
    Parallel E S (Action.arraySize array) (Action.arraySize array) := by
  refine (acts.expectArray _ _).bind fun found _ => ?_
  cases found with
  | none => exact agrees_pure trivial
  | some id => exact acts.reading fun m₁ m₂ alike => by rw [alike.store]

theorem clearArray (acts : Actions E v P F S W) (array : Value) :
    Parallel E S (Action.clearArray array) (Action.clearArray array) := by
  refine (acts.expectArray _ _).bind fun found _ => ?_
  cases found with
  | none => exact agrees_pure trivial
  | some id => exact (acts.putCells id #[]).bind fun _ _ => agrees_pure trivial

theorem removeCell (acts : Actions E v P F S W) (array : Value) (index : Int64) :
    Parallel E S (Action.removeCell array index) (Action.removeCell array index) := by
  refine (acts.expectArray _ _).bind fun found _ => ?_
  cases found with
  | none => exact agrees_pure trivial
  | some id =>
    refine (acts.reading fun m₁ m₂ alike => by rw [alike.store]).bind fun cells _ => ?_
    cases cells.remove? index with
    | none => exact (acts.warning _).bind fun _ _ => agrees_pure trivial
    | some removed => exact (acts.putCells id removed.2).bind fun _ _ => agrees_pure trivial

theorem insertCell (acts : Actions E v P F S W) (array : Value) (index : Int64) (value : Value) :
    Parallel E S (Action.insertCell array index value) (Action.insertCell array index value) := by
  refine (acts.expectArray _ _).bind fun found _ => ?_
  cases found with
  | none => exact agrees_pure trivial
  | some id =>
    refine (acts.reading fun m₁ m₂ alike => alike.grants).bind fun grants _ => ?_
    refine (acts.reading fun m₁ m₂ alike => by rw [alike.store]).bind fun cells _ => ?_
    cases Cells.insert grants cells index value with
    | stored cells => exact (acts.putCells id cells).bind fun _ _ => agrees_pure trivial
    | negative => exact (acts.warning _).bind fun _ _ => agrees_pure trivial
    | refused index => exact agrees_fail _

end Numbers

section Files

theorem openFile (acts : Actions E v P F S W) (name mode : Value) :
    Parallel E S (Action.openFile name mode) (Action.openFile name mode) := by
  intro m₁ m₂ joined
  have alike := acts.alike joined
  have shown : name.display m₁.store = name.display m₂.store := by rw [alike.store]
  have resolved (path : String) : m₁.resolve path = m₂.resolve path := by
    rw [Machine.resolve, Machine.resolve, alike.files, alike.baseDir]
  have opened (path : String) (mode : Disk.OpenMode) : m₁.files.openFile path mode = m₂.files.openFile path mode := by
    rw [alike.files]
  simp only [Action.openFile, shown, resolved, opened]
  cases Action.openMode? mode.toInt with
  | none => exact .failed joined
  | some mode =>
    dsimp only
    split
    · exact .done trivial (acts.putFiles _ joined)
    · exact .failed joined

theorem access (acts : Actions E v P F S W) (f : Files → Except FileFault α × Files) :
    Parallel E S (Action.access f) (Action.access f) := by
  intro m₁ m₂ joined
  simp only [Action.access, (acts.alike joined).files]
  split
  · exact .done trivial (acts.putFiles _ joined)
  · exact .failed (acts.putFiles _ joined)

theorem withHandle (name : String) (args : List Value) {use : Int64 → Run Value}
    (used : ∀ handle, Parallel E S (use handle) (use handle)) :
    Parallel E S (Action.withHandle name args use) (Action.withHandle name args use) := by
  cases args with
  | nil => exact agrees_fail _
  | cons handle rest => exact used _

theorem readLine (acts : Actions E v P F S W) (handle : Int64) :
    Parallel E S (Action.readLine handle) (Action.readLine handle) :=
  (acts.access _).bind fun _ _ => acts.reading fun _ _ alike => by rw [alike.encoding]

theorem writeText (acts : Actions E v P F S W) (handle : Int64) (text : Value) :
    Parallel E S (Action.writeText handle text) (Action.writeText handle text) := by
  refine (acts.reading fun m₁ m₂ alike => by rw [alike.files]).bind fun closed _ => ?_
  split
  · exact agrees_fail _
  · refine (acts.reading fun m₁ m₂ alike => by rw [alike.store]).bind fun text _ => ?_
    refine (acts.encode text).bind fun bytes _ => ?_
    exact (acts.access _).bind fun _ _ => agrees_pure trivial

theorem isExist (acts : Actions E v P F S W) (name : Value) :
    Parallel E S (Action.isExist name) (Action.isExist name) :=
  acts.reading fun _ _ alike => by rw [Machine.resolve, Machine.resolve, alike.store, alike.files, alike.baseDir]

end Files

theorem zeroAfter {R : Machine → Machine → Prop} {x : Run Unit} (agrees : Parallel E R x x) :
    Parallel E R (Builtin.zeroAfter x) (Builtin.zeroAfter x) :=
  agrees.bind fun _ _ => agrees_pure trivial

theorem noting (acts : Actions E v P F S W) {b : Builtin} {args : List Value}
    (silent : CallRecord.posted? (.builtin b args) = none) :
    Parallel E S (modify (·.note (.builtin b args))) (modify (·.note (.builtin b args))) :=
  parallel_modify fun _ _ joined => acts.note silent joined

theorem value (acts : Actions E v P F S W) {b : Builtin} (steers : b.steers = false) (args : List Value) :
    Parallel E S (b.value args) (b.value args) := by
  have playing (plays : b.plays = true) := acts.plays b plays args
  cases b with dsimp only [Builtin.value] at playing ⊢
  | retireMe | retireKind | retireAll | freeze | activate | post | exitTitle => cases steers
  | playMidi | playWave | stopMidi | stopWave | muteMidi => exact playing rfl
  | strLen | subStr | strFind | strUp | strLow =>
    exact acts.reading fun _ _ alike => by simp only [Action.textOf, alike.store]
  | strPrint => exact acts.print args
  | charCode => exact acts.charCode _
  | strCode =>
    exact (acts.reading fun _ _ alike => by simp only [Action.textOf, alike.store]).bind fun _ _ => acts.strCode _
  | random => exact acts.draw _
  | max | min => exact acts.extremeOf _ _ args
  | arraySize => exact acts.arraySize _
  | delArrayAll => exact acts.clearArray _
  | delArrayAt => exact acts.removeCell _ _
  | insArrayAt => exact acts.insertCell _ _ _
  | openFile => exact acts.openFile _ _
  | closeFile | writeNumber => exact withHandle _ args fun _ => zeroAfter (acts.access _)
  | readNumber | seek => exact withHandle _ args fun _ => (acts.access _).bind fun _ _ => agrees_pure trivial
  | readLine => exact withHandle _ args acts.readLine
  | writeText => exact withHandle _ args fun _ => acts.writeText _ _
  | isExist => exact acts.isExist _
  | intToStr | strToInt | abs | makeLong | loWord | hiWord | scenery | wait => exact agrees_pure trivial
  | host reply =>
    cases reply with
    | fail kind message => exact agrees_fail _
    | value _ | wait _ | argumentCount => exact agrees_pure trivial

theorem traced (acts : Actions E v P F S W) (b : Builtin) (args : List Value)
    (steering : b.steers = true → Parallel E S (b.traced args) (b.traced args)) :
    Parallel E S (b.traced args) (b.traced args) := by
  cases steers : b.steers with
  | true => exact steering steers
  | false => exact (acts.noting (CallRecord.posted?_builtin steers args)).bind fun _ _ => acts.value steers args

theorem reply (acts : Actions E v P F S W) (b : Builtin) (args : List Value)
    (steering : b.steers = true → Parallel E S (b.traced args) (b.traced args)) :
    Agrees E S (fun reply => ∀ units, reply = .wait units → b.waits = true) (b.call args) (b.call args) := by
  cases waits : b.waits with
  | true =>
    unfold Builtin.call
    split
    · exact agrees_pure fun _ _ => rfl
    · exact agrees_pure fun _ _ => rfl
    · exact ((acts.traced b args steering).weaken fun _ _ _ _ => rfl).map Reply.value
  | false =>
    rw [Builtin.call_of_value waits]
    refine ((acts.traced b args steering).weaken ?_).map Reply.value
    intro value _ units isWait
    cases isWait

end Actions

end CueScript
