import CueScript.Proofs.Machine.Builtins

set_option autoImplicit false

namespace CueScript

inductive Handler.Steered (h : Handler) : Handler → Prop
  | kept : Steered h h
  | retired : Steered h h.retire
  | frozen : Steered h h.freeze
  | activated : Steered h h.activate

theorem modifyFirst_steered {change : Handler → Handler} (steered : ∀ h, Handler.Steered h (change h))
    (id : HandlerId) (handlers : List Handler) :
    List.Forall₂ Handler.Steered handlers (Registry.modifyFirst id change handlers) := by
  induction handlers with
  | nil => exact .nil
  | cons h rest ih =>
    unfold Registry.modifyFirst
    split
    · exact .cons (steered h) (List.forall₂_same.mpr fun h _ => .kept)
    · exact .cons .kept ih

theorem map_steered {change : Handler → Handler} (steered : ∀ h, Handler.Steered h (change h))
    (handlers : List Handler) : List.Forall₂ Handler.Steered handlers (handlers.map change) := by
  rw [List.forall₂_map_right_iff]
  exact List.forall₂_same.mpr fun h _ => steered h

structure Reporting (S : Machine → Machine → Prop) : Prop where
  alike {m₁ m₂ : Machine} : S m₁ m₂ → m₁.Alike m₂
  handlers {m₁ m₂ : Machine} : S m₁ m₂ → m₁.handlers = m₂.handlers
  report {m₁ m₂ : Machine} (severity : Severity) (text : String) :
    S m₁ m₂ → S (m₁.report severity text) (m₂.report severity text)
  note {m₁ m₂ : Machine} {b : Builtin} {args : List Value} : CallRecord.posted? (.builtin b args) = none → S m₁ m₂ →
    S (m₁.note (.builtin b args)) (m₂.note (.builtin b args))
  post {m₁ m₂ : Machine} {call : CallRecord} {event : Event} :
    call.posted? = some event → S m₁ m₂ → S ((m₁.note call).post event) ((m₂.note call).post event)

structure Sharing (S : Machine → Machine → Prop) : Prop extends Reporting S where
  current {m₁ m₂ : Machine} : S m₁ m₂ → m₁.current = m₂.current
  audio {m₁ m₂ : Machine} : S m₁ m₂ → m₁.audio = m₂.audio
  headless {m₁ m₂ : Machine} : S m₁ m₂ → m₁.settings.headless = m₂.settings.headless
  steer {m₁ m₂ : Machine} {handlers : List Handler} :
    List.Forall₂ Handler.Steered m₁.handlers.handlers handlers → S m₁ m₂ →
    S { m₁ with handlers := { m₁.handlers with handlers } } { m₂ with handlers := { m₂.handlers with handlers } }
  stop {m₁ m₂ : Machine} : S m₁ m₂ → S { m₁ with stopped := true } { m₂ with stopped := true }
  putAudio {m₁ m₂ : Machine} {audio : Audio} :
    audio.timerRunning = m₁.audio.timerRunning → S m₁ m₂ → S { m₁ with audio } { m₂ with audio }

namespace Reporting

open Run

variable {E : Excuse} {S : Machine → Machine → Prop}

theorem warning (reporting : Reporting S) (text : String) : Parallel E S (warn text) (warn text) :=
  parallel_modify fun _ _ joined => reporting.report .warning text joined

theorem reading {α : Type} {f : Machine → α} (same : ∀ m₁ m₂, S m₁ m₂ → f m₁ = f m₂) : Parallel E S (read f) (read f) :=
  agrees_read same fun _ _ _ => trivial

theorem display (reporting : Reporting S) (value : Value) :
    Parallel E S (read fun m => value.display m.store) (read fun m => value.display m.store) :=
  reading fun _ _ joined => by rw [(reporting.alike joined).store]

theorem handlerId (reporting : Reporting S) (name : String) (args : List Value) :
    Parallel E S (Action.handlerId? name args) (Action.handlerId? name args) := by
  unfold Action.handlerId?
  split
  next value =>
    split
    next => exact (reporting.display value).bind fun _ _ => (reporting.warning _).bind fun _ _ => agrees_pure trivial
    next => exact agrees_pure trivial
  next => exact (reporting.warning _).bind fun _ _ => agrees_pure trivial

theorem steer_with (reporting : Reporting S) (name : String) {change : Handler → Handler}
    (changed : ∀ id, Parallel E S (modify fun m => { m with handlers := m.handlers.modify id change })
      (modify fun m => { m with handlers := m.handlers.modify id change })) (args : List Value) :
    Parallel E S (Action.steer name change args) (Action.steer name change args) := by
  refine (reporting.handlerId name args).bind fun id _ => ?_
  cases id with
  | none => exact agrees_pure trivial
  | some id =>
    have known : Parallel E S (read (·.handlers.contains id)) (read (·.handlers.contains id)) :=
      reading fun _ _ joined => by rw [reporting.handlers joined]
    refine known.bind fun known _ => ?_
    cases known with
    | true => exact changed id
    | false => exact reporting.warning _

theorem noting (reporting : Reporting S) {b : Builtin} {args : List Value}
    (silent : CallRecord.posted? (.builtin b args) = none) :
    Parallel E S (modify (·.note (.builtin b args))) (modify (·.note (.builtin b args))) :=
  parallel_modify fun _ _ joined => reporting.note silent joined

theorem posting (reporting : Reporting S) (args : List Value) :
    Parallel E S (Builtin.traced .post args) (Builtin.traced .post args) := by
  cases args with
  | nil => exact (reporting.noting rfl).bind fun _ _ => Actions.zeroAfter (reporting.warning _)
  | cons value params =>
    cases named : Action.eventKind? value with
    | none =>
      have silent : CallRecord.posted? (.builtin .post (value :: params)) = none := by simp [CallRecord.posted?, named]
      refine (reporting.noting silent).bind fun _ _ => Actions.zeroAfter ?_
      simp only [Action.post, named]
      exact (reporting.display value).bind fun _ _ => reporting.warning _
    | some kind =>
      -- The call is noted and the event is posted in one step, as the two belong together.
      have asked : CallRecord.posted? (.builtin .post (value :: params)) = some { kind, params := params.take 4 } := by
        simp [CallRecord.posted?, named]
      have both : Builtin.traced .post (value :: params) = Builtin.zeroAfter (modify fun m =>
          (m.note (.builtin .post (value :: params))).post { kind, params := params.take 4 }) := by
        simp only [Builtin.traced, Builtin.value, Builtin.zeroAfter, Action.post, named]
        rfl
      rw [both]
      exact Actions.zeroAfter (parallel_modify fun _ _ joined => reporting.post asked joined)

end Reporting

namespace Sharing

open Run Reporting

variable {E : Excuse} {S : Machine → Machine → Prop}

section Handlers

theorem steering (sharing : Sharing S) {change : Registry → List Handler}
    (steered : ∀ r : Registry, List.Forall₂ Handler.Steered r.handlers (change r)) :
    Parallel E S (modify fun m => { m with handlers := { m.handlers with handlers := change m.handlers } })
      (modify fun m => { m with handlers := { m.handlers with handlers := change m.handlers } }) := by
  apply parallel_modify
  intro m₁ m₂ joined
  rw [← sharing.handlers joined]
  have both := sharing.steer (steered m₁.handlers) joined
  rwa [← sharing.handlers joined] at both

theorem retireMe (sharing : Sharing S) : Parallel E S Action.retireMe Action.retireMe := by
  refine (reading fun _ _ joined => sharing.current joined).bind fun current _ => ?_
  cases current with
  | none => exact sharing.warning _
  | some id => exact sharing.steering fun r => modifyFirst_steered (fun _ => .retired) id r.handlers

theorem retireKind (sharing : Sharing S) : Parallel E S Action.retireKind Action.retireKind := by
  have running : Parallel E S (read (·.running?)) (read (·.running?)) := by
    refine reading fun _ _ joined => ?_
    rw [Machine.running?, Machine.running?, sharing.current joined, sharing.handlers joined]
  refine running.bind fun running _ => ?_
  cases running with
  | none => exact sharing.warning _
  | some running =>
    refine sharing.steering fun r => map_steered (fun h => ?_) r.handlers
    split
    · exact .retired
    · exact .kept

theorem retireAll (sharing : Sharing S) : Parallel E S Action.retireAll Action.retireAll :=
  sharing.steering fun r => map_steered (fun _ => .retired) r.handlers

theorem steer_handler (sharing : Sharing S) (name : String) {change : Handler → Handler}
    (steered : ∀ h, Handler.Steered h (change h)) (args : List Value) :
    Parallel E S (Action.steer name change args) (Action.steer name change args) :=
  sharing.steer_with name (fun id => sharing.steering fun r => modifyFirst_steered steered id r.handlers) args

theorem exitTitle (sharing : Sharing S) : Parallel E S Action.exitTitle Action.exitTitle :=
  sharing.retireAll.bind fun _ _ => parallel_modify fun _ _ joined => sharing.stop joined

end Handlers

theorem steeringValue (sharing : Sharing S) {b : Builtin} (steers : b.steers = true) (args : List Value) :
    Parallel E S (b.traced args) (b.traced args) := by
  have noted (silent : CallRecord.posted? (.builtin b args) = none)
      (zero : ∃ x, b.value args = Builtin.zeroAfter x ∧ Parallel E S x x) : Parallel E S (b.traced args) (b.traced args) := by
    obtain ⟨x, value, agrees⟩ := zero
    refine (sharing.noting silent).bind fun _ _ => ?_
    rw [value]
    exact Actions.zeroAfter agrees
  cases b with
  | retireMe => exact noted rfl ⟨_, rfl, sharing.retireMe⟩
  | retireKind => exact noted rfl ⟨_, rfl, sharing.retireKind⟩
  | retireAll => exact noted rfl ⟨_, rfl, sharing.retireAll⟩
  | freeze => exact noted rfl ⟨_, rfl, sharing.steer_handler _ (fun _ => .frozen) args⟩
  | activate => exact noted rfl ⟨_, rfl, sharing.steer_handler _ (fun _ => .activated) args⟩
  | post => exact sharing.posting args
  | exitTitle => exact noted rfl ⟨_, rfl, sharing.exitTitle⟩
  | _ => cases steers

section Sounds

theorem sounding (sharing : Sharing S) {change : Audio → Audio}
    (timer : ∀ audio, (change audio).timerRunning = audio.timerRunning) :
    Parallel E S (modify fun m => { m with audio := change m.audio })
      (modify fun m => { m with audio := change m.audio }) := by
  apply parallel_modify
  intro m₁ m₂ joined
  rw [← sharing.audio joined]
  exact sharing.putAudio (timer m₁.audio) joined

theorem play (sharing : Sharing S) (label : String) {start : String → Audio → Played}
    (timer : ∀ path audio, (start path audio).audio.timerRunning = audio.timerRunning) (name : Value) :
    Parallel E S (Action.play label start name) (Action.play label start name) := by
  intro m₁ m₂ joined
  let path := m₁.resolve (name.display m₁.store)
  let played := start path m₁.audio
  have reports : Parallel E S
      (do played.warning.forM warn
          played.failure.forM fun failure => warn s!"{label} {path}: {failure}"
          pure (Value.int 0))
      (do played.warning.forM warn
          played.failure.forM fun failure => warn s!"{label} {path}: {failure}"
          pure (Value.int 0)) := by
    refine (parallel_option_forM sharing.warning _).bind fun _ _ => ?_
    exact (parallel_option_forM (fun _ => sharing.warning _) _).bind fun _ _ => agrees_pure trivial
  have alike := sharing.alike joined
  have resolved : m₂.resolve (name.display m₂.store) = path := by
    simp only [path, Machine.resolve, alike.store, alike.files, alike.baseDir]
  have ends := reports _ _ (sharing.putAudio (timer path m₁.audio) joined)
  simp only [Action.play, bind, Run.bind, Run.read, Run.modify] at ends ⊢
  rw [resolved, ← sharing.audio joined]
  exact ends

theorem mute (sharing : Sharing S) (flag : Value) : Parallel E S (Action.mute flag) (Action.mute flag) := by
  have muted : Parallel E S (read fun m => flag.isNil || flag.truthy m.store)
      (read fun m => flag.isNil || flag.truthy m.store) :=
    reading fun _ _ joined => by rw [(sharing.alike joined).store]
  refine muted.bind fun muted _ => (parallel_modify fun m₁ m₂ joined => ?_).bind fun _ _ => agrees_pure trivial
  rw [sharing.headless joined, ← sharing.audio joined]
  split
  · exact joined
  · exact sharing.putAudio (by cases m₁.audio <;> rfl) joined

theorem playingValue (sharing : Sharing S) {b : Builtin} (plays : b.plays = true) (args : List Value) :
    Parallel E S (b.value args) (b.value args) := by
  cases b with dsimp only [Builtin.value]
  | playMidi => exact sharing.play _ (fun path audio => by cases audio <;> rfl) _
  | playWave => exact sharing.play _ (fun path audio => by cases audio <;> rfl) _
  | stopMidi => exact Actions.zeroAfter (sharing.sounding fun audio => by cases audio <;> rfl)
  | stopWave => exact Actions.zeroAfter (sharing.sounding fun audio => by cases audio <;> rfl)
  | muteMidi => exact sharing.mute _
  | _ => cases plays

end Sounds

end Sharing

end CueScript
