import CueScript.Proofs.Handler.Waits
import CueScript.Proofs.Handler.Growth
import CueScript.Proofs.Machine.Twin

/-!
Suspending a program does not change what it computes. A program that waits at top level only and otherwise keeps to
itself is compared with the same program without its waits: parked and brought back by ticks, it ends in the same
variables, arrays and files, after exactly the ticks that its waits ask for.
-/

set_option autoImplicit false

namespace CueScript

def Operand.literal? : Operand → Option Value
  | .nil => some .nil
  | .int n => some (.int n)
  | .float x => some (.float x)
  | .text s => some (.text s)
  | _ => none

def Instruction.pause? (inst : Instruction) : Option Int64 :=
  if inst.op = .wait then ((inst.arg? 0).bind Operand.literal?).map Value.toInt else none

/-- It waits for a literal number of units, or it is quiet and everything in it is. -/
def Instruction.Plain (inst : Instruction) : Prop :=
  inst.pause?.isSome = true ∨ inst.within .quiet = true

instance (inst : Instruction) : Decidable inst.Plain :=
  inferInstanceAs (Decidable (_ ∨ _))

structure Program.Plain (p : Program) : Prop where
  instructions : ∀ inst ∈ p.instructions, inst.Plain
  functions : ∀ entry ∈ p.functions, entry.2.within .quiet = true

def dropWaits (body : Block) : Block :=
  body.filter (·.op != .wait)

def Program.withoutWaits (p : Program) : Program :=
  { p with instructions := dropWaits p.instructions }

/-- The events that the waits of a block count, as far as the block gets when nothing suspends it. -/
def pauses (fuel : Nat) : Block → Machine → List Int64
  | [], _ => []
  | inst :: rest, m =>
    match inst.pause? with
    | some units => (if 0 < units then [saturatingMul units m.stepNow] else []) ++ pauses fuel rest m
    | none =>
      match exec fuel inst m with
      | .done (.returned _) _ | .done (.wait _) _ | .exhausted => []
      | .done _ m => pauses fuel rest m
      | .failed fault m => if fault.isFatal then [] else pauses fuel rest (m.report .error fault.display)

/-- A wait skips as many ticks as it counts, and the next one resumes. -/
def ticksFor : List Int64 → Nat
  | [] => 0
  | events :: rest => events.toInt.toNat + 1 + ticksFor rest

section Pauses

variable {inst : Instruction} {units : Int64} {m : Machine}

theorem Instruction.op_of_pause (pauses : inst.pause? = some units) : inst.op = .wait := by
  unfold Instruction.pause? at pauses
  split at pauses
  · assumption
  · cases pauses

theorem Instruction.op_of_quiet (within : inst.within .quiet = true) : inst.op ≠ .wait := by
  intro waits
  have allowed := within_opcode within
  rw [waits] at allowed
  exact absurd allowed (by decide)

theorem Instruction.pause_of_quiet (within : inst.within .quiet = true) : inst.pause? = none :=
  if_neg (op_of_quiet within)

theorem eval_literal {operand : Operand} {value : Value} (literal : operand.literal? = some value) (fuel : Nat) :
    eval (fuel + 1) operand = pure value := by
  cases operand with
  | nil | int | float | text =>
    cases literal
    rfl
  | var | node | block => cases literal

theorem Machine.settled_eq (settled : m.pendingWait = none) : { m with pendingWait := none } = m := by
  cases m
  cases settled
  rfl

theorem exec_pause {fuel : Nat} (pauses : inst.pause? = some units) (enough : 2 ≤ fuel) (settled : m.pendingWait = none) :
    exec fuel inst m = .done (m.waitFlow units) m := by
  obtain ⟨more, rfl⟩ : ∃ more, fuel = more + 2 := ⟨fuel - 2, by omega⟩
  have waits := Instruction.op_of_pause pauses
  rw [Instruction.pause?, if_pos waits] at pauses
  obtain ⟨value, found, rfl⟩ := Option.map_eq_some_iff.mp pauses
  obtain ⟨operand, found, literal⟩ := Option.bind_eq_some_iff.mp found
  have performed : (interpreter (more + 1)).perform (more + 1) inst m = .done (m.waitFlow value.toInt) m := by
    have evaluated : (interpreter (more + 1)).eval operand = pure value := eval_literal literal more
    unfold Inner.perform
    simp only [waits, Inner.arg, found, evaluated]
    rfl
  have pending (flow : Flow) : Inner.withPending none flow = flow := by cases flow <;> rfl
  show (interpreter (more + 1)).statement (more + 1) inst m = _
  simp only [Inner.statement, Run.locate, performed, settled, pending, m.settled_eq settled]

theorem Machine.Undisturbed.checkStop (undisturbed : m.Undisturbed) : m.checkStop = (false, m) := by
  simp [Machine.checkStop, undisturbed.stopped, undisturbed.deadline]

end Pauses

/-- How far the run of a block gets beside the run of the block without its waits, which ends in `final`: to the end, or
to a wait, with the rest of the block still to be run on both sides. -/
inductive Segment (fuel fuel' pc : Nat) (block : Block) (parked : Option Handler) (m₁ m₂ final : Machine) : Prop
  | finished {m₂' : Machine} (noWaits : pauses fuel block m₁ = [])
    (ran : runFrom fuel' pc block m₂ = .done .completed m₂') (twin : Twin parked final m₂')
  | suspended (count : Nat) {q : Nat} {events : Int64} {n₁ n₂ : Machine}
    (waits : pauses fuel block m₁ = events :: pauses fuel (block.drop count) n₁)
    (ran : runFrom fuel' pc block m₂ = .done (.suspended (pc + count) events) n₂) (twin : Twin parked n₁ n₂)
    (later : runFrom fuel q (dropWaits (block.drop count)) n₁ = .done .completed final)

section Segments

variable {fuel fuel' pc q : Nat} {parked : Option Handler} {inst : Instruction} {block rest : Block}
  {m₁ m₂ n₁ n₂ final : Machine}

theorem Segment.cons (segment : Segment fuel fuel' (pc + 1) rest parked n₁ n₂ final)
    (waits : pauses fuel (inst :: rest) m₁ = pauses fuel rest n₁)
    (runs : runFrom fuel' pc (inst :: rest) m₂ = runFrom fuel' (pc + 1) rest n₂) :
    Segment fuel fuel' pc (inst :: rest) parked m₁ m₂ final := by
  cases segment with
  | finished noWaits ran twin => exact .finished (waits.trans noWaits) (runs.trans ran) twin
  | suspended count later ran twin remains =>
    have place : pc + 1 + count = pc + (count + 1) := by omega
    rw [place] at ran
    exact .suspended (count + 1) (waits.trans later) (runs.trans ran) twin remains

theorem runFrom_cons (undisturbed : m₁.Undisturbed) :
    runFrom fuel pc (inst :: rest) m₁ = match exec fuel inst m₁ with
      | .done (.wait events) m => .done (.suspended (pc + 1) events) m
      | .done (.returned _) m => .done .completed m
      | .done _ m => if m.isRetired then .done .completed m else runFrom fuel (pc + 1) rest m
      | .failed fault m =>
        if fault.isFatal then .failed fault m
        else
          let m := m.report .error fault.display
          if m.isRetired then .done .completed m else runFrom fuel (pc + 1) rest m
      | .exhausted => .exhausted := by
  have checked := undisturbed.checkStop
  conv => lhs; unfold runFrom
  generalize m₁.checkStop = stop at checked ⊢
  subst checked
  rfl

theorem segment_of_pause {units : Int64} (twin : Twin parked m₁ m₂) (waits : inst.pause? = some units) (two : 2 ≤ fuel')
    (ran : runFrom fuel q (dropWaits rest) m₁ = .done .completed final)
    (onward : Segment fuel fuel' (pc + 1) rest parked m₁ m₂ final) :
    Segment fuel fuel' pc (inst :: rest) parked m₁ m₂ final := by
  have executed := exec_pause waits two twin.right.pending
  have right : runFrom fuel' pc (inst :: rest) m₂ = _ := runFrom_cons twin.right
  rw [executed] at right
  by_cases positive : 0 < units
  next =>
    -- The step is the machine's own on the left and may be the handler's on the right.
    have step : saturatingMul units m₂.stepNow = saturatingMul units m₁.stepNow := by
      rw [twin.stepNow.1, twin.stepNow.2]
    have flow : m₂.waitFlow units = .wait (saturatingMul units m₁.stepNow) := by
      rw [Machine.waitFlow, if_neg (Int64.not_le.mpr positive), step]
    rw [flow] at right
    refine .suspended 1 ?_ right twin ran
    simp [pauses, waits, positive]
  next =>
    have flow : m₂.waitFlow units = .normal (.int 0) := if_pos (Int64.not_lt.mp positive)
    rw [flow] at right
    refine onward.cons ?_ ?_
    · simp [pauses, waits, positive]
    · simpa [twin.isRetired.2] using right

theorem segment_of_quiet (twin : Twin parked m₁ m₂) (within : inst.within .quiet = true) (enough : fuel ≤ fuel')
    (ran : runFrom fuel q (inst :: dropWaits rest) m₁ = .done .completed final)
    (onward : ∀ n₁ n₂, Twin parked n₁ n₂ → runFrom fuel (q + 1) (dropWaits rest) n₁ = .done .completed final →
      Segment fuel fuel' (pc + 1) rest parked n₁ n₂ final) :
    Segment fuel fuel' pc (inst :: rest) parked m₁ m₂ final := by
  -- Both sides execute the instruction alike, and it cannot wait.
  have ends : (exec fuel inst m₁).Agrees .fuel (Twin parked) (Flow.Owes fun _ => False) (exec fuel' inst m₂) :=
    (interpreter_agree Twin.simulation enough parked).exec within m₁ m₂ twin
  have quiet := Instruction.pause_of_quiet within
  rw [runFrom_cons twin.left] at ran
  generalize leftIs : exec fuel inst m₁ = leftEnd at ends ran
  generalize rightIs : exec fuel' inst m₂ = rightEnd at ends
  cases ends with
  | exhausted => cases ran
  | abandoned excused => exact excused.elim
  | @failed fault n₁ n₂ joined =>
    have reported := joined.report .error fault.display
    have retired := reported.isRetired
    by_cases fatal : fault.isFatal
    next =>
      simp only [if_pos fatal] at ran
      cases ran
    next =>
      simp only [if_neg fatal, retired.1] at ran
      refine (onward _ _ reported ran).cons ?_ ?_
      · simp only [pauses, quiet, leftIs, if_neg fatal]
      · simp only [runFrom_cons twin.right, rightIs, if_neg fatal, retired.2]
        rfl
  | @done flow n₁ n₂ holds joined =>
    have retired := joined.isRetired
    cases flow with
    | wait => exact holds.elim
    | returned =>
      cases ran
      refine .finished ?_ ?_ joined
      · simp only [pauses, quiet, leftIs]
      · simp only [runFrom_cons twin.right, rightIs]
    | normal | breakLoop | continueLoop =>
      simp only [retired.1] at ran
      refine (onward n₁ n₂ joined ran).cons ?_ ?_
      · simp only [pauses, quiet, leftIs]
      · simp only [runFrom_cons twin.right, rightIs, retired.2]
        rfl

theorem segment_of_plain (plain : ∀ inst ∈ block, inst.Plain) (enough : fuel ≤ fuel') (two : 2 ≤ fuel')
    (twin : Twin parked m₁ m₂) (ran : runFrom fuel q (dropWaits block) m₁ = .done .completed final) :
    Segment fuel fuel' pc block parked m₁ m₂ final := by
  induction block generalizing pc q m₁ m₂ with
  | nil =>
    cases ran
    exact .finished rfl rfl twin
  | cons inst rest ih =>
    -- A wait is not there on the left, so only the right one moves on.
    have plainRest (other : Instruction) (member : other ∈ rest) := plain other (List.mem_cons_of_mem inst member)
    rcases plain inst List.mem_cons_self with pause | within
    · obtain ⟨units, waits⟩ := Option.isSome_iff_exists.mp pause
      have dropped : dropWaits (inst :: rest) = dropWaits rest := by
        simp [dropWaits, Instruction.op_of_pause waits]
      rw [dropped] at ran
      exact segment_of_pause twin waits two ran (ih plainRest twin ran)
    · have stays : dropWaits (inst :: rest) = inst :: dropWaits rest := by
        simp [dropWaits, Instruction.op_of_quiet within]
      rw [stays] at ran
      exact segment_of_quiet twin within enough ran fun n₁ n₂ joined later => ih plainRest joined later

end Segments

structure Machine.SameResults (m₁ m₂ : Machine) : Prop where
  globals : ∀ name, name ∉ paramNames → m₂.global? name = m₁.global? name
  store : m₂.store = m₁.store
  files : m₂.files = m₁.files

theorem mention_quiet {name : String} : Vocabulary.quiet.mention name = true ↔ name ∉ paramNames := by
  simp [Vocabulary.quiet]

theorem Twin.sameResults {parked : Option Handler} {m₁ m₂ : Machine} (twin : Twin parked m₁ m₂) : m₁.SameResults m₂ where
  globals name other := (twin.globals name (mention_quiet.mpr other)).symm
  store := twin.alike.store.symm
  files := twin.alike.files.symm

/-- How many ticks it takes until the program `body` has ended, in the results of `final`. -/
inductive Remaining (fuel : Nat) (body : Block) (final : Machine) : Nat → Machine → Prop
  | finished {m : Machine} (empty : m.handlers.handlers = []) (same : final.SameResults m) : Remaining fuel body final 0 m
  | parked {h : Handler} {m₁ m : Machine} {q : Nat} (twin : Twin (some h) m₁ (m.enterHandler h.id))
    (active : h.active = true) (kind : h.kind = .time) (own : h.body = body) (oneShot : h.oneShot = true)
    (later : runFrom fuel q (dropWaits (body.drop h.pc)) m₁ = .done .completed final) :
    Remaining fuel body final (h.wait.toInt.toNat + 1 + ticksFor (pauses fuel (body.drop h.pc) m₁)) m

section Ticks

variable {fuel fuel' : Nat} {body : Block} {final m m₁ m₂ : Machine} {h : Handler} {parked : Option Handler}

theorem get?_publish (m : Machine) (params : List Value) {name : String} (other : name ∉ paramNames) :
    (m.publish params).globals.get? name = m.globals.get? name := by
  simp only [paramNames, List.mem_cons, not_or] at other
  obtain ⟨first, second, third, fourth, _⟩ := other
  simp [Machine.publish, paramNames, Machine.setGlobal, Bindings.get?_set, first, second, third, fourth]

theorem Twin.publish (twin : Twin parked m₁ m₂) (params : List Value) : Twin parked m₁ (m₂.publish params) := by
  refine twin.update twin.alike.store twin.alike.files twin.alike.random twin.frames ?_ twin.left.pending
    twin.right.pending
  intro name mentioned
  rw [twin.globals name mentioned]
  exact (get?_publish m₂ params (mention_quiet.mp mentioned)).symm

theorem offerAll_single (undisturbed : m.Undisturbed) (id : HandlerId) : offerAll fuel [id] m = offer fuel id m := by
  unfold offerAll
  rw [undisturbed.checkStop]
  dsimp only
  cases offer fuel id m <;> rfl

section Single

variable {own : Handler} (single : m.handlers.handlers = [own])

include single

theorem get?_single : m.handlers.get? own.id = some own := by
  simp [Registry.get?, single]

theorem changeHandler_single (change : Handler → Handler) :
    (m.changeHandler own.id change).handlers.handlers = [change own] := by
  simp [Machine.changeHandler, Registry.modify, Registry.modifyFirst, single]

theorem sweep_kept (kept : own.retired = false) : m.sweep.handlers.handlers = [own] := by
  simp [Machine.sweep, Registry.sweep, single, kept]

theorem sweep_retired (gone : own.retired = true) : m.sweep.handlers.handlers = [] := by
  simp [Machine.sweep, Registry.sweep, single, gone]

end Single

theorem dispatch_parked {m' : Machine} {event : Event} (twin : Twin (some h) m₁ (m.enterHandler h.id))
    (kind : h.kind = .time) (tick : event.kind = .time) (offered : offer fuel h.id (m.publish event.params) = .done () m') :
    dispatch fuel event m = .done () m'.sweep := by
  have single : m.handlers.handlers = [{ h with step := m₁.step }] := twin.place.1
  -- The tick reaches the only handler there is, and nothing stops the machine on the way.
  have ids : m.handlers.idsFor event.kind = [h.id] := by
    simp [Registry.idsFor, single, kind, tick]
  have undisturbed : (m.publish event.params).Undisturbed :=
    ⟨twin.right.stopped, twin.right.deadline, twin.right.pending, twin.right.builtins, twin.right.functions⟩
  rw [dispatch_eq, ids, offerAll_single undisturbed, offered]

theorem tick_waiting (fuel : Nat) (twin : Twin (some h) m₁ (m.enterHandler h.id)) (active : h.active = true) (waits : 0 < h.wait) :
    ∃ m', offer fuel h.id m = .done () m' ∧
      Twin (some { h with wait := h.wait - 1 }) m₁ (m'.sweep.enterHandler h.id) := by
  obtain ⟨single, _, kept⟩ := twin.place
  have single : m.handlers.handlers = [{ h with step := m₁.step }] := single
  have polled : Handler.poll { h with step := m₁.step } =
      (.waiting (h.wait - 1), { h with step := m₁.step, wait := h.wait - 1 }) := by
    simp [Handler.poll, active, kept, waits]
  have found := get?_single single
  have changed := changeHandler_single single (·.poll.2)
  rw [polled] at changed
  exact ⟨_, offer_waiting found polled, twin.move ⟨sweep_kept changed kept, rfl, kept⟩⟩

theorem tick_resuming {outcome : RunOutcome} {m₂ : Machine} (twin : Twin (some h) m₁ (m.enterHandler h.id))
    (active : h.active = true) (due : ¬ 0 < h.wait)
    (run : runBody fuel h.body h.pc (m.enterHandler h.id) = .done outcome m₂) :
    offer fuel h.id m = .done () (m₂.leaveHandler.changeHandler h.id (·.finish outcome)) := by
  obtain ⟨single, _, kept⟩ := twin.place
  have single : m.handlers.handlers = [{ h with step := m₁.step }] := single
  have ready : Handler.Ready { h with step := m₁.step } := ⟨active, kept, due⟩
  rw [offer_ready (get?_single single) ready, run]

theorem twin_suspended {pc : Nat} {wait : Int64} (twin : Twin (some h) m₁ m) :
    Twin (some { h with pc, wait := max wait 0 }) m₁
      ((m.leaveHandler.changeHandler h.id (·.finish (.suspended pc wait))).sweep.enterHandler h.id) := by
  obtain ⟨single, _, kept⟩ := twin.place
  have single : m.leaveHandler.handlers.handlers = [{ h with step := m₁.step }] := single
  have changed := changeHandler_single single (·.finish (.suspended pc wait))
  exact twin.move ⟨sweep_kept changed kept, rfl, kept⟩

theorem empty_completed (twin : Twin (some h) m₁ m) (oneShot : h.oneShot = true) :
    (m.leaveHandler.changeHandler h.id (·.finish .completed)).sweep.handlers.handlers = [] := by
  have single : m.leaveHandler.handlers.handlers = [{ h with step := m₁.step }] := twin.place.1
  have changed := changeHandler_single single (·.finish .completed)
  refine sweep_retired changed ?_
  simp [Handler.finish, Handler.retire, oneShot]

theorem Remaining.tick {left : Nat} {event : Event} (plain : ∀ inst ∈ body, inst.Plain) (enough : fuel ≤ fuel')
    (two : 2 ≤ fuel') (remaining : Remaining fuel body final (left + 1) m) (tick : event.kind = .time) :
    ∃ m', dispatch fuel' event m = .done () m' ∧ Remaining fuel body final left m' := by
  generalize total : left + 1 = count at remaining
  cases remaining with
  | finished => cases total
  | @parked h m₁ _ _ twin active kind own oneShot later =>
    have published : Twin (some h) m₁ ((m.publish event.params).enterHandler h.id) := twin.publish event.params
    -- A tick that the program waits for is only counted; any other brings it back for the next segment.
    by_cases waits : 0 < h.wait
    next =>
      obtain ⟨m', offered, twin'⟩ := tick_waiting fuel' published active waits
      refine ⟨_, dispatch_parked twin kind tick offered, ?_⟩
      have count : left = (h.wait - 1).toInt.toNat + 1 + ticksFor (pauses fuel (body.drop h.pc) m₁) := by
        have pred := toNat_pred waits
        omega
      rw [count]
      exact .parked (h := { h with wait := h.wait - 1 }) twin' active kind own oneShot later
    next =>
      subst own
      have plainRest (inst : Instruction) (member : inst ∈ h.body.drop h.pc) := plain inst (List.mem_of_mem_drop member)
      have segment : Segment fuel fuel' h.pc (h.body.drop h.pc) (some h) m₁ _ final :=
        segment_of_plain plainRest enough two published later
      cases segment with
      | finished noWaits ran twin' =>
        have offered := tick_resuming published active waits ran
        refine ⟨_, dispatch_parked twin kind tick offered, ?_⟩
        have count : left = 0 := by
          rw [noWaits, toNat_of_not_pos waits] at total
          simpa [ticksFor] using total
        rw [count]
        obtain ⟨globals, store, files⟩ := twin'.sameResults
        exact .finished (empty_completed twin' oneShot) ⟨globals, store, files⟩
      | @suspended count _ events n₁ n₂ pausing ran twin' remains =>
        have offered := tick_resuming published active waits ran
        refine ⟨_, dispatch_parked twin kind tick offered, ?_⟩
        have place : (h.body.drop h.pc).drop count = h.body.drop (h.pc + count) := List.drop_drop
        rw [place] at pausing remains
        have counted : left = (max events 0).toInt.toNat + 1 + ticksFor (pauses fuel (h.body.drop (h.pc + count)) n₁) := by
          rw [pausing, ticksFor, toNat_of_not_pos waits] at total
          rw [toNat_max_zero]
          omega
        rw [counted]
        exact .parked (h := { h with pc := h.pc + count, wait := max events 0 }) (twin_suspended twin') active kind rfl
          oneShot remains

theorem Remaining.ticks {left : Nat} {events : List Event} (plain : ∀ inst ∈ body, inst.Plain) (enough : fuel ≤ fuel')
    (two : 2 ≤ fuel') (remaining : Remaining fuel body final left m) (ticks : ∀ event ∈ events, event.kind = .time)
    (few : events.length ≤ left) :
    ∃ m', dispatchAll fuel' events m = .done () m' ∧ Remaining fuel body final (left - events.length) m' := by
  induction events generalizing left m with
  | nil => exact ⟨m, rfl, remaining⟩
  | cons event rest ih =>
    rw [List.length_cons] at few
    obtain ⟨less, rfl⟩ : ∃ less, left = less + 1 := ⟨left - 1, by omega⟩
    obtain ⟨m₁, first, remaining₁⟩ := remaining.tick plain enough two (ticks event List.mem_cons_self)
    obtain ⟨m', later, remaining'⟩ :=
      ih remaining₁ (fun other member => ticks other (List.mem_cons_of_mem event member)) (by omega)
    have count : less + 1 - (event :: rest).length = less - rest.length := by
      rw [List.length_cons]
      omega
    exact ⟨m', dispatchAll_cons.mpr ⟨m₁, first, later⟩, count ▸ remaining'⟩

theorem Remaining.finished_iff {left : Nat} (remaining : Remaining fuel body final left m) :
    m.handlers.handlers = [] ↔ left = 0 := by
  cases remaining with
  | finished empty => exact ⟨fun _ => rfl, fun _ => empty⟩
  | parked twin =>
    have single : m.handlers.handlers = [_] := twin.place.1
    simp [single]

theorem Remaining.sameResults (remaining : Remaining fuel body final 0 m) : final.SameResults m := by
  generalize total : 0 = count at remaining
  cases remaining with
  | finished _ same => exact same
  | parked => omega

end Ticks

section Start

variable {fuel fuel' : Nat} {final m m₁ : Machine}

theorem twin_park {wait : Int64} {body : Block} {pc : Nat} (twin : Twin none m₁ m) (main : m.main = body) :
    Twin (some { id := m.handlers.nextId, kind := .time, body, pc, wait, oneShot := true }) m₁
      ((m.park pc wait).enterHandler m.handlers.nextId) := by
  obtain ⟨empty, _, step⟩ := twin.place
  have started := twin.unseen m₁.log m.log m₁.calls m.calls m₁.audio (m.registerHandler .time m.main).2.audio
  refine started.move ⟨?_, rfl, rfl⟩
  simp [Machine.park, Machine.registerHandler, Registry.register, Registry.modify, Registry.modifyFirst, empty, step, main]

theorem remaining_of_runProgram (plain : ∀ inst ∈ m.main, inst.Plain) (enough : fuel ≤ fuel') (two : 2 ≤ fuel')
    (twin : Twin none m₁ m) (ran : runFrom fuel 0 (dropWaits m.main) m₁ = .done .completed final) :
    ∃ m', runProgram fuel' m = .done () m' ∧ Remaining fuel m.main final (ticksFor (pauses fuel m.main m₁)) m' := by
  have segment : Segment fuel fuel' 0 m.main none m₁ m final := segment_of_plain plain enough two twin ran
  have effects := runFrom_effects fuel' 0 m.main m
  cases segment with
  | @finished m₂ noWaits ran twin' =>
    have body : runBody fuel' m.main 0 m = .done .completed m₂ := ran
    rw [noWaits]
    refine ⟨m₂, by rw [runProgram_eq, body], .finished twin'.place.1 twin'.sameResults⟩
  | @suspended count _ events n₁ n₂ waits ran twin' later =>
    have body : runBody fuel' m.main 0 m = .done (.suspended count events) n₂ := by
      rw [Nat.zero_add] at ran
      exact ran
    rw [ran] at effects
    have main : n₂.main = m.main := effects.1.fixed.2
    refine ⟨n₂.park count events, ?_, ?_⟩
    · rw [runProgram_eq, body]
      simp [twin'.right.stopped]
    · rw [waits, ticksFor]
      exact .parked (twin_park twin' main) rfl rfl rfl rfl later

theorem completed_of_quiet {block : Block} {parked : Option Handler} {q : Nat} {outcome : RunOutcome} {m₂ : Machine}
    (quiet : ∀ inst ∈ block, inst.within .quiet = true) (twin : Twin parked m₁ m₂)
    (ran : runFrom fuel q block m₁ = .done outcome final) : outcome = .completed := by
  induction block generalizing q m₁ m₂ with
  | nil =>
    cases ran
    rfl
  | cons inst rest ih =>
    have onward (n₁ n₂ : Machine) (joined : Twin parked n₁ n₂) (ran : runFrom fuel (q + 1) rest n₁ = .done outcome final) :=
      ih (fun other member => quiet other (List.mem_cons_of_mem inst member)) joined ran
    have ends : (exec fuel inst m₁).Agrees .fuel (Twin parked) (Flow.Owes fun _ => False) (exec fuel inst m₂) :=
      (interpreter_agree Twin.simulation (Nat.le_refl fuel) parked).exec (quiet inst List.mem_cons_self) m₁ m₂ twin
    rw [runFrom_cons twin.left] at ran
    generalize exec fuel inst m₁ = leftEnd, exec fuel inst m₂ = rightEnd at ends ran
    cases ends with
    | exhausted => cases ran
    | abandoned excused => exact excused.elim
    | failed joined =>
      dsimp only at ran
      split at ran
      · cases ran
      · split at ran
        · cases ran
          rfl
        · exact onward _ _ (joined.report _ _) ran
    | @done flow n₁ n₂ holds joined =>
      cases flow with
      | wait => exact holds.elim
      | returned =>
        cases ran
        rfl
      | normal | breakLoop | continueLoop =>
        dsimp only at ran
        split at ran
        · cases ran
          rfl
        · exact onward n₁ n₂ joined ran

theorem addDefinitions_dropWaits (table : FunctionTable) (body : Block) :
    Program.addDefinitions table (dropWaits body) = Program.addDefinitions table body := by
  induction body generalizing table with
  | nil => rfl
  | cons inst rest ih =>
    by_cases waits : inst.op = .wait
    · have dropped : dropWaits (inst :: rest) = dropWaits rest := by simp [dropWaits, waits]
      rw [dropped, ih]
      simp [Program.addDefinitions, waits]
    · have stays : dropWaits (inst :: rest) = inst :: dropWaits rest := by simp [dropWaits, waits]
      rw [stays]
      simp only [Program.addDefinitions, ih]

theorem collectFunctions_withoutWaits (program : Program) :
    program.withoutWaits.collectFunctions = program.collectFunctions :=
  addDefinitions_dropWaits _ program.instructions

section Created

variable {program : Program} {settings : Settings} {audio : Audio} {disk : Disk} {seed : UInt64}
  {grants : Allocator} {draw : UInt64 → List Nat → Nat} {m m₀ : Machine}

theorem main_created (created : Machine.create program settings audio disk seed grants draw = .ok m) :
    m.main = program.instructions := by
  unfold Machine.create at created
  split at created
  · cases created
  · cases created
    rfl

theorem Program.Plain.functions_quiet (plain : program.Plain) (key : String) (f : FunctionDef)
    (found : FunctionTable.find? program.collectFunctions.2 key = some f) : f.within .quiet = true := by
  refine Program.within_functions plain.functions (fun inst member defines => ?_) _ (mem_of_lookup found)
  rcases plain.instructions inst member with pause | within
  · obtain ⟨units, waits⟩ := Option.isSome_iff_exists.mp pause
    rw [Instruction.op_of_pause waits] at defines
    cases defines
  · exact within

theorem twin_created (plain : program.Plain) (created : Machine.create program settings audio disk seed grants draw = .ok m)
    (created₀ : Machine.create program.withoutWaits settings audio disk seed grants draw = .ok m₀) : Twin none m₀ m := by
  have functions := plain.functions_quiet
  unfold Machine.create at created created₀
  split at created
  · cases created
  next valid =>
    simp only [valid, collectFunctions_withoutWaits] at created₀
    cases created
    cases created₀
    have undisturbed (m : Machine) (stopped : m.stopped = false) (deadline : m.deadline = none)
        (pending : m.pendingWait = none) (builtins : m.builtins = Builtin.standard)
        (table : m.functions = program.collectFunctions.2) : m.Undisturbed :=
      ⟨stopped, deadline, pending, builtins, table ▸ functions⟩
    exact ⟨⟨rfl, rfl, rfl, rfl, rfl, rfl, rfl⟩, rfl, rfl, rfl, fun _ _ => rfl, undisturbed _ rfl rfl rfl rfl rfl,
      undisturbed _ rfl rfl rfl rfl rfl, ⟨rfl, rfl, rfl⟩, ⟨rfl, rfl, rfl⟩⟩

theorem quiet_dropWaits {body : Block} (plain : ∀ inst ∈ body, inst.Plain) :
    ∀ inst ∈ dropWaits body, inst.within .quiet = true := by
  intro inst member
  obtain ⟨member, goes⟩ := List.mem_filter.mp member
  rcases plain inst member with pause | within
  · obtain ⟨units, waits⟩ := Option.isSome_iff_exists.mp pause
    rw [Instruction.op_of_pause waits] at goes
    cases goes
  · exact within

end Created

end Start

theorem parked_program_computes_alike {program : Program} {settings : Settings} {audio : Audio} {disk : Disk}
    {seed : UInt64} {grants : Allocator} {draw : UInt64 → List Nat → Nat} {m m₀ final : Machine} {fuel fuel' : Nat}
    {events : List Event} (plain : program.Plain)
    (created : Machine.create program settings audio disk seed grants draw = .ok m)
    (created₀ : Machine.create program.withoutWaits settings audio disk seed grants draw = .ok m₀)
    (ran : runProgram fuel m₀ = .done () final) (enough : fuel ≤ fuel') (two : 2 ≤ fuel')
    (ticks : ∀ event ∈ events, event.kind = .time)
    (few : events.length ≤ ticksFor (pauses fuel program.instructions m₀)) :
    ∃ parked m', runProgram fuel' m = .done () parked ∧ dispatchAll fuel' events parked = .done () m' ∧
      (m'.handlers.handlers = [] ↔ events.length = ticksFor (pauses fuel program.instructions m₀)) ∧
      (events.length = ticksFor (pauses fuel program.instructions m₀) →
        (∀ name, name ∉ paramNames → m'.global? name = final.global? name) ∧ m'.store = final.store ∧
          m'.files = final.files) := by
  have twin := twin_created plain created created₀
  have main := main_created created
  have main₀ : m₀.main = dropWaits program.instructions := main_created created₀
  have plainMain : ∀ inst ∈ m.main, inst.Plain := main ▸ plain.instructions
  -- Without its waits the program runs to its end at once.
  have straight : runFrom fuel 0 (dropWaits m.main) m₀ = .done .completed final := by
    rw [runProgram_eq, runBody, main₀, List.drop_zero, ← main] at ran
    cases run : runFrom fuel 0 (dropWaits m.main) m₀ with
    | failed | exhausted =>
      rw [run] at ran
      cases ran
    | done outcome m₁ =>
      obtain rfl := completed_of_quiet (quiet_dropWaits plainMain) twin run
      rw [run] at ran
      cases ran
      rfl
  obtain ⟨parked, started, remaining⟩ := remaining_of_runProgram plainMain enough two twin straight
  rw [main] at remaining
  obtain ⟨m', dispatched, remaining'⟩ := remaining.ticks plain.instructions enough two ticks few
  refine ⟨parked, m', started, dispatched, ?_, fun all => ?_⟩
  · rw [remaining'.finished_iff]
    omega
  · rw [all, Nat.sub_self] at remaining'
    obtain ⟨globals, store, files⟩ := remaining'.sameResults
    exact ⟨globals, store, files⟩

def pausingTitle : Program where
  instructions :=
    [.mk .setStep [.int 2] none, .mk .wait [.int 1] none, .mk .assign [.var "x", .int 7] none]

theorem pausing_title_computes_alike : ∃ m m₀ final parked m',
    Machine.create pausingTitle { headless := true } (.silent {}) {} 0 = .ok m ∧
    Machine.create pausingTitle.withoutWaits { headless := true } (.silent {}) {} 0 = .ok m₀ ∧
    runProgram 2 m₀ = .done () final ∧ runProgram 2 m = .done () parked ∧
    dispatchAll 2 (List.replicate 3 { kind := .time }) parked = .done () m' ∧ m'.handlers.handlers = [] ∧
    ∀ name, name ∉ paramNames → m'.global? name = final.global? name := by
  have plain : pausingTitle.Plain := ⟨by decide +kernel, nofun⟩
  have created : Machine.create pausingTitle { headless := true } (.silent {}) {} 0 = .ok _ := rfl
  have created₀ : Machine.create pausingTitle.withoutWaits { headless := true } (.silent {}) {} 0 = .ok _ := rfl
  have ticks : ∀ event ∈ List.replicate 3 ({ kind := .time } : Event), event.kind = .time := by simp
  obtain ⟨parked, m', started, dispatched, empty, same⟩ :=
    parked_program_computes_alike plain created created₀ rfl (Nat.le_refl 2) (Nat.le_refl 2) ticks (by decide +kernel)
  exact ⟨_, _, _, parked, m', created, created₀, rfl, started, dispatched, empty.mpr (by decide +kernel),
    (same (by decide +kernel)).1⟩

end CueScript
