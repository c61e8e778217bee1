import CueScript.Builtin.Names
import CueScript.Proofs.Machine.Driving

set_option autoImplicit false

namespace CueScript

open Run

/-- The events that calls ask to post, in the order of the calls; the latest call comes first. -/
def eventsAsked (calls : List CallRecord) : List Event :=
  (calls.filterMap CallRecord.posted?).reverse

theorem few_params_of_asked {calls : List CallRecord} {event : Event} (asked : event ∈ eventsAsked calls) :
    event.params.length ≤ 4 := by
  obtain ⟨call, _, posted⟩ := List.mem_filterMap.mp (List.mem_reverse.mp asked)
  exact CallRecord.few_params posted

def Machine.callsSince (m start : Machine) : List CallRecord :=
  m.calls.take (m.calls.length - start.calls.length)

/-- From `start` on, events were only appended to the queue, and they are those that calls asked for. -/
structure Machine.Appends (start m : Machine) : Prop where
  calls : m.calls = m.callsSince start ++ start.calls
  pending : m.events.pending = start.events.pending ++ eventsAsked (m.callsSince start)

namespace Machine.Appends

variable {start mid m m' : Machine}

theorem of_calls (calls : List CallRecord) (noted : m.calls = calls ++ start.calls)
    (pending : m.events.pending = start.events.pending ++ eventsAsked calls) : start.Appends m := by
  have since : m.callsSince start = calls := by simp [callsSince, noted]
  exact ⟨by rw [since, noted], by rw [since, pending]⟩

theorem of_same (calls : m.calls = start.calls) (events : m.events = start.events) : start.Appends m :=
  of_calls [] calls (by simp [events, eventsAsked])

theorem trans (first : start.Appends mid) (rest : mid.Appends m) : start.Appends m := by
  refine of_calls (m.callsSince mid ++ mid.callsSince start) ?_ ?_
  · rw [List.append_assoc, ← first.calls, ← rest.calls]
  · simp only [rest.pending, first.pending, eventsAsked, List.filterMap_append, List.reverse_append, List.append_assoc]

theorem setStep (m : Machine) (perUnit : Int64) : m.Appends (m.setStep perUnit) := by
  unfold Machine.setStep
  split <;> exact of_same rfl rfl

theorem effects (effects : Effects start m) : start.Appends m := by
  induction effects with
  | refl m => exact of_same rfl rfl
  | trans _ _ first rest => exact first.trans rest
  | note m call silent => exact of_calls [call] rfl (by simp [eventsAsked, silent, Machine.note])
  | post m call event posted =>
    exact of_calls [call] rfl (by simp [eventsAsked, posted, Machine.note, Machine.post, EventQueue.push])
  | report | putVariables | putStore | putFiles | putRandom | putAudio | register | steer | stop | settle =>
    exact of_same rfl rfl
  | setStep m perUnit => exact setStep m perUnit
  | pend _ _ _ _ later => exact later.trans (of_same rfl rfl)
  | @call m m' frame _ inside =>
    have entered : m.Appends (m.enterCall frame) := of_same rfl rfl
    exact (entered.trans inside).trans (of_same rfl rfl)

def Both (start m₁ m₂ : Machine) : Prop :=
  m₁ = m₂ ∧ start.Appends m₁

theorem Both.silent {m₁ m₂ : Machine} (joined : Both start m₁ m₂) (change : Machine → Machine)
    (calls : (change m₁).calls = m₁.calls) (events : (change m₁).events = m₁.events) :
    Both start (change m₁) (change m₂) :=
  ⟨by rw [joined.1], joined.2.trans (of_same calls events)⟩

theorem driving (start : Machine) : Driving (fun _ => True) fun _ => Both start where
  outer joined := by
    rw [joined.1]
    exact ⟨rfl, rfl, rfl, rfl, rfl, rfl, rfl⟩
  main _ _ _ := trivial
  bodies _ _ _ _ _ := trivial
  report severity text joined := joined.silent (·.report severity text) rfl rfl
  stop joined := joined.silent (fun m => { m with stopped := true }) rfl rfl
  publish params joined := joined.silent (·.publish params) rfl rfl
  enter id joined := joined.silent (·.enterHandler id) rfl rfl
  leave joined := joined.silent Machine.leaveHandler rfl rfl
  change {_ _} id {step} _ joined := joined.silent (·.changeHandler id step) rfl rfl
  register joined := joined.silent (fun m => (m.registerHandler .time m.main).2) rfl rfl
  sweep joined := joined.silent Machine.sweep rfl rfl

theorem executes (start : Machine) (fuel : Nat) :
    Driving.Executes .fuel (fun _ => True) (fun _ => Both start) fuel fuel := by
  rintro current inst - m _ ⟨rfl, appends⟩
  refine (exec_agrees_with_itself fuel inst m).imp (fun _ _ reached => ?_) fun _ _ => trivial
  exact ⟨reached.1, appends.trans (effects reached.2)⟩

theorem dispatch {fuel : Nat} {event : Event} (left : (dispatch fuel event m).left? = some m') : m.Appends m' := by
  have agrees := (driving m).dispatch (executes m fuel) event m m ⟨rfl, of_same rfl rfl⟩
  obtain ⟨_, -, -, appends⟩ := agrees.left left
  exact appends

end Machine.Appends

def Machine.SameRecord (m m' : Machine) : Prop :=
  m'.calls = m.calls ∧ m'.events = m.events

/-- What an instruction of a handler leaves on record is still there when its block, the handler and the dispatch are
over, whether they succeed or fail. -/
structure Machine.KeepsRecord (fuel : Nat) (m : Machine) : Prop where
  dispatch {event : Event} {m' : Machine} : (dispatch fuel event m).left? = some m' →
    ∃ ran, (offerAll fuel (m.handlers.idsFor event.kind) (m.publish event.params)).left? = some ran ∧ ran.SameRecord m'
  offerAll {id : HandlerId} {rest : List HandlerId} {going ran m' : Machine} : m.checkStop = (false, going) →
    (offer fuel id going).left? = some ran → (offerAll fuel (id :: rest) m).left? = some m' → ran.Appends m'
  offer {id : HandlerId} {h : Handler} {m' : Machine} : m.handlers.get? id = some h → h.Ready →
    (offer fuel id m).left? = some m' →
    ∃ ran, (runBody fuel h.body h.pc (m.enterHandler id)).left? = some ran ∧ ran.SameRecord m'
  block {pc : Nat} {inst : Instruction} {rest : Block} {going ran m' : Machine} : m.checkStop = (false, going) →
    (exec fuel inst going).left? = some ran → (runFrom fuel pc (inst :: rest) m).left? = some m' → ran.Appends m'

namespace Machine.Appends

variable {fuel : Nat} {m m' : Machine}

theorem offerAll {ids : List HandlerId} (left : (offerAll fuel ids m).left? = some m') : m.Appends m' := by
  have agrees := (driving m).offerAll (executes m fuel) ids m m ⟨rfl, of_same rfl rfl⟩
  obtain ⟨_, -, -, appends⟩ := agrees.left left
  exact appends

theorem runFrom {pc : Nat} {body : Block} (left : (runFrom fuel pc body m).left? = some m') : m.Appends m' := by
  have runs : ∀ inst ∈ body, Parallel .fuel (Both m) (exec fuel inst) (exec fuel inst) := fun inst _ =>
    executes m fuel none inst trivial
  have agrees := ((driving m).pacing none).runFrom runs pc m m ⟨rfl, of_same rfl rfl⟩
  obtain ⟨_, -, -, appends⟩ := agrees.left left
  exact appends

end Machine.Appends

namespace Machine.KeepsRecord

variable {fuel : Nat} {m m' : Machine}

theorem of_dispatch {event : Event} (left : (CueScript.dispatch fuel event m).left? = some m') :
    ∃ ran, (CueScript.offerAll fuel (m.handlers.idsFor event.kind) (m.publish event.params)).left? = some ran ∧
      ran.SameRecord m' := by
  rw [dispatch_eq] at left
  generalize CueScript.offerAll fuel (m.handlers.idsFor event.kind) (m.publish event.params) = outcome at left ⊢
  cases outcome with
  | done | failed =>
    cases left
    exact ⟨_, rfl, rfl, rfl⟩
  | exhausted => cases left

theorem of_offerAll {id : HandlerId} {rest : List HandlerId} {going ran : Machine} (goes : m.checkStop = (false, going))
    (offered : (CueScript.offer fuel id going).left? = some ran)
    (left : (CueScript.offerAll fuel (id :: rest) m).left? = some m') : ran.Appends m' := by
  simp only [CueScript.offerAll, goes] at left
  generalize CueScript.offer fuel id going = outcome at offered left
  cases outcome with
  | done _ _ =>
    cases offered
    exact .offerAll left
  | failed _ _ =>
    cases offered
    cases left
    exact .of_same rfl rfl
  | exhausted => cases offered

theorem of_offer {id : HandlerId} {h : Handler} (found : m.handlers.get? id = some h) (ready : h.Ready)
    (left : (CueScript.offer fuel id m).left? = some m') :
    ∃ ran, (runBody fuel h.body h.pc (m.enterHandler id)).left? = some ran ∧ ran.SameRecord m' := by
  rw [offer_ready found ready] at left
  generalize runBody fuel h.body h.pc (m.enterHandler id) = outcome at left ⊢
  cases outcome with
  | done | failed =>
    cases left
    exact ⟨_, rfl, rfl, rfl⟩
  | exhausted => cases left

theorem of_block {pc : Nat} {inst : Instruction} {rest : Block} {going ran : Machine}
    (goes : m.checkStop = (false, going)) (executed : (exec fuel inst going).left? = some ran)
    (left : (runFrom fuel pc (inst :: rest) m).left? = some m') : ran.Appends m' := by
  -- After the instruction the block is over, as the running handler was retired, or the rest runs.
  have onward {n : Machine}
      (left : (if n.isRetired then .done .completed n else runFrom fuel (pc + 1) rest n).left? = some m') :
      n.Appends m' := by
    split at left
    · cases left
      exact .of_same rfl rfl
    · exact .runFrom left
  simp only [runFrom, goes] at left
  generalize exec fuel inst going = outcome at executed left
  cases outcome with
  | done flow _ =>
    cases executed
    cases flow with
    | wait _ | returned _ =>
      cases left
      exact .of_same rfl rfl
    | normal _ | breakLoop | continueLoop => exact onward left
  | failed fault _ =>
    cases executed
    dsimp only at left
    split at left
    · cases left
      exact .of_same rfl rfl
    · have reported : ran.Appends (ran.report .error fault.display) := .of_same rfl rfl
      exact reported.trans (onward left)
  | exhausted => cases executed

theorem always (fuel : Nat) (m : Machine) : m.KeepsRecord fuel where
  dispatch := of_dispatch
  offerAll := of_offerAll
  offer := of_offer
  block := of_block

end Machine.KeepsRecord

/-- `pump`, with the event that it dispatches as its value. -/
def pumpNoting (fuel : Nat) : Run (Option Event) := fun m =>
  match m.events.pop? with
  | none => .done none m
  | some (event, events) =>
    match dispatch fuel event { m with events } with
    | .done () m => .done (some event) m
    | .failed fault m => .failed fault m
    | .exhausted => .exhausted

section Pumping

variable {fuel : Nat} {m m' : Machine} {noted : Option Event}

theorem pump_eq_noting (fuel : Nat) : pump fuel = Option.isSome <$> pumpNoting fuel := by
  funext m
  simp only [pump, ← bind_pure_comp, bind, Run.bind, pumpNoting]
  cases m.events.pop? with
  | none => rfl
  | some popped =>
    dsimp only
    cases dispatch fuel popped.1 { m with events := popped.2 } <;> rfl

theorem pump_left (fuel : Nat) (m : Machine) : (pump fuel m).left? = (pumpNoting fuel m).left? := by
  rw [pump_eq_noting]
  simp only [← bind_pure_comp, bind, Run.bind]
  cases pumpNoting fuel m <;> rfl

theorem pumpNoting_appends (left : (pumpNoting fuel m).left? = some m') :
    Machine.Appends { m with events := { pending := m.events.pending.tail } } m' := by
  unfold pumpNoting EventQueue.pop? at left
  cases pending : m.events.pending with
  | nil =>
    simp only [pending] at left
    cases left
    exact .of_same rfl (by rw [List.tail_nil, ← pending])
  | cons event rest =>
    simp only [pending] at left
    -- The machine that is left is that of the dispatch, whether it succeeds or fails.
    have ended : (dispatch fuel event { m with events := { pending := rest } }).left? = some m' := by
      generalize dispatch fuel event { m with events := { pending := rest } } = outcome at left ⊢
      cases outcome <;> exact left
    exact .dispatch ended

theorem pumpNoting_done (ran : pumpNoting fuel m = .done noted m') : noted = m.events.pending.head? := by
  unfold pumpNoting EventQueue.pop? at ran
  cases pending : m.events.pending with
  | nil =>
    simp only [pending] at ran
    cases ran
    rfl
  | cons event rest =>
    simp only [pending] at ran
    split at ran
    · cases ran
      rfl
    · cases ran
    · cases ran

end Pumping

inductive Move where
  | post (event : Event)
  | pump

/-- The host at work, with a record of what was dispatched and of what was posted, by the host or by calls. -/
structure Session where
  machine : Machine
  dispatched : List Event := []
  posted : List Event := []

namespace Session

def move (fuel : Nat) (s : Session) : Move → Option Session
  | .post event => some { s with machine := s.machine.post event, posted := s.posted ++ [event] }
  | .pump => (pumpNoting fuel s.machine).result?.map fun (noted, machine) =>
    { machine, dispatched := s.dispatched ++ noted.toList,
      posted := s.posted ++ eventsAsked (machine.callsSince s.machine) }

def play (fuel : Nat) (s : Session) (moves : List Move) : Option Session :=
  moves.foldlM (move fuel) s

def Accounts (first : List Event) (s : Session) : Prop :=
  s.dispatched ++ s.machine.events.pending = first ++ s.posted

variable {fuel : Nat} {s s' : Session} {first : List Event}

theorem move_pump (moved : s.move fuel .pump = some s') :
    s'.dispatched = s.dispatched ++ s.machine.events.pending.head?.toList ∧
    s'.machine.events.pending =
      s.machine.events.pending.tail ++ eventsAsked (s'.machine.callsSince s.machine) ∧
    s'.posted = s.posted ++ eventsAsked (s'.machine.callsSince s.machine) := by
  obtain ⟨⟨noted, machine⟩, result, rfl⟩ := Option.map_eq_some_iff.mp moved
  have ran := Outcome.done_of_result result
  obtain rfl := pumpNoting_done ran
  exact ⟨rfl, (pumpNoting_appends (congrArg Outcome.left? ran)).pending, rfl⟩

theorem move_pump_empty (none : s.machine.events.pending = []) : s.move fuel .pump = some s := by
  have stays : pumpNoting fuel s.machine = .done Option.none s.machine := by
    simp only [pumpNoting, EventQueue.pop?, none]
  simp [Session.move, stays, Outcome.result?, Machine.callsSince, eventsAsked]

theorem Accounts.move (accounts : s.Accounts first) {action : Move} (moved : s.move fuel action = some s') :
    s'.Accounts first := by
  unfold Accounts at accounts ⊢
  cases action with
  | post event =>
    cases moved
    simp only [Machine.post, EventQueue.push, ← List.append_assoc, accounts]
  | pump =>
    obtain ⟨dispatched, pending, posted⟩ := move_pump moved
    rw [dispatched, pending, posted, ← List.append_assoc first, ← accounts]
    cases s.machine.events.pending <;> simp

theorem Accounts.play (accounts : s.Accounts first) {moves : List Move} (played : s.play fuel moves = some s') :
    s'.Accounts first := by
  induction moves generalizing s with
  | nil =>
    cases played
    exact accounts
  | cons action rest ih =>
    obtain ⟨next, moved, played⟩ := Option.bind_eq_some_iff.mp (by simpa [Session.play] using played)
    exact ih (accounts.move moved) played

theorem play_pumps {k : Nat} (played : s.play fuel (List.replicate k .pump) = some s') :
    s'.dispatched.length = s.dispatched.length + k ∨
      s'.machine.events.pending = [] ∧ s'.dispatched.length ≤ s.dispatched.length + k := by
  induction k generalizing s' with
  | zero =>
    cases played
    exact .inl rfl
  | succ k ih =>
    -- The last pump is split off, as the events of the pumps before it decide whether it finds one.
    rw [List.replicate_succ', Session.play, List.foldlM_append] at played
    obtain ⟨mid, before, last⟩ := Option.bind_eq_some_iff.mp played
    have moved : mid.move fuel .pump = some s' := by simpa using last
    have served := ih before
    cases waiting : mid.machine.events.pending with
    | nil =>
      rw [move_pump_empty waiting] at moved
      cases moved
      exact .inr ⟨waiting, by omega⟩
    | cons event rest =>
      obtain ⟨dispatched, -, -⟩ := move_pump moved
      simp only [waiting, reduceCtorEq, false_and, or_false] at served
      simp [dispatched, waiting, served, Nat.add_assoc]

theorem Accounts.pumps (accounts : s.Accounts first) {k : Nat}
    (played : s.play fuel (List.replicate k .pump) = some s') :
    s'.dispatched = (first ++ s'.posted).take (s.dispatched.length + k) := by
  have later := accounts.play played
  unfold Accounts at later
  rw [← later]
  rcases play_pumps played with all | ⟨none, enough⟩
  · rw [← all, List.take_left]
  · rw [none, List.append_nil, List.take_of_length_le enough]

end Session

section Calls

variable {fuel : Nat} {m : Machine} {name : String} {b : Builtin}

theorem callNamed_noted (builtin : m.builtin? name = some b) (replies : b.waits = false) (args : List Value) :
    callNamed fuel name args m = (Flow.normal <$> b.value args) (m.note (.builtin b args)) := by
  rw [callNamed, Inner.callNamed_builtin builtin, Builtin.call_of_value replies]
  simp only [← bind_pure_comp, bind_assoc, pure_bind]
  rfl

theorem callNamed_post {value : Value} {params : List Value} {kind : EventKind}
    (builtin : m.builtin? name = some .post) (known : Action.eventKind? value = some kind) :
    callNamed fuel name (value :: params) m =
      .done .zero ((m.note (.builtin .post (value :: params))).post { kind, params := params.take 4 }) := by
  rw [callNamed_noted builtin rfl]
  simp only [Builtin.value, Builtin.zeroAfter, Action.post, known]
  rfl

end Calls

/-- The queue after a pump is settled by the calls that were made in it: each `PostMes` with a known category appends its
event, and nothing else appends any. -/
theorem events_dispatched_in_posting_order (fuel : Nat) (m : Machine) :
    (∀ moves s, Session.play fuel { machine := m } moves = some s →
      s.dispatched ++ s.machine.events.pending = m.events.pending ++ s.posted ∧
      ∀ k s', s.play fuel (List.replicate k .pump) = some s' →
        s'.dispatched = (m.events.pending ++ s'.posted).take (s.dispatched.length + k)) ∧
    (pump fuel = Option.isSome <$> pumpNoting fuel ∧ ∀ m', (pump fuel m).left? = some m' →
      m'.calls = m'.callsSince m ++ m.calls ∧
      m'.events.pending = m.events.pending.tail ++ eventsAsked (m'.callsSince m) ∧
      ∀ event ∈ eventsAsked (m'.callsSince m), event.params.length ≤ 4) ∧
    m.KeepsRecord fuel ∧
    (∀ name b args, m.builtin? name = some b → b.waits = false →
      callNamed fuel name args m = (Flow.normal <$> b.value args) (m.note (.builtin b args))) ∧
    ∀ name value params kind, m.builtin? name = some .post → Action.eventKind? value = some kind →
      callNamed fuel name (value :: params) m =
        .done .zero ((m.note (.builtin .post (value :: params))).post { kind, params := params.take 4 }) := by
  refine ⟨?_, ⟨pump_eq_noting fuel, ?_⟩, .always fuel m, ?_, ?_⟩
  next =>
    intro moves s played
    have start : Session.Accounts m.events.pending { machine := m } := by simp [Session.Accounts]
    have accounts := start.play played
    exact ⟨accounts, fun k s' => accounts.pumps⟩
  next =>
    intro m' left
    have appends := pumpNoting_appends (pump_left fuel m ▸ left)
    exact ⟨appends.calls, appends.pending, fun event => few_params_of_asked⟩
  next => exact fun name b args builtin replies => callNamed_noted builtin replies args
  next => exact fun name value params kind => callNamed_post

def relayMachine : Machine where
  settings := { headless := true }
  main := []
  file := none
  functions := [("relay", { name := "relay", body := [
    .mk .call [.text "PostMes", .text "USER", .int 1, .int 2, .int 3, .int 4, .int 5] none] })]
  builtins := Builtin.standard
  handlers := { handlers := [{ id := 1, kind := .leftDown, body := [.mk .call [.text "relay"] none] }], nextId := 2 }
  events := { pending := [{ kind := .leftDown }, { kind := .rightDown }] }
  audio := .silent {}
  random := { state := 0 }

theorem relay_machine_keeps_order : ∃ s s' m',
    Session.play 4 { machine := relayMachine } [.pump, .post { kind := .time }] = some s ∧
    s.play 4 (List.replicate 5 .pump) = some s' ∧ (pump 4 relayMachine).left? = some m' ∧
    s'.dispatched.map (·.kind) = [.leftDown, .rightDown, .user, .time] ∧ s'.posted.map (·.params.length) = [4, 0] ∧
    s.dispatched ++ s.machine.events.pending = relayMachine.events.pending ++ s.posted ∧
    s'.dispatched = (relayMachine.events.pending ++ s'.posted).take (s.dispatched.length + 5) ∧
    m'.events.pending = relayMachine.events.pending.tail ++ eventsAsked (m'.callsSince relayMachine) ∧
    relayMachine.KeepsRecord 4 ∧
    callNamed 4 "PostMes" [.text "USER"] relayMachine =
      .done .zero ((relayMachine.note (.builtin .post [.text "USER"])).post { kind := .user }) ∧
    callNamed 4 "IntToStr" [.int 5] relayMachine =
      (Flow.normal <$> Builtin.value [.int 5] .intToStr) (relayMachine.note (.builtin .intToStr [.int 5])) := by
  have first : ((Session.play 4 { machine := relayMachine } [.pump, .post { kind := .time }]).bind fun s =>
      (s.play 4 (List.replicate 5 .pump)).map fun s' =>
        (s'.dispatched.map (·.kind), s'.posted.map (·.params.length))) =
      some ([.leftDown, .rightDown, .user, .time], [4, 0]) := by
    decide +kernel
  have pumped : (pump 4 relayMachine).left?.isSome = true := by decide +kernel
  obtain ⟨s, played, more⟩ := Option.bind_eq_some_iff.mp first
  obtain ⟨s', playedOn, shown⟩ := Option.map_eq_some_iff.mp more
  obtain ⟨m', left⟩ := Option.isSome_iff_exists.mp pumped
  obtain ⟨sessions, ⟨-, pumps⟩, keeps, notes, posts⟩ := events_dispatched_in_posting_order 4 relayMachine
  obtain ⟨kinds, counts⟩ := Prod.mk.inj shown
  obtain ⟨accounts, rows⟩ := sessions _ s played
  exact ⟨s, s', m', played, playedOn, left, kinds, counts, accounts, rows 5 s' playedOn, (pumps m' left).2.1,
    keeps, posts "PostMes" (.text "USER") [] .user rfl rfl, notes "IntToStr" .intToStr [.int 5] rfl rfl⟩

end CueScript
