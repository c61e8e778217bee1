import CueScript.Machine.Interpreter

set_option autoImplicit false

namespace CueScript

def Machine.isRetired (m : Machine) : Bool :=
  (m.running?.map (·.retired)).getD false

/-- Executes the instructions of a block from number `pc` on until one waits or returns, or there are no more. A request
to stop suspends the block as it is, and retiring the running handler completes it. -/
def runFrom (fuel : Nat) (pc : Nat) : Block → Run RunOutcome
  | [] => pure .completed
  | inst :: rest => fun m =>
    match m.checkStop with
    | (true, m) => .done (.suspended pc 0) m
    | (false, m) =>
      match exec fuel inst m with
      | .done (.wait events) m => .done (.suspended (pc + 1) events) m
      | .done (.returned _) m => .done .completed m
      | .done _ m => if m.isRetired then .done .completed m else runFrom fuel (pc + 1) rest m
      | .failed fault m =>
        if fault.isFatal then .failed fault m
        else
          let m := m.report .error fault.display
          if m.isRetired then .done .completed m else runFrom fuel (pc + 1) rest m
      | .exhausted => .exhausted

def runBody (fuel : Nat) (body : Block) (pc : Nat) : Run RunOutcome :=
  runFrom fuel pc (body.drop pc)

/-- Makes the rest of the program a handler that ticks bring back once. -/
def Machine.park (m : Machine) (pc : Nat) (wait : Int64) : Machine :=
  let (id, m) := m.registerHandler .time m.main
  { m with handlers := m.handlers.modify id fun h => { h with pc, wait, oneShot := true, step := m.step } }

def runProgram (fuel : Nat) : Run Unit := do
  let main ← Run.read (·.main)
  match ← runBody fuel main 0 with
  | .suspended pc wait => Run.modify fun m => if m.stopped then m else m.park pc wait
  | .completed => pure ()

def paramNames : List String :=
  ["MesP1", "MesP2", "MesP3", "MesP4"]

def Machine.publish (m : Machine) (params : List Value) : Machine :=
  paramNames.zipIdx.foldl (fun m (name, i) => m.setGlobal name (params[i]?.getD (.int 0))) m

def Machine.enterHandler (m : Machine) (id : HandlerId) : Machine :=
  { m with current := some id }

def Machine.leaveHandler (m : Machine) : Machine :=
  { m with current := none }

def offer (fuel : Nat) (id : HandlerId) : Run Unit := do
  match ← Run.read (·.handlers.get? id) with
  | none => pure ()
  | some h =>
    Run.modify fun m => { m with handlers := m.handlers.modify id fun h => h.poll.2 }
    match h.poll.1 with
    | .skip | .waiting _ => pure ()
    | .run pc =>
      Run.modify (·.enterHandler id)
      let outcome ← Run.afterwards (runBody fuel h.body pc) Machine.leaveHandler
      Run.modify fun m => { m with handlers := m.handlers.modify id (·.finish outcome) }

def offerAll (fuel : Nat) : List HandlerId → Run Unit
  | [] => pure ()
  | id :: rest => fun m =>
    match m.checkStop with
    | (true, m) => .done () m
    | (false, m) =>
      match offer fuel id m with
      | .done () m => offerAll fuel rest m
      | .failed fault m => .failed fault m
      | .exhausted => .exhausted

def Machine.sweep (m : Machine) : Machine :=
  { m with handlers := m.handlers.sweep }

/-- Offers an event to every handler of its category that is there, in the order they were registered, and then removes
the retired ones. -/
def dispatch (fuel : Nat) (event : Event) : Run Unit := do
  Run.modify (·.publish event.params)
  let ids ← Run.read (·.handlers.idsFor event.kind)
  offerAll fuel ids
  Run.modify Machine.sweep

def pump (fuel : Nat) : Run Bool := fun m =>
  match m.events.pop? with
  | none => .done false m
  | some (event, events) =>
    match dispatch fuel event { m with events } with
    | .done () m => .done true m
    | .failed fault m => .failed fault m
    | .exhausted => .exhausted

def Machine.updateAudio (m : Machine) : List EventKind × Machine :=
  let update := m.audio.update m.now
  let m := { m with audio := update.audio, stopped := m.stopped || update.stop }
  (update.events, update.events.foldl (fun m kind => m.post { kind }) m)

inductive Turn where
  | finished
  | busy
  | idle
deriving DecidableEq, Repr

/-- One turn of the event loop. The loop is over when no handler is left or the run is to end. -/
def turn (fuel : Nat) : Run Turn := fun m =>
  match m.checkStop with
  | (true, m) => .done .finished m
  | (false, m) =>
    if m.handlers.isEmpty then .done .finished m
    else
      match pump fuel m.updateAudio.2 with
      | .done true m => .done .busy m
      | .done false m => .done .idle m
      | .failed fault m => .failed fault m
      | .exhausted => .exhausted

def idleTime : Nat := millisecond

def eventLoop (fuel : Nat) : Nat → Run Unit
  | 0 => Run.exhausted
  | turns + 1 => fun m =>
    match turn fuel m with
    | .done .finished m => .done () m
    | .done .busy m => eventLoop fuel turns m
    | .done .idle m => eventLoop fuel turns { m with now := m.now + idleTime }
    | .failed fault m => .failed fault m
    | .exhausted => .exhausted

def Machine.shutdown (m : Machine) : Machine :=
  { m with files := m.files.closeAll, audio := m.audio.stopTimer.shutdown, events := {} }

def Machine.startClock (m : Machine) : Machine :=
  { m with deadline := m.settings.timeout.map (m.now + ·) }

def run (fuel : Nat) : Run Unit := do
  Run.modify Machine.startClock
  Run.afterwards (do runProgram fuel; eventLoop fuel fuel) Machine.shutdown

end CueScript
