import CueScript.Audio.Device
import CueScript.Disk.FileTable
import CueScript.Handler.Registry
import CueScript.Program.Function
import CueScript.Scope.Bindings
import CueScript.Settings.Basic
import CueScript.Value.Store

set_option autoImplicit false

namespace CueScript

inductive HostReply where
  | value (v : Value)
  | wait (units : Int64)
  | fail (kind : FaultKind) (message : String)
  | argumentCount

/-- The functions that scripts find without defining them. `scenery` accepts any arguments and does nothing: nothing is
drawn. -/
inductive Builtin where
  | strLen | subStr | strFind | strUp | strLow | strPrint | intToStr | strToInt | charCode | strCode
  | random | abs | max | min | makeLong | loWord | hiWord
  | arraySize | delArrayAll | delArrayAt | insArrayAt
  | openFile | closeFile | readNumber | writeNumber | seek | readLine | writeText | isExist
  | playMidi | playWave | stopMidi | stopWave | muteMidi
  | retireMe | retireKind | retireAll | freeze | activate | post | wait | exitTitle
  | scenery
  | host (reply : HostReply)

/-- What the machine notes of calls: the builtins that have a value with their arguments, and the beginnings and ends of
functions. Nothing that runs looks at it. -/
inductive CallRecord where
  | builtin (b : Builtin) (args : List Value)
  | entered (function : String)
  | left

namespace Generator

/-- Numbers that are good enough for a title: as many odd steps from the seed as there are limits, and then mixed. -/
def mixed (seed : UInt64) (asked : List Nat) : Nat :=
  let state := seed + 0x9E3779B97F4A7C15 * UInt64.ofNat asked.length
  let a := (state ^^^ (state >>> 30)) * 0xBF58476D1CE4E5B9
  let b := (a ^^^ (a >>> 27)) * 0x94D049BB133111EB
  (b ^^^ (b >>> 31)).toNat

end Generator

/-- A random sequence from a seed. Each number follows from the seed and the limits asked for so far, the latest first. -/
structure Generator where
  state : UInt64
  asked : List Nat := []
  draw : UInt64 → List Nat → Nat := Generator.mixed

structure Machine where
  settings : Settings
  main : Block
  file : Option String
  functions : FunctionTable
  builtins : List (String × Builtin)
  globals : Bindings := {}
  /-- The variables of the functions being called, the innermost first. -/
  frames : List Bindings := []
  store : Store := {}
  handlers : Registry := {}
  events : EventQueue := {}
  files : Files := {}
  audio : Audio
  current : Option HandlerId := none
  /-- Events for each unit of waiting outside of handlers. -/
  step : Int64 := 1
  /-- The wait that an expression asked for, until its statement is done. -/
  pendingWait : Option Int64 := none
  stopped : Bool := false
  deadline : Option Nat := none
  /-- The time in nanoseconds. -/
  now : Nat := 0
  random : Generator
  grants : Allocator := Allocator.standard
  log : Array LogRecord := #[]
  /-- The calls so far, the latest first. -/
  calls : List CallRecord := []

def Generator.below (g : Generator) (limit : Nat) : Nat × Generator :=
  let asked := limit :: g.asked
  (g.draw g.state asked % limit, { g with asked })

namespace Machine

def report (m : Machine) (severity : Severity) (text : String) : Machine :=
  { m with log := m.log.push { severity, text } }

def warn (m : Machine) (text : String) : Machine :=
  m.report .warning text

def forgetLog (m : Machine) : Machine :=
  { m with log := #[], calls := [] }

def note (m : Machine) (call : CallRecord) : Machine :=
  { m with calls := call :: m.calls }

/-- The scopes that names are looked up in: the innermost call, if there is one, then the globals. -/
def scopes (m : Machine) : List Bindings :=
  m.frames.head?.toList ++ [m.globals]

def lookup (m : Machine) (name : String) : Option Value :=
  lookupNearest m.scopes name

def declare (m : Machine) (name : String) (value : Value) : Machine :=
  match m.frames with
  | [] => { m with globals := m.globals.set name value }
  | frame :: rest => { m with frames := frame.set name value :: rest }

def assign (m : Machine) (name : String) (value : Value) : Machine :=
  match m.frames with
  | [] => m.declare name value
  | frame :: _ =>
    if frame.contains name || !m.globals.contains name then m.declare name value
    else { m with globals := m.globals.set name value }

def global? (m : Machine) (name : String) : Option Value :=
  m.globals.get? name

def setGlobal (m : Machine) (name : String) (value : Value) : Machine :=
  { m with globals := m.globals.set name value }

def running? (m : Machine) : Option Handler :=
  m.current.bind m.handlers.get?

def stepNow (m : Machine) : Int64 :=
  (m.running?.map (·.step)).getD m.step

def setStep (m : Machine) (perUnit : Int64) : Machine :=
  match m.running? with
  | some h => { m with handlers := m.handlers.modify h.id (·.setStep perUnit) }
  | none => { m with step := clampStep perUnit }

def builtin? (m : Machine) (name : String) : Option Builtin :=
  m.builtins.lookup (Text.lower name)

def addBuiltin (m : Machine) (name : String) (builtin : Builtin) : Machine :=
  let rest := m.builtins.filter (·.1 != Text.lower name)
  { m with builtins := (Text.lower name, builtin) :: rest }

def resolve (m : Machine) (name : String) : String :=
  m.files.disk.resolve m.settings.baseDir name

def registerHandler (m : Machine) (kind : EventKind) (body : Block) : HandlerId × Machine :=
  let (id, handlers) := m.handlers.register kind body
  let audio := if kind = .time ∧ !m.audio.timerRunning then m.audio.startTimer m.now else m.audio
  (id, { m with handlers, audio })

def post (m : Machine) (event : Event) : Machine :=
  { m with events := m.events.push event }

def checkStop (m : Machine) : Bool × Machine :=
  if m.stopped then (true, m)
  else match m.deadline with
    | some deadline => if deadline ≤ m.now then (true, { m with stopped := true }) else (false, m)
    | none => (false, m)

end Machine

end CueScript
