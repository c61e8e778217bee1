import CueScript.Audio.Timer
import CueScript.Disk.Tree
import CueScript.Encoding.Basic

set_option autoImplicit false

namespace CueScript

inductive LogLevel where
  | off
  | error
  | warn
  | info
  | debug
  | trace
deriving DecidableEq, Repr

namespace LogLevel

def all : List LogLevel :=
  [.off, .error, .warn, .info, .debug, .trace]

def name : LogLevel → String
  | .off => "OFF"
  | .error => "ERROR"
  | .warn => "WARN"
  | .info => "INFO"
  | .debug => "DEBUG"
  | .trace => "TRACE"

def ofName? (name : String) : Option LogLevel :=
  all.find? (·.name == Text.upperAscii name)

def admits : LogLevel → Severity → Bool
  | .off, _ => false
  | .error, .warning => false
  | _, _ => true

end LogLevel

structure LogSettings where
  level : LogLevel := .info
  file : Option String := none
deriving DecidableEq, Repr

def deepestStack : Nat := 1000

structure Settings where
  headless : Bool := false
  /-- The time a run may take, in nanoseconds. -/
  timeout : Option Nat := none
  log : LogSettings := {}
  soundFont : Option String := none
  /-- The directory that names of files are relative to. -/
  baseDir : String := "."
  encoding : Encoding := .shiftJis
  /-- Ticks of the timer in a second. -/
  tickRate : UInt32 := 60
  stackLimit : Nat := deepestStack
deriving DecidableEq, Repr

def millisecond : Nat := second / 1000

def microsecond : Nat := millisecond / 1000

inductive SettingsFault where
  | noTicks
  | stackLimit (limit : Nat)
  | missingBaseDir (path : String)
deriving DecidableEq, Repr

def SettingsFault.message : SettingsFault → String
  | .noTicks => "tick rate must be positive"
  | .stackLimit limit => s!"max stack depth {limit} is outside 1..={deepestStack}"
  | .missingBaseDir path => s!"base directory {Text.quoted path} does not exist"

/-- The first thing that is wrong with some settings. A headless title may lack its directory. -/
def Settings.fault? (disk : Disk) (s : Settings) : Option SettingsFault :=
  if s.tickRate = 0 then some .noTicks
  else if s.stackLimit < 1 ∨ deepestStack < s.stackLimit then some (.stackLimit s.stackLimit)
  else if !s.headless && !disk.isDirectory s.baseDir then some (.missingBaseDir s.baseDir)
  else none

end CueScript
