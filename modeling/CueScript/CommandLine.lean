import CueScript.Decimal.Reader
import CueScript.Settings.Json

/-!
The command line: the file of a program, and options that overrule the settings.

An option that takes a value takes it after an equals sign, or from the next argument unless that starts with a minus
sign. A value is looked at when the next argument has been recognized, so an argument that is not recognized goes before
a value that is wrong.
-/

set_option autoImplicit false

namespace CueScript

namespace CommandLine

inductive Slot where
  | program
  | timeout
  | logLevel
  | logFile
  | soundFont
  | baseDir
  | encoding
  | config
deriving DecidableEq, Repr

def Slot.ofOption? (name : String) : Option Slot :=
  [("timeout", Slot.timeout), ("log-level", .logLevel), ("log-file", .logFile), ("sound-font", .soundFont),
   ("base-dir", .baseDir), ("encoding", .encoding), ("config", .config)].lookup name

inductive Switch where
  | headless
  | help
  | version
deriving DecidableEq, Repr

def Switch.ofOption? (name : String) : Option Switch :=
  [("headless", Switch.headless), ("help", .help), ("version", .version)].lookup name

def Switch.ofLetter? (letter : Char) : Option Switch :=
  [('h', Switch.help), ('V', .version)].lookup letter

inductive Refusal where
  | help
  | version
  | noValue
  | badValue
  | repeated
  | surplusValue
  | unknown
  | noProgram
deriving DecidableEq, Repr

def Refusal.exitCode : Refusal → Nat
  | .help | .version => 0
  | _ => 2

structure Arguments where
  program : Option String := none
  headless : Bool := false
  timeout : Option Nat := none
  logLevel : Option LogLevel := none
  logFile : Option String := none
  soundFont : Option String := none
  baseDir : Option String := none
  encoding : Option Encoding := none
  config : Option String := none
deriving DecidableEq, Repr

/-- A number of 64 bits, a plus sign before it allowed. -/
def number? (text : String) : Option Nat :=
  let digits := match text.toList with
    | '+' :: rest => rest
    | all => all
  if digits.isEmpty || !digits.all Decimal.isDigit || UInt64.size ≤ Decimal.numeral digits then none
  else some (Decimal.numeral digits)

def path (text : String) : Except Refusal String :=
  if text.isEmpty then .error .noValue else .ok text

def known {α : Type} : Option α → Except Refusal α
  | some a => .ok a
  | none => .error .badValue

def fillWith {α : Type} (slot : Option α) (read : Except Refusal α) : Except Refusal (Option α) :=
  if slot.isSome then .error .repeated else read.map some

def Arguments.fill (a : Arguments) (slot : Slot) (text : String) : Except Refusal Arguments :=
  match slot with
  | .program => (fillWith a.program (path text)).map fun program => { a with program }
  | .timeout => (fillWith a.timeout (known (number? text))).map fun timeout => { a with timeout }
  | .logLevel => (fillWith a.logLevel (known (LogLevel.ofName? text))).map fun logLevel => { a with logLevel }
  | .logFile => (fillWith a.logFile (path text)).map fun logFile => { a with logFile }
  | .soundFont => (fillWith a.soundFont (path text)).map fun soundFont => { a with soundFont }
  | .baseDir => (fillWith a.baseDir (path text)).map fun baseDir => { a with baseDir }
  | .encoding => (fillWith a.encoding (known (Encoding.parse? text))).map fun encoding => { a with encoding }
  | .config => (fillWith a.config (path text)).map fun config => { a with config }

/-- The arguments taken so far, and a slot whose value is not looked at yet or still to come. -/
structure Progress where
  arguments : Arguments := {}
  pending : Option (Slot × Option String) := none
  hasProgram : Bool := false

namespace Progress

def settle (p : Progress) : Except Refusal Progress :=
  match p.pending with
  | none => .ok p
  | some (_, none) => .error .noValue
  | some (slot, some text) =>
    (p.arguments.fill slot text).map fun arguments => { p with arguments, pending := none }

def switch (p : Progress) (s : Switch) : Except Refusal Progress := do
  let p ← p.settle
  match s with
  | .help => .error .help
  | .version => .error .version
  | .headless =>
    if p.arguments.headless then .error .repeated
    else .ok { p with arguments := { p.arguments with headless := true } }

def option (p : Progress) (name : String) (value : Option String) : Except Refusal Progress :=
  match Switch.ofOption? name, Slot.ofOption? name, value with
  | some s, _, none => p.switch s
  | some _, _, some _ => .error .surplusValue
  | none, some slot, none => p.settle.map fun p => { p with pending := some (slot, none) }
  | none, some slot, some text => do
    let p ← p.settle
    (p.arguments.fill slot text).map fun arguments => { p with arguments }
  | none, none, _ => .error .unknown

def word (p : Progress) (text : String) : Except Refusal Progress :=
  if p.hasProgram then .error .unknown
  else p.settle.map fun p => { p with pending := some (.program, some text), hasProgram := true }

def plain (p : Progress) (text : String) : Except Refusal Progress :=
  match p.pending with
  | some (slot, none) => .ok { p with pending := some (slot, some text) }
  | _ => p.word text

def long (p : Progress) (text : List Char) : Except Refusal Progress :=
  let name := String.ofList (text.takeWhile (· != '='))
  match text.dropWhile (· != '=') with
  | [] => p.option name none
  | _ :: value => p.option name (some (String.ofList value))

/-- Letters after one minus sign. Every letter that is known ends the run. -/
def letters (p : Progress) (letter : Char) : Except Refusal Progress :=
  match Switch.ofLetter? letter with
  | some s => p.switch s
  | none => .error .unknown

/-- Takes the arguments one by one; after two minus signs none of them is an option. -/
def take (p : Progress) : List String → Except Refusal Progress
  | [] => p.settle
  | arg :: rest =>
    match arg.toList with
    | ['-', '-'] => (rest.foldlM word p).bind settle
    | '-' :: '-' :: text => (p.long text).bind fun p => p.take rest
    | '-' :: letter :: _ => (p.letters letter).bind fun p => p.take rest
    | _ => (p.plain arg).bind fun p => p.take rest

end Progress

def parse (args : List String) : Except Refusal (String × Arguments) := do
  let p ← Progress.take {} args
  match p.arguments.program with
  | some program => .ok (program, p.arguments)
  | none => .error .noProgram

def directoryOf (program : String) : String :=
  match Path.parent? program with
  | some dir => if dir.isEmpty then "." else dir
  | none => "."

/-- The settings of a file, if one is given, with the options put over them. Without such a file, names are relative to
the directory of the program. -/
def settings (disk : Disk) (program : String) (a : Arguments) : Except LoadFault Settings := do
  let s ← match a.config with
    | some path => Settings.load disk path
    | none => .ok { baseDir := directoryOf program }
  pure
    { s with
      headless := s.headless || a.headless
      timeout := (a.timeout.map (· * millisecond)).or s.timeout
      log := { level := a.logLevel.getD s.log.level, file := a.logFile.or s.log.file }
      soundFont := a.soundFont.or s.soundFont
      baseDir := a.baseDir.getD s.baseDir
      encoding := a.encoding.getD s.encoding }

end CommandLine

end CueScript
