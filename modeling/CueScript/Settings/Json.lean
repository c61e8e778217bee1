import CueScript.Json.Record
import CueScript.Settings.Basic

set_option autoImplicit false

namespace CueScript

namespace Json

def bool? : Json → Option Bool
  | .bool value => some value
  | _ => none

end Json

def LogSettings.ofJson? (tree : Json) : Option LogSettings :=
  match tree.record? ["level_filter", "log_file"] with
  | some [some level, file] => do
    let level ← (level.tag? Json.depthLimit).bind LogLevel.ofName?
    let file ← Json.orDefault none (Json.optional? Json.string?) file
    pure { level, file }
  | _ => none

def LogSettings.toJson (s : LogSettings) : Json :=
  .object [(Json.key "level_filter", Json.ofText s.level.name), (Json.key "log_file", Json.ofOption Json.ofText s.file)]

def Encoding.ofName? (name : String) : Option Encoding :=
  Encoding.all.find? (·.name == name)

namespace Settings

def fields : List String :=
  ["headless", "timeout", "logger", "sound_font", "base_dir", "encoding", "tick_rate", "max_stack_depth"]

def ofJson? (tree : Json) : Option Settings :=
  let standard : Settings := {}
  match tree.record? fields with
  | some [headless, timeout, log, soundFont, baseDir, encoding, tickRate, stackLimit] => do
    let headless ← Json.orDefault standard.headless Json.bool? headless
    let timeout ← Json.orDefault none (Json.optional? (Json.nat? UInt64.size)) timeout
    let log ← Json.orDefault standard.log LogSettings.ofJson? log
    let soundFont ← Json.orDefault standard.soundFont (Json.optional? Json.string?) soundFont
    let baseDir ← Json.orDefault standard.baseDir Json.string? baseDir
    let encoding ← Json.orDefault standard.encoding
      (fun tree => (tree.tag? Json.depthLimit).bind Encoding.ofName?) encoding
    let tickRate ← Json.orDefault standard.tickRate (fun tree => (tree.nat? UInt32.size).map UInt32.ofNat) tickRate
    let stackLimit ← Json.orDefault standard.stackLimit (Json.nat? UInt64.size) stackLimit
    pure
      { headless, timeout := timeout.map (· * millisecond), log, soundFont, baseDir, encoding, tickRate, stackLimit }
  | _ => none

def toJson (s : Settings) : Json :=
  .object
    [(Json.key "headless", .bool s.headless),
     (Json.key "timeout", Json.ofOption (fun t => Json.ofNat (t / millisecond)) s.timeout),
     (Json.key "logger", s.log.toJson),
     (Json.key "sound_font", Json.ofOption Json.ofText s.soundFont),
     (Json.key "base_dir", Json.ofText s.baseDir),
     (Json.key "encoding", Json.ofText s.encoding.name),
     (Json.key "tick_rate", Json.ofNat s.tickRate.toNat),
     (Json.key "max_stack_depth", Json.ofNat s.stackLimit)]

def read? (bytes : Bytes) : Option Settings :=
  (Json.read? bytes).bind ofJson?

def render (s : Settings) : Bytes :=
  s.toJson.pretty 0

end Settings

inductive LoadFault where
  | unreadable (error : OsError)
  | malformed
deriving DecidableEq, Repr

def LoadFault.message : LoadFault → String
  | .unreadable error => s!"failed to read config file: {error.message}"
  | .malformed => "failed to parse config file"

def Settings.load (disk : Disk) (path : String) : Except LoadFault Settings :=
  match disk.readFile path with
  | .error error => .error (.unreadable error)
  | .ok bytes => match Settings.read? bytes with
    | some settings => .ok settings
    | none => .error .malformed

end CueScript
