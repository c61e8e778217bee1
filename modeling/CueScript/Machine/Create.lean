import CueScript.Builtin.Names
import CueScript.Machine.State

set_option autoImplicit false

namespace CueScript

/-- Headless titles are muted from the start. What arrays may grow to and how numbers are drawn is up to the host. -/
def Machine.create (program : Program) (settings : Settings) (audio : Audio) (disk : Disk) (seed : UInt64)
    (grants : Allocator := Allocator.standard) (draw : UInt64 → List Nat → Nat := Generator.mixed) :
    Except SettingsFault Machine :=
  match settings.fault? disk with
  | some fault => .error fault
  | none =>
    let (warnings, functions) := program.collectFunctions
    .ok
      { settings, functions, main := program.instructions, file := program.file, builtins := Builtin.standard,
        audio := if settings.headless then audio.mute true else audio,
        files := { disk }, random := { state := seed, draw }, grants,
        log := (warnings.map fun text => { severity := .warning, text }).toArray }

end CueScript
