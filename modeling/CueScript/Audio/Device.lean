import CueScript.Audio.Timer
import CueScript.Event

/-!
Audio devices as the machine sees them: what they are asked to do, and the events they report.

* `silent` does nothing and reports nothing.
* `standIn` plays nothing: a sequence ticks once and ends with the next update, a sound ends with the next update, and
  the timer ticks by the clock.
* `scripted` keeps a list of all calls and reports the events it was given, one list for each update.
-/

set_option autoImplicit false

namespace CueScript

structure Silent where
  timer : Bool := false
  muted : Bool := false

structure StandIn where
  timer : TickTimer
  midi : Option String := none
  wav : Option String := none
  muted : Bool := true

structure Scripted where
  timer : Bool := false
  muted : Bool := false
  calls : List String := []
  updates : List (List EventKind) := []
  failMidi : Bool := false
  failWav : Bool := false

inductive Audio where
  | silent (device : Silent)
  | standIn (device : StandIn)
  | scripted (device : Scripted)

structure Played where
  audio : Audio
  warning : Option String := none
  failure : Option String := none

structure Update where
  events : List EventKind := []
  audio : Audio
  stop : Bool := false

def Scripted.note (d : Scripted) (call : String) : Scripted :=
  { d with calls := d.calls ++ [call] }

namespace Audio

def playMidi (path : String) : Audio → Played
  | .silent d => { audio := .silent d }
  | .standIn d =>
    { audio := .standIn { d with midi := some path },
      warning := some s!"MIDI synthesis is unavailable; {path} ends immediately" }
  | .scripted d =>
    { audio := .scripted (d.note s!"midi {path}"), failure := if d.failMidi then some "no midi" else none }

def playWav (path : String) : Audio → Played
  | .silent d => { audio := .silent d }
  | .standIn d => { audio := .standIn { d with wav := some path } }
  | .scripted d =>
    { audio := .scripted (d.note s!"wav {path}"), failure := if d.failWav then some "no wav" else none }

def stopMidi : Audio → Audio
  | .silent d => .silent d
  | .standIn d => .standIn { d with midi := none }
  | .scripted d => .scripted (d.note "stop_midi")

def stopWav : Audio → Audio
  | .silent d => .silent d
  | .standIn d => .standIn { d with wav := none }
  | .scripted d => .scripted (d.note "stop_wav")

def mute (muted : Bool) : Audio → Audio
  | .silent d => .silent { d with muted }
  | .standIn d => .standIn { d with muted }
  | .scripted d => .scripted { d.note s!"mute {muted}" with muted }

def startTimer (now : Nat) : Audio → Audio
  | .silent d => .silent { d with timer := true }
  | .standIn d => .standIn { d with timer := d.timer.start now }
  | .scripted d => .scripted { d.note "start_timer" with timer := true }

def stopTimer : Audio → Audio
  | .silent d => .silent { d with timer := false }
  | .standIn d => .standIn { d with timer := d.timer.stop }
  | .scripted d => .scripted { d.note "stop_timer" with timer := false }

def timerRunning : Audio → Bool
  | .silent d => d.timer
  | .standIn d => d.timer.isRunning
  | .scripted d => d.timer

def isMuted : Audio → Bool
  | .silent d => d.muted
  | .standIn d => d.muted
  | .scripted d => d.muted

def shutdown : Audio → Audio
  | .silent d => .silent { d with timer := false }
  | .standIn d => .standIn { d with timer := d.timer.stop, midi := none, wav := none }
  | .scripted d => .scripted (d.note "shutdown")

def update (now : Nat) : Audio → Update
  | .silent d => { audio := .silent d }
  | .standIn d =>
    let midi := if d.midi.isSome then [EventKind.midiTime, .midiEnd] else []
    let wav := if d.wav.isSome then [EventKind.wavEnd] else []
    let (ticks, timer) := d.timer.due now
    { events := midi ++ wav ++ List.replicate ticks .time,
      audio := .standIn { d with timer, midi := none, wav := none } }
  | .scripted d =>
    match d.updates with
    | [] => { audio := .scripted (d.note "exhausted"), stop := true }
    | events :: updates => { events, audio := .scripted { d with updates } }

def calls : Audio → List String
  | .scripted d => d.calls
  | _ => []

def forgetCalls : Audio → Audio
  | .scripted d => .scripted { d with calls := [] }
  | other => other

end Audio

end CueScript
