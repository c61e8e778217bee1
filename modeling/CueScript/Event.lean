import CueScript.Text.Blank
import CueScript.Text.Lower
import CueScript.Value.Basic

set_option autoImplicit false

namespace CueScript

inductive EventKind where
  | time
  | midiTime
  | midiEnd
  | wavEnd
  | leftDown
  | rightDown
  | rightDoubleClick
  | user
deriving DecidableEq, Repr

namespace EventKind

def all : List EventKind :=
  [.time, .midiTime, .midiEnd, .wavEnd, .leftDown, .rightDown, .rightDoubleClick, .user]

def name : EventKind → String
  | .time => "TIME"
  | .midiTime => "MIDI_TIME"
  | .midiEnd => "MIDI_END"
  | .wavEnd => "WAV_END"
  | .leftDown => "LBDOWN"
  | .rightDown => "RBDOWN"
  | .rightDoubleClick => "RBDBLCLK"
  | .user => "USER"

def code : EventKind → Int64
  | .time => 0
  | .midiTime => 1
  | .midiEnd => 2
  | .wavEnd => 3
  | .leftDown => 4
  | .rightDown => 5
  | .rightDoubleClick => 6
  | .user => 7

def ofCode? (code : Int64) : Option EventKind :=
  all.find? (·.code == code)

/-- The category of a name in any case, with blanks around it or not; two categories have a second name. -/
def ofName? (name : String) : Option EventKind :=
  let wanted := Text.upperAscii (String.ofList (Text.trim name.toList))
  if wanted = "CLICK" then some .leftDown
  else if wanted = "USER_MES" then some .user
  else all.find? (·.name == wanted)

def unknown (name : String) : String :=
  s!"unknown event category `{name}`"

end EventKind

structure Event where
  kind : EventKind
  params : List Value := []

/-- Pending events, the oldest first. -/
structure EventQueue where
  pending : List Event := []

namespace EventQueue

def push (q : EventQueue) (event : Event) : EventQueue :=
  { pending := q.pending ++ [event] }

def pop? (q : EventQueue) : Option (Event × EventQueue) :=
  match q.pending with
  | [] => none
  | event :: rest => some (event, { pending := rest })

def size (q : EventQueue) : Nat :=
  q.pending.length

def isEmpty (q : EventQueue) : Bool :=
  q.pending.isEmpty

end EventQueue

end CueScript
