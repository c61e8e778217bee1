import CueScript.Event
import CueScript.Program.Instruction

set_option autoImplicit false

namespace CueScript

/-- Handlers are numbered from 1 on as they are registered. The numbers stand for unsigned ones of 32 bits, so they are
right as long as fewer than 2^32 - 1 handlers have been registered. -/
abbrev HandlerId := Nat

inductive Poll where
  | skip
  | waiting (remaining : Int64)
  | run (pc : Nat)
deriving DecidableEq, Repr

/-- How a run of a block ended: suspended before the instruction `pc` for `wait` events, or at its end. -/
inductive RunOutcome where
  | suspended (pc : Nat) (wait : Int64)
  | completed
deriving DecidableEq, Repr

/-- A one-shot handler is one that sets its step; it goes away after its first complete run. -/
structure Handler where
  id : HandlerId
  kind : EventKind
  body : Block
  active : Bool := true
  pc : Nat := 0
  wait : Int64 := 0
  step : Int64 := 1
  oneShot : Bool := setsStep body
  retired : Bool := false

def clampStep (perUnit : Int64) : Int64 :=
  if 0 < perUnit then perUnit else 1

namespace Handler

def isWaiting (h : Handler) : Bool :=
  0 < h.wait

/-- Offers an event to the handler. An event that it waits for is used up. -/
def poll (h : Handler) : Poll × Handler :=
  if !h.active || h.retired then (.skip, h)
  else if 0 < h.wait then (.waiting (h.wait - 1), { h with wait := h.wait - 1 })
  else (.run h.pc, h)

def retire (h : Handler) : Handler :=
  { h with active := false, retired := true }

def finish (h : Handler) : RunOutcome → Handler
  | .suspended pc wait => { h with pc, wait := max wait 0 }
  | .completed => if h.oneShot then h.retire else { h with pc := 0, wait := 0 }

def freeze (h : Handler) : Handler :=
  { h with active := false }

def activate (h : Handler) : Handler :=
  if h.retired then h else { h with active := true }

def setStep (h : Handler) (perUnit : Int64) : Handler :=
  { h with step := clampStep perUnit }

end Handler

end CueScript
