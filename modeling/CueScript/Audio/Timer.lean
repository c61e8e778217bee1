set_option autoImplicit false

namespace CueScript

def second : Nat := 1000000000

structure TickTimer where
  rate : Nat
  started : Option Nat := none
  emitted : Nat := 0

namespace TickTimer

/-- The most ticks reported at once: after a stall the timer skips ahead. -/
def maxBurst : Nat := 8

def ofRate (rate : UInt32) : TickTimer :=
  { rate := max rate.toNat 1 }

def period (t : TickTimer) : Nat :=
  second / t.rate

def isRunning (t : TickTimer) : Bool :=
  t.started.isSome

/-- A timer that runs keeps its phase. -/
def start (t : TickTimer) (now : Nat) : TickTimer :=
  if t.isRunning then t else { t with started := some now, emitted := 0 }

def stop (t : TickTimer) : TickTimer :=
  { t with started := none, emitted := 0 }

def total (t : TickTimer) (start now : Nat) : Nat :=
  (now - start) * t.rate / second % UInt64.size

/-- The ticks due now; those beyond a burst are dropped. -/
def due (t : TickTimer) (now : Nat) : Nat × TickTimer :=
  match t.started with
  | none => (0, t)
  | some start =>
    let total := t.total start now
    (min (total - t.emitted) maxBurst, { t with emitted := total })

end TickTimer

end CueScript
