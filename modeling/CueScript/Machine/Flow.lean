import CueScript.Machine.Run

set_option autoImplicit false

namespace CueScript

/-- Everything but `normal` leaves the blocks around it until something takes it: a loop the next two, a call a
`returned`, and the runner of handlers a `wait`, which counts events. -/
inductive Flow where
  | normal (value : Value)
  | breakLoop
  | continueLoop
  | returned (value : Value)
  | wait (events : Int64)
deriving DecidableEq

def Flow.zero : Flow :=
  .normal (.int 0)

/-- A product of positive numbers, at most the largest one there is. -/
def saturatingMul (a b : Int64) : Int64 :=
  let product := a.toInt * b.toInt
  if 0x8000000000000000 ≤ product then Int64.maxValue
  else if product < -0x8000000000000000 then Int64.minValue
  else Int64.ofInt product

def Machine.waitFlow (m : Machine) (units : Int64) : Flow :=
  if units ≤ 0 then .zero else .wait (saturatingMul units m.stepNow)

end CueScript
