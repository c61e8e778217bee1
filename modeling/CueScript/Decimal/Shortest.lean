import CueScript.Decimal.Binary

set_option autoImplicit false

namespace CueScript.Decimal

structure Scaled where
  digits : Nat
  scale : Int

/-- The reals that read back as `mantissa · 2 ^ exponent`, in quarters of `2 ^ exponent`: the ends belong to
the interval iff the mantissa is even. -/
structure Interval where
  low : Nat
  middle : Nat
  high : Nat
  closed : Bool
  exponent : Int

def Interval.around (value : Binary) : Interval :=
  let middle := 4 * value.mantissa
  let narrow := value.mantissa = 0x10000000000000 ∧ -1074 < value.exponent
  { low := middle - (if narrow then 1 else 2), middle, high := middle + 2,
    closed := value.mantissa % 2 == 0, exponent := value.exponent }

def common (a : Nat) (scale : Int) (b : Nat) (exponent : Int) : Nat × Nat :=
  (a * Nat.pow 10 scale.toNat * Nat.pow 2 (-exponent).toNat, b * Nat.pow 2 exponent.toNat * Nat.pow 10 (-scale).toNat)

def Interval.contains (i : Interval) (candidate : Scaled) : Bool :=
  let (a, low) := common (4 * candidate.digits) candidate.scale i.low i.exponent
  let (b, high) := common (4 * candidate.digits) candidate.scale i.high i.exponent
  if i.closed then low ≤ a && b ≤ high else low < a && b < high

def Interval.below (i : Interval) (scale : Int) : Nat :=
  (i.middle * Nat.pow 2 i.exponent.toNat * Nat.pow 10 (-scale).toNat) /
    (4 * Nat.pow 2 (-i.exponent).toNat * Nat.pow 10 scale.toNat)

def Interval.leansUp (i : Interval) (scale : Int) (point : Nat) : Bool :=
  let (a, b) := common (4 * (2 * point + 1)) scale (2 * i.middle) i.exponent
  a ≤ b

/-- The neighbour of the middle on the grid that reads back, the nearer one if both do. -/
def Interval.onGrid (i : Interval) (scale : Int) : Option Scaled :=
  let down : Scaled := ⟨i.below scale, scale⟩
  let up : Scaled := ⟨i.below scale + 1, scale⟩
  match i.contains down, i.contains up with
  | true, true => some (if i.leansUp scale down.digits then up else down)
  | true, false => some down
  | false, true => some up
  | false, false => none

def Interval.decade (i : Interval) : Int :=
  let guess := ((i.middle / 4).log2 + i.exponent) * 1233 / 4096
  let reached (k : Int) : Bool :=
    let (a, b) := common 4 k i.middle i.exponent
    a ≤ b
  if reached (guess + 1) then guess + 1 else if reached guess then guess else guess - 1

def Interval.search (i : Interval) (scale : Int) : Nat → Scaled
  | 0 => ⟨i.below scale, scale⟩
  | more + 1 =>
    match i.onGrid scale with
    | some hit => hit
    | none => i.search (scale - 1) more

def Scaled.strip (digits : Nat) (scale : Int) : Nat → Scaled
  | 0 => ⟨digits, scale⟩
  | more + 1 => if digits ≠ 0 ∧ digits % 10 = 0 then Scaled.strip (digits / 10) (scale + 1) more else ⟨digits, scale⟩

def shortest (value : Binary) : Scaled :=
  if value.mantissa = 0 then ⟨0, 0⟩
  else
    let i := Interval.around value
    let hit := i.search i.decade 17
    Scaled.strip hit.digits hit.scale 20

def digitsOf (n : Nat) : List Char :=
  Nat.toDigits 10 n

/-- A decimal without an exponent and with at least `places` digits after the point, which is left out if none
follow. -/
def Scaled.positional (d : Scaled) (places : Nat) : List Char :=
  let digits := digitsOf d.digits
  if 0 ≤ d.scale then
    let whole := if d.digits = 0 then digits else digits ++ List.replicate d.scale.toNat '0'
    if places = 0 then whole else whole ++ '.' :: List.replicate places '0'
  else
    let after := (-d.scale).toNat
    let padded := List.replicate (after + 1 - digits.length) '0' ++ digits
    let whole := padded.take (padded.length - after)
    let fraction := padded.drop (padded.length - after)
    whole ++ '.' :: fraction ++ List.replicate (places - after) '0'

def Scaled.scientific (d : Scaled) : List Char :=
  let digits := digitsOf d.digits
  let power := d.scale + (digits.length - 1 : Nat)
  let head := digits.take 1
  let fraction := digits.drop 1
  (if fraction.isEmpty then head else head ++ '.' :: fraction) ++ 'e' :: (toString power).toList

def withSign (negative : Bool) (text : List Char) : List Char :=
  if negative then '-' :: text else text

/-- The text of a float among values: never with an exponent, whole numbers without a point. -/
def display (x : Float) : String :=
  match reading x with
  | .notANumber => "NaN"
  | .infinite negative => String.ofList (withSign negative "inf".toList)
  | .finite value => String.ofList (withSign value.negative ((shortest value).positional 0))

/-- The text of a float in diagnostics: a point always, an exponent from `10 ^ 16` on and below `10 ^ -4`. -/
def diagnostic (x : Float) : String :=
  match reading x with
  | .notANumber => "NaN"
  | .infinite negative => String.ofList (withSign negative "inf".toList)
  | .finite value =>
    let size := x.abs
    let digits := shortest value
    let text :=
      if size ≠ 0 ∧ (size < 1e-4 ∨ 1e16 ≤ size) then digits.scientific else digits.positional 1
    String.ofList (withSign value.negative text)

end CueScript.Decimal
