import CueScript.Json.Tree
import CueScript.Decimal.Binary

/-!
What a JSON number means. Whole numbers are exact as long as they fit 64 bits. All others become floats
in two steps, each rounded: as many leading digits as fit 64 bits, and then a power of ten.
-/

set_option autoImplicit false

namespace CueScript.Json

inductive Numeral where
  | whole (n : Nat)
  | negative (size : Nat)
  | float (x : Float)

def isDigitByte (b : UInt8) : Bool :=
  0x30 ≤ b && b ≤ 0x39

def digitOf (b : UInt8) : Nat :=
  b.toNat - 0x30

structure Written where
  minus : Bool
  whole : Bytes
  fraction : Bytes
  powerMinus : Bool
  power : Bytes

def writtenPower? : Bytes → Option (Bool × Bytes)
  | [] => some (false, [])
  | mark :: rest =>
    if mark ≠ 0x65 ∧ mark ≠ 0x45 then none
    else
      let (minus, digits) := match rest with
        | 0x2B :: ds => (false, ds)
        | 0x2D :: ds => (true, ds)
        | ds => (false, ds)
      if digits.isEmpty || !digits.all isDigitByte then none else some (minus, digits)

/-- The parts of a number: no leading zeros, and digits on both sides of a point. -/
def written? (numeral : Bytes) : Option Written := do
  let (minus, body) := match numeral with
    | 0x2D :: rest => (true, rest)
    | rest => (false, rest)
  let whole := body.takeWhile isDigitByte
  let rest := body.dropWhile isDigitByte
  if whole.isEmpty || (whole.length ≠ 1 && whole.head? == some 0x30) then none
  else match rest with
    | 0x2E :: more =>
      let fraction := more.takeWhile isDigitByte
      if fraction.isEmpty then none
      else do
        let (powerMinus, power) ← writtenPower? (more.dropWhile isDigitByte)
        pure ⟨minus, whole, fraction, powerMinus, power⟩
    | more => do
      let (powerMinus, power) ← writtenPower? more
      pure ⟨minus, whole, [], powerMinus, power⟩

def isNumeral (bytes : Bytes) : Bool :=
  (written? bytes).isSome

/-- Reads digits on to `n` as long as the number stays within `limit`; what is left over follows. -/
def gather (limit n : Nat) : Bytes → Nat × Bytes
  | [] => (n, [])
  | b :: rest => if limit < 10 * n + digitOf b then (n, b :: rest) else gather limit (10 * n + digitOf b) rest

/-- Rounded product with `10 ^ power`, in steps of at most `10 ^ 308`; `none` if it is too large. -/
def scaleFloat? (x : Float) (power : Int) : Nat → Option Float
  | 0 => some x
  | more + 1 =>
    if power.natAbs ≤ 308 then
      let factor := Float.ofScientific 1 false power.natAbs
      if 0 ≤ power then
        let y := x * factor
        if y.isInf then none else some y
      else some (x / factor)
    else if x == 0 then some x
    else if 0 ≤ power then none
    else scaleFloat? (x / Float.ofScientific 1 false 308) (power + 308) more

def powerLimit : Nat := 0x7FFFFFFF

def Written.float? (w : Written) : Option Float := do
  let (lead, excess) := gather (UInt64.size - 1) 0 w.whole
  let (digits, unread) := gather (UInt64.size - 1) lead w.fraction
  let shift : Int := excess.length - (w.fraction.length - unread.length : Nat)
  let (power, excess) := gather powerLimit 0 w.power
  let size ←
    if excess.isEmpty then
      let power : Int := if w.powerMinus then shift - power else shift + power
      scaleFloat? (UInt64.ofNat digits).toFloat (max (-0x80000000) (min power powerLimit)) 8
    else if digits ≠ 0 ∧ !w.powerMinus then none
    else some 0
  pure (if w.minus then -size else size)

/-- The value of a number; `none` if it is malformed or too large for a float. -/
def numeral? (bytes : Bytes) : Option Numeral := do
  let w ← written? bytes
  let (n, excess) := gather (UInt64.size - 1) 0 w.whole
  if w.fraction.isEmpty && w.power.isEmpty && excess.isEmpty then
    if !w.minus then pure (.whole n)
    else if n = 0 ∨ 0x8000000000000000 < n then pure (.float (-(UInt64.ofNat n).toFloat))
    else pure (.negative n)
  else
    let x ← w.float?
    pure (.float x)

def nat? (limit : Nat) : Json → Option Nat
  | .number bytes =>
    match numeral? bytes with
    | some (.whole n) => if n < limit then some n else none
    | _ => none
  | _ => none

def int64? : Json → Option Int64
  | .number bytes =>
    match numeral? bytes with
    | some (.whole n) => if n < 0x8000000000000000 then some (Int64.ofInt n) else none
    | some (.negative n) => some (Int64.ofInt (-n))
    | _ => none
  | _ => none

def float? : Json → Option Float
  | .number bytes =>
    match numeral? bytes with
    | some (.whole n) => some (UInt64.ofNat n).toFloat
    | some (.negative n) => some (-(UInt64.ofNat n).toFloat)
    | some (.float x) => some x
    | none => none
  | _ => none

end CueScript.Json
