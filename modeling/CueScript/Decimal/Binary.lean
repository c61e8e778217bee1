set_option autoImplicit false

namespace CueScript.Decimal

structure Binary where
  negative : Bool
  mantissa : Nat
  exponent : Int

inductive Reading where
  | finite (value : Binary)
  | infinite (negative : Bool)
  | notANumber

def notANumber : Float :=
  Float.ofBits 0x7FF8000000000000

def infinity : Float :=
  Float.ofBits 0x7FF0000000000000

def reading (x : Float) : Reading :=
  let bits := x.toBits.toNat
  let negative := decide (0x8000000000000000 ≤ bits)
  let field : Nat := bits / 0x10000000000000 % 0x800
  let fraction := bits % 0x10000000000000
  if field = 2047 then
    if fraction = 0 then .infinite negative else .notANumber
  else if field = 0 then .finite ⟨negative, fraction, -1074⟩
  else .finite ⟨negative, fraction + 0x10000000000000, Int.ofNat field - 1075⟩

/-- The float of that value, for values that have one: a mantissa below `2 ^ 53` and an exponent of at
least -1074. -/
def Binary.toFloat (value : Binary) : Float :=
  let sign := if value.negative then 0x8000000000000000 else 0
  if value.mantissa = 0 then Float.ofBits (UInt64.ofNat sign)
  else
    let shift := min (52 - (value.mantissa.log2 : Int)) (value.exponent + 1074)
    let mantissa := value.mantissa * Nat.pow 2 shift.toNat
    let field := if mantissa < 0x10000000000000 then 0 else (value.exponent - shift + 1075).toNat
    Float.ofBits (UInt64.ofNat (sign + field * 0x10000000000000 + mantissa % 0x10000000000000))

/-- What is left of `x` after taking away `y` as often as it fits, with the sign of `x`. -/
def remainder (x y : Float) : Float :=
  match reading x, reading y with
  | .notANumber, _ => notANumber
  | _, .notANumber => notANumber
  | .infinite _, _ => notANumber
  | .finite _, .infinite _ => x
  | .finite a, .finite b =>
    if b.mantissa = 0 then notANumber
    else
      let unit := min a.exponent b.exponent
      let m := a.mantissa * Nat.pow 2 (a.exponent - unit).toNat
      let n := b.mantissa * Nat.pow 2 (b.exponent - unit).toNat
      Binary.toFloat ⟨a.negative, m % n, unit⟩

def ofInt64 (n : Int64) : Float :=
  let size := (UInt64.ofNat n.toInt.natAbs).toFloat
  if n < 0 then -size else size

/-- The integer part of a float, held to the range of the integers; nothing is no number's part but 0. -/
def toInt64 (x : Float) : Int64 :=
  if x < 0 then
    Int64.ofInt (max (-0x8000000000000000) (-((-x).toUInt64.toNat : Int)))
  else
    Int64.ofInt (min (0x7FFFFFFFFFFFFFFF) (x.toUInt64.toNat : Int))

end CueScript.Decimal
