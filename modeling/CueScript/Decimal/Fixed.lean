import CueScript.Decimal.Shortest

set_option autoImplicit false

namespace CueScript.Decimal

/-- The integer nearest to `num / den`; a half goes to the even neighbour. -/
def roundDiv (num den : Nat) : Nat :=
  let q := num / den
  let r := num % den
  if den < 2 * r ∨ (2 * r = den ∧ q % 2 = 1) then q + 1 else q

def Binary.inUnits (value : Binary) (places : Nat) : Nat :=
  roundDiv (value.mantissa * Nat.pow 2 value.exponent.toNat * Nat.pow 10 places) (Nat.pow 2 (-value.exponent).toNat)

def fixed (places : Nat) (x : Float) : String :=
  match reading x with
  | .notANumber => "NaN"
  | .infinite negative => String.ofList (withSign negative "inf".toList)
  | .finite value =>
    let text : Scaled := ⟨value.inUnits places, -(places : Int)⟩
    String.ofList (withSign value.negative (text.positional 0))

end CueScript.Decimal
