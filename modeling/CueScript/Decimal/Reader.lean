import CueScript.Decimal.Binary

set_option autoImplicit false

namespace CueScript.Decimal

def isDigit (c : Char) : Bool :=
  '0' ≤ c && c ≤ '9'

def digitValue (c : Char) : Nat :=
  c.toNat - '0'.toNat

def numeral (digits : List Char) : Nat :=
  digits.foldl (fun n c => 10 * n + digitValue c) 0

/-- No float, and no point halfway between two floats, has more significant digits. -/
def digitLimit : Nat := 768

/-- A number and a power of ten that round as `digits` do. A long run is cut, and a digit 1 stands for what
is cut off unless that is zeros: no halfway point lies between the two. -/
def leading (digits : List Char) : Nat × Nat :=
  let excess := digits.drop digitLimit
  if excess.isEmpty then (numeral digits, 0)
  else
    let rest := if excess.all (· == '0') then 0 else 1
    (10 * numeral (digits.take digitLimit) + rest, excess.length - 1)

def nearest (digits : List Char) (scale : Int) : Float :=
  let digits := digits.dropWhile (· == '0')
  let size := scale + digits.length
  if digits.isEmpty ∨ size < -330 then 0
  else if 320 < size then infinity
  else
    let (lead, omitted) := leading digits
    let scale := scale + omitted
    if 0 ≤ scale then Float.ofScientific lead false scale.toNat
    else Float.ofScientific lead true (-scale).toNat

def powerCap : Nat := 0x10000

def powerSize (digits : List Char) : Nat :=
  digits.foldl (fun n c => if n < powerCap then 10 * n + digitValue c else n) 0

def readPower? : List Char → Option Int
  | [] => some 0
  | c :: rest =>
    if c ≠ 'e' ∧ c ≠ 'E' then none
    else
      let (negative, digits) := match rest with
        | '-' :: ds => (true, ds)
        | '+' :: ds => (false, ds)
        | ds => (false, ds)
      if digits.isEmpty || !digits.all isDigit then none
      else
        let power : Int := powerSize digits
        some (if negative then -power else power)

def readSize? (text : List Char) : Option Float :=
  let whole := text.takeWhile isDigit
  let afterWhole := text.dropWhile isDigit
  let (fraction, rest) := match afterWhole with
    | '.' :: more => (more.takeWhile isDigit, more.dropWhile isDigit)
    | other => ([], other)
  if whole.isEmpty && fraction.isEmpty then none
  else (readPower? rest).map fun power => nearest (whole ++ fraction) (power - fraction.length)

def readWord? (text : List Char) : Option Float :=
  let word := String.ofList (text.map Char.toLower)
  if word = "inf" ∨ word = "infinity" then some infinity
  else if word = "nan" then some notANumber
  else none

def read? (text : List Char) : Option Float :=
  let (negative, size) := match text with
    | '-' :: rest => (true, rest)
    | '+' :: rest => (false, rest)
    | rest => (false, rest)
  let value := (readWord? size).or (readSize? size)
  value.map fun x => if negative then -x else x

end CueScript.Decimal
