import CueScript.Encoding.GbTable
import CueScript.Encoding.Unicode

/-!
GB18030. A character has one byte, two bytes with a place in a table of rows of 190, or four bytes with a place in a
list of ranges.
-/

set_option autoImplicit false

namespace CueScript.Encoding.Gb18030

def isLead (b : UInt8) : Bool :=
  0x81 ≤ b && b ≤ 0xFE

def isTrail (b : UInt8) : Bool :=
  (0x40 ≤ b && b ≤ 0x7E) || (0x80 ≤ b && b ≤ 0xFE)

def isDigit (b : UInt8) : Bool :=
  0x30 ≤ b && b ≤ 0x39

def place (lead trail : UInt8) : Nat :=
  (lead.toNat - 0x81) * 190 + (trail.toNat - (if trail < 0x7F then 0x40 else 0x41))

def bytesAt (place : Nat) : Bytes :=
  let trail := place % 190
  [UInt8.ofNat (place / 190 + 0x81), UInt8.ofNat (trail + (if trail < 0x3F then 0x40 else 0x41))]

def pair? (lead trail : UInt8) : Option Char :=
  if isTrail trail then Gb.table[place lead trail]? else none

def longPlace (a b c d : UInt8) : Nat :=
  (((a.toNat - 0x81) * 10 + (b.toNat - 0x30)) * 126 + (c.toNat - 0x81)) * 10 + (d.toNat - 0x30)

def longBytes (place : Nat) : Bytes :=
  [UInt8.ofNat (place / 12600 + 0x81), UInt8.ofNat (place / 1260 % 10 + 0x30), UInt8.ofNat (place / 10 % 126 + 0x81),
   UInt8.ofNat (place % 10 + 0x30)]

/-- The place of the one character that lies outside its range. -/
def strayPlace : Nat := 7457

def strayChar : Char := Char.ofNat 0xE7C7

def longChar? (place : Nat) : Option Char :=
  if place = strayPlace then some strayChar
  else if 189000 ≤ place ∧ place ≤ 1237575 then some (Char.ofNat (0x10000 + (place - 189000)))
  else if 39419 < place then none
  else (Gb.ranges.reverse.find? (·.1 ≤ place)).map fun (start, code) => Char.ofNat (code + (place - start))

def longPlaceOf (c : Char) : Nat :=
  if c = strayChar then strayPlace
  else if 0x10000 ≤ c.toNat then 189000 + (c.toNat - 0x10000)
  else match Gb.ranges.reverse.find? (·.2 ≤ c.toNat) with
    | some (start, code) => start + (c.toNat - code)
    | none => 0

def leading (lead : UInt8) : Bytes → Char × Nat
  | [] => (replacement, 1)
  | b :: rest =>
    if isDigit b then
      match rest with
      | [] => (replacement, 2)
      | c :: rest =>
        if !isLead c then (replacement, 1)
        else match rest with
          | [] => (replacement, 3)
          | d :: _ =>
            if isDigit d then ((longChar? (longPlace lead b c d)).getD replacement, 4) else (replacement, 1)
    else match pair? lead b with
      | some c => (c, 2)
      | none => (replacement, if b < 0x80 then 1 else 2)

def characters : Bytes → List Char
  | [] => []
  | b :: rest =>
    if b < 0x80 then Char.ofNat b.toNat :: characters rest
    else if b = 0x80 then '€' :: characters rest
    else if b = 0xFF then replacement :: characters rest
    else
      let (c, used) := leading b rest
      c :: characters (rest.drop (used - 1))
termination_by bytes => bytes.length
decreasing_by
  all_goals simp only [List.length_cons, List.length_drop]
  all_goals omega

def decode (bytes : Bytes) : String :=
  String.ofList (characters bytes)

/-- The bytes of a character. One private character has none, and some are still written as the two bytes they had
before these were given to other characters. -/
def encodeChar? (c : Char) : Option Bytes :=
  if c.toNat < 0x80 then some [UInt8.ofNat c.toNat]
  else if c.toNat = 0xE5E5 then none
  else match Gb.formerPrivate.lookup c.toNat with
    | some pair => some [UInt8.ofNat (pair / 256), UInt8.ofNat (pair % 256)]
    | none => match Gb.table.findIdx? (· == c) with
      | some place => some (bytesAt place)
      | none => some (longBytes (longPlaceOf c))

end CueScript.Encoding.Gb18030
