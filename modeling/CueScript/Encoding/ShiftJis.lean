import CueScript.Encoding.JisTable
import CueScript.Encoding.Unicode

/-!
Shift_JIS. A double-byte character has a place in a table of rows of 188; the places of one block are filled twice and
are never written.
-/

set_option autoImplicit false

namespace CueScript.Encoding.ShiftJis

def isLead (b : UInt8) : Bool :=
  (0x81 ≤ b && b ≤ 0x9F) || (0xE0 ≤ b && b ≤ 0xFC)

def isTrail (b : UInt8) : Bool :=
  (0x40 ≤ b && b ≤ 0x7E) || (0x80 ≤ b && b ≤ 0xFC)

def place (lead trail : UInt8) : Nat :=
  (lead.toNat - (if lead < 0xA0 then 0x81 else 0xC1)) * 188 + (trail.toNat - (if trail < 0x7F then 0x40 else 0x41))

def bytesAt (place : Nat) : Bytes :=
  let lead := place / 188
  let trail := place % 188
  [UInt8.ofNat (lead + (if lead < 0x1F then 0x81 else 0xC1)), UInt8.ofNat (trail + (if trail < 0x3F then 0x40 else 0x41))]

def charAt? (place : Nat) : Option Char :=
  if 8836 ≤ place ∧ place ≤ 10715 then some (Char.ofNat (0xE000 + (place - 8836)))
  else Jis.table[place]?.filter (· ≠ replacement)

def pair? (lead trail : UInt8) : Option Char :=
  if isTrail trail then charAt? (place lead trail) else none

def isSingle (b : UInt8) : Bool :=
  b ≤ 0x80 || (0xA1 ≤ b && b ≤ 0xDF)

def single (b : UInt8) : Char :=
  if b ≤ 0x80 then Char.ofNat b.toNat else Char.ofNat (0xFF61 + (b.toNat - 0xA1))

/-- A lead byte without its trail is broken; a trail that is no character takes the lead with it, unless it is ASCII,
which stands for itself. -/
def characters : Bytes → List Char
  | [] => []
  | [b] => [if isSingle b then single b else replacement]
  | b :: next :: rest =>
    if isSingle b then single b :: characters (next :: rest)
    else if !isLead b then replacement :: characters (next :: rest)
    else match pair? b next with
      | some c => c :: characters rest
      | none => if next < 0x80 then replacement :: characters (next :: rest) else replacement :: characters rest

def decode (bytes : Bytes) : String :=
  String.ofList (characters bytes)

def written : Array Char :=
  Jis.table.mapIdx fun place c => if 8272 ≤ place ∧ place ≤ 8835 then replacement else c

/-- The bytes of a character, at the first of its places. The minus sign counts as the wide hyphen, the yen sign and
the overline as the ASCII characters in their places. -/
def encodeChar? (c : Char) : Option Bytes :=
  if c.toNat ≤ 0x80 then some [UInt8.ofNat c.toNat]
  else if c = '¥' then some [0x5C]
  else if c = '‾' then some [0x7E]
  else if 0xFF61 ≤ c.toNat ∧ c.toNat ≤ 0xFF9F then some [UInt8.ofNat (c.toNat - 0xFF61 + 0xA1)]
  else if c = replacement then none
  else
    let wanted := if c = '−' then '－' else c
    (written.findIdx? (· == wanted)).map bytesAt

end CueScript.Encoding.ShiftJis
