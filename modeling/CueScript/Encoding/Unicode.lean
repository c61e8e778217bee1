import CueScript.Bytes

set_option autoImplicit false

namespace CueScript.Encoding

def replacement : Char := '\ufffd'

namespace Utf8

/-- Goes on with `missing + 1` further bytes of a character, the next one between `low` and `high`. The first byte that
does not fit ends the broken part and is not used up. -/
def continuation (code : Nat) : Nat → UInt8 → UInt8 → Bytes → Char × Bytes
  | _, _, _, [] => (replacement, [])
  | 0, low, high, b :: rest =>
    if low ≤ b ∧ b ≤ high then (Char.ofNat (code * 64 + b.toNat % 64), rest) else (replacement, b :: rest)
  | missing + 1, low, high, b :: rest =>
    if low ≤ b ∧ b ≤ high then continuation (code * 64 + b.toNat % 64) missing 0x80 0xBF rest
    else (replacement, b :: rest)

def character (b : UInt8) (rest : Bytes) : Char × Bytes :=
  if b < 0x80 then (Char.ofNat b.toNat, rest)
  else if b < 0xC2 then (replacement, rest)
  else if b < 0xE0 then continuation (b.toNat % 32) 0 0x80 0xBF rest
  else if b < 0xF0 then
    continuation (b.toNat % 16) 1 (if b = 0xE0 then 0xA0 else 0x80) (if b = 0xED then 0x9F else 0xBF) rest
  else if b < 0xF5 then
    continuation (b.toNat % 8) 2 (if b = 0xF0 then 0x90 else 0x80) (if b = 0xF4 then 0x8F else 0xBF) rest
  else (replacement, rest)

/-- Characters one after the other; every character uses up at least one byte, so the number of bytes is enough fuel. -/
def characters : Nat → Bytes → List Char
  | 0, _ => []
  | _, [] => []
  | fuel + 1, b :: rest =>
    let (c, rest) := character b rest
    c :: characters fuel rest

def decode (bytes : Bytes) : String :=
  match Bytes.text? bytes with
  | some text => text
  | none => String.ofList (characters bytes.length bytes)

end Utf8

namespace Utf16

/-- Code units of two bytes each; a byte left over counts as a unit that is no character. -/
def units (join : UInt8 → UInt8 → Nat) : Bytes → List Nat
  | [] => []
  | [_] => [0xDC00]
  | a :: b :: rest => join a b :: units join rest

def isHigh (unit : Nat) : Bool :=
  0xD800 ≤ unit && unit < 0xDC00

def isLow (unit : Nat) : Bool :=
  0xDC00 ≤ unit && unit < 0xE000

/-- Pairs of surrogates joined; `odd` tells that the last unit is only a byte left over. -/
def characters (odd : Bool) : List Nat → List Char
  | [] => []
  | [unit] => [if isHigh unit || isLow unit then replacement else Char.ofNat unit]
  | unit :: next :: rest =>
    if isHigh unit then
      if rest.isEmpty && odd then [replacement]
      else if isLow next then
        Char.ofNat (0x10000 + (unit - 0xD800) * 0x400 + (next - 0xDC00)) :: characters odd rest
      else replacement :: characters odd (next :: rest)
    else (if isLow unit then replacement else Char.ofNat unit) :: characters odd (next :: rest)

def decode (join : UInt8 → UInt8 → Nat) (bytes : Bytes) : String :=
  String.ofList (characters (bytes.length % 2 == 1) (units join bytes))

def little (a b : UInt8) : Nat :=
  a.toNat + 256 * b.toNat

def big (a b : UInt8) : Nat :=
  256 * a.toNat + b.toNat

end Utf16

end CueScript.Encoding
