set_option autoImplicit false

namespace CueScript

abbrev Bytes := List UInt8

namespace Bytes

def ofText (s : String) : Bytes :=
  s.toByteArray.data.toList

def text? (bytes : Bytes) : Option String :=
  String.fromUTF8? ⟨bytes.toArray⟩

theorem text?_ofText (s : String) : text? (ofText s) = some s := by
  have valid : s.toByteArray.IsValidUTF8 := s.isValidUTF8
  simp [text?, ofText, String.fromUTF8?, valid, String.fromUTF8]

def ascii (c : Char) : UInt8 :=
  c.toNat.toUInt8

def hexValue? (b : UInt8) : Option Nat :=
  if ascii '0' ≤ b ∧ b ≤ ascii '9' then some (b.toNat - 0x30)
  else if ascii 'a' ≤ b ∧ b ≤ ascii 'f' then some (b.toNat - 0x57)
  else if ascii 'A' ≤ b ∧ b ≤ ascii 'F' then some (b.toNat - 0x37)
  else none

def hexDigit (n : Nat) : UInt8 :=
  if n < 10 then UInt8.ofNat (n + 0x30) else UInt8.ofNat (n + 0x57)

def hex (bytes : Bytes) : String :=
  String.ofList (bytes.flatMap fun b => [Nat.digitChar (b.toNat / 16), Nat.digitChar (b.toNat % 16)])

def ofHex? : Bytes → Option Bytes
  | [] => some []
  | [_] => none
  | a :: b :: rest => do
    let high ← hexValue? a
    let low ← hexValue? b
    let more ← ofHex? rest
    pure (UInt8.ofNat (16 * high + low) :: more)

end Bytes

end CueScript
