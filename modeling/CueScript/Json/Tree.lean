import CueScript.Bytes

/-!
JSON trees. Numbers and strings are kept as they were written: what a number or a string means, and
whether it means anything, is asked only where the answer is used.
-/

set_option autoImplicit false

namespace CueScript

inductive Json where
  | null
  | bool (value : Bool)
  | number (numeral : Bytes)
  | string (written : Bytes)
  | array (items : List Json)
  | object (fields : List (Bytes × Json))
deriving Inhabited

namespace Json

def unit? (a b c d : UInt8) : Option Nat := do
  let a ← Bytes.hexValue? a
  let b ← Bytes.hexValue? b
  let c ← Bytes.hexValue? c
  let d ← Bytes.hexValue? d
  pure (((a * 16 + b) * 16 + c) * 16 + d)

def escaped? (b : UInt8) : Option UInt8 :=
  if b = 0x22 ∨ b = 0x5C ∨ b = 0x2F then some b
  else if b = 0x62 then some 0x08
  else if b = 0x66 then some 0x0C
  else if b = 0x6E then some 0x0A
  else if b = 0x72 then some 0x0D
  else if b = 0x74 then some 0x09
  else none

/-- The bytes a written string stands for; a surrogate outside a pair stands for nothing. -/
def unescape? : Bytes → Option Bytes
  | [] => some []
  | 0x5C :: 0x75 :: a :: b :: c :: d :: rest => do
    let unit ← unit? a b c d
    if unit < 0xD800 ∨ 0xE000 ≤ unit then
      let more ← unescape? rest
      pure (String.utf8EncodeChar (Char.ofNat unit) ++ more)
    else if 0xDC00 ≤ unit then none
    else match rest with
      | 0x5C :: 0x75 :: e :: f :: g :: h :: rest => do
        let low ← unit? e f g h
        if 0xDC00 ≤ low ∧ low < 0xE000 then
          let more ← unescape? rest
          let code := 0x10000 + (unit - 0xD800) * 0x400 + (low - 0xDC00)
          pure (String.utf8EncodeChar (Char.ofNat code) ++ more)
        else none
      | _ => none
  | 0x5C :: b :: rest => do
    let byte ← escaped? b
    let more ← unescape? rest
    pure (byte :: more)
  | b :: rest => if b = 0x5C then none else (unescape? rest).map (b :: ·)

def escapeByte (b : UInt8) : Bytes :=
  if b = 0x22 ∨ b = 0x5C then [0x5C, b]
  else if b = 0x08 then [0x5C, 0x62]
  else if b = 0x0C then [0x5C, 0x66]
  else if b = 0x0A then [0x5C, 0x6E]
  else if b = 0x0D then [0x5C, 0x72]
  else if b = 0x09 then [0x5C, 0x74]
  else if b < 0x20 then
    [0x5C, 0x75, 0x30, 0x30, Bytes.hexDigit (b.toNat / 16), Bytes.hexDigit (b.toNat % 16)]
  else [b]

def escape (bytes : Bytes) : Bytes :=
  bytes.flatMap escapeByte

def text? (written : Bytes) : Option String :=
  (unescape? written).bind Bytes.text?

def ofText (s : String) : Json :=
  .string (escape (Bytes.ofText s))

def ofNat (n : Nat) : Json :=
  .number (Bytes.ofText (toString n))

def ofInt (n : Int) : Json :=
  .number (Bytes.ofText (toString n))

def field? (name : String) : Json → Option Json
  | .object fields => (fields.find? fun f => text? f.1 == some name).map (·.2)
  | _ => none

end Json

end CueScript
