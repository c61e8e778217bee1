import CueScript.Json.Number

set_option autoImplicit false

namespace CueScript.Json

inductive Token where
  | openArray
  | closeArray
  | openObject
  | closeObject
  | colon
  | comma
  | word (text : Bytes)
  | string (written : Bytes)

/-- Where the scanner stands: between tokens, or inside one whose bytes so far stand in reverse. -/
inductive Mode where
  | between
  | word (sofar : Bytes)
  | string (sofar : Bytes)
  | escape (sofar : Bytes)
  | unit (sofar : Bytes) (missing : Nat)

def isSpace (b : UInt8) : Bool :=
  b == 0x20 || b == 0x09 || b == 0x0A || b == 0x0D

def isWordByte (b : UInt8) : Bool :=
  isDigitByte b || (0x61 ≤ b && b ≤ 0x7A) || b == 0x2B || b == 0x2D || b == 0x2E || b == 0x45

def punctuation? (b : UInt8) : Option Token :=
  if b = 0x5B then some .openArray
  else if b = 0x5D then some .closeArray
  else if b = 0x7B then some .openObject
  else if b = 0x7D then some .closeObject
  else if b = 0x3A then some .colon
  else if b = 0x2C then some .comma
  else none

/-- A byte met between tokens: the tokens so far, latest first, and the mode after it. -/
def enter (done : List Token) (b : UInt8) : Option (List Token × Mode) :=
  if isSpace b then some (done, .between)
  else if b = 0x22 then some (done, .string [])
  else if isWordByte b then some (done, .word [b])
  else (punctuation? b).map fun token => (token :: done, .between)

def scan : List Token → Mode → Bytes → Option (List Token)
  | done, .between, [] => some done.reverse
  | done, .word sofar, [] => some (Token.word sofar.reverse :: done).reverse
  | _, _, [] => none
  | done, .between, b :: rest =>
    match enter done b with
    | some (done, mode) => scan done mode rest
    | none => none
  | done, .word sofar, b :: rest =>
    if isWordByte b then scan done (.word (b :: sofar)) rest
    else match enter (.word sofar.reverse :: done) b with
      | some (done, mode) => scan done mode rest
      | none => none
  | done, .string sofar, b :: rest =>
    if b = 0x22 then scan (.string sofar.reverse :: done) .between rest
    else if b = 0x5C then scan done (.escape (b :: sofar)) rest
    else if b < 0x20 then none
    else scan done (.string (b :: sofar)) rest
  | done, .escape sofar, b :: rest =>
    if b = 0x75 then scan done (.unit (b :: sofar) 4) rest
    else if (escaped? b).isSome then scan done (.string (b :: sofar)) rest
    else none
  | done, .unit sofar missing, b :: rest =>
    if (Bytes.hexValue? b).isNone then none
    else if missing ≤ 1 then scan done (.string (b :: sofar)) rest
    else scan done (.unit (b :: sofar) (missing - 1)) rest

def ofWord? (word : Bytes) : Option Json :=
  if word = Bytes.ofText "null" then some .null
  else if word = Bytes.ofText "true" then some (.bool true)
  else if word = Bytes.ofText "false" then some (.bool false)
  else if isNumeral word then some (.number word)
  else none

mutual

/-- One value and the tokens after it. Each step costs a unit of fuel. -/
def value? : Nat → List Token → Option (Json × List Token)
  | 0, _ => none
  | fuel + 1, tokens =>
    match tokens with
    | .word word :: rest => (ofWord? word).map (·, rest)
    | .string written :: rest => some (.string written, rest)
    | .openArray :: .closeArray :: rest => some (.array [], rest)
    | .openArray :: rest => (items? fuel rest).map fun (items, rest) => (.array items, rest)
    | .openObject :: .closeObject :: rest => some (.object [], rest)
    | .openObject :: rest => (fields? fuel rest).map fun (fields, rest) => (.object fields, rest)
    | _ => none

def items? : Nat → List Token → Option (List Json × List Token)
  | 0, _ => none
  | fuel + 1, tokens =>
    match value? fuel tokens with
    | some (item, .comma :: rest) => (items? fuel rest).map fun (items, rest) => (item :: items, rest)
    | some (item, .closeArray :: rest) => some ([item], rest)
    | _ => none

def fields? : Nat → List Token → Option (List (Bytes × Json) × List Token)
  | 0, _ => none
  | fuel + 1, tokens =>
    match tokens with
    | .string name :: .colon :: rest =>
      match value? fuel rest with
      | some (value, .comma :: rest) =>
        (fields? fuel rest).map fun (fields, rest) => ((name, value) :: fields, rest)
      | some (value, .closeObject :: rest) => some ([(name, value)], rest)
      | _ => none
    | _ => none

end

def read? (bytes : Bytes) : Option Json := do
  let tokens ← scan [] .between bytes
  match value? (2 * tokens.length + 1) tokens with
  | some (tree, []) => some tree
  | _ => none

end CueScript.Json
