import CueScript.Json.Tree

set_option autoImplicit false

namespace CueScript.Json

def quote (written : Bytes) : Bytes :=
  0x22 :: written ++ [0x22]

mutual

def render : Json → Bytes
  | .null => Bytes.ofText "null"
  | .bool true => Bytes.ofText "true"
  | .bool false => Bytes.ofText "false"
  | .number numeral => numeral
  | .string written => quote written
  | .array items => 0x5B :: renderItems items
  | .object fields => 0x7B :: renderFields fields

def renderItems : List Json → Bytes
  | [] => [0x5D]
  | [item] => render item ++ [0x5D]
  | item :: rest => render item ++ 0x2C :: renderItems rest

def renderFields : List (Bytes × Json) → Bytes
  | [] => [0x7D]
  | [(name, value)] => quote name ++ 0x3A :: render value ++ [0x7D]
  | (name, value) :: rest => quote name ++ 0x3A :: render value ++ 0x2C :: renderFields rest

end

def newLine (level : Nat) : Bytes :=
  0x0A :: List.replicate (2 * level) 0x20

mutual

def pretty (level : Nat) : Json → Bytes
  | .array [] => [0x5B, 0x5D]
  | .array items => 0x5B :: prettyItems (level + 1) items ++ newLine level ++ [0x5D]
  | .object [] => [0x7B, 0x7D]
  | .object fields => 0x7B :: prettyFields (level + 1) fields ++ newLine level ++ [0x7D]
  | .null => Bytes.ofText "null"
  | .bool true => Bytes.ofText "true"
  | .bool false => Bytes.ofText "false"
  | .number numeral => numeral
  | .string written => quote written

def prettyItems (level : Nat) : List Json → Bytes
  | [] => []
  | [item] => newLine level ++ pretty level item
  | item :: rest => newLine level ++ pretty level item ++ 0x2C :: prettyItems level rest

def prettyFields (level : Nat) : List (Bytes × Json) → Bytes
  | [] => []
  | [(name, value)] => newLine level ++ quote name ++ 0x3A :: 0x20 :: pretty level value
  | (name, value) :: rest =>
    newLine level ++ quote name ++ 0x3A :: 0x20 :: pretty level value ++ 0x2C :: prettyFields level rest

end

end CueScript.Json
