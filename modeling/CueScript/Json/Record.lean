import CueScript.Json.Printer
import CueScript.Json.Reader

set_option autoImplicit false

namespace CueScript

namespace Json

def depthLimit : Nat := 127

/-- The value of a field in a list of fields with readable names: fails if there are two. -/
def single? (fields : List (String × Json)) (name : String) : Option (Option Json) :=
  match fields.filter (·.1 == name) with
  | [] => some none
  | [(_, value)] => some (some value)
  | _ => none

def record? (names : List String) : Json → Option (List (Option Json))
  | .object fields => do
    let fields ← fields.mapM fun (key, value) => (text? key).map (·, value)
    names.mapM (single? fields)
  | .array items =>
    if items.length ≤ names.length then
      some (items.map some ++ List.replicate (names.length - items.length) none)
    else none
  | _ => none

def isNull : Json → Bool
  | .null => true
  | _ => false

def string? : Json → Option String
  | .string written => text? written
  | _ => none

def tagged? : Json → Option (String × Json)
  | .object [(key, value)] => (text? key).map (·, value)
  | _ => none

/-- A name by itself, or as the only field of an object with nothing under it. -/
def tag? : Nat → Json → Option String
  | _, .string written => text? written
  | _ + 1, .object [(key, .null)] => text? key
  | _, _ => none

def optional? {α : Type} (read : Json → Option α) (tree : Json) : Option (Option α) :=
  if tree.isNull then some none else (read tree).map some

def orDefault {α : Type} (default : α) (read : Json → Option α) (field : Option Json) : Option α :=
  match field with
  | some tree => read tree
  | none => some default

def key (name : String) : Bytes :=
  escape (Bytes.ofText name)

def tagged (name : String) (value : Json) : Json :=
  .object [(key name, value)]

def ofOption {α : Type} (write : α → Json) : Option α → Json
  | some a => write a
  | none => .null

end Json

end CueScript
