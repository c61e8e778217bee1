import CueScript.Value.Basic

set_option autoImplicit false

namespace CueScript

/-- Names with their values, each name once. -/
structure Bindings where
  entries : List (String × Value) := []

def putEntry (name : String) (value : Value) : List (String × Value) → List (String × Value)
  | [] => [(name, value)]
  | (n, v) :: rest => if n = name then (n, value) :: rest else (n, v) :: putEntry name value rest

theorem lookup_putEntry (entries : List (String × Value)) (name wanted : String) (value : Value) :
    (putEntry name value entries).lookup wanted = if wanted = name then some value else entries.lookup wanted := by
  induction entries with
  | nil => grind [putEntry]
  | cons entry rest ih => grind [putEntry]

theorem length_putEntry (entries : List (String × Value)) (name : String) (value : Value) :
    (putEntry name value entries).length =
      if entries.lookup name = none then entries.length + 1 else entries.length := by
  induction entries with
  | nil => grind [putEntry]
  | cons entry rest ih => grind [putEntry]

namespace Bindings

def empty : Bindings := {}

def get? (b : Bindings) (name : String) : Option Value :=
  b.entries.lookup name

def contains (b : Bindings) (name : String) : Bool :=
  (b.get? name).isSome

def set (b : Bindings) (name : String) (value : Value) : Bindings :=
  { entries := putEntry name value b.entries }

def size (b : Bindings) : Nat :=
  b.entries.length

def isEmpty (b : Bindings) : Bool :=
  b.entries.isEmpty

theorem get?_set (b : Bindings) (name wanted : String) (value : Value) :
    (b.set name value).get? wanted = if wanted = name then some value else b.get? wanted :=
  lookup_putEntry b.entries name wanted value

theorem size_set (b : Bindings) (name : String) (value : Value) :
    (b.set name value).size = if b.get? name = none then b.size + 1 else b.size :=
  length_putEntry b.entries name value

end Bindings

def lookupNearest (chain : List Bindings) (name : String) : Option Value :=
  chain.findSome? (·.get? name)

end CueScript
