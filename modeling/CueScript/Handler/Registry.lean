import CueScript.Handler.Basic

set_option autoImplicit false

namespace CueScript

structure Registry where
  handlers : List Handler := []
  nextId : HandlerId := 1

namespace Registry

def register (r : Registry) (kind : EventKind) (body : Block) : HandlerId × Registry :=
  (r.nextId, { handlers := r.handlers ++ [{ id := r.nextId, kind, body }], nextId := r.nextId + 1 })

def get? (r : Registry) (id : HandlerId) : Option Handler :=
  r.handlers.find? (·.id == id)

def contains (r : Registry) (id : HandlerId) : Bool :=
  (r.get? id).isSome

def modifyFirst (id : HandlerId) (change : Handler → Handler) : List Handler → List Handler
  | [] => []
  | h :: rest => if h.id = id then change h :: rest else h :: modifyFirst id change rest

def modify (r : Registry) (id : HandlerId) (change : Handler → Handler) : Registry :=
  { r with handlers := modifyFirst id change r.handlers }

def idsFor (r : Registry) (kind : EventKind) : List HandlerId :=
  (r.handlers.filter (·.kind == kind)).map (·.id)

def retireKind (r : Registry) (kind : EventKind) : Registry :=
  { r with handlers := r.handlers.map fun h => if h.kind = kind then h.retire else h }

def retireAll (r : Registry) : Registry :=
  { r with handlers := r.handlers.map Handler.retire }

def sweep (r : Registry) : Registry :=
  { r with handlers := r.handlers.filter (!·.retired) }

def size (r : Registry) : Nat :=
  r.handlers.length

def isEmpty (r : Registry) : Bool :=
  r.handlers.isEmpty

def clear (r : Registry) : Registry :=
  { r with handlers := [] }

end Registry

end CueScript
