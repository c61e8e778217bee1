import CueScript.Machine.Run

set_option autoImplicit false

namespace CueScript

namespace Action

def retireMe : Run Unit := do
  match ← Run.read (·.current) with
  | some id => Run.modify fun m => { m with handlers := m.handlers.modify id Handler.retire }
  | none => Run.warn "del_me: not inside a handler"

def retireKind : Run Unit := do
  match ← Run.read (·.running?) with
  | some h => Run.modify fun m => { m with handlers := m.handlers.retireKind h.kind }
  | none => Run.warn "del_us: not inside a handler"

def retireAll : Run Unit :=
  Run.modify fun m => { m with handlers := m.handlers.retireAll }

def handlerId? (name : String) (args : List Value) : Run (Option HandlerId) := do
  match args with
  | [v] =>
    if v.toInt < 0 ∨ 0xFFFFFFFF < v.toInt then
      Run.warn s!"{name}: {← Run.read fun m => v.display m.store} is not a handler id; ignored"
      pure none
    else pure (some v.toInt.toInt.toNat)
  | args =>
    Run.warn s!"{name}: expected 1 argument, got {args.length}; ignored"
    pure none

def steer (name : String) (change : Handler → Handler) (args : List Value) : Run Unit := do
  match ← handlerId? name args with
  | none => pure ()
  | some id =>
    if ← Run.read (·.handlers.contains id) then
      Run.modify fun m => { m with handlers := m.handlers.modify id change }
    else Run.warn s!"{name}: no handler #{id}"

def eventKind? : Value → Option EventKind
  | .text name => EventKind.ofName? name
  | v => EventKind.ofCode? v.toInt

def paramLimit : Nat := 4

def post (args : List Value) : Run Unit := do
  match args with
  | [] => Run.warn "PostMes: missing event kind; ignored"
  | v :: params =>
    match eventKind? v with
    | some kind => Run.modify (·.post { kind, params := params.take paramLimit })
    | none => Run.warn s!"PostMes: unknown event kind {← Run.read fun m => v.display m.store}; ignored"

/-- The units to wait for, one if none are given. -/
def waitUnits (v : Value) : Int64 :=
  if v.isNil then 1 else v.toInt

def exitTitle : Run Unit := do
  retireAll
  Run.modify fun m => { m with stopped := true }

end Action

end CueScript
