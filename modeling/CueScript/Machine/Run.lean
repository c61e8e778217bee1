import CueScript.Machine.State

set_option autoImplicit false

namespace CueScript

inductive Outcome (α : Type) where
  | done (value : α) (machine : Machine)
  | failed (fault : Fault) (machine : Machine)
  | exhausted

def Run (α : Type) : Type :=
  Machine → Outcome α

namespace Run

@[inline]
protected def pure {α : Type} (a : α) : Run α :=
  fun m => .done a m

@[inline]
protected def bind {α β : Type} (x : Run α) (f : α → Run β) : Run β :=
  fun m => match x m with
    | .done a m => f a m
    | .failed fault m => .failed fault m
    | .exhausted => .exhausted

instance : Monad Run where
  pure := Run.pure
  bind := Run.bind

instance : LawfulMonad Run :=
  LawfulMonad.mk' Run
    (fun x => by funext m; show Run.bind x _ m = _; unfold Run.bind; cases x m <;> rfl)
    (fun _ _ => rfl)
    (fun x f g => by funext m; show Run.bind (Run.bind x f) g m = Run.bind x _ m; unfold Run.bind; cases x m <;> rfl)

def exhausted {α : Type} : Run α :=
  fun _ => .exhausted

@[inline]
def fail {α : Type} (fault : Fault) : Run α :=
  fun m => .failed fault m

@[inline]
def read {α : Type} (f : Machine → α) : Run α :=
  fun m => .done (f m) m

@[inline]
def modify (f : Machine → Machine) : Run Unit :=
  fun m => .done () (f m)

@[inline]
def step {α : Type} (f : Machine → α × Machine) : Run α :=
  fun m => match f m with
    | (a, m) => .done a m

def report (severity : Severity) (text : String) : Run Unit :=
  modify (·.report severity text)

def warn (text : String) : Run Unit :=
  report .warning text

@[inline]
def afterwards {α : Type} (x : Run α) (f : Machine → Machine) : Run α :=
  fun m => match x m with
    | .done a m => .done a (f m)
    | .failed fault m => .failed fault (f m)
    | .exhausted => .exhausted

@[inline]
def locate {α : Type} (x : Run α) (inst : Instruction) : Run α :=
  fun m => match x m with
    | .failed fault m => .failed (fault.located (inst.location m.file)) m
    | outcome => outcome

def traced {α : Type} (x : Run α) (function : String) : Run α := do
  modify (·.note (.entered function))
  afterwards x (·.note .left)

end Run

end CueScript
