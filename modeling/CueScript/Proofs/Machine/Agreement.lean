import CueScript.Machine.Run

/-!
Two runs side by side. The left one may end in a way that is excused; otherwise both end alike, with the same value or
the same fault, in states that a given relation joins.
-/

set_option autoImplicit false

namespace CueScript

/-- Ends of a run that say nothing about another one. Only a fatal fault can be excused: a block goes on after any
other. -/
structure Excuse where
  exhausted : Prop
  fault : FaultKind → Prop
  fatal : ∀ kind, fault kind → kind.isFatal = true

namespace Excuse

def nothing : Excuse := ⟨False, fun _ => False, nofun⟩

def fuel : Excuse := ⟨True, fun _ => False, nofun⟩

end Excuse

variable {α β : Type} {E : Excuse} {S : Machine → Machine → Prop} {ok : α → Prop}

inductive Outcome.Agrees (E : Excuse) (S : Machine → Machine → Prop) (ok : α → Prop) : Outcome α → Outcome α → Prop
  | done {a : α} {m₁ m₂ : Machine} (holds : ok a) (joined : S m₁ m₂) : Agrees E S ok (.done a m₁) (.done a m₂)
  | failed {fault : Fault} {m₁ m₂ : Machine} (joined : S m₁ m₂) : Agrees E S ok (.failed fault m₁) (.failed fault m₂)
  | exhausted (excused : E.exhausted) (other : Outcome α) : Agrees E S ok .exhausted other
  | abandoned {fault : Fault} {m₁ : Machine} (excused : E.fault fault.kind) (other : Outcome α) :
    Agrees E S ok (.failed fault m₁) other

theorem Outcome.Agrees.imp {S' : Machine → Machine → Prop} {ok' : α → Prop} {left right : Outcome α}
    (agrees : left.Agrees E S ok right) (joins : ∀ m₁ m₂, S m₁ m₂ → S' m₁ m₂) (weaker : ∀ a, ok a → ok' a) :
    left.Agrees E S' ok' right := by
  cases agrees with
  | done holds joined => exact .done (weaker _ holds) (joins _ _ joined)
  | failed joined => exact .failed (joins _ _ joined)
  | exhausted excused => exact .exhausted excused _
  | abandoned excused => exact .abandoned excused _

theorem Outcome.Agrees.of_done {a : α} {m₁ : Machine} {right : Outcome α}
    (agrees : (Outcome.done a m₁).Agrees E S ok right) :
    ∃ m₂, right = .done a m₂ ∧ S m₁ m₂ := by
  cases agrees with
  | done _ joined => exact ⟨_, rfl, joined⟩

namespace Run

/-- From joined states the runs end alike, and a value that they end with satisfies `ok`. -/
def Agrees (E : Excuse) (S : Machine → Machine → Prop) (ok : α → Prop) (x y : Run α) : Prop :=
  ∀ m₁ m₂, S m₁ m₂ → (x m₁).Agrees E S ok (y m₂)

abbrev Parallel (E : Excuse) (S : Machine → Machine → Prop) (x y : Run α) : Prop :=
  Agrees E S (fun _ => True) x y

theorem Agrees.weaken {ok' : α → Prop} {x y : Run α} (agrees : Agrees E S ok x y) (weaker : ∀ a, ok a → ok' a) :
    Agrees E S ok' x y :=
  fun m₁ m₂ joined => (agrees m₁ m₂ joined).imp (fun _ _ joined => joined) weaker

theorem agrees_pure {a : α} (holds : ok a) : Agrees E S ok (pure a) (pure a) :=
  fun _ _ joined => .done holds joined

theorem agrees_fail (fault : Fault) : Agrees E S ok (fail fault) (fail fault) :=
  fun _ _ joined => .failed joined

theorem agrees_exhausted (excused : E.exhausted) (y : Run α) : Agrees E S ok exhausted y :=
  fun _ m₂ _ => .exhausted excused (y m₂)

theorem agrees_read {f : Machine → α} (same : ∀ m₁ m₂, S m₁ m₂ → f m₁ = f m₂) (holds : ∀ m₁ m₂, S m₁ m₂ → ok (f m₁)) :
    Agrees E S ok (read f) (read f) := by
  intro m₁ m₂ joined
  unfold read
  rw [← same m₁ m₂ joined]
  exact .done (holds m₁ m₂ joined) joined

theorem parallel_modify {f : Machine → Machine} (keeps : ∀ m₁ m₂, S m₁ m₂ → S (f m₁) (f m₂)) :
    Parallel E S (modify f) (modify f) :=
  fun m₁ m₂ joined => .done trivial (keeps m₁ m₂ joined)

theorem agrees_step {f : Machine → α × Machine} (same : ∀ m₁ m₂, S m₁ m₂ → (f m₁).1 = (f m₂).1)
    (keeps : ∀ m₁ m₂, S m₁ m₂ → S (f m₁).2 (f m₂).2) (holds : ∀ m₁ m₂, S m₁ m₂ → ok (f m₁).1) :
    Agrees E S ok (step f) (step f) := by
  intro m₁ m₂ joined
  change Outcome.Agrees E S ok (.done (f m₁).1 (f m₁).2) (.done (f m₂).1 (f m₂).2)
  rw [← same m₁ m₂ joined]
  exact .done (holds m₁ m₂ joined) (keeps m₁ m₂ joined)

theorem Agrees.bind {ok' : β → Prop} {x y : Run α} {f g : α → Run β} (first : Agrees E S ok x y)
    (next : ∀ a, ok a → Agrees E S ok' (f a) (g a)) : Agrees E S ok' (x >>= f) (y >>= g) := by
  intro m₁ m₂ joined
  change Outcome.Agrees E S ok' (Run.bind x f m₁) (Run.bind y g m₂)
  unfold Run.bind
  have ends := first m₁ m₂ joined
  generalize x m₁ = left, y m₂ = right at ends ⊢
  cases ends with
  | done holds joined => exact next _ holds _ _ joined
  | failed joined => exact .failed joined
  | exhausted excused => exact .exhausted excused _
  | abandoned excused => exact .abandoned excused _

theorem Agrees.map {ok : β → Prop} {x y : Run α} (f : α → β) (agrees : Agrees E S (fun a => ok (f a)) x y) :
    Agrees E S ok (f <$> x) (f <$> y) := by
  rw [map_eq_pure_bind, map_eq_pure_bind]
  exact agrees.bind fun a holds => agrees_pure holds

theorem Agrees.locate {x y : Run α} {inst inst' : Instruction} (agrees : Agrees E S ok x y)
    (line : inst'.line = inst.line) (file : ∀ m₁ m₂, S m₁ m₂ → m₁.file = m₂.file) :
    Agrees E S ok (x.locate inst) (y.locate inst') := by
  intro m₁ m₂ joined
  unfold Run.locate
  have ends := agrees m₁ m₂ joined
  generalize x m₁ = left, y m₂ = right at ends ⊢
  cases ends with
  | done holds joined => exact .done holds joined
  | failed joined =>
    simp only [Instruction.location, line, file _ _ joined]
    exact .failed joined
  | exhausted excused => exact .exhausted excused _
  | @abandoned fault _ excused =>
    -- Where a fault arose does not matter for whether it is excused.
    have located (location : Option Location) : E.fault (fault.located location).kind := excused
    exact .abandoned (located _) _

theorem Agrees.traced {S' : Machine → Machine → Prop} {x y : Run α} {function : String} (agrees : Agrees E S' ok x y)
    (entered : ∀ m₁ m₂, S m₁ m₂ → S' (m₁.note (.entered function)) (m₂.note (.entered function)))
    (left : ∀ m₁ m₂, S' m₁ m₂ → S (m₁.note .left) (m₂.note .left)) :
    Agrees E S ok (x.traced function) (y.traced function) := by
  intro m₁ m₂ joined
  change Outcome.Agrees E S ok (x.afterwards (·.note .left) (m₁.note (.entered function)))
    (y.afterwards (·.note .left) (m₂.note (.entered function)))
  unfold Run.afterwards
  have ends := agrees _ _ (entered m₁ m₂ joined)
  generalize x (m₁.note (.entered function)) = leftEnd, y (m₂.note (.entered function)) = rightEnd at ends ⊢
  cases ends with
  | done holds joined => exact .done holds (left _ _ joined)
  | failed joined => exact .failed (left _ _ joined)
  | exhausted excused => exact .exhausted excused _
  | abandoned excused => exact .abandoned excused _

theorem parallel_forM {γ : Type} {f : γ → Run Unit} (each : ∀ c, Parallel E S (f c) (f c)) (cs : List γ) :
    Parallel E S (cs.forM f) (cs.forM f) := by
  induction cs with
  | nil => exact agrees_pure trivial
  | cons c rest ih => exact (each c).bind fun _ _ => ih

theorem parallel_option_forM {γ : Type} {f : γ → Run Unit} (each : ∀ c, Parallel E S (f c) (f c)) (c : Option γ) :
    Parallel E S (c.forM f) (c.forM f) := by
  cases c with
  | none => exact agrees_pure trivial
  | some c => exact each c

end Run

end CueScript
