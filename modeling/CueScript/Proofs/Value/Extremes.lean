import CueScript.Proofs.Text.Search
import CueScript.Proofs.Decimal.Nearest

set_option autoImplicit false

namespace CueScript

open Decimal (ofInt64 rounded)

section Choosing

variable {builtin : Builtin} {keeps : Float → Float → Bool} {beyond : Int64 → Int64 → Prop} {rank : Int64 → Int}
  {args args' : List Int64} {best best' : Int64}

/-- The first of some numbers of the highest rank. -/
def Leads (rank : Int64 → Int) (args : List Int64) (best : Int64) : Prop :=
  ∃ ahead behind, args = ahead ++ best :: behind ∧ (∀ n ∈ ahead, rank n < rank best) ∧ ∀ n ∈ behind, rank n ≤ rank best

theorem Leads.mem (leads : Leads rank args best) : best ∈ args := by
  obtain ⟨ahead, behind, rfl, -, -⟩ := leads
  exact List.mem_append_right ahead (List.mem_cons_self ..)

theorem Leads.le (leads : Leads rank args best) {n : Int64} (inside : n ∈ args) : rank n ≤ rank best := by
  obtain ⟨ahead, behind, rfl, less, most⟩ := leads
  rcases List.mem_append.mp inside with front | back
  next => exact (less n front).le
  next =>
    rcases List.mem_cons.mp back with rfl | later
    next => exact le_refl _
    next => exact most n later

theorem leads_one (rank : Int64 → Int) (n : Int64) : Leads rank [n] n :=
  ⟨[], [], rfl, nofun, nofun⟩

theorem Leads.append (leads : Leads rank args best) (n : Int64) :
    Leads rank (args ++ [n]) (if rank n ≤ rank best then best else n) := by
  split
  next lower =>
    obtain ⟨ahead, behind, rfl, less, most⟩ := leads
    refine ⟨ahead, behind ++ [n], by simp, less, fun k inside => ?_⟩
    rcases List.mem_append.mp inside with earlier | last
    next => exact most k earlier
    next => rwa [List.mem_singleton.mp last]
  next higher =>
    exact ⟨args, [], rfl, fun k inside => (leads.le inside).trans_lt (not_le.mp higher), nofun⟩

/-- A rank by floats. The builtin goes by it, and it does not fall from a number to one beyond it. -/
structure Ranks (builtin : Builtin) (keeps : Float → Float → Bool) (beyond : Int64 → Int64 → Prop)
    (rank : Int64 → Int) : Prop where
  answers : ∀ (m : Machine) (first : Value) (rest : List Value),
    m.Answers builtin (first :: rest) (Action.extreme keeps first rest)
  keeps_iff : ∀ a b, keeps (ofInt64 a) (ofInt64 b) = true ↔ rank b ≤ rank a
  eq_iff : ∀ a b, ofInt64 a = ofInt64 b ↔ rank a = rank b
  mono : ∀ a b, beyond a b → rank b ≤ rank a
  irrefl : ∀ n, ¬ beyond n n

theorem ranks_max : Ranks .max (fun a b => b ≤ a) (fun a b => b < a) (fun n => rounded n.toInt) where
  answers _ _ _ := rfl
  keeps_iff a b := by rw [decide_eq_true_iff, Decimal.ofInt64_le_iff]
  eq_iff := Decimal.ofInt64_eq_iff
  mono _ _ greater := Decimal.rounded_mono (Int64.lt_iff_toInt_lt.mp greater).le
  irrefl _ := Int64.lt_irrefl

theorem ranks_min : Ranks .min (fun a b => a ≤ b) (fun a b => a < b) (fun n => -rounded n.toInt) where
  answers _ _ _ := rfl
  keeps_iff a b := by rw [decide_eq_true_iff, Decimal.ofInt64_le_iff, neg_le_neg_iff]
  eq_iff a b := by rw [Decimal.ofInt64_eq_iff, neg_inj]
  mono _ _ less := neg_le_neg (Decimal.rounded_mono (Int64.lt_iff_toInt_lt.mp less).le)
  irrefl _ := Int64.lt_irrefl

-- The numbers up to here are the invariant: the one that is kept leads them.
theorem Ranks.foldl_leads (ranks : Ranks builtin keeps beyond rank) (leads : Leads rank args best)
    (rest : List Int64) : ∃ last,
    (rest.map Value.int).foldl (fun best v => if keeps best.toFloat v.toFloat then best else v) (.int best) =
      .int last ∧ Leads rank (args ++ rest) last := by
  induction rest generalizing args best with
  | nil => exact ⟨best, rfl, by rwa [List.append_nil]⟩
  | cons n rest ih =>
    obtain ⟨last, folded, leads'⟩ := ih (leads.append n)
    refine ⟨last, ?_, by rwa [List.append_assoc] at leads'⟩
    have kept : (if keeps (ofInt64 best) (ofInt64 n) then Value.int best else .int n) =
        .int (if rank n ≤ rank best then best else n) := by
      simp only [ranks.keeps_iff]
      split <;> rfl
    rw [← folded, ← kept]
    rfl

theorem Ranks.answers_leads (ranks : Ranks builtin keeps beyond rank) (m : Machine) (nonempty : args ≠ []) :
    ∃ best, m.Answers builtin (args.map .int) (.int best) ∧ Leads rank args best := by
  cases args with
  | nil => exact absurd rfl nonempty
  | cons first rest =>
    obtain ⟨best, folded, leads⟩ := ranks.foldl_leads (leads_one rank first) rest
    refine ⟨best, ?_, leads⟩
    rw [List.map_cons, answers_iff (ranks.answers m _ _), Action.extreme, folded]
    rfl

def ToldApart (args : List Int64) : Prop :=
  ∀ a ∈ args, ∀ b ∈ args, ofInt64 a = ofInt64 b → a = b

/-- The first of the numbers with its float. Those that are beyond it nevertheless share the float and are near. -/
structure Outermost (beyond : Int64 → Int64 → Prop) (args : List Int64) (best : Int64) : Prop where
  first : args.find? (fun n => ofInt64 n = ofInt64 best) = some best
  same : ∀ n ∈ args, beyond n best → ofInt64 n = ofInt64 best
  near : ∀ n ∈ args, beyond n best → (n.toInt - best.toInt).natAbs ≤ 1024

theorem near_of_same_float {a b : Int64} (same : ofInt64 a = ofInt64 b) : (a.toInt - b.toInt).natAbs ≤ 1024 := by
  have fits (n : Int64) : n.toInt.natAbs ≤ 2 ^ 63 := by
    have low := n.le_toInt
    have high := n.toInt_lt
    omega
  have left := Decimal.rounded_near (fits a)
  have right := Decimal.rounded_near (fits b)
  rw [Decimal.ofInt64_eq_iff] at same
  omega

theorem Ranks.outermost (ranks : Ranks builtin keeps beyond rank) (leads : Leads rank args best) :
    Outermost beyond args best := by
  have same : ∀ n ∈ args, beyond n best → ofInt64 n = ofInt64 best := fun n inside further =>
    (ranks.eq_iff n best).mpr (le_antisymm (leads.le inside) (ranks.mono n best further))
  refine ⟨?_, same, fun n inside further => near_of_same_float (same n inside further)⟩
  obtain ⟨ahead, behind, whole, less, -⟩ := leads
  refine List.find?_eq_some_iff_append.mpr ⟨decide_eq_true rfl, ahead, behind, whole, fun n inside => ?_⟩
  simpa [ranks.eq_iff] using (less n inside).ne

theorem Ranks.not_beyond (ranks : Ranks builtin keeps beyond rank) (leads : Leads rank args best)
    (apart : ToldApart args) {n : Int64} (inside : n ∈ args) : ¬ beyond n best := by
  intro further
  have same := apart n inside best leads.mem ((ranks.outermost leads).same n inside further)
  rw [same] at further
  exact ranks.irrefl best further

theorem Ranks.answers_perm (ranks : Ranks builtin keeps beyond rank) (m : Machine) (leads : Leads rank args best)
    (apart : ToldApart args) (reordered : args'.Perm args) : m.Answers builtin (args'.map .int) (.int best) := by
  have nonempty : args' ≠ [] := List.ne_nil_of_mem (reordered.mem_iff.mpr leads.mem)
  obtain ⟨best', answers, leads'⟩ := ranks.answers_leads m nonempty
  -- Each of the two is in the other's list, so they share a rank and with it a float.
  have below := leads.le (reordered.mem_iff.mp leads'.mem)
  have above := leads'.le (reordered.mem_iff.mpr leads.mem)
  have same := (ranks.eq_iff best' best).mpr (le_antisymm below above)
  rwa [← apart best' (reordered.mem_iff.mp leads'.mem) best leads.mem same]

theorem toldApart_of_small (small : ∀ n ∈ args, n.toInt.natAbs ≤ 2 ^ 53) : ToldApart args := by
  intro a inside b inside' same
  rw [Decimal.ofInt64_eq_iff, Decimal.rounded_exact (small a inside), Decimal.rounded_exact (small b inside')] at same
  exact Int64.toInt_inj.mp same

end Choosing

/-- The greatest and the least of some integers are among them, and only numbers with the same float can go beyond them.
Where floats tell the numbers apart, as they do up to `2 ^ 53`, they are the bounds of the numbers in any order. -/
theorem extremes_bound_up_to_float (m : Machine) (args : List Int64) (nonempty : args ≠ []) : ∃ high low : Int64,
    (m.Answers .max (args.map .int) (.int high) ∧ m.Answers .min (args.map .int) (.int low)) ∧
    (high ∈ args ∧ low ∈ args) ∧
    Outermost (fun n best => best < n) args high ∧ Outermost (fun n best => n < best) args low ∧
    (ToldApart args → (∀ n ∈ args, low ≤ n ∧ n ≤ high) ∧ ∀ args' : List Int64, args'.Perm args →
      m.Answers .max (args'.map .int) (.int high) ∧ m.Answers .min (args'.map .int) (.int low)) ∧
    ((∀ n ∈ args, n.toInt.natAbs ≤ 2 ^ 53) → ToldApart args) := by
  obtain ⟨high, greatest, above⟩ := ranks_max.answers_leads m nonempty
  obtain ⟨low, least, below⟩ := ranks_min.answers_leads m nonempty
  refine ⟨high, low, ⟨greatest, least⟩, ⟨above.mem, below.mem⟩, ranks_max.outermost above, ranks_min.outermost below,
    fun apart => ⟨fun n inside => ⟨?_, ?_⟩, fun args' reordered => ⟨?_, ?_⟩⟩, toldApart_of_small⟩
  · exact Int64.not_lt.mp (ranks_min.not_beyond below apart inside)
  · exact Int64.not_lt.mp (ranks_max.not_beyond above apart inside)
  · exact ranks_max.answers_perm m above apart reordered
  · exact ranks_min.answers_perm m below apart reordered

theorem extremes_bound_small_numbers : ∃ high low : Int64,
    (plainMachine.Answers .max [.int 3, .int 9007199254740992, .int (-9007199254740992)] (.int high) ∧
      plainMachine.Answers .min [.int 3, .int 9007199254740992, .int (-9007199254740992)] (.int low)) ∧
    (∀ n ∈ [3, 9007199254740992, -9007199254740992], low ≤ n ∧ n ≤ high) ∧
    plainMachine.Answers .max [.int 9007199254740992, .int 3, .int (-9007199254740992)] (.int high) := by
  obtain ⟨high, low, answers, -, -, -, bounds, small⟩ :=
    extremes_bound_up_to_float plainMachine [3, 9007199254740992, -9007199254740992] (by decide)
  obtain ⟨between, reordered⟩ := bounds (small (by simp))
  exact ⟨high, low, answers, between, (reordered [9007199254740992, 3, -9007199254740992] (.swap ..)).1⟩

theorem first_neighbour_is_extreme : (9007199254740992 : Int64) < 9007199254740993 ∧
    (plainMachine.Answers .max [.int 9007199254740992, .int 9007199254740993] (.int 9007199254740992) ∧
      plainMachine.Answers .max [.int 9007199254740993, .int 9007199254740992] (.int 9007199254740993)) ∧
    (plainMachine.Answers .min [.int 9007199254740993, .int 9007199254740992] (.int 9007199254740993) ∧
      plainMachine.Answers .min [.int 9007199254740992, .int 9007199254740993] (.int 9007199254740992)) := by
  refine ⟨by decide, ⟨?_, ?_⟩, ⟨?_, ?_⟩⟩
  · exact (answers_iff (ranks_max.answers plainMachine _ _)).mpr (by decide)
  · exact (answers_iff (ranks_max.answers plainMachine _ _)).mpr (by decide)
  · exact (answers_iff (ranks_min.answers plainMachine _ _)).mpr (by decide)
  · exact (answers_iff (ranks_min.answers plainMachine _ _)).mpr (by decide)

end CueScript
