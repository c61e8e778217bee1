import CueScript.Audio.Timer
import Mathlib.Algebra.Ring.Nat
import Mathlib.Data.List.Basic
import Mathlib.Tactic.Common

set_option autoImplicit false

namespace CueScript

namespace TickTimer

inductive Call where
  | start (now : Nat)
  | due (now : Nat)
  | stop
deriving DecidableEq

def Call.poll? : Call → Option Nat
  | .due now => some now
  | _ => none

def polls (calls : List Call) : List Nat :=
  calls.filterMap Call.poll?

def step (t : TickTimer) : Call → TickTimer
  | .start now => t.start now
  | .due now => (t.due now).2
  | .stop => t.stop

def after (t : TickTimer) (calls : List Call) : TickTimer :=
  calls.foldl step t

def reports (t : TickTimer) : List Call → List Nat
  | [] => []
  | .start now :: rest => (t.start now).reports rest
  | .due now :: rest => (t.due now).1 :: (t.due now).2.reports rest
  | .stop :: rest => t.stop.reports rest

/-- All ticks from a start on; the slowest timer ticks once a second. -/
def ticks (rate : UInt32) (start now : Nat) : Nat :=
  (now - start) * max rate.toNat 1 / 10 ^ 9

def gaps (rate : UInt32) (start last : Nat) (times : List Nat) : List Nat :=
  times.zipWith (fun now last => ticks rate start now - ticks rate start last) (last :: times)

section Gaps

variable {rate : UInt32} {start last : Nat}

theorem ticks_mono {now later : Nat} (ordered : now ≤ later) : ticks rate start now ≤ ticks rate start later :=
  Nat.div_le_div_right (Nat.mul_le_mul_right _ (Nat.sub_le_sub_right ordered start))

theorem gaps_append (earlier later : List Nat) : gaps rate start last (earlier ++ later) =
    gaps rate start last earlier ++ gaps rate start (earlier.getLastD last) later := by
  induction earlier generalizing last with
  | nil => rfl
  | cons now rest ih =>
    simp only [gaps, List.cons_append, List.zipWith_cons_cons, List.getLastD_cons] at ih ⊢
    rw [ih]

theorem le_getLastD {times : List Nat} (ordered : (last :: times).Pairwise (· ≤ ·)) :
    ∀ now ∈ last :: times, now ≤ times.getLastD last := by
  induction times generalizing last with
  | nil => simp
  | cons now rest ih =>
    obtain ⟨first, others⟩ := List.pairwise_cons.mp ordered
    have later := ih others
    rw [List.getLastD_cons]
    rintro time (_ | ⟨_, member⟩)
    · exact Nat.le_trans (first now List.mem_cons_self) (later now List.mem_cons_self)
    · exact later time member

theorem sum_gaps (rate : UInt32) (start : Nat) {times : List Nat} (ordered : (last :: times).Pairwise (· ≤ ·)) :
    ticks rate start last + (gaps rate start last times).sum = ticks rate start (times.getLastD last) := by
  induction times generalizing last with
  | nil => rfl
  | cons now rest ih =>
    obtain ⟨first, others⟩ := List.pairwise_cons.mp ordered
    have before : ticks rate start last ≤ ticks rate start now := ticks_mono (first now List.mem_cons_self)
    have later := ih others
    simp only [gaps, List.zipWith_cons_cons, List.sum_cons, List.getLastD_cons] at later ⊢
    omega

theorem sum_map_min_le (burst : Nat) (counts : List Nat) : (counts.map (min burst)).sum ≤ counts.sum := by
  induction counts with
  | nil => exact Nat.le_refl 0
  | cons count rest ih =>
    simp only [List.map_cons, List.sum_cons]
    omega

theorem sum_map_min_eq_iff (burst : Nat) (counts : List Nat) :
    (counts.map (min burst)).sum = counts.sum ↔ ∀ count ∈ counts, count ≤ burst := by
  induction counts with
  | nil => simp
  | cons count rest ih =>
    have others := sum_map_min_le burst rest
    simp only [List.map_cons, List.sum_cons, List.forall_mem_cons, ← ih]
    omega

end Gaps

@[simp] theorem rate_step (t : TickTimer) (call : Call) : (t.step call).rate = t.rate := by
  cases call with
  | start now =>
    simp only [step, TickTimer.start]
    split <;> rfl
  | due now =>
    simp only [step, TickTimer.due]
    split <;> rfl
  | stop => rfl

theorem rate_after (t : TickTimer) (calls : List Call) : (t.after calls).rate = t.rate := by
  induction calls generalizing t with
  | nil => rfl
  | cons call rest ih => exact (ih _).trans (t.rate_step call)

structure Counts (t : TickTimer) (rate : UInt32) (start last : Nat) : Prop where
  paced : t.rate = max rate.toNat 1
  started : t.started = some start
  emitted : t.emitted = ticks rate start last

namespace Counts

variable {t : TickTimer} {rate : UInt32} {start last : Nat}

theorem keeps_phase (counts : t.Counts rate start last) (now : Nat) : t.start now = t :=
  if_pos (by rw [isRunning, counts.started, Option.isSome_some])

theorem due (counts : t.Counts rate start last) {now : Nat} (counted : ticks rate start now < 2 ^ 64) :
    (t.due now).1 = min 8 (ticks rate start now - ticks rate start last) ∧ (t.due now).2.Counts rate start now := by
  have total : t.total start now = ticks rate start now := by
    rw [TickTimer.total, counts.paced]
    exact Nat.mod_eq_of_lt counted
  have answered : t.due now =
      (min (ticks rate start now - ticks rate start last) maxBurst, { t with emitted := ticks rate start now }) := by
    simp only [TickTimer.due, counts.started, total, counts.emitted]
  rw [answered, Nat.min_comm]
  exact ⟨rfl, counts.paced, counts.started, rfl⟩

theorem reports (counts : t.Counts rate start last) {calls : List Call} (unbroken : .stop ∉ calls)
    (counted : ∀ now ∈ polls calls, ticks rate start now < 2 ^ 64) :
    t.reports calls = (gaps rate start last (polls calls)).map (min 8) := by
  induction calls generalizing t last with
  | nil => rfl
  | cons call rest ih =>
    have goesOn : Call.stop ∉ rest := fun member => unbroken (List.mem_cons_of_mem call member)
    cases call with
    | start now =>
      rw [TickTimer.reports, counts.keeps_phase now]
      exact ih counts goesOn counted
    | due now =>
      obtain ⟨reported, next⟩ := counts.due (counted now List.mem_cons_self)
      have later := ih next goesOn fun time member => counted time (List.mem_cons_of_mem now member)
      rw [TickTimer.reports, reported, later]
      rfl
    | stop => exact absurd List.mem_cons_self unbroken

end Counts

theorem isRunning_after_stop (t : TickTimer) (calls : List Call) :
    (t.after (calls ++ [.stop])).isRunning = false := by
  rw [after, List.foldl_append]
  rfl

theorem counts_start {rate : UInt32} {history : List Call} (idle : ((ofRate rate).after history).isRunning = false)
    (start : Nat) : ((ofRate rate).after (history ++ [.start start])).Counts rate start start := by
  have fresh : (ofRate rate).after (history ++ [.start start]) =
      { (ofRate rate).after history with started := some start, emitted := 0 } := by
    rw [after, List.foldl_append]
    exact if_neg (by rw [← after, idle]; exact Bool.false_ne_true)
  have none : ticks rate start start = 0 := by simp [ticks]
  rw [fresh]
  exact ⟨rate_after _ history, rfl, none.symm⟩

/-- A timer that does not run, as a new one and one that was stopped, is started and then polled at times that do not
decrease, with any further starts between. -/
theorem polls_conserve_ticks (rate : UInt32) (history calls : List Call) (start : Nat)
    (idle : ((ofRate rate).after history).isRunning = false) (unbroken : .stop ∉ calls)
    (ordered : (start :: polls calls).Pairwise (· ≤ ·))
    (counted : ticks rate start ((polls calls).getLastD start) < 2 ^ 64) :
    let told := ((ofRate rate).after (history ++ [.start start])).reports calls
    told = (gaps rate start start (polls calls)).map (min 8) ∧
    told.sum ≤ ticks rate start ((polls calls).getLastD start) ∧
    (told.sum = ticks rate start ((polls calls).getLastD start) ↔
      ∀ gap ∈ gaps rate start start (polls calls), gap ≤ 8) ∧
    (∀ earlier later, polls calls = earlier ++ later → (told.drop earlier.length).sum ≤
      ticks rate start ((polls calls).getLastD start) - ticks rate start (earlier.getLastD start)) ∧
    (ofRate rate).isRunning = false ∧ ∀ past, ((ofRate rate).after (past ++ [.stop])).isRunning = false := by
  intro told
  have bounded (now : Nat) (member : now ∈ polls calls) : ticks rate start now < 2 ^ 64 :=
    Nat.lt_of_le_of_lt (ticks_mono (le_getLastD ordered now (List.mem_cons_of_mem start member))) counted
  have reported : told = (gaps rate start start (polls calls)).map (min 8) :=
    (counts_start idle start).reports unbroken bounded
  have none : ticks rate start start = 0 := by simp [ticks]
  have total : (gaps rate start start (polls calls)).sum = ticks rate start ((polls calls).getLastD start) := by
    rw [← sum_gaps rate start ordered, none, Nat.zero_add]
  refine ⟨reported, ?_, ?_, fun earlier later parts => ?_, rfl, isRunning_after_stop _⟩
  · rw [reported, ← total]
    exact sum_map_min_le 8 _
  · rw [reported, ← total]
    exact sum_map_min_eq_iff 8 _
  · -- What was cut off before is in none of the later gaps.
    rw [parts] at ordered reported total ⊢
    have before := sum_gaps rate start (ordered.sublist ((List.sublist_append_left earlier later).cons_cons start))
    have length : ((gaps rate start start earlier).map (min 8)).length = earlier.length := by simp [gaps]
    rw [gaps_append, List.sum_append] at total
    rw [reported, gaps_append, List.map_append, List.drop_left' length]
    have bound := sum_map_min_le 8 (gaps rate start (earlier.getLastD start) later)
    omega

theorem late_poll_drops_ticks :
    ((ofRate 60).after [.start 5, .due 999, .stop, .due 70]).isRunning = false ∧
    ((ofRate 60).after [.start 5, .due 999, .stop, .due 70, .start 100]).reports
      [.due 16666767, .start 16666768, .due 50000100, .due 1000000100, .due 1000000100] = [1, 2, 8, 0] ∧
    ticks 60 100 1000000100 = 60 := by
  have idle : ((ofRate 60).after [.start 5, .due 999, .stop, .due 70]).isRunning = false := by decide
  obtain ⟨reported, -⟩ := polls_conserve_ticks 60 [.start 5, .due 999, .stop, .due 70]
    [.due 16666767, .start 16666768, .due 50000100, .due 1000000100, .due 1000000100] 100 idle (by decide) (by decide)
    (by decide)
  exact ⟨idle, reported, by decide⟩

end TickTimer

end CueScript
