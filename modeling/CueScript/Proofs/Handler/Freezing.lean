import CueScript.Handler.Basic
import CueScript.Proofs.Handler.Waits

set_option autoImplicit false

namespace CueScript

namespace Handler

/-- What can happen to a handler between two runs of its block. -/
inductive Touch where
  | poll
  | freeze
  | activate
  | setStep (perUnit : Int64)
deriving DecidableEq

namespace Touch

def wakes (awake : Bool) : Touch → Bool
  | .freeze => false
  | .activate => true
  | .poll | .setStep _ => awake

def takes (awake : Bool) : Touch → Nat
  | .poll => if awake then 1 else 0
  | .freeze | .activate | .setStep _ => 0

def awakeAfter (awake : Bool) (touches : List Touch) : Bool :=
  touches.foldl wakes awake

def taken (awake : Bool) : List Touch → Nat
  | [] => 0
  | touch :: rest => touch.takes awake + taken (touch.wakes awake) rest

end Touch

def touch (h : Handler) : Touch → Handler
  | .poll => h.poll.2
  | .freeze => h.freeze
  | .activate => h.activate
  | .setStep perUnit => h.setStep perUnit

def touchAll (h : Handler) (touches : List Touch) : Handler :=
  touches.foldl touch h

/-- The handler is not retired and goes on at `pc` once it has taken `left` more events, which it does while `awake`. -/
structure Suspended (h : Handler) (awake : Bool) (pc left : Nat) : Prop where
  retired : h.retired = false
  active : h.active = awake
  pc : h.pc = pc
  wait : h.wait = Int64.ofNat left
  bound : left < 0x8000000000000000

namespace Suspended

variable {h : Handler} {awake : Bool} {pc left : Nat}

theorem finish (live : h.retired = false) (pc : Nat) (wait : Int64) :
    (h.finish (.suspended pc wait)).Suspended h.active pc wait.toInt.toNat where
  retired := live
  active := rfl
  pc := rfl
  wait := max_zero_eq wait
  bound := by
    have upper := wait.toInt_lt
    omega

theorem poll_frozen (suspended : h.Suspended false pc left) : h.poll = (.skip, h) := by
  simp [Handler.poll, suspended.active]

theorem poll_waiting (suspended : h.Suspended true pc (left + 1)) :
    h.poll = (.waiting (Int64.ofNat left), { h with wait := Int64.ofNat left }) := by
  have waits : 0 < h.wait := by
    rw [suspended.wait, ofNat_pos suspended.bound]
    exact Nat.succ_pos left
  have less : h.wait - 1 = Int64.ofNat left := by rw [suspended.wait, ofNat_succ_sub_one]
  simp [Handler.poll, suspended.active, suspended.retired, waits, less]

theorem poll_due (suspended : h.Suspended true pc 0) : h.poll = (.run pc, h) := by
  have due : ¬ 0 < h.wait := by
    rw [suspended.wait]
    decide
  simp [Handler.poll, suspended.active, suspended.retired, due, suspended.pc]

theorem poll (suspended : h.Suspended awake pc left) : h.poll.2.Suspended awake pc (left - Touch.poll.takes awake) := by
  cases awake with
  | false =>
    rw [suspended.poll_frozen]
    exact suspended
  | true =>
    cases left with
    | zero =>
      rw [suspended.poll_due]
      exact suspended
    | succ left =>
      rw [suspended.poll_waiting]
      exact ⟨suspended.retired, suspended.active, suspended.pc, rfl, Nat.lt_of_succ_lt suspended.bound⟩

theorem touch (suspended : h.Suspended awake pc left) (touch : Touch) :
    (h.touch touch).Suspended (touch.wakes awake) pc (left - touch.takes awake) := by
  obtain ⟨retired, active, resume, wait, bound⟩ := suspended
  cases touch with
  | poll => exact poll ⟨retired, active, resume, wait, bound⟩
  | freeze => exact ⟨retired, rfl, resume, wait, bound⟩
  | activate =>
    have activated : h.activate = { h with active := true } := by simp [Handler.activate, retired]
    rw [Handler.touch, activated]
    exact ⟨retired, rfl, resume, wait, bound⟩
  | setStep perUnit => exact ⟨retired, active, resume, wait, bound⟩

theorem touchAll (suspended : h.Suspended awake pc left) (touches : List Touch) :
    (h.touchAll touches).Suspended (Touch.awakeAfter awake touches) pc (left - Touch.taken awake touches) := by
  induction touches generalizing h awake left with
  | nil => exact suspended
  | cons touch rest ih =>
    have after := ih (suspended.touch touch)
    rwa [Nat.sub_sub] at after

end Suspended

theorem touch_steering (h : Handler) {touch : Touch} (steers : touch = .freeze ∨ touch = .activate) :
    (h.touch touch).pc = h.pc ∧ (h.touch touch).wait = h.wait ∧ (h.touch touch).step = h.step := by
  obtain rfl | rfl := steers
  · exact ⟨rfl, rfl, rfl⟩
  · unfold Handler.touch Handler.activate
    dsimp only
    split <;> exact ⟨rfl, rfl, rfl⟩

theorem touchAll_steering (h : Handler) {touches : List Touch}
    (steer : ∀ touch ∈ touches, touch = .freeze ∨ touch = .activate) :
    (h.touchAll touches).pc = h.pc ∧ (h.touchAll touches).wait = h.wait ∧ (h.touchAll touches).step = h.step := by
  induction touches generalizing h with
  | nil => exact ⟨rfl, rfl, rfl⟩
  | cons touch rest ih =>
    obtain ⟨pc, wait, step⟩ := h.touch_steering (steer touch List.mem_cons_self)
    obtain ⟨pc', wait', step'⟩ := ih (h.touch touch) fun touch member => steer touch (List.mem_cons_of_mem _ member)
    exact ⟨pc'.trans pc, wait'.trans wait, step'.trans step⟩

end Handler

open Handler in
theorem frozen_waits_stand_still {h h' : Handler} (live : h.retired = false) (pc : Nat) (wait : Int64)
    (touches : List Touch) (touched : (h.finish (.suspended pc wait)).touchAll touches = h') :
    (Touch.awakeAfter h.active touches = false → h'.poll = (.skip, h')) ∧
    (Touch.awakeAfter h.active touches = true →
      (∀ remaining, Touch.taken h.active touches + remaining + 1 = wait.toInt.toNat →
        h'.poll.1 = .waiting (Int64.ofNat remaining)) ∧
      (wait.toInt.toNat ≤ Touch.taken h.active touches → h'.poll = (.run pc, h'))) ∧
    ∀ steering : List Touch, (∀ touch ∈ steering, touch = .freeze ∨ touch = .activate) →
      (h'.touchAll steering).pc = h'.pc ∧ (h'.touchAll steering).wait = h'.wait ∧
        (h'.touchAll steering).step = h'.step := by
  subst touched
  have suspended := (Suspended.finish live pc wait).touchAll touches
  refine ⟨fun frozen => ?_, fun awake => ⟨fun remaining counted => ?_, fun due => ?_⟩, fun steering steer => ?_⟩
  · rw [frozen] at suspended
    exact suspended.poll_frozen
  · have left : wait.toInt.toNat - Touch.taken h.active touches = remaining + 1 := by omega
    rw [awake, left] at suspended
    rw [suspended.poll_waiting]
  · rw [awake, Nat.sub_eq_zero_of_le due] at suspended
    exact suspended.poll_due
  · exact touchAll_steering _ steer

def nap : List Handler.Touch :=
  [.poll, .freeze, .poll, .poll, .setStep 5, .activate]

def napping : Handler :=
  { id := 1, kind := .time, body := [] }

theorem napping_handler_waits : napping.retired = false ∧
    ((napping.finish (.suspended 7 3)).touchAll nap).poll.1 = .waiting 1 ∧
    ((napping.finish (.suspended 7 3)).touchAll (nap ++ [.freeze])).poll.1 = .skip ∧
    ((napping.finish (.suspended 7 3)).touchAll (nap ++ [.freeze, .activate])).wait = 2 ∧
    ((napping.finish (.suspended 7 3)).touchAll (nap ++ [.poll, .poll, .poll])).poll.1 = .run 7 := by
  obtain ⟨_, awake, steered⟩ := frozen_waits_stand_still (rfl : napping.retired = false) 7 3 nap rfl
  obtain ⟨frozen, _⟩ := frozen_waits_stand_still (rfl : napping.retired = false) 7 3 (nap ++ [.freeze]) rfl
  obtain ⟨_, later, _⟩ := frozen_waits_stand_still (rfl : napping.retired = false) 7 3 (nap ++ [.poll, .poll, .poll]) rfl
  refine ⟨rfl, (awake (by decide)).1 1 (by decide), ?_, ?_, ?_⟩
  · rw [frozen (by decide)]
  · exact (steered [.freeze, .activate] (by simp)).2.1
  · rw [(later (by decide)).2 (by decide)]

end CueScript
