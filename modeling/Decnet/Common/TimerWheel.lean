import Mathlib.Algebra.Order.Ring.Nat
import Mathlib.Tactic.Common

/-!
# The timer wheel

A node has one wheel, of 100 ms ticks and as many slots as make up an hour.  A
timer is entered as many slots ahead as its interval has ticks, and an interval
that would go round the wheel is refused.
-/

namespace Decnet.TimerWheel

/-- The tick, in milliseconds. -/
def JIFFY : Nat := 100

/-- The longest interval a node's wheel is made for, in seconds. -/
def maxtime : Nat := 3600

def slots : Nat := (maxtime * 1000 + JIFFY) / JIFFY

structure OverflowError where
  what : String
  deriving DecidableEq, Repr

/-- An interval is rounded down to ticks, and one tick is the least. -/
def ticks (ms : Nat) : Nat := if ms / JIFFY = 0 then 1 else ms / JIFFY

/-- How many slots ahead the timer is entered. -/
def start (ms : Nat) : Except OverflowError Nat :=
  if slots ≤ ticks ms then
    throw ⟨s!"timeout {ms}ms exceeds the timer wheel span"⟩
  else pure (ticks ms)

def Spans (ms : Nat) : Prop := ms < 3600100

instance (ms : Nat) : Decidable (Spans ms) :=
  inferInstanceAs (Decidable (_ < _))

theorem ticks_lt_slots_iff (ms : Nat) : ticks ms < slots ↔ Spans ms := by
  unfold ticks slots Spans JIFFY maxtime
  split <;> omega

theorem start_of_spans {ms : Nat} (spans : Spans ms) : start ms = .ok (ticks ms) :=
  if_neg (Nat.not_le.mpr ((ticks_lt_slots_iff ms).mpr spans))

theorem start_of_not_spans {ms : Nat} (spans : ¬ Spans ms) :
    start ms = .error ⟨s!"timeout {ms}ms exceeds the timer wheel span"⟩ :=
  if_pos (Nat.not_lt.mp (mt (ticks_lt_slots_iff ms).mp spans))

end Decnet.TimerWheel
