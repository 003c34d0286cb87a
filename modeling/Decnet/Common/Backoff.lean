import Mathlib.Algebra.Order.Ring.Nat

/-!
# Binary exponential backoff

The delays of the source are whole seconds, so that doubling is exact.
-/

namespace Decnet

structure Backoff where
  (low high current tries : Nat)
  deriving DecidableEq, Repr

namespace Backoff

def new (low high : Nat) : Backoff := ⟨low, high, low, 0⟩

/-- The next delay, and the state after it: the delay doubles up to the
ceiling. -/
def next (backoff : Backoff) : Nat × Backoff :=
  (backoff.current,
    { backoff with
      current :=
        if backoff.current * 2 > backoff.high then backoff.high else backoff.current * 2
      tries := backoff.tries + 1 })

def reset (backoff : Backoff) : Backoff :=
  { backoff with current := backoff.low, tries := 0 }

/-- The delays stay between the bounds. -/
structure Bounded (backoff : Backoff) : Prop where
  positive : 0 < backoff.low
  ordered : backoff.low < backoff.high
  above : backoff.low ≤ backoff.current
  below : backoff.current ≤ backoff.high

theorem bounded_new {low high : Nat} (positive : 0 < low)
    (ordered : low < high) : Bounded (new low high) :=
  ⟨positive, ordered, Nat.le_refl _, Nat.le_of_lt ordered⟩

theorem Bounded.next {backoff : Backoff} (bounded : Bounded backoff) : Bounded backoff.next.2 := by
  obtain ⟨positive, ordered, above, below⟩ := bounded
  refine ⟨positive, ordered, ?_, ?_⟩
  · simp only [Backoff.next]
    split <;> omega
  · simp only [Backoff.next]
    split <;> omega

theorem Bounded.reset {backoff : Backoff} (bounded : Bounded backoff) : Bounded backoff.reset :=
  ⟨bounded.positive, bounded.ordered, Nat.le_refl _, Nat.le_of_lt bounded.ordered⟩

end Backoff

end Decnet
