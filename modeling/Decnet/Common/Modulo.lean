import Mathlib.Algebra.Order.Ring.Nat
import Mathlib.Tactic.Common

/-!
# Sequence number arithmetic

`Mod modulus` is the template class `Mod<Modulus>` of `modulo.h`: integers
modulo a fixed number, compared by the rules of RFC 1982.  With an even
modulus two values exactly half the modulus apart are unordered, so neither is
`less` than the other.

The second half relates the operations to unwrapped counts: `Mod.wrap count`
is the number that stands for a count, and two counts that are close enough
compare as their numbers do.
-/

namespace Decnet

structure Mod (modulus : Nat) where
  value : Nat
  inRange : value < modulus
  deriving DecidableEq, Repr

namespace Mod

variable {modulus : Nat}

/-- The largest forward distance that still counts as less than. -/
def maxdelta (modulus : Nat) : Nat :=
  if modulus % 2 = 1 then modulus / 2 else modulus / 2 - 1

def hasUndef (modulus : Nat) : Bool :=
  modulus % 2 = 0

def undef (modulus : Nat) : Nat :=
  modulus / 2

def forward (modulus start finish : Nat) : Nat :=
  (finish + modulus - start) % modulus

/-- The `<` that `operator<=>` gives: false for unordered values. -/
def less (left right : Mod modulus) : Bool :=
  if left.value = right.value then
    false
  else if hasUndef modulus ∧ forward modulus left.value right.value = undef modulus then
    false
  else
    forward modulus left.value right.value ≤ maxdelta modulus

@[ext] theorem ext {left right : Mod modulus}
    (values : left.value = right.value) : left = right := by
  cases left
  cases values
  rfl

variable [NeZero modulus]

def wrap (count : Nat) : Mod modulus :=
  ⟨count % modulus, Nat.mod_lt _ (Nat.pos_of_neZero modulus)⟩

def add (left right : Mod modulus) : Mod modulus :=
  wrap (left.value + right.value)

def sub (left right : Mod modulus) : Mod modulus :=
  wrap (left.value + modulus - right.value)

/-- The pre-increment operator. -/
def succ (number : Mod modulus) : Mod modulus :=
  wrap (number.value + 1)

instance : Add (Mod modulus) := ⟨add⟩

instance : Sub (Mod modulus) := ⟨sub⟩

instance : Inhabited (Mod modulus) := ⟨wrap 0⟩

@[simp] theorem wrap_value (count : Nat) : (wrap count : Mod modulus).value = count % modulus :=
  rfl

theorem wrap_value_self (number : Mod modulus) : wrap number.value = number :=
  Mod.ext (Nat.mod_eq_of_lt number.inRange)

theorem wrap_eq_wrap_iff (left right : Nat) :
    (wrap left : Mod modulus) = wrap right ↔ left % modulus = right % modulus := by
  constructor
  · intro equality
    exact congrArg value equality
  · intro equality
    exact Mod.ext equality

@[simp] theorem succ_wrap (count : Nat) : (wrap count : Mod modulus).succ = wrap (count + 1) := by
  apply Mod.ext
  simp [succ]

@[simp] theorem wrap_add_wrap (left right : Nat) :
    (wrap left : Mod modulus) + wrap right = wrap (left + right) := by
  apply Mod.ext
  change (left % modulus + right % modulus) % modulus = _
  simp

variable {left right : Nat}

theorem forward_mod (modulus : Nat) [NeZero modulus] (order : left ≤ right) :
    forward modulus (left % modulus) (right % modulus) = (right - left) % modulus := by
  have positive : 0 < modulus := Nat.pos_of_neZero modulus
  obtain ⟨distance, rfl⟩ := Nat.exists_eq_add_of_le order
  have leftRange : left % modulus < modulus := Nat.mod_lt _ positive
  have distanceRange : distance % modulus < modulus := Nat.mod_lt _ positive
  unfold forward
  rw [Nat.add_sub_cancel_left, Nat.add_mod left distance]
  by_cases small : left % modulus + distance % modulus < modulus
  · rw [Nat.mod_eq_of_lt small]
    have rearranged : left % modulus + distance % modulus + modulus -
        left % modulus = distance % modulus + modulus := by omega
    rw [rearranged, Nat.add_mod_right, Nat.mod_mod]
  · have wrapped : (left % modulus + distance % modulus) % modulus =
        left % modulus + distance % modulus - modulus := by
      rw [Nat.mod_eq_sub_mod (by omega), Nat.mod_eq_of_lt (by omega)]
    rw [wrapped]
    have rearranged : left % modulus + distance % modulus - modulus +
        modulus - left % modulus = distance % modulus := by omega
    rw [rearranged, Nat.mod_mod]

theorem wrap_inj (modulus : Nat) [NeZero modulus] (order : left ≤ right)
    (near : right - left < modulus) : (wrap left : Mod modulus) = wrap right ↔ left = right := by
  constructor
  · intro equality
    have residues := (wrap_eq_wrap_iff left right).mp equality
    have distance := forward_mod modulus order
    rw [← residues, Nat.mod_eq_of_lt near] at distance
    have zero : forward modulus (left % modulus) (left % modulus) = 0 := by
      unfold forward
      rw [Nat.add_sub_cancel_left, Nat.mod_self]
    omega
  · rintro rfl
    rfl

private theorem forward_reverse (modulus : Nat) [NeZero modulus]
    (order : right < left) (near : left - right < modulus) :
    forward modulus (left % modulus) (right % modulus) = modulus - (left - right) := by
  have ahead : forward modulus (left % modulus) (right % modulus) =
      forward modulus (left % modulus) ((right + modulus) % modulus) := by
    rw [Nat.add_mod_right]
  rw [ahead, forward_mod modulus (by omega), Nat.mod_eq_of_lt (by omega)]
  omega

/-- A number fewer than half the modulus behind another is less than it. -/
theorem less_wrap (order : left < right) (near : 2 * (right - left) < modulus) :
    less (wrap left : Mod modulus) (wrap right) = true := by
  have distance : forward modulus (left % modulus) (right % modulus) = right - left := by
    rw [forward_mod modulus (by omega), Nat.mod_eq_of_lt (by omega)]
  have distinct : left % modulus ≠ right % modulus := by
    intro equality
    have same := (wrap_inj modulus (by omega) (by omega)).mp
      ((wrap_eq_wrap_iff left right).mpr equality)
    omega
  have ordered : right - left ≠ modulus / 2 ∨ modulus % 2 = 1 := by
    omega
  have near' : right - left ≤ maxdelta modulus := by
    unfold maxdelta
    split <;> omega
  rcases ordered with ordered | odd
  · simp [less, distinct, distance, undef, ordered, near']
  · simp [less, distinct, distance, hasUndef, odd, near']

/-- A number at most half the modulus ahead of another is not less than it. -/
theorem not_less_wrap (order : right ≤ left) (near : 2 * (left - right) ≤ modulus) :
    less (wrap left : Mod modulus) (wrap right) = false := by
  rcases Nat.eq_or_lt_of_le order with same | ahead
  · subst same
    simp [less]
  · have distance := forward_reverse modulus ahead (by omega)
    have far : (modulus % 2 = 0 ∧ modulus - (left - right) = modulus / 2) ∨
        ¬ modulus - (left - right) ≤ maxdelta modulus := by
      unfold maxdelta
      split <;> omega
    rcases far with ⟨even, half⟩ | far
    · simp [less, distance, hasUndef, undef, even, half]
    · simp [less, distance, far]

theorem wrap_sub_one (count : Nat) :
    (wrap (count + 1) : Mod modulus) - wrap 1 = wrap count := by
  apply Mod.ext
  exact forward_mod modulus (Nat.le_add_left 1 count)

end Mod

end Decnet
