import Mathlib.Data.List.Basic
import Mathlib.Order.Lattice

/-!
# Numbers sent in order, with repetitions

A sender works through consecutive numbers and now and then goes back to repeat
some.  A new number is then one above the highest so far, and a repeated one is
at most a window below it.
-/

namespace Decnet

def highest (high : Nat) (numbers : List Nat) : Nat :=
  numbers.foldl max high

@[simp] theorem highest_nil (high : Nat) : highest high [] = high :=
  rfl

@[simp] theorem highest_cons (high number : Nat) (numbers : List Nat) :
    highest high (number :: numbers) = highest (max high number) numbers :=
  rfl

@[simp] theorem highest_append (high : Nat) (numbers more : List Nat) :
    highest high (numbers ++ more) = highest (highest high numbers) more :=
  List.foldl_append

theorem le_highest (high : Nat) (numbers : List Nat) : high ≤ highest high numbers := by
  induction numbers generalizing high with
  | nil => exact Nat.le_refl _
  | cons number numbers ih => exact (le_max_left _ _).trans (ih _)

variable {high : Nat} {numbers : List Nat}

theorem le_highest_of_mem {number : Nat}
    (member : number ∈ numbers) : number ≤ highest high numbers := by
  induction numbers generalizing high with
  | nil => cases member
  | cons other numbers ih =>
    rcases List.mem_cons.1 member with rfl | later
    · exact (le_max_right _ _).trans (le_highest _ numbers)
    · exact ih later

theorem highest_le {bound : Nat} (low : high ≤ bound) (all : ∀ number ∈ numbers, number ≤ bound) :
    highest high numbers ≤ bound := by
  induction numbers generalizing high with
  | nil => exact low
  | cons number numbers ih =>
    refine ih (max_le low (all number List.mem_cons_self)) ?_
    exact fun other member => all other (List.mem_cons_of_mem _ member)

/-- Each number is at most one above the highest before it, and less than
`span` below it. -/
def InOrder (span : Nat) : Nat → List Nat → Prop
  | _, [] => True
  | high, number :: numbers =>
    (number ≤ high + 1 ∧ high < number + span) ∧ InOrder span (max high number) numbers

theorem InOrder.append {span : Nat} {more : List Nat} :
    InOrder span high (numbers ++ more) ↔ InOrder span high numbers ∧
        InOrder span (highest high numbers) more := by
  induction numbers generalizing high with
  | nil => simp [InOrder]
  | cons number numbers ih =>
    simp only [List.cons_append, InOrder, ih, highest_cons, and_assoc]

end Decnet
