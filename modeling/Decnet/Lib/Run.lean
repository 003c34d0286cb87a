import Mathlib.Algebra.Order.Ring.Nat
import Mathlib.Data.List.Basic

/-!
# Guarded runs of a deterministic machine

A machine is a step function from a state and an input to the next state.  A
run applies a list of inputs in order.  `Guarded` says that every input of a
run meets a condition in the state it is applied to; an invariant that every
guarded step keeps holds at the end of every guarded run.
-/

namespace Decnet.Run

variable {σ ι : Type*}

/-- Every input meets `ok` in the state the run has reached before it. -/
def Guarded (step : σ → ι → σ) (ok : σ → ι → Prop) : σ → List ι → Prop
  | _, [] => True
  | state, input :: inputs =>
    ok state input ∧ Guarded step ok (step state input) inputs

@[simp] theorem guarded_nil (step : σ → ι → σ) (ok : σ → ι → Prop)
    (state : σ) : Guarded step ok state [] ↔ True :=
  Iff.rfl

@[simp] theorem guarded_cons (step : σ → ι → σ) (ok : σ → ι → Prop)
    (state : σ) (input : ι) (inputs : List ι) :
    Guarded step ok state (input :: inputs) ↔
      ok state input ∧ Guarded step ok (step state input) inputs :=
  Iff.rfl

instance Guarded.decidable (step : σ → ι → σ) (ok : σ → ι → Prop)
    [decides : ∀ state input, Decidable (ok state input)] :
    ∀ state inputs, Decidable (Guarded step ok state inputs)
  | _, [] => .isTrue trivial
  | state, input :: inputs =>
    have := Guarded.decidable step ok (step state input) inputs
    inferInstanceAs (Decidable (ok state input ∧ _))

theorem guarded_append (step : σ → ι → σ) (ok : σ → ι → Prop) (state : σ) (first second : List ι) :
    Guarded step ok state (first ++ second) ↔ Guarded step ok state first ∧
        Guarded step ok (first.foldl step state) second := by
  induction first generalizing state with
  | nil => simp
  | cons input first induction => simp [induction, and_assoc]

theorem guarded_const (step : σ → ι → σ) (ok : ι → Prop) (state : σ) (inputs : List ι) :
    Guarded step (fun _ => ok) state inputs ↔ ∀ input ∈ inputs, ok input := by
  induction inputs generalizing state with
  | nil => simp
  | cons input inputs induction => simp [induction]

variable {step : σ → ι → σ} {ok : σ → ι → Prop} {property : σ → Prop} {state : σ} {inputs : List ι}

theorem Guarded.of_forall (always : ∀ state input, ok state input) (state : σ) (inputs : List ι) :
    Guarded step ok state inputs := by
  induction inputs generalizing state with
  | nil => trivial
  | cons input inputs induction =>
    exact ⟨always state input, induction (step state input)⟩

theorem Guarded.mono {ok weaker : σ → ι → Prop}
    (implies : ∀ state input, ok state input → weaker state input)
    (guarded : Guarded step ok state inputs) : Guarded step weaker state inputs := by
  induction inputs generalizing state with
  | nil => trivial
  | cons input inputs induction =>
    exact ⟨implies state input guarded.1, induction guarded.2⟩

theorem Guarded.and {ok also : σ → ι → Prop} (guarded : Guarded step ok state inputs)
    (further : Guarded step also state inputs) :
    Guarded step (fun state input => ok state input ∧ also state input) state inputs := by
  induction inputs generalizing state with
  | nil => trivial
  | cons input inputs induction =>
    exact ⟨⟨guarded.1, further.1⟩, induction guarded.2 further.2⟩

/-- An invariant kept by every guarded step holds after every guarded run. -/
theorem Guarded.invariant {invariant : σ → Prop}
    (kept : ∀ state input, invariant state → ok state input → invariant (step state input))
    (guarded : Guarded step ok state inputs) (start : invariant state) :
    invariant (inputs.foldl step state) := by
  induction inputs generalizing state with
  | nil => exact start
  | cons input inputs induction =>
    exact induction guarded.2 (kept state input start guarded.1)

/-- An invariant kept by every step holds after every run. -/
theorem foldl_invariant {invariant : σ → Prop}
    (kept : ∀ state input, invariant state → invariant (step state input))
    (inputs : List ι) (start : invariant state) : invariant (inputs.foldl step state) := by
  induction inputs generalizing state with
  | nil => exact start
  | cons input inputs induction =>
    exact induction (kept state input start)

/-- A property holds in every state of a run, its first and last included. -/
def Always (step : σ → ι → σ) (property : σ → Prop) : σ → List ι → Prop
  | state, [] => property state
  | state, input :: inputs =>
    property state ∧ Always step property (step state input) inputs

theorem Always.first (always : Always step property state inputs) : property state := by
  cases inputs with
  | nil => exact always
  | cons input inputs => exact always.1

section

variable {basic : σ → Prop} (kept : ∀ state input, basic state → basic (step state input))
  (exactly : ∀ state input, basic state → property state →
    (ok state input ↔ property (step state input))) (inputs : List ι) (start : basic state)

include kept exactly start

/-- If `ok` says exactly which steps keep a property, a run keeps it
throughout exactly when it holds first and every step is `ok`.  What holds in
every reachable state may be used. -/
theorem always_iff :
    Always step property state inputs ↔ property state ∧ Guarded step ok state inputs := by
  induction inputs generalizing state with
  | nil => exact (and_iff_left trivial).symm
  | cons input inputs induction =>
    apply and_congr_right
    intro holds
    rw [induction (kept state input start), guarded_cons, exactly state input start holds]

theorem always_iff_guarded (holds : property state) :
    Always step property state inputs ↔ Guarded step ok state inputs :=
  (always_iff kept exactly inputs start).trans (and_iff_right holds)

end

theorem always_iff_guarded_of_iff
    (exactly : ∀ state input, property state → (ok state input ↔ property (step state input)))
    (inputs : List ι) (holds : property state) :
    Always step property state inputs ↔ Guarded step ok state inputs :=
  always_iff_guarded (fun _ _ _ => trivial)
    (fun state input (_ : True) => exactly state input) inputs trivial holds

end Decnet.Run
