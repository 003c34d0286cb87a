import Decnet.Lib.Run

/-!
# Machines side by side

Each machine of a family takes inputs of its own and may be refused something
it asks for while it handles one.  The family takes the inputs of all its
machines in any order.  If every machine copes with its inputs, nothing is
refused in a run of the family.
-/

namespace Decnet

/-- A machine, and when it is refused something while it handles an input. -/
structure Component where
  (State Input : Type)
  initial : State
  step : State → Input → State
  refused : State → Input → Prop

/-- An invariant under which the machine is refused nothing, while its inputs
are `ok`. -/
structure Component.Copes (machine : Component) (ok : machine.Input → Prop)
    (invariant : machine.State → Prop) : Prop where
  initial : invariant machine.initial
  kept : ∀ state input, invariant state → ok input → invariant (machine.step state input)
  served : ∀ state input, invariant state → ok input → ¬ machine.refused state input

namespace Family

variable {κ : Type} [DecidableEq κ] (machine : κ → Component)

abbrev State := ∀ k, (machine k).State

/-- An input is for one of the machines. -/
abbrev Input := Σ k, (machine k).Input

def initial : State machine := fun k => (machine k).initial

def step (state : State machine) (input : Input machine) : State machine :=
  Function.update state input.1 ((machine input.1).step (state input.1) input.2)

def refused (state : State machine) (input : Input machine) : Prop :=
  (machine input.1).refused (state input.1) input.2

variable {machine}

section

variable {ok : ∀ k, (machine k).Input → Prop} {invariant : ∀ k, (machine k).State → Prop}
  (copes : ∀ k, (machine k).Copes (ok k) (invariant k))

include copes

theorem step_invariant {state : State machine} (holds : ∀ k, invariant k (state k))
    {input : Input machine} (good : ok input.1 input.2) (k : κ) :
    invariant k (step machine state input k) := by
  unfold step
  by_cases here : k = input.1
  · subst here
    rw [Function.update_self]
    exact (copes input.1).kept _ _ (holds input.1) good
  · rw [Function.update_of_ne here]
    exact holds k

/-- Machines that cope with their inputs are refused nothing in any run. -/
theorem served (work : List (Input machine)) (good : ∀ input ∈ work, ok input.1 input.2) :
    Run.Guarded (step machine) (fun state input => ¬ refused machine state input)
      (initial machine) work := by
  have run (state : State machine) (holds : ∀ k, invariant k (state k)) :
      Run.Guarded (step machine) (fun state input => ¬ refused machine state input) state work := by
    induction work generalizing state with
    | nil => trivial
    | cons input work induction =>
      rw [List.forall_mem_cons] at good
      constructor
      · exact (copes input.1).served _ _ (holds input.1) good.1
      · exact induction good.2 _ (step_invariant copes holds good.1)
  exact run _ fun k => (copes k).initial

end

end Family

end Decnet
