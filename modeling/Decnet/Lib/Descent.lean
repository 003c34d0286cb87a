import Mathlib.Data.List.Chain
import Mathlib.Data.List.Nodup

/-!
# Walks that go down

From each place one step leads to another place, ends, or there is none.  If
every step from a good place ends or leads to a good place of smaller rank, the
walk from a good place ends, and visits no place twice.
-/

namespace Decnet.Descent

variable {σ τ : Type*} {next : σ → Option (σ ⊕ τ)}

/-- The places of the walk that begins here, and where it ends. -/
inductive Walk (next : σ → Option (σ ⊕ τ)) : σ → List σ → τ → Prop where
  | stop {here : σ} {goal : τ} (ends : next here = some (.inr goal)) : Walk next here [here] goal
  | move {here there : σ} {path : List σ} {goal : τ} (step : next here = some (.inl there))
      (rest : Walk next there path goal) : Walk next here (here :: path) goal

theorem Walk.unique {here : σ} {path path' : List σ} {goal goal' : τ}
    (walk : Walk next here path goal) (walk' : Walk next here path' goal') :
    path' = path ∧ goal' = goal := by
  induction walk generalizing path' with
  | stop ends =>
    cases walk' with
    | stop ends' =>
      cases ends.symm.trans ends'
      exact ⟨rfl, rfl⟩
    | move step _ => cases ends.symm.trans step
  | move step _ induction =>
    cases walk' with
    | stop ends => cases step.symm.trans ends
    | move step' rest' =>
      cases step.symm.trans step'
      obtain ⟨rfl, rfl⟩ := induction rest'
      exact ⟨rfl, rfl⟩

def Descends (good : σ → Prop) (rank : σ → Nat) (right : τ → Prop)
    (next : σ → Option (σ ⊕ τ)) (here : σ) : Prop :=
  (∃ goal, next here = some (.inr goal) ∧ right goal) ∨
    ∃ there, next here = some (.inl there) ∧ good there ∧ rank there < rank here

variable {good : σ → Prop} {rank : σ → Nat} {right : τ → Prop}

theorem exists_walk (descends : ∀ here, good here → Descends good rank right next here)
    {here : σ} (start : good here) :
    ∃ path goal, Walk next here path goal ∧ right goal ∧ path.head? = some here ∧
      path.IsChain fun a b => rank b < rank a := by
  induction size : rank here using Nat.strongRecOn generalizing here with
  | ind size induction =>
    rcases descends here start with ⟨goal, ends, isRight⟩ | ⟨there, step, goodThere, lower⟩
    · exact ⟨[here], goal, .stop ends, isRight, rfl, .singleton _⟩
    · obtain ⟨path, goal, walk, isRight, first, chain⟩ :=
        induction (rank there) (size ▸ lower) goodThere rfl
      refine ⟨here :: path, goal, .move step walk, isRight, rfl, ?_⟩
      cases path with
      | nil => cases first
      | cons head path =>
        cases first
        exact .cons_cons lower chain

theorem nodup_of_chain {path : List σ}
    (chain : path.IsChain fun a b => rank b < rank a) : path.Nodup := by
  have pairwise : path.Pairwise fun a b => rank b < rank a := List.isChain_iff_pairwise.mp chain
  apply pairwise.imp
  intro first second lower same
  subst same
  exact Nat.lt_irrefl _ lower

end Decnet.Descent
