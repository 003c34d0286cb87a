import Mathlib.Logic.Function.Basic
import Mathlib.Logic.Relation

/-!
# Things kept for a while after use

A table of the things in use, and a shelf of those taken out of it, each with
the time of it.  Sweeping the shelf frees what has been on it for the grace
period.
-/

namespace Decnet

structure Shelf (κ ν : Type) where
  live : κ → Option ν
  retired : List (ν × Nat)

namespace Shelf

variable {κ ν : Type} [DecidableEq κ]

inductive Op (κ ν : Type) where
  | enter (key : κ) (item : ν)
  | sweep
  | retire (key : κ)
  | clear

def empty : Shelf κ ν := ⟨fun _ => none, []⟩

/-- Entering something under a key frees what is there. -/
def step (grace now : Nat) (s : Shelf κ ν) : Op κ ν → Shelf κ ν
  | .enter key item => { s with live := Function.update s.live key (some item) }
  | .sweep =>
    { s with
      retired := s.retired.filter fun entry => now - entry.2 < grace }
  | .retire key =>
    match s.live key with
    | none => s
    | some item =>
      ⟨Function.update s.live key none, s.retired ++ [(item, now)]⟩
  | .clear => { s with live := fun _ => none }

def Holds (s : Shelf κ ν) (item : ν) : Prop :=
  (∃ key, s.live key = some item) ∨ ∃ time, (item, time) ∈ s.retired

/-- The operation frees the thing, if it is under no other key. -/
def Frees (grace now : Nat) (s : Shelf κ ν) (item : ν) : Op κ ν → Prop
  | .enter key _ => s.live key = some item
  | .sweep => ∃ time, (item, time) ∈ s.retired ∧ grace ≤ now - time
  | .retire _ => False
  | .clear => ∃ key, s.live key = some item

variable {item : ν} {s : Shelf κ ν}

theorem Holds.enter {new : ν} {key : κ} (holds : s.Holds item) (other : s.live key ≠ some item) :
    Holds { s with live := Function.update s.live key (some new) } item := by
  rcases holds with ⟨place, isLive⟩ | retired
  · have differ : place ≠ key := by
      intro same
      exact other (same ▸ isLive)
    exact .inl ⟨place, (Function.update_of_ne differ _ _).trans isLive⟩
  · exact .inr retired

theorem Holds.retire {old : ν} {key : κ} {now : Nat}
    (holds : s.Holds item) (isLive : s.live key = some old) :
    Holds ⟨Function.update s.live key none, s.retired ++ [(old, now)]⟩ item := by
  rcases holds with ⟨place, inUse⟩ | ⟨time, member⟩
  · by_cases here : place = key
    · subst here
      obtain rfl : old = item := Option.some.inj (isLive.symm.trans inUse)
      exact .inr ⟨now, List.mem_append_right _ (List.mem_singleton.mpr rfl)⟩
    · exact .inl ⟨place, (Function.update_of_ne here _ _).trans inUse⟩
  · exact .inr ⟨time, List.mem_append_left _ member⟩

theorem Holds.step {grace now : Nat} {op : Op κ ν} (holds : s.Holds item)
    (keeps : ¬ s.Frees grace now item op) : (s.step grace now op).Holds item := by
  cases op with
  | enter key new => exact holds.enter keeps
  | sweep =>
    rcases holds with isLive | ⟨time, member⟩
    · exact .inl isLive
    · have fresh : now - time < grace := by
        by_contra late
        exact keeps ⟨time, member, Nat.le_of_not_lt late⟩
      exact .inr ⟨time, List.mem_filter.mpr ⟨member, decide_eq_true fresh⟩⟩
  | retire key =>
    simp only [Shelf.step]
    split
    case h_1 => exact holds
    case h_2 old isLive => exact holds.retire isLive
  | clear =>
    rcases holds with isLive | retired
    · exact absurd isLive keeps
    · exact .inr retired

/-! ## Shelves over time -/

/-- The clock never goes back. -/
inductive Moves (grace : Nat) : Nat × Shelf κ ν → Nat × Shelf κ ν → Prop where
  | op (now : Nat) (s : Shelf κ ν) (op : Op κ ν) : Moves grace (now, s) (now, s.step grace now op)
  | time (now seconds : Nat) (s : Shelf κ ν) : Moves grace (now, s) (now + seconds, s)

abbrev Reaches (grace : Nat) : Nat × Shelf κ ν → Nat × Shelf κ ν → Prop :=
  Relation.ReflTransGen (Moves grace)

theorem reaches_retire (grace now : Nat) (s : Shelf κ ν) (key : κ) :
    Reaches grace (now, s) (now, (s.step grace now .sweep).step grace now (.retire key)) :=
  .tail (.single (.op ..)) (.op ..)

theorem Reaches.retired {grace : Nat} {before after : Nat × Shelf κ ν} {entry : ν × Nat}
    (reaches : Reaches grace before after) (member : entry ∈ before.2.retired) :
    entry ∈ after.2.retired ∨ grace ≤ after.1 - entry.2 := by
  induction reaches with
  | refl => exact .inl member
  | tail _ move induction =>
    cases move with
    | time now seconds s => exact induction.imp_right fun aged => by omega
    | op now s op =>
      refine induction.elim (fun still => ?_) .inr
      cases op with
      | enter | clear => exact .inl still
      | sweep =>
        by_cases fresh : now - entry.2 < grace
        · exact .inl (List.mem_filter.mpr ⟨still, decide_eq_true fresh⟩)
        · exact .inr (Nat.le_of_not_lt fresh)
      | retire key =>
        simp only [Shelf.step]
        split
        · exact .inl still
        · exact .inl (List.mem_append_left _ still)

end Shelf

end Decnet
