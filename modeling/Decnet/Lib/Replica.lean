import Mathlib.Data.List.Basic

/-!
# A cell that is copied over a queue

One place holds a value and sends it to another, which keeps an image of it.
The value changes at any time; a mark says that it has to be sent.  What is sent
arrives in order.  Whatever happens, the value is marked, or the last thing on
its way is the value, or nothing is on its way and the copy is its image.
-/

namespace Decnet

/-- A value, whether it is marked, what has been sent of it and has not
arrived, oldest first, and the copy. -/
structure Replica (α β : Type) where
  current : α
  marked : Prop
  flight : List α
  copy : β

namespace Replica

variable {α β : Type} {image : α → β}

/-- The copy will be right without the value being marked again. -/
def InStep (image : α → β) (r : Replica α β) : Prop :=
  r.marked ∨ r.flight.getLast? = some r.current ∨ r.flight = [] ∧ r.copy = image r.current

inductive Step (image : α → β) : Replica α β → Replica α β → Prop where
  /-- The value may change, but not without a mark. -/
  | change {r : Replica α β} {current : α} {marked : Prop}
      (kept : r.marked → marked) (noted : current = r.current ∨ marked) :
      Step image r { r with current := current, marked := marked }
  /-- The present value is sent, any number of times; a mark is taken away
  only when it is sent. -/
  | send {r : Replica α β} {marked : Prop} (sent : List α)
      (present : ∀ value ∈ sent, value = r.current) (served : r.marked → sent ≠ []) :
      Step image r { r with marked := marked, flight := r.flight ++ sent }
  /-- Some of what is on its way arrives; the last of it stays. -/
  | deliver {r : Replica α β} (arrived rest : List α) (order : r.flight = arrived ++ rest) :
      Step image r
        { r with
          flight := rest
          copy := (arrived.getLast?.map image).getD r.copy }

theorem getLast?_of_forall {sent : List α} {value : α} (some : sent ≠ [])
    (same : ∀ v ∈ sent, v = value) : sent.getLast? = .some value := by
  rw [List.getLast?_eq_some_getLast some]
  exact congrArg _ (same _ (List.getLast_mem some))

theorem InStep.step {r r' : Replica α β} (inStep : r.InStep image)
    (step : Step image r r') : r'.InStep image := by
  cases step with
  | change kept noted =>
    rcases noted with rfl | isMarked
    · exact inStep.imp_left kept
    · exact .inl isMarked
  | send sent present served =>
    by_cases nothing : sent = []
    · subst nothing
      have notMarked : ¬ r.marked := fun marked => served marked rfl
      rcases inStep with marked | last | ⟨empty, right⟩
      · exact absurd marked notMarked
      · exact .inr (.inl (by simpa using last))
      · exact .inr (.inr ⟨by simpa using empty, right⟩)
    · refine .inr (.inl ?_)
      rw [List.getLast?_append_of_ne_nil _ nothing]
      exact getLast?_of_forall nothing present
  | deliver arrived rest order =>
    rcases inStep with marked | last | ⟨empty, right⟩
    · exact .inl marked
    · cases rest with
      | nil =>
        rw [order, List.append_nil] at last
        refine .inr (.inr ⟨rfl, ?_⟩)
        simp only [last, Option.map_some, Option.getD_some]
      | cons value rest =>
        rw [order, List.getLast?_append_of_ne_nil _ (by simp)] at last
        exact .inr (.inl last)
    · rw [order, List.append_eq_nil_iff] at empty
      obtain ⟨rfl, rfl⟩ := empty
      exact .inr (.inr ⟨rfl, right⟩)

end Replica

end Decnet
