import Mathlib.Data.List.TakeWhile

/-!
# Lists of consecutively numbered elements

The elements of a queue stand for consecutive numbers, the first of them for a
number that grows as elements are taken from the front.
-/

namespace Decnet

variable {α : Type*}

/-- Each element is right for its number, counted from `start`. -/
def Numbered (right : Nat → α → Prop) : Nat → List α → Prop
  | _, [] => True
  | start, a :: rest => right start a ∧ Numbered right (start + 1) rest

namespace Numbered

variable {right : Nat → α → Prop} {start : Nat} {l l' : List α}

theorem append : Numbered right start (l ++ l') ↔
    Numbered right start l ∧ Numbered right (start + l.length) l' := by
  induction l generalizing start with
  | nil => simp [Numbered]
  | cons a l ih =>
    have shifted : start + 1 + l.length = start + (l.length + 1) := by omega
    simp only [List.cons_append, Numbered, ih, List.length_cons, shifted, and_assoc]

theorem map {right' : Nat → α → Prop} {change : α → α}
    (kept : ∀ number a, right number a → right' number (change a))
    (numbered : Numbered right start l) : Numbered right' start (l.map change) := by
  induction l generalizing start with
  | nil => trivial
  | cons a l ih => exact ⟨kept start a numbered.1, ih numbered.2⟩

theorem mono {right' : Nat → α → Prop} (weaker : ∀ number a, right number a → right' number a)
    (numbered : Numbered right start l) : Numbered right' start l := by
  have mapped := numbered.map weaker
  rwa [List.map_id'] at mapped

theorem dropWhile (take : α → Bool) (numbered : Numbered right start l) :
    Numbered right (start + (l.takeWhile take).length) (l.dropWhile take) := by
  rw [← List.takeWhile_append_dropWhile (p := take) (l := l)] at numbered
  exact (append.1 numbered).2

theorem mem (numbered : Numbered right start l) {a : α} (member : a ∈ l) :
    ∃ number, start ≤ number ∧ number < start + l.length ∧ right number a := by
  induction l generalizing start with
  | nil => cases member
  | cons b l ih =>
    rcases List.mem_cons.1 member with rfl | later
    · exact ⟨start, Nat.le_refl _, by simp, numbered.1⟩
    · obtain ⟨number, low, high, isRight⟩ := ih numbered.2 later
      refine ⟨number, by omega, ?_, isRight⟩
      rw [List.length_cons]
      omega

theorem add_length_takeWhile_le {take : α → Bool} {last : Nat}
    (stops : ∀ a, right (last + 1) a → take a = false)
    (numbered : Numbered right start l) (low : start ≤ last + 1) :
    start + (l.takeWhile take).length ≤ last + 1 := by
  induction l generalizing start with
  | nil => exact low
  | cons a l ih =>
    obtain ⟨isRight, later⟩ := numbered
    by_cases taken : take a = true
    · have notLast : start ≠ last + 1 := by
        rintro rfl
        rw [stops a isRight] at taken
        cases taken
      have := ih later (by omega)
      rw [List.takeWhile_cons_of_pos taken, List.length_cons]
      omega
    · rw [List.takeWhile_cons_of_neg taken]
      exact low

end Numbered

end Decnet
