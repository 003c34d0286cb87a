import Mathlib.Data.Set.Insert

/-!
# Registries that are overwritten and cleared by key

A table with one place for each key.  What comes is entered under its key, in
place of what stood there; what goes clears the place of its key.  The table
stays current as long as nothing goes that shares its key with something that
remains.
-/

namespace Decnet.Registry

open Function

variable {α κ : Type*}

/-- The table has an entry for a key exactly when something present has that
key, and the entry is present. -/
structure Current (key : α → κ) (present : Set α) (table : κ → Option α) : Prop where
  live : ∀ place item, table place = some item → item ∈ present ∧ key item = place
  entered : ∀ item ∈ present, ∃ entry, table (key item) = some entry

variable {key : α → κ} {present : Set α} {table : κ → Option α}

theorem current_empty (key : α → κ) : Current key ∅ fun _ => none where
  live _ _ entry := nomatch entry
  entered _ isPresent := absurd isPresent (Set.notMem_empty _)

variable [DecidableEq κ]

theorem Current.insert (current : Current key present table) (item : α) :
    Current key (Insert.insert item present) (update table (key item) (some item)) := by
  constructor
  case live =>
    intro place other entry
    by_cases same : place = key item
    · subst same
      rw [update_self] at entry
      cases entry
      exact ⟨Set.mem_insert _ _, rfl⟩
    · rw [update_of_ne same] at entry
      obtain ⟨isPresent, placed⟩ := current.live place other entry
      exact ⟨Set.mem_insert_of_mem _ isPresent, placed⟩
  case entered =>
    intro other isPresent
    by_cases same : key other = key item
    · rw [same, update_self]
      exact ⟨item, rfl⟩
    · rw [update_of_ne same]
      apply current.entered
      exact (Set.mem_insert_iff.mp isPresent).resolve_left fun equal => same (equal ▸ rfl)

/-- Clearing the place of what goes is right exactly when nothing that remains
has the same key. -/
theorem Current.erase_iff (current : Current key present table) (item : α) :
    Current key (present \ {item}) (update table (key item) none) ↔
      ∀ other ∈ present, other ≠ item → key other ≠ key item := by
  constructor
  · intro after other isPresent differs same
    obtain ⟨entry, found⟩ := after.entered other ⟨isPresent, differs⟩
    rw [same, update_self] at found
    cases found
  · intro alone
    constructor
    case live =>
      intro place other entry
      by_cases same : place = key item
      · subst same
        rw [update_self] at entry
        cases entry
      · rw [update_of_ne same] at entry
        obtain ⟨isPresent, placed⟩ := current.live place other entry
        refine ⟨⟨isPresent, ?_⟩, placed⟩
        rintro rfl
        exact same placed.symm
    case entered =>
      rintro other ⟨isPresent, differs⟩
      rw [update_of_ne (alone other isPresent differs)]
      exact current.entered other isPresent

end Decnet.Registry
