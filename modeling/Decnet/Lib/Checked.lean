import Mathlib.Data.List.Basic

/-!
# Vectors with checked access

A computation that indexes vectors is an `Option`: it is `none` once an index
is outside its vector.  `Returns` says that it is not, and what holds of its
value; its rules take a checked program apart along `>>=` and loops.
-/

namespace Decnet.Checked

universe u

variable {α β : Type u} {ι : Type*}

def Returns (property : α → Prop) (computation : Option α) : Prop :=
  ∃ value, computation = some value ∧ property value

variable {property : α → Prop} {value : α}

theorem returns_pure (holds : property value) : Returns property (pure value) :=
  ⟨value, rfl, holds⟩

theorem Returns.bind {after : β → Prop} {computation : Option α}
    {next : α → Option β} (first : Returns property computation)
    (second : ∀ value, property value → Returns after (next value)) :
    Returns after (computation >>= next) := by
  obtain ⟨value, rfl, holds⟩ := first
  exact second value holds

theorem Returns.foldlM {body : α → ι → Option α} {items : List ι}
    (step : ∀ value, ∀ item ∈ items, property value → Returns property (body value item))
    (start : property value) : Returns property (items.foldlM body value) := by
  induction items generalizing value with
  | nil => exact ⟨value, rfl, start⟩
  | cons item items induction =>
    apply (step value item List.mem_cons_self start).bind
    intro next holds
    exact induction (fun value' item' member =>
      step value' item' (List.mem_cons_of_mem _ member)) holds

theorem Returns.mapM {ι : Type u} {body : ι → Option α} {items : List ι}
    (each : ∀ item ∈ items, Returns property (body item)) :
    Returns (fun values => ∀ value ∈ values, property value) (items.mapM body) := by
  induction items with
  | nil => exact ⟨[], rfl, fun _ member => nomatch member⟩
  | cons item items induction =>
    rw [List.mapM_cons]
    apply (each item List.mem_cons_self).bind
    intro value holds
    apply (induction fun other member => each other (List.mem_cons_of_mem _ member)).bind
    intro values others
    exact returns_pure (List.forall_mem_cons.mpr ⟨holds, others⟩)

/-! ## Vectors -/

def read (vector : List α) (i : Nat) : Option α := vector[i]?

def write (vector : List α) (i : Nat) (value : α) : Option (List α) :=
  if i < vector.length then some (vector.set i value) else none

variable {vector : List α} {i length : Nat}

theorem write_outside (outside : vector.length ≤ i) (value : α) : write vector i value = none :=
  if_neg (Nat.not_lt.mpr outside)

theorem read_inside (size : vector.length = length) (inside : i < length) :
    Returns (fun _ => True) (read vector i) :=
  ⟨vector[i], List.getElem?_eq_getElem (size ▸ inside), trivial⟩

theorem write_inside (size : vector.length = length) (inside : i < length) (value : α) :
    Returns (fun vector => vector.length = length) (write vector i value) :=
  ⟨vector.set i value, if_pos (size ▸ inside), List.length_set.trans size⟩

end Decnet.Checked
