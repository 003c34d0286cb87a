import Mathlib.Data.List.Pairwise
import Mathlib.Data.List.Count

/-!
# Ordered tables

Entries under keys, in the order of the keys, with at most one entry for a key.
`rank` places the keys in order; different keys have different ranks wherever
this matters, because ranks rise strictly along a table.
-/

namespace Decnet

open Function List

variable {κ α : Type*}

structure Table (rank : κ → Nat) (α : Type*) where
  entries : List (κ × α)
  sorted : entries.Pairwise fun x y => rank x.1 < rank y.1

namespace Table

variable {rank : κ → Nat}

def empty : Table rank α := ⟨[], .nil⟩

/-- Enter an item, in place of one with the same rank. -/
def insert (rank : κ → Nat) (key : κ) (item : α) :
    List (κ × α) → List (κ × α)
  | [] => [(key, item)]
  | entry :: entries =>
    if rank key < rank entry.1 then (key, item) :: entry :: entries
    else if rank entry.1 < rank key then
      entry :: insert rank key item entries
    else (key, item) :: entries

variable {entries : List (κ × α)} {item : α} {key other : κ}

theorem mem_insert_of {entry : κ × α} (member : entry ∈ insert rank key item entries) :
    entry = (key, item) ∨ entry ∈ entries := by
  induction entries with
  | nil => exact .inl (mem_singleton.mp member)
  | cons head entries induction =>
    unfold insert at member
    split at member
    · exact mem_cons.mp member
    · split at member
      · rcases mem_cons.mp member with rfl | later
        · exact .inr mem_cons_self
        · exact (induction later).imp_right (mem_cons_of_mem _)
      · exact (mem_cons.mp member).imp_right (mem_cons_of_mem _)

theorem insert_sorted (key : κ) (item : α)
    (sorted : entries.Pairwise fun x y => rank x.1 < rank y.1) :
    (insert rank key item entries).Pairwise fun x y => rank x.1 < rank y.1 := by
  induction entries with
  | nil => exact pairwise_singleton _ _
  | cons head entries induction =>
    obtain ⟨first, rest⟩ := pairwise_cons.mp sorted
    unfold insert
    split
    case isTrue before =>
      refine pairwise_cons.mpr ⟨?_, sorted⟩
      intro entry member
      rcases mem_cons.mp member with rfl | later
      · exact before
      · exact Nat.lt_trans before (first entry later)
    case isFalse notBefore =>
      split
      case isTrue after =>
        refine pairwise_cons.mpr ⟨?_, induction rest⟩
        intro entry member
        rcases mem_insert_of member with rfl | later
        · exact after
        · exact first entry later
      case isFalse notAfter =>
        refine pairwise_cons.mpr ⟨?_, rest⟩
        intro entry later
        have := first entry later
        dsimp only
        omega

def put (key : κ) (item : α) (t : Table rank α) : Table rank α :=
  ⟨insert rank key item t.entries, insert_sorted key item t.sorted⟩

theorem insert_insert (key : κ) (item item' : α) (entries : List (κ × α)) :
    insert rank key item' (insert rank key item entries) = insert rank key item' entries := by
  induction entries with
  | nil => simp [insert]
  | cons head entries induction =>
    by_cases before : rank key < rank head.1
    · simp [insert, before]
    · by_cases after : rank head.1 < rank key
      · simp [insert, before, after, induction]
      · simp [insert, before, after]

@[simp] theorem put_put (key : κ) (item item' : α) (t : Table rank α) :
    (t.put key item).put key item' = t.put key item' := by
  simp only [put, insert_insert]

variable [DecidableEq κ]

def lookup (key : κ) : List (κ × α) → Option α
  | [] => none
  | (other, item) :: entries =>
    if other = key then some item else lookup key entries

def find (key : κ) (t : Table rank α) : Option α := lookup key t.entries

def erase (key : κ) (t : Table rank α) : Table rank α :=
  ⟨t.entries.filter (·.1 ≠ key), t.sorted.filter _⟩

theorem filter_insert (key : κ) (item : α) (injective : Injective rank) :
    (insert rank key item entries).filter (·.1 ≠ key) = entries.filter (·.1 ≠ key) := by
  induction entries with
  | nil => simp [insert]
  | cons head entries induction =>
    unfold insert
    split
    · simp
    · split
      · simp only [filter_cons, induction]
      case isFalse notBefore notAfter =>
        have same : head.1 = key := injective (by omega)
        simp [same]

theorem erase_put (injective : Injective rank) (key : κ) (item : α)
    (t : Table rank α) : (t.put key item).erase key = t.erase key := by
  simp only [put, erase, filter_insert key item injective]

/-! ## Looking up -/

theorem lookup_insert_self (key : κ) (item : α) (entries : List (κ × α)) :
    lookup key (insert rank key item entries) = some item := by
  induction entries with
  | nil => simp [insert, lookup]
  | cons head entries induction =>
    unfold insert
    split
    · simp [lookup]
    · split
      case isTrue after =>
        have other : head.1 ≠ key := by
          rintro rfl
          exact Nat.lt_irrefl _ after
        rw [lookup, if_neg other, induction]
      case isFalse => simp [lookup]

theorem lookup_insert_of_ne (injective : Injective rank)
    (differ : other ≠ key) (item : α) (entries : List (κ × α)) :
    lookup other (insert rank key item entries) = lookup other entries := by
  induction entries with
  | nil => simp [insert, lookup, differ.symm]
  | cons head entries induction =>
    unfold insert
    split
    · simp [lookup, differ.symm]
    · split
      · simp only [lookup, induction]
      case isFalse notBefore notAfter =>
        have same : head.1 = key := injective (by omega)
        simp [lookup, differ.symm, same]

theorem lookup_filter (key other : κ) (entries : List (κ × α)) :
    lookup other (entries.filter (·.1 ≠ key)) =
      if other = key then none else lookup other entries := by
  induction entries with
  | nil => simp [lookup]
  | cons head entries induction =>
    by_cases isKey : head.1 = key
    · have dropped : (head :: entries).filter (·.1 ≠ key) =
          entries.filter (·.1 ≠ key) := filter_cons_of_neg (by simp [isKey])
      rw [dropped, induction]
      split
      · rfl
      case isFalse differ =>
        have other' : head.1 ≠ other := fun same => differ (same ▸ isKey)
        rw [lookup, if_neg other']
    · have kept : (head :: entries).filter (·.1 ≠ key) = head :: entries.filter (·.1 ≠ key) :=
        filter_cons_of_pos (by simp [isKey])
      rw [kept, lookup, induction]
      by_cases same : other = key
      · have differ : head.1 ≠ other := fun equal => isKey (equal.trans same)
        rw [if_neg differ, if_pos same, if_pos same]
      · rw [if_neg same, if_neg same]
        rfl

@[simp] theorem find_put_self (key : κ) (item : α) (t : Table rank α) :
    (t.put key item).find key = some item :=
  lookup_insert_self ..

theorem find_put_of_ne (injective : Injective rank)
    (differ : other ≠ key) (item : α) (t : Table rank α) :
    (t.put key item).find other = t.find other :=
  lookup_insert_of_ne injective differ ..

@[simp] theorem find_erase_self (key : κ) (t : Table rank α) : (t.erase key).find key = none :=
  (lookup_filter key key _).trans (if_pos rfl)

theorem find_erase_of_ne (differ : other ≠ key)
    (t : Table rank α) : (t.erase key).find other = t.find other :=
  (lookup_filter key other _).trans (if_neg differ)

theorem lookup_eq_some (sorted : entries.Pairwise fun x y => rank x.1 < rank y.1) :
    lookup key entries = some item ↔ (key, item) ∈ entries := by
  induction entries with
  | nil => simp [lookup]
  | cons head entries induction =>
    obtain ⟨first, rest⟩ := pairwise_cons.mp sorted
    obtain ⟨other, item'⟩ := head
    unfold lookup
    split
    case isTrue same =>
      subst same
      have notLater : (other, item) ∉ entries := fun later =>
        Nat.lt_irrefl _ (first (other, item) later)
      simp [notLater, eq_comm]
    case isFalse differ =>
      rw [induction rest]
      have notHead : (key, item) ≠ (other, item') := fun equal => differ (Prod.mk.inj equal).1.symm
      simp [notHead]

theorem find_eq_some {t : Table rank α} : t.find key = some item ↔ (key, item) ∈ t.entries :=
  lookup_eq_some t.sorted

/-! ## Counting -/

def count (property : α → Bool) (t : Table rank α) : Nat :=
  t.entries.countP fun entry => property entry.2

/-- An item that counts or is missing. -/
def weight (property : α → Bool) (item : Option α) : Nat :=
  if item.any property then 1 else 0

theorem countP_insert_add (injective : Injective rank) (key : κ) (item : α) (property : α → Bool)
    (sorted : entries.Pairwise fun x y => rank x.1 < rank y.1) :
    (insert rank key item entries).countP (fun entry => property entry.2) +
        weight property (lookup key entries) = (entries.countP fun entry => property entry.2) +
        weight property (some item) := by
  induction entries with
  | nil => simp [insert, lookup, weight]
  | cons head entries induction =>
    obtain ⟨first, rest⟩ := pairwise_cons.mp sorted
    unfold insert
    split
    case isTrue before =>
      have absent : lookup key (head :: entries) = none := by
        apply Option.eq_none_iff_forall_ne_some.mpr
        intro found isSome
        rcases mem_cons.mp ((lookup_eq_some sorted).mp isSome) with
          isHead | later
        · rw [← isHead] at before
          exact Nat.lt_irrefl _ before
        · exact Nat.lt_asymm before (first _ later)
      rw [absent]
      simp [weight, countP_cons]
    case isFalse notBefore =>
      split
      case isTrue after =>
        have other : head.1 ≠ key := by
          rintro rfl
          exact Nat.lt_irrefl _ after
        rw [countP_cons, countP_cons, lookup, if_neg other,
          Nat.add_right_comm, induction rest, Nat.add_right_comm]
      case isFalse notAfter =>
        have same : head.1 = key := injective (by omega)
        rw [countP_cons, countP_cons, lookup, if_pos same]
        simp [weight, Nat.add_right_comm]

theorem count_put (injective : Injective rank) (key : κ) (item : α)
    (property : α → Bool) (t : Table rank α) :
    (t.put key item).count property + weight property (t.find key) =
      t.count property + weight property (some item) :=
  countP_insert_add injective key item property t.sorted

theorem count_erase_le (key : κ) (property : α → Bool) (t : Table rank α) :
    (t.erase key).count property ≤ t.count property :=
  filter_sublist.countP_le

end Table

end Decnet
