import Mathlib.Data.List.Basic

/-!
# Framing on a stream

Items are written to a stream one after another, and a reader takes them off
again as far as they have arrived.  `decode` is the reader's loop.  Where the
stream is cut makes no difference to what is read, and what is read of a
prefix of written items is a prefix of the items.
-/

namespace Decnet

/-- `next` takes the first item off a stream, unless it is not complete. -/
structure Framing (α β : Type*) where
  encode : α → List β
  next : List β → Option (α × List β)
  shorter : ∀ {stream item rest}, next stream = some (item, rest) → rest.length < stream.length
  extend : ∀ {stream item rest} more, next stream = some (item, rest) →
    next (stream ++ more) = some (item, rest ++ more)
  whole : ∀ item rest, next (encode item ++ rest) = some (item, rest)

namespace Framing

variable {α β : Type*} (framing : Framing α β)

/-- The items that have arrived, and the part of an item that is left. -/
def decode (stream : List β) : List α × List β :=
  match found : framing.next stream with
  | none => ([], stream)
  | some (item, rest) =>
    have := framing.shorter found
    (item :: (decode rest).1, (decode rest).2)
termination_by stream.length

variable {framing}

variable {stream : List β}

theorem decode_of_none (none : framing.next stream = none) :
    framing.decode stream = ([], stream) := by
  rw [decode]
  split
  case h_1 => rfl
  case h_2 item rest found =>
    rw [none] at found
    cases found

theorem decode_of_some {rest : List β} {item : α}
    (found : framing.next stream = some (item, rest)) :
    framing.decode stream = (item :: (framing.decode rest).1, (framing.decode rest).2) := by
  rw [decode]
  split
  case h_1 none =>
    rw [found] at none
    cases none
  case h_2 other tail same =>
    rw [found] at same
    cases same
    rfl

/-- Reading on from what was left is reading everything at once. -/
theorem decode_append (stream more : List β) :
    framing.decode (stream ++ more) = ((framing.decode stream).1 ++
          (framing.decode ((framing.decode stream).2 ++ more)).1,
        (framing.decode ((framing.decode stream).2 ++ more)).2) := by
  generalize size : stream.length = bound
  induction bound using Nat.strongRecOn generalizing stream with
  | ind bound induction =>
    cases found : framing.next stream with
    | none =>
      rw [decode_of_none found]
      rfl
    | some pair =>
      obtain ⟨item, rest⟩ := pair
      have fewer := framing.shorter found
      rw [decode_of_some (framing.extend more found),
        decode_of_some found, induction _ (size ▸ fewer) rest rfl]
      rfl

/-- What is taken first off a prefix of written items is the first of them. -/
theorem next_of_prefix {rest tail : List β} {item first : α}
    (cut : stream <+: framing.encode first ++ tail)
    (found : framing.next stream = some (item, rest)) : item = first ∧ rest <+: tail := by
  obtain ⟨more, eq⟩ := cut
  have extended := framing.extend more found
  rw [eq, framing.whole] at extended
  cases extended
  exact ⟨rfl, List.prefix_append _ _⟩

theorem next_nil : framing.next [] = none := by
  cases found : framing.next [] with
  | none => rfl
  | some pair => exact absurd (framing.shorter found) (Nat.not_lt_zero _)

theorem decode_prefix {items : List α} (cut : stream <+: (items.map framing.encode).flatten) :
    (framing.decode stream).1 <+: items := by
  induction items generalizing stream with
  | nil =>
    have empty : stream = [] := List.prefix_nil.mp cut
    simp only [empty, decode_of_none next_nil, List.nil_prefix]
  | cons first items induction =>
    cases found : framing.next stream with
    | none =>
      simp only [decode_of_none found, List.nil_prefix]
    | some pair =>
      obtain ⟨same, later⟩ := next_of_prefix cut found
      rw [decode_of_some found, same]
      exact List.cons_prefix_cons.mpr ⟨rfl, induction later⟩

end Framing

end Decnet
