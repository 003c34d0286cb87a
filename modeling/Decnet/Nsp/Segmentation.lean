import Decnet.Nsp.Connection

/-!
# Segmentation and reassembly

`send_segments` cuts a message into pieces with begin and end marks, and
`accept_segment` puts them together again.  Seen as functions on lists of
pieces the second undoes the first, and never hands up a message that is not
complete.
-/

namespace Decnet.Nsp

open Connection (Piece cut pieces)

/-- The messages handed up so far and the one being put together. -/
structure Assembly where
  delivered : List Bytes
  assembling : Bool
  assembly : Bytes
  deriving DecidableEq

namespace Assembly

def empty : Assembly := ⟨[], false, []⟩

def take (s : Assembly) (piece : Piece) : Assembly :=
  if piece.bom || s.assembling then
    let whole := (if piece.bom then [] else s.assembly) ++ piece.payload
    if piece.eom then ⟨s.delivered ++ [whole], false, []⟩
    else ⟨s.delivered, true, whole⟩
  else s

theorem delivered_take (s : Assembly) (piece : Piece) :
    s.delivered <+: (s.take piece).delivered := by
  unfold take
  split
  · dsimp only
    split
    · exact List.prefix_append _ _
    · exact List.prefix_rfl
  · exact List.prefix_rfl

theorem delivered_foldl (s : Assembly) (list : List Piece) :
    s.delivered <+: (list.foldl take s).delivered := by
  induction list generalizing s with
  | nil => exact List.prefix_rfl
  | cons piece list ih => exact (s.delivered_take piece).trans (ih _)

theorem foldl_cut (limit rounds : Nat) (first : Bool) (data : Bytes)
    (s : Assembly) (begun : first = false → s.assembling = true) :
    (cut limit rounds first data).foldl take s =
      ⟨s.delivered ++ [(if first then [] else s.assembly) ++ data], false, []⟩ := by
  have last : take s ⟨first, true, data⟩ =
      ⟨s.delivered ++ [(if first then [] else s.assembly) ++ data], false, []⟩ := by
    cases first with
    | false => simp [take, begun rfl]
    | true => simp [take]
  induction rounds generalizing first data s with
  | zero => exact last
  | succ rounds ih =>
    unfold cut
    split
    · exact last
    · have middle : take s ⟨first, false, data.take limit⟩ = ⟨s.delivered, true,
            (if first then [] else s.assembly) ++ data.take limit⟩ := by
        cases first with
        | false => simp [take, begun rfl]
        | true => simp [take]
      rw [List.foldl_cons, middle]
      have rest := ih false (data.drop limit) ⟨s.delivered, true,
          (if first then [] else s.assembly) ++ data.take limit⟩ (fun _ => rfl) (by simp [take])
      rw [rest]
      simp

/-- Whole messages come out as they went in. -/
theorem foldl_messages (limit : Nat) (messages : List Bytes) (delivered : List Bytes) :
    (messages.flatMap (pieces limit)).foldl take ⟨delivered, false, []⟩ =
      ⟨delivered ++ messages, false, []⟩ := by
  induction messages generalizing delivered with
  | nil => simp
  | cons data messages ih =>
    rw [List.flatMap_cons, List.foldl_append, pieces,
      foldl_cut limit data.length true data _ nofun, ih]
    simp

end Assembly

/-- What the first `count` pieces of a stream amount to. -/
def reassemble (stream : List Piece) (count : Nat) : Assembly :=
  (stream.take count).foldl Assembly.take Assembly.empty

theorem reassemble_succ {stream : List Piece} {count : Nat} {piece : Piece}
    (next : stream[count]? = some piece) :
    reassemble stream (count + 1) = (reassemble stream count).take piece := by
  unfold reassemble
  rw [List.take_add_one, next, List.foldl_append]
  rfl

theorem reassemble_prefix {stream longer : List Piece}
    (grown : stream <+: longer) {count : Nat} (inside : count ≤ stream.length) :
    reassemble longer count = reassemble stream count := by
  obtain ⟨rest, rfl⟩ := grown
  unfold reassemble
  rw [List.take_append_of_le_length inside]

/-- At any point the messages handed up are the first ones that were sent. -/
theorem delivered_reassemble (limit : Nat) (messages : List Bytes) (count : Nat) :
    (reassemble (messages.flatMap (pieces limit)) count).delivered <+: messages := by
  have whole := Assembly.foldl_messages limit messages []
  have later := Assembly.delivered_foldl (reassemble (messages.flatMap (pieces limit)) count)
    ((messages.flatMap (pieces limit)).drop count)
  rw [reassemble, ← List.foldl_append, List.take_append_drop, Assembly.empty, whole] at later
  simpa [reassemble, Assembly.empty] using later

end Decnet.Nsp
