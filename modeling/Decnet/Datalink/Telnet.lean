import Decnet.Datalink.Ddcmp

/-!
# DDCMP over Telnet

A Telnet connection doubles the all-ones byte.  `unescape_read` undoes it, on whatever pieces the
bytes come in.
-/

namespace Decnet.Ddcmp

open List

def DEL : UInt8 := 0o377

/-- `sizeof buf`. -/
def bufferSize : Nat := 4096

/-- The loop of `recvall`.  A turn finds nothing to read, or `sock_recv` gets bytes: one at least,
and as many more as it is said here at most. -/
def recvall : Nat → List (Option Nat) → Bytes → Option (Bytes × List (Option Nat) × Bytes)
  | 0, turns, stream => some ([], turns, stream)
  | _ + 1, [], _ => none
  | want + 1, none :: turns, stream => recvall (want + 1) turns stream
  | want + 1, some more :: turns, stream =>
    let got := stream.take (min (more + 1) (min (want + 1) bufferSize))
    if got = [] then none
    else do
      let (ret, rest) ← recvall (want + 1 - got.length) turns (stream.drop got.length)
      some (got ++ ret, rest)

/-- The socket gets a byte at least as often as there are bytes. -/
def Arrives (turns : List (Option Nat)) (stream : Bytes) : Prop :=
  stream.length ≤ turns.countP Option.isSome

def escape (bytes : Bytes) : Bytes := bytes.flatMap fun c => if c = DEL then [c, c] else [c]

/-- The loop that collapses each pair. -/
def collapse : Bytes → Bytes
  | c :: d :: rest => if c = DEL ∧ d = DEL then c :: collapse rest else c :: collapse (d :: rest)
  | rest => rest

/-- The loop of `unescape_read`; each turn adds to `out`. -/
def unescapeLoop (n : Nat) : Nat → Bytes → List (Option Nat) → Bytes →
    Option (Bytes × List (Option Nat) × Bytes)
  | 0, _, _, _ => none
  | fuel + 1, out, turns, stream =>
    if out.length < n then do
      let (b, turns, stream) ← recvall (n - out.length) turns stream
      if b.count DEL % 2 = 1 then
        -- a pair was split across this read
        let (more, turns, stream) ← recvall 1 turns stream
        unescapeLoop n fuel (out ++ collapse (b ++ more)) turns stream
      else unescapeLoop n fuel (out ++ collapse b) turns stream
    else some (out.take n, turns, stream)

def unescapeRead (telnet : Bool) (n : Nat) (turns : List (Option Nat)) (stream : Bytes) :
    Option (Bytes × List (Option Nat) × Bytes) :=
  if telnet then unescapeLoop n (n + 1) [] turns stream else recvall n turns stream

/-- Calls of `unescape_read` one after another, on a Telnet connection. -/
def readMany : List Nat → List (Option Nat) → Bytes →
    Option (List Bytes × List (Option Nat) × Bytes)
  | [], turns, stream => some ([], turns, stream)
  | n :: sizes, turns, stream => do
    let (piece, turns, stream) ← unescapeRead true n turns stream
    let (pieces, rest) ← readMany sizes turns stream
    some (piece :: pieces, rest)

theorem recvall_append {turns : List (Option Nat)} {first rest : Bytes}
    (arrives : Arrives turns (first ++ rest)) :
    ∃ turns', recvall first.length turns (first ++ rest) = some (first, turns', rest) ∧
      Arrives turns' rest := by
  unfold Arrives at *
  induction turns generalizing first with
  | nil =>
    obtain ⟨rfl, rfl⟩ : first = [] ∧ rest = [] := by simpa using arrives
    exact ⟨[], rfl, Nat.le_refl _⟩
  | cons turn turns induction =>
    cases first with
    | nil => exact ⟨turn :: turns, by simp [recvall], arrives⟩
    | cons c first =>
      cases turn with
      | none =>
        obtain ⟨turns', same, still⟩ := @induction (c :: first) (by simpa using arrives)
        exact ⟨turns', by simpa [recvall] using same, still⟩
      | some more =>
        have positive : 0 < bufferSize := by decide
        generalize size : min (more + 1) (min (first.length + 1) bufferSize) = k
        have bounds : 0 < k ∧ k ≤ (c :: first).length := by
          rw [length_cons]
          omega
        obtain ⟨got, left, split, taken⟩ : ∃ got left, c :: first = got ++ left ∧ got.length = k :=
          ⟨_, _, (take_append_drop k _).symm, length_take_of_le bounds.2⟩
        have some : got ≠ [] := ne_nil_of_length_pos (taken ▸ bounds.1)
        have whole : first.length + 1 = got.length + left.length := by
          simpa using congrArg length split
        have later : (left ++ rest).length ≤ turns.countP Option.isSome := by
          rw [split, append_assoc, countP_cons, length_append] at arrives
          simp only [Option.isSome_some, if_true] at arrives
          omega
        obtain ⟨turns', same, still⟩ := induction later
        refine ⟨turns', ?_, still⟩
        rw [length_cons, split, append_assoc, recvall, size, ← taken, take_left, drop_left,
          if_neg some, whole, Nat.add_sub_cancel_left, same]
        rfl

theorem escape_append (first second : Bytes) :
    escape (first ++ second) = escape first ++ escape second :=
  flatMap_append

@[simp] theorem escape_del (bytes : Bytes) : escape (DEL :: bytes) = DEL :: DEL :: escape bytes :=
  rfl

theorem escape_cons {c : UInt8} (other : c ≠ DEL) (bytes : Bytes) :
    escape (c :: bytes) = c :: escape bytes := by
  simp [escape, other]

theorem collapse_cons {c : UInt8} (other : c ≠ DEL) (rest : Bytes) :
    collapse (c :: rest) = c :: collapse rest := by
  cases rest with
  | nil => rfl
  | cons d rest => simp [collapse, other]

theorem collapse_escape (bytes : Bytes) : collapse (escape bytes) = bytes := by
  induction bytes with
  | nil => rfl
  | cons c bytes induction =>
    by_cases double : c = DEL
    · subst double
      simp [collapse, induction]
    · rw [escape_cons double, collapse_cons double, induction]

/-- A read ends between two bytes or in the middle of a pair, and an odd number of all-ones bytes
says which. -/
theorem escape_cut {plain : Bytes} {n : Nat} (there : n ≤ plain.length) :
    ∃ bytes rest first last, plain = bytes ++ rest ∧ bytes.length ≤ n ∧ (0 < n → bytes ≠ []) ∧
      escape bytes = first ++ last ∧ first.length = n ∧ last.length = first.count DEL % 2 := by
  induction plain generalizing n with
  | nil =>
    obtain rfl : n = 0 := Nat.le_zero.mp there
    exact ⟨[], [], [], [], by simp [escape]⟩
  | cons c plain induction =>
    cases n with
    | zero => exact ⟨[], c :: plain, [], [], by simp [escape]⟩
    | succ n =>
      rw [length_cons] at there
      by_cases double : c = DEL
      · subst double
        cases n with
        | zero => exact ⟨[DEL], plain, [DEL], [DEL], by simp [escape]⟩
        | succ n =>
          obtain ⟨bytes, rest, first, last, rfl, short, -, cut, size, parity⟩ :=
            @induction n (by omega)
          refine ⟨DEL :: bytes, rest, DEL :: DEL :: first, last, ?_⟩
          simp [cut]
          omega
      · obtain ⟨bytes, rest, first, last, rfl, short, -, cut, size, parity⟩ :=
          @induction n (by omega)
        refine ⟨c :: bytes, rest, c :: first, last, ?_⟩
        simp [escape_cons double, cut, count_cons_of_ne double]
        omega

theorem unescapeLoop_append {n fuel : Nat} {out wanted rest : Bytes} {turns : List (Option Nat)}
    (arrives : Arrives turns (escape (wanted ++ rest))) (size : out.length + wanted.length = n)
    (enough : wanted.length < fuel) :
    ∃ turns', unescapeLoop n fuel out turns (escape (wanted ++ rest)) =
      some (out ++ wanted, turns', escape rest) ∧ Arrives turns' (escape rest) := by
  induction fuel generalizing out wanted turns with
  | zero => cases enough
  | succ fuel induction =>
    rw [unescapeLoop]
    by_cases more : out.length < n
    · have left : n - out.length = wanted.length := by omega
      obtain ⟨bytes, others, first, last, split, short, some, cut, taken, parity⟩ :=
        @escape_cut (wanted ++ rest) wanted.length (by simp)
      have front : bytes <+: wanted ++ rest := ⟨others, split.symm⟩
      obtain ⟨later, rfl⟩ := prefix_of_prefix_length_le front (prefix_append ..) short
      have stream : escape (bytes ++ later ++ rest) =
          first ++ (last ++ escape (later ++ rest)) := by
        rw [append_assoc, escape_append, cut, append_assoc]
      have fewer : 0 < bytes.length := length_pos_iff.mpr (some (by omega))
      rw [length_append] at size enough
      rw [stream] at arrives ⊢
      obtain ⟨turns₁, read, arrives₁⟩ := recvall_append arrives
      obtain ⟨turns₂, next, arrives₂⟩ := recvall_append arrives₁
      obtain ⟨turns₃, result, arrives₃⟩ := @induction (out ++ bytes) later turns₂ arrives₂
        (by rw [length_append]; omega) (by omega)
      refine ⟨turns₃, ?_, arrives₃⟩
      rw [append_assoc] at result
      rw [if_pos more, left, ← taken, read]
      simp only [Option.bind_eq_bind, Option.bind_some]
      split
      case isTrue odd =>
        rw [odd] at parity
        rw [parity] at next
        simp only [next, Option.bind_some, ← cut, collapse_escape, result]
      case isFalse even =>
        obtain rfl : last = [] := length_eq_zero_iff.mp (by omega)
        simp only [length_nil, recvall, Option.some.injEq, Prod.mk.injEq] at next
        rw [append_nil] at cut
        simp only [← cut, collapse_escape, next, result]
    · obtain rfl : wanted = [] := length_eq_zero_iff.mp (by omega)
      refine ⟨turns, ?_, arrives⟩
      rw [if_neg more, append_nil, take_of_length_le (by omega)]
      rfl

theorem readMany_flatten {pieces : List Bytes} {rest : Bytes} {turns : List (Option Nat)}
    (arrives : Arrives turns (escape (pieces.flatten ++ rest))) :
    ∃ turns', readMany (pieces.map length) turns (escape (pieces.flatten ++ rest)) =
      some (pieces, turns', escape rest) := by
  induction pieces generalizing turns with
  | nil => exact ⟨turns, rfl⟩
  | cons piece pieces induction =>
    rw [flatten_cons, append_assoc] at arrives ⊢
    obtain ⟨turns₁, read, arrives₁⟩ := @unescapeLoop_append piece.length (piece.length + 1) [] piece
      _ turns arrives (Nat.zero_add _) (Nat.lt_succ_self _)
    obtain ⟨turns₂, reads⟩ := induction arrives₁
    refine ⟨turns₂, ?_⟩
    simp only [map_cons, readMany, unescapeRead, if_true, read, Option.bind_eq_bind,
      Option.bind_some, reads]
    rfl

theorem exists_pieces {plain : Bytes} {sizes : List Nat} (there : sizes.sum ≤ plain.length) :
    ∃ (pieces : List Bytes) (rest : Bytes),
      plain = pieces.flatten ++ rest ∧ pieces.map length = sizes := by
  induction sizes generalizing plain with
  | nil => exact ⟨[], plain, rfl, rfl⟩
  | cons n sizes induction =>
    rw [sum_cons] at there
    obtain ⟨pieces, rest, same, lengths⟩ := @induction (plain.drop n)
      (by rw [length_drop]; omega)
    refine ⟨plain.take n :: pieces, rest, ?_, ?_⟩
    · rw [flatten_cons, append_assoc, ← same, take_append_drop]
    · rw [map_cons, lengths, length_take_of_le (by omega)]

/-- Reads of any sizes from the escaped form of a string return the string in pieces of these sizes,
and leave the escaped form of the rest. -/
theorem unescaped_pieces (plain : Bytes) (sizes : List Nat) (there : sizes.sum ≤ plain.length)
    (turns : List (Option Nat)) (arrives : Arrives turns (escape plain)) :
    ∃ (pieces : List Bytes) (rest : Bytes) (turns' : List (Option Nat)),
      plain = pieces.flatten ++ rest ∧ pieces.map length = sizes ∧
      readMany sizes turns (escape plain) = some (pieces, turns', escape rest) ∧
      escape plain = (pieces.map escape).flatten ++ escape rest := by
  obtain ⟨pieces, rest, rfl, rfl⟩ := exists_pieces there
  obtain ⟨turns', reads⟩ := readMany_flatten arrives
  refine ⟨pieces, rest, turns', rfl, rfl, reads, ?_⟩
  rw [escape_append, escape, flatten_eq_flatMap, flatMap_assoc, flatten_eq_flatMap, flatMap_map]
  rfl

theorem unescaped_pieces_of_pairs :
    ∃ (pieces : List Bytes) (rest : Bytes) (turns' : List (Option Nat)),
      [1, 255, 255, 2] = pieces.flatten ++ rest ∧ pieces.map length = [2, 1] ∧
      readMany [2, 1] (replicate 3 none ++ replicate 9 (some 1)) (escape [1, 255, 255, 2]) =
        some (pieces, turns', escape rest) ∧
      escape [1, 255, 255, 2] = (pieces.map escape).flatten ++ escape rest :=
  unescaped_pieces _ _ (by decide) _ (by unfold Arrives; decide)

end Decnet.Ddcmp
