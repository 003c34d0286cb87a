import Mathlib.Order.Basic
import Decnet.Common.Text

/-!
# Chunked bodies

`dechunk` undoes the chunked transfer encoding.  A chunk is as long as
`strtoul` says of its size line, and the sum of a position and a length may
wrap.
-/

namespace Decnet.Http

/-- `std::size_t` and `unsigned long` have 64 bits. -/
def wordSize : Nat := 2 ^ 64

/-- `std::string::max_size ()`. -/
def maxSize : Nat := 2 ^ 63 - 1

def hexValue (c : Char) : Option Nat :=
  if '0' ≤ c ∧ c ≤ '9' then some (c.toNat - '0'.toNat)
  else if 'a' ≤ c.toLower ∧ c.toLower ≤ 'f' then
    some (c.toLower.toNat - 'a'.toNat + 10)
  else none

/-- A `0x` counts only in front of a digit. -/
def dropHexMark : Text → Text
  | '0' :: x :: d :: rest =>
    if x.toLower = 'x' ∧ (hexValue d).isSome then d :: rest
    else '0' :: x :: d :: rest
  | text => text

/-- A number that is too large becomes the largest there is, and a minus sign
negates modulo `wordSize`. -/
def toWord (negative : Bool) (value : Nat) : Nat :=
  if wordSize ≤ value then wordSize - 1
  else if negative then (wordSize - value) % wordSize
  else value

/-- `std::strtoul` with base 16, if there is a number. -/
def strtoul (line : Text) : Option Nat :=
  let text := line.dropWhile Text.isSpace
  let signed := text.head? = some '-' ∨ text.head? = some '+'
  let number := dropHexMark (if signed then text.tail else text)
  let digits := (number.takeWhile (hexValue · |>.isSome)).filterMap hexValue
  if digits = [] then none
  else some (toWord (text.head? = some '-')
    (digits.foldl (fun value digit => value * 16 + digit) 0))

/-- Where a string begins in a text. -/
def find (what : Text) : Text → Option Nat
  | [] => none
  | c :: text =>
    if what.isPrefixOf (c :: text) then some 0
    else (find what text).map (· + 1)

/-- The size in the line at a position, and where the chunk begins. -/
def sizeLine (input : Text) (pos : Nat) : Option (Nat × Nat) := do
  let eol ← find ['\r', '\n'] (input.drop pos)
  -- the line may carry chunk extensions after a semicolon
  let len ← strtoul (((input.drop pos).take eol).takeWhile (· ≠ ';'))
  some (len, pos + eol + 2)

/-- A turn of the loop: what `dechunk` returns, or the position and the output
with which it goes on. -/
def turn (input : Text) (pos : Nat) (out : Text) : Bool ⊕ (Nat × Text) :=
  match sizeLine input pos with
  | none => .inl false
  | some (len, start) =>
    if len = 0 then .inl true
    else if input.length < (start + len) % wordSize then .inl false
    else .inr ((start + len + 2) % wordSize, out ++ (input.drop start).take len)

/-- `none` if the loop takes more turns. -/
def dechunk (input : Text) : Nat → Nat → Text → Option (Bool × Text)
  | 0, _, _ => none
  | turns + 1, pos, out =>
    match turn input pos out with
    | .inl ok => some (ok, out)
    | .inr (pos, out) => dechunk input turns pos out

/-! ## What a body says -/

/-- The contents of the chunks from a position on, up to a size of zero. -/
inductive Chunks (input : Text) : Nat → Text → Prop where
  | last {pos start : Nat} (line : sizeLine input pos = some (0, start)) : Chunks input pos []
  | chunk {pos len start : Nat} {rest : Text}
      (line : sizeLine input pos = some (len, start)) (some : len ≠ 0)
      (inside : start + len ≤ input.length) (more : Chunks input (start + len + 2) rest) :
      Chunks input pos ((input.drop start).take len ++ rest)

/-- A chunk is to begin here: all the chunks before it lie inside the input. -/
inductive At (input : Text) : Nat → Prop where
  | first : At input 0
  | next {pos len start : Nat} (before : At input pos)
      (line : sizeLine input pos = some (len, start)) (some : len ≠ 0)
      (inside : start + len ≤ input.length) : At input (start + len + 2)

structure Sound (input : Text) : Prop where
  ends : ∃ turns result, dechunk input turns 0 [] = some result
  exact : ∀ turns out, dechunk input turns 0 [] = some (true, out) → Chunks input 0 out
  rejects : ∀ pos len start, At input pos →
    sizeLine input pos = some (len, start) → input.length < start + len →
    ∀ out, turn input pos out = .inl false

/-- No size is so large that the end of the chunk wraps. -/
def Unwrapped (input : Text) : Prop :=
  ∀ pos len start, At input pos → sizeLine input pos = some (len, start) → start + len < wordSize

theorem find_le {what text : Text} {k : Nat} (found : find what text = some k) :
    k + what.length ≤ text.length := by
  induction text generalizing k with
  | nil => cases found
  | cons c text induction =>
    rw [find] at found
    split at found
    case isTrue here =>
      cases found
      rw [Nat.zero_add]
      exact (List.isPrefixOf_iff_prefix.mp here).length_le
    case isFalse =>
      obtain ⟨k, later, rfl⟩ := Option.map_eq_some_iff.mp found
      have bound := induction later
      rw [List.length_cons]
      omega

theorem toWord_lt (negative : Bool) (value : Nat) : toWord negative value < wordSize := by
  have positive : 0 < wordSize := by decide
  unfold toWord
  split_ifs with large
  · exact Nat.sub_lt positive Nat.one_pos
  · exact Nat.mod_lt _ positive
  · exact Nat.not_le.mp large

variable {input : Text} {pos len start : Nat}

theorem sizeLine_bounds (line : sizeLine input pos = some (len, start)) :
    pos + 2 ≤ start ∧ start ≤ input.length ∧ len < wordSize := by
  simp only [sizeLine, strtoul, Option.bind_eq_bind, Option.bind_eq_some_iff,
    Option.ite_none_left_eq_some, Option.some.injEq] at line
  obtain ⟨eol, found, _, ⟨_, rfl⟩, rfl, rfl⟩ := line
  have bound := find_le found
  rw [List.length_drop] at bound
  change eol + 2 ≤ _ at bound
  exact ⟨by omega, by omega, toWord_lt _ _⟩

theorem room : maxSize + 2 < wordSize := by decide

theorem turn_of_outside (unwrapped : Unwrapped input) (here : At input pos)
    (line : sizeLine input pos = some (len, start))
    (outside : input.length < start + len) (out : Text) : turn input pos out = .inl false := by
  have begun := (sizeLine_bounds line).2.1
  have short := unwrapped pos len start here line
  simp only [turn, line]
  rw [if_neg (by omega), Nat.mod_eq_of_lt short, if_pos outside]

section

variable (size : input.length ≤ maxSize)

include size

/-- A sum that wraps is no more than the position. -/
theorem turn_of_wraps (line : sizeLine input pos = some (len, start))
    (long : wordSize ≤ start + len) (out : Text) : turn input pos out ≠ .inl false := by
  have room := room
  obtain ⟨-, begun, bound⟩ := sizeLine_bounds line
  have wrapped : (start + len) % wordSize = start + len - wordSize := by
    rw [Nat.mod_eq_sub_mod long, Nat.mod_eq_of_lt (by omega)]
  simp only [turn, line]
  rw [if_neg (by omega), if_neg (by omega)]
  nofun

variable (unwrapped : Unwrapped input) (here : At input pos)

include unwrapped here

theorem turn_cases (out : Text) :
    turn input pos out = .inl false ∨ (turn input pos out = .inl true ∧ Chunks input pos []) ∨
    ∃ len start, sizeLine input pos = some (len, start) ∧ len ≠ 0 ∧
      start + len ≤ input.length ∧ turn input pos out =
        .inr (start + len + 2, out ++ (input.drop start).take len) := by
  cases line : sizeLine input pos with
  | none => exact .inl (by simp only [turn, line])
  | some found =>
    obtain ⟨len, start⟩ := found
    by_cases some : len = 0
    · subst some
      exact .inr (.inl ⟨by simp only [turn, line, if_true], .last line⟩)
    by_cases inside : start + len ≤ input.length
    · refine .inr (.inr ⟨len, start, rfl, some, inside, ?_⟩)
      have room := room
      simp only [turn, line, if_neg some]
      rw [Nat.mod_eq_of_lt (by omega), Nat.mod_eq_of_lt (by omega), if_neg (Nat.not_lt.mpr inside)]
    · exact .inl (turn_of_outside unwrapped here line (Nat.not_le.mp inside) out)

/-- The position moves on with every turn. -/
theorem ends_of_unwrapped (out : Text) :
    ∃ turns result, dechunk input turns pos out = some result := by
  induction left : input.length + 2 - pos using Nat.strongRecOn generalizing pos out with
  | _ left induction =>
    rcases turn_cases size unwrapped here out with
      no | ⟨yes, _⟩ | ⟨len, start, line, some, inside, next⟩
    · exact ⟨1, (false, out), by simp only [dechunk, no]⟩
    · exact ⟨1, (true, out), by simp only [dechunk, yes]⟩
    · obtain ⟨ahead, begun, _⟩ := sizeLine_bounds line
      obtain ⟨turns, result, ends⟩ := induction _ (by omega) (here.next line some inside) _ rfl
      exact ⟨turns + 1, result, by simpa only [dechunk, next] using ends⟩

theorem exact_of_unwrapped {turns : Nat} {out result : Text}
    (ends : dechunk input turns pos out = some (true, result)) :
    ∃ rest, result = out ++ rest ∧ Chunks input pos rest := by
  induction turns generalizing pos out with
  | zero => cases ends
  | succ turns induction =>
    rcases turn_cases size unwrapped here out with
      no | ⟨yes, last⟩ | ⟨len, start, line, some, inside, next⟩
    · rw [dechunk, no] at ends
      cases ends
    · rw [dechunk, yes] at ends
      cases ends
      exact ⟨[], (List.append_nil _).symm, last⟩
    · rw [dechunk, next] at ends
      obtain ⟨rest, rfl, more⟩ := induction (here.next line some inside) ends
      exact ⟨_, List.append_assoc .., .chunk line some inside more⟩

end

/-- `dechunk` ends with what the body says, and rejects every size that is too
large, exactly if no size makes the end of its chunk wrap. -/
theorem dechunk_sound_iff (input : Text) (size : input.length ≤ maxSize) :
    Sound input ↔ Unwrapped input := by
  constructor
  · intro sound pos len start here line
    by_contra long
    rw [Nat.not_lt] at long
    have beyond : input.length < start + len := by
      have room := room
      omega
    exact turn_of_wraps size line long [] (sound.rejects pos len start here line beyond [])
  · intro unwrapped
    refine ⟨ends_of_unwrapped size unwrapped .first [], ?_, ?_⟩
    · intro turns out ends
      obtain ⟨rest, rfl, chunks⟩ := exact_of_unwrapped size unwrapped .first ends
      exact chunks
    · intro pos len start here line beyond
      exact turn_of_outside unwrapped here line beyond

theorem dechunk_sound_iff_hello :
    Sound "5;a\r\nhello\r\n0\r\n".toList ↔ Unwrapped "5;a\r\nhello\r\n0\r\n".toList :=
  dechunk_sound_iff _ (by decide)

/-- The size `-6` takes the loop back to where it was. -/
theorem dechunk_never_ends : ¬ Sound "  -6\r\n".toList := by
  have again (turns : Nat) : dechunk "  -6\r\n".toList turns 2 [] = none := by
    induction turns with
    | zero => rfl
    | succ turns induction => exact induction
  intro sound
  obtain ⟨turns, result, ends⟩ := sound.ends
  cases turns with
  | zero => cases ends
  | succ turns => cases (again turns).symm.trans ends

end Decnet.Http
