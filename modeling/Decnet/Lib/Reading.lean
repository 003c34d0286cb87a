import Mathlib.Algebra.Order.Ring.Nat
import Mathlib.Data.List.Basic
import Mathlib.Tactic.Ring

/-!
# Reading values off the front of a byte string

A reader takes bytes off the front of a string and gives a value, or fails.
`Reads` says that a reader turns certain bytes into a certain value and leaves
what comes after them; readers in sequence read the bytes in sequence, so that
a round trip through a format is put together from those of its fields.
-/

namespace Decnet.Reading

abbrev Reader := StateT (List UInt8) Option

variable {α β : Type}

/-- The reader takes `bytes` in front of `rest` for `value`. -/
def Reads (x : Reader α) (bytes rest : List UInt8) (value : α) : Prop :=
  x (bytes ++ rest) = some (value, rest)

theorem reads_pure (value : α) (rest : List UInt8) : Reads (pure value) [] rest value :=
  rfl

theorem Reads.bind {x : Reader α} {f : α → Reader β}
    {first second rest : List UInt8} {middle : α} {value : β}
    (before : Reads x first (second ++ rest) middle) (after : Reads (f middle) second rest value) :
    Reads (x >>= f) (first ++ second) rest value := by
  unfold Reads at *
  rw [List.append_assoc]
  change (x (first ++ (second ++ rest))).bind (fun pair => f pair.1 pair.2) = _
  rw [before]
  exact after

/-- A last step that reads nothing more. -/
theorem Reads.last {x : Reader α} {f : α → Reader β}
    {bytes rest : List UInt8} {middle : α} {value : β} (before : Reads x bytes rest middle)
    (after : Reads (f middle) [] rest value) : Reads (x >>= f) bytes rest value := by
  have both : Reads (x >>= f) (bytes ++ []) rest value := Reads.bind before after
  rw [List.append_nil] at both
  exact both

/-! ## Little endian numbers -/

def littleEndian : List UInt8 → Nat
  | [] => 0
  | byte :: rest => byte.toNat + 256 * littleEndian rest

/-- A number in `count` bytes, the low ones first. -/
def putUint (value : Nat) : Nat → List UInt8
  | 0 => []
  | count + 1 => UInt8.ofNat (value % 256) :: putUint (value / 256) count

@[simp] theorem putUint_length (value count : Nat) : (putUint value count).length = count := by
  induction count generalizing value with
  | zero => rfl
  | succ count ih => simp [putUint, ih]

theorem littleEndian_putUint {value count : Nat} (fits : value < 256 ^ count) :
    littleEndian (putUint value count) = value := by
  induction count generalizing value with
  | zero =>
    exact (Nat.lt_one_iff.mp fits).symm
  | succ count ih =>
    have high : value / 256 < 256 ^ count := by
      apply Nat.div_lt_of_lt_mul
      rw [← pow_succ']
      exact fits
    have low : (UInt8.ofNat (value % 256)).toNat = value % 256 := by
      simp
    simp only [putUint, littleEndian]
    rw [ih high, low]
    exact Nat.mod_add_div value 256

def uint (count : Nat) : Reader Nat := fun buffer =>
  if buffer.length < count then none else some (littleEndian (buffer.take count), buffer.drop count)

theorem reads_uint {value count : Nat} (fits : value < 256 ^ count) (rest : List UInt8) :
    Reads (uint count) (putUint value count) rest value := by
  have enough : ¬ (putUint value count ++ rest).length < count := by
    simp
  have taken : (putUint value count ++ rest).take count = putUint value count := by
    rw [List.take_append_of_le_length (putUint_length value count).ge]
    exact List.take_of_length_le (putUint_length value count).le
  have left : (putUint value count ++ rest).drop count = rest := by
    rw [List.drop_append_of_le_length (putUint_length value count).ge]
    rw [List.drop_of_length_le (putUint_length value count).le]
    rfl
  unfold Reads uint
  rw [if_neg enough, taken, left, littleEndian_putUint fits]

/-! ## Byte strings -/

def raw (count : Nat) : Reader (List UInt8) := fun buffer =>
  if buffer.length < count then none else some (buffer.take count, buffer.drop count)

theorem reads_raw (bytes rest : List UInt8) : Reads (raw bytes.length) bytes rest bytes := by
  unfold Reads raw
  rw [if_neg (by simp), List.take_left, List.drop_left]

def remaining : Reader (List UInt8) := fun buffer => some (buffer, [])

theorem reads_remaining (bytes : List UInt8) : Reads remaining bytes [] bytes := by
  unfold Reads remaining
  rw [List.append_nil]

def finish : Reader Unit := fun buffer =>
  if buffer.isEmpty then some ((), []) else none

theorem reads_finish : Reads finish [] [] () :=
  rfl

end Decnet.Reading
