import Decnet.Lib.Reading

/-!
# Block mode

A file is read and written in blocks of 512 bytes, numbered from one.  Block
numbers are held in 64 bits and so are offsets, which are given to `fseek` as a
`long` that a negative value makes it refuse.
-/

namespace Decnet.Dap

open Reading List

def wordSize : Nat := 2 ^ 64
def longSize : Nat := 2 ^ 63
def blksize : Nat := 512

/-- A file and the size it can grow to. -/
structure BlockFile where
  bytes : List UInt8
  room : Nat
  inside : bytes.length ≤ room
  room_lt : room < longSize

def keyVbn (key : List UInt8) : Nat :=
  key.foldr (fun byte v => (v * 256 + byte.toNat) % wordSize) 0

/-- How a requester gives a block number: a key, a record number, or neither
(a record number of zero) for the one after what it wrote last; the first is
one. -/
inductive BlockNumber where
  | first
  | key (bytes : List UInt8)
  | record (number : UInt64) (given : number ≠ 0)
  | next (last : BlockNumber) (written : Nat)

namespace BlockNumber

/-- The number as the server has it. -/
def vbn : BlockNumber → Nat
  | first => 1
  | key bytes => keyVbn bytes
  | record number _ => number.toNat
  | next last written => (last.vbn + (written + blksize - 1) / blksize) % wordSize

/-- The number that is meant. -/
def value : BlockNumber → Nat
  | first => 1
  | key bytes => littleEndian bytes
  | record number _ => number.toNat
  | next last written => last.value + (written + blksize - 1) / blksize

end BlockNumber

/-- Where `fseek` goes for a block, if it does. -/
def seek (vbn : Nat) : Option Nat :=
  let offset := (vbn - 1) * blksize % wordSize
  if vbn = 0 ∨ longSize ≤ offset then none else some offset

def stored (bytes : List UInt8) (offset : Nat) (data : List UInt8) : List UInt8 :=
  if data = [] then bytes
  else bytes.take offset ++ replicate (offset - bytes.length) 0 ++ data ++
    bytes.drop (offset + data.length)

namespace BlockFile

def readBlock (file : BlockFile) (vbn : Nat) : Option (List UInt8) := do
  let offset ← seek vbn
  let block := (file.bytes.drop offset).take blksize
  if block = [] then none else some block

def writeBlock (file : BlockFile) (vbn : Nat) (data : List UInt8) : Option (List UInt8) := do
  let offset ← seek vbn
  if data ≠ [] ∧ file.room < offset + data.length then none
  else some (stored file.bytes offset data)

/-- A read gives the bytes of the block, and a write puts the data there or is
refused. -/
structure Exact (file : BlockFile) (number : BlockNumber) (data : List UInt8) : Prop where
  reads : file.readBlock number.vbn =
    if number.value = 0 ∨ file.bytes.length ≤ (number.value - 1) * blksize then none
    else some ((file.bytes.drop ((number.value - 1) * blksize)).take blksize)
  writes : ∀ result, file.writeBlock number.vbn data = some result →
    number.value ≠ 0 ∧ result = stored file.bytes ((number.value - 1) * blksize) data

end BlockFile

theorem keyVbn_eq (key : List UInt8) : keyVbn key = littleEndian key % wordSize := by
  induction key with
  | nil => rfl
  | cons byte key ih =>
    have folded : keyVbn (byte :: key) = (keyVbn key * 256 + byte.toNat) % wordSize := rfl
    rw [folded, ih, littleEndian, Nat.add_comm byte.toNat, Nat.mul_comm 256]
    simp only [Nat.add_mod, Nat.mul_mod, Nat.mod_mod]

theorem BlockNumber.vbn_eq (number : BlockNumber) : number.vbn = number.value % wordSize := by
  induction number with
  | first => rfl
  | key bytes => exact keyVbn_eq bytes
  | record number _ => exact (Nat.mod_eq_of_lt number.toNat_lt).symm
  | next last written ih => rw [vbn, ih, value, Nat.mod_add_mod]

/-- The offset is the right one modulo the size of a word. -/
theorem BlockNumber.seek_eq (number : BlockNumber) :
    seek number.vbn =
      if number.value % wordSize = 0 ∨ longSize ≤ (number.value - 1) * blksize % wordSize then none
      else some ((number.value - 1) * blksize % wordSize) := by
  rw [vbn_eq]
  unfold seek wordSize longSize blksize
  dsimp only
  by_cases zero : number.value % 2 ^ 64 = 0
  · rw [if_pos (.inl zero), if_pos (.inl zero)]
  · have same : (number.value % 2 ^ 64 - 1) * 512 % 2 ^ 64 = (number.value - 1) * 512 % 2 ^ 64 := by
      omega
    rw [same]

theorem length_stored {bytes data : List UInt8} (some : data ≠ []) (offset : Nat) :
    (stored bytes offset data).length = max bytes.length (offset + data.length) := by
  rw [stored, if_neg some]
  simp only [length_append, length_take, length_replicate, length_drop]
  omega

namespace BlockFile

variable {file : BlockFile} {number : BlockNumber} {data : List UInt8}

/-- Block mode finds the block that is meant, unless its offset has more than 64
bits and wraps to one in the file, or to one where the data has room. -/
theorem block_mode_exact_iff (file : BlockFile) (number : BlockNumber) (data : List UInt8) :
    file.Exact number data ↔ number.value ≤ 2 ^ 55 ∨ number.value % wordSize = 0 ∨
      file.bytes.length ≤ (number.value - 1) * blksize % wordSize ∧
        (data = [] ∨ file.room < (number.value - 1) * blksize % wordSize + data.length) := by
  obtain ⟨inside, room⟩ := And.intro file.inside file.room_lt
  have sought := number.seek_eq
  split at sought
  · rename_i refused
    have beyond : number.value = 0 ∨ file.bytes.length ≤ (number.value - 1) * blksize := by
      unfold wordSize longSize blksize at *
      omega
    refine iff_of_true ⟨?_, ?_⟩ ?_
    · rw [readBlock, sought, if_pos beyond]
      rfl
    · rw [writeBlock, sought]
      exact fun _ given => nomatch given
    · unfold wordSize longSize blksize at *
      omega
  rename_i taken
  by_cases right : (number.value - 1) * blksize % wordSize = (number.value - 1) * blksize
  · rw [right] at sought taken
    obtain ⟨nonzero, near⟩ := not_or.1 taken
    refine iff_of_true ⟨?_, ?_⟩ (.inl ?_)
    · have positive : number.value ≠ 0 := fun zero => nonzero (by simp [zero])
      rw [readBlock, sought]
      simp [positive, blksize]
    · rw [writeBlock, sought]
      intro result given
      have kept := (Option.ite_none_left_eq_some.1 given).2
      exact ⟨fun zero => nonzero (by simp [zero]), (Option.some.inj kept).symm⟩
    · unfold longSize blksize at near
      omega
  -- The offset has lost its high bits.
  have far : wordSize ≤ (number.value - 1) * blksize :=
    Nat.le_of_not_lt fun near => right (Nat.mod_eq_of_lt near)
  have beyond : file.bytes.length ≤ (number.value - 1) * blksize := by
    unfold wordSize longSize at *
    omega
  have large : ¬ number.value ≤ 2 ^ 55 := by
    unfold wordSize blksize at far
    omega
  simp only [large, (not_or.1 taken).1, false_or]
  generalize (number.value - 1) * blksize % wordSize = offset at *
  constructor
  · intro exact
    constructor
    · have reads := exact.reads
      rw [readBlock, sought, if_pos (.inr beyond)] at reads
      by_contra inFile
      simp [blksize, Nat.lt_of_not_le inFile] at reads
    · by_contra! fits
      have same := exact.writes (stored file.bytes offset data) (by
        rw [writeBlock, sought]
        exact if_neg fun large => Nat.not_lt.2 fits.2 large.2)
      have lengths := congrArg length same.2
      rw [length_stored fits.1, length_stored fits.1] at lengths
      unfold wordSize longSize at *
      omega
  · rintro ⟨outside, refused⟩
    constructor
    · rw [readBlock, sought, if_pos (.inr beyond)]
      simp [outside]
    · rw [writeBlock, sought]
      intro result given
      obtain ⟨fits, same⟩ := Option.ite_none_left_eq_some.1 given
      obtain rfl : data = [] := by
        by_contra some
        exact fits ⟨some, refused.resolve_left some⟩
      exact ⟨fun zero => large (by simp [zero]), (Option.some.inj same).symm⟩

def oneByte : BlockFile := ⟨[7], 1, by decide, by decide⟩

/-- The key stands for block 2^64 + 1. -/
theorem long_key_reads_first :
    oneByte.readBlock (BlockNumber.key [1, 0, 0, 0, 0, 0, 0, 0, 1]).vbn = some [7] ∧
      ¬ oneByte.Exact (.key [1, 0, 0, 0, 0, 0, 0, 0, 1]) [] := by
  refine ⟨by decide, fun exact => ?_⟩
  have reads := exact.reads
  revert reads
  decide

end BlockFile

end Decnet.Dap
