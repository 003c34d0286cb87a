import Mathlib.Algebra.Order.BigOperators.Group.List
import Decnet.Lib.Reading
import Decnet.Routing.Adjacency

/-!
# Routing messages on the wire

Level 1 messages of Phase IV and messages of Phase III have the same code
point.  Which class a message is of follows from its checksum, a one's
complement sum that Phase IV begins with 1 and Phase III with 0.
-/

namespace Decnet.Routing

open Reading List RouteSegment

abbrev Bytes := List UInt8

/-! ## Words and sums -/

def foldCarry (s : Nat) : Nat := s % 65536 + s / 65536

/-- The sum is an `uint32_t`. -/
def onesComplementSum (words : List Nat) (seed : Nat) : Nat :=
  foldCarry (foldCarry ((seed + words.sum) % 2 ^ 32))

def putWords (words : List Nat) : Bytes := words.flatMap (putUint · 2)

def getWords : Bytes → List Nat
  | low :: high :: rest => (low.toNat + 256 * high.toNat) :: getWords rest
  | _ => []

def payloadWords (b : Bytes) : Option (List Nat) :=
  if b.length < 4 ∨ b.length = 4 ∨ (b.drop 4).length % 2 = 1 then none
  else some (getWords (b.drop 4))

/-! ## Classes -/

inductive RoutingClass where
  | l1Routing | l2Routing | phaseIIIRouting
  deriving DecidableEq

/-- The residue: the sum with the checksum complemented. -/
def indexKey (b : Bytes) : Option Nat :=
  (payloadWords b).map fun words =>
    onesComplementSum (words.dropLast ++ [65535 - words.getLastD 0]) 0

/-- What `register_routing_packets` enters for routing messages. -/
def makeClass (b : Bytes) : Option RoutingClass := do
  let flags ← b.head?
  if flags &&& 0x8f = 0x07 then
    let key ← indexKey b
    if key = 0xfffe then some .l1Routing
    else if key = 0xffff then some .phaseIIIRouting
    else none
  else if flags &&& 0x8f = 0x09 then
    let key ← indexKey b
    if key = 0xfffe then some .l2Routing else none
  else none

def RouteSegment.words (s : RouteSegment) : List Nat :=
  s.entries.length :: s.startid :: s.entries

namespace RoutingMessage

def cls : RoutingMessage → RoutingClass
  | l1Routing .. => .l1Routing
  | l2Routing .. => .l2Routing
  | phaseIIIRouting .. => .phaseIIIRouting

def segments : RoutingMessage → List RouteSegment
  | l1Routing _ segments | l2Routing _ segments => segments
  | phaseIIIRouting .. => []

def body : RoutingMessage → List Nat
  | phaseIIIRouting _ entries => entries
  | m => m.segments.flatMap words

end RoutingMessage

namespace RoutingClass

def type : RoutingClass → Nat
  | l1Routing | phaseIIIRouting => 3
  | l2Routing => 4

def seed : RoutingClass → Nat
  | l1Routing | l2Routing => 1
  | phaseIIIRouting => 0

/-- Phase III has no segments. -/
def validSegment : RoutingClass → RouteSegment → Bool
  | l1Routing, s => s.entries ≠ [] ∧ s.entries.length + s.startid ≤ 1024
  | l2Routing, s =>
    s.entries ≠ [] ∧ s.startid ≠ 0 ∧ s.entries.length + s.startid ≤ 64
  | phaseIIIRouting, _ => false

end RoutingClass

/-! ## Encoding and decoding -/

/-- A header with the extended type `ext`, a body and a checksum. -/
def frame (cls : RoutingClass) (ext : Fin 8) (srcnode : Nodeid)
    (body : List Nat) (sum : Nat) : Bytes :=
  UInt8.ofNat (1 + 2 * cls.type + 16 * ext) ::
    (putUint srcnode.value 2 ++ 0 :: putWords (body ++ [sum]))

def encodePacket (ext : Fin 8) (m : RoutingMessage) : Bytes :=
  frame m.cls ext m.srcnode m.body (onesComplementSum m.body m.cls.seed)

/-- The loop of `Ph4RoutingMessage::decode_into`. -/
def decodeSegments (cls : RoutingClass) :
    Nat → List Nat → Option (List RouteSegment)
  | _, [] => some []
  | fuel + 1, count :: startid :: rest =>
    let seg : RouteSegment := ⟨startid, rest.take count⟩
    if rest.length < count ∨ !cls.validSegment seg then none
    else (decodeSegments cls fuel (rest.drop count)).map (seg :: ·)
  | _, _ => none

def decodeHeader (b : Bytes) : Option (Nodeid × List Nat) := do
  let words ← payloadWords b
  if words.dropLast = [] then none
  else some (⟨(b.getD 1 0).toNat + 256 * (b.getD 2 0).toNat, by
    have low := (b.getD 1 0).toNat_lt
    have high := (b.getD 2 0).toNat_lt
    omega⟩, words.dropLast)

def parse (b : Bytes) : Option RoutingMessage := do
  let cls ← makeClass b
  let (srcnode, words) ← decodeHeader b
  match cls with
  | .l1Routing =>
    (decodeSegments cls words.length words).map (.l1Routing srcnode)
  | .l2Routing =>
    (decodeSegments cls words.length words).map (.l2Routing srcnode)
  | .phaseIIIRouting => some (.phaseIIIRouting srcnode words)

/-- A message that can be encoded: it has an entry and its segments are valid,
and there are fewer than 65536 words of 16 bits. -/
structure RoutingMessage.Encodable (m : RoutingMessage) : Prop where
  some : m.body ≠ []
  valid : ∀ s ∈ m.segments, m.cls.validSegment s = true
  few : m.body.length < 65536
  words : ∀ w ∈ m.body, w < 65536

/-! ## Reading back -/

@[simp] theorem length_putWords (words : List Nat) :
    (putWords words).length = 2 * words.length := by
  induction words with
  | nil => rfl
  | cons w words induction =>
    rw [putWords, flatMap_cons, length_append]
    change 2 + (putWords words).length = _
    rw [length_cons]
    omega

theorem getWords_putWords {words : List Nat} (fit : ∀ w ∈ words, w < 65536) :
    getWords (putWords words) = words := by
  induction words with
  | nil => rfl
  | cons w words induction =>
    rw [forall_mem_cons] at fit
    change (_ + 256 * _) :: getWords (putWords words) = _
    rw [induction fit.2, UInt8.toNat_ofNat', UInt8.toNat_ofNat']
    congr 1
    omega

variable {cls : RoutingClass} {ext : Fin 8} {srcnode : Nodeid} {body : List Nat} {sum : Nat}

theorem payloadWords_frame (fit : ∀ w ∈ body, w < 65536) (sumFits : sum < 65536) :
    payloadWords (frame cls ext srcnode body sum) = some (body ++ [sum]) := by
  have all : ∀ w ∈ body ++ [sum], w < 65536 :=
    forall_mem_append.mpr ⟨fit, forall_mem_singleton.mpr sumFits⟩
  have payload : (frame cls ext srcnode body sum).drop 4 = putWords (body ++ [sum]) := rfl
  have length : (frame cls ext srcnode body sum).length = 2 * body.length + 6 := by
    simp [frame]
    omega
  rw [payloadWords, payload, getWords_putWords all, length_putWords, if_neg (by omega)]

/-- The sum is a number modulo 65535 of which only the sum of nothing is 0. -/
theorem onesComplementSum_mod {words : List Nat} {seed : Nat} (small : seed + words.sum < 2 ^ 32) :
    onesComplementSum words seed < 65536 ∧
      onesComplementSum words seed % 65535 = (seed + words.sum) % 65535 ∧
      (onesComplementSum words seed = 0 ↔ seed + words.sum = 0) := by
  unfold onesComplementSum foldCarry
  rw [Nat.mod_eq_of_lt small]
  omega

theorem sum_le (fit : ∀ w ∈ body, w < 65536) (few : body.length < 65536) :
    body.sum ≤ 65535 * 65535 := by
  have bound := sum_le_card_nsmul body 65535 fun w member => Nat.le_of_lt_succ (fit w member)
  exact bound.trans (Nat.mul_le_mul_right _ (Nat.le_of_lt_succ few))

def RoutingClass.key (cls : RoutingClass) : Nat := 65535 - cls.seed

section

variable (fit : ∀ w ∈ body, w < 65536) (sumFits : sum < 65536) (few : body.length < 65536)

include fit sumFits few

theorem indexKey_frame : ∃ key, indexKey (frame cls ext srcnode body sum) = some key ∧ key < 65536 ∧
    key % 65535 = (body.sum + (65535 - sum)) % 65535 ∧
    (key = 0 ↔ body.sum + (65535 - sum) = 0) := by
  have total : (body ++ [65535 - sum]).sum = body.sum + (65535 - sum) := by
    simp
  have bound := sum_le fit few
  have mods := @onesComplementSum_mod (body ++ [65535 - sum]) 0 (by rw [total]; omega)
  rw [total, Nat.zero_add] at mods
  refine ⟨_, ?_, mods⟩
  simp [indexKey, payloadWords_frame fit sumFits]

theorem makeClass_frame_iff :
    makeClass (frame cls ext srcnode body sum) = some cls ↔
      indexKey (frame cls ext srcnode body sum) = some cls.key := by
  obtain ⟨key, isKey, _⟩ := @indexKey_frame cls ext srcnode body sum fit sumFits few
  have flags : (frame cls ext srcnode body sum).head? =
      some (UInt8.ofNat (1 + 2 * cls.type + 16 * ext)) := rfl
  have masked : ∀ ext : Fin 8, UInt8.ofNat (1 + 2 * cls.type + 16 * ext) &&& 0x8f =
        if cls = .l2Routing then 0x09 else 0x07 := by
    cases cls <;> decide
  simp only [makeClass, flags, Option.bind_eq_bind, Option.bind_some,
    masked, isKey]
  cases cls with
  | l1Routing => simp [RoutingClass.key, RoutingClass.seed]
  | l2Routing => simp [RoutingClass.key, RoutingClass.seed]
  | phaseIIIRouting =>
    simp only [RoutingClass.key, RoutingClass.seed, reduceCtorEq, if_false, if_true]
    split_ifs with four three
    · simp [four]
    · simp [three]
    · simp [three]

/-- A message of its class has the right checksum modulo 65535. -/
theorem sum_of_makeClass (made : makeClass (frame cls ext srcnode body sum) = some cls) :
    sum % 65535 = (body.sum + cls.seed) % 65535 := by
  obtain ⟨key, isKey, small, residue, _⟩ := @indexKey_frame cls ext srcnode body sum fit sumFits few
  rw [makeClass_frame_iff fit sumFits few, isKey, Option.some_inj] at made
  subst made
  cases cls <;> simp only [RoutingClass.key, RoutingClass.seed] at * <;> omega

end

theorem decodeSegments_words {segments : List RouteSegment}
    (valid : ∀ s ∈ segments, cls.validSegment s = true) {fuel : Nat}
    (enough : (segments.flatMap words).length ≤ fuel) :
    decodeSegments cls fuel (segments.flatMap words) = some segments := by
  induction segments generalizing fuel with
  | nil => cases fuel <;> rfl
  | cons s segments induction =>
    rw [forall_mem_cons] at valid
    cases fuel with
    | zero => cases enough
    | succ fuel =>
      rw [flatMap_cons, words, length_append, length_cons] at enough
      rw [flatMap_cons, words]
      simp only [cons_append, decodeSegments, take_left', drop_left', valid.1]
      rw [induction valid.2 (by omega)]
      simp

namespace RoutingMessage

variable {m : RoutingMessage}

def checksum (m : RoutingMessage) : Nat :=
  onesComplementSum m.body m.cls.seed

/-- Messages are read back as what they were, by a residue that tells Phase IV
from Phase III, and not as messages of their class when a word is changed. -/
structure Coded (m : RoutingMessage) (ext : Fin 8) : Prop where
  parses : parse (encodePacket ext m) = some m
  residue : indexKey (encodePacket ext m) =
    some (if m.cls = .phaseIIIRouting then 0xffff else 0xfffe)
  body : ∀ before w after w', m.body = before ++ w :: after → w' < 65536 →
    w' % 65535 ≠ w % 65535 → makeClass (frame m.cls ext m.srcnode
      (before ++ w' :: after) m.checksum) ≠ some m.cls
  checksum : ∀ sum, sum < 65536 → sum % 65535 ≠ m.checksum % 65535 →
    makeClass (frame m.cls ext m.srcnode m.body sum) ≠ some m.cls

section

variable (encodable : m.Encodable)

include encodable

theorem checksum_mod : m.checksum < 65536 ∧ m.checksum % 65535 = (m.cls.seed + m.body.sum) % 65535 ∧
    (m.checksum = 0 ↔ m.cls.seed + m.body.sum = 0) := by
  have bound := sum_le encodable.words encodable.few
  have seed : m.cls.seed ≤ 1 := by cases m.cls <;> decide
  exact onesComplementSum_mod (by omega)

theorem indexKey_encodePacket (ext : Fin 8) : indexKey (encodePacket ext m) = some m.cls.key := by
  obtain ⟨fits, sum, none⟩ := checksum_mod encodable
  obtain ⟨key, isKey, small, residue, zero⟩ :=
    @indexKey_frame m.cls ext m.srcnode _ _ encodable.words fits encodable.few
  have seed : m.cls.seed ≤ 1 := by cases m.cls <;> decide
  rw [encodePacket, ← checksum, isKey, RoutingClass.key]
  congr 1
  omega

theorem parse_encodePacket (ext : Fin 8) : parse (encodePacket ext m) = some m := by
  have fits := (checksum_mod encodable).1
  have key := indexKey_encodePacket encodable ext
  obtain ⟨some, valid, few, fit⟩ := encodable
  have made : makeClass (encodePacket ext m) = .some m.cls :=
    (makeClass_frame_iff fit fits few).mpr key
  have source : ((encodePacket ext m).getD 1 0).toNat +
      256 * ((encodePacket ext m).getD 2 0).toNat = m.srcnode.value := by
    have small := m.srcnode.fits
    change (UInt8.ofNat _).toNat + 256 * (UInt8.ofNat _).toNat = _
    rw [UInt8.toNat_ofNat', UInt8.toNat_ofNat']
    omega
  have words : payloadWords (encodePacket ext m) =
      .some (m.body ++ [m.checksum]) := payloadWords_frame fit fits
  have header : decodeHeader (encodePacket ext m) = .some (m.srcnode, m.body) := by
    simp only [decodeHeader, words, source]
    simp [some]
  simp only [parse, made, header]
  cases m with
  | l1Routing srcnode segments | l2Routing srcnode segments =>
    exact congrArg (Option.map _) (decodeSegments_words valid le_rfl)
  | phaseIIIRouting srcnode entries => rfl

end

/-- Every message that can be encoded is read back, and the checksum tells its
class and finds every change of one word. -/
theorem coded (m : RoutingMessage) (encodable : m.Encodable) (ext : Fin 8) : m.Coded ext := by
  have sum := checksum_mod encodable
  constructor
  case parses => exact parse_encodePacket encodable ext
  case residue =>
    rw [indexKey_encodePacket encodable ext]
    cases m <;> rfl
  case body =>
    intro before w after w' split fits differs made
    have few := encodable.few
    have fit := encodable.words
    rw [split] at few
    rw [split, forall_mem_append, forall_mem_cons] at fit
    have changed : ∀ v ∈ before ++ w' :: after, v < 65536 := by
      rw [forall_mem_append, forall_mem_cons]
      exact ⟨fit.1, fits, fit.2.2⟩
    have same := sum_of_makeClass changed sum.1 (by simpa using few) made
    rw [split] at sum
    simp only [sum_append, sum_cons] at same sum
    omega
  case checksum =>
    intro other fits differs made
    have same := sum_of_makeClass encodable.words fits encodable.few made
    omega

theorem coded_twoSegments : (l1Routing (.make 1 2) [⟨0, [4100]⟩, ⟨7, [1, 65535]⟩]).Coded 0 := by
  apply coded
  constructor <;> decide

end RoutingMessage

end Decnet.Routing
