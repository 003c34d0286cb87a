import Mathlib.Data.List.Flatten
import Decnet.Routing.RoutingMessages
import Decnet.Routing.Update

/-!
# What an update carries

`build` cuts the destinations to advertise into segments of consecutive
numbers and the segments into messages that fit the neighbour's block size.
Nothing is lost, added or moved in that.
-/

namespace Decnet.Routing

open List RoutingMessage

/-- Entries with their destinations, the first being `id`. -/
def entryIds : Nat → List Nat → List (Nat × Nat)
  | _, [] => []
  | id, e :: entries => (id, e) :: entryIds (id + 1) entries

theorem entryIds_append (id : Nat) (first second : List Nat) :
    entryIds id (first ++ second) = entryIds id first ++ entryIds (id + first.length) second := by
  induction first generalizing id with
  | nil => rfl
  | cons e first induction =>
    simp only [cons_append, entryIds, induction, length_cons]
    congr 3
    omega

def RouteSegment.carried (s : RouteSegment) : List (Nat × Nat) :=
  entryIds s.startid s.entries

/-- What a level 1 message says of each destination, in order. -/
def RoutingMessage.carried : RoutingMessage → List (Nat × Nat)
  | l1Routing _ segments => segments.flatMap RouteSegment.carried
  | l2Routing _ _ => []
  | phaseIIIRouting _ entries => entryIds 1 entries

/-- What messages say of a destination, the oldest first. -/
def told (d : Nat) (messages : List RoutingMessage) : List (Nat × Nat) :=
  ((messages.flatMap carried).filter (·.1 = d)).map fun e => (entryHops e.2, entryCost e.2)

theorem told_append (d : Nat) (first second : List RoutingMessage) :
    told d (first ++ second) = told d first ++ told d second := by
  unfold told
  rw [flatMap_append, filter_append, map_append]

namespace Update

namespace Builder

/-- What has been put into messages so far. -/
def carried (b : Builder) : List (Nat × Nat) :=
  (b.messages.flatten ++ b.segments).flatMap RouteSegment.carried ++ b.seg.carried

/-- A segment that is open is not empty and ends before the next number. -/
structure Regular (b : Builder) : Prop where
  isOpen : b.haveSeg = true →
    b.seg.entries ≠ [] ∧ b.previd + 1 = b.seg.startid + b.seg.entries.length
  closed : b.haveSeg = false → b.seg.entries = []

variable {b : Builder}

theorem carried_flushSegment (regular : b.Regular) : b.flushSegment.carried = b.carried := by
  cases isOpen : b.haveSeg with
  | true =>
    have nonempty : b.seg.entries.isEmpty = false :=
      isEmpty_eq_false_iff.mpr (regular.isOpen isOpen).1
    simp [carried, Builder.flushSegment, isOpen, nonempty, RouteSegment.carried, entryIds]
  | false =>
    simp [carried, Builder.flushSegment, RouteSegment.carried, entryIds, regular.closed isOpen]

theorem carried_flushMessage (regular : b.Regular) : b.flushMessage.carried = b.carried := by
  rw [← carried_flushSegment regular]
  unfold Builder.flushMessage carried
  dsimp only
  split
  case isTrue nothing =>
    rw [isEmpty_iff.mp nothing]
  case isFalse => simp

def closeGap (i : Nat) (b : Builder) : Builder :=
  if b.haveSeg && i != b.previd + 1 then b.flushSegment else b

def openAt (i : Nat) (b : Builder) : Builder :=
  if b.haveSeg then b
  else { b with
    seg := { b.seg with startid := i }, haveSeg := true, words := b.words + 2 }

def append (i e : Nat) (b : Builder) : Builder :=
  { b with
    seg := { b.seg with entries := b.seg.entries ++ [e] }
    words := b.words + 1
    previd := i }

theorem add_eq (room : Nat) (entryFor : Nat → Nat) (b : Builder) (i : Nat) :
    b.add room entryFor i =
      if room ≤ (((b.closeGap i).openAt i).append i (entryFor i)).words * 2
      then (((b.closeGap i).openAt i).append i (entryFor i)).flushMessage
      else ((b.closeGap i).openAt i).append i (entryFor i) :=
  rfl

theorem Regular.closeGap (regular : b.Regular) (i : Nat) :
    (b.closeGap i).Regular ∧ (b.closeGap i).carried = b.carried ∧
      ((b.closeGap i).haveSeg = true → (b.closeGap i).previd + 1 = i) := by
  unfold Builder.closeGap
  split
  case isTrue =>
    exact ⟨⟨nofun, fun _ => rfl⟩, carried_flushSegment regular, nofun⟩
  case isFalse follows =>
    refine ⟨regular, rfl, fun isOpen => ?_⟩
    simp only [isOpen, Bool.true_and, bne_iff_ne, not_not] at follows
    exact follows.symm

theorem Regular.openAt (regular : b.Regular) {i : Nat}
    (follows : b.haveSeg = true → b.previd + 1 = i) :
    (b.openAt i).haveSeg = true ∧ (b.openAt i).carried = b.carried ∧
      (b.openAt i).seg.startid + (b.openAt i).seg.entries.length = i := by
  unfold Builder.openAt
  split
  case isTrue isOpen =>
    exact ⟨isOpen, rfl, ((regular.isOpen isOpen).2.symm).trans (follows isOpen)⟩
  case isFalse isClosed =>
    have nothing := regular.closed (Bool.eq_false_iff.mpr isClosed)
    simp [carried, RouteSegment.carried, nothing, entryIds]

theorem Regular.append {i : Nat} (isOpen : b.haveSeg = true)
    (next : b.seg.startid + b.seg.entries.length = i) (e : Nat) :
    (b.append i e).Regular ∧ (b.append i e).carried = b.carried ++ [(i, e)] := by
  constructor
  · constructor
    · intro _
      simp only [Builder.append, length_append, length_singleton]
      exact ⟨by simp, by omega⟩
    · intro isClosed
      cases isOpen.symm.trans isClosed
  · simp only [carried, Builder.append, RouteSegment.carried, entryIds_append, append_assoc, next]
    rfl

theorem Regular.add (regular : b.Regular) (room : Nat) (entryFor : Nat → Nat) (i : Nat) :
    (b.add room entryFor i).Regular ∧
      (b.add room entryFor i).carried = b.carried ++ [(i, entryFor i)] := by
  obtain ⟨closed, sameClosed, follows⟩ := regular.closeGap i
  obtain ⟨isOpen, sameOpen, next⟩ := closed.openAt follows
  obtain ⟨regular', carries⟩ := Regular.append isOpen next (entryFor i)
  rw [sameOpen, sameClosed] at carries
  rw [add_eq]
  split
  · refine ⟨⟨nofun, fun _ => rfl⟩, ?_⟩
    rw [carried_flushMessage regular', carries]
  · exact ⟨regular', carries⟩

theorem foldl_add (room : Nat) (entryFor : Nat → Nat) (ids : List Nat) :
    (ids.foldl (add room entryFor) empty).Regular ∧ (ids.foldl (add room entryFor) empty).carried =
        ids.map fun i => (i, entryFor i) := by
  induction ids using reverseRecOn with
  | nil => exact ⟨⟨nofun, fun _ => rfl⟩, rfl⟩
  | append_singleton ids i induction =>
    obtain ⟨regular, carries⟩ := induction
    rw [foldl_append, map_append, ← carries]
    exact regular.add room entryFor i

variable {limit : Nat}

/-- The segments of the message that is being put together. -/
def parts (b : Builder) : List RouteSegment := b.flushSegment.segments

def wordCount (segments : List RouteSegment) : Nat :=
  (segments.flatMap RouteSegment.words).length

/-- An entry is added to the last segment, or begins one; its words are
counted. -/
theorem parts_append (regular : b.Regular) (i e : Nat) :
    let c := ((b.closeGap i).openAt i).append i e
    ∃ before s, c.parts = before ++ [s] ∧ before ⊆ b.parts ∧ s.entries ≠ [] ∧
      c.messages = b.messages ∧ c.words ≤ b.words + 3 ∧
      c.words + wordCount b.parts = b.words + wordCount c.parts := by
  cases isOpen : b.haveSeg with
  | true =>
    have nonempty := (regular.isOpen isOpen).1
    by_cases follows : i = b.previd + 1
    · refine ⟨b.segments, ⟨b.seg.startid, b.seg.entries ++ [e]⟩, ?_⟩
      simp [parts, closeGap, openAt, append, flushSegment, isOpen, follows,
        nonempty, wordCount, RouteSegment.words]
      omega
    · refine ⟨b.parts, ⟨i, [e]⟩, ?_⟩
      simp [parts, closeGap, openAt, append, flushSegment, isOpen, follows, wordCount,
        RouteSegment.words]
      omega
  | false =>
    simp [parts, closeGap, openAt, append, flushSegment, isOpen,
      regular.closed isOpen, wordCount, RouteSegment.words]
    omega

/-- The words are counted, every segment has an entry, and no message is more
than a segment with one entry over the limit. -/
structure Near (limit : Nat) (b : Builder) : Prop where
  words : b.words = wordCount b.parts
  near : b.words * 2 < limit + 6
  some : ∀ s ∈ b.messages.flatten ++ b.parts, s.entries ≠ []
  short : ∀ m ∈ b.messages, m ≠ [] ∧ wordCount m * 2 < limit + 6

theorem Near.flushMessage (near : b.Near limit) : b.flushMessage.Near limit := by
  obtain ⟨words, bound, some, short⟩ := near
  have messages : b.flushMessage.messages =
      if b.parts.isEmpty then b.messages else b.messages ++ [b.parts] := rfl
  refine ⟨rfl, Nat.succ_pos _, ?_, ?_⟩
  · change ∀ s ∈ b.flushMessage.messages.flatten ++ [], s.entries ≠ []
    rw [messages, append_nil]
    split
    · exact fun s member => some s (mem_append_left _ member)
    · simpa using some
  · rw [messages]
    split
    · exact short
    case isFalse full =>
      rw [forall_mem_append, forall_mem_singleton, ← words]
      exact ⟨short, mt List.isEmpty_iff.mpr full, bound⟩

theorem Near.add (near : b.Near limit) (regular : b.Regular)
    (below : b.words * 2 < limit) (entryFor : Nat → Nat) (i : Nat) :
    (b.add limit entryFor i).Near limit ∧ (b.add limit entryFor i).words * 2 < limit := by
  obtain ⟨before, s, now, old, more, messages, few, count⟩ := parts_append regular i (entryFor i)
  rw [add_eq]
  generalize ((b.closeGap i).openAt i).append i (entryFor i) = c at *
  have grown : c.Near limit := by
    constructor
    · have words := near.words
      omega
    · omega
    · rw [messages, now, ← append_assoc, forall_mem_append, forall_mem_singleton, forall_mem_append]
      have some := forall_mem_append.mp near.some
      exact ⟨⟨some.1, fun s member => some.2 s (old member)⟩, more⟩
    · rw [messages]
      exact near.short
  split
  · exact ⟨grown.flushMessage, Nat.zero_lt_of_lt below⟩
  case isFalse room => exact ⟨grown, Nat.not_le.mp room⟩

theorem near_foldl_add (positive : 0 < limit) (entryFor : Nat → Nat) (ids : List Nat) :
    (ids.foldl (add limit entryFor) empty).Near limit ∧
      (ids.foldl (add limit entryFor) empty).words * 2 < limit := by
  induction ids using reverseRecOn with
  | nil => exact ⟨⟨rfl, Nat.succ_pos _, nofun, nofun⟩, positive⟩
  | append_singleton ids i induction =>
    rw [foldl_append]
    exact induction.1.add (foldl_add limit entryFor ids).1 induction.2 entryFor i

end Builder

def ids (complete : Bool) (u : Update) : List Nat :=
  (List.range' u.lowid (u.size - u.lowid)).filter fun i => complete || u.srm i

/-- The segments of each message. -/
def built (complete : Bool) (blksize : Nat) (entryFor : Nat → Nat)
    (u : Update) : List (List RouteSegment) :=
  ((u.ids complete).foldl (Builder.add (room blksize) entryFor) Builder.empty).flushMessage.messages

def message (srcnode : Nodeid) (u : Update) (segments : List RouteSegment) : RoutingMessage :=
  match u.level with
  | .one => .l1Routing srcnode segments
  | .two => .l2Routing srcnode segments

variable {u : Update} {complete : Bool} {blksize : Nat} {srcnode : Nodeid} {entryFor : Nat → Nat}

theorem build_eq : u.build complete blksize srcnode entryFor =
    (u.built complete blksize entryFor).map (u.message srcnode) :=
  rfl

theorem segments_message (segments : List RouteSegment) :
    (u.message srcnode segments).segments = segments ∧ (u.message srcnode segments).body =
      segments.flatMap RouteSegment.words := by
  unfold message
  cases u.level <;> exact ⟨rfl, rfl⟩

theorem built_carried :
    (u.built complete blksize entryFor).flatten.flatMap RouteSegment.carried =
      (u.ids complete).map fun i => (i, entryFor i) := by
  obtain ⟨regular, carries⟩ := Builder.foldl_add (room blksize) entryFor (u.ids complete)
  rw [← carries, ← Builder.carried_flushMessage regular]
  -- Flushing leaves nothing outside of the messages.
  change _ = (_ ++ []).flatMap RouteSegment.carried ++ []
  rw [append_nil, append_nil]
  rfl

/-- The messages of a level 1 update carry an entry for each of its
destinations. -/
theorem build_carried {u : Update} (level : u.level = .one) (complete : Bool)
    (blksize : Nat) (srcnode : Nodeid) (entryFor : Nat → Nat) :
    (u.build complete blksize srcnode entryFor).flatMap carried =
      (u.ids complete).map fun i => (i, entryFor i) := by
  rw [build_eq, ← @built_carried u complete blksize entryFor, flatMap_map,
    flatten_eq_flatMap, flatMap_assoc]
  simp only [message, level]
  rfl

theorem entryIds_eq (id : Nat) (entries : List Nat) :
    entryIds id entries = entries.mapIdx fun k e => (id + k, e) := by
  induction entries generalizing id with
  | nil => rfl
  | cons e entries induction =>
    rw [entryIds, induction, mapIdx_cons]
    simp only [Nat.add_zero, Nat.add_assoc, Nat.add_comm 1]

theorem wordCount_le {segments : List RouteSegment}
    (some : ∀ s ∈ segments, s.entries ≠ []) : Builder.wordCount segments ≤
      3 * (segments.flatMap RouteSegment.carried).length := by
  induction segments with
  | nil => exact Nat.zero_le _
  | cons s segments induction =>
    rw [forall_mem_cons, ← length_pos_iff] at some
    have rest := induction some.2
    simp only [Builder.wordCount, RouteSegment.words, RouteSegment.carried,
      entryIds_eq, flatMap_cons, length_append, length_cons, length_mapIdx] at rest ⊢
    omega

section

variable {segments : List RouteSegment} {s : RouteSegment}
  (member : segments ∈ u.built complete blksize entryFor)

include member

theorem mem_ids (inside : s ∈ segments) {k : Nat} (bound : k < s.entries.length) :
    s.startid + k ∈ u.ids complete ∧ s.entries.get ⟨k, bound⟩ = entryFor (s.startid + k) := by
  have carried : (s.startid + k, s.entries.get ⟨k, bound⟩) ∈
      (u.ids complete).map fun i => (i, entryFor i) := by
    rw [← @built_carried u complete blksize entryFor]
    refine mem_flatMap.mpr ⟨s, mem_flatten_of_mem member inside, ?_⟩
    rw [RouteSegment.carried, entryIds_eq]
    exact mem_mapIdx.mpr ⟨k, bound, rfl⟩
  obtain ⟨i, isId, same⟩ := mem_map.mp carried
  rw [Prod.mk.injEq] at same
  exact ⟨same.1 ▸ isId, same.2 ▸ same.1 ▸ rfl⟩

theorem segment_bounds (inside : s ∈ segments) (some : 0 < s.entries.length) :
    u.lowid ≤ s.startid ∧ s.startid + s.entries.length ≤ u.size := by
  have first := (mem_ids member inside some).1
  have last := (mem_ids member inside (Nat.sub_lt some Nat.one_pos)).1
  have first := mem_range'_1.mp (mem_filter.mp first).1
  have last := mem_range'_1.mp (mem_filter.mp last).1
  omega

theorem length_carried_le : (segments.flatMap RouteSegment.carried).length ≤ u.size := by
  have all := ((sublist_flatten_of_mem member).flatMap RouteSegment.carried).length_le
  have some := length_filter_le (fun i => complete || u.srm i) (range' u.lowid (u.size - u.lowid))
  rw [built_carried, length_map, Update.ids] at all
  rw [length_range'] at some
  omega

theorem encodable_message {maxnodes : Nat}
    (size : u.size = (new u.level maxnodes).size) (most : maxnodes ≤ 1023)
    (fits : ∀ i, entryFor i < 65536) (positive : 0 < room blksize) :
    (u.message srcnode segments).Encodable ∧
      (u.message srcnode segments).body.length * 2 < room blksize + 6 := by
  have near := (Builder.near_foldl_add positive entryFor (u.ids complete)).1.flushMessage
  obtain ⟨full, short⟩ := near.short segments member
  have some : ∀ s ∈ segments, s.entries ≠ [] := fun s inside =>
    near.some s (mem_append_left _ (mem_flatten_of_mem member inside))
  have bounds (s : RouteSegment) (inside : s ∈ segments) :=
    segment_bounds member inside (length_pos_iff.mpr (some s inside))
  have sizes : (u.lowid = 0 ∧ u.size ≤ 1024 ∧ u.level = .one) ∨
      (u.lowid = 1 ∧ u.size = 64 ∧ u.level = .two) := by
    unfold lowid
    cases level : u.level with
    | one =>
      rw [level] at size
      exact .inl ⟨rfl, size.trans_le (Nat.succ_le_succ most), rfl⟩
    | two =>
      rw [level] at size
      exact .inr ⟨rfl, size, rfl⟩
  obtain ⟨same, body⟩ := @segments_message u srcnode segments
  refine ⟨⟨?_, ?_, ?_, ?_⟩, body ▸ short⟩
  · rw [body]
    obtain ⟨s, rest, rfl⟩ := exists_cons_of_ne_nil full
    exact cons_ne_nil _ _
  · rw [same]
    intro s inside
    have bound := bounds s inside
    rcases sizes with ⟨low, high, level⟩ | ⟨low, high, level⟩
    · simp only [message, level, cls, RoutingClass.validSegment, decide_eq_true_eq]
      exact ⟨some s inside, by omega⟩
    · simp only [message, level, cls, RoutingClass.validSegment, decide_eq_true_eq]
      exact ⟨some s inside, by omega, by omega⟩
  · have count := wordCount_le some
    have length := length_carried_le member
    rw [body]
    change Builder.wordCount segments < _
    omega
  · rw [body]
    intro w isWord
    obtain ⟨s, inside, isWord⟩ := mem_flatMap.mp isWord
    have bound := bounds s inside
    rcases mem_cons.mp isWord with rfl | isWord
    · omega
    rcases mem_cons.mp isWord with rfl | isEntry
    · omega
    · obtain ⟨k, bound, rfl⟩ := mem_iff_getElem.mp isEntry
      exact (mem_ids member inside bound).2.trans_lt (fits _)

end

/-- What the receiver gets. -/
structure Covers (complete : Bool) (blksize : Nat) (entryFor : Nat → Nat)
    (u : Update) (messages : List Bytes) : Prop where
  decodes : ∃ received : List RoutingMessage, messages.map parse = received.map some ∧
    (received.flatMap segments).flatMap RouteSegment.carried =
      (u.ids complete).map (fun i => (i, entryFor i)) ∧
    ∀ m ∈ received, m.cls = (u.message m.srcnode []).cls ∧ ∀ s ∈ m.segments, m.cls.validSegment s
  ascending : (u.ids complete).Pairwise (· < ·)
  short : ∀ b ∈ messages, b.length ≤ blksize

/-- The messages of an update are decoded as what was asked for, and fit the
block size. -/
theorem build_covers (u : Update) {maxnodes : Nat}
    (size : u.size = (new u.level maxnodes).size) (most : maxnodes ≤ 1023)
    (complete : Bool) {blksize : Nat} (block : 80 ≤ blksize)
    (srcnode : Nodeid) (entryFor : Nat → Nat) (fits : ∀ i, entryFor i < 65536) :
    u.Covers complete blksize entryFor
      ((u.build complete blksize srcnode entryFor).map (encodePacket 0)) := by
  have room : room blksize = blksize - 16 := if_pos (by omega)
  have each (segments : List RouteSegment) (member : segments ∈ u.built complete blksize entryFor) :
      (u.message srcnode segments).Encodable ∧ _ :=
    encodable_message member size most fits (by omega)
  rw [build_eq]
  constructor
  case decodes =>
    refine ⟨(u.built complete blksize entryFor).map (u.message srcnode), ?_, ?_, ?_⟩
    · simp only [map_map]
      exact map_congr_left fun segments member => parse_encodePacket (each segments member).1 0
    · rw [← @built_carried u complete blksize entryFor, flatMap_map]
      simp only [segments_message, flatten_eq_flatMap]
      rfl
    · rintro m isMessage
      obtain ⟨segments, member, rfl⟩ := mem_map.mp isMessage
      refine ⟨?_, (each segments member).1.valid⟩
      unfold message
      cases u.level <;> rfl
  case ascending =>
    exact (pairwise_lt_range' 1).filter _
  case short =>
    simp only [map_map]
    intro b isMessage
    obtain ⟨segments, member, rfl⟩ := mem_map.mp isMessage
    have bound := (each segments member).2
    simp only [Function.comp_apply, encodePacket, frame]
    simp
    omega

/-- Areas 2, 3 and 9 are to be advertised. -/
def flagged : Update := { new .two 0 with srm := fun i => i ∈ [2, 3, 9] }

theorem build_covers_flagged :
    flagged.Covers false 80 (fun _ => 1028) ((flagged.build false 80 (.make 1 1) fun _ => 1028).map
        (encodePacket 0)) :=
  build_covers flagged rfl (Nat.zero_le _) false le_rfl _ _ fun _ => by decide

end Update

end Decnet.Routing
