import Decnet.Lib.InOrder
import Decnet.Lib.Numbered
import Decnet.Nsp.Segmentation
import Decnet.Nsp.Steady

/-!
# The sending half of a link in run state

The transmit queue holds consecutive segments of the stream of submitted
messages, from the oldest one that is not acknowledged to the newest.  They are
sent in order, and nothing is sent that is a whole window ahead of the oldest
one, as long as the absolute segment counts do not wrap.
-/

namespace Decnet.Nsp

open List

open Connection (Piece pieces)

namespace Frame

def dataNumber (f : Frame) : Option Nat :=
  match f.packet with
  | .dataSeg _ => some f.number
  | _ => none

/-- A frame that carries segment `number` of a stream, built when at most
`known` segments had been received. -/
structure IsSegment (stream : List Piece) (known number : Nat) (f : Frame) : Prop where
  numbered : f.number = number
  positive : 1 ≤ number
  acks : f.acks ≤ known
  packet : ∃ segment, f.packet = .dataSeg segment ∧ segment.segnum = Mod.wrap number ∧
    stream[number - 1]? = some ⟨segment.bom, segment.eom, segment.payload⟩ ∧
    segment.acknum = some ⟨Mod.wrap f.acks, .ackq⟩ ∧ segment.acknum2 = none

/-- What one end may have sent in run state: segments of its stream, and
acknowledgements of at most the `known` segments it has. -/
def Sound (stream : List Piece) (known : Nat) (f : Frame) : Prop :=
  match f.packet with
  | .dataSeg _ => f.IsSegment stream known f.number
  | .ackData header =>
    header.acknum = some ⟨Mod.wrap f.acks, .ackq⟩ ∧ header.acknum2 = none ∧ f.acks ≤ known
  | .ackOther header =>
    (∃ num, header.acknum = some ⟨num, .ackq⟩) ∧ header.acknum2 = none
  | .linkSvc _ => False
  | _ => True

variable {stream longer : List Piece} {known known' number : Nat} {f : Frame}

section

variable (segment : f.IsSegment stream known number)

include segment

theorem IsSegment.mono (grown : stream <+: longer) (more : known ≤ known') :
    f.IsSegment longer known' number := by
  obtain ⟨seg, packet, segnum, piece, acks⟩ := segment.packet
  refine ⟨segment.numbered, segment.positive, segment.acks.trans more, seg,
    packet, segnum, ?_, acks⟩
  obtain ⟨rest, rfl⟩ := grown
  obtain ⟨inside, _⟩ := List.getElem?_eq_some_iff.1 piece
  rw [getElem?_append_left inside]
  exact piece

theorem IsSegment.sound : f.Sound stream known := by
  obtain ⟨seg, packet, _⟩ := segment.packet
  unfold Sound
  rw [packet]
  exact segment.numbered.symm ▸ segment

theorem IsSegment.dataNumber : f.dataNumber = some number := by
  obtain ⟨seg, packet, _⟩ := segment.packet
  unfold Frame.dataNumber
  rw [packet]
  exact congrArg some segment.numbered

theorem IsSegment.le_length : number ≤ stream.length := by
  obtain ⟨_, _, _, piece, _⟩ := segment.packet
  obtain ⟨inside, _⟩ := List.getElem?_eq_some_iff.1 piece
  omega

end

theorem Sound.mono (sound : f.Sound stream known)
    (grown : stream <+: longer) (more : known ≤ known') : f.Sound longer known' := by
  unfold Sound at sound ⊢
  split at sound
  · exact sound.mono grown more
  · exact ⟨sound.1, sound.2.1, sound.2.2.trans more⟩
  · exact sound
  · exact sound.elim
  · trivial

end Frame

def numbers (frames : List Frame) : List Nat :=
  frames.filterMap Frame.dataNumber

/-- A queue entry for segment `number`; once it is sent, the segments sent
reach at least as far. -/
structure TxEntry.Sound (stream : List Piece) (top known number : Nat) (e : TxEntry) : Prop where
  seq : e.seq = Mod.wrap number
  segnum : e.segnum = number % 2 ^ 32
  isData : e.isData = true
  frame : e.frame.IsSegment stream known number
  sent : e.sent = true → number ≤ top

theorem TxEntry.Sound.mono {stream longer : List Piece}
    {top top' known known' number : Nat} {e : TxEntry}
    (sound : e.Sound stream top known number) (grown : stream <+: longer)
    (higher : top ≤ top') (more : known ≤ known') : e.Sound longer top' known' number :=
  { sound with
    frame := sound.frame.mono grown more
    sent := fun isSent => (sound.sent isSent).trans higher }

theorem TxEntry.Sound.unsend {stream : List Piece} {top known number : Nat}
    {e : TxEntry} (sound : e.Sound stream top known number) :
    (Connection.unsend e).Sound stream top known number := by
  unfold Connection.unsend
  split
  · exact { sound with sent := fun again => absurd again Bool.false_ne_true }
  · exact sound

namespace Connection

def stream (c : Connection) : List Piece :=
  c.submitted.flatMap (pieces c.segmentLimit)

/-- The number of the oldest segment that is not acknowledged. -/
def front (c : Connection) : Nat := c.queued + 1 - c.txq.length

/-- How far the segments that have been sent reach. -/
def sentTo (c : Connection) : Nat := highest 0 (numbers c.outbox)

def span (c : Connection) : Nat := max 1 c.qmax

theorem window_le_span (c : Connection) : c.window ≤ c.span := by
  unfold window span
  omega

theorem one_le_window (c : Connection) : 1 ≤ c.window := le_max_left _ _

def Counts (c : Connection) : Prop := c.queued + c.span ≤ 2 ^ 32

/-- The transmit queue and what was sent from it, for a stream of which the
first `queued` segments have been queued. -/
structure Queue (stream : List Piece) (c : Connection) : Prop where
  nextExpect : c.nextExpect = Mod.wrap (c.rcvd + 1)
  nextSend : c.nextSend = Mod.wrap (c.queued + 1)
  nextSegnum : c.nextSegnum = (c.queued + 1) % 2 ^ 32
  fits : c.txq.length ≤ c.queued
  txq : Numbered (TxEntry.Sound stream c.sentTo c.rcvd) c.front c.txq
  outbox : ∀ f ∈ c.outbox, f.Sound stream c.rcvd
  inOrder : InOrder c.span 0 (numbers c.outbox)
  reached : c.front ≤ c.sentTo + 1
  ahead : c.sentTo < c.front + c.span

/-- The whole stream has been queued. -/
structure Sending (c : Connection) : Prop extends Queue c.stream c where
  queued : c.queued = c.stream.length

section Queue

variable {stream : List Piece} {c : Connection}

theorem front_dropWhile (fits : c.txq.length ≤ c.queued) (take : TxEntry → Bool) :
    { c with txq := c.txq.dropWhile take }.front = c.front + (c.txq.takeWhile take).length := by
  have split := congrArg length (takeWhile_append_dropWhile (p := take) (l := c.txq))
  rw [length_append] at split
  unfold front
  dsimp only
  omega

theorem front_queueSegment (fits : c.txq.length ≤ c.queued) (piece : Piece) :
    (c.queueSegment piece).front = c.front ∧ c.front + c.txq.length = c.queued + 1 := by
  simp only [Connection.queueSegment, front, length_append, length_singleton]
  omega

/-- The window is measured from the oldest entry, so wrapped arithmetic only
makes it smaller. -/
theorem flowOk_segnum {e oldest : TxEntry} {rest : List TxEntry}
    (allowed : c.flowOk e = true) (isData : e.isData = true)
    (shape : c.txq = oldest :: rest) : e.segnum < oldest.segnum + c.window := by
  have inWindow : ¬ e.segnum > c.maxq := by
    intro beyond
    simp [flowOk, isData, beyond] at allowed
  have reduced : c.maxq ≤ oldest.segnum + c.window - 1 := by
    unfold maxq
    rw [shape]
    exact Nat.mod_le _ _
  have opened := c.one_le_window
  omega

/-! ## Changes of the queue and the frames sent -/

section

variable (queue : Queue stream c)

include queue

theorem Queue.resent {entries : List TxEntry} {frames : List Frame}
    (same : entries.length = c.txq.length) (numbered : Numbered (TxEntry.Sound stream
      (highest c.sentTo (numbers frames)) c.rcvd) c.front entries)
    (sound : ∀ f ∈ frames, f.Sound stream c.rcvd)
    (inOrder : InOrder c.span c.sentTo (numbers frames))
    (ahead : highest c.sentTo (numbers frames) < c.front + c.span) :
    Queue stream { c with txq := entries, outbox := c.outbox ++ frames } := by
  have split : numbers (c.outbox ++ frames) = numbers c.outbox ++ numbers frames := filterMap_append
  have sameFront : ({ c with
      txq := entries, outbox := c.outbox ++ frames } : Connection).front =
      c.front := by
    unfold front
    rw [same]
  have reach : ({ c with
      txq := entries, outbox := c.outbox ++ frames } : Connection).sentTo =
      highest c.sentTo (numbers frames) := by
    unfold sentTo
    rw [split, highest_append]
  constructor
  case nextExpect => exact queue.nextExpect
  case nextSend => exact queue.nextSend
  case nextSegnum => exact queue.nextSegnum
  case fits => exact same.symm ▸ queue.fits
  case txq =>
    rw [sameFront, reach]
    exact numbered
  case outbox =>
    intro f member
    rcases mem_append.1 member with old | new
    · exact queue.outbox f old
    · exact sound f new
  case inOrder =>
    rw [split]
    exact InOrder.append.2 ⟨queue.inOrder, inOrder⟩
  case reached =>
    rw [sameFront, reach]
    exact queue.reached.trans (Nat.succ_le_succ (le_highest _ _))
  case ahead =>
    rw [sameFront, reach]
    exact ahead

theorem Queue.control {f : Frame} (plain : f.dataNumber = none) (sound : f.Sound stream c.rcvd) :
    Queue stream { c with outbox := c.outbox ++ [f] } := by
  have none : numbers [f] = [] := by simp [numbers, plain]
  have resent := @Queue.resent stream c queue c.txq [f] rfl
  rw [none] at resent
  exact resent queue.txq (by simpa using sound) trivial queue.ahead

theorem Queue.ackNum (qual : Qual) : c.ackNum qual = ⟨Mod.wrap c.rcvd, qual⟩ := by
  unfold Connection.ackNum
  rw [queue.nextExpect, Mod.wrap_sub_one]

theorem Queue.advance : Queue stream c.advance := by
  have more : c.rcvd ≤ c.rcvd + 1 := Nat.le_succ _
  refine { queue with nextExpect := ?_, txq := ?_, outbox := ?_ }
  · show c.nextExpect.succ = _
    rw [queue.nextExpect, Mod.succ_wrap]
    rfl
  · exact queue.txq.mono fun _ _ sound => sound.mono prefix_rfl (Nat.le_refl _) more
  · exact fun f member => (queue.outbox f member).mono prefix_rfl more

/-! ## Sending what the window allows -/

/-- While the counts do not wrap, flow control lets out only what is in the
window. -/
theorem Queue.flowOk_lt (all : stream.length ≤ c.queued) (counts : c.Counts)
    {number top : Nat} {e : TxEntry} (sound : e.Sound stream top c.rcvd number)
    (allowed : c.flowOk e) (present : c.txq ≠ []) : number < c.front + c.span := by
  have below := sound.frame.le_length
  have segnum := sound.segnum
  have spans := c.window_le_span
  have opened := c.one_le_window
  unfold Counts at counts
  cases shape : c.txq with
  | nil => exact absurd shape present
  | cons oldest rest =>
    have sorted := queue.txq
    rw [shape] at sorted
    have first := sorted.1.segnum
    have inWindow := flowOk_segnum allowed sound.isData shape
    omega

end

theorem sendBlockedLoop_sound {bound top start known : Nat} {queue : List TxEntry} (timing : Bool)
    (allowed : ∀ top number, ∀ e ∈ queue,
      e.Sound stream top known number → c.flowOk e → number < bound)
    (numbered : Numbered (TxEntry.Sound stream top known) start queue)
    (reached : start ≤ top + 1) (ahead : top < bound) (near : bound ≤ start + c.span) :
    Numbered (TxEntry.Sound stream (highest top (numbers (c.sendBlockedLoop timing queue).2)) known)
        start (c.sendBlockedLoop timing queue).1 ∧
      (∀ f ∈ (c.sendBlockedLoop timing queue).2, f.Sound stream known) ∧
      InOrder c.span top (numbers (c.sendBlockedLoop timing queue).2) ∧
      highest top (numbers (c.sendBlockedLoop timing queue).2) < bound := by
  induction queue generalizing start timing top with
  | nil => exact ⟨trivial, forall_mem_nil _, trivial, ahead⟩
  | cons e rest ih =>
    obtain ⟨sound, later⟩ := numbered
    have allowedLater := fun top number e member => allowed top number e (mem_cons_of_mem _ member)
    rw [sendBlockedLoop]
    split
    next isSent =>
      have covered := sound.sent isSent
      obtain ⟨queue, frames, inOrder, below⟩ :=
        ih timing allowedLater later (by omega) ahead (by omega)
      refine ⟨⟨?_, queue⟩, frames, inOrder, below⟩
      exact sound.mono prefix_rfl (le_highest _ _) (Nat.le_refl _)
    · split
      next passes =>
        have inside := allowed top start e mem_cons_self sound passes
        have raised := later.mono fun _ _ entry =>
          entry.mono prefix_rfl (le_max_left top start) (Nat.le_refl known)
        obtain ⟨queue, frames, inOrder, below⟩ :=
          ih true allowedLater raised (by omega) (by omega) (by omega)
        have first : numbers (e.frame :: (c.sendBlockedLoop true rest).2) =
            start :: numbers (c.sendBlockedLoop true rest).2 := by
          simp [numbers, sound.frame.dataNumber]
        rw [first]
        refine ⟨⟨?_, queue⟩, ?_, ⟨⟨reached, by omega⟩, inOrder⟩, below⟩
        · exact { sound with
            sent := fun _ => (le_max_right _ _).trans (le_highest _ _) }
        · intro f member
          rcases mem_cons.1 member with rfl | more
          · exact sound.frame.sound
          · exact frames f more
      next =>
        exact ⟨⟨sound, later⟩, forall_mem_nil _, trivial, ahead⟩

section

variable (queue : Queue stream c)

include queue

theorem Queue.sendBlocked (all : stream.length ≤ c.queued) (counts : c.Counts) :
    Queue stream c.sendBlocked := by
  have allowed : ∀ top number, ∀ e ∈ c.txq, e.Sound stream top c.rcvd number → c.flowOk e →
        number < c.front + c.span := fun _ _ _ member sound passes =>
    queue.flowOk_lt all counts sound passes (ne_nil_of_mem member)
  obtain ⟨numbered, sound, inOrder, ahead⟩ :=
    sendBlockedLoop_sound (c.txq.any (fun entry => entry.timed)) allowed
      queue.txq queue.reached queue.ahead (Nat.le_refl _)
  have sent := queue.resent (length_unmarked (sendBlockedLoop_unmarked c _ _))
    numbered sound inOrder ahead
  unfold Connection.sendBlocked
  dsimp only
  split
  · exact sent
  · exact { sent with }

/-! ## Acknowledgements received -/

theorem Queue.pop (num : Seq) :
    Queue stream { c with txq := c.txq.dropWhile (acknowledges num) } := by
  have moved := front_dropWhile queue.fits (acknowledges num)
  have short := length_dropWhile_le (acknowledges num) c.txq
  have sentOnly : c.front + (c.txq.takeWhile (acknowledges num)).length ≤ c.sentTo + 1 := by
    refine queue.txq.add_length_takeWhile_le ?_ queue.reached
    intro e sound
    by_contra taken
    simp only [acknowledges, Bool.not_eq_false, Bool.and_eq_true] at taken
    have := sound.sent taken.1
    omega
  have ahead := queue.ahead
  constructor
  case nextExpect => exact queue.nextExpect
  case nextSend => exact queue.nextSend
  case nextSegnum => exact queue.nextSegnum
  case fits => exact short.trans queue.fits
  case txq =>
    rw [moved]
    exact queue.txq.dropWhile (acknowledges num)
  case outbox => exact queue.outbox
  case inOrder => exact queue.inOrder
  case reached =>
    rw [moved]
    exact sentOnly
  case ahead =>
    show c.sentTo < _ + c.span
    omega

/-- An acknowledgement that is not too old takes nothing beyond what it
acknowledges. -/
theorem Queue.front_pop_le {acked : Nat} (fresh : c.front < acked + 2048) :
    { c with txq := c.txq.dropWhile (acknowledges (Mod.wrap acked)) }.front ≤
      max c.front (acked + 1) := by
  rw [front_dropWhile queue.fits]
  have low : c.front ≤ max c.front (acked + 1) - 1 + 1 := by omega
  have next : max c.front (acked + 1) - 1 + 1 = max c.front (acked + 1) := by
    omega
  rw [← next]
  refine queue.txq.add_length_takeWhile_le ?_ low
  intro e sound
  have later : (Mod.wrap acked : Seq).less e.seq = true := by
    rw [sound.seq]
    exact Mod.less_wrap (by omega) (by omega)
  simp [acknowledges, later]

/-! ## Sending again -/

theorem Queue.marked {change : TxEntry → TxEntry}
    (kept : ∀ top number e, e.Sound stream top c.rcvd number →
      (change e).Sound stream top c.rcvd number) :
    Queue stream { c with txq := c.txq.map change } := by
  have marked := @Queue.resent stream c queue (c.txq.map change) []
    (length_map change) (queue.txq.map (kept c.sentTo)) (forall_mem_nil _) trivial queue.ahead
  rw [append_nil] at marked
  exact marked

end

theorem resendQueue_sound {top start known : Nat} {queue : List TxEntry}
    (numbered : Numbered (TxEntry.Sound stream top known) start queue) :
    Numbered (TxEntry.Sound stream top known) start (resendQueue queue).1 ∧
      ((resendQueue queue).2 = [] ∨ ∃ f number, (resendQueue queue).2 = [f] ∧ start ≤ number ∧
          number ≤ top ∧ f.IsSegment stream known number) := by
  induction queue generalizing start with
  | nil => exact ⟨trivial, .inl rfl⟩
  | cons e rest ih =>
    obtain ⟨sound, later⟩ := numbered
    rw [resendQueue]
    split
    next isSent =>
      refine ⟨⟨{ sound with }, later.map ?_⟩, .inr
        ⟨e.frame, start, rfl, Nat.le_refl _, sound.sent isSent, sound.frame⟩⟩
      intro number other entry
      split
      · exact { entry with
          sent := fun again => by simp [entry.isData] at again }
      · exact entry
    next =>
      obtain ⟨queue, frames⟩ := ih later
      refine ⟨⟨sound, queue⟩, ?_⟩
      rcases frames with nothing | ⟨f, number, only, low, rest⟩
      · exact .inl nothing
      · exact .inr ⟨f, number, only, by omega, rest⟩

theorem Queue.resend (queue : Queue stream c) : Queue stream c.resend := by
  obtain ⟨numbered, frames⟩ := resendQueue_sound queue.txq
  have same := length_unmarked (resendQueue_unmarked c.txq)
  have ahead := queue.ahead
  have sent : Queue stream { c with
      txq := (resendQueue c.txq).1
      outbox := c.outbox ++ (resendQueue c.txq).2 } := by
    rcases frames with nothing | ⟨f, number, only, low, high, segment⟩
    · rw [nothing]
      exact queue.resent same numbered (forall_mem_nil _) trivial ahead
    · have one : numbers [f] = [number] := by
        simp [numbers, segment.dataNumber]
      have raised : max c.sentTo number = c.sentTo := max_eq_left high
      rw [only]
      apply queue.resent same
      · rw [one, highest_cons, raised]
        exact numbered
      · intro other member
        rw [mem_singleton.1 member]
        exact segment.sound
      · rw [one]
        exact ⟨⟨by omega, by omega⟩, trivial⟩
      · rw [one, highest_cons, raised]
        exact ahead
  exact { sent with }

/-! ## Queueing segments -/

theorem Queue.queueSegment (queue : Queue stream c) {piece : Piece}
    (next : stream[c.queued]? = some piece) : Queue stream (c.queueSegment piece) := by
  have fits := queue.fits
  obtain ⟨sameFront, start⟩ := front_queueSegment fits piece
  constructor
  case nextExpect => exact queue.nextExpect
  case nextSend =>
    show c.nextSend.succ = _
    rw [queue.nextSend, Mod.succ_wrap]
    rfl
  case nextSegnum =>
    show (c.nextSegnum + 1) % 2 ^ 32 = (c.queued + 1 + 1) % 2 ^ 32
    rw [queue.nextSegnum, Nat.mod_add_mod]
  case fits =>
    simp only [Connection.queueSegment, length_append, length_singleton]
    omega
  case txq =>
    rw [sameFront]
    refine Numbered.append.2 ⟨queue.txq, ⟨?_, trivial⟩⟩
    rw [start]
    refine ⟨queue.nextSend, queue.nextSegnum, rfl, ?_,
      fun early => absurd early Bool.false_ne_true⟩
    exact ⟨rfl, Nat.succ_pos _, Nat.le_refl _, _, rfl, queue.nextSend, next,
      congrArg some (queue.ackNum .ackq), rfl⟩
  case outbox => exact queue.outbox
  case inOrder => exact queue.inOrder
  case reached => exact sameFront.symm ▸ queue.reached
  case ahead => exact sameFront.symm ▸ queue.ahead

theorem Queue.queueSegments {ps rest : List Piece} (queue : Queue stream c)
    (next : stream.drop c.queued = ps ++ rest) :
    Queue stream (ps.foldl Connection.queueSegment c) ∧
      (ps.foldl Connection.queueSegment c).queued = c.queued + ps.length ∧
      (ps.foldl Connection.queueSegment c).front = c.front := by
  induction ps generalizing c with
  | nil => exact ⟨queue, rfl, rfl⟩
  | cons piece ps ih =>
    have found : stream[c.queued]? = some piece := by
      rw [← head?_drop, next]
      rfl
    have dropped : stream.drop (c.queueSegment piece).queued = ps ++ rest := by
      show stream.drop (c.queued + 1) = _
      rw [← drop_drop, next]
      rfl
    obtain ⟨sound, queued, front⟩ := ih (queue.queueSegment found) dropped
    refine ⟨sound, ?_, ?_⟩
    · rw [foldl_cons, queued]
      show c.queued + 1 + ps.length = _
      rw [length_cons]
      omega
    · have fits := queue.fits
      rw [foldl_cons, front]
      simp only [Connection.queueSegment, Connection.front, length_append, length_singleton]
      omega

end Queue

end Connection

end Decnet.Nsp
