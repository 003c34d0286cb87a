import Decnet.Datalink.Ddcmp
import Mathlib.Logic.Relation
import Mathlib.Data.List.Basic

/-!
# What the DDCMP engine does while it runs

Acknowledging, numbering, sending and retransmitting are sequences of a few
changes of the engine.  `Sound` is the invariant of one engine that is kept by
each of them: its numbers are its counts modulo 256, at most `qmax` messages
are not acknowledged, and what it keeps and what it has put on the wire are the
payloads it accepted, under their numbers.
-/

namespace Decnet.Ddcmp

open Relation

/-! ## Numbers and counts -/

theorem ofNat_succ (count : Nat) : UInt8.ofNat count + 1 = UInt8.ofNat (count + 1) := by
  simp

theorem ofNat_near {left right : Nat} (same : UInt8.ofNat left = UInt8.ofNat right)
    (below : left < right + 256) (above : right < left + 256) : left = right := by
  have residues := congrArg UInt8.toNat same
  simp only [UInt8.toNat_ofNat'] at residues
  omega

theorem distance_forward {low high : Nat} (ordered : low ≤ high) (near : high < low + 256) :
    distance (UInt8.ofNat low) (UInt8.ofNat high) = high - low := by
  simp only [distance, UInt8.toNat_sub, UInt8.toNat_ofNat']
  omega

/-- A number that is behind looks like one that is almost 256 ahead. -/
theorem distance_backward {low high : Nat} (behind : high < low) (near : low < high + 256) :
    distance (UInt8.ofNat low) (UInt8.ofNat high) = 256 - (low - high) := by
  simp only [distance, UInt8.toNat_sub, UInt8.toNat_ofNat']
  omega

namespace Protocol

/-! ## Changes -/

/-- The engine has sent something other than a Start, or may do so now. -/
def Begun (p : Protocol) : Prop := p.state ≠ .istart

/-- A control message that an engine may send. -/
inductive Control (p : Protocol) : Message → Prop where
  | ack (begun : p.Begun) : Control p (makeAck p.r)
  | nak (begun : p.Begun) (reason : UInt8) : Control p (makeNak p.r reason)
  | rep (begun : p.Begun) : Control p (makeRep p.n)
  | stack (begun : p.Begun) : Control p makeStack
  | start (starting : p.state = .istart) : Control p makeStart

/-- One change of an engine, in which the far end has acknowledged at most
`limit` messages. -/
inductive Change (limit : Nat) : Protocol → Protocol → Prop where
  | adjust (p : Protocol) (ackflag : Bool) (acktmr stacktmr : Backoff)
      (counters : Counters) (timer : Option Nat) :
      Change limit p
        { p with
          ackflag := ackflag
          acktmr := acktmr
          stacktmr := stacktmr
          counters := counters
          timer := timer }
  | control (p : Protocol) (message : Message) (allowed : p.Control message) :
      Change limit p (p.emit (p.control message))
  | kept (p : Protocol) (slot : Seq) (frame : Frame)
      (stored : p.unack slot = some frame) (begun : p.Begun) : Change limit p (p.emit frame)
  | number (p : Protocol) (payload : Bytes) (rest : List Bytes)
      (queue : p.notsent = payload :: rest) (room : p.cansend = true) :
      Change limit p (p.number payload rest)
  | acknowledge (p : Protocol) (unacked : p.acked < p.numbered) (below : p.acked < limit) :
      Change limit p p.acknowledgeOne

abbrev Changes (limit : Nat) : Protocol → Protocol → Prop :=
  ReflTransGen (Change limit)

variable {limit : Nat}

variable {p p' : Protocol} {message : Message} {accepted : List Bytes} {frame : Frame}

theorem Change.state (change : Change limit p p') : p'.state = p.state := by
  cases change <;> rfl

theorem changes_state (changes : Changes limit p p') : p'.state = p.state := by
  induction changes with
  | refl => rfl
  | tail _ last ih => exact last.state.trans ih

theorem changes_begun (changes : Changes limit p p') (begun : p.Begun) : p'.Begun := by
  unfold Begun
  rw [changes_state changes]
  exact begun

theorem changes_setTimer (seconds : Nat) (p : Protocol) : Changes limit p (p.setTimer seconds) :=
  .single (.adjust p p.ackflag p.acktmr p.stacktmr p.counters _)

theorem changes_count (change : Counters → Counters) (p : Protocol) :
    Changes limit p (p.count change) :=
  .single (.adjust p p.ackflag p.acktmr p.stacktmr _ p.timer)

theorem changes_raiseAckflag (p : Protocol) : Changes limit p p.raiseAckflag :=
  .single (.adjust p true p.acktmr p.stacktmr p.counters p.timer)

theorem changes_acktmr (acktmr : Backoff) (p : Protocol) :
    Changes limit p { p with acktmr := acktmr } :=
  .single (.adjust p p.ackflag acktmr p.stacktmr p.counters p.timer)

theorem changes_stacktmr (stacktmr : Backoff) (p : Protocol) :
    Changes limit p { p with stacktmr := stacktmr } :=
  .single (.adjust p p.ackflag p.acktmr stacktmr p.counters p.timer)

theorem changes_armed (seconds : Nat) (p : Protocol) :
    Changes limit p (if seconds > 0 then p.setTimer seconds else p) := by
  split
  · exact changes_setTimer seconds p
  · exact .refl

theorem changes_sendMsg (seconds : Nat) (allowed : p.Control message) :
    Changes limit p (p.sendMsg message seconds) :=
  (ReflTransGen.single (.control p message allowed)).trans (changes_armed seconds _)

theorem changes_sendStarting
    (allowed : ∀ stacktmr, Control { p with stacktmr := stacktmr } message) :
    Changes limit p (p.sendStarting message) :=
  (changes_stacktmr _ p).trans (changes_sendMsg _ (allowed _))

theorem changes_flushAck (begun : p.Begun) : Changes limit p p.flushAck := by
  unfold flushAck
  split
  · exact .trans (.single (.adjust p false p.acktmr p.stacktmr p.counters p.timer)) (changes_sendMsg 0 (.ack begun))
  · exact .refl

theorem changes_sendKept (slot : Seq) (begun : p.Begun) : Changes limit p (p.sendKept slot) := by
  unfold sendKept
  split
  · exact .refl
  · rename_i frame stored
    have waited : Changes limit p { p with acktmr := p.acktmr.next.2 } := changes_acktmr _ p
    exact (waited.tail (.kept _ slot frame stored begun)).trans (changes_armed _ _)

theorem sendKept_notsent (slot : Seq) (p : Protocol) : (p.sendKept slot).notsent = p.notsent := by
  unfold sendKept
  split
  · rfl
  · simp only [sendAwaiting, sendFrame]
    split <;> rfl

theorem changes_sendQueuedLoop (queueOnly : Bool) {queue : List Bytes}
    (same : p.notsent = queue) (begun : p.Begun) :
    Changes limit p (sendQueuedLoop queueOnly queue p) := by
  induction queue generalizing p with
  | nil => exact .refl
  | cons payload rest ih =>
    simp only [sendQueuedLoop]
    split
    · rename_i room
      have numbered : Changes limit p (p.number payload rest) :=
        .single (.number p payload rest same room)
      cases queueOnly with
      | true => exact numbered.trans (ih rfl begun)
      | false =>
        have sent := numbered.trans (changes_sendKept (p.number payload rest).n begun)
        exact sent.trans (ih (sendKept_notsent _ _) (changes_begun sent begun))
    · exact .refl

theorem changes_acknowledge {count : Nat}
    (unacked : p.acked + count ≤ p.numbered) (below : p.acked + count ≤ limit) :
    Changes limit p (p.acknowledge count) := by
  induction count generalizing p with
  | zero => exact .refl
  | succ count ih =>
    have one : Changes limit p p.acknowledgeOne := .single (.acknowledge p (by omega) (by omega))
    refine one.trans (ih ?_ ?_)
    · simp only [acknowledgeOne]
      omega
    · simp only [acknowledgeOne]
      omega

theorem changes_awaitReply (p : Protocol) : Changes limit p p.awaitReply := by
  unfold awaitReply
  split
  · exact (changes_setTimer 0 p).trans (changes_acktmr _ _)
  · exact (changes_acktmr _ p).trans (changes_setTimer _ _)

theorem changes_takeAck (unacked : p.acked + distance p.a message.resp ≤ p.numbered)
    (below : p.acked + distance p.a message.resp ≤ limit)
    (begun : p.Begun) : Changes limit p (p.takeAck message) := by
  have waiting := (changes_acknowledge unacked below).trans (changes_awaitReply _)
  exact waiting.trans (changes_sendQueuedLoop _ rfl (changes_begun waiting begun))

theorem changes_retransmitLoop (count : Nat) (slot : Seq)
    (begun : p.Begun) : Changes limit p (p.retransmitLoop count slot) := by
  induction count generalizing slot p with
  | zero => exact .refl
  | succ count ih =>
    have sent : Changes limit p (p.sendKept (slot + 1)) := changes_sendKept (slot + 1) begun
    exact sent.trans (ih (slot + 1) (changes_begun sent begun))

theorem changes_receiveRep {x : Protocol} (message : Message)
    (begun : x.Begun) : Changes limit x (x.receiveRep message) := by
  unfold receiveRep
  dsimp only
  split
  · exact (changes_count _ x).trans (changes_raiseAckflag _)
  · have counts : Changes limit x ((x.count Counters.repReceived).count (Counters.noteInbound 2)) :=
      (changes_count _ x).trans (changes_count _ _)
    exact counts.trans (changes_sendMsg 0 (.nak (changes_begun counts begun) reasonRep))

def enqueue (payload : Bytes) (p : Protocol) : Protocol :=
  { p with
    notsent := p.notsent ++ [payload]
    accepted := p.accepted ++ [payload] }

/-- A data message that carries an accepted payload under its number. -/
structure IsData (accepted : List Bytes) (frame : Frame) : Prop where
  number_pos : 0 < frame.number
  message : ∃ payload, accepted[frame.number - 1]? = some payload ∧
    frame.message = makeData (UInt8.ofNat frame.number) (UInt8.ofNat frame.response) payload

theorem IsData.append (data : IsData accepted frame) (more : List Bytes) :
    IsData (accepted ++ more) frame := by
  obtain ⟨positive, payload, present, message⟩ := data
  refine ⟨positive, payload, ?_, message⟩
  rw [List.getElem?_append_left]
  · exact present
  · exact (List.getElem?_eq_some_iff.mp present).1

theorem IsData.kind
    (data : IsData accepted frame) : frame.message.kind = .data := by
  obtain ⟨_, payload, _, message⟩ := data
  rw [message]
  rfl

/-- What is kept until it is acknowledged: a message in the window, with a
response number of the past. -/
structure Kept (accepted : List Bytes) (acked numbered received : Nat)
    (slot : Seq) (frame : Frame) : Prop where
  slot : slot = UInt8.ofNat frame.number
  data : IsData accepted frame
  unacked : acked < frame.number
  numbered : frame.number ≤ numbered
  response : frame.response ≤ received

/-- What is put on the wire: a data message that was in the window when it was
sent, or a control message. -/
inductive OnWire (accepted : List Bytes) (qmax : Nat) (frame : Frame) : Prop where
  | data (data : IsData accepted frame) (numbered : frame.number ≤ frame.sent)
      (window : frame.sent < frame.number + qmax) (response : frame.response ≤ frame.received)
  | reply (kind : frame.message.kind = .ack ∨ frame.message.kind = .nak)
      (resp : frame.message.resp = UInt8.ofNat frame.received)
  | other (kind : frame.message.kind = .rep ∨ frame.message.kind = .stack ∨
      frame.message.kind = .start)

theorem OnWire.append {qmax : Nat} (wire : OnWire accepted qmax frame) (more : List Bytes) :
    OnWire (accepted ++ more) qmax frame := by
  cases wire with
  | data data numbered window response =>
    exact .data (data.append more) numbered window response
  | reply kind resp => exact .reply kind resp
  | other kind => exact .other kind

structure Before (first second : Frame) : Prop where
  sent : first.sent ≤ second.sent
  received : first.received ≤ second.received
  start : second.message.kind = .start → first.message.kind = .start

structure Sound (p : Protocol) : Prop where
  small : p.qmax ≤ 255
  r : p.r = UInt8.ofNat p.received
  a : p.a = UInt8.ofNat p.acked
  n : p.n = UInt8.ofNat p.numbered
  ordered : p.acked ≤ p.numbered
  window : p.numbered ≤ p.acked + p.qmax
  accepted : ∃ taken, taken.length = p.numbered ∧ p.accepted = taken ++ p.notsent
  kept : ∀ slot frame, p.unack slot = some frame →
    Kept p.accepted p.acked p.numbered p.received slot frame
  wire : ∀ frame ∈ p.out, OnWire p.accepted p.qmax frame
  past : ∀ frame ∈ p.out, frame.sent ≤ p.numbered ∧ frame.received ≤ p.received
  order : p.out.Pairwise Before
  starting : p.state = .istart → ∀ frame ∈ p.out, frame.message.kind = .start

theorem Sound.pending (sound : p.Sound) : p.pending = p.numbered - p.acked := by
  have small := sound.small
  have window := sound.window
  rw [Protocol.pending, sound.a, sound.n]
  exact distance_forward sound.ordered (by omega)

theorem Sound.numbered_le (sound : p.Sound) : p.numbered ≤ p.accepted.length := by
  obtain ⟨taken, length, accepted⟩ := sound.accepted
  rw [accepted, List.length_append]
  omega

theorem Sound.adjust (sound : p.Sound) (ackflag : Bool)
    (acktmr stacktmr : Backoff) (counters : Counters) (timer : Option Nat) :
    Sound { p with
      ackflag := ackflag
      acktmr := acktmr
      stacktmr := stacktmr
      counters := counters
      timer := timer } :=
  { sound with }

theorem Sound.emit (sound : p.Sound) (wire : OnWire p.accepted p.qmax
      { frame with sent := p.numbered, received := p.received })
    (start : frame.message.kind = .start ↔ p.state = .istart) : (p.emit frame).Sound :=
  { sound with
    wire := by
      intro other member
      rcases List.mem_append.mp member with earlier | last
      · exact sound.wire other earlier
      · cases List.mem_singleton.mp last
        exact wire
    past := by
      intro other member
      rcases List.mem_append.mp member with earlier | last
      · exact sound.past other earlier
      · cases List.mem_singleton.mp last
        exact ⟨Nat.le_refl _, Nat.le_refl _⟩
    order := by
      refine List.pairwise_append.mpr ⟨sound.order, List.pairwise_singleton _ _, ?_⟩
      intro first earlier last member
      cases List.mem_singleton.mp member
      obtain ⟨sent, received⟩ := sound.past first earlier
      exact ⟨sent, received, fun kind => sound.starting (start.mp kind) first earlier⟩
    starting := by
      intro state other member
      rcases List.mem_append.mp member with earlier | last
      · exact sound.starting state other earlier
      · cases List.mem_singleton.mp last
        exact start.mpr state }

theorem Control.onWire (sound : p.Sound) (allowed : p.Control message) :
    OnWire p.accepted p.qmax { p.control message with
      sent := p.numbered, received := p.received } := by
  cases allowed with
  | ack begun => exact .reply (.inl rfl) sound.r
  | nak begun reason => exact .reply (.inr rfl) sound.r
  | rep begun => exact .other (.inl rfl)
  | stack begun => exact .other (.inr (.inl rfl))
  | start starting => exact .other (.inr (.inr rfl))

theorem Control.start_iff (allowed : p.Control message) :
    message.kind = .start ↔ p.state = .istart := by
  cases allowed with
  | ack begun => exact iff_of_false (by simp [makeAck]) begun
  | nak begun reason => exact iff_of_false (by simp [makeNak]) begun
  | rep begun => exact iff_of_false (by simp [makeRep]) begun
  | stack begun => exact iff_of_false (by simp [makeStack]) begun
  | start starting => exact ⟨fun _ => starting, fun _ => rfl⟩

theorem Sound.keptOnWire (sound : p.Sound) {slot : Seq} (stored : p.unack slot = some frame) :
    OnWire p.accepted p.qmax { frame with sent := p.numbered, received := p.received } := by
  obtain ⟨_, data, unacked, numbered, response⟩ := sound.kept slot frame stored
  have window := sound.window
  refine .data ⟨data.number_pos, data.message⟩ numbered ?_ response
  simp only
  omega

theorem Sound.number (sound : p.Sound) {payload : Bytes}
    {rest : List Bytes} (queue : p.notsent = payload :: rest)
    (room : p.cansend = true) : (p.number payload rest).Sound := by
  obtain ⟨taken, length, accepted⟩ := sound.accepted
  have ordered := sound.ordered
  exact
    { sound with
      n := by
        simp only [Protocol.number]
        rw [sound.n, ofNat_succ]
      ordered := Nat.le_succ_of_le ordered
      window := by
        have bound : p.pending < p.qmax := by simpa [cansend] using room
        rw [sound.pending] at bound
        simp only [Protocol.number]
        omega
      accepted := by
        refine ⟨taken ++ [payload], by simp [length, Protocol.number], ?_⟩
        simp only [Protocol.number]
        rw [accepted, queue, List.append_assoc]
        rfl
      kept := by
        intro slot frame stored
        by_cases same : slot = p.n + 1
        · subst same
          simp only [Protocol.number, Function.update_self, Option.some.injEq] at stored
          subst stored
          refine ⟨?_, ⟨Nat.succ_pos _, payload, ?_, ?_⟩, ?_, Nat.le_refl _, Nat.le_refl _⟩
          · rw [sound.n, ofNat_succ]
          · simp [Protocol.number, accepted, queue, ← length]
          · rw [sound.n, ofNat_succ, sound.r]
          · simp only [Protocol.number]
            omega
        · simp only [Protocol.number, Function.update_of_ne same] at stored
          exact { sound.kept slot frame stored with
            numbered := Nat.le_succ_of_le (sound.kept slot frame stored).numbered }
      past := by
        intro frame member
        obtain ⟨sent, received⟩ := sound.past frame member
        exact ⟨Nat.le_succ_of_le sent, received⟩ }

theorem Sound.acknowledgeOne (sound : p.Sound)
    (unacked : p.acked < p.numbered) : p.acknowledgeOne.Sound :=
  { sound with
    a := by
      simp only [Protocol.acknowledgeOne]
      rw [sound.a, ofNat_succ]
    ordered := unacked
    window := by
      have window := sound.window
      simp only [Protocol.acknowledgeOne]
      omega
    kept := by
      intro slot frame stored
      by_cases same : slot = p.a + 1
      · subst same
        simp [Protocol.acknowledgeOne] at stored
      · simp only [Protocol.acknowledgeOne, Function.update_of_ne same] at stored
        obtain ⟨place, data, above, numbered, response⟩ := sound.kept slot frame stored
        refine ⟨place, data, ?_, numbered, response⟩
        have different : frame.number ≠ p.acked + 1 := by
          intro first
          rw [place, first, ← ofNat_succ, ← sound.a] at same
          exact same rfl
        simp only [Protocol.acknowledgeOne]
        omega }

theorem sound_change (change : Change limit p p') (sound : p.Sound) : p'.Sound := by
  cases change with
  | adjust ackflag acktmr stacktmr counters timer =>
    exact sound.adjust ackflag acktmr stacktmr counters timer
  | control message allowed =>
    exact sound.emit (allowed.onWire sound) allowed.start_iff
  | kept slot frame stored begun =>
    refine sound.emit (sound.keptOnWire stored) ?_
    rw [(sound.kept slot frame stored).data.kind]
    exact iff_of_false (by simp) begun
  | number payload rest queue room => exact sound.number queue room
  | acknowledge unacked below => exact sound.acknowledgeOne unacked

end Protocol

end Decnet.Ddcmp
