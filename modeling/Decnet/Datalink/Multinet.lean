import Decnet.Lib.Framing
import Decnet.Lib.Run
import Mathlib.Data.Nat.Bitwise

/-!
# Multinet over a TCP connection

The class `TcpMultinet`: a frame is a packet behind a header of four bytes, of
which the first two are the packet's length.  The sending end puts whole frames
into one buffer and writes it as far as the connection takes it: when much has
been buffered, when the node's thread gets to it, or on the receive thread after
the connection was full.  The receiving end takes whole frames off what it has
read, and its state machine passes them up while it is running.

The model is of one connection, from when it is opened, and of the packets in
one direction.  A write may take any part of what it is given, or fail.  The
steps are the critical sections of the sending end, the reads of the receiving
end's thread and the dispatches of its work items, in any order.
-/

namespace Decnet.Multinet

open List

abbrev Bytes := List UInt8

def hdrlen : Nat := 4

def maxFrame : Nat := 65535

/-- Bytes waiting for the connection, at most. -/
def maxBacklog : Nat := 256 * 1024

/-- Bytes buffered, at most, before they are written there and then. -/
def corkLimit : Nat := 32 * 1024

/-- A packet that is not too long for a frame. -/
structure Packet where
  bytes : Bytes
  fits : bytes.length ≤ maxFrame
  deriving DecidableEq

/-! ## Frames -/

def header (mlen : Nat) : Bytes :=
  [UInt8.ofNat (mlen &&& 0xff), UInt8.ofNat (mlen >>> 8), 0, 0]

def framed (packet : Packet) : Bytes :=
  header packet.bytes.length ++ packet.bytes

def byteCount (low high : UInt8) : Nat := low.toNat ||| (high.toNat <<< 8)

theorem byteCount_eq (low high : UInt8) : byteCount low high = high.toNat * 256 + low.toNat := by
  have small : low.toNat < 2 ^ 8 := low.toNat_lt
  rw [byteCount, Nat.lor_comm, Nat.shiftLeft_eq, Nat.mul_comm, ← Nat.two_pow_add_eq_or_of_lt small]

theorem byteCount_le (low high : UInt8) : byteCount low high ≤ maxFrame := by
  have first := low.toNat_lt
  have second := high.toNat_lt
  rw [byteCount_eq, maxFrame]
  omega

/-- Take a frame off what has been read, if it is whole. -/
def next : Bytes → Option (Packet × Bytes)
  | low :: high :: _ :: _ :: rest =>
    if rest.length < byteCount low high then none
    else
      some (⟨rest.take (byteCount low high),
        (List.length_take_le _ _).trans (byteCount_le low high)⟩, rest.drop (byteCount low high))
  | _ => none

theorem next_eq_some {stream rest : Bytes} {packet : Packet}
    (found : next stream = some (packet, rest)) :
    ∃ low high third fourth, stream = low :: high :: third :: fourth :: (packet.bytes ++ rest) ∧
        packet.bytes.length = byteCount low high := by
  unfold next at found
  split at found
  case h_1 low high third fourth tail =>
    split at found
    case isTrue => cases found
    case isFalse enough =>
      cases found
      refine ⟨low, high, third, fourth, ?_, ?_⟩
      · rw [take_append_drop]
      · exact length_take_of_le (Nat.not_lt.mp enough)
  case h_2 => cases found

theorem next_cons (low high third fourth : UInt8) (packet : Packet)
    (rest : Bytes) (length : packet.bytes.length = byteCount low high) :
    next (low :: high :: third :: fourth :: (packet.bytes ++ rest)) = some (packet, rest) := by
  simp only [next]
  simp [← length]

theorem byteCount_header (packet : Packet) :
    byteCount (UInt8.ofNat (packet.bytes.length &&& 0xff))
      (UInt8.ofNat (packet.bytes.length >>> 8)) = packet.bytes.length := by
  have fits := packet.fits
  rw [maxFrame] at fits
  have mask : packet.bytes.length &&& 0xff = packet.bytes.length % 256 :=
    Nat.and_two_pow_sub_one_eq_mod _ 8
  rw [byteCount_eq, UInt8.toNat_ofNat', UInt8.toNat_ofNat']
  omega

def framing : Framing Packet UInt8 where
  encode := framed
  next := next
  shorter found := by
    obtain ⟨low, high, third, fourth, rfl, -⟩ := next_eq_some found
    simp only [List.length_cons, List.length_append]
    omega
  extend more found := by
    obtain ⟨low, high, third, fourth, rfl, length⟩ := next_eq_some found
    simpa using next_cons low high third fourth _ (_ ++ more) length
  whole packet rest := by
    rw [framed, List.append_assoc]
    exact next_cons _ _ _ _ packet rest (byteCount_header packet).symm

/-! ## The sending end -/

inductive SendResult where
  | wrote (count : Nat)
  | interrupted | wouldBlock | failed
  deriving DecidableEq, Repr

structure Sender where
  /-- The socket has not been closed. -/
  isOpen : Bool
  /-- The state machine is in `running`. -/
  running : Bool
  txbuf : Bytes
  /-- How much of `txbuf` has been written. -/
  txoff : Nat
  (posted blocked : Bool)
  /-- Work items that call `flush_posted`. -/
  posts : Nat
  /-- Requests to reconnect. -/
  reconnects : Nat
  /-- How often the receive thread was woken. -/
  (wakes bytesSent pktsSent : Nat)
  /-- The packets that were not dropped. -/
  accepted : List Packet
  /-- All that has been put on the connection. -/
  wire : Bytes

namespace Sender

def opened : Sender :=
  ⟨true, false, [], 0, false, false, 0, 0, 0, 0, 0, [], []⟩

def waiting (s : Sender) : Bytes := s.txbuf.drop s.txoff

def full (s : Sender) : Sender :=
  { s with blocked := true, txbuf := s.txbuf.drop s.txoff, txoff := 0 }

def wrote (count : Nat) (s : Sender) : Sender :=
  { s with
    txoff := s.txoff + count
    wire := s.wire ++ s.waiting.take count }

def emptied (s : Sender) : Sender :=
  { s with txbuf := [], txoff := 0, blocked := false }

/-- The loop of `flush`, with what the calls of `sock_send` come to; after these
the connection is full. -/
def flush : List SendResult → Sender → Sender × Bool
  | [], s => if s.waiting = [] then (s.emptied, true) else (s.full, true)
  | result :: results, s =>
    if s.waiting = [] then (s.emptied, true)
    else
      match result with
      | .interrupted => flush results s
      | .failed => (s, false)
      | .wouldBlock => (s.full, true)
      | .wrote count =>
        -- a socket takes no more than it is given
        let taken := min count s.waiting.length
        if taken = 0 then (s.full, true) else flush results (s.wrote taken)

def reconnect (s : Sender) : Sender :=
  { s with reconnects := s.reconnects + 1 }

def wake (s : Sender) : Sender := { s with wakes := s.wakes + 1 }

def countSent (mlen : Nat) (s : Sender) : Sender :=
  { s with bytesSent := s.bytesSent + mlen, pktsSent := s.pktsSent + 1 }

def post (s : Sender) : Sender :=
  { s with posted := true, posts := s.posts + 1 }

def buffer (packet : Packet) (s : Sender) : Sender :=
  { s with
    txbuf := s.txbuf ++ framed packet
    accepted := s.accepted ++ [packet] }

def sendBuffered (mlen waiting : Nat) (results : List SendResult) (s : Sender) : Sender :=
  if s.blocked then s.countSent mlen
  else if waiting + hdrlen + mlen ≥ corkLimit then
    match s.flush results with
    | (s, false) => s.reconnect
    | (s, true) =>
      if s.blocked then (s.countSent mlen).wake else s.countSent mlen
  else if s.posted then s.countSent mlen
  else (s.countSent mlen).post

def send (msg : Bytes) (results : List SendResult) (s : Sender) : Sender :=
  if !s.isOpen || !s.running then s
  else if fits : msg.length ≤ maxFrame then
    if s.waiting.length + hdrlen + msg.length > maxBacklog then s
    else
      (s.buffer ⟨msg, fits⟩).sendBuffered msg.length s.waiting.length results
  else s

def flushPosted (results : List SendResult) (s : Sender) : Sender :=
  if s.posts = 0 then s
  else
    let s := { s with posts := s.posts - 1, posted := false }
    if s.blocked then s.wake
    else if s.waiting = [] then s
    else
      match s.flush results with
      | (s, false) => s.reconnect
      | (s, true) => if s.blocked then s.wake else s

def drain (results : List SendResult) (s : Sender) : Sender :=
  if s.isOpen then (s.flush results).1 else s

def disconnect (results : List SendResult) (s : Sender) : Sender :=
  { (if s.isOpen && !s.blocked then (s.flush results).1 else s).emptied with
    isOpen := false }

end Sender

/-! ## The receiving end -/

inductive Item where
  | connected
  | received (packet : Packet)
  deriving DecidableEq

inductive LinkState where
  | connecting | running
  /-- The state machine has left `running`, or was stopped before it. -/
  | ended
  deriving DecidableEq, Repr

structure Receiver where
  state : LinkState
  /-- The part of a frame that was left by the last read. -/
  tail : Bytes
  queue : List Item
  (bytesRecv pktsRecv : Nat)
  taken : Bytes
  /-- The packets passed up. -/
  passed : List Packet

namespace Receiver

def opened : Receiver := ⟨.connecting, [], [.connected], 0, 0, [], []⟩

def read (chunk : Bytes) (r : Receiver) : Receiver :=
  { r with
    tail := (framing.decode (r.tail ++ chunk)).2
    queue := r.queue ++ (framing.decode (r.tail ++ chunk)).1.map Item.received
    taken := r.taken ++ chunk }

def passUp (packet : Packet) (r : Receiver) : Receiver :=
  { r with
    bytesRecv := r.bytesRecv + packet.bytes.length
    pktsRecv := r.pktsRecv + 1
    passed := r.passed ++ [packet] }

def dispatch (r : Receiver) : Receiver :=
  match r.queue with
  | [] => r
  | .connected :: queue =>
    if r.state = .connecting then { r with queue, state := .running }
    else { r with queue }
  | .received packet :: queue =>
    if r.state = .running then passUp packet { r with queue }
    else { r with queue }

end Receiver

/-! ## The connection -/

structure Connection where
  sender : Sender
  receiver : Receiver

/-- `running` says whether the sending end's state machine is in that state from
now on, and `ended` that the receiving end's leaves it. -/
inductive Input where
  | send (msg : Bytes) (results : List SendResult)
  | flushPosted (results : List SendResult)
  | drain (results : List SendResult)
  | running (now : Bool)
  | disconnect (results : List SendResult)
  | read (count : Nat)
  | dispatch | ended

namespace Connection

def opened : Connection := ⟨Sender.opened, Receiver.opened⟩

def unread (c : Connection) : Bytes :=
  c.sender.wire.drop c.receiver.taken.length

def step (c : Connection) : Input → Connection
  | .send msg results => { c with sender := c.sender.send msg results }
  | .flushPosted results => { c with sender := c.sender.flushPosted results }
  | .drain results => { c with sender := c.sender.drain results }
  | .running now => { c with sender := { c.sender with running := now } }
  | .disconnect results => { c with sender := c.sender.disconnect results }
  | .read count =>
    { c with receiver := c.receiver.read (c.unread.take count) }
  | .dispatch => { c with receiver := c.receiver.dispatch }
  | .ended => { c with receiver := { c.receiver with state := .ended } }

end Connection

/-! ## What is on the connection -/

namespace Sender

/-- What was written and what is still to go are the frames of the accepted
packets, but for what `disconnect` has thrown away. -/
structure Whole (s : Sender) : Prop where
  offset : s.txoff ≤ s.txbuf.length
  stream : ∃ lost, s.wire ++ s.waiting ++ lost =
    (s.accepted.map framed).flatten ∧ (s.isOpen = true → lost = [])
  closed : s.isOpen = false → s.waiting = []

structure Moves (s s' : Sender) : Prop where
  offset : s'.txoff ≤ s'.txbuf.length
  grows : s.wire <+: s'.wire
  stream : s'.wire ++ s'.waiting = s.wire ++ s.waiting
  accepted : s'.accepted = s.accepted
  isOpen : s'.isOpen = s.isOpen

variable {s : Sender}

theorem Moves.trans {s' s'' : Sender} (first : Moves s s')
    (second : Moves s' s'') : Moves s s'' where
  offset := second.offset
  grows := first.grows.trans second.grows
  stream := second.stream.trans first.stream
  accepted := second.accepted.trans first.accepted
  isOpen := second.isOpen.trans first.isOpen

theorem moves_emptied (none : s.waiting = []) : Moves s s.emptied where
  offset := Nat.le_refl _
  grows := prefix_rfl
  stream := by
    rw [none]
    rfl
  accepted := rfl
  isOpen := rfl

theorem moves_full (s : Sender) : Moves s s.full :=
  ⟨Nat.zero_le _, prefix_rfl, rfl, rfl, rfl⟩

theorem moves_wrote {count : Nat}
    (offset : s.txoff ≤ s.txbuf.length) (given : count ≤ s.waiting.length) :
    Moves s (s.wrote count) where
  offset := by
    rw [waiting, length_drop] at given
    change s.txoff + count ≤ s.txbuf.length
    omega
  grows := prefix_append _ _
  stream := by
    have rest : (s.wrote count).waiting = s.waiting.drop count := by
      simp only [waiting, wrote, drop_drop]
    rw [rest]
    change s.wire ++ s.waiting.take count ++ s.waiting.drop count = _
    rw [append_assoc, take_append_drop]
  accepted := rfl
  isOpen := rfl

theorem moves_flush (results : List SendResult)
    (offset : s.txoff ≤ s.txbuf.length) : Moves s (s.flush results).1 := by
  induction results generalizing s with
  | nil =>
    simp only [flush]
    split
    case isTrue none => exact moves_emptied none
    case isFalse => exact moves_full s
  | cons result results induction =>
    simp only [flush]
    split
    case isTrue none => exact moves_emptied none
    case isFalse =>
      cases result with
      | interrupted => exact induction offset
      | failed => exact ⟨offset, prefix_rfl, rfl, rfl, rfl⟩
      | wouldBlock => exact moves_full s
      | wrote count =>
        dsimp only
        split
        · exact moves_full s
        · have moved := moves_wrote offset (Nat.min_le_right count s.waiting.length)
          exact moved.trans (induction moved.offset)

/-- A step of the sending end: nothing is taken back from the connection. -/
structure Steps (s s' : Sender) : Prop where
  whole : s'.Whole
  grows : s.wire <+: s'.wire

section

variable (whole : s.Whole)

include whole

theorem Whole.same : Steps s s :=
  ⟨whole, prefix_rfl⟩

theorem Whole.flush (isOpen : s.isOpen = true) (results : List SendResult) :
    Steps s (s.flush results).1 := by
  have moves := moves_flush results whole.offset
  have still := moves.isOpen.trans isOpen
  refine ⟨⟨moves.offset, ?_, ?_⟩, moves.grows⟩
  · rw [moves.stream, moves.accepted, moves.isOpen]
    exact whole.stream
  · exact fun closed => absurd (still.symm.trans closed) Bool.noConfusion

theorem Whole.buffer (isOpen : s.isOpen = true) (packet : Packet) : (s.buffer packet).Whole where
  offset := by
    change s.txoff ≤ (s.txbuf ++ framed packet).length
    rw [length_append]
    exact Nat.le_add_right_of_le whole.offset
  stream := by
    obtain ⟨lost, stream, none⟩ := whole.stream
    rw [none isOpen, append_nil] at stream
    have later : (s.buffer packet).waiting = s.waiting ++ framed packet :=
      drop_append_of_le_length whole.offset
    refine ⟨[], ?_, fun _ => rfl⟩
    rw [later, append_nil, ← append_assoc]
    change s.wire ++ s.waiting ++ framed packet = ((s.accepted ++ [packet]).map framed).flatten
    rw [stream]
    simp
  closed now := absurd (isOpen.symm.trans now) Bool.noConfusion

theorem Whole.sendBuffered (isOpen : s.isOpen = true) (mlen waiting : Nat)
    (results : List SendResult) : Steps s (s.sendBuffered mlen waiting results) := by
  have flushed := whole.flush isOpen results
  unfold Sender.sendBuffered
  split
  · exact ⟨{ whole with }, prefix_rfl⟩
  · split
    · split
      case h_1 after eq =>
        rw [eq] at flushed
        exact ⟨{ flushed.whole with }, flushed.grows⟩
      case h_2 after eq =>
        rw [eq] at flushed
        split <;> exact ⟨{ flushed.whole with }, flushed.grows⟩
    · split <;> exact ⟨{ whole with }, prefix_rfl⟩

theorem Whole.send (msg : Bytes) (results : List SendResult) : Steps s (s.send msg results) := by
  unfold Sender.send
  split
  case isTrue => exact whole.same
  case isFalse accepts =>
    have isOpen : s.isOpen = true := by
      cases state : s.isOpen <;> simp [state] at accepts ⊢
    split
    case isTrue fits =>
      split
      · exact whole.same
      · have sent := (whole.buffer isOpen ⟨msg, fits⟩).sendBuffered isOpen
          msg.length s.waiting.length results
        exact ⟨sent.whole, sent.grows⟩
    case isFalse => exact whole.same

theorem Whole.flushPosted (results : List SendResult) : Steps s (s.flushPosted results) := by
  unfold Sender.flushPosted
  split
  case isTrue => exact whole.same
  case isFalse =>
    have begun : Whole { s with posts := s.posts - 1, posted := false } := { whole with }
    dsimp only
    split
    · exact ⟨{ whole with }, prefix_rfl⟩
    · split
      case isTrue => exact ⟨begun, prefix_rfl⟩
      case isFalse some =>
        have isOpen : s.isOpen = true := by
          by_contra closed
          exact some (whole.closed (Bool.eq_false_iff.mpr closed))
        have flushed := begun.flush isOpen results
        split
        case h_1 after eq =>
          rw [eq] at flushed
          exact ⟨{ flushed.whole with }, flushed.grows⟩
        case h_2 after eq =>
          rw [eq] at flushed
          split <;> exact ⟨{ flushed.whole with }, flushed.grows⟩

theorem Whole.drain (results : List SendResult) : Steps s (s.drain results) := by
  unfold Sender.drain
  split
  case isTrue isOpen => exact whole.flush isOpen results
  case isFalse => exact whole.same

theorem Whole.disconnect (results : List SendResult) : Steps s (s.disconnect results) := by
  have moves : Moves s (if s.isOpen && !s.blocked then (s.flush results).1 else s) := by
    split
    · exact moves_flush results whole.offset
    · exact ⟨whole.offset, prefix_rfl, rfl, rfl, rfl⟩
  unfold Sender.disconnect
  generalize (if s.isOpen && !s.blocked then (s.flush results).1 else s) = after at moves ⊢
  refine ⟨⟨Nat.le_refl _, ?_, fun _ => rfl⟩, moves.grows⟩
  obtain ⟨lost, stream, -⟩ := whole.stream
  rw [← moves.stream, ← moves.accepted] at stream
  refine ⟨after.waiting ++ lost, ?_, nofun⟩
  change after.wire ++ [] ++ (after.waiting ++ lost) = _
  rw [append_nil, ← append_assoc]
  exact stream

/-- The connection has whole frames, of which the last may be incomplete. -/
theorem Whole.prefix_wire : s.wire <+: (s.accepted.map framed).flatten := by
  obtain ⟨lost, stream, -⟩ := whole.stream
  exact ⟨s.waiting ++ lost, by rw [← append_assoc, stream]⟩

end

end Sender

/-! ## What is passed up -/

namespace Receiver

/-- What has been read is all in the packets and the rest, and the packets are
passed up in order or still queued. -/
structure Following (r : Receiver) : Prop where
  tail : (framing.decode r.taken).2 = r.tail
  passed : r.passed <+: (framing.decode r.taken).1
  connecting : r.state = .connecting → r.passed = [] ∧
    r.queue = .connected :: (framing.decode r.taken).1.map Item.received
  running : r.state = .running → ∃ queued, r.queue = queued.map Item.received ∧
      r.passed ++ queued = (framing.decode r.taken).1

theorem Following.read {r : Receiver} (following : r.Following)
    (chunk : Bytes) : (r.read chunk).Following := by
  have more := framing.decode_append r.taken chunk
  rw [following.tail] at more
  constructor
  case tail =>
    change (framing.decode (r.taken ++ chunk)).2 = _
    rw [more]
    rfl
  case passed =>
    change r.passed <+: (framing.decode (r.taken ++ chunk)).1
    rw [more]
    exact following.passed.trans (prefix_append _ _)
  case connecting =>
    intro connecting
    obtain ⟨none, queue⟩ := following.connecting connecting
    refine ⟨none, ?_⟩
    change r.queue ++ _ = _ :: (framing.decode (r.taken ++ chunk)).1.map _
    rw [more, queue, map_append]
    rfl
  case running =>
    intro running
    obtain ⟨queued, queue, all⟩ := following.running running
    refine ⟨queued ++ (framing.decode (r.tail ++ chunk)).1, ?_, ?_⟩
    · change r.queue ++ _ = _
      rw [queue, map_append]
    · change r.passed ++ _ = (framing.decode (r.taken ++ chunk)).1
      rw [more, ← append_assoc, all]

theorem Following.dispatch {r : Receiver} (following : r.Following) : r.dispatch.Following := by
  unfold Receiver.dispatch
  split
  case h_1 => exact following
  case h_2 queue items =>
    split
    case isTrue connecting =>
      obtain ⟨none, all⟩ := following.connecting connecting
      rw [items] at all
      cases all
      refine ⟨following.tail, following.passed, nofun, fun _ => ?_⟩
      exact ⟨_, rfl, by rw [none]; rfl⟩
    case isFalse other =>
      refine ⟨following.tail, following.passed, ?_, ?_⟩
      · exact fun connecting => absurd connecting other
      · intro running
        obtain ⟨queued, all, -⟩ := following.running running
        rw [items] at all
        cases queued <;> cases all
  case h_3 packet queue items =>
    split
    case isTrue running =>
      obtain ⟨queued, all, whole⟩ := following.running running
      rw [items] at all
      cases queued with
      | nil => cases all
      | cons first queued =>
        cases all
        have next : r.passed ++ [packet] ++ queued = (framing.decode r.taken).1 := by
          rw [append_assoc]
          exact whole
        refine ⟨following.tail, ⟨queued, next⟩, ?_, fun _ => ?_⟩
        · exact fun connecting => absurd (running.symm.trans connecting) LinkState.noConfusion
        · exact ⟨queued, rfl, next⟩
    case isFalse other =>
      refine ⟨following.tail, following.passed, ?_, ?_⟩
      · intro connecting
        obtain ⟨-, all⟩ := following.connecting connecting
        rw [items] at all
        cases all
      · exact fun running => absurd running other

end Receiver

namespace Connection

structure Sound (c : Connection) : Prop where
  sender : c.sender.Whole
  receiver : c.receiver.Following
  taken : c.receiver.taken <+: c.sender.wire

theorem sound_opened : Sound opened where
  sender := ⟨Nat.le_refl _, ⟨[], rfl, fun _ => rfl⟩, nofun⟩
  receiver := by
    have nothing : framing.decode [] = ([], []) := Framing.decode_of_none Framing.next_nil
    refine ⟨?_, nil_prefix, fun _ => ⟨rfl, ?_⟩, nofun⟩
    · exact congrArg Prod.snd nothing
    · change [Item.connected] = _ :: (framing.decode []).1.map _
      rw [nothing]
      rfl
  taken := nil_prefix

variable {c : Connection}

theorem Sound.sends (sound : c.Sound) {s : Sender}
    (steps : c.sender.Steps s) : Sound { c with sender := s } :=
  ⟨steps.whole, sound.receiver, sound.taken.trans steps.grows⟩

theorem Sound.read (sound : c.Sound) (count : Nat) :
    Sound { c with receiver := c.receiver.read (c.unread.take count) } := by
  refine ⟨sound.sender, sound.receiver.read _, ?_⟩
  obtain ⟨rest, eq⟩ := sound.taken
  have unread : c.unread = rest := by
    rw [Connection.unread, ← eq, drop_left]
  rw [unread, ← eq]
  exact (prefix_append_right_inj _).mpr (List.take_prefix _ _)

theorem Sound.step (sound : c.Sound) (input : Input) : Sound (c.step input) := by
  cases input with
  | send msg results => exact sound.sends (sound.sender.send msg results)
  | flushPosted results => exact sound.sends (sound.sender.flushPosted results)
  | drain results => exact sound.sends (sound.sender.drain results)
  | running now =>
    exact sound.sends ⟨{ sound.sender with }, prefix_rfl⟩
  | disconnect results => exact sound.sends (sound.sender.disconnect results)
  | read count => exact sound.read count
  | dispatch =>
    refine ⟨sound.sender, sound.receiver.dispatch, ?_⟩
    have same : c.receiver.dispatch.taken = c.receiver.taken := by
      unfold Receiver.dispatch
      split
      · rfl
      · split <;> rfl
      · split <;> rfl
    change c.receiver.dispatch.taken <+: c.sender.wire
    rw [same]
    exact sound.taken
  | ended =>
    refine ⟨sound.sender, ?_, sound.taken⟩
    exact ⟨sound.receiver.tail, sound.receiver.passed, nofun, nofun⟩

/-- In every run of a connection, the packets passed up are a prefix of those
that were accepted, and what is on the connection is a prefix of their
frames. -/
theorem passed_prefix_accepted (inputs : List Input) :
    (inputs.foldl step opened).receiver.passed <+: (inputs.foldl step opened).sender.accepted ∧
      (inputs.foldl step opened).sender.wire <+:
        ((inputs.foldl step opened).sender.accepted.map framed).flatten := by
  have sound : Sound (inputs.foldl step opened) :=
    @Run.foldl_invariant _ _ step _ Sound
      (fun _ input sound => sound.step input) inputs sound_opened
  have written := sound.sender.prefix_wire
  refine ⟨?_, written⟩
  refine sound.receiver.passed.trans (Framing.decode_prefix ?_)
  exact sound.taken.trans written

end Connection

end Decnet.Multinet
