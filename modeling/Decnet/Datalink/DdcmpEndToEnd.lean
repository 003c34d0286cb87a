import Decnet.Lib.Run
import Decnet.Datalink.DdcmpChanges

/-!
# Two DDCMP engines

Two engines joined by two channels that keep the order of the messages but may
lose any of them or damage the payload of a data message.  `Joined` is the
invariant of the pair: what one engine has acknowledged, what the other has
received and what the first has sent are in this order, every frame on the wire
was sent after all that the receiver has taken, and a running engine has no
Start before it.

A retransmitted message still carries the response number from when it was
numbered.  An engine tells such a number from a new one only while it is less
than `256 - qmax` behind.
-/

namespace Decnet.Ddcmp

open Relation Protocol Counters List

namespace Protocol

/-- What `x` sends and `y` receives. -/
structure Link (x y : Protocol) : Prop where
  behind : x.acked ≤ y.received
  ahead : y.received ≤ x.numbered
  delivered : y.delivered = x.accepted.take y.received
  fresh : ∀ frame ∈ x.out, y.received ≤ frame.sent ∧ y.acked ≤ frame.received
  begun : y.state = .running → x.Begun ∧ ∀ frame ∈ x.out, frame.message.kind ≠ .start

/-- An engine that has been started reports that it is up when it runs, and
nothing else. -/
structure Started (p : Protocol) : Prop where
  state : p.state = .istart ∨ p.state = .astart ∨ p.state = .running
  reports : p.reports = if p.state = .running then [.up] else []

structure Joined (x y : Protocol) (limits : Nat × Nat) : Prop where
  limit : x.qmax = limits.1
  peerLimit : y.qmax = limits.2
  sound : x.Sound
  peerSound : y.Sound
  started : x.Started
  peerStarted : y.Started
  link : x.Link y
  peerLink : y.Link x

variable {limits : Nat × Nat}

variable {x y p p' x' : Protocol} {limit : Nat} {frame : Frame} {message : Message}

theorem Joined.symm (joined : x.Joined y limits) : y.Joined x limits.swap :=
  ⟨joined.peerLimit, joined.limit, joined.peerSound, joined.sound,
    joined.peerStarted, joined.started, joined.peerLink, joined.link⟩

theorem Change.qmax (change : Change limit p p') : p'.qmax = p.qmax := by
  cases change <;> rfl

theorem Change.reports
    (change : Change limit p p') : p'.reports = p.reports := by
  cases change <;> rfl

theorem Change.started
    (change : Change limit p p') (started : p.Started) : p'.Started := by
  refine ⟨?_, ?_⟩
  · rw [change.state]
    exact started.state
  · rw [change.reports, change.state]
    exact started.reports

theorem Link.emit (link : x.Link y) (peer : y.Link x)
    (start : frame.message.kind = .start ↔ x.state = .istart) : (x.emit frame).Link y :=
  { link with
    fresh := by
      intro other member
      rcases mem_append.mp member with earlier | last
      · exact link.fresh other earlier
      · cases mem_singleton.mp last
        exact ⟨link.ahead, peer.behind⟩
    begun := by
      intro running
      obtain ⟨begun, none⟩ := link.begun running
      refine ⟨begun, ?_⟩
      intro other member
      rcases mem_append.mp member with earlier | last
      · exact none other earlier
      · cases mem_singleton.mp last
        exact fun kind => begun (start.mp kind) }

theorem Change.link (change : Change limit x x') (sound : x.Sound) (link : x.Link y)
    (peer : y.Link x) (acknowledged : limit ≤ y.received) : x'.Link y := by
  cases change with
  | adjust ackflag acktmr stacktmr counters timer => exact { link with }
  | control message allowed => exact link.emit peer allowed.start_iff
  | kept slot frame stored begun =>
    refine link.emit peer ?_
    rw [(sound.kept slot frame stored).data.kind]
    exact iff_of_false (by simp) begun
  | number payload rest queue room =>
    exact { link with ahead := Nat.le_succ_of_le link.ahead }
  | acknowledge unacked below =>
    exact { link with behind := Nat.le_trans below acknowledged }

theorem Change.peerLink (change : Change limit x x') (peer : y.Link x)
    (acknowledged : ∀ frame ∈ y.out, limit ≤ frame.received) : y.Link x' := by
  cases change with
  | adjust | control | kept | number => exact { peer with }
  | acknowledge unacked below =>
    refine { peer with fresh := ?_ }
    intro frame member
    exact ⟨(peer.fresh frame member).1, Nat.le_trans below (acknowledged frame member)⟩

/-- The peer acknowledges up to `limit` in what has arrived. -/
structure Acknowledged (limit : Nat) (y : Protocol) : Prop where
  received : limit ≤ y.received
  later : ∀ frame ∈ y.out, limit ≤ frame.received

theorem Joined.changes (joined : x.Joined y limits) (acknowledged : Acknowledged limit y)
    (changes : Changes limit x x') : x'.Joined y limits := by
  induction changes with
  | refl => exact joined
  | tail _ change ih =>
    exact
      { ih with
        limit := change.qmax.trans ih.limit
        sound := sound_change change ih.sound
        started := change.started ih.started
        link := change.link ih.sound ih.link ih.peerLink acknowledged.received
        peerLink := change.peerLink ih.peerLink acknowledged.later }

theorem Joined.silent (joined : x.Joined y limits)
    (changes : Changes 0 x x') : x'.Joined y limits :=
  joined.changes ⟨Nat.zero_le _, fun _ _ => Nat.zero_le _⟩ changes

theorem Sound.deliver (sound : p.Sound) (payload : Bytes) : (p.deliver payload).Sound :=
  { sound with
    r := by
      simp only [Protocol.deliver]
      rw [sound.r, ofNat_succ]
    kept := by
      intro slot frame stored
      have kept := sound.kept slot frame stored
      exact { kept with response := Nat.le_succ_of_le kept.response }
    past := by
      intro frame member
      obtain ⟨sent, received⟩ := sound.past frame member
      exact ⟨sent, Nat.le_succ_of_le received⟩ }

theorem Joined.deliver (joined : x.Joined y limits)
    {payload : Bytes} (present : y.accepted[x.received]? = some payload)
    (numbered : x.received < y.numbered) (later : ∀ frame ∈ y.out, x.received < frame.sent) :
    (x.deliver payload).Joined y limits :=
  { joined with
    sound := joined.sound.deliver payload
    started := { joined.started with }
    link := { joined.link with }
    peerLink :=
      { joined.peerLink with
        behind := Nat.le_succ_of_le joined.peerLink.behind
        ahead := numbered
        delivered := by
          simp only [Protocol.deliver]
          rw [take_add_one, present, joined.peerLink.delivered]
          rfl
        fresh := fun frame member =>
          ⟨later frame member, (joined.peerLink.fresh frame member).2⟩ } }

theorem Sound.enqueue (sound : p.Sound) (payload : Bytes) : (p.enqueue payload).Sound :=
  { sound with
    accepted := by
      obtain ⟨taken, length, accepted⟩ := sound.accepted
      refine ⟨taken, length, ?_⟩
      simp only [Protocol.enqueue]
      rw [accepted, append_assoc]
    kept := by
      intro slot frame stored
      have kept := sound.kept slot frame stored
      exact { kept with data := kept.data.append [payload] }
    wire := fun frame member => (sound.wire frame member).append [payload] }

theorem Joined.enqueue (joined : x.Joined y limits)
    (payload : Bytes) : (x.enqueue payload).Joined y limits :=
  { joined with
    sound := joined.sound.enqueue payload
    started := { joined.started with }
    link :=
      { joined.link with
        delivered := by
          have short : y.received ≤ x.accepted.length :=
            Nat.le_trans joined.link.ahead joined.sound.numbered_le
          simp only [Protocol.enqueue]
          rw [take_append_of_le_length short, joined.link.delivered] }
    peerLink := { joined.peerLink with } }

theorem Joined.send (joined : x.Joined y limits)
    (payload : Bytes) : (x.send payload).Joined y limits := by
  unfold Protocol.send
  split
  · rename_i running
    have begun : (x.enqueue payload).Begun := by
      simp [Begun, Protocol.enqueue, running]
    exact (joined.enqueue payload).silent (changes_sendQueuedLoop false rfl begun)
  · exact joined

theorem Sound.withState (sound : p.Sound) {state : LinkState}
    (begun : state ≠ .istart) : (p.withState state).Sound :=
  { sound with starting := fun starting => absurd starting begun }

theorem Joined.answer (joined : x.Joined y limits)
    (starting : x.state = .istart) : (x.withState .astart).Joined y limits := by
  have reports : x.reports = [] := by
    have reports := joined.started.reports
    simpa [starting] using reports
  exact
    { joined with
      sound := joined.sound.withState (by simp)
      started := ⟨.inr (.inl rfl), reports⟩
      link :=
        { joined.link with
          begun := fun running => ⟨by simp [Begun, withState], (joined.link.begun running).2⟩ }
      peerLink := { joined.peerLink with begun := fun running => by cases running } }

theorem Joined.enterRunning (joined : x.Joined y limits)
    (waiting : x.state ≠ .running) (begun : y.Begun)
    (none : ∀ frame ∈ y.out, frame.message.kind ≠ .start) (ack : Bool) :
    (x.enterRunning ack).Joined y limits := by
  have reports : x.reports = [] := by
    have reports := joined.started.reports
    simpa [waiting] using reports
  let running := ((x.withState .running).setTimer 0).report .up
  have begins : running.Begun := by
    intro starting
    cases starting
  have sound : (x.withState .running).Sound := joined.sound.withState (by simp)
  have joins : running.Joined y limits :=
    { joined with
      sound := { sound with }
      started := ⟨.inr (.inr rfl), by
        simp [running, report, setTimer, withState, reports]⟩
      link :=
        { joined.link with
          begun := fun other => ⟨begins, (joined.link.begun other).2⟩ }
      peerLink := { joined.peerLink with begun := fun _ => ⟨begun, none⟩ } }
  unfold Protocol.enterRunning
  split
  · exact joins.silent (changes_sendMsg 0 (.ack begins))
  · exact joins

def dequeue (rest : List Frame) (p : Protocol) : Protocol :=
  { p with out := rest }

/-- A frame of `y` that has just been taken off the wire to `x`. -/
structure Arrived (frame : Frame) (x y : Protocol) : Prop where
  wire : OnWire y.accepted y.qmax frame
  past : frame.sent ≤ y.numbered ∧ frame.received ≤ y.received
  fresh : x.received ≤ frame.sent ∧ x.acked ≤ frame.received
  order : ∀ later ∈ y.out, Before frame later
  starting : y.state = .istart → frame.message.kind = .start
  begun : x.state = .running → frame.message.kind ≠ .start

theorem Joined.dequeue (joined : x.Joined y limits)
    {rest : List Frame} (out : y.out = frame :: rest) : x.Joined (y.dequeue rest) limits := by
  have subset : ∀ other ∈ rest, other ∈ y.out := by
    intro other member
    rw [out]
    exact mem_cons_of_mem frame member
  have order := joined.peerSound.order
  rw [out] at order
  exact
    { joined with
      peerSound :=
        { joined.peerSound with
          wire := fun other member => joined.peerSound.wire other (subset other member)
          past := fun other member => joined.peerSound.past other (subset other member)
          order := (pairwise_cons.mp order).2
          starting := fun state other member =>
            joined.peerSound.starting state other (subset other member) }
      peerStarted := { joined.peerStarted with }
      link := { joined.link with }
      peerLink :=
        { joined.peerLink with
          fresh := fun other member => joined.peerLink.fresh other (subset other member)
          begun := fun running =>
            ⟨(joined.peerLink.begun running).1, fun other member =>
              (joined.peerLink.begun running).2 other (subset other member)⟩ } }

theorem Joined.arrived (joined : x.Joined y limits)
    {rest : List Frame} (out : y.out = frame :: rest) : Arrived frame x (y.dequeue rest) := by
  have member : frame ∈ y.out := by
    rw [out]
    exact mem_cons_self
  have order := joined.peerSound.order
  rw [out] at order
  exact
    { wire := joined.peerSound.wire frame member
      past := joined.peerSound.past frame member
      fresh := joined.peerLink.fresh frame member
      order := (pairwise_cons.mp order).1
      starting := fun state => joined.peerSound.starting state frame member
      begun := fun running => (joined.peerLink.begun running).2 frame member }

theorem Arrived.acknowledged
    (arrived : Arrived frame x y) : Acknowledged frame.received y :=
  ⟨arrived.past.2, fun later member => (arrived.order later member).received⟩

theorem Arrived.none_start (arrived : Arrived frame x y) (other : frame.message.kind ≠ .start) :
    y.Begun ∧ ∀ later ∈ y.out, later.message.kind ≠ .start :=
  ⟨fun state => other (arrived.starting state),
    fun later member kind => other ((arrived.order later member).start kind)⟩

theorem Arrived.not_maintenance
    (arrived : Arrived frame x y) : frame.message.kind ≠ .maintenance := by
  cases arrived.wire with
  | data data numbered window response => simp [data.kind]
  | reply kind resp => rcases kind with kind | kind <;> simp [kind]
  | other kind => rcases kind with kind | kind | kind <;> simp [kind]

/-- The response number of a data message is told from a new one: it is less
than `256 - qmax` behind what has been acknowledged. -/
def Recent (frame : Frame) (x : Protocol) : Prop :=
  frame.message.kind = .data → x.acked + x.qmax < frame.response + 256

theorem Arrived.response (arrived : Arrived frame x y) (recent : Recent frame x)
    (sets : frame.message.setsResp = true) :
    ∃ response, frame.message.resp = UInt8.ofNat response ∧ response ≤ frame.received ∧
      (x.acked ≤ response ∨ x.acked + x.qmax < response + 256) := by
  cases arrived.wire with
  | data data numbered window response =>
    have kind := data.kind
    obtain ⟨_, payload, _, message⟩ := data
    refine ⟨frame.response, ?_, response, .inr (recent kind)⟩
    rw [message]
    rfl
  | reply kind resp =>
    exact ⟨frame.received, resp, Nat.le_refl _, .inl arrived.fresh.2⟩
  | other kind =>
    rcases kind with kind | kind | kind <;> simp [Message.setsResp, kind] at sets

section

variable (sound : x.Sound) {response : Nat} (resp : message.resp = UInt8.ofNat response)
  (sent : response ≤ x.numbered)

include sound resp sent

/-- An acknowledgement is either rejected or counts what it says. -/
theorem Sound.stale_or (recent : x.acked ≤ response ∨ x.acked + x.qmax < response + 256) :
    x.stale message = true ∨ x.acked + distance x.a message.resp = response := by
  have small := sound.small
  have window := sound.window
  by_cases behind : x.acked ≤ response
  · right
    rw [sound.a, resp, distance_forward behind (by omega)]
    omega
  · left
    rw [stale, sound.pending, sound.a, resp, distance_backward (by omega) (by omega)]
    simp only [decide_eq_true_eq]
    omega

theorem changes_processAck (below : response ≤ limit)
    (recent : x.acked ≤ response ∨ x.acked + x.qmax < response + 256) (begun : x.Begun) :
    Changes limit x (x.processAck message) := by
  unfold processAck
  split
  · exact .refl
  · rename_i current
    rcases sound.stale_or resp sent recent with rejected | counted
    · exact absurd rejected current
    · refine changes_takeAck ?_ ?_ begun
      · rw [counted]
        exact sent
      · rw [counted]
        exact below

theorem changes_receiveNak (below : response ≤ limit)
    (recent : x.acked ≤ response ∨ x.acked + x.qmax < response + 256) (begun : x.Begun) :
    Changes limit x (x.receiveNak message) := by
  have counts : Changes limit x (x.count (nakReceived message.subtype)) := changes_count _ x
  unfold receiveNak
  dsimp only
  split
  · exact counts
  · rename_i current
    rcases sound.stale_or resp sent recent with rejected | counted
    · exact absurd rejected current
    · have taken : Changes limit (x.count (nakReceived message.subtype))
          ((x.count (nakReceived message.subtype)).takeAck message) := by
        refine changes_takeAck ?_ ?_ begun
        · exact Nat.le_trans (Nat.le_of_eq counted) sent
        · exact Nat.le_trans (Nat.le_of_eq counted) below
      exact (counts.trans taken).trans (changes_retransmitLoop _ _ (changes_begun taken begun))

end

theorem changes_received
    (changes : Changes limit p p') : p'.r = p.r ∧ p'.received = p.received := by
  induction changes with
  | refl => exact ⟨rfl, rfl⟩
  | tail _ last ih =>
    cases last with
    | adjust | control | kept | number | acknowledge => exact ih

section

variable (joined : x.Joined y limits)

include joined

/-- The acknowledgement in a frame changes the engine in the limits of what the
peer has received. -/
theorem Joined.changes_ack (arrived : Arrived frame x y)
    (recent : Recent frame x) (sets : frame.message.setsResp = true) (begun : x.Begun) :
    Changes frame.received x (x.processAck frame.message) ∧
      Changes frame.received x (x.receiveNak frame.message) := by
  obtain ⟨response, resp, below, near⟩ := arrived.response recent sets
  have sent : response ≤ x.numbered :=
    Nat.le_trans (Nat.le_trans below arrived.past.2) joined.link.ahead
  exact ⟨changes_processAck joined.sound resp sent below near begun,
    changes_receiveNak joined.sound resp sent below near begun⟩

/-- A data message has the next number only if it carries the next payload. -/
theorem Joined.receiveData (arrived : Arrived frame x y)
    (recent : Recent frame x) (kind : frame.message.kind = .data) (begun : x.Begun) :
    (x.receiveData frame.message).Joined y limits ∧ (x.receiveData frame.message).Begun := by
  have sets : frame.message.setsResp = true := by
    simp [Message.setsResp, kind]
  obtain ⟨changes, _⟩ := joined.changes_ack arrived recent sets begun
  have acked := joined.changes arrived.acknowledged changes
  have same := changes_received changes
  have still := changes_begun changes begun
  unfold Protocol.receiveData
  dsimp only
  split
  · rename_i next
    cases arrived.wire with
    | data data numbered window response =>
      obtain ⟨positive, payload, present, message⟩ := data
      have number : frame.number = x.received + 1 := by
        have small := joined.peerSound.small
        have ahead := joined.peerSound.window
        have behind := joined.peerLink.behind
        have fresh := arrived.fresh.1
        have past := arrived.past.1
        apply ofNat_near
        · rw [← ofNat_succ, ← joined.sound.r, ← same.1, ← next, message]
          rfl
        · omega
        · omega
      have body : frame.message.payload = payload := by
        rw [message]
        rfl
      rw [body]
      refine ⟨acked.deliver ?_ ?_ ?_, still⟩
      · rw [same.2]
        rw [number] at present
        exact present
      · have past := arrived.past.1
        omega
      · intro later member
        have order := (arrived.order later member).sent
        omega
    | reply reply resp =>
      rw [kind] at reply
      rcases reply with reply | reply <;> cases reply
    | other other =>
      rw [kind] at other
      rcases other with other | other | other <;> cases other
  · exact ⟨acked, still⟩

theorem Joined.flushAck (begun : x.Begun) : x.flushAck.Joined y limits :=
  joined.silent (changes_flushAck begun)

theorem Joined.receiveRunning (arrived : Arrived frame x y)
    (recent : Recent frame x) (running : x.state = .running) :
    (x.receiveRunning frame.message).Joined y limits := by
  have begun : x.Begun := by simp [Begun, running]
  have flushed {x' : Protocol} (changes : Changes frame.received x x') :
      x'.flushAck.Joined y limits :=
    (joined.changes arrived.acknowledged changes).flushAck (changes_begun changes begun)
  unfold Protocol.receiveRunning
  split
  · rename_i kind
    obtain ⟨received, still⟩ := joined.receiveData arrived recent kind begun
    exact received.flushAck still
  · rename_i kind
    have sets : frame.message.setsResp = true := by
      simp [Message.setsResp, kind]
    exact flushed (joined.changes_ack arrived recent sets begun).1
  · rename_i kind
    have sets : frame.message.setsResp = true := by
      simp [Message.setsResp, kind]
    exact flushed (joined.changes_ack arrived recent sets begun).2
  · exact flushed (changes_receiveRep frame.message begun)
  · rename_i kind
    exact absurd kind arrived.not_maintenance
  · rename_i kind
    exact absurd kind (arrived.begun running)
  · exact flushed (changes_raiseAckflag x)

end

theorem withState_sendStarting (state : LinkState) (message : Message) (p : Protocol) :
    (p.sendStarting message).withState state = (p.withState state).sendStarting message := by
  simp only [sendStarting, sendMsg, sendFrame]
  split
  · rename_i armed
    rw [if_pos (by exact armed)]
    rfl
  · rename_i unarmed
    rw [if_neg (by exact unarmed)]
    rfl

section

variable (joined : x.Joined y limits)

include joined

theorem Joined.receiveIstart (arrived : Arrived frame x y) (starting : x.state = .istart) :
    (x.receiveIstart frame.message).Joined y limits := by
  unfold Protocol.receiveIstart
  split
  · have answered := joined.answer starting
    have reset : Changes 0 (x.withState .astart) (x.withState .astart).resetStacktmr :=
      changes_stacktmr _ _
    rw [withState_sendStarting]
    refine answered.silent (reset.trans (changes_sendStarting ?_))
    intro stacktmr
    refine .stack ?_
    simp [Begun, withState, resetStacktmr]
  · rename_i kind
    obtain ⟨begun, none⟩ := arrived.none_start (by simp [kind])
    exact joined.enterRunning (by simp [starting]) begun none true
  · rename_i kind
    exact absurd kind arrived.not_maintenance
  · exact joined

section

variable (arrived : Arrived frame x y) (recent : Recent frame x)

include arrived recent

theorem Joined.follow (answered : x.state = .astart) (other : frame.message.kind ≠ .start) :
    (x.follow frame.message).Joined y limits := by
  unfold Protocol.follow
  split
  · obtain ⟨begun, none⟩ := arrived.none_start other
    have running := joined.enterRunning (by simp [answered]) begun none false
    refine running.receiveRunning ?_ recent rfl
    exact { arrived with begun := fun _ => other }
  · exact joined

theorem Joined.receiveAstart (answered : x.state = .astart) :
    (x.receiveAstart frame.message).Joined y limits := by
  unfold Protocol.receiveAstart
  split
  · refine joined.silent (changes_sendStarting ?_)
    intro stacktmr
    refine .stack ?_
    simp [Begun, answered]
  · rename_i kind
    obtain ⟨begun, none⟩ := arrived.none_start (by simp [kind])
    exact joined.enterRunning (by simp [answered]) begun none true
  · rename_i kind
    exact absurd kind arrived.not_maintenance
  · rename_i kind
    exact joined.follow arrived recent answered (by simp [kind])
  · rename_i kind
    exact joined.follow arrived recent answered (by simp [kind])
  · exact joined

theorem Joined.receive : (x.receive frame.message).Joined y limits := by
  unfold Protocol.receive
  rcases joined.started.state with state | state | state
  · rw [state]
    exact joined.receiveIstart arrived state
  · rw [state]
    exact joined.receiveAstart arrived recent state
  · rw [state]
    exact joined.receiveRunning arrived recent state

theorem Joined.receiveError (reason : UInt8) :
    (x.receiveError reason (some frame.message)).Joined y limits := by
  unfold Protocol.receiveError
  split
  · rename_i running
    have begun : x.Begun := by simp [Begun, running]
    have counted : (x.count (errorReceived reason)).Joined y limits :=
      joined.silent (changes_count _ x)
    have acked : Changes frame.received (x.count (errorReceived reason))
        (if frame.message.setsResp then
          (x.count (errorReceived reason)).processAck frame.message
        else
          x.count (errorReceived reason)) := by
      split
      · rename_i sets
        exact (counted.changes_ack { arrived with } recent sets begun).1
      · exact .refl
    have still := changes_begun acked begun
    exact (counted.changes arrived.acknowledged acked).silent
      (changes_sendMsg 0 (.nak still reason))
  · exact joined

end

theorem Joined.timeout : x.timeout.Joined y limits := by
  unfold Protocol.timeout
  rcases joined.started.state with state | state | state
  · rw [state]
    refine joined.silent (changes_sendStarting ?_)
    exact fun stacktmr => .start state
  · rw [state]
    refine joined.silent (changes_sendStarting ?_)
    intro stacktmr
    refine .stack ?_
    simp [Begun, state]
  · rw [state]
    have begun : x.Begun := by simp [Begun, state]
    have waited : Changes 0 x { x.count repSent with acktmr := x.acktmr.next.2 } :=
      (changes_count _ x).trans (changes_acktmr _ _)
    exact joined.silent (waited.trans (changes_sendMsg _ (.rep (changes_begun waited begun))))

end

end Protocol

inductive Side where
  | left | right
  deriving DecidableEq, Repr

def Side.other : Side → Side
  | .left => .right
  | .right => .left

/-- Two engines, each with what it has put on the wire to the other. -/
abbrev Pair := Side → Protocol

namespace Pair

def place (side : Side) (here there : Protocol) : Pair :=
  fun current => if current = side then here else there

inductive Input where
  | send (side : Side) (payload : Bytes)
  | arrive (side : Side)
  | lose (side : Side)
  | damage (side : Side)
  | expire (side : Side)
  deriving DecidableEq, Repr

def take (side : Side) (receive : Message → Protocol → Protocol) (pair : Pair) : Pair :=
  match (pair side.other).out with
  | [] => pair
  | frame :: rest =>
    place side (receive frame.message (pair side)) ((pair side.other).dequeue rest)

/-- A data message whose payload is damaged on the way. -/
def damaged (message : Message) (p : Protocol) : Protocol :=
  if message.kind = .data then p.receiveError reasonCrc (some message) else p.receive message

def step (pair : Pair) : Input → Pair
  | .send side payload =>
    place side ((pair side).send payload) (pair side.other)
  | .arrive side => pair.take side Protocol.receive
  | .lose side => pair.take side (fun _ p => p)
  | .damage side => pair.take side damaged
  | .expire side =>
    if (pair side).timer.isSome then
      place side (Protocol.timeout { pair side with timer := none }) (pair side.other)
    else
      pair

def start (qmax : Side → Nat) : Pair :=
  fun side => (Protocol.create (qmax side)).connected

def reach (qmax : Side → Nat) (inputs : List Input) : Pair :=
  inputs.foldl step (start qmax)

/-- No data message arrives with a response number that is `256 - qmax` or more
behind what its receiver has been acknowledged. -/
def Recent (pair : Pair) : Input → Prop
  | .arrive side =>
    ∀ frame ∈ (pair side.other).out.head?, Protocol.Recent frame (pair side)
  | .damage side =>
    ∀ frame ∈ (pair side.other).out.head?, Protocol.Recent frame (pair side)
  | _ => True

instance (frame : Frame) (p : Protocol) : Decidable (Protocol.Recent frame p) :=
  inferInstanceAs (Decidable (_ → _))

instance (pair : Pair) : DecidablePred pair.Recent
  | .send _ _ => .isTrue trivial
  | .arrive _ => inferInstanceAs (Decidable (∀ _ ∈ _, _))
  | .lose _ => .isTrue trivial
  | .damage _ => inferInstanceAs (Decidable (∀ _ ∈ _, _))
  | .expire _ => .isTrue trivial

def AllJoined (qmax : Side → Nat) (pair : Pair) : Prop :=
  ∀ side, (pair side).Joined (pair side.other) (qmax side, qmax side.other)

theorem allJoined_place {qmax : Side → Nat} {side : Side} {here there : Protocol}
    (joined : here.Joined there (qmax side, qmax side.other)) :
    AllJoined qmax (place side here there) := by
  intro current
  cases side <;> cases current
  · exact joined
  · exact joined.symm
  · exact joined.symm
  · exact joined

theorem allJoined_take {qmax : Side → Nat} {pair : Pair} {side : Side}
    {receive : Message → Protocol → Protocol} (joined : AllJoined qmax pair)
    (received : ∀ frame ∈ (pair side.other).out.head?, ∀ there,
      (pair side).Joined there (qmax side, qmax side.other) → Arrived frame (pair side) there →
          (receive frame.message (pair side)).Joined there (qmax side, qmax side.other)) :
    AllJoined qmax (pair.take side receive) := by
  unfold take
  split
  · exact joined
  · rename_i frame rest out
    apply allJoined_place
    refine received frame ?_ _ ((joined side).dequeue out) ((joined side).arrived out)
    rw [out]
    rfl

theorem allJoined_step {qmax : Side → Nat} (pair : Pair) (input : Input)
    (joined : AllJoined qmax pair) (recent : pair.Recent input) :
    AllJoined qmax (pair.step input) := by
  cases input with
  | send side payload => exact allJoined_place ((joined side).send payload)
  | arrive side =>
    apply allJoined_take joined
    intro frame head there joins arrived
    exact joins.receive arrived (recent frame head)
  | lose side =>
    change AllJoined qmax (pair.take side (fun _ p => p))
    apply allJoined_take joined
    intro frame head there joins arrived
    exact joins
  | damage side =>
    apply allJoined_take joined
    intro frame head there joins arrived
    unfold damaged
    split
    · exact joins.receiveError arrived (recent frame head) reasonCrc
    · exact joins.receive arrived (recent frame head)
  | expire side =>
    unfold step
    dsimp only
    split
    · apply allJoined_place
      have stopped : Changes 0 (pair side) { pair side with timer := none } :=
        changes_setTimer 0 (pair side)
      exact ((joined side).silent stopped).timeout
    · exact joined

theorem joined_start {here there : Nat} (positive : 0 < here)
    (small : here ≤ 255) (peerPositive : 0 < there) (peerSmall : there ≤ 255) :
    (create here).connected.Joined (create there).connected (here, there) := by
  have limit {qmax : Nat} (positive : 0 < qmax) : (create qmax).qmax = qmax :=
    if_neg (Nat.pos_iff_ne_zero.mp positive)
  have sound {qmax : Nat} (positive : 0 < qmax) (small : qmax ≤ 255) :
      (create qmax).connected.Sound := by
    exact
      { small := Nat.le_trans (Nat.le_of_eq (limit positive)) small
        r := rfl
        a := rfl
        n := rfl
        ordered := Nat.le_refl _
        window := Nat.zero_le _
        accepted := ⟨[], rfl, rfl⟩
        kept := fun slot frame stored => by cases stored
        wire := fun frame member => by
          cases mem_singleton.mp member
          exact .other (.inr (.inr rfl))
        past := fun frame member => by
          cases mem_singleton.mp member
          exact ⟨Nat.le_refl _, Nat.le_refl _⟩
        order := pairwise_singleton _ _
        starting := fun _ frame member => by
          cases mem_singleton.mp member
          rfl }
  have started (qmax : Nat) : (create qmax).connected.Started := ⟨.inl rfl, rfl⟩
  have link (here there : Nat) :
      (create here).connected.Link (create there).connected :=
    ⟨Nat.le_refl _, Nat.le_refl _, rfl, fun _ _ => ⟨Nat.zero_le _,
      Nat.zero_le _⟩, fun running => by cases running⟩
  exact ⟨limit positive, limit peerPositive, sound positive small,
    sound peerPositive peerSmall, started here, started there, link here there, link there here⟩

/-- In every run of two engines in which no data message arrives with a response
number that is `256 - qmax` or more behind: what one engine has delivered is a
prefix of what the other has accepted, each reports at most that it is up, and
the numbers of the engines are counts of which the acknowledged one is at most
the received one, that at most the sent one, and that at most `qmax` more than
the first. -/
theorem engines_agree (qmax : Side → Nat)
    (positive : ∀ side, 0 < qmax side) (small : ∀ side, qmax side ≤ 255) (inputs : List Input)
    (recent : Run.Guarded step Recent (start qmax) inputs) (side : Side) :
    (reach qmax inputs side.other).delivered <+: (reach qmax inputs side).accepted ∧
      ((reach qmax inputs side).reports = [] ∨ (reach qmax inputs side).reports = [.up]) ∧
      (reach qmax inputs side).acked ≤ (reach qmax inputs side.other).received ∧
      (reach qmax inputs side.other).received ≤ (reach qmax inputs side).numbered ∧
      (reach qmax inputs side).numbered ≤ (reach qmax inputs side).acked + qmax side ∧
      (reach qmax inputs side).a = UInt8.ofNat (reach qmax inputs side).acked ∧
      (reach qmax inputs side.other).r = UInt8.ofNat (reach qmax inputs side.other).received ∧
      (reach qmax inputs side).n = UInt8.ofNat (reach qmax inputs side).numbered := by
  have begun : AllJoined qmax (start qmax) :=
    fun side => joined_start (positive side) (small side) (positive side.other) (small side.other)
  have joined : AllJoined qmax (reach qmax inputs) :=
    recent.invariant (fun pair input => allJoined_step pair input) begun
  obtain ⟨limit, _, sound, peerSound, started, _, link, _⟩ := joined side
  refine ⟨?_, ?_, link.behind, link.ahead, ?_, sound.a, peerSound.r, sound.n⟩
  · rw [link.delivered]
    exact take_prefix _ _
  · rw [started.reports]
    split
    · exact .inr rfl
    · exact .inl rfl
  · rw [← show (reach qmax inputs side).qmax = qmax side from limit]
    exact sound.window

/-- Start, start acknowledgement and acknowledgement in both directions. -/
def handshake : List Input :=
  [.arrive .left, .arrive .right, .arrive .left, .arrive .right, .arrive .left, .arrive .right]

theorem engines_agree_damaged :
    (reach (fun _ => 7) (handshake ++ [.send .left [1], .damage .right,
      .arrive .left, .arrive .right]) .right).delivered = [[1]] ∧
    (reach (fun _ => 7) (handshake ++ [.send .left [1], .damage .right,
      .arrive .left, .arrive .right]) .right).delivered <+:
      (reach (fun _ => 7) (handshake ++ [.send .left [1], .damage .right,
        .arrive .left, .arrive .right]) .left).accepted :=
  ⟨by decide +kernel, (engines_agree (fun _ => 7) (fun _ => by decide) (fun _ => by decide) _
      (by decide +kernel) .left).1⟩

/-- The first message of the right engine is lost.  The left one sends one that
is acknowledged and fills its window with 255 others, which are lost.  Asked
for its first message, the right engine sends it again as it was. -/
def staleResponse : List Input :=
  handshake ++ [.send .right [0], .lose .left, .send .left [1], .arrive .right, .arrive .left] ++
    List.replicate 255 (.send .left [2]) ++ List.replicate 255 (.lose .right) ++
    [.expire .right, .arrive .left, .arrive .right, .arrive .left]

/-- The left engine takes all that it has sent for acknowledged, of which the
right one has received one message. -/
theorem stale_response_acknowledges :
    (reach (fun _ => 255) staleResponse .left).acked = 256 ∧
      (reach (fun _ => 255) staleResponse .right).received = 1 := by
  decide +kernel

end Pair

end Decnet.Ddcmp
