import Decnet.Nsp.QueueShape

/-!
# What an acknowledgement removes

An acknowledgement is cumulative, but the numbers it is compared with are only
ordered within half of the number space.  The oldest entry compares as later
than a number more than half ahead of it, so with more than 2049 segments in
flight an acknowledgement of the newest removes nothing.

The acknowledgement fields of other packets have the effect of a bare
acknowledgement, but those of an interrupt are not looked at.
-/

namespace Decnet.Nsp

namespace Connection

variable {c : Connection} {start acked : Nat} {sent waiting : List TxEntry}

/-- The entries that are sent are the first of the queue, at most `qmax`, and
have the numbers after `start`. -/
structure Flight (start : Nat) (sent waiting : List TxEntry) (c : Connection) : Prop where
  queue : c.txq = sent ++ waiting
  numbered : Numbered (fun number e => e.sent = true ∧ e.seq = Mod.wrap number) (start + 1) sent
  unsent : ∀ e ∈ waiting, e.sent = false
  fits : sent.length ≤ c.qmax

theorem processAck_unmarked (num : Seq) (c : Connection) :
    (c.processAck num).txq.map TxEntry.unmarked =
      (c.txq.dropWhile (acknowledges num)).map TxEntry.unmarked := by
  obtain ⟨_, _, _, _, _, _, same⟩ := processAck_eq num c
  rw [same]
  exact sendBlocked_unmarked _

/-- Within half of the numbers the entries up to the acknowledged one go. -/
theorem dropWhile_flight
    (numbered : Numbered (fun number e => e.sent = true ∧
      e.seq = Mod.wrap number) (start + 1) sent)
    (unsent : ∀ e ∈ waiting, e.sent = false) (upTo : acked ≤ sent.length) (near : acked ≤ 2049) :
    (sent ++ waiting).dropWhile (acknowledges (Mod.wrap (start + acked))) =
      sent.drop acked ++ waiting := by
  induction sent generalizing start acked with
  | nil =>
    cases waiting with
    | nil => simp
    | cons e rest => simp [acknowledges, unsent e List.mem_cons_self]
  | cons e rest ih =>
    obtain ⟨⟨isSent, seq⟩, later⟩ := numbered
    cases acked with
    | zero =>
      have after : (Mod.wrap start : Seq).less e.seq = true :=
        seq ▸ Mod.less_wrap (by omega) (by omega)
      simp [acknowledges, after]
    | succ acked =>
      have reached : (Mod.wrap (start + (acked + 1)) : Seq).less e.seq = false :=
        seq ▸ Mod.not_less_wrap (by omega) (by omega)
      have others := ih later (Nat.le_of_succ_le_succ upTo) (by omega)
      rw [Nat.add_right_comm start 1 acked] at others
      rw [List.cons_append, List.dropWhile_cons_of_pos (by simp [acknowledges, isSent, reached])]
      exact others

/-- Beyond it the oldest entry compares as later, and nothing goes. -/
theorem Flight.stuck (flight : c.Flight start sent waiting)
    (inRange : c.qmax ≤ 4095) (upTo : acked ≤ sent.length) (far : 2049 < acked) :
    c.txq.dropWhile (acknowledges (Mod.wrap (start + acked))) = c.txq := by
  obtain ⟨queue, numbered, _, fits⟩ := flight
  cases sent with
  | nil => exact absurd upTo (by simp; omega)
  | cons e rest =>
    have around : e.seq = Mod.wrap (start + 1 + 4096) :=
      numbered.1.2.trans ((Mod.wrap_eq_wrap_iff _ _).2 (by omega))
    have after : (Mod.wrap (start + acked) : Seq).less e.seq = true := by
      rw [around]
      exact Mod.less_wrap (by omega) (by omega)
    rw [queue, List.cons_append, List.dropWhile_cons_of_neg (by simp [acknowledges, after])]

/-- An acknowledgement of one of the entries in flight, or of the number before
them, removes exactly the entries up to it if they are at most 2049. -/
theorem processAck_exact_iff (inRange : 1 ≤ c.qmax ∧ c.qmax ≤ 4095)
    (flight : c.Flight start sent waiting) (upTo : acked ≤ sent.length) :
    (c.processAck (Mod.wrap (start + acked))).txq.map TxEntry.unmarked =
      (sent.drop acked ++ waiting).map TxEntry.unmarked ↔ acked ≤ 2049 := by
  rw [processAck_unmarked]
  constructor
  · intro exact'
    by_contra far
    rw [flight.stuck inRange.2 upTo (Nat.not_le.1 far), flight.queue] at exact'
    have lengths := congrArg List.length exact'
    simp only [List.length_map, List.length_append, List.length_drop] at lengths
    omega
  · intro near
    rw [flight.queue, dropWhile_flight flight.numbered flight.unsent upTo near]

def flyingEntry (number : Nat) : TxEntry where
  seq := Mod.wrap number
  segnum := number
  msgnum := number
  frame := ⟨.dataSeg ⟨⟨7, 1, none, none⟩, Mod.wrap number, false, true, true, []⟩, number, 0⟩
  sent := true
  isData := true
  timed := false

def flying (count : Nat) : Connection :=
  { create ⟨1, 4095, 5, 4, 60⟩ 1 1025 with
    state := .run
    txq := (List.range' 1 count).map flyingEntry }

theorem numbered_flying (first count : Nat) :
    Numbered (fun number e => e.sent = true ∧ e.seq = Mod.wrap number) first
      ((List.range' first count).map flyingEntry) := by
  induction count generalizing first with
  | zero => trivial
  | succ count ih => exact ⟨⟨rfl, rfl⟩, ih (first + 1)⟩

theorem flight_flying {count : Nat} (fits : count ≤ 4095) :
    (flying count).Flight 0 (flying count).txq [] where
  queue := (List.append_nil _).symm
  numbered := numbered_flying 1 count
  unsent := by simp
  fits := by simpa [flying, create] using fits

theorem processAck_exact_flying :
    ((flying 3).processAck (Mod.wrap (0 + 2))).txq.map TxEntry.unmarked =
      ((flying 3).txq.drop 2 ++ []).map TxEntry.unmarked := by
  have flight : (flying 3).Flight 0 (flying 3).txq [] := flight_flying (by decide)
  have upTo : 2 ≤ (flying 3).txq.length := by decide
  exact (processAck_exact_iff (by decide) flight upTo).2 (by decide)

/-- With 2050 segments in flight an acknowledgement of the last removes
nothing. -/
theorem newest_acknowledged_none_removed :
    (flying 2050).Flight 0 (flying 2050).txq [] ∧ (flying 2050).qmax = 4095 ∧
      (flying 2050).txq.length = 2050 ∧
      ((flying 2050).processAck (Mod.wrap 2050)).txq.map TxEntry.unmarked =
        (flying 2050).txq.map TxEntry.unmarked := by
  have flight : (flying 2050).Flight 0 (flying 2050).txq [] := flight_flying (by decide)
  have length : (flying 2050).txq.length = 2050 := by simp [flying]
  refine ⟨flight, rfl, length, ?_⟩
  have stuck := flight.stuck (Nat.le_refl 4095) (Nat.le_of_eq length.symm) (by decide)
  rw [processAck_unmarked, stuck]


/-! ## Acknowledgements that a packet carries -/

/-- The inactivity timer runs, unless the timer is the retransmit timer. -/
def Alive (c : Connection) : Prop :=
  c.cphase > 2 → c.timerIsRetransmit = false → c.timer = true

theorem alive_touch (c : Connection) : c.touch.Alive := by
  unfold touch
  split
  · exact fun _ _ => rfl
  · rename_i other
    intro phase kind
    simp [phase, kind] at other

theorem Alive.touch (alive : c.Alive) : c.touch = c := by
  unfold Connection.touch
  split
  · rename_i both
    have timer : c.timer = true := by
      simp only [Bool.and_eq_true, decide_eq_true_eq, Bool.not_eq_true'] at both
      exact alive both.1 both.2
    rw [← timer]
  · rfl

theorem Alive.sendBlocked (alive : c.Alive) : c.sendBlocked.Alive := by
  unfold Connection.sendBlocked
  dsimp only
  split
  · exact alive
  · exact fun _ kind => nomatch kind

theorem Alive.processAck (alive : c.Alive) (num : Seq) : (c.processAck num).Alive := by
  unfold Connection.processAck
  dsimp only
  apply Alive.sendBlocked
  split
  · split
    · exact fun _ kind => nomatch kind
    · split
      · rename_i retransmit
        exact fun _ kind => nomatch retransmit.symm.trans kind
      · exact alive
  · split
    · rename_i stops
      simp only [Bool.and_eq_true] at stops
      exact fun _ kind => nomatch stops.2.symm.trans kind
    · exact alive

theorem Alive.routeAck (alive : c.Alive) (ack : Option AckNum)
    (onData : Bool) : (c.routeAck ack onData).Alive := by
  generalize after : c.routeAck ack onData = c'
  cases after ▸ routed ack onData c with
  | none | other => exact alive
  | data field => exact alive.processAck field.num
  | nak field =>
    have acked := alive.processAck field.num
    rcases processNak_cases (c.processAck field.num) with
      same | ⟨_, _, _, same⟩
    · rw [same]
      exact acked
    · rw [same]
      exact Alive.sendBlocked acked

def Spent (c : Connection) : Prop :=
  c.txq = [] ∨ c.intTxq = []

theorem intTxq_sendBlocked (c : Connection) : c.sendBlocked.intTxq = c.intTxq := by
  unfold sendBlocked
  dsimp only
  split <;> rfl

theorem intTxq_processAck (num : Seq) (c : Connection) : (c.processAck num).intTxq = c.intTxq := by
  obtain ⟨_, _, _, _, _, _, same⟩ := processAck_eq num c
  rw [same]
  exact intTxq_sendBlocked _

theorem Spent.routeAck (spent : c.Spent) (ack : Option AckNum)
    (onData : Bool) : (c.routeAck ack onData).Spent := by
  rcases spent with data | other
  · exact .inl ((sends_routeAck ack onData c).steady.txq data)
  · generalize after : c.routeAck ack onData = c'
    cases after ▸ routed ack onData c with
    | none => exact .inr other
    | other field => exact .inr (by simp [processIntAck, other])
    | data field => exact .inr ((intTxq_processAck _ c).trans other)
    | nak field =>
      have kept := (intTxq_processAck field.num c).trans other
      rcases processNak_cases (c.processAck field.num) with
        same | ⟨_, _, _, same⟩
      · exact .inr ((congrArg intTxq same).trans kept)
      · rw [same]
        exact .inr ((intTxq_sendBlocked _).trans kept)

/-- A link with one message in flight on each subchannel, that has got the
interrupts up to a number. -/
def outstanding (num got : Seq) : Connection :=
  { flying 0 with
    txq := [{ flyingEntry 0 with seq := num }]
    intTxq := [{ flyingEntry 0 with seq := num }]
    intNextExpect := got.succ
    timer := true }

theorem spent_outstanding (field : AckNum) (got : Seq) (onData : Bool) :
    ((outstanding field.num got).routeAck (some field) onData).Spent := by
  have reached (e : TxEntry) (sent : e.sent = true) :
      [{ e with seq := field.num }].dropWhile (acknowledges field.num) = [] := by
    simp [acknowledges, sent, Mod.less]
  have acked : ((outstanding field.num got).processAck field.num).txq = [] := by
    have left := processAck_unmarked field.num (outstanding field.num got)
    rw [outstanding, reached (flyingEntry 0) rfl] at left
    exact List.map_eq_nil_iff.1 left
  unfold routeAck
  dsimp only
  by_cases forData : (if field.isCross then !onData else onData) = true
  · rw [if_pos forData]
    split
    · exact .inl ((sends_processNak _).steady.txq acked)
    · exact .inl acked
  · rw [if_neg forData]
    exact .inr (reached (flyingEntry 0) rfl)

/-- What acknowledgements act on: the two queues, the congestion window and the
timer. -/
def sendSide (c : Connection) :=
  (c.txq, c.intTxq, c.cwnd, c.timerIsRetransmit, c.timer)

end Connection

/-- The acknowledgement fields of a packet, and whether it is on the data
subchannel. -/
def Packet.ackFields : Packet → Option (AckHdr × Bool)
  | .dataSeg segment => some (segment.toAckHdr, true)
  | .ackData header => some (header, true)
  | .intMsg message => some (message.toAckHdr, false)
  | .linkSvc message =>
    if message.valid then some (message.toAckHdr, false) else none
  | .ackOther header => some (header, false)
  | _ => none

def Packet.cleared : Packet → Packet
  | .dataSeg segment =>
    .dataSeg { segment with acknum := none, acknum2 := none }
  | .ackData header => .ackData { header with acknum := none, acknum2 := none }
  | .intMsg message => .intMsg { message with acknum := none, acknum2 := none }
  | .linkSvc message =>
    .linkSvc { message with acknum := none, acknum2 := none }
  | .ackOther header =>
    .ackOther { header with acknum := none, acknum2 := none }
  | packet => packet

def bareAck (header : AckHdr) (onData : Bool) : Packet :=
  if onData then .ackData header else .ackOther header

namespace World

open Connection

variable {τ : Type*} {sc : SessionControl τ} {w : World τ} {link : Ptr}

/-- The acknowledgements in a packet have the effect that they have in a bare
acknowledgement just before it. -/
def CountsAsBare (sc : SessionControl τ) (w : World τ) (link : Ptr) (packet : Packet) : Prop :=
  ∀ header onData, packet.ackFields = some (header, onData) →
    ((w.receive sc link packet).links link).sendSide =
      (((w.receive sc link (bareAck header onData)).receive sc link
        packet.cleared).links link).sendSide

theorem modify_eq_self {change : Connection → Connection}
    (same : change (w.links link) = w.links link) : w.modify link change = w := by
  simp [modify, same]

theorem receive_bareAck (running : (w.links link).state = .run) (header : AckHdr) (onData : Bool) :
    w.receive sc link (bareAck header onData) = ((w.modify link touch).modify link
        (routeAck header.acknum onData)).modify link (routeAck header.acknum2 onData) := by
  cases onData with
  | false =>
    rw [receive_running running rfl]
    simp [modify]
  | true =>
    rw [receive_running running rfl]
    simp [modify]

theorem modify_routeAck_none (w : World τ) (link : Ptr) (onData : Bool) :
    w.modify link (routeAck none onData) = w :=
  modify_eq_self rfl

theorem handleData_cleared (w : World τ) (link : Ptr) (segment : DataSeg) :
    ((w.handleData sc link segment).links link).sendSide =
      ((((w.modify link (routeAck segment.acknum true)).modify link
        (routeAck segment.acknum2 true)).handleData sc link
        { segment with acknum := none, acknum2 := none }).links link).sendSide := by
  have held (segment : DataSeg) (c : Connection) :
      (c.hold segment).sendAck.sendSide = c.sendSide := by
    unfold hold
    split
    · split <;> rfl
    · rfl
  unfold handleData
  dsimp only
  rw [modify_routeAck_none, modify_routeAck_none]
  split
  · rfl
  · split
    · simp only [modify_links, Function.update_self, held]
    · rfl

theorem routed_alive (running : (w.links link).state = .run) (header : AckHdr) (onData : Bool) :
    ((w.receive sc link (bareAck header onData)).links link).Alive ∧
      ((w.receive sc link (bareAck header onData)).links link).state = .run := by
  have routed := (steady_touch (w.links link)).trans ((sends_routeAck header.acknum onData _).trans
      (sends_routeAck header.acknum2 onData _)).steady
  rw [receive_bareAck running]
  simp only [modify_links, Function.update_self]
  exact ⟨((alive_touch _).routeAck _ _).routeAck _ _, routed.state.trans running⟩

theorem countsAsBare (running : (w.links link).state = .run) {packet : Packet}
    (plain : ∀ message, packet = .intMsg message → message.acknum = none ∧ message.acknum2 = none) :
    CountsAsBare sc w link packet := by
  intro header onData fields
  obtain ⟨alive, still⟩ := @routed_alive τ sc w link running header onData
  have touched : (w.receive sc link (bareAck header onData)).modify link touch =
      w.receive sc link (bareAck header onData) := modify_eq_self alive.touch
  cases packet with
  | dataSeg segment =>
    cases fields
    rw [receive_running still rfl, touched, receive_running running rfl, receive_bareAck running]
    exact handleData_cleared _ link segment
  | ackData header | ackOther header =>
    cases fields
    rw [receive_running still rfl, touched]
    simp [bareAck, routeAck]
  | linkSvc message =>
    have valid : message.valid = true := by
      by_contra invalid
      simp [Packet.ackFields, invalid] at fields
    simp only [Packet.ackFields, valid] at fields
    cases fields
    rw [receive_running still rfl, touched, receive_running running rfl, receive_bareAck running]
    simp only [modify_links, Function.update_self, handleLinkService, valid,
      show LinkSvcMsg.valid { message with acknum := none, acknum2 := none } = true from valid]
    rfl
  | intMsg message =>
    cases fields
    obtain ⟨⟨dst, src, acknum, acknum2⟩, segnum, payload⟩ := message
    obtain ⟨rfl, rfl⟩ := plain _ rfl
    rw [receive_running still rfl, touched, receive_running running rfl, receive_bareAck running,
      modify_routeAck_none, modify_routeAck_none]
  | _ => cases fields

theorem less_succ (number : Seq) : number.less number.succ = true := by
  have ahead : (Mod.wrap number.value : Seq).less number.succ = true :=
    Mod.less_wrap (by omega) (by omega)
  rwa [Mod.wrap_value_self] at ahead

theorem queues_stale_interrupt {message : IntMsg} (running : (w.links link).state = .run)
    (stale : message.segnum.less (w.links link).intNextExpect = true) :
    ((w.receive sc link (.intMsg message)).links link).txq = (w.links link).txq ∧
      ((w.receive sc link (.intMsg message)).links link).intTxq = (w.links link).intTxq := by
  obtain ⟨timer, touched⟩ : ∃ timer, (w.links link).touch =
      { w.links link with timer := timer } := by
    unfold touch
    split <;> exact ⟨_, rfl⟩
  rw [receive_running running rfl]
  simp [handleInterrupt, touched, stale, sendAckOther, send]

/-- The acknowledgements in a packet always count, unless it is an interrupt
that has some. -/
theorem piggybacked_counts_iff [Inhabited τ] (sc : SessionControl τ) (packet : Packet) :
    (∀ w link, (w.links link).state = .run → CountsAsBare sc w link packet) ↔
      ∀ message, packet = .intMsg message → message.acknum = none ∧ message.acknum2 = none := by
  constructor
  · rintro counts message rfl
    by_contra present
    obtain ⟨field, spent⟩ : ∃ field : AckNum, (((outstanding field.num message.segnum).routeAck
          message.acknum false).routeAck message.acknum2 false).Spent := by
      cases first : message.acknum with
      | some field =>
        exact ⟨field, (spent_outstanding field _ _).routeAck _ _⟩
      | none =>
        cases second : message.acknum2 with
        | some field => exact ⟨field, spent_outstanding field _ _⟩
        | none => exact absurd ⟨first, second⟩ present
    let c := outstanding field.num message.segnum
    let w : World τ := { start ⟨1, 20, 5, 4, 60⟩ [] default with links := fun _ => c }
    let acked := w.receive sc 0 (bareAck message.toAckHdr false)
    have routed : acked.links 0 =
        (c.routeAck message.acknum false).routeAck message.acknum2 false := by
      rfl
    obtain ⟨half, same, _⟩ :=
      (sends_routeAck message.acknum false c).trans (sends_routeAck message.acknum2 false _)
    have kept := routed.trans same
    have told := @queues_stale_interrupt τ sc w 0 message rfl (less_succ message.segnum)
    have again := @queues_stale_interrupt τ sc acked 0
      { message with acknum := none, acknum2 := none } (congrArg Connection.state kept)
      ((congrArg (Mod.less message.segnum ·.intNextExpect) kept).trans (less_succ message.segnum))
    have equal := counts w 0 rfl message.toAckHdr false rfl
    have data := (congrArg Prod.fst equal).symm.trans told.1
    have other := (congrArg (·.2.1) equal).symm.trans told.2
    rcases spent with empty | empty
    · exact List.cons_ne_nil _ _ (data.symm.trans (again.1.trans empty))
    · exact List.cons_ne_nil _ _ (other.symm.trans (again.2.trans empty))
  · exact fun plain w link running => countsAsBare running plain

def interruptPending : World Unit :=
  reach (.scripted fun _ _ => []) ⟨1, 20, 1, 4, 60⟩ [1] () [.act (.connect 1025 []),
      .deliver 1025 (.connConf ⟨1, 7, svcNone, 2, 500, []⟩), .act (.sendInterrupt 0 [9])]

/-- An interrupt that acknowledges ours does not take it off the queue. -/
theorem interrupt_ack_ignored : let message : IntMsg :=
      ⟨⟨1, 7, some ⟨Mod.wrap 1, .ackq⟩, none⟩, Mod.wrap 1, [5]⟩
    InitIds 1 [1] ∧ (interruptPending.links 0).state = .run ∧
      ¬ CountsAsBare (.scripted fun _ _ => []) interruptPending 0 (.intMsg message) := by
  intro message
  refine ⟨⟨fun _ => 0, fun _ => Nat.zero_le _, by decide⟩, by decide +kernel, ?_⟩
  intro counts
  have equal := congrArg (·.2.1.length) (counts message.toAckHdr false rfl)
  revert equal
  decide +kernel

end World

end Decnet.Nsp
