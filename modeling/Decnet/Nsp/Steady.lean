import Decnet.Nsp.Connection

/-!
# What the data functions of a link leave alone

The functions of `Decnet.Nsp.Connection` that move data and acknowledgements
change neither the state of the link nor its addresses, and most of them never
put anything on an empty transmit queue.  `Kept` and `Steady` say so once for
each of them; what follows about opening and closing rests on these alone.
-/

namespace Decnet.Nsp

open TxEntry List

def TxEntry.unmarked (e : TxEntry) : TxEntry :=
  { e with sent := false, timed := false }

namespace Connection

/-- The members that opening and closing are about. -/
structure Kept (c c' : Connection) : Prop where
  state : c'.state = c.state
  srcaddr : c'.srcaddr = c.srcaddr
  dest : c'.dest = c.dest
  events : c'.events = c.events
  closings : c'.closings = c.closings

/-- A change that keeps these members and an empty transmit queue. -/
structure Steady (c c' : Connection) : Prop extends Kept c c' where
  txq : c.txq = [] → c'.txq = []

namespace Kept

theorem refl (c : Connection) : Kept c c :=
  ⟨rfl, rfl, rfl, rfl, rfl⟩

theorem trans {c c' c'' : Connection} (first : Kept c c') (second : Kept c' c'') : Kept c c'' :=
  { state := second.state.trans first.state
    srcaddr := second.srcaddr.trans first.srcaddr
    dest := second.dest.trans first.dest
    events := second.events.trans first.events
    closings := second.closings.trans first.closings }

end Kept

namespace Steady

theorem refl (c : Connection) : Steady c c :=
  ⟨.refl c, id⟩

theorem trans {c c' c'' : Connection} (first : Steady c c')
    (second : Steady c' c'') : Steady c c'' :=
  ⟨first.toKept.trans second.toKept, fun empty => second.txq (first.txq empty)⟩

end Steady

theorem steady_send (packet : Packet) (c : Connection) : Steady c (c.send packet) :=
  ⟨⟨rfl, rfl, rfl, rfl, rfl⟩, id⟩

theorem steady_sendAck (c : Connection) : Steady c c.sendAck :=
  ⟨⟨rfl, rfl, rfl, rfl, rfl⟩, id⟩

theorem steady_sendDiscConf (c : Connection) : Steady c c.sendDiscConf :=
  steady_send _ c

theorem steady_sendAckConn (c : Connection) : Steady c c.sendAckConn := by
  unfold sendAckConn
  split
  · exact steady_send _ c
  · exact .refl c

/-- An acknowledgement takes entries off the front of the queue, adjusts the
window and the timer, and sends what then may go. -/
theorem processAck_eq (num : Seq) (c : Connection) :
    ∃ segnum cwnd nak retries isRetransmit timer, c.processAck num = sendBlocked
        { c with
          txq := c.txq.dropWhile (acknowledges num)
          maxAckedSeg := segnum
          cwnd := cwnd
          nakFrom := nak
          retries := retries
          timerIsRetransmit := isRetransmit
          timer := timer } := by
  unfold processAck
  dsimp only
  split
  · split
    · exact ⟨_, _, _, _, _, _, rfl⟩
    · split <;> exact ⟨_, _, _, _, _, _, rfl⟩
  · split <;> exact ⟨_, _, _, _, _, _, rfl⟩

/-! ## The sending half -/

/-- The members that an acknowledgement changes, with the packets that are
sent. -/
structure SendingHalf where
  txq : List TxEntry
  frames : List Frame
  intTxq : List TxEntry
  maxAckedSeg : Nat
  cwnd : ℚ
  ssthresh : ℚ
  nakFrom : Option Seq
  retries : Nat
  (timerIsRetransmit timer : Bool)

def sendingHalf (c : Connection) : SendingHalf :=
  ⟨c.txq, [], c.intTxq, c.maxAckedSeg, c.cwnd, c.ssthresh, c.nakFrom,
    c.retries, c.timerIsRetransmit, c.timer⟩

def withSending (half : SendingHalf) (c : Connection) : Connection :=
  { c with
    txq := half.txq
    outbox := c.outbox ++ half.frames
    intTxq := half.intTxq
    maxAckedSeg := half.maxAckedSeg
    cwnd := half.cwnd
    ssthresh := half.ssthresh
    nakFrom := half.nakFrom
    retries := half.retries
    timerIsRetransmit := half.timerIsRetransmit
    timer := half.timer }

/-- Only the sending half changes.  What is on the queue afterwards, and what
is sent, was on the queue before. -/
def Sends (c c' : Connection) : Prop :=
  ∃ half, c' = c.withSending half ∧ (∀ e ∈ half.txq, ∃ old ∈ c.txq, old.frame = e.frame) ∧
    ∀ f ∈ half.frames, ∃ old ∈ c.txq, old.frame = f

namespace Sends

variable {c c' c'' : Connection}

theorem queue (half : SendingHalf) (silent : half.frames = [])
    (kept : ∀ e ∈ half.txq, ∃ old ∈ c.txq, old.frame = e.frame) : Sends c (c.withSending half) :=
  ⟨half, rfl, kept, fun f member => by simp [silent] at member⟩

theorem refl (c : Connection) : Sends c c := by
  have same := queue c.sendingHalf rfl fun e member => ⟨e, member, rfl⟩
  simpa [withSending, sendingHalf] using same

theorem trans (first : Sends c c') (second : Sends c' c'') : Sends c c'' := by
  obtain ⟨half, rfl, queued, sent⟩ := first
  obtain ⟨later, rfl, stillQueued, alsoSent⟩ := second
  refine ⟨{ later with frames := half.frames ++ later.frames }, by simp [withSending], ?_, ?_⟩
  · intro e member
    obtain ⟨middle, present, same⟩ := stillQueued e member
    obtain ⟨old, before, frame⟩ := queued middle present
    exact ⟨old, before, frame.trans same⟩
  · intro f member
    rcases mem_append.mp member with early | late
    · exact sent f early
    · obtain ⟨middle, present, same⟩ := alsoSent f late
      obtain ⟨old, before, frame⟩ := queued middle present
      exact ⟨old, before, frame.trans same⟩

theorem steady (sends : Sends c c') : Steady c c' := by
  obtain ⟨half, rfl, queued, _⟩ := sends
  refine ⟨⟨rfl, rfl, rfl, rfl, rfl⟩, ?_⟩
  intro empty
  refine eq_nil_iff_forall_not_mem.mpr ?_
  intro e member
  obtain ⟨old, before, _⟩ := queued e member
  rw [empty] at before
  cases before

end Sends

/-! ## Marks on the entries -/

section

variable {entries queue : List TxEntry} (marks : entries.map unmarked = queue.map unmarked)

include marks

theorem exists_unmarked {e : TxEntry} (member : e ∈ entries) :
    ∃ old ∈ queue, old.unmarked = e.unmarked := by
  have marked := mem_map_of_mem (f := unmarked) member
  rw [marks] at marked
  exact mem_map.1 marked

theorem frames_unmarked : ∀ e ∈ entries, ∃ old ∈ queue, old.frame = e.frame := by
  intro e member
  obtain ⟨old, before, same⟩ := exists_unmarked marks member
  exact ⟨old, before, (congrArg frame same :)⟩

end

theorem sendBlockedLoop_unmarked (c : Connection) (timing : Bool) (queue : List TxEntry) :
    (c.sendBlockedLoop timing queue).1.map unmarked = queue.map unmarked := by
  induction queue generalizing timing with
  | nil => rfl
  | cons e rest ih =>
    unfold sendBlockedLoop
    split
    · rw [map_cons, map_cons, ih timing]
    · split
      · rw [map_cons, ih true]
        rfl
      · rfl

theorem sendBlockedLoop_frames (c : Connection) (timing : Bool) (queue : List TxEntry) :
    ∀ f ∈ (c.sendBlockedLoop timing queue).2, ∃ e ∈ (c.sendBlockedLoop timing queue).1,
        e.frame = f ∧ c.flowOk e = true := by
  induction queue generalizing timing with
  | nil => exact forall_mem_nil _
  | cons first rest ih =>
    rw [sendBlockedLoop]
    split
    · intro f member
      obtain ⟨e, present, sent⟩ := ih timing f member
      exact ⟨e, mem_cons_of_mem _ present, sent⟩
    · split
      · rename_i allowed
        intro f member
        rcases mem_cons.1 member with rfl | later
        · exact ⟨_, mem_cons_self, rfl, allowed⟩
        · obtain ⟨e, present, sent⟩ := ih true f later
          exact ⟨e, mem_cons_of_mem _ present, sent⟩
      · exact forall_mem_nil _

theorem sendBlocked_outbox (c : Connection) :
    c.sendBlocked.outbox = c.outbox ++
      (c.sendBlockedLoop (c.txq.any (fun entry => entry.timed)) c.txq).2 := by
  unfold sendBlocked
  dsimp only
  split <;> rfl

theorem sendBlocked_txq (c : Connection) :
    c.sendBlocked.txq = (c.sendBlockedLoop (c.txq.any (fun entry => entry.timed)) c.txq).1 := by
  unfold sendBlocked
  dsimp only
  split <;> rfl

theorem sendBlocked_unmarked (c : Connection) :
    c.sendBlocked.txq.map unmarked = c.txq.map unmarked := by
  rw [sendBlocked_txq]
  exact sendBlockedLoop_unmarked c _ _

theorem resendQueue_unmarked (queue : List TxEntry) :
    (resendQueue queue).1.map unmarked = queue.map unmarked := by
  induction queue with
  | nil => rfl
  | cons e rest ih =>
    rw [resendQueue]
    split
    · simp only [map_cons, map_map]
      refine congrArg (_ :: ·) (map_congr_left fun later _ => ?_)
      simp only [Function.comp_apply]
      split <;> rfl
    · exact congrArg (_ :: ·) ih

theorem resendQueue_frames (queue : List TxEntry) :
    (resendQueue queue).2 = (queue.find? fun e => e.sent).toList.map frame := by
  induction queue with
  | nil => rfl
  | cons e rest ih =>
    rw [resendQueue]
    split
    · rename_i isSent
      rw [find?_cons_of_pos isSent]
      rfl
    · rename_i notSent
      rw [find?_cons_of_neg notSent]
      exact ih

theorem unsend_unmarked (e : TxEntry) : (unsend e).unmarked = e.unmarked := by
  unfold unsend
  split <;> rfl

theorem map_unsend_unmarked (queue : List TxEntry) :
    (queue.map unsend).map unmarked = queue.map unmarked := by
  simp [unsend_unmarked]

theorem unsend_msgnum (e : TxEntry) : (unsend e).msgnum = e.msgnum :=
  (congrArg msgnum (unsend_unmarked e) :)

theorem sends_sendBlocked (c : Connection) : Sends c c.sendBlocked := by
  unfold sendBlocked
  generalize c.txq.any (fun entry => entry.timed) = timing
  have kept := frames_unmarked (sendBlockedLoop_unmarked c timing c.txq)
  have sent : ∀ f ∈ (c.sendBlockedLoop timing c.txq).2, ∃ old ∈ c.txq, old.frame = f := by
    intro f member
    obtain ⟨e, present, rfl, _⟩ := sendBlockedLoop_frames c _ _ f member
    exact kept e present
  dsimp only
  split
  · exact ⟨{ c.sendingHalf with txq := _, frames := _ }, rfl, kept, sent⟩
  · exact ⟨{ c.sendingHalf with
      txq := _
      frames := _
      retries := 0
      timerIsRetransmit := true
      timer := true }, rfl, kept, sent⟩

theorem sends_resend (c : Connection) : Sends c c.resend := by
  refine ⟨{ c.sendingHalf with
    ssthresh := _
    cwnd := _
    txq := _
    frames := _
    timerIsRetransmit := true
    timer := true }, rfl, frames_unmarked (resendQueue_unmarked c.txq), ?_⟩
  intro f (member : f ∈ (resendQueue c.txq).2)
  rw [resendQueue_frames] at member
  obtain ⟨e, found, rfl⟩ := mem_map.1 member
  exact ⟨e, mem_of_find?_eq_some (Option.mem_toList.1 found), rfl⟩

theorem sends_processAck (num : Seq) (c : Connection) : Sends c (c.processAck num) := by
  obtain ⟨segnum, cwnd, nak, retries, isRetransmit, timer, same⟩ := processAck_eq num c
  have popped := @Sends.queue c
    { c.sendingHalf with
      txq := c.txq.dropWhile (acknowledges num)
      maxAckedSeg := segnum
      cwnd := cwnd
      nakFrom := nak
      retries := retries
      timerIsRetransmit := isRetransmit
      timer := timer } rfl
    fun e member => ⟨e, (dropWhile_sublist _).subset member, rfl⟩
  rw [same]
  refine Sends.trans ?_ (sends_sendBlocked _)
  simpa [withSending, sendingHalf] using popped

theorem processNak_cases (c : Connection) :
    c.processNak = c ∨ ∃ nakFrom ssthresh cwnd, c.processNak =
      { c with
        nakFrom := nakFrom
        ssthresh := ssthresh
        cwnd := cwnd
        txq := c.txq.map unsend }.sendBlocked := by
  unfold processNak
  split
  · exact .inl rfl
  split
  · exact .inl rfl
  split
  · exact .inl rfl
  · exact .inr ⟨_, _, _, rfl⟩

theorem sends_processNak (c : Connection) : Sends c c.processNak := by
  rcases processNak_cases c with same | ⟨nakFrom, ssthresh, cwnd, same⟩
  · rw [same]
    exact .refl c
  · have unsent := @Sends.queue c
      { c.sendingHalf with
        nakFrom := nakFrom
        ssthresh := ssthresh
        cwnd := cwnd
        txq := c.txq.map unsend } rfl
      (forall_mem_map.2 fun e member => ⟨e, member, (congrArg frame (unsend_unmarked e).symm :)⟩)
    rw [same]
    refine Sends.trans ?_ (sends_sendBlocked _)
    simpa [withSending, sendingHalf] using unsent

/-- What an acknowledgement field does: nothing, or something on the subchannel
that it is for. -/
inductive Routed (c : Connection) (ack : Option AckNum) (onData : Bool) : Connection → Prop where
  | none (absent : ack = none) : Routed c ack onData c
  | other (field : AckNum) : Routed c ack onData (c.processIntAck field.num)
  | data (field : AckNum) (present : ack = some field)
      (forData : (if field.isCross then !onData else onData) = true)
      (positive : field.isNak = false) : Routed c ack onData (c.processAck field.num)
  | nak (field : AckNum) (present : ack = some field)
      (forData : (if field.isCross then !onData else onData) = true)
      (negative : field.isNak = true) : Routed c ack onData (c.processAck field.num).processNak

theorem routed (ack : Option AckNum) (onData : Bool) (c : Connection) :
    Routed c ack onData (c.routeAck ack onData) := by
  cases ack with
  | none => exact .none rfl
  | some field =>
    unfold routeAck
    dsimp only
    by_cases forData : (if field.isCross then !onData else onData) = true
    · rw [if_pos forData]
      split
      case isTrue negative => exact .nak field rfl forData negative
      case isFalse positive =>
        exact .data field rfl forData (Bool.eq_false_iff.2 positive)
    · rw [if_neg forData]
      exact .other field

theorem sends_routeAck (ack : Option AckNum) (onData : Bool)
    (c : Connection) : Sends c (c.routeAck ack onData) := by
  generalize after : c.routeAck ack onData = c'
  cases after ▸ routed ack onData c with
  | none => exact .refl c
  | other field =>
    have popped := @Sends.queue c { c.sendingHalf with
      intTxq := c.intTxq.dropWhile (acknowledges field.num) } rfl
      fun e member => ⟨e, member, rfl⟩
    simpa [withSending, sendingHalf, processIntAck] using popped
  | data field => exact sends_processAck field.num c
  | nak field => exact (sends_processAck field.num c).trans (sends_processNak _)

structure Granted where
  (maxMsg maxSeg intMaxMsg : Nat)
  xon : Bool

def withCredit (granted : Granted) (c : Connection) : Connection :=
  { c with
    maxMsg := granted.maxMsg
    maxSeg := granted.maxSeg
    intMaxMsg := granted.intMaxMsg
    xon := granted.xon }

theorem applyCredit_cases (message : LinkSvcMsg) (c : Connection) :
    ∃ granted, c.applyCredit message = c.withCredit granted ∨
      c.applyCredit message = (c.withCredit granted).sendBlocked := by
  have unchanged : ∃ granted, c = c.withCredit granted ∨ c = (c.withCredit granted).sendBlocked :=
    ⟨⟨c.maxMsg, c.maxSeg, c.intMaxMsg, c.xon⟩, .inl rfl⟩
  unfold applyCredit
  split
  · split
    · exact unchanged
    · exact ⟨⟨c.maxMsg, c.maxSeg, _, c.xon⟩, .inl rfl⟩
  split
  · exact unchanged
  unfold dataCredit
  dsimp only
  split
  · split
    · split
      · exact ⟨⟨_, c.maxSeg, c.intMaxMsg, _⟩, .inr rfl⟩
      · exact ⟨⟨_, c.maxSeg, c.intMaxMsg, c.xon⟩, .inr rfl⟩
    · exact unchanged
  split
  · split
    · split
      · exact ⟨⟨c.maxMsg, _, c.intMaxMsg, _⟩, .inr rfl⟩
      · exact ⟨⟨c.maxMsg, _, c.intMaxMsg, c.xon⟩, .inr rfl⟩
    · exact unchanged
  · split
    · exact ⟨⟨c.maxMsg, c.maxSeg, c.intMaxMsg, _⟩, .inr rfl⟩
    · exact ⟨⟨c.maxMsg, c.maxSeg, c.intMaxMsg, c.xon⟩, .inr rfl⟩

theorem sends_applyCredit (message : LinkSvcMsg) (c : Connection) :
    ∃ granted, Sends (c.withCredit granted) (c.applyCredit message) := by
  obtain ⟨granted, same | same⟩ := applyCredit_cases message c
  · exact ⟨granted, same ▸ .refl _⟩
  · exact ⟨granted, same ▸ sends_sendBlocked _⟩

theorem steady_applyCredit (message : LinkSvcMsg) (c : Connection) :
    Steady c (c.applyCredit message) := by
  obtain ⟨granted, sends⟩ := sends_applyCredit message c
  have given : Steady c (c.withCredit granted) := ⟨⟨rfl, rfl, rfl, rfl, rfl⟩, id⟩
  exact given.trans sends.steady

theorem steady_setRetries (retries : Nat) (c : Connection) : Steady c (c.setRetries retries) :=
  ⟨⟨rfl, rfl, rfl, rfl, rfl⟩, id⟩

theorem steady_stopTimer (c : Connection) : Steady c c.stopTimer :=
  ⟨⟨rfl, rfl, rfl, rfl, rfl⟩, id⟩

theorem steady_touch (c : Connection) : Steady c c.touch := by
  unfold touch
  split
  · exact ⟨⟨rfl, rfl, rfl, rfl, rfl⟩, id⟩
  · exact .refl c

theorem steady_timers (timer isRetransmit : Bool) (c : Connection) :
    Steady c { c with timer := timer, timerIsRetransmit := isRetransmit } :=
  ⟨⟨rfl, rfl, rfl, rfl, rfl⟩, id⟩

theorem steady_connectAcked (c : Connection) : Steady c c.connectAcked :=
  (sends_processAck (Mod.wrap 0) c).steady.trans (steady_timers true false _)

/-- What a link learns from the message of its peer that opens it. -/
abbrev learn (config : NspConfig) (info srcaddr segsize flow : Nat) (c : Connection) : Connection :=
  { c.setPhase config info with dstaddr := srcaddr, segsize := min segsize mss, flow := flow }

theorem steady_confirm (config : NspConfig) (message : ConnConf)
    (c : Connection) : Steady c (c.confirm config message) := by
  unfold confirm
  dsimp only
  have learned : Steady c
      (c.learn config message.info message.srcaddr message.segsize message.fcopt) :=
    ⟨⟨rfl, rfl, rfl, rfl, rfl⟩, id⟩
  have acked := learned.trans (sends_processAck (Mod.wrap 0) _).steady
  split
  · exact (acked.trans (steady_sendAck _)).trans (steady_timers true false _)
  · exact acked.trans (steady_timers true false _)

theorem closings_confirmed (config : NspConfig) (message : ConnConf) (upcall : Upcall)
    (c : Connection) :
    (((c.confirm config message).withState .run).noteEvent upcall).closings = c.closings := by
  have kept (c : Connection) : ((c.withState .run).noteEvent upcall).closings = c.closings := rfl
  rw [kept, (steady_confirm config message c).closings]

theorem steady_confirmReject (message : DiscInit) (c : Connection) :
    Steady c (c.confirmReject message) :=
  ⟨⟨rfl, rfl, rfl, rfl, rfl⟩, id⟩

theorem kept_queueSegments (c : Connection) (pieces : List Piece) :
    Kept c (pieces.foldl queueSegment c) := by
  induction pieces generalizing c with
  | nil => exact .refl c
  | cons piece pieces ih =>
    refine Kept.trans ?_ (ih _)
    exact ⟨rfl, rfl, rfl, rfl, rfl⟩

theorem kept_sendData (data : Bytes) (c : Connection) : Kept c (c.sendData data) := by
  unfold sendData
  split
  · exact .refl c
  · have noted : Kept c { c with submitted := c.submitted ++ [data] } := ⟨rfl, rfl, rfl, rfl, rfl⟩
    exact (noted.trans (kept_queueSegments _ _)).trans (sends_sendBlocked _).steady.toKept

/-- An inbound connect announces a link that waits for a decision. -/
structure Announced (c c' : Connection) : Prop where
  state : c'.state = .cr
  srcaddr : c'.srcaddr = c.srcaddr
  events : c'.events = c.events
  closings : c'.closings = c.closings
  txq : c.txq = [] → c'.txq = []

theorem announced_connectReceived (config : NspConfig) (message : ConnInit)
    (c : Connection) : Announced c (c.connectReceived config message) := by
  have acked := steady_sendAckConn
    (c.learn config message.info message.srcaddr message.segsize message.fcopt)
  exact ⟨rfl, acked.srcaddr, acked.events, acked.closings, acked.txq⟩

theorem sendData_of_not_run (data : Bytes) (c : Connection)
    (idle : c.state ≠ .run) : c.sendData data = c := by
  simp [sendData, running, idle]

/-! ## Lengths -/

theorem length_unmarked {entries queue : List TxEntry}
    (marks : entries.map unmarked = queue.map unmarked) : entries.length = queue.length := by
  simpa using congrArg length marks

theorem length_sendBlocked (c : Connection) : c.sendBlocked.txq.length = c.txq.length :=
  length_unmarked c.sendBlocked_unmarked

theorem length_queueSegments (c : Connection) (pieces : List Piece) :
    (pieces.foldl queueSegment c).txq.length = c.txq.length + pieces.length := by
  induction pieces generalizing c with
  | nil => rfl
  | cons piece pieces ih =>
    rw [foldl_cons, ih]
    simp only [queueSegment, length_append, length_cons, length_nil]
    omega

end Connection

end Decnet.Nsp
