import Decnet.Nsp.Pair

/-!
# When the absolute segment numbers wrap

Flow control compares absolute segment numbers, which are 32 bits wide.  With a
window of one segment an exchange that is acknowledged segment by segment goes
on for ever.  But when the oldest segment has the last number before the
numbers wrap, every later one compares as lower, so nothing is held back any
more and the sequence numbers of the segments in flight repeat.
-/

namespace Decnet.Nsp

open Connection List

namespace Connection

variable {c : Connection}

/-! ## A link that acknowledges everything -/

theorem sendBlocked_empty (empty : c.txq = []) : c.sendBlocked = c := by
  obtain ⟨⟩ := c
  cases empty
  simp [sendBlocked, sendBlockedLoop]

theorem processAck_clears {num : Seq} (all : c.txq.dropWhile (acknowledges num) = []) :
    ∃ segnum cwnd nak retries isRetransmit timer, c.processAck num =
        { c with
          txq := []
          maxAckedSeg := segnum
          cwnd := cwnd
          nakFrom := nak
          retries := retries
          timerIsRetransmit := isRetransmit
          timer := timer } := by
  obtain ⟨segnum, cwnd, nak, retries, isRetransmit, timer, same⟩ := processAck_eq num c
  refine ⟨segnum, cwnd, nak, retries, isRetransmit, timer, ?_⟩
  rw [all] at same
  rw [same]
  exact sendBlocked_empty rfl

/-! ## A segment that goes out at once -/

theorem pieces_single {limit : Nat} {data : Bytes}
    (short : data.length ≤ limit) : pieces limit data = [⟨true, true, data⟩] := by
  unfold pieces
  cases data with
  | nil => rfl
  | cons byte rest =>
    rw [length_cons, cut, if_pos short]

theorem sendBlockedLoop_sent {queue : List TxEntry} (timing : Bool)
    (sent : ∀ e ∈ queue, e.sent = true) (rest : List TxEntry) :
    c.sendBlockedLoop timing (queue ++ rest) = (queue ++ (c.sendBlockedLoop timing rest).1,
        (c.sendBlockedLoop timing rest).2) := by
  induction queue with
  | nil => rfl
  | cons e queue ih =>
    have later := ih fun other member => sent other (mem_cons_of_mem _ member)
    rw [cons_append, sendBlockedLoop, if_pos (sent e mem_cons_self), later]
    rfl

theorem sendBlocked_last {queue : List TxEntry} {e : TxEntry}
    (shape : c.txq = queue ++ [e]) (sent : ∀ e ∈ queue, e.sent = true)
    (waiting : e.sent = false) (free : c.flowOk e = true) :
    ∃ timed, c.sendBlocked =
      { c with
        txq := queue ++ [{ e with sent := true, timed := timed }]
        outbox := c.outbox ++ [e.frame]
        retries := 0
        timerIsRetransmit := true
        timer := true } := by
  have loop (timing : Bool) : c.sendBlockedLoop timing c.txq =
      (queue ++ [{ e with sent := true, timed := !timing || e.timed }], [e.frame]) := by
    rw [shape, sendBlockedLoop_sent timing sent]
    simp [sendBlockedLoop, waiting, free]
  refine ⟨!c.txq.any (fun entry => entry.timed) || e.timed, ?_⟩
  unfold sendBlocked
  rw [loop]
  rfl

def withMessage (data : Bytes) (c : Connection) : Connection :=
  queueSegment { c with submitted := c.submitted ++ [data] } ⟨true, true, data⟩

theorem sendData_single {data : Bytes} (running : c.state = .run)
    (short : data.length ≤ c.segmentLimit) :
    c.sendData data = (c.withMessage data).sendBlocked := by
  have inRun : ¬ (!c.running) = true := by simp [Connection.running, running]
  have one : pieces ({ c with submitted := c.submitted ++ [data] } :
      Connection).segmentLimit data = [⟨true, true, data⟩] := pieces_single short
  rw [sendData, if_neg inRun, sendSegments, one]
  rfl

def onlySegment (data : Bytes) (c : Connection) : DataSeg :=
  { dstaddr := c.dstaddr
    srcaddr := c.srcaddr
    acknum := some (c.ackNum .ackq)
    acknum2 := none
    segnum := c.nextSend
    dly := false
    bom := true
    eom := true
    payload := data }

def onlyEntry (data : Bytes) (c : Connection) : TxEntry :=
  { seq := c.nextSend
    segnum := c.nextSegnum
    msgnum := c.nextMsgnum
    frame := ⟨.dataSeg (c.onlySegment data), c.queued + 1, c.rcvd⟩
    sent := false
    isData := true
    timed := false }

end Connection

/-! ## Two ends with a window of one -/

namespace Connection

/-- The sending end, with a window of one segment, after `count` messages. -/
structure Sender (messages : List Bytes) (c : Connection) : Prop where
  running : c.state = .run
  srcaddr : c.srcaddr = 1
  dstaddr : c.dstaddr = 7
  segsize : c.segsize = mss
  qmax : c.qmax = 1
  xon : c.xon = true
  flow : c.flow = svcNone
  nextExpect : c.nextExpect = Mod.wrap 1
  rcvd : c.rcvd = 0
  submitted : c.submitted = messages
  queued : c.queued = messages.length
  nextSend : c.nextSend = Mod.wrap (messages.length + 1)
  nextSegnum : c.nextSegnum = (messages.length + 1) % 2 ^ 32
  sent : ∀ e ∈ c.txq, e.sent = true
  fits : c.txq.length ≤ messages.length

def nextSegment (count : Nat) (data : Bytes) : DataSeg :=
  { dstaddr := 7
    srcaddr := 1
    acknum := some ⟨Mod.wrap 0, .ackq⟩
    acknum2 := none
    segnum := Mod.wrap (count + 1)
    dly := false
    bom := true
    eom := true
    payload := data }

/-- The receiving end, after `count` segments. -/
structure Receiver (messages : List Bytes) (c : Connection) : Prop where
  running : c.state = .run
  srcaddr : c.srcaddr = 7
  dstaddr : c.dstaddr = 1
  queued : c.queued = 0
  txq : c.txq = []
  ooo : c.ooo = ∅
  nextExpect : c.nextExpect = Mod.wrap (messages.length + 1)
  rcvd : c.rcvd = messages.length
  messages : c.messages = messages

variable {c : Connection} {messages : List Bytes}

theorem Sender.flowOk (sender : c.Sender messages) (data : Bytes)
    (free : c.txq = [] ∨ ∃ oldest rest, c.txq = oldest :: rest ∧ oldest.segnum = 2 ^ 32 - 1) :
    (c.withMessage data).flowOk (c.onlyEntry data) = true := by
  have window : (c.withMessage data).window = 1 := by
    have one : (c.withMessage data).qmax = 1 := sender.qmax
    unfold window
    omega
  have queue : (c.withMessage data).txq = c.txq ++ [c.onlyEntry data] := rfl
  have segnum : (c.onlyEntry data).segnum = c.nextSegnum := rfl
  have small : c.nextSegnum < 2 ^ 32 := by
    rw [sender.nextSegnum]
    exact Nat.mod_lt _ (by decide)
  have inWindow : ¬ (c.onlyEntry data).segnum > (c.withMessage data).maxq := by
    unfold maxq
    rw [queue, window]
    rcases free with empty | ⟨oldest, rest, shape, last⟩
    · rw [empty, nil_append]
      dsimp only
      rw [segnum, Nat.add_sub_cancel, Nat.mod_eq_of_lt small]
      exact Nat.lt_irrefl _
    · rw [shape, cons_append]
      dsimp only
      omega
  have xon : (c.withMessage data).xon = true := sender.xon
  have flow : (c.withMessage data).flow = svcNone := sender.flow
  unfold Connection.flowOk
  simp [xon, inWindow, flow, svcNone, svcSeg, svcMsg]

theorem Sender.onlySegment (sender : c.Sender messages) (data : Bytes) :
    c.onlySegment data = nextSegment messages.length data := by
  unfold Connection.onlySegment nextSegment ackNum
  rw [sender.dstaddr, sender.srcaddr, sender.nextExpect, sender.nextSend]
  rfl

theorem Sender.sendData (sender : c.Sender messages) {data : Bytes} (short : data.length ≤ 1)
    (free : c.txq = [] ∨ ∃ oldest rest, c.txq = oldest :: rest ∧ oldest.segnum = 2 ^ 32 - 1) :
    ∃ e : TxEntry, e.segnum = (messages.length + 1) % 2 ^ 32 ∧
      e.seq = Mod.wrap (messages.length + 1) ∧ (c.sendData data).txq = c.txq ++ [e] ∧
      (c.sendData data).outbox = c.outbox ++ [⟨.dataSeg (nextSegment messages.length data),
          messages.length + 1, 0⟩] ∧ (c.sendData data).Sender (messages ++ [data]) := by
  have limit : data.length ≤ c.segmentLimit := by
    have size : c.segmentLimit = mss := by
      unfold segmentLimit
      rw [sender.segsize]
      rfl
    rw [size]
    exact short.trans (by decide)
  obtain ⟨timed, same⟩ := @sendBlocked_last (c.withMessage data) c.txq
    (c.onlyEntry data) rfl sender.sent rfl (sender.flowOk data free)
  have length : (messages ++ [data]).length = messages.length + 1 := by simp
  rw [sendData_single sender.running limit, same]
  refine ⟨_, sender.nextSegnum, sender.nextSend, rfl, ?_, ?_⟩
  · show c.outbox ++ [⟨.dataSeg (c.onlySegment data), c.queued + 1, c.rcvd⟩] = _
    rw [sender.onlySegment, sender.queued, sender.rcvd]
  · exact
      { sender with
        submitted := by
          show c.submitted ++ [data] = _
          rw [sender.submitted]
        queued := by
          show c.queued + 1 = _
          rw [sender.queued, length]
        nextSend := by
          show c.nextSend.succ = _
          rw [sender.nextSend, length, Mod.succ_wrap]
        nextSegnum := by
          show (c.nextSegnum + 1) % 2 ^ 32 = _
          rw [sender.nextSegnum, length, Nat.mod_add_mod]
        sent := by
          intro e member
          rcases mem_append.mp member with old | new
          · exact sender.sent e old
          · rw [mem_singleton.mp new]
        fits := by
          rw [length, length_append]
          exact Nat.succ_le_succ sender.fits }

def lastAck (count : Nat) : AckHdr :=
  ⟨1, 7, some ⟨Mod.wrap count, .ackq⟩, none⟩

theorem Sender.acked (sender : c.Sender messages) {e : TxEntry}
    (only : c.txq = [e]) (seq : e.seq = Mod.wrap messages.length) :
    let acked := (c.touch.routeAck (lastAck messages.length).acknum true).routeAck
      (lastAck messages.length).acknum2 true
    acked.Sender messages ∧ acked.txq = [] := by
  have touched : c.touch.Sender messages ∧ c.touch.txq = [e] := by
    unfold touch
    split
    · exact ⟨{ sender with }, only⟩
    · exact ⟨sender, only⟩
  obtain ⟨still, queue⟩ := touched
  generalize c.touch = c' at still queue ⊢
  have gone : c'.txq.dropWhile (acknowledges (Mod.wrap messages.length)) = [] := by
    have isSent : e.sent = true := sender.sent e (only ▸ mem_singleton_self e)
    have equal : (Mod.wrap messages.length : Seq).less (Mod.wrap messages.length) = false :=
      Mod.not_less_wrap (Nat.le_refl _) (by omega)
    rw [queue]
    simp [acknowledges, isSent, seq, equal]
  obtain ⟨_, _, _, _, _, _, same⟩ := processAck_clears gone
  show (c'.processAck (Mod.wrap messages.length)).Sender messages ∧
    (c'.processAck (Mod.wrap messages.length)).txq = []
  rw [same]
  exact ⟨{ still with
    sent := fun _ member => absurd member not_mem_nil
    fits := Nat.zero_le _ }, rfl⟩

theorem Receiver.acked (receiver : c.Receiver messages) (num : Seq) :
    (c.touch.routeAck (some ⟨num, .ackq⟩) true).Receiver messages ∧
      (c.touch.routeAck (some ⟨num, .ackq⟩) true).outbox = c.outbox := by
  have touched : c.touch.Receiver messages ∧ c.touch.outbox = c.outbox := by
    unfold touch
    split
    · exact ⟨{ receiver with }, rfl⟩
    · exact ⟨receiver, rfl⟩
  obtain ⟨still, outbox⟩ := touched
  rw [← outbox]
  generalize c.touch = c' at still ⊢
  have gone : c'.txq.dropWhile (acknowledges num) = [] := by
    rw [still.txq]
    rfl
  obtain ⟨_, _, _, _, _, _, same⟩ := processAck_clears gone
  show (c'.processAck num).Receiver messages ∧ (c'.processAck num).outbox = c'.outbox
  rw [same]
  exact ⟨{ still with txq := rfl }, rfl⟩

def handUp (segment : DataSeg) (c : Connection) : Connection :=
  ((((c.assemble segment).noteEvent
    (.dataReceived (c.assemble segment).assembly)).clearAssembly).advance).sendAck

theorem Receiver.handUp (receiver : c.Receiver messages) {segment : DataSeg}
    (first : segment.bom = true) :
    (c.handUp segment).Receiver (messages ++ [segment.payload]) ∧
      (c.handUp segment).outbox = c.outbox ++ [⟨.ackData (lastAck (messages.length + 1)), 0,
          messages.length + 1⟩] := by
  have length : (messages ++ [segment.payload]).length = messages.length + 1 := by simp
  have next : c.nextExpect.succ = Mod.wrap (messages.length + 1 + 1) := by
    rw [receiver.nextExpect, Mod.succ_wrap]
  have ack : (c.nextExpect.succ - Mod.wrap 1 : Seq) = Mod.wrap (messages.length + 1) := by
    rw [next, Mod.wrap_sub_one]
  have begun : c.assemble segment = { c with
      assembly := segment.payload, assembling := !segment.eom } := by
    simp [assemble, first]
  rw [Connection.handUp, begun]
  simp only [noteEvent, clearAssembly, advance, sendAck, stopAckHoldoff, send, ackNum]
  refine ⟨?_, ?_⟩
  · exact
      { receiver with
        nextExpect := by
          rw [length]
          exact next
        rcvd := by
          rw [length]
          exact congrArg (· + 1) receiver.rcvd
        messages := by
          show (c.events ++ [Upcall.dataReceived segment.payload]).filterMap Upcall.message = _
          rw [filterMap_append]
          exact congrArg (· ++ [segment.payload]) receiver.messages }
  · show c.outbox ++ [⟨.ackData ⟨c.dstaddr, c.srcaddr,
      some ⟨c.nextExpect.succ - Mod.wrap 1, .ackq⟩, none⟩, 0, c.rcvd + 1⟩] = _
    rw [receiver.dstaddr, receiver.srcaddr, ack, receiver.rcvd]
    rfl

end Connection

namespace World

open Connection

def quiet : SessionControl Unit := .scripted fun _ _ => []

variable {w : World Unit} {addr : Nat} {messages : List Bytes}

/-- The first link of a node has an address. -/
structure Serves (addr : Nat) (w : World Unit) : Prop where
  byAddr : w.byAddr.lookup addr = some 0
  present : 0 < w.allocated
  outside : w.inside = none

theorem Serves.modify (serves : w.Serves addr)
    (change : Connection → Connection) : (w.modify 0 change).Serves addr :=
  { serves with }

theorem tell_quiet (outside : w.inside = none) (upcall : Upcall) :
    w.tell quiet 0 upcall = w.modify 0 (noteEvent upcall) := by
  obtain ⟨⟩ := w
  cases outside
  rfl

theorem Serves.sendData (serves : w.Serves addr) (data : Bytes) :
    (w.step quiet (.act (.sendData 0 data))).links 0 = (w.links 0).sendData data ∧
      (w.step quiet (.act (.sendData 0 data))).Serves addr := by
  have reachable : Reachable (.sendData 0 data) w := by
    intro link target
    cases target
    exact serves.present
  have same : w.step quiet (.act (.sendData 0 data)) =
      (w.logged (.sendData 0 data)).modify 0 (Connection.sendData data) :=
    perform_of_reachable reachable
  have logged : (w.logged (.sendData 0 data)).Serves addr := { serves with }
  rw [same]
  exact ⟨by simp, logged.modify _⟩

theorem Serves.ackData (serves : w.Serves addr)
    (running : (w.links 0).state = .run) (src : Nodeid) {header : AckHdr}
    (addressed : header.dstaddr = addr) :
    (w.step quiet (.deliver src (.ackData header))).links 0 =
        ((w.links 0).touch.routeAck header.acknum true).routeAck header.acknum2 true ∧
      (w.step quiet (.deliver src (.ackData header))).Serves addr := by
  have found : w.recipient src (.ackData header) = some 0 := by
    subst addressed
    exact serves.byAddr
  have same : w.step quiet (.deliver src (.ackData header)) = (w.modify 0 touch).modify 0 (fun c =>
        (c.routeAck header.acknum true).routeAck header.acknum2 true) := by
    rw [step_deliver found]
    simp only [receive, dispatch, running, stateFunction, run]
  rw [same]
  exact ⟨by simp, (serves.modify _).modify _⟩

theorem acceptSegment_quiet {segment : DataSeg} (outside : w.inside = none)
    (complete : (w.links 0).completes segment = true) :
    w.acceptSegment quiet 0 segment = w.put 0 (((w.links 0).assemble segment).noteEvent
        (.dataReceived ((w.links 0).assemble segment).assembly)).clearAssembly := by
  have inside : (w.modify 0 (assemble segment)).inside = none := outside
  unfold acceptSegment
  rw [if_pos complete, tell_quiet inside]
  simp [modify_eq_put]

/-- The next segment, which is a whole message, at a link that holds no
others. -/
theorem handleData_quiet {segment : DataSeg} {c : Connection}
    (outside : w.inside = none) (receiver : c.Receiver messages)
    (acked : ((w.links 0).routeAck segment.acknum true).routeAck segment.acknum2 true = c)
    (prompt : segment.dly = false) (first : segment.bom = true) (last : segment.eom = true)
    (next : segment.segnum = Mod.wrap (messages.length + 1)) :
    w.handleData quiet 0 segment = w.put 0 (c.handUp segment) := by
  have expected : segment.segnum = c.nextExpect := by
    rw [next, receiver.nextExpect]
  have notLess : ¬ segment.segnum.less c.nextExpect = true := by
    rw [← expected, next, Mod.not_less_wrap (Nat.le_refl _) (by omega)]
    exact Bool.false_ne_true
  have complete : ((w.put 0 c).links 0).completes segment = true := by
    simp [completes, first, last]
  have noted : (w.modify 0 (routeAck segment.acknum true)).modify 0
      (routeAck segment.acknum2 true) = w.put 0 c := by
    simp [modify_eq_put, acked]
  have holds : (c.assemble segment).ooo = ∅ := by
    rw [← receiver.ooo]
    simp [assemble, first]
  have inside : (w.put 0 c).inside = none := outside
  have taken : ((w.put 0 c).acceptSegment quiet 0 segment).modify 0
      advance = w.put 0 (((c.assemble segment).noteEvent
        (.dataReceived (c.assemble segment).assembly)).clearAssembly.advance) := by
    rw [acceptSegment_quiet inside complete, put_put, put_links_self,
      modify_eq_put, put_put, put_links_self]
  have none : ((((c.assemble segment).noteEvent (.dataReceived
      (c.assemble segment).assembly)).clearAssembly).advance).ooo.keys.length = 0 := by
    simp only [noteEvent, holds]
    rfl
  unfold handleData
  dsimp only
  rw [noted, taken, put_links_self, put_links_self, none, if_neg notLess,
    if_neg (not_not.mpr expected), drain, prompt, Bool.false_and,
    Bool.false_and, if_neg Bool.false_ne_true, modify_eq_put, put_put]
  rfl

theorem Serves.dataSeg (serves : w.Serves addr)
    (receiver : (w.links 0).Receiver messages) (src : Nodeid) {num : Seq}
    {segment : DataSeg} (addressed : segment.dstaddr = addr)
    (acknum : segment.acknum = some ⟨num, .ackq⟩)
    (acknum2 : segment.acknum2 = none) (prompt : segment.dly = false)
    (first : segment.bom = true) (last : segment.eom = true)
    (next : segment.segnum = Mod.wrap (messages.length + 1)) :
    (w.step quiet (.deliver src (.dataSeg segment))).links 0 =
        ((w.links 0).touch.routeAck (some ⟨num, .ackq⟩) true).handUp segment ∧
      (w.step quiet (.deliver src (.dataSeg segment))).Serves addr := by
  have found : w.recipient src (.dataSeg segment) = some 0 := by
    subst addressed
    exact serves.byAddr
  obtain ⟨acked, _⟩ := receiver.acked num
  have touched := serves.modify touch
  have same : w.step quiet (.deliver src (.dataSeg segment)) = (w.modify 0 touch).put 0
        (((w.links 0).touch.routeAck (some ⟨num, .ackq⟩) true).handUp segment) := by
    rw [step_deliver found, receive_dataSeg receiver.running]
    refine handleData_quiet touched.outside acked ?_ prompt first last next
    rw [acknum, acknum2]
    simp [routeAck]
  rw [same]
  exact ⟨by simp, touched.modify fun _ => _⟩

end World

namespace Pair

open Connection World

variable {pair : Pair Unit Unit} {messages : List Bytes}

/-- The joined step and its condition, with session control that does nothing
at either end. -/
abbrev moves : Pair Unit Unit → Input Unit Unit → Pair Unit Unit :=
  step quiet quiet

abbrev Allowed : Pair Unit Unit → Input Unit Unit → Prop :=
  Joins quiet quiet 0 0

/-- Everything that was sent has arrived and is acknowledged. -/
structure Idle (messages : List Bytes) (pair : Pair Unit Unit) : Prop where
  left : pair.left.Serves 1
  right : pair.right.Serves 7
  sender : (pair.here 0).Sender messages
  empty : (pair.here 0).txq = []
  receiver : (pair.there 0).Receiver messages

/-- One empty message is sent, arrives and is acknowledged. -/
def round (count : Nat) : List (Input Unit Unit) :=
  [.left (.act (.sendData 0 [])), .right (.deliver 1026 (.dataSeg (nextSegment count []))),
    .left (.deliver 1025 (.ackData (lastAck (count + 1))))]

theorem sends (serves : pair.left.Serves 1) (sender : (pair.here 0).Sender messages) {data : Bytes}
    (short : data.length ≤ 1) (free : (pair.here 0).txq = [] ∨ ∃ oldest rest,
      (pair.here 0).txq = oldest :: rest ∧ oldest.segnum = 2 ^ 32 - 1) :
    let next := moves pair (.left (.act (.sendData 0 data)))
    Allowed pair (.left (.act (.sendData 0 data))) ∧ next.left.Serves 1 ∧
      ∃ e : TxEntry, e.segnum = (messages.length + 1) % 2 ^ 32 ∧
        e.seq = Mod.wrap (messages.length + 1) ∧ (next.here 0).txq = (pair.here 0).txq ++ [e] ∧
        ⟨.dataSeg (nextSegment messages.length data), messages.length + 1, 0⟩
          ∈ (next.here 0).outbox ∧ (next.here 0).Sender (messages ++ [data]) := by
  intro next
  obtain ⟨same, still⟩ := serves.sendData data
  obtain ⟨e, segnum, seq, queue, outbox, after⟩ := sender.sendData short free
  have here : next.here 0 = (pair.here 0).sendData data := same
  refine ⟨⟨trivial, ?_⟩, still, e, segnum, seq, ?_, ?_, ?_⟩
  · rw [same]
    exact after.running
  · rw [here]
    exact queue
  · rw [here, outbox]
    exact mem_append_right _ (mem_singleton_self _)
  · rw [here]
    exact after

theorem arrives (serves : pair.right.Serves 7)
    (receiver : (pair.there 0).Receiver messages) {count : Nat}
    {data : Bytes} (late : messages.length ≤ count)
    (turn : (Mod.wrap (count + 1) : Seq) = Mod.wrap (messages.length + 1))
    (sent : ⟨.dataSeg (nextSegment count data), count + 1, 0⟩ ∈ (pair.here 0).outbox) :
    let next := moves pair (.right (.deliver 1026 (.dataSeg (nextSegment count data))))
    Allowed pair (.right (.deliver 1026 (.dataSeg (nextSegment count data)))) ∧
      next.right.Serves 7 ∧ (next.there 0).Receiver (messages ++ [data]) ∧
      ⟨.ackData (lastAck (messages.length + 1)), 0, messages.length + 1⟩ ∈
        (next.there 0).outbox := by
  intro next
  obtain ⟨same, still⟩ := @Serves.dataSeg pair.right 7 messages serves
    receiver 1026 (Mod.wrap 0) (nextSegment count data) rfl rfl rfl rfl rfl rfl turn
  obtain ⟨acked, _⟩ := receiver.acked (Mod.wrap 0)
  obtain ⟨after, outbox⟩ := @Receiver.handUp _ messages acked (nextSegment count data) rfl
  have there : next.there 0 =
      ((pair.there 0).touch.routeAck (some ⟨Mod.wrap 0, .ackq⟩) true).handUp
        (nextSegment count data) := same
  have recent : Frame.Recent (pair.there 0) ⟨.dataSeg (nextSegment count data), count + 1, 0⟩ := by
    have rcvd := receiver.rcvd
    have front : (pair.there 0).front = 1 := by
      unfold front
      rw [receiver.queued, receiver.txq]
      rfl
    refine ⟨?_, ?_⟩
    · show (pair.there 0).rcvd + 1 < count + 1 + 2048
      omega
    · rw [front]
      exact (by decide : 1 < 0 + 2048)
  refine ⟨⟨fun _ => .inl ⟨_, sent, rfl, recent⟩, ?_⟩, still, ?_, ?_⟩
  · rw [same]
    exact after.running
  · rw [there]
    exact after
  · rw [there, outbox]
    exact mem_append_right _ (mem_singleton_self _)

theorem settles (serves : pair.left.Serves 1) (sender : (pair.here 0).Sender messages) {e : TxEntry}
    (only : (pair.here 0).txq = [e]) (seq : e.seq = Mod.wrap messages.length)
    (sent : ⟨.ackData (lastAck messages.length), 0, messages.length⟩ ∈ (pair.there 0).outbox) :
    let next := moves pair (.left (.deliver 1025 (.ackData (lastAck messages.length))))
    Allowed pair (.left (.deliver 1025 (.ackData (lastAck messages.length)))) ∧
      next.left.Serves 1 ∧ (next.here 0).Sender messages ∧ (next.here 0).txq = [] := by
  intro next
  obtain ⟨same, still⟩ := @Serves.ackData pair.left 1 serves sender.running
    1025 (lastAck messages.length) rfl
  obtain ⟨after, empty⟩ := sender.acked only seq
  have here : next.here 0 =
      ((pair.here 0).touch.routeAck (lastAck messages.length).acknum
        true).routeAck (lastAck messages.length).acknum2 true := same
  have recent : Frame.Recent (pair.here 0)
      ⟨.ackData (lastAck messages.length), 0, messages.length⟩ := by
    show (pair.here 0).front < messages.length + 2048
    unfold front
    rw [sender.queued]
    omega
  refine ⟨⟨fun _ => .inl ⟨_, sent, rfl, recent⟩, ?_⟩, still, ?_, ?_⟩
  · rw [same]
    exact after.running
  · rw [here]
    exact after
  · rw [here]
    exact empty

theorem Idle.round (idle : pair.Idle messages) :
    Run.Guarded moves Allowed pair (Pair.round messages.length) ∧
      ((Pair.round messages.length).foldl moves pair).Idle (messages ++ [[]]) := by
  have length : (messages ++ [([] : Bytes)]).length = messages.length + 1 := by
    simp
  obtain ⟨sending, left, e, _, seq, queue, sent, sender⟩ :=
    @sends pair messages idle.left idle.sender [] (Nat.zero_le _) (.inl idle.empty)
  obtain ⟨arriving, right, receiver, acked⟩ := @arrives
    (moves pair (.left (.act (.sendData 0 [])))) messages idle.right
    idle.receiver messages.length [] (Nat.le_refl _) rfl sent
  rw [idle.empty] at queue
  rw [← length] at seq acked
  obtain ⟨settling, left', sender', empty⟩ := @settles
    (moves (moves pair (.left (.act (.sendData 0 []))))
      (.right (.deliver 1026 (.dataSeg (nextSegment messages.length [])))))
    (messages ++ [[]]) left sender e queue seq acked
  rw [length] at settling left' sender' empty
  exact ⟨⟨sending, arriving, settling, trivial⟩, ⟨left', right, sender', empty, receiver⟩⟩

def rounds (count : Nat) : List (Input Unit Unit) :=
  (List.range count).flatMap round

theorem Idle.rounds (idle : pair.Idle []) (count : Nat) :
    Run.Guarded moves Allowed pair (Pair.rounds count) ∧ ((Pair.rounds count).foldl moves pair).Idle
        (replicate count []) := by
  induction count with
  | zero => exact ⟨trivial, idle⟩
  | succ count ih =>
    obtain ⟨guarded, reached⟩ := ih
    obtain ⟨more, final⟩ := reached.round
    rw [length_replicate] at more final
    rw [Pair.rounds, range_succ, flatMap_append, flatMap_singleton, foldl_append, replicate_succ']
    exact ⟨(Run.guarded_append _ _ _ _ _).mpr ⟨guarded, more⟩, final⟩

/-! ## Past the last number -/

/-- The oldest segment in flight has the last absolute number. -/
structure Flooded (taken messages : List Bytes) (pair : Pair Unit Unit) : Prop where
  left : pair.left.Serves 1
  right : pair.right.Serves 7
  sender : (pair.here 0).Sender messages
  oldest : ∃ oldest rest, (pair.here 0).txq = oldest :: rest ∧ oldest.segnum = 2 ^ 32 - 1
  receiver : (pair.there 0).Receiver taken

theorem Idle.flooded (idle : pair.Idle messages) (last : messages.length + 2 = 2 ^ 32) :
    Allowed pair (.left (.act (.sendData 0 []))) ∧
      (moves pair (.left (.act (.sendData 0 [])))).Flooded messages (messages ++ [[]]) := by
  obtain ⟨sending, left, e, segnum, _, queue, _, sender⟩ :=
    @sends pair messages idle.left idle.sender [] (Nat.zero_le _) (.inl idle.empty)
  rw [idle.empty] at queue
  refine ⟨sending, left, idle.right, sender, ⟨e, [], queue, ?_⟩, idle.receiver⟩
  omega

theorem Flooded.sends {taken : List Bytes} (flooded : pair.Flooded taken messages) {data : Bytes}
    (short : data.length ≤ 1) :
    Allowed pair (.left (.act (.sendData 0 data))) ∧
      (moves pair (.left (.act (.sendData 0 data)))).Flooded taken (messages ++ [data]) ∧
      ⟨.dataSeg (nextSegment messages.length data), messages.length + 1, 0⟩ ∈
        ((moves pair (.left (.act (.sendData 0 data)))).here 0).outbox := by
  obtain ⟨oldest, rest, shape, last⟩ := flooded.oldest
  obtain ⟨sending, left, e, _, _, queue, sent, sender⟩ :=
    @Pair.sends pair messages flooded.left flooded.sender data short (.inr flooded.oldest)
  rw [shape] at queue
  exact ⟨sending, ⟨left, flooded.right, sender, ⟨oldest, _, queue, last⟩, flooded.receiver⟩, sent⟩

theorem Flooded.sendsMany {taken : List Bytes}
    (flooded : pair.Flooded taken messages) (count : Nat) :
    Run.Guarded moves Allowed pair (replicate count (.left (.act (.sendData 0 [])))) ∧
      ((replicate count (.left (.act (.sendData 0 [])))).foldl moves
        pair).Flooded taken (messages ++ replicate count []) := by
  induction count generalizing pair messages with
  | zero =>
    rw [replicate_zero, replicate_zero, append_nil]
    exact ⟨trivial, flooded⟩
  | succ count ih =>
    obtain ⟨sending, next, _⟩ := @Flooded.sends pair messages taken flooded [] (Nat.zero_le _)
    obtain ⟨guarded, final⟩ := ih next
    rw [append_assoc] at final
    exact ⟨⟨sending, guarded⟩, final⟩

theorem here_right (pair : Pair Unit Unit) (input : World.Input Unit) :
    (moves pair (.right input)).here 0 = pair.here 0 :=
  rfl

/-- The run in which a segment overtakes the one whose sequence number it
has. -/
def overtaking (count extra : Nat) : List (Input Unit Unit) :=
  rounds count ++ (.left (.act (.sendData 0 [])) ::
    (List.replicate extra (.left (.act (.sendData 0 []))) ++
      [.left (.act (.sendData 0 [1])), .right (.deliver 1026
        (.dataSeg (nextSegment (count + 1 + extra) [1])))]))

theorem Idle.overtaken (idle : pair.Idle []) {count extra : Nat}
    (last : count + 2 = 2 ^ 32) (turn : extra + 1 = 4096) :
    Run.Guarded moves Allowed pair (overtaking count extra) ∧
      ¬ (((overtaking count extra).foldl moves pair).there 0).messages <+:
        (((overtaking count extra).foldl moves pair).here 0).submitted := by
  obtain ⟨guarded, quiescent⟩ := idle.rounds count
  obtain ⟨sending, flooded⟩ := quiescent.flooded (by rw [length_replicate]; exact last)
  obtain ⟨many, reached⟩ := flooded.sendsMany extra
  obtain ⟨final, after, sent⟩ := @Flooded.sends _ _ _ reached [1] (by decide)
  have total : (replicate count ([] : Bytes) ++ [[]] ++
      replicate extra []).length = count + 1 + extra := by
    rw [length_append, length_append, length_replicate, length_replicate, length_singleton]
  rw [total] at sent
  obtain ⟨arriving, _, receiver, _⟩ := arrives after.right after.receiver
    (by rw [length_replicate]; omega) (by
      rw [length_replicate, Mod.wrap_eq_wrap_iff]
      have far : count + 1 + extra + 1 = count + 1 + 4096 := by omega
      rw [far, Nat.add_mod_right])
    sent
  unfold overtaking
  rw [foldl_append, foldl_cons, foldl_append, foldl_cons, foldl_cons, foldl_nil, receiver.messages]
  constructor
  · rw [Run.guarded_append, Run.guarded_cons, Run.guarded_append]
    exact ⟨guarded, sending, many, final, arriving, trivial⟩
  · intro ordered
    rw [here_right, after.sender.submitted] at ordered
    rw [append_assoc, append_assoc, prefix_append_right_inj,
      singleton_append, cons_prefix_cons] at ordered
    cases ordered.1

/-! ## From the handshake on -/

def opened : Pair Unit Unit where
  left := reach quiet ⟨1, 1, 5, 4, 60⟩ [1] () [.act (.connect 1025 []),
      .deliver 1025 (.connConf ⟨1, 7, svcNone, 2, mss, []⟩)]
  right := reach quiet ⟨1, 1, 5, 4, 60⟩ [7] ()
    [.deliver 1026 (.connInit ⟨0, 1, svcNone, 2, mss, []⟩), .act (.accept 0 [] svcNone),
      .deliver 1026 (.ackData ⟨7, 1, some ⟨Mod.wrap 0, .ackq⟩, none⟩)]

theorem opened_right_ooo : (opened.there 0).ooo = ∅ :=
  AList.ext (by decide +kernel)

theorem opened_idle : opened.Idle [] := by
  have left : (opened.here 0).txq = [] := by decide +kernel
  constructor
  case left => exact ⟨by decide +kernel, by decide +kernel, by decide +kernel⟩
  case right => exact ⟨by decide +kernel, by decide +kernel, by decide +kernel⟩
  case sender =>
    constructor
    all_goals decide +kernel
  case empty => exact left
  case receiver =>
    constructor
    case ooo => exact opened_right_ooo
    all_goals decide +kernel

theorem opened_begins : opened.Begins 0 0 := by
  constructor
  case knownLeft => exact known_reach _ _ _ _
  case knownRight => exact known_reach _ _ _ _
  case presentLeft => decide +kernel
  case presentRight => decide +kernel
  case qmaxLeft => decide +kernel
  case qmaxRight => decide +kernel
  case unusedLeft =>
    constructor
    case outbox =>
      intro f member
      rcases mem_cons.mp member with rfl | later
      · exact ⟨rfl, trivial⟩
      · rw [mem_singleton.mp later]
        exact ⟨rfl, rfl, rfl, Nat.le_refl 0⟩
    case ooo => exact AList.ext (by decide +kernel)
    all_goals decide +kernel
  case unusedRight =>
    constructor
    case outbox =>
      intro f member
      rcases mem_cons.mp member with rfl | later
      · exact ⟨rfl, trivial⟩
      · rw [mem_singleton.mp later]
        exact ⟨rfl, trivial⟩
    case ooo => exact opened_right_ooo
    all_goals decide +kernel

instance (c : Connection) : Decidable c.Counts :=
  inferInstanceAs (Decidable (_ ≤ _))

theorem messages_in_order_round :
    (((round 0).foldl moves opened).there 0).messages = [[]] ∧
      (((round 0).foldl moves opened).there 0).messages <+:
        (((round 0).foldl moves opened).here 0).submitted := by
  obtain ⟨guarded, idle⟩ := opened_idle.round
  have room : Run.Guarded moves (Room quiet quiet 0 0) opened (round 0) :=
    ⟨⟨by decide +kernel, by decide +kernel⟩, ⟨by decide +kernel, by decide +kernel⟩,
      ⟨by decide +kernel, by decide +kernel⟩, trivial⟩
  exact ⟨idle.receiver.messages, (messages_in_order opened_begins guarded room).1⟩

/-- With a queue of one segment more than four thousand segments come to be in
flight, and when the last of them overtakes the others its message is handed up
in place of the one that has the same sequence number. -/
theorem wrapped_number_overtakes :
    opened.Begins 0 0 ∧ ∃ inputs : List (Input Unit Unit), Run.Guarded moves Allowed opened inputs ∧
          ¬ ((inputs.foldl moves opened).there 0).messages <+:
            ((inputs.foldl moves opened).here 0).submitted := by
  have run := @Idle.overtaken opened opened_idle (2 ^ 32 - 2) 4095 (by decide) (by decide)
  exact ⟨opened_begins, overtaking (2 ^ 32 - 2) 4095, run⟩

end Pair

end Decnet.Nsp
