import Decnet.Nsp.Packets
import Mathlib.Algebra.Order.Ring.Unbundled.Rat
import Mathlib.Data.List.AList
import Mathlib.Logic.Function.Iterate

/-!
# One end of a logical link

The data members of `nsp::Connection` and those of its member functions that
never call session control: segmentation, the transmit queue with its flow
control and congestion window, acknowledgements, the other-data subchannel and
the opening messages.

Machine words of type `unsigned` are natural numbers reduced modulo `2 ^ 32`
where the code lets them wrap.  A `double` is a rational number.  A timer is
the fact that it is armed; its expiry is an input that is possible while it is
armed.  Counters and round trip estimates are left out.

A few members are history: the code does not have them and no operation reads
them.  They are the unwrapped numbers in `Frame`, and in `Connection` the
fields from `submitted` on.
-/

namespace Decnet.Nsp

/-- The configuration and node parameters that NSP reads. -/
structure NspConfig where
  (maxconns qmax retransmits phase closedGrace : Nat)
  deriving DecidableEq, Repr

namespace NspConfig

def nspVersion (config : NspConfig) : Nat :=
  if config.phase = 2 then 1 else if config.phase = 3 then 0 else 2

end NspConfig

/-- The largest payload a data segment may carry. -/
def mss : Nat := 576 - 13

/-- An interrupt message carries at most sixteen bytes. -/
def maxInterrupt : Nat := 16

def discNormal : Nat := 0
def discNoLink : Nat := 41
def discComplete : Nat := 42
def discObjFail : Nat := 38
def noResources : Nat := 1

inductive ConnState where
  | s0 | ci | cd | cr | cc | run | di | cl
  deriving DecidableEq, Repr

/-- The notifications session control receives about one link. -/
inductive Upcall where
  | connectReceived (payload : Bytes)
  | connectConfirmed (data : Bytes)
  | connectRejected (reason : Nat) (data : Bytes)
  | dataReceived (data : Bytes)
  | interruptReceived (data : Bytes)
  | runState
  | disconnected (reason : Nat) (data : Bytes)
  deriving DecidableEq, Repr

/-- A packet as it is sent.  `number` is the unwrapped number of a data segment
and `acks` the count of segments that had been taken in sequence when the
packet was built. -/
structure Frame where
  packet : Packet
  (number acks : Nat)
  deriving DecidableEq, Repr

structure TxEntry where
  seq : Seq
  (segnum msgnum : Nat)
  frame : Frame
  (sent isData timed : Bool)
  deriving DecidableEq, Repr

structure Connection where
  (srcaddr dstaddr : Nat)
  dest : Nodeid
  state : ConnState
  (cphase segsize : Nat)
  (nextSend nextExpect : Seq)
  txq : List TxEntry
  (nextSegnum nextMsgnum maxAckedSeg flow maxSeg maxMsg : Nat)
  xon : Bool
  qmax : Nat
  cwnd : ℚ
  ssthresh : ℚ
  nakFrom : Option Seq
  ooo : AList (fun _ : Nat => DataSeg)
  (ackpending ackTimer : Bool)
  (intNextSend intNextExpect : Seq)
  intTxq : List TxEntry
  (intNextMsg intMaxMsg : Nat)
  assembly : Bytes
  assembling : Bool
  retries : Nat
  (timerIsRetransmit timer : Bool)
  submitted : List Bytes
  (queued rcvd : Nat)
  outbox : List Frame
  events : List Upcall
  closings : Nat

namespace Connection

/-- The constructor. -/
def create (config : NspConfig) (srcaddr : Nat) (dest : Nodeid) : Connection :=
  { srcaddr := srcaddr
    dstaddr := 0
    dest := dest
    state := .s0
    cphase := 4
    segsize := mss
    nextSend := Mod.wrap 1
    nextExpect := Mod.wrap 1
    txq := []
    nextSegnum := 1
    nextMsgnum := 1
    maxAckedSeg := 0
    flow := svcNone
    maxSeg := 0
    maxMsg := 0
    xon := true
    qmax := config.qmax
    cwnd := 2
    ssthresh := config.qmax
    nakFrom := none
    ooo := ∅
    ackpending := false
    ackTimer := false
    intNextSend := Mod.wrap 1
    intNextExpect := Mod.wrap 1
    intTxq := []
    intNextMsg := 1
    intMaxMsg := 1
    assembly := []
    assembling := false
    retries := 0
    timerIsRetransmit := false
    timer := false
    submitted := []
    queued := 0
    rcvd := 0
    outbox := []
    events := []
    closings := 0 }

def running (c : Connection) : Bool :=
  c.state = .run

def isClosed (c : Connection) : Bool :=
  c.state = .cl

/-- The congestion window, between one and `qmax`. -/
def window (c : Connection) : Nat :=
  max 1 (min c.cwnd.floor.toNat c.qmax)

def setPhase (config : NspConfig) (info : Nat) (c : Connection) : Connection :=
  { c with cphase := min (phaseOfVersion (info % 4)) config.phase }

/-- Hand a packet that carries no data segment to routing. -/
def send (packet : Packet) (c : Connection) : Connection :=
  { c with outbox := c.outbox ++ [⟨packet, 0, c.rcvd⟩] }

/-- Everything up to but not including what is expected next. -/
def ackNum (qual : Qual) (c : Connection) : AckNum :=
  ⟨c.nextExpect - Mod.wrap 1, qual⟩

def stopAckHoldoff (c : Connection) : Connection :=
  { c with ackpending := false, ackTimer := false }

def sendAck (c : Connection) : Connection :=
  c.stopAckHoldoff.send (.ackData ⟨c.dstaddr, c.srcaddr, some (c.ackNum .ackq), none⟩)

def delayAck (c : Connection) : Connection :=
  { c with ackpending := true, ackTimer := true }

def ackHoldoff (c : Connection) : Connection :=
  if c.ackpending then c.sendAck else c

def inFlight (c : Connection) : Nat :=
  c.txq.countP (fun entry => entry.sent)

/-- The highest segment number the window lets out, in `unsigned`
arithmetic. -/
def maxq (c : Connection) : Nat :=
  match c.txq with
  | [] => c.window - 1
  | front :: _ => (front.segnum + c.window - 1) % 2 ^ 32

/-- May this entry go out now? -/
def flowOk (c : Connection) (entry : TxEntry) : Bool :=
  if !entry.isData then
    true
  else if !c.xon then
    false
  else if entry.segnum > c.maxq then
    false
  else if c.flow = svcSeg then
    entry.segnum ≤ c.maxSeg
  else if c.flow = svcMsg then
    entry.msgnum ≤ c.maxMsg
  else
    true

/-- The loop of `send_blocked`: the queue after it and the frames sent. -/
def sendBlockedLoop (c : Connection) :
    Bool → List TxEntry → List TxEntry × List Frame
  | _, [] => ([], [])
  | timing, entry :: rest =>
    if entry.sent then
      let (queue, frames) := c.sendBlockedLoop timing rest
      (entry :: queue, frames)
    else if c.flowOk entry then
      let (queue, frames) := c.sendBlockedLoop true rest
      ({ entry with sent := true, timed := !timing || entry.timed } :: queue, entry.frame :: frames)
    else
      (entry :: rest, [])

/-- Send whatever flow control now allows, stopping at the first entry it
does not. -/
def sendBlocked (c : Connection) : Connection :=
  let (queue, frames) := c.sendBlockedLoop (c.txq.any (fun entry => entry.timed)) c.txq
  let c := { c with txq := queue, outbox := c.outbox ++ frames }
  if frames.isEmpty then c else { c with retries := 0, timerIsRetransmit := true, timer := true }

/-- Open the congestion window for one acknowledged segment. -/
def openWindow (ssthresh cwnd : ℚ) : ℚ :=
  if cwnd < ssthresh then cwnd + 1 else cwnd + 1 / cwnd

/-- The queue entries that an acknowledgement of `num` removes. -/
def acknowledges (num : Seq) (entry : TxEntry) : Bool :=
  entry.sent && !num.less entry.seq

def processAck (num : Seq) (c : Connection) : Connection :=
  let popped := c.txq.takeWhile (acknowledges num)
  let acked := popped.countP (fun entry => entry.isData)
  let grown := Nat.iterate (openWindow c.ssthresh) acked c.cwnd
  let progress := !popped.isEmpty
  let c : Connection :=
    { c with
      txq := c.txq.dropWhile (acknowledges num)
      maxAckedSeg := (popped.getLast?.map TxEntry.segnum).getD c.maxAckedSeg
      cwnd := min grown c.qmax
      nakFrom := if progress then none else c.nakFrom
      retries := if progress then 0 else c.retries }
  let c : Connection :=
    if progress then
      if c.inFlight > 0 then
        { c with timerIsRetransmit := true, timer := true }
      else if c.timerIsRetransmit then
        { c with timer := false }
      else
        c
    else if c.txq.isEmpty && c.timerIsRetransmit then
      { c with timer := false }
    else
      c
  c.sendBlocked

def unsend (entry : TxEntry) : TxEntry :=
  if entry.sent && entry.isData then { entry with sent := false, timed := false } else entry

def processNak (c : Connection) : Connection :=
  match c.txq with
  | [] => c
  | front :: _ =>
    if !front.sent then
      c
    else if c.nakFrom = some front.seq then
      c
    else
      sendBlocked
        { c with
          nakFrom := some front.seq
          ssthresh := max 2 ((c.inFlight : ℚ) / 2)
          cwnd := max 2 ((c.inFlight : ℚ) / 2)
          txq := c.txq.map unsend }

def processIntAck (num : Seq) (c : Connection) : Connection :=
  { c with intTxq := c.intTxq.dropWhile (acknowledges num) }

def routeAck (ack : Option AckNum) (onData : Bool) (c : Connection) : Connection :=
  match ack with
  | none => c
  | some ack =>
    let forData := if ack.isCross then !onData else onData
    if forData then
      let c := c.processAck ack.num
      if ack.isNak then c.processNak else c
    else
      c.processIntAck ack.num

def canInterrupt (c : Connection) : Bool :=
  c.intMaxMsg ≥ c.intNextMsg

def sendInterrupt (data : Bytes) (c : Connection) : Bool × Connection :=
  if !c.running then
    (false, c)
  else if data.length > maxInterrupt then
    (false, c)
  else if !c.canInterrupt then
    (false, c)
  else
    let frame : Frame :=
      ⟨.intMsg
        { dstaddr := c.dstaddr
          srcaddr := c.srcaddr
          acknum := none
          acknum2 := some (c.ackNum .xack)
          segnum := c.intNextSend
          payload := data }, 0, c.rcvd⟩
    let entry : TxEntry :=
      { seq := c.intNextSend
        segnum := 0
        msgnum := c.intNextMsg
        frame := frame
        sent := true
        isData := false
        timed := false }
    (true,
      { c with
        intTxq := c.intTxq ++ [entry]
        outbox := c.outbox ++ [frame]
        intNextSend := c.intNextSend.succ
        intNextMsg := (c.intNextMsg + 1) % 2 ^ 32 })

def sendAckOther (num : Seq) (c : Connection) : Connection :=
  c.send (.ackOther ⟨c.dstaddr, c.srcaddr, some ⟨num, .ackq⟩, none⟩)

def takeOther (num : Seq) (c : Connection) : Connection :=
  { c with intNextExpect := num + Mod.wrap 1 }.sendAckOther num

/-- A credit count after adding a signed amount, as an `unsigned`. -/
def addCredit (credit : Nat) (delta : Int) : Nat :=
  (((credit : Int) + delta) % (2 ^ 32 : Int)).toNat

/-- The part of `handle_link_service` for data credit and XON or XOFF. -/
def dataCredit (message : LinkSvcMsg) (c : Connection) : Connection :=
  let delta := message.fcval
  let modify (c : Connection) : Connection :=
    sendBlocked (if message.fcmod ≠ LinkSvcMsg.noChange then
        { c with xon := message.fcmod = LinkSvcMsg.xon }
      else
        c)
  if c.flow = svcMsg then
    if delta ≥ 0 ∧ (c.maxMsg : Int) + delta < (c.maxAckedSeg : Int) + 128 then
      modify { c with maxMsg := addCredit c.maxMsg delta }
    else
      c
  else if c.flow = svcSeg then
    let want := (c.maxSeg : Int) + delta
    if want ≥ (c.maxAckedSeg : Int) ∧ want < (c.maxAckedSeg : Int) + 128 then
      modify { c with maxSeg := addCredit c.maxSeg delta }
    else
      c
  else
    modify c

def applyCredit (message : LinkSvcMsg) (c : Connection) : Connection :=
  if message.fcvalInt = LinkSvcMsg.intReq then
    if message.fcval < 0 then c else { c with intMaxMsg := addCredit c.intMaxMsg message.fcval }
  else if message.fcvalInt ≠ LinkSvcMsg.dataReq then
    c
  else
    c.dataCredit message

def handleLinkService (message : LinkSvcMsg) (c : Connection) : Connection :=
  if !message.valid then
    c
  else
    let c := c.routeAck message.acknum false
    let c := c.routeAck message.acknum2 false
    if message.segnum.less c.intNextExpect then
      c.sendAckOther (c.intNextExpect - Mod.wrap 1)
    else
      (c.takeOther message.segnum).applyCredit message

/-- One segment of a message: the begin and end marks and the bytes. -/
structure Piece where
  (bom eom : Bool)
  payload : Bytes
  deriving DecidableEq, Repr

/-- Split into pieces of at most `limit` bytes.  Every round but the last
takes `limit` bytes, so the length of the data bounds the rounds. -/
def cut (limit : Nat) : Nat → Bool → Bytes → List Piece
  | 0, first, data => [⟨first, true, data⟩]
  | rounds + 1, first, data =>
    if data.length ≤ limit then
      [⟨first, true, data⟩]
    else
      ⟨first, false, data.take limit⟩ :: cut limit rounds false (data.drop limit)

/-- The segments of one message; an empty message is one segment. -/
def pieces (limit : Nat) (data : Bytes) : List Piece :=
  cut limit data.length true data

def segmentLimit (c : Connection) : Nat :=
  if c.segsize = 0 then mss else c.segsize

def queueSegment (c : Connection) (piece : Piece) : Connection :=
  let segment : DataSeg :=
    { dstaddr := c.dstaddr
      srcaddr := c.srcaddr
      acknum := some (c.ackNum .ackq)
      acknum2 := none
      segnum := c.nextSend
      dly := false
      bom := piece.bom
      eom := piece.eom
      payload := piece.payload }
  let entry : TxEntry :=
    { seq := c.nextSend
      segnum := c.nextSegnum
      msgnum := c.nextMsgnum
      frame := ⟨.dataSeg segment, c.queued + 1, c.rcvd⟩
      sent := false
      isData := true
      timed := false }
  { c with
    txq := c.txq ++ [entry]
    nextSegnum := (c.nextSegnum + 1) % 2 ^ 32
    nextMsgnum :=
      if piece.eom then (c.nextMsgnum + 1) % 2 ^ 32 else c.nextMsgnum
    nextSend := c.nextSend.succ
    queued := c.queued + 1 }

def sendSegments (data : Bytes) (c : Connection) : Connection :=
  ((pieces c.segmentLimit data).foldl queueSegment c).sendBlocked

def sendData (data : Bytes) (c : Connection) : Connection :=
  if !c.running then c else sendSegments data { c with submitted := c.submitted ++ [data] }

/-- The entry for a connect message, which is sequence number 0. -/
def connectEntry (frame : Frame) (timed : Bool) : TxEntry :=
  { seq := Mod.wrap 0
    segnum := 0
    msgnum := 0
    frame := frame
    sent := true
    isData := false
    timed := timed }

def startOutbound (config : NspConfig) (payload : Bytes) (c : Connection) : Connection :=
  let packet : Packet :=
    .connInit
      { dstaddr := 0
        srcaddr := c.srcaddr
        fcopt := svcNone
        info := config.nspVersion
        segsize := mss
        payload := payload }
  send packet
    { c with
      state := .ci
      txq := c.txq ++ [connectEntry ⟨packet, 0, c.rcvd⟩ true]
      retries := 0
      timerIsRetransmit := true
      timer := true }

/-- Does `accept` return normally?  Encoding the confirm throws for session
data of more than sixteen bytes and for an option of more than two bits. -/
def acceptReturns (data : Bytes) (fcopt : Nat) (c : Connection) : Bool :=
  c.state ≠ .cr ∨ (data.length ≤ maxImage ∧ fcopt < 4)

/-- The state changes before the confirm is encoded. -/
def accept (config : NspConfig) (data : Bytes) (fcopt : Nat) (c : Connection) : Connection :=
  if c.state ≠ .cr then
    c
  else if !c.acceptReturns data fcopt then
    { c with state := .cc }
  else
    let packet : Packet :=
      .connConf
        { dstaddr := c.dstaddr
          srcaddr := c.srcaddr
          fcopt := fcopt
          info := config.nspVersion
          segsize := mss
          dataCtl := data }
    send packet
      { c with
        state := .cc
        txq := c.txq ++ [connectEntry ⟨packet, 0, c.rcvd⟩ false]
        retries := 0
        timerIsRetransmit := true
        timer := true }

def discInit (reason : Nat) (data : Bytes) (c : Connection) : Packet :=
  .discInit ⟨c.dstaddr, c.srcaddr, reason % 65536, data⟩

def disconnectReturns (data : Bytes) (c : Connection) : Bool :=
  c.isClosed ∨ data.length ≤ maxImage

def disconnect (reason : Nat) (data : Bytes) (c : Connection) : Connection :=
  if c.isClosed then
    c
  else if !c.disconnectReturns data then
    c
  else
    { c.send (c.discInit reason data) with
      state := .di
      timerIsRetransmit := false
      timer := true }

def sendDiscConf (c : Connection) : Connection :=
  c.send (.discConf ⟨c.dstaddr, c.srcaddr, discComplete⟩)

def sendAckConn (c : Connection) : Connection :=
  if c.cphase > 2 then c.send (.ackConn c.dstaddr) else c

/-- What a timeout does to the queue: the oldest entry goes again now, the
data entries after it go again as the window opens. -/
def resendQueue : List TxEntry → List TxEntry × List Frame
  | [] => ([], [])
  | entry :: rest =>
    if entry.sent then
      ({ entry with timed := false } :: rest.map (fun later =>
            if later.sent then { later with sent := !later.isData, timed := false } else later),
        [entry.frame])
    else
      let (queue, frames) := resendQueue rest
      (entry :: queue, frames)

/-- The part of `retransmit` below the retry limit. -/
def resend (c : Connection) : Connection :=
  let (queue, frames) := resendQueue c.txq
  { c with
    ssthresh := max 2 ((c.inFlight : ℚ) / 2)
    cwnd := 1
    txq := queue
    outbox := c.outbox ++ frames
    timerIsRetransmit := true
    timer := true }

/-- What `close` does to the link before it tells session control. -/
def clearQueues (c : Connection) : Connection :=
  { c.stopAckHoldoff with
    timer := false
    txq := []
    intTxq := []
    ooo := ∅ }

/-- Keep a segment that is ahead of its turn. -/
def hold (segment : DataSeg) (c : Connection) : Connection :=
  if c.ooo.keys.length < c.qmax then
    if segment.segnum.value ∈ c.ooo then
      c
    else
      { c with ooo := c.ooo.insert segment.segnum.value segment }
  else
    c

def completes (segment : DataSeg) (c : Connection) : Bool :=
  (segment.bom || c.assembling) && segment.eom

/-- Add an in-sequence segment to the assembly buffer.  A continuation with no
beginning is dropped. -/
def assemble (segment : DataSeg) (c : Connection) : Connection :=
  let c := if segment.bom then { c with assembly := [], assembling := true } else c
  if !c.assembling then
    c
  else
    { c with
      assembly := c.assembly ++ segment.payload
      assembling := !segment.eom }

def clearAssembly (c : Connection) : Connection :=
  { c with assembly := [] }

def advance (c : Connection) : Connection :=
  { c with nextExpect := c.nextExpect.succ, rcvd := c.rcvd + 1 }

def release (c : Connection) : Connection :=
  { c with ooo := c.ooo.erase c.nextExpect.value }

def setRetries (retries : Nat) (c : Connection) : Connection :=
  { c with retries := retries }

def stopTimer (c : Connection) : Connection :=
  { c with timer := false }

def stopAckTimer (c : Connection) : Connection :=
  { c with ackTimer := false }

def touch (c : Connection) : Connection :=
  if c.cphase > 2 && !c.timerIsRetransmit then { c with timer := true } else c

/-- The inactivity timer: prove that the link is still there. -/
def inactive (c : Connection) : Connection :=
  { c.sendAck with timer := true }

/-- The connect message is acknowledged: wait for the answer. -/
def connectAcked (c : Connection) : Connection :=
  { c.processAck (Mod.wrap 0) with timer := true, timerIsRetransmit := false }

/-- The far end accepted: learn its parameters. -/
def confirm (config : NspConfig) (message : ConnConf) (c : Connection) : Connection :=
  let c := { c with dstaddr := message.srcaddr }
  let c := c.setPhase config message.info
  let c := { c with segsize := min message.segsize mss, flow := message.fcopt }
  let c := c.processAck (Mod.wrap 0)
  let c := if c.cphase > 2 then c.sendAck else c
  { c with timer := true, timerIsRetransmit := false }

/-- The far end rejected: acknowledge it so that it can let go. -/
def confirmReject (message : DiscInit) (c : Connection) : Connection :=
  { c with dstaddr := message.srcaddr }.sendDiscConf

/-- The part of `start_inbound` before session control is told. -/
def connectReceived (config : NspConfig) (message : ConnInit) (c : Connection) : Connection :=
  let c := { c with dstaddr := message.srcaddr }
  let c := c.setPhase config message.info
  let c := { c with segsize := min message.segsize mss, flow := message.fcopt }
  { c.sendAckConn with state := .cr, timerIsRetransmit := false, timer := true }

def withState (state : ConnState) (c : Connection) : Connection :=
  { c with state := state }

def noteEvent (upcall : Upcall) (c : Connection) : Connection :=
  { c with events := c.events ++ [upcall] }

def noteClosing (c : Connection) : Connection :=
  { c with closings := c.closings + 1 }

end Connection

end Decnet.Nsp
