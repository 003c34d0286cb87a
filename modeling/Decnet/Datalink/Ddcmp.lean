import Decnet.Common.Backoff
import Mathlib.Logic.Function.Basic

/-!
# The DDCMP protocol engine

The class `ddcmp::Protocol`: startup, sequencing, acknowledgement and
retransmission.  What carries the messages is given to the engine as hooks; the
model keeps what the hooks were called with: the messages put on the wire, the
payloads handed up, the reports to the circuit and the time the timer was last
set to.

Sequence numbers are bytes.  Beside the three numbers of the engine the model
counts, without wrapping, how often each was incremented, and a message on the
wire remembers the counts of the engine that sent it.  No function of the
engine reads a count.
-/

namespace Decnet.Ddcmp

abbrev Bytes := List UInt8

abbrev Seq := UInt8

/-- How many steps forward from one number to the other, modulo 256. -/
def distance (low high : Seq) : Nat := (high - low).toNat

inductive MsgKind where
  | data | maintenance | ack | nak | rep | start | stack
  deriving DecidableEq, Repr

/-- The fields of a message that the engine reads. -/
structure Message where
  kind : MsgKind
  subtype : UInt8
  (resp num : Seq)
  payload : Bytes
  deriving DecidableEq, Repr

def Message.setsResp (message : Message) : Bool :=
  match message.kind with
  | .data => true
  | .ack => true
  | .nak => true
  | _ => false

def makeAck (resp : Seq) : Message := ⟨.ack, 0, resp, 0, []⟩

def makeNak (resp : Seq) (reason : UInt8) : Message := ⟨.nak, reason, resp, 0, []⟩

def makeRep (num : Seq) : Message := ⟨.rep, 0, 0, num, []⟩

def makeStart : Message := ⟨.start, 0, 0, 0, []⟩

def makeStack : Message := ⟨.stack, 0, 0, 0, []⟩

def makeData (num resp : Seq) (payload : Bytes) : Message :=
  ⟨.data, 0, resp, num, payload⟩

def makeMaintenance (payload : Bytes) : Message := ⟨.maintenance, 0, 0, 0, payload⟩

/-! ## Reasons of negative acknowledgements -/

def reasonHcrc : UInt8 := 1

def reasonCrc : UInt8 := 2

def reasonRep : UInt8 := 3

def reasonBuf : UInt8 := 8

def reasonOver : UInt8 := 9

def reasonShrt : UInt8 := 16

def reasonFmt : UInt8 := 17

structure NakCounter where
  data : Bool
  bit : Nat
  deriving DecidableEq, Repr

/-- Which counter a reason belongs to.  Overrun and header format have none. -/
def nakCounter (reason : UInt8) : Option NakCounter :=
  if reason = reasonHcrc then some ⟨true, 0⟩
  else if reason = reasonCrc then some ⟨true, 1⟩
  else if reason = reasonRep then some ⟨true, 2⟩
  else if reason = reasonBuf then some ⟨false, 0⟩
  else if reason = reasonShrt then some ⟨false, 1⟩
  else none

structure Counters where
  (dataErrorsInbound dataErrorsInboundMap dataErrorsOutbound dataErrorsOutboundMap : Nat)
  (remoteBufferErrors remoteBufferErrorsMap remoteReplyTimeouts localReplyTimeouts : Nat)
  deriving DecidableEq, Repr

namespace Counters

def noteInbound (bit : Nat) (counters : Counters) : Counters :=
  { counters with
    dataErrorsInbound := counters.dataErrorsInbound + 1
    dataErrorsInboundMap := counters.dataErrorsInboundMap ||| 2 ^ bit }

def noteOutbound (bit : Nat) (counters : Counters) : Counters :=
  { counters with
    dataErrorsOutbound := counters.dataErrorsOutbound + 1
    dataErrorsOutboundMap := counters.dataErrorsOutboundMap ||| 2 ^ bit }

def noteBuffer (bit : Nat) (counters : Counters) : Counters :=
  { counters with
    remoteBufferErrors := counters.remoteBufferErrors + 1
    remoteBufferErrorsMap := counters.remoteBufferErrorsMap ||| 2 ^ bit }

def repReceived (counters : Counters) : Counters :=
  { counters with remoteReplyTimeouts := counters.remoteReplyTimeouts + 1 }

def repSent (counters : Counters) : Counters :=
  { counters with localReplyTimeouts := counters.localReplyTimeouts + 1 }

def nakReceived (reason : UInt8) (counters : Counters) : Counters :=
  match nakCounter reason with
  | none => counters
  | some entry =>
    if entry.data then counters.noteOutbound entry.bit else counters.noteBuffer entry.bit

/-- A message arrives damaged.  Only data errors are counted. -/
def errorReceived (reason : UInt8) (counters : Counters) : Counters :=
  match nakCounter reason with
  | none => counters
  | some entry =>
    if entry.data then counters.noteInbound entry.bit else counters

end Counters

inductive LinkState where
  | halted | istart | astart | running | maintenance
  deriving DecidableEq, Repr

inductive Report where
  | up | down
  deriving DecidableEq, Repr

/-- A message with its history: for a data message the counts when it was
numbered, and for every message the counts when it was put on the wire. -/
structure Frame where
  message : Message
  (number response sent received : Nat)
  deriving DecidableEq, Repr

structure Protocol where
  state : LinkState
  qmax : Nat
  /-- The last number received in sequence. -/
  r : Seq
  /-- The last number acknowledged by the far end. -/
  a : Seq
  /-- The last number given to a message. -/
  n : Seq
  ackflag : Bool
  unack : Seq → Option Frame
  notsent : List Bytes
  (acktmr stacktmr : Backoff)
  counters : Counters
  timer : Option Nat
  /-- What has been put on the wire and has not arrived. -/
  out : List Frame
  delivered : List Bytes
  reports : List Report
  /-- What `send` took since the engine was last initialised. -/
  accepted : List Bytes
  (received acked numbered : Nat)

namespace Protocol

def setTimer (seconds : Nat) (p : Protocol) : Protocol :=
  { p with timer := if seconds = 0 then none else some seconds }

def initState (p : Protocol) : Protocol :=
  { p with
    r := 0
    a := 0
    n := 0
    ackflag := false
    unack := fun _ => none
    notsent := []
    timer := none
    accepted := []
    received := 0
    acked := 0
    numbered := 0 }

/-- A new engine.  Without a limit on the messages outstanding, it is 7. -/
def create (qmax : Nat) : Protocol where
  state := .halted
  qmax := if qmax = 0 then 7 else qmax
  r := 0
  a := 0
  n := 0
  ackflag := false
  unack _ := none
  notsent := []
  acktmr := .new 1 60
  stacktmr := .new 3 120
  counters := ⟨0, 0, 0, 0, 0, 0, 0, 0⟩
  timer := none
  out := []
  delivered := []
  reports := []
  accepted := []
  received := 0
  acked := 0
  numbered := 0

def emit (frame : Frame) (p : Protocol) : Protocol :=
  { p with
    out := p.out ++ [{ frame with sent := p.numbered, received := p.received }] }

def control (message : Message) (p : Protocol) : Frame :=
  ⟨message, 0, p.received, p.numbered, p.received⟩

/-- Put a frame on the wire, and set the timer unless the time is zero. -/
def sendFrame (frame : Frame) (seconds : Nat) (p : Protocol) : Protocol :=
  let p := p.emit frame
  if seconds > 0 then p.setTimer seconds else p

def sendMsg (message : Message) (seconds : Nat) (p : Protocol) : Protocol :=
  p.sendFrame (p.control message) seconds

def report (report : Report) (p : Protocol) : Protocol :=
  { p with reports := p.reports ++ [report] }

def withState (state : LinkState) (p : Protocol) : Protocol :=
  { p with state := state }

def sendStarting (message : Message) (p : Protocol) : Protocol :=
  { p with stacktmr := p.stacktmr.next.2 }.sendMsg message p.stacktmr.next.1

def sendAwaiting (frame : Frame) (p : Protocol) : Protocol :=
  { p with acktmr := p.acktmr.next.2 }.sendFrame frame p.acktmr.next.1

def resetStacktmr (p : Protocol) : Protocol :=
  { p with stacktmr := p.stacktmr.reset }

def resetAcktmr (p : Protocol) : Protocol :=
  { p with acktmr := p.acktmr.reset }

def connected (p : Protocol) : Protocol :=
  (p.initState.resetAcktmr.resetStacktmr.sendStarting makeStart).withState .istart

def reportDown (p : Protocol) : Protocol :=
  if p.state = .running then p.report .down else p

def halt (p : Protocol) : Protocol :=
  p.reportDown.initState.withState .halted

def doRestart (p : Protocol) : Protocol :=
  if p.state = .istart then p else p.reportDown.connected

def restart (p : Protocol) : Protocol := p.doRestart

def enterRunning (ack : Bool) (p : Protocol) : Protocol :=
  let p := ((p.withState .running).setTimer 0).report .up
  if ack then p.sendMsg (makeAck p.r) 0 else p

/-- An acknowledgement needs a message of its own only if nothing else carried
it. -/
def flushAck (p : Protocol) : Protocol :=
  if p.ackflag then { p with ackflag := false }.sendMsg (makeAck p.r) 0 else p

/-! ## The window -/

def pending (p : Protocol) : Nat := distance p.a p.n

def cansend (p : Protocol) : Bool := p.pending < p.qmax

def number (payload : Bytes) (rest : List Bytes) (p : Protocol) : Protocol :=
  { p with
    notsent := rest
    n := p.n + 1
    numbered := p.numbered + 1
    unack := Function.update p.unack (p.n + 1) (some
        { message := makeData (p.n + 1) p.r payload
          number := p.numbered + 1
          response := p.received
          sent := 0
          received := 0 }) }

def sendKept (slot : Seq) (p : Protocol) : Protocol :=
  match p.unack slot with
  | none => p
  | some frame => p.sendAwaiting frame

/-- Number what fits in the window, and send it unless it is only queued. -/
def sendQueuedLoop (queueOnly : Bool) : List Bytes → Protocol → Protocol
  | [], p => p
  | payload :: rest, p =>
    if p.cansend then
      let p := p.number payload rest
      sendQueuedLoop queueOnly rest (if queueOnly then p else p.sendKept p.n)
    else
      p

def sendQueued (queueOnly : Bool) (p : Protocol) : Protocol :=
  sendQueuedLoop queueOnly p.notsent p

def acknowledgeOne (p : Protocol) : Protocol :=
  { p with
    a := p.a + 1
    acked := p.acked + 1
    unack := Function.update p.unack (p.a + 1) none }

def acknowledge (count : Nat) (p : Protocol) : Protocol :=
  match count with
  | 0 => p
  | count + 1 => p.acknowledgeOne.acknowledge count

/-- The timer runs while something is not acknowledged. -/
def awaitReply (p : Protocol) : Protocol :=
  if p.a = p.n then
    (p.setTimer 0).resetAcktmr
  else
    { p with acktmr := p.acktmr.next.2 }.setTimer p.acktmr.next.1

/-- An acknowledgement outside the window is rejected. -/
def stale (message : Message) (p : Protocol) : Bool :=
  distance p.a message.resp > p.pending

def takeAck (message : Message) (p : Protocol) : Protocol :=
  ((p.acknowledge (distance p.a message.resp)).awaitReply).sendQueued (message.kind = .nak)

def processAck (message : Message) (p : Protocol) : Protocol :=
  if p.stale message then p else p.takeAck message

def retransmitLoop (count : Nat) (slot : Seq) (p : Protocol) : Protocol :=
  match count with
  | 0 => p
  | count + 1 => (p.sendKept (slot + 1)).retransmitLoop count (slot + 1)

def retransmit (p : Protocol) : Protocol :=
  p.retransmitLoop p.pending p.a

def send (payload : Bytes) (p : Protocol) : Protocol :=
  if p.state = .running then
    { p with
      notsent := p.notsent ++ [payload]
      accepted := p.accepted ++ [payload] }.sendQueued false
  else
    p

def sendMaintenance (payload : Bytes) (p : Protocol) : Protocol :=
  p.sendMsg (makeMaintenance payload) 0

def deliver (payload : Bytes) (p : Protocol) : Protocol :=
  { p with
    r := p.r + 1
    received := p.received + 1
    ackflag := true
    delivered := p.delivered ++ [payload] }

def raiseAckflag (p : Protocol) : Protocol :=
  { p with ackflag := true }

def count (change : Counters → Counters) (p : Protocol) : Protocol :=
  { p with counters := change p.counters }

/-- A message out of sequence is ignored. -/
def receiveData (message : Message) (p : Protocol) : Protocol :=
  let p := p.processAck message
  if message.num = p.r + 1 then p.deliver message.payload else p

/-- An acknowledgement of what came before the error, then all of the rest
again. -/
def receiveNak (message : Message) (p : Protocol) : Protocol :=
  let p := p.count (Counters.nakReceived message.subtype)
  if p.stale message then p else (p.takeAck message).retransmit

/-- The far end asks whether everything up to a number has arrived. -/
def receiveRep (message : Message) (p : Protocol) : Protocol :=
  let p := p.count Counters.repReceived
  if message.num = p.r then
    p.raiseAckflag
  else
    (p.count (Counters.noteInbound 2)).sendMsg (makeNak p.r reasonRep) 0

/-- Nothing opens a maintenance port, so that maintenance messages are
dropped. -/
def receiveMaintenance (message : Message) (p : Protocol) : Protocol :=
  match message.kind with
  | .start => p.doRestart
  | _ => p

def enterMaintenance (p : Protocol) : Protocol :=
  p.initState.withState .maintenance

def receiveRunning (message : Message) (p : Protocol) : Protocol :=
  match message.kind with
  | .data => (p.receiveData message).flushAck
  | .ack => (p.processAck message).flushAck
  | .nak => (p.receiveNak message).flushAck
  | .rep => (p.receiveRep message).flushAck
  | .maintenance =>
    ((p.initState.report .down).withState .maintenance).receiveMaintenance message
  | .start => p.doRestart
  | .stack => p.raiseAckflag.flushAck

/-- We have sent a Start. -/
def receiveIstart (message : Message) (p : Protocol) : Protocol :=
  match message.kind with
  | .start => (p.resetStacktmr.sendStarting makeStack).withState .astart
  | .stack => p.enterRunning true
  | .maintenance => p.enterMaintenance.receiveMaintenance message
  | _ => p

/-- The far end is running and talks to us: follow it, and handle the message
as a running engine would. -/
def follow (message : Message) (p : Protocol) : Protocol :=
  if message.resp = 0 then (p.enterRunning false).receiveRunning message else p

/-- We have answered a Start with a Stack. -/
def receiveAstart (message : Message) (p : Protocol) : Protocol :=
  match message.kind with
  | .start => p.sendStarting makeStack
  | .stack => p.enterRunning true
  | .maintenance => p.enterMaintenance.receiveMaintenance message
  | .ack => p.follow message
  | .data => p.follow message
  | _ => p

def receive (message : Message) (p : Protocol) : Protocol :=
  match p.state with
  | .halted => p
  | .istart => p.receiveIstart message
  | .astart => p.receiveAstart message
  | .maintenance => p.receiveMaintenance message
  | .running => p.receiveRunning message

/-- A header that decoded still carries a response number. -/
def receiveError (reason : UInt8) (header : Option Message) (p : Protocol) : Protocol :=
  if p.state = .running then
    let p := p.count (Counters.errorReceived reason)
    let p :=
      match header with
      | none => p
      | some message => if message.setsResp then p.processAck message else p
    p.sendMsg (makeNak p.r reason) 0
  else
    p

def timeout (p : Protocol) : Protocol :=
  match p.state with
  | .istart => p.sendStarting makeStart
  | .astart => p.sendStarting makeStack
  | .running =>
    let p := p.count Counters.repSent
    p.sendAwaiting (p.control (makeRep p.n))
  | _ => p

end Protocol

end Decnet.Ddcmp
