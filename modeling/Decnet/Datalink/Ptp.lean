import Decnet.Lib.Run
import Decnet.Datalink.Ddcmp

/-!
# Point to point datalinks

The class `PtpDatalink`: the state machine that opens and reopens the
connection, its receive thread and the one timer it has.  A concrete datalink
supplies its protocol; it may also take over the timer and the handling of a
restart, which is what the class `Ddcmp` does.

The work queue holds the items for this datalink in order.  Sockets are not
part of the model: opening one is starting the thread.  That a delay is
shortened at random is left out.
-/

namespace Decnet.Ptp

open Decnet.Ddcmp (Bytes Report Message)

inductive LinkState where
  | s0 | connecting | running | reconnecting | shutdown
  deriving DecidableEq, Repr

/-- Work items.  A received packet is what the datalink decodes it to. -/
inductive Item (ρ : Type*) where
  | start | stop
  | reconnect (now : Bool)
  | restart | connected | threadExit
  | received (packet : ρ)
  | timeout
  deriving DecidableEq, Repr

def Item.isRequest {ρ : Type*} : Item ρ → Bool
  | .start => true
  | .stop => true
  | .reconnect _ => true
  | .restart => true
  | _ => false

/-- The receive thread: not started, waiting for a connection, receiving, or
finished and not yet joined. -/
inductive Thread where
  | absent | trying | receiving | exited
  deriving DecidableEq, Repr

/-- What the protocol of a datalink works on: its own state, the timer, and
the reports it makes. -/
structure Inner (π : Type*) where
  protocol : π
  timer : Option Nat
  reports : List Report

/-- What a concrete datalink supplies.  Without a `restart` or a `timeout` of
its own it has those of `PtpDatalink`. -/
structure Kind (π ρ : Type*) where
  connected : Inner π → Inner π
  running : ρ → Inner π → Inner π
  send : Bytes → Inner π → Inner π
  restart : Option (Inner π → Inner π)
  timeout : Option (Inner π → Inner π)

structure Datalink (π ρ : Type*) where
  state : LinkState
  thread : Thread
  (stopnow isUp restartNow : Bool)
  restartTimer : Backoff
  timer : Option Nat
  protocol : π
  queue : List (Item ρ)
  /-- What the owner has been told. -/
  statuses : List Report

namespace Datalink

variable {π ρ : Type*}

def create (protocol : π) : Datalink π ρ where
  state := .s0
  thread := .absent
  stopnow := false
  isUp := false
  restartNow := false
  restartTimer := .new 2 120
  timer := none
  protocol := protocol
  queue := []
  statuses := []

def addWork (item : Item ρ) (d : Datalink π ρ) : Datalink π ρ :=
  { d with queue := d.queue ++ [item] }

def withState (state : LinkState) (d : Datalink π ρ) : Datalink π ρ :=
  { d with state := state }

/-- The owner is told of changes only. -/
def report (report : Report) (d : Datalink π ρ) : Datalink π ρ :=
  if d.isUp = decide (report = .up) then
    d
  else
    { d with
      isUp := decide (report = .up)
      statuses := d.statuses ++ [report] }

def reportDown (d : Datalink π ρ) : Datalink π ρ := d.report .down

def call (action : Inner π → Inner π) (d : Datalink π ρ) : Datalink π ρ :=
  let inner := action ⟨d.protocol, d.timer, []⟩
  let d := { d with protocol := inner.protocol, timer := inner.timer }
  inner.reports.foldl (fun d entry => d.report entry) d

/-! ## The receive thread -/

/-- The thread exists until it is joined. -/
def joinable (d : Datalink π ρ) : Bool := d.thread ≠ .absent

def startThread (d : Datalink π ρ) : Datalink π ρ :=
  if d.joinable then d else { d with stopnow := false, thread := .trying }

def stopThread (d : Datalink π ρ) : Datalink π ρ := { d with stopnow := true }

def joinThread (d : Datalink π ρ) : Datalink π ρ := { d with thread := .absent }

/-- The thread has a connection.  The holdoff starts over. -/
def threadConnects (d : Datalink π ρ) : Datalink π ρ :=
  if d.thread = .trying ∧ d.stopnow = false then
    { d with
      thread := .receiving
      restartTimer := d.restartTimer.reset }.addWork .connected
  else
    d

def threadReceives (packet : ρ) (d : Datalink π ρ) : Datalink π ρ :=
  if d.thread = .receiving then d.addWork (.received packet) else d

/-- The thread gives up, loses the connection or finds that it should stop. -/
def threadExits (d : Datalink π ρ) : Datalink π ρ :=
  if d.thread = .trying ∨ d.thread = .receiving then
    { d with thread := .exited }.addWork .threadExit
  else
    d

/-- Ask the thread to finish without waiting for it. -/
def handleStop (d : Datalink π ρ) : LinkState × Datalink π ρ :=
  let d := d.stopThread.reportDown
  (if d.joinable then .shutdown else .s0, d)

def retry (d : Datalink π ρ) : Option LinkState × Datalink π ρ :=
  if d.restartNow then
    (some .s0, { d with restartNow := false }.addWork .start)
  else
    (none,
      { d with
        timer := some d.restartTimer.next.1
        restartTimer := d.restartTimer.next.2 })

def reconnecting (item : Item ρ) (d : Datalink π ρ) : Option LinkState × Datalink π ρ :=
  match item with
  | .timeout => (some .s0, d.addWork .start)
  | .threadExit => d.retry
  | .reconnect _ => d.retry
  | _ => (none, d)

def setState (next : Option LinkState × Datalink π ρ) : Datalink π ρ :=
  match next.1 with
  | none => next.2
  | some state => next.2.withState state

def handleReconnect (now : Bool) (d : Datalink π ρ) : Option LinkState × Datalink π ρ :=
  let d := { d.handleStop.2 with restartNow := now }.withState .reconnecting
  if d.joinable then (some .reconnecting, d) else d.reconnecting (.reconnect now)

/-- What is common to all states, and whether the state sees the item. -/
def validate (item : Item ρ) (d : Datalink π ρ) : Bool × Datalink π ρ :=
  match item with
  | .stop => (false, d.handleStop.2.withState d.handleStop.1)
  | .reconnect now => (false, setState (d.handleReconnect now))
  | .restart => (false, setState (d.handleReconnect true))
  | .threadExit =>
    let d := if d.state = .shutdown then d else d.withState .reconnecting
    (true, d.joinThread.reportDown)
  | _ => (true, d)

def s0 (item : Item ρ) (d : Datalink π ρ) : Option LinkState × Datalink π ρ :=
  match item with
  | .start => (some .connecting, d.startThread)
  | _ => (none, d)

def connecting (kind : Kind π ρ) (item : Item ρ) (d : Datalink π ρ) :
    Option LinkState × Datalink π ρ :=
  match item with
  | .connected => (some .running, d.call kind.connected)
  | .timeout => (none, d.addWork (.reconnect true))
  | _ => (none, d)

def running (kind : Kind π ρ) (item : Item ρ) (d : Datalink π ρ) :
    Option LinkState × Datalink π ρ :=
  match item with
  | .received packet => (none, d.call (kind.running packet))
  | _ => (none, d)

def shutdownState (item : Item ρ) (d : Datalink π ρ) : Option LinkState × Datalink π ρ :=
  match item with
  | .threadExit => (some .s0, d.reportDown)
  | _ => (none, d)

def stateFunction (kind : Kind π ρ) (item : Item ρ) (d : Datalink π ρ) :
    Option LinkState × Datalink π ρ :=
  match d.state with
  | .s0 => d.s0 item
  | .connecting => d.connecting kind item
  | .running => d.running kind item
  | .reconnecting => d.reconnecting item
  | .shutdown => d.shutdownState item

/-- A datalink that handles a restart itself does so while it runs. -/
def validateKind (kind : Kind π ρ) (item : Item ρ) (d : Datalink π ρ) : Bool × Datalink π ρ :=
  match item, kind.restart with
  | .restart, some action =>
    if d.state = .running then (false, d.call action) else d.validate item
  | item, _ => d.validate item

def dispatch (kind : Kind π ρ) (item : Item ρ) (d : Datalink π ρ) : Datalink π ρ :=
  let valid := d.validateKind kind item
  if valid.1 then setState (valid.2.stateFunction kind item) else valid.2

/-- The timer has run out: an input of the state machine, unless the datalink
handles it itself. -/
def timeout (kind : Kind π ρ) (d : Datalink π ρ) : Datalink π ρ :=
  match kind.timeout with
  | none => d.dispatch kind .timeout
  | some action => d.call action

/-- What can happen.  The item of a timer that was started or stopped after it
ran out is stale and dropped. -/
inductive Input (ρ : Type*) where
  | request (item : Item ρ)
  | send (payload : Bytes)
  | threadConnects
  | threadReceives (packet : ρ)
  | threadExits | expire
  | dispatch (stale : Bool)
  deriving DecidableEq, Repr

def work (kind : Kind π ρ) (stale : Bool) (d : Datalink π ρ) : Datalink π ρ :=
  match d.queue with
  | [] => d
  | item :: rest =>
    let d := { d with queue := rest }
    match item with
    | .timeout => if stale then d else d.timeout kind
    | item => d.dispatch kind item

def step (kind : Kind π ρ) (d : Datalink π ρ) : Input ρ → Datalink π ρ
  | .request item => if item.isRequest then d.addWork item else d
  | .send payload => d.call (kind.send payload)
  | .threadConnects => d.threadConnects
  | .threadReceives packet => d.threadReceives packet
  | .threadExits => d.threadExits
  | .expire =>
    if d.timer.isSome then { d with timer := none }.addWork .timeout else d
  | .dispatch stale => d.work kind stale

end Datalink

/-! ## DDCMP circuits -/

/-- A packet that the datalink decodes: a message and whether its payload is
good. -/
abbrev DdcmpPacket := Option (Message × Bool)

def engine (action : Ddcmp.Protocol → Ddcmp.Protocol)
    (inner : Inner Ddcmp.Protocol) : Inner Ddcmp.Protocol :=
  let p := action { inner.protocol with timer := inner.timer, reports := [] }
  ⟨p, p.timer, inner.reports ++ p.reports⟩

/-- Data and maintenance messages carry a payload that can be damaged. -/
def receivePacket (packet : DdcmpPacket) (p : Ddcmp.Protocol) : Ddcmp.Protocol :=
  match packet with
  | none => p
  | some (message, good) =>
    if (message.kind = .data ∨ message.kind = .maintenance) ∧ good = false then
      p.receiveError Ddcmp.reasonCrc (some message)
    else
      p.receive message

/-- The class `Ddcmp`: the engine takes over the timer, and a restart while it
runs. -/
def ddcmp : Kind Ddcmp.Protocol DdcmpPacket where
  connected := engine Ddcmp.Protocol.connected
  running packet := engine (receivePacket packet)
  send payload := engine (Ddcmp.Protocol.send payload)
  restart := some (engine Ddcmp.Protocol.restart)
  timeout := some (engine Ddcmp.Protocol.timeout)

abbrev DdcmpLink := Datalink Ddcmp.Protocol DdcmpPacket

/-- A new DDCMP circuit has an engine with the default window. -/
def newDdcmp : DdcmpLink := .create (.create 7)

end Decnet.Ptp
