import Decnet.Nsp.Connection
import Decnet.Lib.Run

/-!
# NSP with its links

The class `NSP` and the member functions of `Connection` that call session
control.  `World` holds the tables of NSP and a heap of connections; a
connection keeps its place in the heap after it is closed, because session
control may still hold a reference to it.

Session control is a parameter.  Each notification is an arbitrary change of
its own state mixed with calls of the interface that NSP offers it, on any
link.  No function of that interface calls session control back, so
notifications do not nest.  They are assumed to return.

The members `calls` and `inside` are history: which calls session control has
made, and the notification it is handling.
-/

namespace Decnet.Nsp

/-- A reference to a connection. -/
abbrev Ptr := Nat

/-- A call of the interface that NSP offers session control. -/
inductive Call where
  | connect (dest : Nodeid) (payload : Bytes)
  | accept (link : Ptr) (data : Bytes) (fcopt : Nat)
  | reject (link : Ptr) (reason : Nat) (data : Bytes)
  | disconnect (link : Ptr) (reason : Nat) (data : Bytes)
  | sendData (link : Ptr) (data : Bytes)
  | sendInterrupt (link : Ptr) (data : Bytes)
  deriving DecidableEq, Repr

/-- A call as it was made: inside which notification, whether it returned
normally, and whether the link was then in the table of open links and in run
state. -/
structure CallRecord where
  call : Call
  inside : Option (Ptr × Upcall)
  (returned isOpen running : Bool)
  deriving DecidableEq, Repr

def Call.target : Call → Option Ptr
  | .connect _ _ => none
  | .accept link _ _ => some link
  | .reject link _ _ => some link
  | .disconnect link _ _ => some link
  | .sendData link _ => some link
  | .sendInterrupt link _ => some link

structure World (τ : Type*) where
  config : NspConfig
  freeIds : List Nat
  byAddr : AList (fun _ : Nat => Ptr)
  byRemote : AList (fun _ : Nat × Nat => Ptr)
  closed : List (Ptr × Nat)
  now : Nat
  links : Ptr → Connection
  allocated : Nat
  sent : List (Nodeid × Packet)
  session : τ
  calls : List CallRecord
  inside : Option (Ptr × Upcall)

namespace World

variable {τ : Type*}

def modify (link : Ptr) (change : Connection → Connection) (w : World τ) : World τ :=
  { w with links := Function.update w.links link (change (w.links link)) }

section Modify

variable (w : World τ) (link : Ptr) (change : Connection → Connection)

@[simp] theorem modify_links :
    (w.modify link change).links = Function.update w.links link (change (w.links link)) :=
  rfl

@[simp] theorem modify_config : (w.modify link change).config = w.config :=
  rfl

@[simp] theorem modify_freeIds : (w.modify link change).freeIds = w.freeIds :=
  rfl

@[simp] theorem modify_byAddr : (w.modify link change).byAddr = w.byAddr :=
  rfl

@[simp] theorem modify_allocated : (w.modify link change).allocated = w.allocated :=
  rfl

@[simp] theorem modify_session : (w.modify link change).session = w.session :=
  rfl

@[simp] theorem modify_calls : (w.modify link change).calls = w.calls :=
  rfl

@[simp] theorem modify_inside : (w.modify link change).inside = w.inside :=
  rfl

end Modify

def setState (link : Ptr) (state : ConnState) (w : World τ) : World τ :=
  w.modify link (Connection.withState state)

def IsOpen (w : World τ) (link : Ptr) : Prop :=
  w.byAddr.lookup (w.links link).srcaddr = some link

instance (w : World τ) (link : Ptr) : Decidable (w.IsOpen link) :=
  inferInstanceAs (Decidable (_ = _))

/-! ## Link addresses -/

def getId (w : World τ) : Option (Nat × World τ) :=
  match w.freeIds with
  | [] => none
  | id :: rest => some (id, { w with freeIds := rest })

def returnId (id : Nat) (w : World τ) : World τ :=
  { w with freeIds := w.freeIds ++ [(id + w.config.maxconns + 1) % 65536] }

def sweepClosed (w : World τ) : World τ :=
  { w with
    closed := w.closed.filter (fun entry => w.now - entry.2 < w.config.closedGrace) }

def closeConnection (link : Ptr) (w : World τ) : World τ :=
  let c := w.links link
  let w := { w with byRemote := w.byRemote.erase (c.dest, c.dstaddr) }
  let w := w.returnId c.srcaddr
  let w := w.sweepClosed
  let w := w.modify link Connection.noteClosing
  match w.byAddr.lookup c.srcaddr with
  | none => w
  | some held =>
    { w with
      closed := w.closed ++ [(held, w.now)]
      byAddr := w.byAddr.erase c.srcaddr }

section CloseConnection

variable (w : World τ) (link : Ptr)

@[simp] theorem closeConnection_links :
    (w.closeConnection link).links = Function.update w.links link (w.links link).noteClosing := by
  simp only [closeConnection]
  split <;> rfl

@[simp] theorem closeConnection_config : (w.closeConnection link).config = w.config := by
  simp only [closeConnection]
  split <;> rfl

@[simp] theorem closeConnection_allocated : (w.closeConnection link).allocated = w.allocated := by
  simp only [closeConnection]
  split <;> rfl

@[simp] theorem closeConnection_calls : (w.closeConnection link).calls = w.calls := by
  simp only [closeConnection]
  split <;> rfl

@[simp] theorem closeConnection_inside : (w.closeConnection link).inside = w.inside := by
  simp only [closeConnection]
  split <;> rfl

@[simp] theorem closeConnection_freeIds :
    (w.closeConnection link).freeIds = w.freeIds ++
        [((w.links link).srcaddr + w.config.maxconns + 1) % 65536] := by
  simp only [closeConnection]
  split <;> rfl

@[simp] theorem closeConnection_byAddr :
    (w.closeConnection link).byAddr = w.byAddr.erase (w.links link).srcaddr := by
  simp only [closeConnection]
  split
  · rename_i absent
    have unknown : (w.links link).srcaddr ∉ w.byAddr := AList.lookup_eq_none.mp absent
    exact (AList.ext (List.kerase_of_notMem_keys unknown)).symm
  · rfl

end CloseConnection

/-- Put a new link into the heap and the table of open links. -/
def newLink (addr : Nat) (dest : Nodeid) (w : World τ) : World τ :=
  { w with
    links := Function.update w.links w.allocated (Connection.create w.config addr dest)
    allocated := w.allocated + 1
    byAddr := w.byAddr.insert addr w.allocated }

/-- A new link that is also indexed by who asked for it. -/
def newInbound (addr : Nat) (src : Nodeid) (remote : Nat) (w : World τ) : World τ :=
  { w.newLink addr src with
    byRemote := w.byRemote.insert (src, remote) w.allocated }

/-! ## The interface for session control -/

/-- `NSP::connect`, with the link it returns. -/
def connect (dest : Nodeid) (payload : Bytes) (w : World τ) : Option Ptr × World τ :=
  match w.getId with
  | none => (none, w)
  | some (addr, w) =>
    let link := w.allocated
    (some link, (w.newLink addr dest).modify link (Connection.startOutbound w.config payload))

/-- `close` when session control is not told: NSP forgets the link. -/
def closeQuietly (link : Ptr) (w : World τ) : World τ :=
  (w.modify link Connection.clearQueues).closeConnection link

def rejectReturns (data : Bytes) : Bool :=
  data.length ≤ maxImage

def reject (link : Ptr) (reason : Nat) (data : Bytes) (w : World τ) : World τ :=
  if !rejectReturns data then
    w
  else
    let w := w.modify link (fun c => c.send (c.discInit reason data))
    (w.closeQuietly link).setState link .cl

def callReturns (w : World τ) : Call → Bool
  | .connect _ _ => true
  | .accept link data fcopt => (w.links link).acceptReturns data fcopt
  | .reject _ _ data => rejectReturns data
  | .disconnect link _ data => (w.links link).disconnectReturns data
  | .sendData _ _ => true
  | .sendInterrupt _ _ => true

def execute (call : Call) (w : World τ) : World τ :=
  match call with
  | .connect dest payload => (w.connect dest payload).2
  | .accept link data fcopt =>
    w.modify link (Connection.accept w.config data fcopt)
  | .reject link reason data => w.reject link reason data
  | .disconnect link reason data =>
    w.modify link (Connection.disconnect reason data)
  | .sendData link data => w.modify link (Connection.sendData data)
  | .sendInterrupt link data =>
    w.modify link (fun c => (c.sendInterrupt data).2)

def record (call : Call) (w : World τ) : CallRecord :=
  { call := call
    inside := w.inside
    returned := w.callReturns call
    isOpen := ∃ link ∈ call.target, w.IsOpen link
    running := ∃ link ∈ call.target, (w.links link).state = .run }

/-- A call is made on a link that exists. -/
def perform (call : Call) (w : World τ) : World τ :=
  if ∀ link ∈ call.target, link < w.allocated then
    { w with calls := w.calls ++ [w.record call] }.execute call
  else
    w

/-- One thing that session control can do: change its own state, or call
NSP. -/
inductive Acts : World τ → World τ → Prop where
  | think (w : World τ) (next : τ) : Acts w { w with session := next }
  | call (w : World τ) (call : Call) : Acts w (w.perform call)

end World

/-- What the layer above NSP does when it is notified. -/
structure SessionControl (τ : Type*) where
  notify : Ptr → Upcall → World τ → World τ
  acts : ∀ link upcall w, Relation.ReflTransGen World.Acts w (notify link upcall w)

/-- Session control that answers each notification with fixed calls. -/
def SessionControl.scripted (script : Ptr → Upcall → List Call) : SessionControl Unit where
  notify link upcall w := (script link upcall).foldl (fun w call => w.perform call) w
  acts link upcall w := by
    induction script link upcall generalizing w with
    | nil => exact .refl
    | cons call calls ih => exact .head (.call w call) (ih _)

namespace World

variable {τ : Type*} (sc : SessionControl τ)

/-! ## Receiving packets -/

def tell (link : Ptr) (upcall : Upcall) (w : World τ) : World τ :=
  let w := w.modify link (Connection.noteEvent upcall)
  { sc.notify link upcall { w with inside := some (link, upcall) } with
    inside := none }

/-- Deliver one in-sequence segment to the assembly buffer, and hand a finished
message up. -/
def acceptSegment (link : Ptr) (segment : DataSeg) (w : World τ) : World τ :=
  let complete := (w.links link).completes segment
  let w := w.modify link (Connection.assemble segment)
  if complete then
    let w := w.tell sc link (.dataReceived (w.links link).assembly)
    w.modify link Connection.clearAssembly
  else
    w

/-- Take the held segments that now follow on.  Every round erases one, so
their number bounds the rounds. -/
def drain (link : Ptr) : Nat → World τ → World τ
  | 0, w => w
  | rounds + 1, w =>
    let c := w.links link
    match c.ooo.lookup c.nextExpect.value with
    | none => w
    | some held =>
      let w := w.modify link Connection.release
      let w := w.acceptSegment sc link held
      drain link rounds (w.modify link Connection.advance)

def handleData (link : Ptr) (segment : DataSeg) (w : World τ) : World τ :=
  let w := w.modify link (Connection.routeAck segment.acknum true)
  let w := w.modify link (Connection.routeAck segment.acknum2 true)
  let c := w.links link
  if segment.segnum.less c.nextExpect then
    w.modify link Connection.sendAck
  else if segment.segnum ≠ c.nextExpect then
    w.modify link (fun c => (c.hold segment).sendAck)
  else
    let w := w.acceptSegment sc link segment
    let w := w.modify link Connection.advance
    let w := w.drain sc link (w.links link).ooo.keys.length
    let c := w.links link
    if segment.dly && c.cphase ≥ 4 && c.running then
      w.modify link Connection.delayAck
    else
      w.modify link Connection.sendAck

def handleInterrupt (link : Ptr) (message : IntMsg) (w : World τ) : World τ :=
  let c := w.links link
  if message.segnum.less c.intNextExpect then
    w.modify link (fun c => c.sendAckOther (c.intNextExpect - Mod.wrap 1))
  else
    let w := w.modify link (Connection.takeOther message.segnum)
    w.tell sc link (.interruptReceived message.payload)

/-! ## Closing -/

/-- `close`; the caller installs the closed state. -/
def close (link : Ptr) (reason : Nat) (data : Bytes) (tellSession : Bool) (w : World τ) : World τ :=
  if tellSession then
    let w := w.modify link Connection.clearQueues
    let w := w.tell sc link (.disconnected reason data)
    w.closeConnection link
  else
    w.closeQuietly link

def retransmit (link : Ptr) (w : World τ) : World τ :=
  let c := w.links link
  if c.inFlight = 0 then
    w
  else
    let retries := (c.retries + 1) % 2 ^ 32
    let w := w.modify link (Connection.setRetries retries)
    if retries > w.config.retransmits then
      (w.close sc link discNoLink [] true).setState link .cl
    else
      w.modify link Connection.resend

/-! ## States

Each takes the received packet, or nothing for a timer expiry, and gives the
state to install afterwards, if any. -/

def cd (link : Ptr) (input : Option Packet) (w : World τ) : World τ × Option ConnState :=
  match input with
  | none => (w.close sc link discObjFail [] true, some .cl)
  | some (.connConf message) =>
    let w := w.modify link (Connection.confirm w.config message)
    let w := w.setState link .run
    (w.tell sc link (.connectConfirmed message.dataCtl), some .run)
  | some (.discInit message) =>
    let w := w.modify link (Connection.confirmReject message)
    let w := w.tell sc link (.connectRejected message.reason message.dataCtl)
    (w.close sc link message.reason [] false, some .cl)
  | some (.discConf message) =>
    let w := w.tell sc link (.connectRejected message.reason [])
    (w.close sc link message.reason [] false, some .cl)
  | some _ => (w, none)

def ci (link : Ptr) (input : Option Packet) (w : World τ) : World τ × Option ConnState :=
  match input with
  | none => (w.close sc link discObjFail [] true, some .cl)
  | some (.ackConn _) =>
    (w.modify link Connection.connectAcked, some .cd)
  | some packet => w.cd sc link (some packet)

def cr (link : Ptr) (input : Option Packet) (w : World τ) : World τ × Option ConnState :=
  match input with
  | none => (w.reject link discObjFail [], none)
  | some (.connInit _) => (w.modify link Connection.sendAckConn, none)
  | some _ => (w, none)

def discInitReceived (link : Ptr) (message : DiscInit) (w : World τ) : World τ × Option ConnState :=
  let w := w.modify link Connection.sendDiscConf
  (w.close sc link message.reason message.dataCtl true, some .cl)

def run (link : Ptr) (input : Option Packet) (w : World τ) : World τ × Option ConnState :=
  match input with
  | none => (w.modify link Connection.inactive, none)
  | some packet =>
    let w := w.modify link Connection.touch
    match packet with
    | .dataSeg segment => (w.handleData sc link segment, none)
    | .ackData header =>
      (w.modify link (fun c =>
        (c.routeAck header.acknum true).routeAck header.acknum2 true),
        none)
    | .ackOther header =>
      (w.modify link (fun c =>
        (c.routeAck header.acknum false).routeAck header.acknum2 false),
        none)
    | .linkSvc message =>
      (w.modify link (Connection.handleLinkService message), none)
    | .intMsg message => (w.handleInterrupt sc link message, none)
    | .discInit message => w.discInitReceived sc link message
    | .discConf _ => (w.close sc link discNormal [] true, some .cl)
    | _ => (w, none)

def confirmsAccept : Packet → Bool
  | .dataSeg _ => true
  | .ackData _ => true
  | .intMsg _ => true
  | .linkSvc _ => true
  | .ackOther _ => true
  | _ => false

def cc (link : Ptr) (input : Option Packet) (w : World τ) : World τ × Option ConnState :=
  match input with
  | none => (w.close sc link discObjFail [] true, some .cl)
  | some packet =>
    if confirmsAccept packet then
      let w := w.modify link (Connection.processAck (Mod.wrap 0))
      let w := w.setState link .run
      let w := w.tell sc link .runState
      w.run sc link (some packet)
    else
      match packet with
      | .discInit message => w.discInitReceived sc link message
      | _ => (w, none)

def di (link : Ptr) (input : Option Packet) (w : World τ) : World τ × Option ConnState :=
  match input with
  | none => (w.close sc link discNormal [] true, some .cl)
  | some (.discConf _) => (w.close sc link discNormal [] true, some .cl)
  | some (.discInit _) => (w.close sc link discNormal [] true, some .cl)
  | some _ => (w, none)

def stateFunction (state : ConnState) (link : Ptr) (input : Option Packet)
    (w : World τ) : World τ × Option ConnState :=
  match state with
  | .s0 => (w, none)
  | .ci => w.ci sc link input
  | .cd => w.cd sc link input
  | .cr => w.cr link input
  | .cc => w.cc sc link input
  | .run => w.run sc link input
  | .di => w.di sc link input
  | .cl => (w, none)

/-- Run the current state's function and install the state it returns. -/
def dispatch (link : Ptr) (input : Option Packet) (w : World τ) : World τ :=
  let (w, next) := w.stateFunction sc (w.links link).state link input
  match next with
  | none => w
  | some state => w.setState link state

def receive (link : Ptr) (packet : Packet) (w : World τ) : World τ :=
  w.dispatch sc link (some packet)

def timeout (link : Ptr) (w : World τ) : World τ :=
  if (w.links link).timerIsRetransmit then w.retransmit sc link else w.dispatch sc link none

/-! ## NSP -/

def startInbound (link : Ptr) (message : ConnInit) (w : World τ) : World τ :=
  let w := w.modify link (Connection.connectReceived w.config message)
  w.tell sc link (.connectReceived message.payload)

/-- A connect initiate: a retransmission of one we have, or a new link. -/
def deliverConnInit (src : Nodeid) (message : ConnInit) (w : World τ) : World τ :=
  match w.byRemote.lookup (src, message.srcaddr) with
  | some link => w.receive sc link (.connInit message)
  | none =>
    match w.getId with
    | none =>
      { w with
        sent := w.sent ++ [(src, .discConf ⟨message.srcaddr, 0, noResources⟩)] }
    | some (addr, w) =>
      let link := w.allocated
      (w.newInbound addr src message.srcaddr).startInbound sc link message

def deliver (src : Nodeid) (packet : Packet) (w : World τ) : World τ :=
  match packet with
  | .connInit message => w.deliverConnInit sc src message
  | packet =>
    match w.byAddr.lookup packet.linkAddress with
    | none => w
    | some link => w.receive sc link packet

def expire (link : Ptr) (w : World τ) : World τ :=
  if (w.links link).timer then (w.modify link Connection.stopTimer).timeout sc link else w

def expireAck (link : Ptr) (w : World τ) : World τ :=
  if (w.links link).ackTimer then w.modify link (fun c => c.stopAckTimer.ackHoldoff) else w

inductive Input (τ : Type*) where
  | act (call : Call)
  | think (next : τ)
  | deliver (src : Nodeid) (packet : Packet)
  | expire (link : Ptr)
  | expireAck (link : Ptr)
  | elapse (seconds : Nat)

def step (w : World τ) : Input τ → World τ
  | .act call => w.perform call
  | .think next => { w with session := next }
  | .deliver src packet => w.deliver sc src packet
  | .expire link => w.expire sc link
  | .expireAck link => w.expireAck link
  | .elapse seconds => { w with now := w.now + seconds }

/-- The addresses `init_ids` makes from its random draws, before the
shuffle. -/
def initIds (maxconns : Nat) (draw : Nat → Nat) : List Nat :=
  (List.range maxconns).map (fun i => (i + 1 + draw (i + 1) * ((maxconns + 1) % 2 ^ 32)) % 65536)

/-- An outcome of the draws and the shuffle of `init_ids`. -/
def InitIds (maxconns : Nat) (ids : List Nat) : Prop :=
  ∃ draw : Nat → Nat, (∀ i, draw i ≤ 65535 / ((maxconns + 1) % 2 ^ 32)) ∧
      ids.Perm (initIds maxconns draw)

/-- NSP as constructed and started, with the addresses of `init_ids`. -/
def start (config : NspConfig) (ids : List Nat) (session : τ) : World τ :=
  { config := config
    freeIds := ids
    byAddr := ∅
    byRemote := ∅
    closed := []
    now := 0
    links := fun _ => Connection.create config 0 0
    allocated := 0
    sent := []
    session := session
    calls := []
    inside := none }

def reach (config : NspConfig) (ids : List Nat) (session : τ) (inputs : List (Input τ)) : World τ :=
  inputs.foldl (step sc) (start config ids session)

end World

end Decnet.Nsp
