import Decnet.Routing.Update

/-!
# Point to point circuits

`PtpCircuit` is a state machine between its datalink and the router: it brings
the datalink up, exchanges init and verification messages with the neighbour,
and while it runs hands routing messages up.
-/

namespace Decnet.Routing

abbrev MTU : Nat := 576

/-- What a circuit asks its router about: `parent_`. -/
structure Parent where
  nodeid : Nodeid
  ntype : Ntype
  (maxnodes maxarea : Nat)

def Parent.homearea (p : Parent) : Nat := p.nodeid.area

/-- What an init message said about the neighbour.  `rphase` is zero until
there was one. -/
structure AdjacencyInfo where
  id : Nodeid
  ntype : Ntype
  (blksize rphase : Nat)
  deriving DecidableEq

def AdjacencyInfo.none : AdjacencyInfo :=
  ⟨⟨0, Nodeid.zero_fits⟩, .unknown, MTU, 0⟩

/-- A Phase IV init message.  `blo` asks for blocking, `verif` for a
verification message. -/
structure PtpInit where
  srcnode : Nodeid
  ntype : Ntype
  (blo verif : Bool)
  blksize : Nat
  deriving DecidableEq

inductive PtpPacket where
  | init (message : PtpInit)
  | init3
  | verify (srcnode : Nodeid) (fcnval : List UInt8)
  | hello (srcnode : Nodeid) (validTestdata : Bool)
  | data
  | routing (message : RoutingMessage)
  | other
  deriving DecidableEq

/-- A call of the datalink's port. -/
inductive PortCall where
  | openPort | closePort | restartPort
  /-- The circuit reports the datalink up itself. -/
  | synthesiseUp | sendInit
  | sendVerify (fcnval : List UInt8)
  | sendHello
  | sendUpdate (message : RoutingMessage)
  deriving DecidableEq

/-- The states `ha`, `ds`, `ri`, `rv` and `ru`. -/
inductive PtpState where
  | halted | datalinkStart | routingInit | routingVerify | running
  deriving DecidableEq

structure PtpCircuit where
  circuit : Circuit
  state : PtpState
  info : AdjacencyInfo
  adj : Option Neighbour
  /-- The value we must send if asked. -/
  verify : List UInt8
  /-- The value we require, if we asked. -/
  expectVerify : List UInt8
  /-- Can the datalink report a restart of the other end? -/
  startWorks : Bool
  port : List PortCall

/-- A work item of the circuit.  With a packet comes the address at which an
adjacency made for it is allocated. -/
inductive PtpWork where
  | start | stop | down | timeout
  | dlStatus (up : Bool)
  | received (packet : Option PtpPacket) (address : Nat)
  | listenTimeout
  deriving DecidableEq

/-- What a circuit calls in its router, each call with the circuit as it is at
that moment. -/
abbrev RouterCalls (γ : Type) := List (γ × Layer.Input)

namespace PtpCircuit

def new (circuit : Circuit) (verify expectVerify : List UInt8)
    (startWorks : Bool) : PtpCircuit where
  circuit := circuit
  state := .halted
  info := .none
  adj := none
  verify := verify
  expectVerify := expectVerify
  startWorks := startWorks
  port := []

def call (request : PortCall) (c : PtpCircuit) : PtpCircuit :=
  { c with port := c.port ++ [request] }

def clearNeighbour (c : PtpCircuit) : PtpCircuit :=
  { c with info := .none, adj := none }

def requestVerify (c : PtpCircuit) : Bool := !c.expectVerify.isEmpty

def wantsUpdates (level : Level) (c : PtpCircuit) : Bool :=
  match level with
  | .one => c.info.ntype.isRouter
  | .two => c.info.ntype == .l2router

def downCalls (c : PtpCircuit) : RouterCalls PtpCircuit :=
  c.adj.toList.map fun n => (c, .down n)

/-- Give up on the neighbour and start over. -/
def restart (c : PtpCircuit) : PtpCircuit × RouterCalls PtpCircuit :=
  let calls := if c.state = .running then c.downCalls else []
  let c' := c.clearNeighbour.call (if c.startWorks then .restartPort else .synthesiseUp)
  ({ c' with state := .datalinkStart }, calls)

def halt (c : PtpCircuit) : PtpCircuit :=
  { c.call .closePort with state := .halted }

/-- The adjacency is complete. -/
def up (c : PtpCircuit) : PtpCircuit × RouterCalls PtpCircuit :=
  ({ c with state := .running }, c.adj.toList.map fun n => (c, .up n))

def checkSrc (src : Nodeid) (c : PtpCircuit) : Bool :=
  if c.info.rphase = 4 then src = c.info.id else src.tid = c.info.id.tid

def inRange (parent : Parent) (init : PtpInit) : Bool :=
  let bothL2 := init.ntype == .l2router && parent.ntype == .l2router
  !((parent.ntype.isRouter && decide (parent.maxnodes < init.srcnode.tid))
    || (bothL2 && !decide (1 ≤ init.srcnode.area ∧ init.srcnode.area ≤ parent.maxarea))
    || (!bothL2 && init.srcnode.area != parent.homearea))

def acceptable (parent : Parent) (init : PtpInit) : Bool :=
  (init.ntype == .endnode || init.ntype.isRouter) && !init.blo
    && init.srcnode.tid != 0 && inRange parent init

/-- What an acceptable init message leaves: the neighbour is known and has an
adjacency. -/
def learn (init : PtpInit) (address : Nat) (c : PtpCircuit) : PtpCircuit :=
  let c := { c with
    info := ⟨init.srcnode, init.ntype, min init.blksize MTU, 4⟩ }
  let c := if init.verif then c.call (.sendVerify c.verify) else c
  { c with adj := some ⟨address, init.srcnode, init.ntype, c.circuit⟩ }

def halted (c : PtpCircuit) : PtpWork → PtpCircuit × RouterCalls PtpCircuit
  | .start | .timeout =>
    ({ (c.call .openPort).clearNeighbour with state := .datalinkStart }, [])
  | _ => (c, [])

def datalinkStart (c : PtpCircuit) :
    PtpWork → PtpCircuit × RouterCalls PtpCircuit
  | .dlStatus true =>
    ({ c.clearNeighbour.call .sendInit with state := .routingInit }, [])
  | .dlStatus false => c.restart
  | .down => c.restart
  | .stop => (c.halt, [])
  | _ => (c, [])

def routingInit (parent : Parent) (c : PtpCircuit) :
    PtpWork → PtpCircuit × RouterCalls PtpCircuit
  | .timeout => c.restart
  | .down => c.restart
  | .dlStatus false => c.restart
  | .stop => (c.halt, [])
  | .received (some (.init init)) address =>
    if acceptable parent init then
      let c := c.learn init address
      if c.requestVerify then ({ c with state := .routingVerify }, [])
      else c.up
    else c.restart
  | .received (some .init3) _ => c.restart
  | .received (some (.verify ..)) _ => c.restart
  | _ => (c, [])

def routingVerify (c : PtpCircuit) :
    PtpWork → PtpCircuit × RouterCalls PtpCircuit
  | .timeout => c.restart
  | .down => c.restart
  | .dlStatus false => c.restart
  | .stop => (c.halt, [])
  | .received (some (.verify srcnode fcnval)) _ =>
    if !c.checkSrc srcnode then c.restart
    else if fcnval != c.expectVerify then c.restart
    else c.up
  | _ => (c, [])

def running (c : PtpCircuit) : PtpWork → PtpCircuit × RouterCalls PtpCircuit
  | .timeout => (c.call .sendHello, [])
  | .down => c.restart
  | .dlStatus false => c.restart
  | .stop => ({ c with adj := none }.halt, c.downCalls)
  | .received (some (.hello srcnode valid)) _ =>
    if !c.checkSrc srcnode then c.restart
    else if !valid then c.restart
    else (c, [])
  | .received (some (.verify srcnode _)) _ =>
    if !c.checkSrc srcnode then c.restart else (c, [])
  | .received (some (.routing message)) _ =>
    (c, c.adj.toList.map fun n => (c, .message message n))
  -- `Adjacency::timeout` takes the adjacency down before it tells the circuit.
  | .listenTimeout =>
    (({ c with adj := none } : PtpCircuit).restart.1, c.downCalls)
  | _ => (c, [])

def dispatch (parent : Parent) (c : PtpCircuit) (work : PtpWork) :
    PtpCircuit × RouterCalls PtpCircuit :=
  match c.state with
  | .halted => c.halted work
  | .datalinkStart => c.datalinkStart work
  | .routingInit => c.routingInit parent work
  | .routingVerify => c.routingVerify work
  | .running => c.running work

def sendUpdate (message : RoutingMessage) (c : PtpCircuit) : PtpCircuit :=
  if c.state = .running then c.call (.sendUpdate message) else c

end PtpCircuit

end Decnet.Routing
