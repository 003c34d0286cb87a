import Decnet.Routing.Ptp

/-!
# Broadcast circuits of a router

`RoutingLanCircuit` learns its neighbours from their hellos.  An endnode is up
when it is heard, a router when its hello lists this node.  The election of the
designated router does not touch adjacencies and is left out.
-/

namespace Decnet.Routing

abbrev ETHMTU : Nat := MTU + 21 - 6

inductive AdjState where
  | init | up
  deriving DecidableEq

/-- What the circuit knows about one neighbour; `listenTime` is in units of a
tenth of the announced timer. -/
structure LanAdjacency where
  adj : Option Neighbour
  macaddr : Nat
  state : AdjState
  prio : Nat
  ntype : Ntype
  listenTime : Nat
  deriving DecidableEq

def LanAdjacency.new : LanAdjacency := ⟨none, 0, .init, 0, .endnode, 0⟩

/-- A router hello.  `routers` are the entries of its router list that could
be decoded. -/
structure RouterHello where
  id : Nodeid
  areaRouter : Bool
  (prio timer : Nat)
  routers : List Nodeid
  deriving DecidableEq

structure EndnodeHello where
  id : Nodeid
  timer : Nat
  deriving DecidableEq

inductive LanPacket where
  | routerHello (message : RouterHello)
  | endnodeHello (message : EndnodeHello)
  | routing (message : RoutingMessage)
  | data
  deriving DecidableEq

structure LanCircuit where
  circuit : Circuit
  adjacencies : List (Nodeid × LanAdjacency)
  /-- The routing messages multicast to all routers. -/
  updates : List RoutingMessage

/-- What happens on the circuit.  With a packet come its source and the
address at which an adjacency made for it is allocated. -/
inductive LanWork where
  | received (packet : LanPacket) (src address : Nat)
  | listenTimeout (id : Nodeid)
  deriving DecidableEq

namespace LanCircuit

def find (id : Nodeid) (c : LanCircuit) : Option LanAdjacency :=
  c.adjacencies.lookup id

def erase (id : Nodeid) (c : LanCircuit) : LanCircuit :=
  { c with adjacencies := c.adjacencies.filter (·.1 ≠ id) }

def put (id : Nodeid) (a : LanAdjacency) (c : LanCircuit) : LanCircuit :=
  { c with adjacencies := (id, a) :: c.adjacencies.filter (·.1 ≠ id) }

/-- Send only if a router (level 1) or area router (level 2) is present. -/
def wantsUpdates (level : Level) (c : LanCircuit) : Bool :=
  c.adjacencies.any fun (_, a) =>
    a.state = .up ∧ a.ntype ≠ .endnode ∧ (level = .two → a.ntype = .l2router)

/-- Routers have an adjacency from their first hello; one is made here for an
endnode. -/
def adjacencyUp (id : Nodeid) (ntype : Ntype) (address : Nat)
    (a : LanAdjacency) (c : LanCircuit) : LanCircuit × RouterCalls LanCircuit :=
  let n := a.adj.getD ⟨address, id, ntype, c.circuit⟩
  let c := c.put id { a with state := .up, adj := some n }
  (c, [(c, .up n)])

def adjacencyDown (id : Nodeid) (c : LanCircuit) : LanCircuit × RouterCalls LanCircuit :=
  match c.find id with
  | none => (c, [])
  | some a =>
    (c.erase id,
      if a.state = .up then a.adj.toList.map fun n => (c, .down n) else [])

def routerHello (parent : Parent) (rh : RouterHello) (src address : Nat)
    (c : LanCircuit) : LanCircuit × RouterCalls LanCircuit :=
  -- Area routers are the only pair allowed to span areas.
  if rh.id.area ≠ parent.homearea ∧ ¬ (rh.areaRouter ∧ parent.ntype = .l2router) then (c, [])
  else
    let ntype : Ntype := if rh.areaRouter then .l2router else .l1router
    let a := (c.find rh.id).getD .new
    let a := { a with
      macaddr := src, prio := rh.prio, ntype := ntype
      listenTime := rh.timer * 31
      adj := some (a.adj.getD ⟨address, rh.id, ntype, c.circuit⟩) }
    if rh.routers.contains parent.nodeid ∧ a.state ≠ .up then
      c.adjacencyUp rh.id ntype address a
    else (c.put rh.id a, [])

def endnodeHello (parent : Parent) (eh : EndnodeHello) (src address : Nat)
    (c : LanCircuit) : LanCircuit × RouterCalls LanCircuit :=
  if eh.id.area ≠ parent.homearea then (c, [])
  else
    let a := (c.find eh.id).getD .new
    if a.state = .up then (c, [])
    else
      c.adjacencyUp eh.id .endnode address
        { a with macaddr := src, ntype := .endnode, listenTime := eh.timer * 31 }

/-- A routing message is attributed to the neighbour its source names. -/
def routingMessage (message : RoutingMessage) (c : LanCircuit) :
    LanCircuit × RouterCalls LanCircuit :=
  match c.find message.srcnode with
  | none => (c, [])
  | some a =>
    (c, if a.state = .up
      then a.adj.toList.map fun n => (c, .message message n) else [])

/-- `Adjacency::timeout`, which takes the adjacency down before the circuit
does. -/
def listenTimeout (id : Nodeid) (c : LanCircuit) : LanCircuit × RouterCalls LanCircuit :=
  match (c.find id).bind (·.adj) with
  | none => (c, [])
  | some n =>
    ((c.adjacencyDown id).1, (c, .down n) :: (c.adjacencyDown id).2)

def dispatch (parent : Parent) (c : LanCircuit) :
    LanWork → LanCircuit × RouterCalls LanCircuit
  | .received (.routerHello rh) src address =>
    c.routerHello parent rh src address
  | .received (.endnodeHello eh) src address =>
    c.endnodeHello parent eh src address
  | .received (.routing message) _ _ => c.routingMessage message
  | .received .data _ _ => (c, [])
  | .listenTimeout id => c.listenTimeout id

def sendUpdate (message : RoutingMessage) (c : LanCircuit) : LanCircuit :=
  { c with updates := c.updates ++ [message] }

end LanCircuit

end Decnet.Routing
