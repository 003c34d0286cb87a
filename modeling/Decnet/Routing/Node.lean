import Decnet.Routing.Lan

/-!
# A router with its circuits and update processes

The router, its circuits and the update processes of each circuit as one
system.  Its inputs are the work items of the circuits and the expiries of the
update timers.
-/

namespace Decnet.Routing

namespace Router

def parent : Router → Parent
  | l1 r => ⟨r.nodeid, .l1router, r.maxnodes, 0⟩
  | l2 r => ⟨r.nodeid, .l2router, r.maxnodes, r.maxarea⟩

/-- What an update process puts into a message for a destination. -/
def entryFor (level : Level) (r : Router) (i : Nat) : Nat :=
  match level, r with
  | .one, r => r.base.advertisedEntry i
  | .two, l2 r => r.advertisedAreaEntry i
  | .two, l1 _ => routeEntry INFHOPS INFCOST

end Router

inductive AnyCircuit where
  | ptp (c : PtpCircuit)
  | lan (c : LanCircuit)

/-- The `circuit` line of the configuration. -/
structure CircuitConfig where
  broadcast : Bool
  cost : Fin (2 ^ 32)
  (verify expectVerify : List UInt8)
  startWorks : Bool

namespace AnyCircuit

def new (name : Nat) (config : CircuitConfig) : AnyCircuit :=
  let circuit := Circuit.new name config.broadcast config.cost
  if config.broadcast then .lan ⟨circuit, [], []⟩
  else .ptp (PtpCircuit.new circuit config.verify config.expectVerify config.startWorks)

def wantsUpdates (level : Level) : AnyCircuit → Bool
  | ptp c => c.wantsUpdates level
  | lan c => c.wantsUpdates level

def updateBlksize : AnyCircuit → Nat
  | ptp c => c.info.blksize
  | lan _ => ETHMTU

def sendUpdate (c : AnyCircuit) (message : RoutingMessage) : AnyCircuit :=
  match c with
  | ptp c => .ptp (c.sendUpdate message)
  | lan c => .lan (c.sendUpdate message)

/-- The neighbour that gets what is sent on a point to point circuit. -/
def receiver : AnyCircuit → Option Nodeid
  | ptp c => if c.state = .running then some c.info.id else none
  | lan _ => none

end AnyCircuit

/-- A routing message given to a circuit, with the neighbour at the other end
if there is exactly one. -/
structure SentUpdate where
  circuit : Nat
  level : Level
  receiver : Option Nodeid
  message : RoutingMessage
  deriving DecidableEq

structure RoutingNode where
  layer : Layer
  circuits : Nat → AnyCircuit
  updates : Nat → Update
  areaUpdates : Nat → Update
  sent : List SentUpdate

namespace RoutingNode

def router (s : RoutingNode) : Router := s.layer.router

def start (area : Bool) (config : RoutingConfig) (selfAddress : Nat)
    (circuits : Nat → CircuitConfig) : RoutingNode where
  layer := Layer.start area config selfAddress
  circuits := fun name => .new name (circuits name)
  updates := fun _ => (Update.new .one (min config.maxnodes 1023)).start
  areaUpdates := fun _ => (Update.new .two (min config.maxnodes 1023)).start
  sent := []

def mark (circuits : Nat → AnyCircuit) (level : Level) (low high : Nat)
    (updates : Nat → Update) (name : Nat) : Update :=
  (updates name).setSrm ((circuits name).wantsUpdates level) low high

def notify (s : RoutingNode) : Output → RoutingNode
  | .setSrm low high =>
    { s with updates := mark s.circuits .one low high s.updates }
  | .setAsrm low high =>
    { s with areaUpdates := mark s.circuits .two low high s.areaUpdates }
  | _ => s

/-- One call of a circuit in the router, made while the circuit is
`snapshot`. -/
def call (name : Nat) (s : RoutingNode) (made : AnyCircuit × Layer.Input) : RoutingNode :=
  let layer := s.layer.step made.2
  let requests := layer.router.base.outputs.drop s.router.base.outputs.length
  requests.foldl notify { s with layer, circuits := Function.update s.circuits name made.1 }

def perform (name : Nat) (after : AnyCircuit)
    (calls : RouterCalls AnyCircuit) (s : RoutingNode) : RoutingNode :=
  let s := calls.foldl (call name) s
  { s with circuits := Function.update s.circuits name after }

def updateTimeout (name : Nat) (level : Level) (s : RoutingNode) : RoutingNode :=
  let c := s.circuits name
  let (u, messages) :=
    (match level with
      | .one => s.updates name
      | .two => s.areaUpdates name).timeout (c.wantsUpdates level)
      c.updateBlksize s.router.base.nodeid (s.router.entryFor level)
  { s with
    circuits := Function.update s.circuits name (messages.foldl AnyCircuit.sendUpdate c)
    updates := match level with
      | .one => Function.update s.updates name u
      | .two => s.updates
    areaUpdates := match level with
      | .one => s.areaUpdates
      | .two => Function.update s.areaUpdates name u
    sent := s.sent ++ messages.map fun m => ⟨name, level, c.receiver, m⟩ }

inductive Input where
  | ptp (name : Nat) (work : PtpWork)
  | lan (name : Nat) (work : LanWork)
  | updateTimeout (name : Nat) (level : Level)
  deriving DecidableEq

def ptpWork (name : Nat) (work : PtpWork) (s : RoutingNode) : RoutingNode :=
  match s.circuits name with
  | .ptp c =>
    let handled := c.dispatch s.router.parent work
    s.perform name (.ptp handled.1) (handled.2.map (Prod.map .ptp id))
  | .lan _ => s

def lanWork (name : Nat) (work : LanWork) (s : RoutingNode) : RoutingNode :=
  match s.circuits name with
  | .ptp _ => s
  | .lan c =>
    let handled := c.dispatch s.router.parent work
    s.perform name (.lan handled.1) (handled.2.map (Prod.map .lan id))

def step (s : RoutingNode) : Input → RoutingNode
  | .ptp name work => s.ptpWork name work
  | .lan name work => s.lanWork name work
  | .updateTimeout name level => s.updateTimeout name level

def run (s : RoutingNode) (inputs : List Input) : RoutingNode :=
  inputs.foldl step s

end RoutingNode

end Decnet.Routing
