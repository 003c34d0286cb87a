import Decnet.Common.TimerWheel
import Decnet.Lib.Table
import Decnet.Lib.Throwing
import Decnet.Routing.Forward
import Decnet.Routing.Lan

/-!
# Broadcast circuits with their timers and the election

`LanCircuit`, `RoutingLanCircuit` and `EndnodeLanCircuit` as they run: every
assignment reaches the table of neighbours at once, so that a call that throws
leaves behind what was done before it.  The node's main loop catches the
exception and goes on with the next work item.

A call of the router or the event logger may throw for reasons of its own; what
each of them does comes in with the work item.  Counters and the cache of an
endnode are left out.
-/

namespace Decnet.Routing

open Reading Throwing

inductive Thrown where
  | overflowError (what : String)
  | fieldOverflow (what : String)
  | outside
  deriving DecidableEq

inductive Call where
  | adjUp | adjDown | routingMessage | adjacencyUpEvent | adjacencyDownEvent
  deriving DecidableEq

/-- Which of the calls return. -/
abbrev Outside := Call → Bool

/-- An `Adjacency` with its listen timer; `base` is the hello timer the
neighbour announced, or else the circuit's own. -/
structure Listener where
  neighbour : Neighbour
  base : Nat
  (up armed : Bool)
  deriving DecidableEq

/-- `PTP_T3MULT` is 2.1; in milliseconds. -/
def Listener.t4 (l : Listener) : Nat := l.base * 2100

/-- `LanAdjacency`; `listenTime` is in units of a tenth of a second. -/
structure LanEntry where
  adj : Option Listener
  macaddr : Nat
  state : AdjState
  prio : Nat
  ntype : Ntype
  listenTime : Nat
  deriving DecidableEq

def LanEntry.new : LanEntry := ⟨none, 0, .init, 0, .endnode, 0⟩

abbrev LanTable := Table Nodeid.value LanEntry

/-- What the constructors take from the configuration. -/
structure LanConfig where
  parent : Parent
  circuit : Circuit
  (t3 prio : Nat)

def LanConfig.new (parent : Parent) (circuit : Circuit) (t3 priority : Nat) : LanConfig where
  parent := parent
  circuit := circuit
  t3 := if t3 = 0 then 10 else t3
  prio := if priority = 0 then 64 else priority % 256

inductive Group where
  | allRouters | allEndnodes
  deriving DecidableEq

/-- The state of the class both circuits are made from. -/
structure LanStation where
  adjacencies : LanTable
  helloArmed : Bool
  calls : List Layer.Input
  sent : List (Group × List UInt8)

abbrev StationM := EStateM Thrown LanStation

namespace LanStation

def new : LanStation := ⟨.empty, false, [], []⟩

def startTimer (ms : Nat) : StationM Unit :=
  match TimerWheel.start ms with
  | .ok _ => pure ()
  | .error e => throw (.overflowError e.what)

def callOutside (out : Outside) (call : Call) : StationM Unit :=
  if out call then pure () else throw .outside

def callRouter (out : Outside) (call : Call) (input : Layer.Input) :
    StationM Unit := do
  modify fun s => { s with calls := s.calls ++ [input] }
  callOutside out call

def put (id : Nodeid) (a : LanEntry) (s : LanStation) : LanStation :=
  { s with adjacencies := s.adjacencies.put id a }

/-- Assignments through the reference to a neighbour's entry. -/
def store (id : Nodeid) (a : LanEntry) : StationM LanEntry := do
  modify (put id a)
  pure a

/-- `Adjacency::alive`. -/
def alive (id : Nodeid) (a : LanEntry) (l : Listener) : StationM LanEntry := do
  startTimer l.t4
  store id { a with adj := some { l with armed := true } }

/-- `Adjacency::up`. -/
def up (out : Outside) (id : Nodeid) (a : LanEntry) (l : Listener) : StationM Unit :=
  if l.up then pure ()
  else do
    let a ← store id { a with adj := some { l with up := true } }
    startTimer l.t4
    let _ ← store id { a with adj := some { l with up := true, armed := true } }
    callRouter out .adjUp (.up l.neighbour)

/-- `Adjacency::down`. -/
def down (out : Outside) (id : Nodeid) (a : LanEntry) (l : Listener) : StationM Unit :=
  if l.up then do
    let _ ← store id { a with adj := some { l with up := false, armed := false } }
    callRouter out .adjDown (.down l.neighbour)
  else pure ()

def listener (cfg : LanConfig) (id : Nodeid) (ntype : Ntype) (timer address : Nat) : Listener where
  neighbour := ⟨address, id, ntype, cfg.circuit⟩
  base := if timer = 0 then cfg.t3 else timer
  up := false
  armed := false

/-- Routers have an adjacency from their first hello; one is made here for
others. -/
def adjacencyUp (out : Outside) (id : Nodeid) (a : LanEntry) (l : Listener) :
    StationM Unit := do
  let a ← store id { a with state := .up, adj := some (a.adj.getD l) }
  up out id a (a.adj.getD l)
  callOutside out .adjacencyUpEvent

/-- No event for an adjacency that never came up. -/
def reportDown (out : Outside) (id : Nodeid) (a : LanEntry) : StationM Unit :=
  match a.adj, a.state with
  | some l, .up => do
      callOutside out .adjacencyDownEvent
      down out id a l
  | _, _ => pure ()

def adjacencyDown (out : Outside) (id : Nodeid) : StationM Unit := do
  let s ← get
  match s.adjacencies.find id with
  | none => pure ()
  | some a => do
      reportDown out id a
      modify fun s => { s with adjacencies := s.adjacencies.erase id }

/-- `Adjacency::timeout` up to the call of the circuit, for a listen timer
that ran and has expired. -/
def expire (out : Outside) (id : Nodeid) (a : LanEntry) (l : Listener) :
    StationM Unit := do
  let a ← store id { a with adj := some { l with armed := false } }
  down out id a { l with armed := false }

end LanStation

/-! ## What a router announces -/

/-- `RSent`: seven bits for the priority. -/
def encodeRSent (router : Nodeid) (prio : Nat) (twoway : Bool) : Except Thrown (List UInt8) :=
  if 128 ≤ prio then
    throw (.fieldOverflow s!"field 'prio' value {prio} too large for 7 bits")
  else pure (HIORD ++ (putUint router.value 2 ++ putUint (prio + 128 * twoway.toNat) 1))

/-- `Elist`: a reserved header and a counted list. -/
def encodeElist (rslist : List UInt8) : Except Thrown (List UInt8) :=
  if 236 < rslist.length then
    throw (.fieldOverflow "field 'rslist': image field longer than 236")
  else pure (List.replicate 7 0 ++ (putUint rslist.length 1 ++ rslist))

def encodeEntry (entry : Nodeid × LanEntry) : Except Thrown (List UInt8) :=
  encodeRSent entry.1 entry.2.prio (entry.2.state = .up)

def LanEntry.isRouter (a : LanEntry) : Bool := a.ntype ≠ .endnode

def buildElist (table : LanTable) : Except Thrown (List UInt8) := do
  let entries ← (table.entries.filter (·.2.isRouter)).mapM encodeEntry
  encodeElist entries.flatten

/-- `RouterHello` around its router list. -/
def encodeRouterHello (cfg : LanConfig) (elist : List UInt8) : Except Thrown (List UInt8) :=
  if 244 < elist.length then
    throw (.fieldOverflow "field 'elist': image field longer than 244")
  else pure (putUint 0x0b 1 ++ ([2, 0, 0] ++ (HIORD ++ (putUint cfg.parent.nodeid.value 2 ++
      (putUint (if cfg.parent.ntype = .l2router then 1 else 2) 1 ++
        (putUint ETHMTU 2 ++ (putUint cfg.prio 1 ++ ([0] ++ (putUint (cfg.t3 % 65536) 2 ++ ([0] ++
            (putUint elist.length 1 ++ elist)))))))))))

def helloFrame (cfg : LanConfig) (table : LanTable) : Except Thrown (List UInt8) :=
  buildElist table >>= encodeRouterHello cfg

/-- Higher priority wins, ties broken by higher address. -/
def betterDr (prioA : Nat) (a : Nodeid) (prioB : Nat) (b : Nodeid) : Bool :=
  if prioA ≠ prioB then decide (prioB < prioA)
  else decide (b.value < a.value)

structure Candidate where
  prio : Nat
  id : Nodeid
  self : Bool
  deriving DecidableEq

/-- The body of the loop over the neighbours: only routers of this area
stand. -/
def challenge (cfg : LanConfig) (best : Candidate) (entry : Nodeid × LanEntry) : Candidate :=
  if entry.2.ntype = .endnode then best
  else if entry.1.area ≠ cfg.parent.homearea then best
  else if betterDr entry.2.prio entry.1 best.prio best.id then
    ⟨entry.2.prio, entry.1, false⟩
  else best

def bestDr (cfg : LanConfig) (table : LanTable) : Candidate :=
  table.entries.foldl (challenge cfg) ⟨cfg.prio, cfg.parent.nodeid, true⟩

structure RoutingLanCircuit where
  station : LanStation
  isdr : Bool
  dr : Nodeid
  (drtimerRunning drtimerArmed : Bool)

abbrev RoutingLanM := EStateM Thrown RoutingLanCircuit

namespace RoutingLanCircuit

def noNode : Nodeid := ⟨0, Nodeid.zero_fits⟩

/-- As the constructor leaves it. -/
def new : RoutingLanCircuit := ⟨.new, false, noNode, false, false⟩

def base {α : Type} (x : StationM α) : RoutingLanM α :=
  zoom station (fun s c => { c with station := s }) x

def sendHello (cfg : LanConfig) : RoutingLanM Unit := do
  let c ← get
  match helloFrame cfg c.station.adjacencies with
  | .error e => throw e
  | .ok frame =>
    -- Only the designated router talks to the endnodes.
    let groups : List Group :=
      if c.isdr then [.allRouters, .allEndnodes] else [.allRouters]
    base (modify fun s => { s with sent := s.sent ++ groups.map (·, frame) })

def DRDELAY : Nat := 5000

def standBy : RoutingLanM Unit := do
  let c ← get
  if ¬ c.isdr ∧ ¬ c.drtimerRunning then
    modify fun c => { c with drtimerRunning := true }
    base (LanStation.startTimer DRDELAY)
    modify fun c => { c with drtimerArmed := true }
  else pure ()

def stepDown (cfg : LanConfig) : RoutingLanM Unit := do
  let c ← get
  if c.isdr then
    modify fun c => { c with isdr := false }
    sendHello cfg
  else pure ()

def calcDr (cfg : LanConfig) : RoutingLanM Unit := do
  let c ← get
  let best := bestDr cfg c.station.adjacencies
  if best.self then standBy
  else do
    stepDown cfg
    modify fun c =>
      if c.dr ≠ best.id then
        { c with drtimerRunning := false, drtimerArmed := false, dr := best.id }
      else c

/-- The election timer ran and has expired. -/
def becomeDr (cfg : LanConfig) : RoutingLanM Unit := do
  modify fun c => { c with drtimerRunning := false, drtimerArmed := false }
  let c ← get
  if (bestDr cfg c.station.adjacencies).self then
    modify fun c => { c with isdr := true, dr := cfg.parent.nodeid }
    sendHello cfg
  else calcDr cfg

/-- Losing a router changes the election and the router list. -/
def renewElection (cfg : LanConfig) (id : Nodeid) (wasRouter : Bool) :
    RoutingLanM Unit := do
  modify fun c => if c.dr = id then { c with dr := noNode } else c
  if wasRouter then
    calcDr cfg
    sendHello cfg
  else pure ()

def adjacencyDown (cfg : LanConfig) (out : Outside) (id : Nodeid) :
    RoutingLanM Unit := do
  let c ← get
  match c.station.adjacencies.find id with
  | none => pure ()
  | some a => do
      base (LanStation.adjacencyDown out id)
      renewElection cfg id (a.ntype ≠ .endnode)

def ntypeOf (rh : RouterHello) : Ntype :=
  if rh.areaRouter then .l2router else .l1router

/-- Area routers are the only pair allowed to span areas. -/
def accepts (cfg : LanConfig) (rh : RouterHello) : Bool :=
  rh.id.area = cfg.parent.homearea ∨ rh.areaRouter ∧ cfg.parent.ntype = .l2router

def heardRouter (cfg : LanConfig) (rh : RouterHello) (src address : Nat)
    (a : LanEntry) : LanEntry :=
  { a with
    macaddr := src, prio := rh.prio, ntype := ntypeOf rh
    listenTime := rh.timer * 31
    adj := some (a.adj.getD (LanStation.listener cfg rh.id (ntypeOf rh) rh.timer address)) }

/-- Finding ourselves in its list is the proof that a neighbour hears us. -/
def confirm (cfg : LanConfig) (out : Outside) (rh : RouterHello)
    (address : Nat) (a : LanEntry) : StationM Unit :=
  if rh.routers.contains cfg.parent.nodeid ∧ a.state ≠ .up then
    LanStation.adjacencyUp out rh.id a (LanStation.listener cfg rh.id a.ntype rh.timer address)
  else pure ()

def routerHello (cfg : LanConfig) (out : Outside) (rh : RouterHello)
    (src address : Nat) : RoutingLanM Unit :=
  if accepts cfg rh then do
    let c ← get
    let a := (c.station.adjacencies.find rh.id).getD .new
    let a := heardRouter cfg rh src address a
    base do
      let a ← LanStation.store rh.id a
      let a ← LanStation.alive rh.id a (a.adj.getD
        (LanStation.listener cfg rh.id a.ntype rh.timer address))
      confirm cfg out rh address a
    calcDr cfg
  else pure ()

/-- An endnode needs no handshake: hearing it is enough. -/
def endnodeHello (cfg : LanConfig) (out : Outside) (eh : EndnodeHello)
    (src address : Nat) : StationM Unit :=
  if eh.id.area = cfg.parent.homearea then do
    let s ← get
    let a := (s.adjacencies.find eh.id).getD .new
    if a.state = .up then
      match a.adj with
      | none => pure ()
      | some l => do
          let _ ← LanStation.alive eh.id a l
    else
      LanStation.adjacencyUp out eh.id
        { a with
          macaddr := src, ntype := .endnode, listenTime := eh.timer * 31 }
        (LanStation.listener cfg eh.id .endnode eh.timer address)
  else pure ()

def upEntry (id : Nodeid) (s : LanStation) : Option (LanEntry × Listener) :=
  match s.adjacencies.find id with
  | some a => if a.state = .up then a.adj.map (a, ·) else none
  | none => none

def routingMessage (out : Outside) (message : RoutingMessage) :
    StationM Unit := do
  let s ← get
  match upEntry message.srcnode s with
  | none => pure ()
  | some (a, l) => do
      let _ ← LanStation.alive message.srcnode a l
      LanStation.callRouter out .routingMessage (.message message l.neighbour)

/-- Traffic from an endnode is as good as its hello, if it comes from the
address the endnode was heard from. -/
def data (srcnode : Nodeid) (src : Nat) : StationM Unit := do
  let s ← get
  match upEntry srcnode s with
  | none => pure ()
  | some (a, l) =>
    if a.ntype = .endnode ∧ a.macaddr = src then do
      let _ ← LanStation.alive srcnode a l
    else pure ()

/-- The body of `LanCircuit::start` and `LanCircuit::timeout`. -/
def announce (cfg : LanConfig) : RoutingLanM Unit := do
  sendHello cfg
  base (LanStation.startTimer (cfg.t3 * 1000))
  base (modify fun s => { s with helloArmed := true })

/-- The hello timer ran and has expired. -/
def helloTimeout (cfg : LanConfig) : RoutingLanM Unit := do
  base (modify fun s => { s with helloArmed := false })
  announce cfg

def listenTimeout (cfg : LanConfig) (out : Outside) (id : Nodeid)
    (a : LanEntry) (l : Listener) : RoutingLanM Unit := do
  base (LanStation.expire out id a l)
  adjacencyDown cfg out id

end RoutingLanCircuit

/-- What happens on a LAN circuit.  With a packet come its source and the
address at which an adjacency made for it is allocated. -/
inductive LanEvent where
  | routerHello (rh : RouterHello) (src address : Nat)
  | endnodeHello (eh : EndnodeHello) (src address : Nat)
  | routing (message : RoutingMessage)
  | data (srcnode : Nodeid) (src : Nat)
  | listenTimeout (id : Nodeid)
  | helloTimeout | drTimeout
  deriving DecidableEq

namespace RoutingLanCircuit

/-- A timer that does not run cannot expire. -/
def dispatch (cfg : LanConfig) (out : Outside) : LanEvent → RoutingLanM Unit
  | .routerHello rh src address => routerHello cfg out rh src address
  | .endnodeHello eh src address => base (endnodeHello cfg out eh src address)
  | .routing message => base (routingMessage out message)
  | .data srcnode src => base (data srcnode src)
  | .listenTimeout id => do
      let c ← get
      match c.station.adjacencies.find id with
      | some a =>
        match a.adj with
        | some l => if l.armed then listenTimeout cfg out id a l else pure ()
        | none => pure ()
      | none => pure ()
  | .helloTimeout => do
      let c ← get
      if c.station.helloArmed then helloTimeout cfg else pure ()
  | .drTimeout => do
      let c ← get
      if c.drtimerArmed then becomeDr cfg else pure ()

def start (cfg : LanConfig) : RoutingLanCircuit :=
  after ((do
    announce cfg
    calcDr cfg : RoutingLanM Unit) new)

def step (cfg : LanConfig) (c : RoutingLanCircuit)
    (work : LanEvent × Outside) : RoutingLanCircuit :=
  after (dispatch cfg work.2 work.1 c)

def run (cfg : LanConfig) (work : List (LanEvent × Outside)) : RoutingLanCircuit :=
  work.foldl (step cfg) (start cfg)

def lanConfig : LanConfig :=
  LanConfig.new ⟨Nodeid.make 1 1, .l1router, 1023, 63⟩ (Circuit.new 0 true 4) 10 64

end RoutingLanCircuit

/-! ## The circuit of an endnode -/

/-- `dr` is the router in use, with the address it was heard from. -/
structure EndnodeLanCircuit where
  station : LanStation
  dr : Option (Nodeid × Nat)

abbrev EndnodeLanM := EStateM Thrown EndnodeLanCircuit

namespace EndnodeLanCircuit

def new : EndnodeLanCircuit := ⟨.new, none⟩

def base {α : Type} (x : StationM α) : EndnodeLanM α :=
  zoom station (fun s c => { c with station := s }) x

/-- The router we are already using; just note it is alive. -/
def stillThere (id : Nodeid) : StationM Unit := do
  let s ← get
  match s.adjacencies.find id with
  | none => pure ()
  | some a =>
    match a.adj with
    | none => pure ()
    | some l => do
        let _ ← LanStation.alive id a l

def forgetRouter (out : Outside) : EndnodeLanM Unit := do
  let c ← get
  match c.dr with
  | none => pure ()
  | some (old, _) => base (LanStation.adjacencyDown out old)

/-- Only the address is written to the entry. -/
def enter (cfg : LanConfig) (out : Outside) (rh : RouterHello)
    (src address : Nat) : StationM Unit := do
  let s ← get
  let a ← LanStation.store rh.id { (s.adjacencies.find rh.id).getD .new with macaddr := src }
  LanStation.adjacencyUp out rh.id a (LanStation.listener cfg rh.id
    (RoutingLanCircuit.ntypeOf rh) rh.timer address)

def switch (cfg : LanConfig) (out : Outside) (rh : RouterHello)
    (src address : Nat) : EndnodeLanM Unit := do
  forgetRouter out
  modify fun c => { c with dr := some (rh.id, src) }
  base (enter cfg out rh src address)

def routerHello (cfg : LanConfig) (out : Outside) (rh : RouterHello)
    (src address : Nat) : EndnodeLanM Unit := do
  let c ← get
  if rh.id.area ≠ cfg.parent.homearea then pure ()
  else if c.dr.map Prod.fst = some rh.id then base (stillThere rh.id)
  else switch cfg out rh src address

def listenTimeout (out : Outside) (id : Nodeid) (a : LanEntry)
    (l : Listener) : EndnodeLanM Unit := do
  base (LanStation.expire out id a l)
  modify fun c =>
    if c.dr.map Prod.fst = some id then { c with dr := none } else c
  base (LanStation.adjacencyDown out id)

/-- The hellos of other endnodes and routing messages are ignored; data
packets and the own hello leave the neighbours alone. -/
def dispatch (cfg : LanConfig) (out : Outside) : LanEvent → EndnodeLanM Unit
  | .routerHello rh src address => routerHello cfg out rh src address
  | .listenTimeout id => do
      let c ← get
      match c.station.adjacencies.find id with
      | some a =>
        match a.adj with
        | some l => if l.armed then listenTimeout out id a l else pure ()
        | none => pure ()
      | none => pure ()
  | _ => pure ()

def step (cfg : LanConfig) (c : EndnodeLanCircuit)
    (work : LanEvent × Outside) : EndnodeLanCircuit :=
  after (dispatch cfg work.2 work.1 c)

end EndnodeLanCircuit

end Decnet.Routing
