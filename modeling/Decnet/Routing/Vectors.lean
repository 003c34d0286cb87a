import Decnet.Lib.Checked
import Decnet.Routing.Update

/-!
# The vectors of a router

The routing tables as the code keeps them: one vector for each kind of value,
indexed by destination, with no check of the index.  Every access here is
checked, and a handler is `none` if one is outside its vector.
-/

namespace Decnet.Routing

open Checked List

/-- What happens to a router: it is started, an adjacency comes or goes, a
routing message is handed up. -/
inductive RouterEvent where
  | start
  | up (adj : Neighbour)
  | down (adj : Neighbour)
  | message (msg : RoutingMessage) (adj : Neighbour)
  deriving DecidableEq

/-- A column, with `maxnodes + 1` or `maxarea + 1` places. -/
structure VecColumn where
  adj : Adjacency
  (hops cost : List Nat)

namespace VecColumn

def new (last : Nat) (adj : Adjacency) : VecColumn where
  adj := adj
  hops := replicate (last + 1) INFHOPS
  cost := replicate (last + 1) INFCOST

def set (i hops cost : Nat) (col : VecColumn) : Option VecColumn := do
  let hops ← write col.hops i hops
  let cost ← write col.cost i cost
  pure { col with hops := hops, cost := cost }

end VecColumn

structure VecEndnodes where
  (hops cost : List Nat)
  adjacencies : List (Option Adjacency)

namespace VecEndnodes

def new (last : Nat) : VecEndnodes where
  hops := replicate (last + 1) INFHOPS
  cost := replicate (last + 1) INFCOST
  adjacencies := replicate (last + 1) none

def set (i hops cost : Nat) (adjacency : Option Adjacency)
    (col : VecEndnodes) : Option VecEndnodes := do
  let hops ← write col.hops i hops
  let cost ← write col.cost i cost
  let adjacencies ← write col.adjacencies i adjacency
  pure ⟨hops, cost, adjacencies⟩

/-- `EndnodesRouteInfo::adjacency`, which does check. -/
def adjacency (i : Nat) (col : VecEndnodes) : Option Adjacency :=
  if i < col.adjacencies.length then (col.adjacencies[i]?).join else none

end VecEndnodes

structure VecMatrix where
  columns : List VecColumn
  (minhops mincost : List Nat)
  oadj : List (Option Adjacency)
  (maxid maxhops maxcost : Nat)

namespace VecMatrix

/-- What `resize` makes. -/
def new (maxid maxhops maxcost : Nat) : VecMatrix where
  columns := []
  minhops := replicate (maxid + 1) INFHOPS
  mincost := replicate (maxid + 1) INFCOST
  oadj := replicate (maxid + 1) none
  maxid := maxid
  maxhops := maxhops
  maxcost := maxcost

def addColumn (col : VecColumn) (m : VecMatrix) : VecMatrix :=
  { m with
    columns := (m.columns.filter (·.adj ≠ col.adj)).orderedInsert
      (fun a b => a.adj.address ≤ b.adj.address) col }

def dropColumn (adj : Adjacency) (m : VecMatrix) : VecMatrix :=
  { m with columns := m.columns.filter (·.adj ≠ adj) }

def column (adj : Adjacency) (m : VecMatrix) : Option VecColumn :=
  m.columns.find? (·.adj = adj)

def setColumn (adj : Adjacency) (i hops cost : Nat) (m : VecMatrix) :
    Option VecMatrix := do
  let columns ← m.columns.mapM fun col =>
    if col.adj = adj then col.set i hops cost else pure col
  pure { m with columns := columns }

/-- The lambda `consider` of `compute`. -/
def considerAt (i : Nat) (hops cost : List Nat)
    (adjacency : Option Adjacency) (best : Route) : Option Route := do
  let c ← read cost i
  if c < best.cost ∨ c = best.cost ∧ higher adjacency best.adjacency then
    let h ← read hops i
    pure ⟨h, c, adjacency⟩
  else pure best

def considerEndnodes (i : Nat) (extra : Option VecEndnodes) (best : Route) : Option Route :=
  match extra with
  | none => pure best
  | some col => considerAt i col.hops col.cost (col.adjacency i) best

def best (m : VecMatrix) (extra : Option VecEndnodes) (i : Nat) :
    Option Route := do
  let found ← m.columns.foldlM
    (fun found col => considerAt i col.hops col.cost (some col.adj) found) Route.unreachable
  let found ← considerEndnodes i extra found
  if m.maxcost < found.cost ∨ m.maxhops < found.hops then
    pure Route.unreachable
  else pure found

/-- The assignments to `minhops` and `mincost`, and `on_change`. -/
def renewCost (i : Nat) (found : Route) (state : VecMatrix × List Notice) :
    Option (VecMatrix × List Notice) := do
  let hops ← read state.1.minhops i
  let cost ← read state.1.mincost i
  if hops ≠ found.hops ∨ cost ≠ found.cost then
    let minhops ← write state.1.minhops i found.hops
    let mincost ← write state.1.mincost i found.cost
    pure ({ state.1 with minhops := minhops, mincost := mincost }, state.2 ++ [.change i])
  else pure state

/-- The assignment to `oadj`, and `on_reach`. -/
def renewOadj (i : Nat) (found : Route) (state : VecMatrix × List Notice) :
    Option (VecMatrix × List Notice) := do
  let old ← read state.1.oadj i
  if found.adjacency ≠ old then
    let oadj ← write state.1.oadj i found.adjacency
    let reached := if (found.adjacency = none ∨ old = none) ∧
        found.adjacency.all (fun a => !a.isSelf)
      then [Notice.reach i found.adjacency.isSome] else []
    pure ({ state.1 with oadj := oadj }, state.2 ++ reached)
  else pure state

def computeStep (extra : Option VecEndnodes) (state : VecMatrix × List Notice) (i : Nat) :
    Option (VecMatrix × List Notice) := do
  let found ← state.1.best extra i
  let state ← renewCost i found state
  renewOadj i found state

def compute (m : VecMatrix) (first last : Nat)
    (extra : Option VecEndnodes) : Option (VecMatrix × List Notice) :=
  (range' first (min last m.maxid + 1 - first)).foldlM (computeStep extra) (m, [])

/-- `advertised_entry` and `advertised_area_entry` check against one of the
two vectors they read. -/
def advertised (m : VecMatrix) (i : Nat) : Option Nat :=
  if m.minhops.length ≤ i then pure (routeEntry INFHOPS INFCOST)
  else do
    let hops ← read m.minhops i
    let cost ← read m.mincost i
    pure (routeEntry hops cost)

end VecMatrix

structure VecL1Router where
  nodeid : Nodeid
  (selfAddress maxnodes : Nat)
  endnodes : VecEndnodes
  l1 : VecMatrix
  outputs : List Output

namespace VecL1Router

def tid (r : VecL1Router) : Nat := r.nodeid.tid

def selfadj (r : VecL1Router) : Adjacency := .self r.selfAddress r.nodeid

def new (config : RoutingConfig) (selfAddress : Nat) : VecL1Router where
  nodeid := config.id
  selfAddress := selfAddress
  maxnodes := min config.maxnodes 1023
  endnodes := VecEndnodes.new (min config.maxnodes 1023)
  l1 := VecMatrix.new (min config.maxnodes 1023) config.maxhops config.maxcost
  outputs := []

def emit (output : Output) (r : VecL1Router) : VecL1Router :=
  { r with outputs := r.outputs ++ [output] }

def computeRoutes (first last : Nat) (r : VecL1Router) :
    Option VecL1Router := do
  let computed ← r.l1.compute first last (some r.endnodes)
  pure { r with
    l1 := computed.1
    outputs := r.outputs ++ computed.2.map L1Router.onNotice }

/-- Nothing has checked that the own number is within `maxnodes`. -/
def start (r : VecL1Router) : Option VecL1Router := do
  let self ← (VecColumn.new r.maxnodes r.selfadj).set r.tid 0 0
  computeRoutes 0 r.maxnodes { r with l1 := r.l1.addColumn self }

def setEndnode (tid hops cost : Nat) (adjacency : Option Adjacency)
    (r : VecL1Router) : Option VecL1Router := do
  let endnodes ← r.endnodes.set tid hops cost adjacency
  computeRoutes tid tid { r with endnodes := endnodes }

def adjUp (adj : Neighbour) (r : VecL1Router) : Option VecL1Router :=
  if adj.ntype.isRouter then
    let col := VecColumn.new r.maxnodes (.neighbour adj)
    pure (emit (.setSrm 0 r.maxnodes) { r with l1 := r.l1.addColumn col })
  else if adj.nodeid.tid ≤ r.maxnodes then
    r.setEndnode adj.nodeid.tid 1 (adj.circuitCost % 2 ^ 16) (some (.neighbour adj))
  else pure r

def adjDown (adj : Neighbour) (r : VecL1Router) : Option VecL1Router :=
  if adj.ntype.isRouter then
    computeRoutes 0 r.maxnodes { r with l1 := r.l1.dropColumn (.neighbour adj) }
  else if adj.nodeid.tid ≤ r.maxnodes then
    r.setEndnode adj.nodeid.tid INFHOPS INFCOST none
  else pure r

def setRoute (adj : Adjacency) (i hops cost : Nat) (r : VecL1Router) : Option VecL1Router :=
  match r.l1.column adj with
  | none => pure r
  | some col => do
      let h ← read col.hops i
      let c ← read col.cost i
      if h ≠ hops ∨ c ≠ cost then
        let l1 ← r.l1.setColumn adj i hops cost
        computeRoutes i i { r with l1 := l1 }
      else pure r

def routeUpdate (adj : Adjacency) (state : VecL1Router × Nat)
    (u : RouteUpdate) : Option (VecL1Router × Nat) :=
  if state.1.maxnodes < u.id then
    pure (state.1, L1Router.beyond u state.2)
  else do
    let r ← state.1.setRoute adj u.id (min u.hops INFHOPS) (min u.cost INFCOST)
    pure (r, state.2)

def reportLoss (state : VecL1Router × Nat) : VecL1Router :=
  if state.2 = 0 then state.1
  else emit (.partialUpdateLoss state.2) state.1

def routingMessage (msg : RoutingMessage) (adj : Neighbour)
    (circuitCost : Nat) (r : VecL1Router) : Option VecL1Router :=
  if msg.isL2 then pure r
  else if (r.l1.column (.neighbour adj)).isNone then pure r
  else do
    let state ← (msg.updates circuitCost).foldlM (routeUpdate (.neighbour adj)) (r, 0)
    pure (reportLoss state)

def setOwnZero (attached : Bool) (r : VecL1Router) :
    Option VecL1Router := do
  let l1 ← r.l1.setColumn r.selfadj 0 (if attached then 0 else INFHOPS)
    (if attached then 0 else INFCOST)
  computeRoutes 0 0 (emit (.setSrm 0 0) { r with l1 := l1 })

def handle (event : RouterEvent) (r : VecL1Router) : Option VecL1Router :=
  match event with
  | .start => r.start
  | .up adj => r.adjUp adj
  | .down adj => r.adjDown adj
  | .message msg adj => r.routingMessage msg adj adj.circuit.cost

end VecL1Router

structure VecL2Router extends VecL1Router where
  maxarea : Nat
  l2 : VecMatrix
  attached : Bool

namespace VecL2Router

def homearea (r : VecL2Router) : Nat := r.nodeid.area

def new (config : RoutingConfig) (selfAddress : Nat) : VecL2Router where
  toVecL1Router := VecL1Router.new config selfAddress
  maxarea := min config.maxarea 63
  l2 := VecMatrix.new (min config.maxarea 63) config.amaxhops config.amaxcost
  attached := false

def withL1 (r : VecL2Router) (r1 : VecL1Router) : VecL2Router :=
  { r with toVecL1Router := r1 }

/-- The loop after `compute` that looks for another area. -/
def anyArea (r : VecL2Router) : Option Bool :=
  (range' 1 r.maxarea).foldlM (fun found i => do
    if found then pure true
    else if i = r.homearea then pure false
    else
      let oadj ← read r.l2.oadj i
      pure oadj.isSome) false

/-- What follows if another area became reachable, or the last one did not
stay so. -/
def reattach (r : VecL2Router) : Option VecL2Router := do
  let attached ← r.anyArea
  if attached = r.attached then pure r
  else
    let r1 ← r.toVecL1Router.setOwnZero attached
    pure { r.withL1 r1 with attached := attached }

def computeAreas (first last : Nat) (r : VecL2Router) :
    Option VecL2Router := do
  let computed ← r.l2.compute first last none
  reattach { r with
    l2 := computed.1
    outputs := r.outputs ++ computed.2.map L2Router.onNotice }

def start (r : VecL2Router) : Option VecL2Router := do
  let r1 ← r.toVecL1Router.start
  let self ← (VecColumn.new r.maxarea r.selfadj).set r.homearea 0 0
  computeAreas 1 r.maxarea { r.withL1 r1 with l2 := r.l2.addColumn self }

def adjUp (adj : Neighbour) (r : VecL2Router) : Option VecL2Router := do
  let r1 ← r.toVecL1Router.adjUp adj
  if adj.ntype = .l2router then
    let col := VecColumn.new r.maxarea (.neighbour adj)
    pure { r.withL1 (r1.emit (.setAsrm 1 r.maxarea)) with
      l2 := r.l2.addColumn col }
  else pure (r.withL1 r1)

def adjDown (adj : Neighbour) (r : VecL2Router) : Option VecL2Router := do
  let r1 ← r.toVecL1Router.adjDown adj
  if adj.ntype = .l2router then
    computeAreas 1 r.maxarea { r.withL1 r1 with l2 := r.l2.dropColumn (.neighbour adj) }
  else pure (r.withL1 r1)

def setArea (adj : Adjacency) (i hops cost : Nat) (r : VecL2Router) : Option VecL2Router :=
  match r.l2.column adj with
  | none => pure r
  | some col => do
      let h ← read col.hops i
      let c ← read col.cost i
      if h ≠ hops ∨ c ≠ cost then
        let l2 ← r.l2.setColumn adj i hops cost
        computeAreas i i { r with l2 := l2 }
      else pure r

def areaUpdate (adj : Adjacency) (state : VecL2Router × Nat)
    (u : RouteUpdate) : Option (VecL2Router × Nat) :=
  if u.id < 1 ∨ state.1.maxarea < u.id then
    pure (state.1, if state.1.maxarea < u.id then L1Router.beyond u state.2
      else state.2)
  else do
    let r ← state.1.setArea adj u.id (min u.hops INFHOPS) (min u.cost INFCOST)
    pure (r, state.2)

def routingMessage (msg : RoutingMessage) (adj : Neighbour)
    (circuitCost : Nat) (r : VecL2Router) : Option VecL2Router :=
  if msg.isL2 then
    if (r.l2.column (.neighbour adj)).isNone then pure r
    else do
      let state ← (msg.updates circuitCost).foldlM (areaUpdate (.neighbour adj)) (r, 0)
      pure (state.1.withL1 (VecL1Router.reportLoss (state.1.toVecL1Router, state.2)))
  else do
    let r1 ← r.toVecL1Router.routingMessage msg adj circuitCost
    pure (r.withL1 r1)

def handle (event : RouterEvent) (r : VecL2Router) : Option VecL2Router :=
  match event with
  | .start => r.start
  | .up adj => r.adjUp adj
  | .down adj => r.adjDown adj
  | .message msg adj => r.routingMessage msg adj adj.circuit.cost

end VecL2Router

/-! ## Update processes -/

structure VecUpdate where
  level : Level
  srm : List Bool
  (anySrm running : Bool)

namespace VecUpdate

def new (level : Level) (maxnodes : Nat) : VecUpdate where
  level := level
  srm := replicate (match level with
    | .one => maxnodes + 1
    | .two => 64) false
  anySrm := false
  running := false

def setSrm (wants : Bool) (first last : Nat) (u : VecUpdate) : Option VecUpdate :=
  if !wants then pure u
  else do
    let srm ← (range' first (min last (u.srm.length - 1) + 1 - first)).foldlM
      (fun srm i => write srm i true) u.srm
    pure { u with srm := srm, anySrm := true }

def lowid (u : VecUpdate) : Nat :=
  match u.level with
  | .one => 0
  | .two => 1

/-- Level 1 goes up to the router's `maxnodes`, level 2 by the vector. -/
def highid (maxnodes : Nat) (u : VecUpdate) : Nat :=
  match u.level with
  | .one => maxnodes
  | .two => u.srm.length - 1

def marked (complete : Bool) (i : Nat) (u : VecUpdate) : Option Bool :=
  if complete then pure true else read u.srm i

/-- The loop of `build`, with the entries it reads from the tables. -/
def build (complete : Bool) (room maxnodes : Nat)
    (entryFor : Nat → Option Nat) (u : VecUpdate) : Option Update.Builder :=
  (range' u.lowid (u.highid maxnodes + 1 - u.lowid)).foldlM (fun b i => do
      let marked ← u.marked complete i
      if marked then
        let entry ← entryFor i
        pure (b.add room (fun _ => entry) i)
      else pure b)
    Update.Builder.empty

def timeout (wants : Bool) (room maxnodes : Nat)
    (entryFor : Nat → Option Nat) (u : VecUpdate) : Option VecUpdate :=
  if !u.running ∨ !wants then pure u
  else do
    let _ ← u.build (!u.anySrm) room maxnodes entryFor
    pure { u with
      srm := replicate u.srm.length false
      anySrm := false }

end VecUpdate

/-! ## The router with its update processes -/

inductive VecRouter where
  | l1 (r : VecL1Router)
  | l2 (r : VecL2Router)

namespace VecRouter

def new (area : Bool) (config : RoutingConfig) (selfAddress : Nat) : VecRouter :=
  if area then .l2 (VecL2Router.new config selfAddress)
  else .l1 (VecL1Router.new config selfAddress)

def base : VecRouter → VecL1Router
  | l1 r => r
  | l2 r => r.toVecL1Router

def handle (event : RouterEvent) : VecRouter → Option VecRouter
  | l1 r => l1 <$> r.handle event
  | l2 r => l2 <$> r.handle event

def entryFor (level : Level) (r : VecRouter) (i : Nat) : Option Nat :=
  match level, r with
  | .one, r => r.base.l1.advertised i
  | .two, l2 r => r.l2.advertised i
  | .two, l1 _ => pure (routeEntry INFHOPS INFCOST)

end VecRouter

/-- One update process for each circuit; a level 2 router has a second one. -/
structure VecNode where
  router : VecRouter
  (updates areaUpdates : List VecUpdate)

namespace VecNode

def new (area : Bool) (config : RoutingConfig) (selfAddress circuits : Nat) : VecNode where
  router := VecRouter.new area config selfAddress
  updates := replicate circuits (VecUpdate.new .one (min config.maxnodes 1023))
  areaUpdates := if area then replicate circuits
    (VecUpdate.new .two (min config.maxnodes 1023)) else []

/-- `wants` is what each circuit answers to `wants_updates`. -/
def markAll (wants : Nat → Bool) (first last : Nat)
    (updates : List VecUpdate) : Option (List VecUpdate) :=
  updates.zipIdx.mapM fun (u, name) => u.setSrm (wants name) first last

def notify (wants : Level → Nat → Bool) (s : VecNode) :
    Output → Option VecNode
  | .setSrm first last => do
      let updates ← markAll (wants .one) first last s.updates
      pure { s with updates := updates }
  | .setAsrm first last => do
      let areaUpdates ← markAll (wants .two) first last s.areaUpdates
      pure { s with areaUpdates := areaUpdates }
  | _ => pure s

def startUpdates (updates : List VecUpdate) : List VecUpdate :=
  updates.map fun u => { u with running := true }

def expire (wants : Level → Nat → Bool) (level : Level) (name room : Nat)
    (s : VecNode) (updates : List VecUpdate) : Option (List VecUpdate) :=
  updates.zipIdx.mapM fun (u, other) =>
    if other = name then
      u.timeout (wants level name) room s.router.base.maxnodes (s.router.entryFor level)
    else pure u

inductive Event where
  | router (event : RouterEvent)
  | expire (level : Level) (name room : Nat)
  deriving DecidableEq

/-- An event, with the circuits' answers while it is handled. -/
structure Input where
  event : Event
  wants : Level → Nat → Bool

def step (s : VecNode) (input : Input) : Option VecNode :=
  match input.event with
  | .router event => do
      let router ← s.router.handle event
      let requests := router.base.outputs.drop s.router.base.outputs.length
      let s ← requests.foldlM (notify input.wants) { s with router := router }
      if event = .start then
        pure { s with
          updates := startUpdates s.updates
          areaUpdates := startUpdates s.areaUpdates }
      else pure s
  | .expire .one name room => do
      let updates ← s.expire input.wants .one name room s.updates
      pure { s with updates := updates }
  | .expire .two name room => do
      let areaUpdates ← s.expire input.wants .two name room s.areaUpdates
      pure { s with areaUpdates := areaUpdates }

/-- `none` as soon as an index is outside its vector. -/
def run (s : VecNode) (inputs : List Input) : Option VecNode :=
  inputs.foldlM step s

end VecNode

end Decnet.Routing
