import Decnet.Routing.RouteMatrix

/-!
# Level 1 and level 2 routers

The handlers of `L1Router` and `L2Router` that keep the routing tables: `start`,
`adj_up`, `adj_down` and `routing_message`.  What they ask of the update
processes and the event logger is kept in `outputs`, in order.
-/

namespace Decnet.Routing

/-- The `routing` line of the configuration. -/
structure RoutingConfig where
  id : Nodeid
  (maxnodes maxarea maxhops maxcost amaxhops amaxcost : Nat)
  deriving DecidableEq

inductive Output where
  | setSrm (first last : Nat)
  | setAsrm (first last : Nat)
  | nodeReach (tid : Nat) (reachable : Bool)
  | areaReach (area : Nat) (reachable : Bool)
  | partialUpdateLoss (highest : Nat)
  deriving DecidableEq

structure L1Router where
  nodeid : Nodeid
  (selfAddress maxnodes : Nat)
  /-- `BaseRouter::adjacencies_`, by the value of the address. -/
  adjacencies : Nat → Option Neighbour
  endnodes : EndnodesRouteInfo
  l1 : RouteMatrix
  partialUpdateLoss : Nat
  outputs : List Output

namespace L1Router

def tid (r : L1Router) : Nat := r.nodeid.tid

def homearea (r : L1Router) : Nat := r.nodeid.area

def selfadj (r : L1Router) : Adjacency := .self r.selfAddress r.nodeid

def new (config : RoutingConfig) (selfAddress : Nat) : L1Router where
  nodeid := config.id
  selfAddress := selfAddress
  maxnodes := min config.maxnodes 1023
  adjacencies := fun _ => none
  endnodes := EndnodesRouteInfo.new
  l1 := RouteMatrix.new (min config.maxnodes 1023) config.maxhops config.maxcost
  partialUpdateLoss := 0
  outputs := []

def emit (output : Output) (r : L1Router) : L1Router :=
  { r with outputs := r.outputs ++ [output] }

/-- The callbacks `compute_routes` gives to `compute`. -/
def onNotice : Notice → Output
  | .change i => .setSrm i i
  | .reach i reachable => .nodeReach i reachable

def computeRoutes (first last : Nat) (r : L1Router) : L1Router :=
  let (m, notices) := r.l1.compute first last (some r.endnodes)
  { r with l1 := m, outputs := r.outputs ++ notices.map onNotice }

def start (r : L1Router) : L1Router :=
  let self := (RouteInfo.new r.selfadj).set r.tid 0 0
  computeRoutes 0 r.maxnodes { r with l1 := r.l1.addColumn self }

/-- An endnode does not advertise, so its entry is filled in here; the cost of
its circuit is cut to 16 bits. -/
def setEndnode (tid hops cost : Nat) (adjacency : Option Adjacency) (r : L1Router) : L1Router :=
  computeRoutes tid tid { r with endnodes := r.endnodes.set tid hops cost adjacency }

def adjUp (adj : Neighbour) (r : L1Router) : L1Router :=
  let r := { r with
    adjacencies := Function.update r.adjacencies adj.nodeid.value (some adj) }
  if adj.ntype.isRouter then
    emit (.setSrm 0 r.maxnodes) { r with l1 := r.l1.addColumn (RouteInfo.new (.neighbour adj)) }
  else if adj.nodeid.tid ≤ r.maxnodes then
    r.setEndnode adj.nodeid.tid 1 (adj.circuitCost % 2 ^ 16) (some (.neighbour adj))
  else r

def adjDown (adj : Neighbour) (r : L1Router) : L1Router :=
  let r := { r with
    adjacencies := Function.update r.adjacencies adj.nodeid.value none }
  if adj.ntype.isRouter then
    computeRoutes 0 r.maxnodes { r with l1 := r.l1.dropColumn (.neighbour adj) }
  else if adj.nodeid.tid ≤ r.maxnodes then
    r.setEndnode adj.nodeid.tid INFHOPS INFCOST none
  else r

/-- The highest destination beyond the table that an update claims to be
reachable. -/
def beyond (u : RouteUpdate) (maxreach : Nat) : Nat :=
  if u.hops ≤ INFHOPS ∧ u.cost < INFCOST then max maxreach u.id else maxreach

/-- Does the column of `adj` say something else about `i`? -/
def differs (m : RouteMatrix) (adj : Adjacency) (i hops cost : Nat) : Bool :=
  (m.column adj).any fun col => col.hops i ≠ hops ∨ col.cost i ≠ cost

def setRoute (adj : Adjacency) (i hops cost : Nat) (r : L1Router) : L1Router :=
  if differs r.l1 adj i hops cost then
    computeRoutes i i { r with l1 := r.l1.setColumn adj i hops cost }
  else r

/-- The body of the loop over the updates of a message. -/
def routeUpdate (adj : Adjacency) (state : L1Router × Nat) (u : RouteUpdate) : L1Router × Nat :=
  if state.1.maxnodes < u.id then (state.1, beyond u state.2)
  else
    (state.1.setRoute adj u.id (min u.hops INFHOPS) (min u.cost INFCOST), state.2)

/-- Part of a message named destinations the table cannot hold. -/
def reportLoss (state : L1Router × Nat) : L1Router :=
  if state.2 = 0 then state.1
  else emit (.partialUpdateLoss state.2)
    { state.1 with partialUpdateLoss := state.1.partialUpdateLoss + 1 }

def routingMessage (msg : RoutingMessage) (adj : Neighbour)
    (circuitCost : Nat) (r : L1Router) : L1Router :=
  if msg.isL2 then r
  else if (r.l1.column (.neighbour adj)).isNone then r
  else reportLoss ((msg.updates circuitCost).foldl (routeUpdate (.neighbour adj)) (r, 0))

/-- Destination 0 of the level 1 table is the nearest level 2 router: an
attached one advertises itself there at no cost. -/
def setOwnZero (attached : Bool) (r : L1Router) : L1Router :=
  computeRoutes 0 0 (emit (.setSrm 0 0)
    { r with
      l1 := r.l1.setColumn r.selfadj 0 (if attached then 0 else INFHOPS)
        (if attached then 0 else INFCOST) })

/-- The next hop to `dest`, and whether the address is out of range. -/
def findOadj (dest : Nodeid) (r : L1Router) : Option Adjacency × Bool :=
  let t := if dest.area ≠ r.homearea then 0 else dest.tid
  if r.l1.maxid < t then (none, true) else (r.l1.oadj t, false)

def advertisedEntry (t : Nat) (r : L1Router) : Nat :=
  if r.l1.maxid < t then routeEntry INFHOPS INFCOST
  else routeEntry (r.l1.minhops t) (r.l1.mincost t)

end L1Router

structure L2Router extends L1Router where
  maxarea : Nat
  l2 : RouteMatrix
  attached : Bool

namespace L2Router

def new (config : RoutingConfig) (selfAddress : Nat) : L2Router where
  toL1Router := L1Router.new config selfAddress
  maxarea := min config.maxarea 63
  l2 := RouteMatrix.new (min config.maxarea 63) config.amaxhops config.amaxcost
  attached := false

def emit (output : Output) (r : L2Router) : L2Router :=
  { r with toL1Router := r.toL1Router.emit output }

/-- The callbacks `compute_areas` gives to `compute`. -/
def onNotice : Notice → Output
  | .change i => .setAsrm i i
  | .reach i reachable => .areaReach i reachable

def anyArea (r : L2Router) : Bool :=
  (List.range' 1 r.maxarea).any fun i => i ≠ r.homearea && (r.l2.oadj i).isSome

def setAttached (attached : Bool) (r : L2Router) : L2Router :=
  { r with
    toL1Router := r.toL1Router.setOwnZero attached
    attached := attached }

def computeAreas (first last : Nat) (r : L2Router) : L2Router :=
  let (m, notices) := r.l2.compute first last none
  let r : L2Router := { r with l2 := m, outputs := r.outputs ++ notices.map onNotice }
  if r.anyArea = r.attached then r else r.setAttached r.anyArea

def start (r : L2Router) : L2Router :=
  let self := (RouteInfo.new r.selfadj).set r.homearea 0 0
  computeAreas 1 r.maxarea { r with toL1Router := r.toL1Router.start, l2 := r.l2.addColumn self }

def adjUp (adj : Neighbour) (r : L2Router) : L2Router :=
  if adj.ntype = .l2router then
    emit (.setAsrm 1 r.maxarea)
      { r with
        toL1Router := r.toL1Router.adjUp adj
        l2 := r.l2.addColumn (RouteInfo.new (.neighbour adj)) }
  else { r with toL1Router := r.toL1Router.adjUp adj }

def adjDown (adj : Neighbour) (r : L2Router) : L2Router :=
  let r : L2Router := { r with toL1Router := r.toL1Router.adjDown adj }
  if adj.ntype = .l2router then
    computeAreas 1 r.maxarea { r with l2 := r.l2.dropColumn (.neighbour adj) }
  else r

def setArea (adj : Adjacency) (i hops cost : Nat) (r : L2Router) : L2Router :=
  if L1Router.differs r.l2 adj i hops cost then
    computeAreas i i { r with l2 := r.l2.setColumn adj i hops cost }
  else r

/-- The body of the loop over the updates of a level 2 message.  There is no
area zero. -/
def areaUpdate (adj : Adjacency) (state : L2Router × Nat) (u : RouteUpdate) : L2Router × Nat :=
  if u.id < 1 ∨ state.1.maxarea < u.id then
    (state.1, if state.1.maxarea < u.id then L1Router.beyond u state.2
      else state.2)
  else
    (state.1.setArea adj u.id (min u.hops INFHOPS) (min u.cost INFCOST), state.2)

def reportLoss (state : L2Router × Nat) : L2Router :=
  { state.1 with
    toL1Router := L1Router.reportLoss (state.1.toL1Router, state.2) }

def routingMessage (msg : RoutingMessage) (adj : Neighbour)
    (circuitCost : Nat) (r : L2Router) : L2Router :=
  if msg.isL2 then
    if (r.l2.column (.neighbour adj)).isNone then r
    else reportLoss ((msg.updates circuitCost).foldl (areaUpdate (.neighbour adj)) (r, 0))
  else
    { r with toL1Router := r.toL1Router.routingMessage msg adj circuitCost }

def findOadj (dest : Nodeid) (r : L2Router) : Option Adjacency × Bool :=
  if r.attached ∧ dest.area ≠ r.homearea then
    if r.l2.maxid < dest.area then (none, true)
    else (r.l2.oadj dest.area, false)
  else r.toL1Router.findOadj dest

def advertisedAreaEntry (a : Nat) (r : L2Router) : Nat :=
  if r.l2.maxid < a then routeEntry INFHOPS INFCOST
  else routeEntry (r.l2.minhops a) (r.l2.mincost a)

end L2Router

inductive Router where
  | l1 (r : L1Router)
  | l2 (r : L2Router)

namespace Router

/-- The class by the `type` of the configuration. -/
def new (area : Bool) (config : RoutingConfig) (selfAddress : Nat) : Router :=
  if area then .l2 (L2Router.new config selfAddress)
  else .l1 (L1Router.new config selfAddress)

def start : Router → Router
  | l1 r => l1 r.start
  | l2 r => l2 r.start

def adjUp (adj : Neighbour) : Router → Router
  | l1 r => l1 (r.adjUp adj)
  | l2 r => l2 (r.adjUp adj)

def adjDown (adj : Neighbour) : Router → Router
  | l1 r => l1 (r.adjDown adj)
  | l2 r => l2 (r.adjDown adj)

def routingMessage (msg : RoutingMessage) (adj : Neighbour) (circuitCost : Nat) : Router → Router
  | l1 r => l1 (r.routingMessage msg adj circuitCost)
  | l2 r => l2 (r.routingMessage msg adj circuitCost)

def base : Router → L1Router
  | l1 r => r
  | l2 r => r.toL1Router

def findOadj (dest : Nodeid) : Router → Option Adjacency × Bool
  | l1 r => r.findOadj dest
  | l2 r => r.findOadj dest

end Router

/-- The routing layer: a router and the adjacencies whose `up_` is set. -/
structure Layer where
  router : Router
  up : List Neighbour

namespace Layer

inductive Input where
  | up (adj : Neighbour)
  | down (adj : Neighbour)
  | message (msg : RoutingMessage) (adj : Neighbour)
  deriving DecidableEq

def Input.adj : Input → Neighbour
  | up adj => adj
  | down adj => adj
  | message _ adj => adj

/-- `Adjacency::up` and `Adjacency::down` do nothing when called again; a
circuit hands a routing message up with its own cost. -/
def step (s : Layer) : Input → Layer
  | .up adj =>
    if adj ∈ s.up then s
    else { router := s.router.adjUp adj, up := adj :: s.up }
  | .down adj =>
    if adj ∈ s.up then
      { router := s.router.adjDown adj, up := s.up.filter (· ≠ adj) }
    else s
  | .message msg adj =>
    { s with router := s.router.routingMessage msg adj adj.circuit.cost }

def start (area : Bool) (config : RoutingConfig) (selfAddress : Nat) : Layer where
  router := (Router.new area config selfAddress).start
  up := []

def run (s : Layer) (inputs : List Input) : Layer := inputs.foldl step s

end Layer

/-! ## Rules -/

/-- Outputs and counters do not matter to a relation of level 1 routers. -/
structure Tacit (R : L1Router → L1Router → Prop) : Prop where
  refl : ∀ r, R r r
  trans : ∀ {r r' r''}, R r r' → R r' r'' → R r r''
  noted : ∀ r outputs, R r { r with outputs := r.outputs ++ outputs }
  lost : ∀ r, R r { r with partialUpdateLoss := r.partialUpdateLoss + 1 }

/-- Nor does what a level 2 router says of destination 0. -/
structure Shielded (R : L1Router → L1Router → Prop) : Prop extends Tacit R where
  ownZero : ∀ attached r, R r (L1Router.setOwnZero attached r)

section Rules

variable {R : L1Router → L1Router → Prop}

theorem Tacit.of_pred {P : L1Router → Prop}
    (noted : ∀ r outputs, P r → P { r with outputs := r.outputs ++ outputs }) (lost : ∀ r, P r →
      P { r with partialUpdateLoss := r.partialUpdateLoss + 1 }) : Tacit fun r r' => P r → P r' :=
  ⟨fun _ => id, fun first second => second ∘ first, noted, lost⟩

theorem Tacit.reportLoss (tacit : Tacit R) (state : L1Router × Nat) :
    R state.1 (L1Router.reportLoss state) := by
  unfold L1Router.reportLoss
  split
  · exact tacit.refl _
  · exact tacit.trans (tacit.lost _) (tacit.noted _ [_])

theorem Tacit.foldl_routeUpdate (tacit : Tacit R) {adj : Adjacency} {updates : List RouteUpdate}
    (route : ∀ r, ∀ u ∈ updates, R r (L1Router.setRoute adj u.id
      (min u.hops INFHOPS) (min u.cost INFCOST) r)) (state : L1Router × Nat) :
    R state.1 (updates.foldl (L1Router.routeUpdate adj) state).1 := by
  induction updates generalizing state with
  | nil => exact tacit.refl _
  | cons u updates induction =>
    refine tacit.trans ?_ (induction (fun r u member => route r u (.tail _ member)) _)
    unfold L1Router.routeUpdate
    split
    · exact tacit.refl _
    · exact route state.1 u List.mem_cons_self

/-- The rule for routing messages: what each update respects, the message
does. -/
theorem Tacit.routingMessage (tacit : Tacit R) {msg : RoutingMessage}
    {adj : Neighbour} {circuitCost : Nat}
    (route : msg.isL2 = false → ∀ r, ∀ u ∈ msg.updates circuitCost,
      R r (L1Router.setRoute (.neighbour adj) u.id (min u.hops INFHOPS)
        (min u.cost INFCOST) r)) (r : L1Router) : R r (r.routingMessage msg adj circuitCost) := by
  unfold L1Router.routingMessage
  split
  · exact tacit.refl r
  case isFalse level =>
    split
    · exact tacit.refl r
    have each := route (Bool.eq_false_iff.mpr level)
    exact tacit.trans (tacit.foldl_routeUpdate each (r, 0)) (tacit.reportLoss _)

section

variable (shielded : Shielded R)

include shielded

theorem Shielded.computeAreas (r : L2Router) (first last : Nat) :
    R r.toL1Router (r.computeAreas first last).toL1Router := by
  have noted := shielded.noted r.toL1Router ((r.l2.compute first last none).2.map L2Router.onNotice)
  unfold L2Router.computeAreas
  dsimp only
  split
  · exact noted
  · exact shielded.trans noted (shielded.ownZero _ _)

theorem Shielded.foldl_areaUpdate (adj : Adjacency) (updates : List RouteUpdate)
    (state : L2Router × Nat) :
    R state.1.toL1Router (updates.foldl (L2Router.areaUpdate adj) state).1.toL1Router := by
  induction updates generalizing state with
  | nil => exact shielded.refl _
  | cons u updates induction =>
    refine shielded.trans ?_ (induction _)
    unfold L2Router.areaUpdate
    split
    · exact shielded.refl _
    unfold L2Router.setArea
    split
    · exact shielded.computeAreas { state.1 with
        l2 := state.1.l2.setColumn adj u.id (min u.hops INFHOPS) (min u.cost INFCOST) } u.id u.id
    · exact shielded.refl _

/-- What a router of either class does to its level 1 side beyond what a level
1 router does. -/
theorem Shielded.adjUp (adj : Neighbour) (router : Router) :
    R (router.base.adjUp adj) (router.adjUp adj).base := by
  cases router with
  | l1 r => exact shielded.refl _
  | l2 r =>
    change R _ (r.adjUp adj).toL1Router
    unfold L2Router.adjUp
    split
    · exact shielded.noted _ [_]
    · exact shielded.refl _

theorem Shielded.adjDown (adj : Neighbour) (router : Router) :
    R (router.base.adjDown adj) (router.adjDown adj).base := by
  cases router with
  | l1 r => exact shielded.refl _
  | l2 r =>
    change R _ (r.adjDown adj).toL1Router
    unfold L2Router.adjDown
    split
    · exact shielded.computeAreas { r with
        toL1Router := r.toL1Router.adjDown adj
        l2 := r.l2.dropColumn (.neighbour adj) } 1 r.maxarea
    · exact shielded.refl _

theorem Shielded.routingMessage (msg : RoutingMessage) (adj : Neighbour)
    (circuitCost : Nat) (router : Router) :
    R (router.base.routingMessage msg adj circuitCost)
      (router.routingMessage msg adj circuitCost).base := by
  cases router with
  | l1 r => exact shielded.refl _
  | l2 r =>
    change R (r.toL1Router.routingMessage msg adj circuitCost)
      (r.routingMessage msg adj circuitCost).toL1Router
    unfold L2Router.routingMessage
    split
    case isTrue areas =>
      rw [L1Router.routingMessage, if_pos areas]
      split
      · exact shielded.refl _
      · exact shielded.trans (shielded.foldl_areaUpdate _ _ (r, 0))
          (shielded.toTacit.reportLoss (_, _))
    case isFalse => exact shielded.refl _

/-- The rule for steps of the layer: what the level 1 handlers respect, a step
does. -/
theorem Shielded.step {input : Layer.Input} (handled : match input with
      | .up adj => ∀ r, R r (L1Router.adjUp adj r)
      | .down adj => ∀ r, R r (L1Router.adjDown adj r)
      | .message msg adj => ∀ r, R r (L1Router.routingMessage msg adj adj.circuit.cost r))
    (s : Layer) : R s.router.base (s.step input).router.base := by
  cases input with
  | up adj =>
    unfold Layer.step
    dsimp only
    split
    · exact shielded.refl _
    · exact shielded.trans (handled _) (shielded.adjUp adj s.router)
  | down adj =>
    unfold Layer.step
    dsimp only
    split
    · exact shielded.trans (handled _) (shielded.adjDown adj s.router)
    · exact shielded.refl _
  | message msg adj =>
    exact shielded.trans (handled _) (shielded.routingMessage msg adj _ s.router)

end

end Rules

end Decnet.Routing
