import Decnet.Routing.Vectors

/-!
# Indices stay inside their vectors

The vectors of a router keep their sizes, and every handler checks the indices
it gets from outside.  The one exception is `start`, which enters the node's own
number, and a level 2 router's own area, without comparing them with the size
of the column.
-/

namespace Decnet.Routing

open Checked List VecL1Router

/-! ## Columns -/

structure VecColumn.Sized (last : Nat) (col : VecColumn) : Prop where
  hops : col.hops.length = last + 1
  cost : col.cost.length = last + 1

namespace VecColumn

theorem sized_new (last : Nat) (adj : Adjacency) : (new last adj).Sized last :=
  ⟨length_replicate, length_replicate⟩

variable {last i : Nat} {col : VecColumn}

theorem Sized.set (sized : col.Sized last) (bound : i ≤ last)
    (hops cost : Nat) : Returns (Sized last) (col.set i hops cost) := by
  have inside := Nat.lt_succ_of_le bound
  apply (write_inside sized.hops inside hops).bind
  intro hops' size
  apply (write_inside sized.cost inside cost).bind
  intro cost' size'
  exact returns_pure ⟨size, size'⟩

theorem set_outside (last hops cost : Nat) (adj : Adjacency)
    (outside : last < i) : (new last adj).set i hops cost = none := by
  have beyond : (replicate (last + 1) INFHOPS).length ≤ i := by
    rw [length_replicate]
    exact outside
  unfold VecColumn.set VecColumn.new
  rw [write_outside beyond]
  rfl

end VecColumn

structure VecEndnodes.Sized (last : Nat) (col : VecEndnodes) : Prop where
  hops : col.hops.length = last + 1
  cost : col.cost.length = last + 1
  adjacencies : col.adjacencies.length = last + 1

namespace VecEndnodes

theorem sized_new (last : Nat) : (new last).Sized last :=
  ⟨length_replicate, length_replicate, length_replicate⟩

theorem Sized.set {last i : Nat} {col : VecEndnodes} (sized : col.Sized last)
    (bound : i ≤ last) (hops cost : Nat) (adjacency : Option Adjacency) :
    Returns (Sized last) (col.set i hops cost adjacency) := by
  have inside := Nat.lt_succ_of_le bound
  apply (write_inside sized.hops inside hops).bind
  intro hops' size
  apply (write_inside sized.cost inside cost).bind
  intro cost' size'
  apply (write_inside sized.adjacencies inside adjacency).bind
  intro adjacencies' size''
  exact returns_pure ⟨size, size', size''⟩

end VecEndnodes

/-! ## The matrix -/

structure VecMatrix.Sized (last : Nat) (m : VecMatrix) : Prop where
  columns : ∀ col ∈ m.columns, col.Sized last
  minhops : m.minhops.length = last + 1
  mincost : m.mincost.length = last + 1
  oadj : m.oadj.length = last + 1
  maxid : m.maxid = last

namespace VecMatrix

theorem sized_new (maxid maxhops maxcost : Nat) : (new maxid maxhops maxcost).Sized maxid where
  columns := fun _ member => nomatch member
  minhops := length_replicate
  mincost := length_replicate
  oadj := length_replicate
  maxid := rfl

variable {last i : Nat} {m : VecMatrix} {extra : Option VecEndnodes}

theorem considerAt_returns {hops cost : List Nat}
    (sizeHops : hops.length = last + 1) (sizeCost : cost.length = last + 1)
    (bound : i ≤ last) (adjacency : Option Adjacency) (best : Route) :
    Returns (fun _ => True) (considerAt i hops cost adjacency best) := by
  have inside := Nat.lt_succ_of_le bound
  apply (read_inside sizeCost inside).bind
  intro cost' _
  split
  · apply (read_inside sizeHops inside).bind
    intro hops' _
    exact returns_pure trivial
  · exact returns_pure trivial

section

variable (sized : m.Sized last)

include sized

theorem Sized.best (extraSized : ∀ col ∈ extra, col.Sized last)
    (bound : i ≤ last) : Returns (fun _ => True) (m.best extra i) := by
  have columns : Returns (fun _ => True) (m.columns.foldlM (fun found col =>
        considerAt i col.hops col.cost (some col.adj) found)
        Route.unreachable) := by
    apply Returns.foldlM _ trivial
    intro found col member _
    have column := sized.columns col member
    exact considerAt_returns column.hops column.cost bound _ _
  have endnodes (found : Route) : Returns (fun _ => True) (considerEndnodes i extra found) := by
    cases extra with
    | none => exact returns_pure trivial
    | some col =>
      have column := extraSized col rfl
      exact considerAt_returns column.hops column.cost bound _ _
  apply columns.bind
  intro found _
  apply (endnodes found).bind
  intro found' _
  split
  · exact returns_pure trivial
  · exact returns_pure trivial

theorem Sized.renewCost (bound : i ≤ last) (found : Route) (notices : List Notice) :
    Returns (fun state => state.1.Sized last) (renewCost i found (m, notices)) := by
  have inside := Nat.lt_succ_of_le bound
  apply (read_inside sized.minhops inside).bind
  intro hops _
  apply (read_inside sized.mincost inside).bind
  intro cost _
  split
  · apply (write_inside sized.minhops inside found.hops).bind
    intro minhops size
    apply (write_inside sized.mincost inside found.cost).bind
    intro mincost size'
    exact returns_pure { sized with minhops := size, mincost := size' }
  · exact returns_pure sized

theorem Sized.renewOadj (bound : i ≤ last) (found : Route) (notices : List Notice) :
    Returns (fun state => state.1.Sized last) (renewOadj i found (m, notices)) := by
  have inside := Nat.lt_succ_of_le bound
  apply (read_inside sized.oadj inside).bind
  intro old _
  split
  · apply (write_inside sized.oadj inside found.adjacency).bind
    intro oadj size
    exact returns_pure { sized with oadj := size }
  · exact returns_pure sized

theorem Sized.compute (extraSized : ∀ col ∈ extra, col.Sized last) (first final : Nat) :
    Returns (fun state => state.1.Sized last) (m.compute first final extra) := by
  unfold VecMatrix.compute
  rw [sized.maxid]
  apply Returns.foldlM
  · rintro ⟨m', notices⟩ i member sized'
    have bound : i ≤ last := by
      rw [mem_range'_1] at member
      omega
    apply (sized'.best extraSized bound).bind
    intro found _
    apply (sized'.renewCost bound found notices).bind
    rintro ⟨m'', notices'⟩ sized''
    exact sized''.renewOadj bound found notices'
  · exact sized

theorem Sized.addColumn {col : VecColumn} (column : col.Sized last) :
    (m.addColumn col).Sized last := by
  refine { sized with columns := ?_ }
  intro other member
  rcases (mem_orderedInsert _).mp member with rfl | old
  · exact column
  · exact sized.columns other (mem_of_mem_filter old)

theorem Sized.dropColumn (adj : Adjacency) : (m.dropColumn adj).Sized last :=
  { sized with
    columns := fun col member => sized.columns col (mem_of_mem_filter member) }

theorem Sized.setColumn (adj : Adjacency) (bound : i ≤ last) (hops cost : Nat) :
    Returns (Sized last) (m.setColumn adj i hops cost) := by
  have columns : Returns (fun columns => ∀ col ∈ columns, col.Sized last) (m.columns.mapM fun col =>
        if col.adj = adj then col.set i hops cost else pure col) := by
    apply Returns.mapM
    intro col member
    split
    · exact (sized.columns col member).set bound hops cost
    · exact returns_pure (sized.columns col member)
  apply columns.bind
  intro columns' each
  exact returns_pure { sized with columns := each }

theorem Sized.column {adj : Adjacency} {col : VecColumn}
    (found : m.column adj = some col) : col.Sized last :=
  sized.columns col (mem_of_find?_eq_some found)

/-- Only one of the two vectors is compared, but they have the same size. -/
theorem Sized.advertised (i : Nat) : Returns (fun _ => True) (m.advertised i) := by
  unfold VecMatrix.advertised
  rw [sized.minhops]
  split
  · exact returns_pure trivial
  case isFalse inside =>
    apply (read_inside sized.minhops (Nat.not_le.mp inside)).bind
    intro hops _
    apply (read_inside sized.mincost (Nat.not_le.mp inside)).bind
    intro cost _
    exact returns_pure trivial

end

end VecMatrix

/-- The node's address is `id`, and the tables have the places 0 to `size`. -/
structure VecL1Router.Sized (id : Nodeid) (size : Nat) (r : VecL1Router) : Prop where
  nodeid : r.nodeid = id
  maxnodes : r.maxnodes = size
  endnodes : r.endnodes.Sized size
  l1 : r.l1.Sized size

namespace VecL1Router

theorem sized_new (config : RoutingConfig) (selfAddress : Nat) :
    (new config selfAddress).Sized config.id (min config.maxnodes 1023) where
  nodeid := rfl
  maxnodes := rfl
  endnodes := VecEndnodes.sized_new _
  l1 := VecMatrix.sized_new _ _ _

variable {id : Nodeid} {size : Nat} {r : VecL1Router}

section

variable (sized : r.Sized id size)

include sized

theorem Sized.fresh (adj : Adjacency) : (VecColumn.new r.maxnodes adj).Sized size :=
  sized.maxnodes ▸ VecColumn.sized_new r.maxnodes adj

theorem Sized.computeRoutes (first last : Nat) :
    Returns (Sized id size) (r.computeRoutes first last) := by
  have extra : ∀ col ∈ some r.endnodes, col.Sized size := by
    rintro _ ⟨⟩
    exact sized.endnodes
  apply (sized.l1.compute extra first last).bind
  intro computed matrix
  exact returns_pure { sized with l1 := matrix }

theorem Sized.start (inside : id.tid ≤ size) : Returns (Sized id size) r.start := by
  have bound : r.tid ≤ size := by
    rw [tid, sized.nodeid]
    exact inside
  apply ((sized.fresh r.selfadj).set bound 0 0).bind
  intro self column
  have added : Sized id size { r with l1 := r.l1.addColumn self } :=
    { sized with l1 := sized.l1.addColumn column }
  exact added.computeRoutes 0 r.maxnodes

/-- With a number beyond `maxnodes`, `start` writes outside its column. -/
theorem Sized.start_outside (outside : size < id.tid) : r.start = none := by
  unfold VecL1Router.start
  rw [VecColumn.set_outside]
  · rfl
  · rw [sized.maxnodes, tid, sized.nodeid]
    exact outside

theorem Sized.setEndnode {tid : Nat} (inside : tid ≤ size) (hops cost : Nat)
    (adjacency : Option Adjacency) :
    Returns (Sized id size) (r.setEndnode tid hops cost adjacency) := by
  apply (sized.endnodes.set inside hops cost adjacency).bind
  intro endnodes held
  have entered : Sized id size { r with endnodes := endnodes } := { sized with endnodes := held }
  exact entered.computeRoutes tid tid

theorem Sized.adjUp (adj : Neighbour) : Returns (Sized id size) (r.adjUp adj) := by
  unfold VecL1Router.adjUp
  split
  · have column := sized.fresh (.neighbour adj)
    exact returns_pure { sized with l1 := sized.l1.addColumn column }
  split
  case isTrue inside =>
    exact sized.setEndnode (sized.maxnodes ▸ inside) 1 _ _
  · exact returns_pure sized

theorem Sized.adjDown (adj : Neighbour) : Returns (Sized id size) (r.adjDown adj) := by
  unfold VecL1Router.adjDown
  split
  · have dropped : Sized id size { r with l1 := r.l1.dropColumn (.neighbour adj) } :=
      { sized with l1 := sized.l1.dropColumn _ }
    exact dropped.computeRoutes 0 r.maxnodes
  split
  case isTrue inside =>
    exact sized.setEndnode (sized.maxnodes ▸ inside) _ _ _
  · exact returns_pure sized

theorem Sized.setRoute (adj : Adjacency) {i : Nat} (bound : i ≤ size) (hops cost : Nat) :
    Returns (Sized id size) (r.setRoute adj i hops cost) := by
  have inside := Nat.lt_succ_of_le bound
  unfold VecL1Router.setRoute
  split
  · exact returns_pure sized
  case h_2 col found =>
    have column := sized.l1.column found
    apply (read_inside column.hops inside).bind
    intro oldHops _
    apply (read_inside column.cost inside).bind
    intro oldCost _
    split
    · apply (sized.l1.setColumn adj bound hops cost).bind
      intro l1 held
      have entered : Sized id size { r with l1 := l1 } := { sized with l1 := held }
      exact entered.computeRoutes i i
    · exact returns_pure sized

theorem Sized.reportLoss (highest : Nat) : (reportLoss (r, highest)).Sized id size := by
  unfold VecL1Router.reportLoss
  split
  · exact sized
  · exact { sized with }

theorem Sized.routingMessage (msg : RoutingMessage) (adj : Neighbour) (circuitCost : Nat) :
    Returns (Sized id size) (r.routingMessage msg adj circuitCost) := by
  unfold VecL1Router.routingMessage
  split
  · exact returns_pure sized
  split
  · exact returns_pure sized
  have looped : Returns (fun state => state.1.Sized id size) ((msg.updates circuitCost).foldlM
        (routeUpdate (.neighbour adj)) (r, 0)) := by
    apply Returns.foldlM
    · intro state u _ sized'
      unfold routeUpdate
      rw [sized'.maxnodes]
      split
      · exact returns_pure sized'
      case isFalse inside =>
        apply (sized'.setRoute _ (Nat.not_lt.mp inside) _ _).bind
        intro r' sized''
        exact returns_pure sized''
    · exact sized
  apply looped.bind
  intro state sized'
  exact returns_pure (sized'.reportLoss state.2)

theorem Sized.setOwnZero (attached : Bool) : Returns (Sized id size) (r.setOwnZero attached) := by
  apply (sized.l1.setColumn r.selfadj (Nat.zero_le _) _ _).bind
  intro l1 held
  have entered : Sized id size (emit (.setSrm 0 0) { r with l1 := l1 }) := { sized with l1 := held }
  exact entered.computeRoutes 0 0

theorem Sized.handle (event : RouterEvent) (fits : event = .start → id.tid ≤ size) :
    Returns (Sized id size) (r.handle event) := by
  cases event with
  | start => exact sized.start (fits rfl)
  | up adj => exact sized.adjUp adj
  | down adj => exact sized.adjDown adj
  | message msg adj => exact sized.routingMessage msg adj _

end

end VecL1Router

structure VecL2Router.Sized (id : Nodeid) (size areas : Nat) (r : VecL2Router) : Prop where
  level1 : r.toVecL1Router.Sized id size
  maxarea : r.maxarea = areas
  l2 : r.l2.Sized areas

namespace VecL2Router

theorem sized_new (config : RoutingConfig) (selfAddress : Nat) :
    (new config selfAddress).Sized config.id (min config.maxnodes 1023)
      (min config.maxarea 63) where
  level1 := VecL1Router.sized_new config selfAddress
  maxarea := rfl
  l2 := VecMatrix.sized_new _ _ _

variable {id : Nodeid} {size areas : Nat} {r : VecL2Router}

section

variable (sized : r.Sized id size areas)

include sized

theorem Sized.fresh (adj : Adjacency) : (VecColumn.new r.maxarea adj).Sized areas :=
  sized.maxarea ▸ VecColumn.sized_new r.maxarea adj

theorem Sized.anyArea : Returns (fun _ => True) r.anyArea := by
  unfold VecL2Router.anyArea
  rw [sized.maxarea]
  apply Returns.foldlM _ trivial
  intro found i member _
  split
  · exact returns_pure trivial
  split
  · exact returns_pure trivial
  have inside : i < areas + 1 := by
    rw [mem_range'_1] at member
    omega
  apply (read_inside sized.l2.oadj inside).bind
  intro oadj _
  exact returns_pure trivial

theorem Sized.reattach : Returns (Sized id size areas) r.reattach := by
  apply sized.anyArea.bind
  intro attached _
  split
  · exact returns_pure sized
  · apply (sized.level1.setOwnZero attached).bind
    intro r1 level1
    exact returns_pure { sized with level1 := level1 }

theorem Sized.computeAreas (first last : Nat) :
    Returns (Sized id size areas) (r.computeAreas first last) := by
  apply (sized.l2.compute (fun _ absent => by cases absent) first last).bind
  intro computed matrix
  have renewed : Sized id size areas { r with
      l2 := computed.1
      outputs := r.outputs ++ computed.2.map L2Router.onNotice } :=
    ⟨{ sized.level1 with }, sized.maxarea, matrix⟩
  exact renewed.reattach

theorem Sized.start (inside : id.tid ≤ size) (areaInside : id.area ≤ areas) :
    Returns (Sized id size areas) r.start := by
  have bound : r.homearea ≤ areas := by
    rw [VecL2Router.homearea, sized.level1.nodeid]
    exact areaInside
  apply (sized.level1.start inside).bind
  intro r1 level1
  apply ((sized.fresh r.selfadj).set bound 0 0).bind
  intro self column
  have added : Sized id size areas { r.withL1 r1 with l2 := r.l2.addColumn self } :=
    ⟨level1, sized.maxarea, sized.l2.addColumn column⟩
  exact added.computeAreas 1 r.maxarea

/-- With an area beyond `maxarea`, `start` writes outside its column. -/
theorem Sized.start_outside (outside : size < id.tid ∨ areas < id.area) : r.start = none := by
  unfold VecL2Router.start
  by_cases numbered : size < id.tid
  · rw [sized.level1.start_outside numbered]
    rfl
  · obtain ⟨r1, returned, _⟩ := sized.level1.start (Nat.not_lt.mp numbered)
    have beyond : r.maxarea < r.homearea := by
      rw [sized.maxarea, VecL2Router.homearea, sized.level1.nodeid]
      exact outside.resolve_left numbered
    rw [returned]
    rw [VecColumn.set_outside _ _ _ _ beyond]
    rfl

theorem Sized.adjUp (adj : Neighbour) : Returns (Sized id size areas) (r.adjUp adj) := by
  apply (sized.level1.adjUp adj).bind
  intro r1 level1
  split
  · have column := sized.fresh (.neighbour adj)
    exact returns_pure ⟨{ level1 with }, sized.maxarea, sized.l2.addColumn column⟩
  · exact returns_pure { sized with level1 := level1 }

theorem Sized.adjDown (adj : Neighbour) : Returns (Sized id size areas) (r.adjDown adj) := by
  apply (sized.level1.adjDown adj).bind
  intro r1 level1
  split
  · have dropped : Sized id size areas
        { r.withL1 r1 with l2 := r.l2.dropColumn (.neighbour adj) } :=
      ⟨level1, sized.maxarea, sized.l2.dropColumn _⟩
    exact dropped.computeAreas 1 r.maxarea
  · exact returns_pure { sized with level1 := level1 }

theorem Sized.setArea (adj : Adjacency) {i : Nat} (bound : i ≤ areas) (hops cost : Nat) :
    Returns (Sized id size areas) (r.setArea adj i hops cost) := by
  have inside := Nat.lt_succ_of_le bound
  unfold VecL2Router.setArea
  split
  · exact returns_pure sized
  case h_2 col found =>
    have column := sized.l2.column found
    apply (read_inside column.hops inside).bind
    intro oldHops _
    apply (read_inside column.cost inside).bind
    intro oldCost _
    split
    · apply (sized.l2.setColumn adj bound hops cost).bind
      intro l2 held
      have entered : Sized id size areas { r with l2 := l2 } := { sized with l2 := held }
      exact entered.computeAreas i i
    · exact returns_pure sized

theorem Sized.routingMessage (msg : RoutingMessage) (adj : Neighbour) (circuitCost : Nat) :
    Returns (Sized id size areas) (r.routingMessage msg adj circuitCost) := by
  unfold VecL2Router.routingMessage
  split
  · split
    · exact returns_pure sized
    have looped : Returns (fun state => state.1.Sized id size areas)
        ((msg.updates circuitCost).foldlM (areaUpdate (.neighbour adj)) (r, 0)) := by
      apply Returns.foldlM
      · intro state u _ sized'
        unfold VecL2Router.areaUpdate
        rw [sized'.maxarea]
        split
        · exact returns_pure sized'
        case isFalse inside =>
          have bound : u.id ≤ areas := by omega
          apply (sized'.setArea _ bound _ _).bind
          intro r' sized''
          exact returns_pure sized''
      · exact sized
    apply looped.bind
    intro state sized'
    exact returns_pure { sized' with level1 := sized'.level1.reportLoss state.2 }
  · apply (sized.level1.routingMessage msg adj circuitCost).bind
    intro r1 level1
    exact returns_pure { sized with level1 := level1 }

theorem Sized.handle (event : RouterEvent)
    (fits : event = .start → id.tid ≤ size ∧ id.area ≤ areas) :
    Returns (Sized id size areas) (r.handle event) := by
  cases event with
  | start => exact sized.start (fits rfl).1 (fits rfl).2
  | up adj => exact sized.adjUp adj
  | down adj => exact sized.adjDown adj
  | message msg adj => exact sized.routingMessage msg adj _

end

end VecL2Router

/-! ## Either class -/

inductive VecRouter.Sized (id : Nodeid) (size areas : Nat) : Bool → VecRouter → Prop where
  | l1 {r : VecL1Router} (sized : r.Sized id size) : Sized id size areas false (.l1 r)
  | l2 {r : VecL2Router} (sized : r.Sized id size areas) : Sized id size areas true (.l2 r)

/-- The tables have a place for the node's own number, and those of a level 2
router for its area. -/
def Fits (area : Bool) (id : Nodeid) (size areas : Nat) : Prop :=
  id.tid ≤ size ∧ (area → id.area ≤ areas)

namespace VecRouter

variable {id : Nodeid} {size areas : Nat} {area : Bool} {r : VecRouter}

section

variable (sized : Sized id size areas area r)

include sized

theorem Sized.handle (event : RouterEvent) (fits : event = .start → Fits area id size areas) :
    Returns (Sized id size areas area) (r.handle event) := by
  cases sized with
  | l1 sized =>
    obtain ⟨r, returned, kept⟩ := sized.handle event fun isStart => (fits isStart).1
    exact ⟨.l1 r, congrArg (VecRouter.l1 <$> ·) returned, .l1 kept⟩
  | l2 sized =>
    obtain ⟨r, returned, kept⟩ := sized.handle event fun isStart =>
      ⟨(fits isStart).1, (fits isStart).2 rfl⟩
    exact ⟨.l2 r, congrArg (VecRouter.l2 <$> ·) returned, .l2 kept⟩

theorem Sized.start_outside (outside : ¬ Fits area id size areas) : r.handle .start = none := by
  cases sized with
  | l1 sized =>
    have beyond : size < id.tid := by
      by_contra inside
      exact outside ⟨Nat.not_lt.mp inside, nofun⟩
    exact congrArg (VecRouter.l1 <$> ·) (sized.start_outside beyond)
  | l2 sized =>
    have beyond : size < id.tid ∨ areas < id.area := by
      by_contra inside
      rw [not_or, Nat.not_lt, Nat.not_lt] at inside
      exact outside ⟨inside.1, fun _ => inside.2⟩
    exact congrArg (VecRouter.l2 <$> ·) (sized.start_outside beyond)

theorem Sized.base : r.base.Sized id size := by
  cases sized with
  | l1 sized => exact sized
  | l2 sized => exact sized.level1

theorem Sized.entryFor (level : Level) (i : Nat) :
    Returns (fun _ => True) (r.entryFor level i) := by
  cases level with
  | one => exact sized.base.l1.advertised i
  | two =>
    cases sized with
    | l1 => exact returns_pure trivial
    | l2 sized => exact sized.l2.advertised i

end

end VecRouter

/-! ## Update processes -/

namespace VecUpdate

/-- An update process of this level, with `length` flags. -/
structure Of (level : Level) (length : Nat) (u : VecUpdate) : Prop where
  level : u.level = level
  length : u.srm.length = length

variable {level : Level} {length : Nat} {u : VecUpdate}

theorem Of.setSrm (of : u.Of level length) (positive : 0 < length)
    (wants : Bool) (first last : Nat) : Returns (Of level length) (u.setSrm wants first last) := by
  unfold VecUpdate.setSrm
  split
  · exact returns_pure of
  · have looped : Returns (fun srm : List Bool => srm.length = length) ((range' first
          (min last (u.srm.length - 1) + 1 - first)).foldlM
          (fun srm i => write srm i true) u.srm) := by
      apply Returns.foldlM
      · intro srm i member size
        have inside : i < length := by
          rw [mem_range'_1, of.length] at member
          omega
        exact write_inside size inside true
      · exact of.length
    apply looped.bind
    intro srm size
    exact returns_pure ⟨of.level, size⟩

/-- The flags reach as far as the loop of `build`: `maxnodes` for level 1, the
vector itself for level 2. -/
theorem Of.timeout (of : u.Of level length) {maxnodes : Nat}
    (enough : u.highid maxnodes < length) (wants : Bool) (room : Nat) {entryFor : Nat → Option Nat}
    (entries : ∀ i, Returns (fun _ => True) (entryFor i)) :
    Returns (Of level length) (u.timeout wants room maxnodes entryFor) := by
  unfold VecUpdate.timeout
  split
  · exact returns_pure of
  · have built : Returns (fun _ => True) (u.build (!u.anySrm) room maxnodes entryFor) := by
      apply Returns.foldlM _ trivial
      intro b i member _
      have inside : i < length := by
        rw [mem_range'_1] at member
        omega
      have marked : Returns (fun _ => True) (u.marked (!u.anySrm) i) := by
        unfold VecUpdate.marked
        split
        · exact returns_pure trivial
        · exact read_inside of.length inside
      apply marked.bind
      intro flag _
      split
      · apply (entries i).bind
        intro entry _
        exact returns_pure trivial
      · exact returns_pure trivial
    apply built.bind
    intro _ _
    apply returns_pure
    exact ⟨of.level, length_replicate.trans of.length⟩

end VecUpdate

namespace VecNode

structure Sized (area : Bool) (id : Nodeid) (size areas : Nat) (s : VecNode) : Prop where
  router : VecRouter.Sized id size areas area s.router
  updates : ∀ u ∈ s.updates, u.Of .one (size + 1)
  areaUpdates : ∀ u ∈ s.areaUpdates, u.Of .two 64

variable {area : Bool} {id : Nodeid} {size areas : Nat} {s : VecNode}

theorem sized_new (area : Bool) (config : RoutingConfig) (selfAddress circuits : Nat) :
    Sized area config.id (min config.maxnodes 1023) (min config.maxarea 63)
      (new area config selfAddress circuits) := by
  constructor
  case router =>
    cases area with
    | false => exact .l1 (VecL1Router.sized_new config selfAddress)
    | true => exact .l2 (VecL2Router.sized_new config selfAddress)
  case updates =>
    intro u member
    rw [eq_of_mem_replicate member]
    exact ⟨rfl, length_replicate⟩
  case areaUpdates =>
    intro u member
    cases area with
    | false => cases member
    | true =>
      rw [eq_of_mem_replicate member]
      exact ⟨rfl, length_replicate⟩

variable {updates : List VecUpdate} {length : Nat} {level : Level}

theorem mem_of_zipIdx {u : VecUpdate} {name : Nat}
    (member : (u, name) ∈ updates.zipIdx) : u ∈ updates :=
  fst_mem_of_mem_zipIdx member

theorem markAll_returns (positive : 0 < length)
    (sized : ∀ u ∈ updates, u.Of level length) (wants : Nat → Bool) (first last : Nat) :
    Returns (fun updates => ∀ u ∈ updates, u.Of level length)
      (markAll wants first last updates) := by
  apply Returns.mapM
  rintro ⟨u, name⟩ member
  exact (sized u (mem_of_zipIdx member)).setSrm positive _ _ _

theorem Sized.notify (sized : s.Sized area id size areas)
    (wants : Level → Nat → Bool) (output : Output) :
    Returns (Sized area id size areas) (s.notify wants output) := by
  cases output with
  | setSrm first last =>
    apply (markAll_returns (Nat.succ_pos _) sized.updates _ _ _).bind
    intro updates marked
    exact returns_pure ⟨sized.router, marked, sized.areaUpdates⟩
  | setAsrm first last =>
    apply (markAll_returns (by decide) sized.areaUpdates _ _ _).bind
    intro areaUpdates marked
    exact returns_pure ⟨sized.router, sized.updates, marked⟩
  | nodeReach | areaReach | partialUpdateLoss => exact returns_pure sized

theorem Sized.expire (sized : s.Sized area id size areas) (each : ∀ u ∈ updates, u.Of level length)
    (enough : ∀ u ∈ updates, u.highid size < length)
    (wants : Level → Nat → Bool) (name room : Nat) :
    Returns (fun updates => ∀ u ∈ updates, u.Of level length)
      (s.expire wants level name room updates) := by
  apply Returns.mapM
  rintro ⟨u, other⟩ member
  have listed := mem_of_zipIdx member
  dsimp only
  split
  · rw [sized.router.base.maxnodes]
    exact (each u listed).timeout (enough u listed) _ _ (sized.router.entryFor level)
  · exact returns_pure (each u listed)

theorem Of.started (each : ∀ u ∈ updates, u.Of level length) :
    ∀ u ∈ startUpdates updates, u.Of level length := by
  intro u member
  obtain ⟨old, listed, rfl⟩ := mem_map.mp member
  exact ⟨(each old listed).level, (each old listed).length⟩

section

variable (sized : s.Sized area id size areas)

include sized

theorem Sized.step (input : Input) (fits : input.event = .router .start → Fits area id size areas) :
    Returns (Sized area id size areas) (s.step input) := by
  obtain ⟨event, wants⟩ := input
  cases event with
  | router event =>
    have starts (isStart : event = .start) : Fits area id size areas :=
      fits (congrArg Event.router isStart)
    apply (sized.router.handle event starts).bind
    intro v kept
    have looped : Returns (Sized area id size areas)
        ((v.base.outputs.drop s.router.base.outputs.length).foldlM
          (VecNode.notify wants) { s with router := v }) := by
      apply Returns.foldlM
      · intro s' output _ sized'
        exact sized'.notify wants output
      · exact ⟨kept, sized.updates, sized.areaUpdates⟩
    apply looped.bind
    intro s' sized'
    split
    · exact returns_pure ⟨sized'.router, Of.started sized'.updates, Of.started sized'.areaUpdates⟩
    · exact returns_pure sized'
  | expire level name room =>
    cases level with
    | one =>
      have enough : ∀ u ∈ s.updates, u.highid size < size + 1 := by
        intro u listed
        unfold VecUpdate.highid
        rw [(sized.updates u listed).level]
        exact Nat.lt_succ_self size
      apply (sized.expire sized.updates enough wants name room).bind
      intro updates each
      exact returns_pure ⟨sized.router, each, sized.areaUpdates⟩
    | two =>
      have enough : ∀ u ∈ s.areaUpdates, u.highid size < 64 := by
        intro u listed
        unfold VecUpdate.highid
        rw [(sized.areaUpdates u listed).level, (sized.areaUpdates u listed).length]
        exact Nat.lt_succ_self 63
      apply (sized.expire sized.areaUpdates enough wants name room).bind
      intro areaUpdates each
      exact returns_pure ⟨sized.router, sized.updates, each⟩

theorem Sized.run_iff (inputs : List Input) :
    (∃ s', s.run inputs = some s') ↔ ((∃ input ∈ inputs, input.event = .router .start) →
        Fits area id size areas) := by
  unfold VecNode.run
  induction inputs generalizing s with
  | nil =>
    refine iff_of_true ⟨s, rfl⟩ ?_
    rintro ⟨input, member, _⟩
    cases member
  | cons input inputs induction =>
    rw [foldlM_cons]
    by_cases bad : input.event = .router .start ∧ ¬ Fits area id size areas
    · unfold VecNode.step
      rw [bad.1]
      dsimp only
      rw [sized.router.start_outside bad.2]
      refine iff_of_false ?_ fun fits => bad.2 (fits ?_)
      · rintro ⟨s', returned⟩
        cases returned
      · exact ⟨input, mem_cons_self, bad.1⟩
    · have good (isStart : input.event = .router .start) : Fits area id size areas := by
        by_contra outside
        exact bad ⟨isStart, outside⟩
      obtain ⟨s', returned, sized'⟩ := sized.step input good
      rw [returned]
      dsimp only [Option.bind_eq_bind, Option.bind_some]
      rw [induction sized']
      constructor
      · rintro later ⟨first, member, isStart⟩
        rcases mem_cons.mp member with rfl | rest
        · exact good isStart
        · exact later ⟨first, rest, isStart⟩
      · rintro all ⟨first, member, isStart⟩
        exact all ⟨first, mem_cons_of_mem _ member, isStart⟩

end

/-- No index ever leaves its vector, whatever happens to the router, exactly
when the router is not started or its own number and area are within its
tables. -/
theorem indices_inside_iff (area : Bool) (config : RoutingConfig)
    (selfAddress circuits : Nat) (inputs : List Input) :
    (∃ s, (new area config selfAddress circuits).run inputs = some s) ↔
      ((∃ input ∈ inputs, input.event = .router .start) →
        Fits area config.id (min config.maxnodes 1023) (min config.maxarea 63)) :=
  (sized_new area config selfAddress circuits).run_iff inputs

def tightConfig : RoutingConfig where
  id := .make 1 20
  maxnodes := 10
  maxarea := 63
  maxhops := 16
  maxcost := 1022
  amaxhops := 16
  amaxcost := 128

theorem start_writes_outside :
    (new false tightConfig 7 1).run [⟨.router .start, fun _ _ => false⟩] = none := by
  decide +kernel

end VecNode

end Decnet.Routing
