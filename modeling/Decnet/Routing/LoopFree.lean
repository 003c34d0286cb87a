import Decnet.Lib.Descent
import Decnet.Routing.Attached

/-!
# Next hops lead to the destination

Level 1 routers of one area whose columns have caught up with what their
neighbours advertise.  Following next hops, each router knows a cheaper way than
the one before, so that the way ends, at the node the destination names.
-/

namespace Decnet.Routing

open Decnet.Descent RouteMatrix L1Router Layer

/-! ## Where the columns of a router come from -/

namespace L1Router

/-- What every run keeps: a column is this node's own, which reaches this node
alone, or that of a router neighbour that is up; an endnode that can be reached
is a neighbour that is up. -/
structure Wired (up : List Neighbour) (r : L1Router) : Prop where
  size : r.l1.maxid = r.maxnodes
  columns : ∀ col ∈ r.l1.columns, (col.adj = r.selfadj ∧ ∀ t, t ≠ r.tid → INFCOST ≤ col.cost t) ∨
      ∃ n ∈ up, n.ntype.isRouter ∧ col.adj = .neighbour n
  endnodes : ∀ t, r.endnodes.cost t < INFCOST → t ≤ r.maxnodes ∧
    ∃ n ∈ up, ¬ n.ntype.isRouter ∧ n.nodeid.tid = t ∧ r.endnodes.adjacencies t = some (.neighbour n)

namespace Wired

variable {up up' : List Neighbour} {r : L1Router}

theorem computed (wired : Wired up r) (first last : Nat) :
    Wired up (r.computeRoutes first last) where
  size := (compute_maxid ..).trans wired.size
  columns := by
    rw [computeRoutes_l1, compute_columns]
    exact wired.columns
  endnodes := wired.endnodes

theorem start (config : RoutingConfig) (selfAddress : Nat) :
    Wired [] (new config selfAddress).start := by
  unfold L1Router.start
  apply computed
  constructor
  case size => rfl
  case columns =>
    intro col member
    have own := (mem_addColumn.mp member).resolve_right fun old => by cases old.1
    rw [own]
    refine .inl ⟨rfl, ?_⟩
    intro t other
    change t ≠ (new config selfAddress).tid at other
    simp [RouteInfo.set, RouteInfo.new, other]
  case endnodes =>
    intro t reachable
    exact absurd reachable (Nat.lt_irrefl _)

section

variable (wired : Wired up r)

include wired

theorem column {col : RouteInfo} (routers : ∀ n ∈ up, n.ntype.isRouter → n ∈ up')
    (member : col ∈ r.l1.columns) :
    (col.adj = r.selfadj ∧ ∀ t, t ≠ r.tid → INFCOST ≤ col.cost t) ∨
      ∃ n ∈ up', n.ntype.isRouter ∧ col.adj = .neighbour n := by
  refine (wired.columns col member).imp_right ?_
  rintro ⟨n, isUp, router, adj⟩
  exact ⟨n, routers n isUp router, router, adj⟩

theorem replaceUp (routers : ∀ n ∈ up, n.ntype.isRouter → n ∈ up')
    (others : ∀ n ∈ up, ¬ n.ntype.isRouter → n.nodeid.tid ≤ r.maxnodes →
      n ∈ up') : Wired up' r := by
  refine ⟨wired.size, fun col member => wired.column routers member, fun t reachable => ?_⟩
  obtain ⟨inside, n, isUp, plain, number, adj⟩ := wired.endnodes t reachable
  exact ⟨inside, n, others n isUp plain (number ▸ inside), plain, number, adj⟩

/-- The entry of an endnode was written: it names a neighbour of `up'`, or
nobody. -/
theorem setEndnode {i : Nat} (inside : i ≤ r.maxnodes) (hops cost : Nat)
    {adjacency : Option Adjacency} (named : cost < INFCOST → ∃ n ∈ up', ¬ n.ntype.isRouter ∧
      n.nodeid.tid = i ∧ adjacency = some (.neighbour n))
    (routers : ∀ n ∈ up, n.ntype.isRouter → n ∈ up')
    (others : ∀ n ∈ up, ¬ n.ntype.isRouter → n.nodeid.tid ≠ i → n ∈ up') :
    Wired up' (r.setEndnode i hops cost adjacency) := by
  apply computed
  refine ⟨wired.size, fun col member => wired.column routers member, fun t reachable => ?_⟩
  by_cases here : t = i
  · subst here
    simp only [EndnodesRouteInfo.set, Function.update_self] at reachable ⊢
    exact ⟨inside, named reachable⟩
  · simp only [EndnodesRouteInfo.set, Function.update_of_ne here] at reachable ⊢
    obtain ⟨bound, n, isUp, plain, number, adj⟩ := wired.endnodes t reachable
    exact ⟨bound, n, others n isUp plain (number ▸ here), plain, number, adj⟩

theorem adjUp (adj : Neighbour) : Wired (adj :: up) (r.adjUp adj) := by
  have kept {n : Neighbour} (isUp : n ∈ up) : n ∈ adj :: up := List.mem_cons_of_mem _ isUp
  unfold L1Router.adjUp
  dsimp only
  split
  case isTrue router =>
    have grown : Wired (adj :: up) r :=
      wired.replaceUp (fun _ isUp _ => kept isUp) fun _ isUp _ _ => kept isUp
    refine ⟨grown.size, ?_, grown.endnodes⟩
    intro col member
    rcases mem_addColumn.mp member with rfl | ⟨old, _⟩
    · exact .inr ⟨adj, List.mem_cons_self, router, rfl⟩
    · exact grown.columns col old
  case isFalse plain =>
    have registered : Wired up { r with
        adjacencies := Function.update r.adjacencies adj.nodeid.value (some adj) } :=
      { wired with }
    split
    case isTrue inside =>
      apply registered.setEndnode inside
      · intro _
        exact ⟨adj, List.mem_cons_self, plain, rfl, rfl⟩
      · exact fun n isUp _ => kept isUp
      · exact fun n isUp _ _ => kept isUp
    case isFalse =>
      exact registered.replaceUp (fun _ isUp _ => kept isUp) fun _ isUp _ _ => kept isUp

theorem adjDown (adj : Neighbour) : Wired (up.filter (· ≠ adj)) (r.adjDown adj) := by
  have others {n : Neighbour} (isUp : n ∈ up) (other : n ≠ adj) : n ∈ up.filter (· ≠ adj) :=
    List.mem_filter.mpr ⟨isUp, decide_eq_true other⟩
  have registered : Wired up { r with
      adjacencies := Function.update r.adjacencies adj.nodeid.value none } :=
    { wired with }
  unfold L1Router.adjDown
  dsimp only
  split
  case isTrue router =>
    apply computed
    refine ⟨wired.size, ?_, ?_⟩
    · intro col member
      obtain ⟨old, differs⟩ := mem_dropColumn.mp member
      refine (wired.columns col old).imp_right ?_
      rintro ⟨n, isUp, isRouter, column⟩
      refine ⟨n, others isUp ?_, isRouter, column⟩
      rintro rfl
      exact differs column
    · intro t reachable
      obtain ⟨bound, n, isUp, plain, number⟩ := wired.endnodes t reachable
      refine ⟨bound, n, others isUp ?_, plain, number⟩
      rintro rfl
      exact plain router
  case isFalse plain =>
    have routers : ∀ n ∈ up, n.ntype.isRouter → n ∈ up.filter (· ≠ adj) := by
      intro n isUp router
      apply others isUp
      rintro rfl
      exact plain router
    split
    case isTrue inside =>
      apply registered.setEndnode inside
      · intro impossible
        exact absurd impossible (Nat.lt_irrefl _)
      · exact routers
      · intro n isUp _ number
        apply others isUp
        rintro rfl
        exact number rfl
    case isFalse outside =>
      apply registered.replaceUp routers
      intro n isUp _ bound
      apply others isUp
      rintro rfl
      exact outside bound

theorem setRoute (n : Neighbour) (i hops cost : Nat) :
    Wired up (r.setRoute (.neighbour n) i hops cost) := by
  unfold L1Router.setRoute
  split
  · apply computed
    refine ⟨wired.size, ?_, wired.endnodes⟩
    intro col member
    obtain ⟨old, inColumns, written⟩ := mem_setColumn.mp member
    split at written
    case isTrue isN =>
      rcases wired.columns old inColumns with ⟨isOwn, _⟩ | neighbour
      · exact absurd (isN.symm.trans isOwn) (neighbour_ne_selfadj n r)
      · rw [← written]
        exact .inr neighbour
    case isFalse =>
      rw [← written]
      exact wired.columns old inColumns
  · exact wired

theorem routingMessage (msg : RoutingMessage) (adj : Neighbour) (cost : Nat) :
    Wired up (r.routingMessage msg adj cost) := by
  have tacit : Tacit fun r r' => Wired up r → Wired up r' :=
    .of_pred (fun _ _ kept => { kept with })
      fun _ kept => { kept with }
  exact tacit.routingMessage (fun _ _ u _ wired => wired.setRoute adj u.id _ _) r wired

end

end Wired

end L1Router

structure Layer.Level1 (config : RoutingConfig) (s : Layer) : Prop where
  isL1 : s.router = .l1 s.router.base
  wired : s.router.base.Wired s.up
  nodeid : s.router.base.nodeid = config.id

theorem Layer.level1_step {config : RoutingConfig} {s : Layer}
    (level1 : s.Level1 config) (input : Input) : (s.step input).Level1 config := by
  obtain ⟨router, up⟩ := s
  obtain ⟨isL1, wired, nodeid⟩ := level1
  cases router with
  | l2 r => cases isL1
  | l1 r =>
    cases input with
    | up adj =>
      unfold step
      dsimp only
      split
      · exact ⟨rfl, wired, nodeid⟩
      · refine ⟨rfl, wired.adjUp adj, ?_⟩
        exact (r.sameOwn_adjUp adj).nodeid.trans nodeid
    | down adj =>
      unfold step
      dsimp only
      split
      · refine ⟨rfl, wired.adjDown adj, ?_⟩
        exact (r.sameOwn_adjDown adj).nodeid.trans nodeid
      · exact ⟨rfl, wired, nodeid⟩
    | message msg adj =>
      refine ⟨rfl, wired.routingMessage msg adj _, ?_⟩
      exact (r.sameOwn_routingMessage msg adj _).nodeid.trans nodeid

theorem Layer.level1_run (config : RoutingConfig) (selfAddress : Nat) (inputs : List Input) :
    ((start false config selfAddress).run inputs).Level1 config := by
  apply Run.foldl_invariant
  · exact fun s input level1 => level1_step level1 input
  · exact ⟨rfl, Wired.start config selfAddress, rfl⟩

/-! ## Networks -/

/-- Routers of one area, each after a run of its own.  `peer i n` is the router
at the other end of the circuit on which `i` has the neighbour `n`; circuits of
a level 1 router accept neighbours of its area only. -/
structure Network (ι : Type*) where
  area : Nat
  config : ι → RoutingConfig
  selfAddress : ι → Nat
  history : ι → List Layer.Input
  peer : ι → Neighbour → ι
  inArea : ∀ i, (config i).id.area = area
  neighboursInArea : ∀ i, ∀ n ∈ ((Layer.start false (config i) (selfAddress i)).run (history i)).up,
      n.nodeid.area = area

namespace Network

variable {ι : Type*} (net : Network ι)

def layer (i : ι) : Layer :=
  (Layer.start false (net.config i) (net.selfAddress i)).run (net.history i)

def router (i : ι) : L1Router := (net.layer i).router.base

/-- What a router's column for a neighbour says once the neighbour's present
entry has arrived over the circuit. -/
def Caught (entry : Nat) (n : Neighbour) (t : Nat) (col : RouteInfo) : Prop :=
  col.hops t = min (entryHops entry + 1) INFHOPS ∧
    col.cost t = min (entryCost entry + n.circuit.cost) INFCOST

structure AtRest : Prop where
  columns : ∀ i, ∀ n ∈ (net.layer i).up, n.ntype.isRouter →
    ∀ col ∈ (net.router i).l1.columns, col.adj = .neighbour n → ∀ t ≤ (net.router i).l1.maxid,
        Caught ((net.router (net.peer i n)).advertisedEntry t) n t col
  tables : ∀ i, (net.router i).l1.Consistent (some (net.router i).endnodes)

/-- Who a way may end at: a router, or an endnode next to one. -/
inductive Owner (ι : Type*) where
  | router (i : ι)
  | endnode (n : Neighbour)

/-- One step on the way to a destination, by the next hop of `find_oadj`. -/
def next (dest : Nodeid) (i : ι) : Option (ι ⊕ Owner ι) :=
  match ((net.router i).findOadj dest).1 with
  | none => none
  | some (.self ..) => some (.inr (.router i))
  | some (.neighbour n) =>
    if n.ntype.isRouter then some (.inl (net.peer i n))
    else some (.inr (.endnode n))

/-- The number a destination has in the tables; 0 stands for other areas. -/
def slot (dest : Nodeid) : Nat := if dest.area = net.area then dest.tid else 0

/-- The owner of a destination of the area has its address; at the way to
another area it has the number 0. -/
def Names (dest id : Nodeid) : Prop :=
  id.tid = net.slot dest ∧ (dest.area = net.area → id = dest)

/-- An endnode owns a destination as a neighbour that is up. -/
def Owns (dest : Nodeid) : Owner ι → Prop
  | .router i => net.Names dest (net.router i).nodeid
  | .endnode n => net.Names dest n.nodeid ∧ ¬ n.ntype.isRouter ∧ ∃ i, n ∈ (net.layer i).up

def cost (dest : Nodeid) (i : ι) : Nat :=
  (net.router i).l1.mincost (net.slot dest)

variable {net}

theorem wired (i : ι) : (net.router i).Wired (net.layer i).up :=
  (level1_run _ _ _).wired

theorem nodeid_area (i : ι) : (net.router i).nodeid.area = net.area := by
  have same : (net.router i).nodeid = (net.config i).id := (level1_run _ _ _).nodeid
  rw [same]
  exact net.inArea i

theorem names_of {dest id : Nodeid} (inArea : id.area = net.area)
    (number : id.tid = net.slot dest) : net.Names dest id := by
  refine ⟨number, ?_⟩
  intro same
  have tid : id.tid = dest.tid := by
    rw [number, slot, if_pos same]
  have area : id.area = dest.area := inArea.trans same.symm
  apply Nodeid.value_injective
  unfold Nodeid.tid at tid
  unfold Nodeid.area at area
  omega

theorem findOadj_eq (dest : Nodeid) (i : ι) :
    (net.router i).findOadj dest =
      if (net.router i).l1.maxid < net.slot dest then (none, true)
      else ((net.router i).l1.oadj (net.slot dest), false) := by
  have slot : (if dest.area ≠ (net.router i).homearea then 0
      else dest.tid) = net.slot dest := by
    have home : (net.router i).homearea = net.area := nodeid_area i
    rw [Network.slot]
    split <;> simp_all
  unfold findOadj
  rw [slot]

theorem advertised_usable {r : L1Router} {t : Nat}
    (usable : entryCost (r.advertisedEntry t) < INFCOST) :
    t ≤ r.l1.maxid ∧ (r.l1.mincost t ≤ 1023 →
      entryCost (r.advertisedEntry t) = r.l1.mincost t) := by
  unfold advertisedEntry at usable ⊢
  split at usable
  case isTrue => exact absurd usable (by decide)
  case isFalse inside =>
    rw [if_neg inside]
    simp only [entryCost, routeEntry]
    omega

variable {dest : Nodeid} {i : ι} {t : Nat}

theorem AtRest.cost_le (rest : net.AtRest) (bound : t ≤ (net.router i).l1.maxid) :
    (net.router i).l1.mincost t ≤ 1023 := by
  have chosen := congrArg Route.cost (rest.tables i t bound)
  change (net.router i).l1.mincost t = _ at chosen
  rw [chosen]
  rcases (net.router i).l1.best_origin (some (net.router i).endnodes) t with
    unreachable | ⟨_, usable⟩
  · rw [unreachable]
    exact Nat.le_refl _
  · exact usable.le

/-- Where a usable route of a table at rest leads. -/
theorem AtRest.hop (rest : net.AtRest) (bound : t ≤ (net.router i).l1.maxid)
    (usable : (net.router i).l1.mincost t < INFCOST) :
    ((net.router i).l1.oadj t = some (net.router i).selfadj ∧ t = (net.router i).tid) ∨
    (∃ n ∈ (net.layer i).up, n.ntype.isRouter ∧ (net.router i).l1.oadj t = some (.neighbour n) ∧
        entryCost ((net.router (net.peer i n)).advertisedEntry t) +
          n.circuit.cost = (net.router i).l1.mincost t) ∨
    (∃ n ∈ (net.layer i).up, ¬ n.ntype.isRouter ∧ n.nodeid.tid = t ∧
        (net.router i).l1.oadj t = some (.neighbour n)) := by
  have chosen := rest.tables i t bound
  have member := (net.router i).l1.best_origin (some (net.router i).endnodes) t
  rw [← chosen] at member
  rcases member with unreachable | ⟨offered, _⟩
  · have infinite : (net.router i).l1.mincost t = INFCOST := congrArg Route.cost unreachable
    exact absurd usable (infinite ▸ Nat.lt_irrefl _)
  rcases List.mem_append.mp offered with column | endnode
  · obtain ⟨col, inColumns, same⟩ := List.mem_map.mp column
    have cost : col.cost t = (net.router i).l1.mincost t := congrArg Route.cost same
    have adj : some col.adj = (net.router i).l1.oadj t := congrArg Route.adjacency same
    rcases (wired i).columns col inColumns with ⟨isOwn, elsewhere⟩ | ⟨n, isUp, router, isN⟩
    · refine .inl ⟨by rw [← adj, isOwn], ?_⟩
      by_contra other
      exact absurd (elsewhere t other) (by omega)
    · refine .inr (.inl ⟨n, isUp, router, by rw [← adj, isN], ?_⟩)
      have caught := (rest.columns i n isUp router col inColumns isN t bound).2
      omega
  · obtain ⟨col, ⟨⟩, same⟩ := Option.map_eq_some_iff.mp (Option.mem_toList.mp endnode)
    have cost : (net.router i).endnodes.cost t =
        (net.router i).l1.mincost t := congrArg Route.cost same
    have adj : (net.router i).endnodes.adjacencies t =
        (net.router i).l1.oadj t := congrArg Route.adjacency same
    obtain ⟨_, n, isUp, plain, number, isN⟩ := (wired i).endnodes t (cost.trans_lt usable)
    exact .inr (.inr ⟨n, isUp, plain, number, by rw [← adj, isN]⟩)

/-- A destination is reachable where the table holds a usable route. -/
theorem AtRest.reachable_iff (rest : net.AtRest) :
    ((net.router i).findOadj dest).1 ≠ none ↔ net.slot dest ≤ (net.router i).l1.maxid ∧
        net.cost dest i < INFCOST := by
  rw [findOadj_eq]
  split
  case isTrue outside => simp [Nat.not_le.mpr outside]
  case isFalse inside =>
    have bound := Nat.not_lt.mp inside
    constructor
    · intro reachable
      refine ⟨bound, ?_⟩
      have chosen := rest.tables i _ bound
      rcases (net.router i).l1.best_origin (some (net.router i).endnodes)
        (net.slot dest) with unreachable | ⟨_, usable⟩
      · rw [unreachable] at chosen
        exact absurd (congrArg Route.adjacency chosen) reachable
      · rw [← chosen] at usable
        exact usable
    · rintro ⟨_, usable⟩
      rcases rest.hop bound usable with ⟨hop, _⟩ | ⟨n, _, _, hop, _⟩ | ⟨n, _, _, _, hop⟩ <;>
        simp [hop]

/-- Next hops lead to a router that knows a cheaper way, or to the owner. -/
theorem AtRest.descends (rest : net.AtRest) (reachable : ((net.router i).findOadj dest).1 ≠ none) :
    Descends (fun j => ((net.router j).findOadj dest).1 ≠ none)
      (net.cost dest) (net.Owns dest) (net.next dest) i := by
  obtain ⟨bound, usable⟩ := rest.reachable_iff.mp reachable
  have next (a : Adjacency) (hop : (net.router i).l1.oadj (net.slot dest) =
      some a) : ((net.router i).findOadj dest).1 = some a := by
    rw [findOadj_eq, if_neg (Nat.not_lt.mpr bound)]
    exact hop
  rcases rest.hop bound usable with ⟨hop, own⟩ |
    ⟨n, isUp, router, hop, cheaper⟩ | ⟨n, isUp, plain, number, hop⟩
  · refine .inl ⟨.router i, ?_, names_of (nodeid_area i) own.symm⟩
    rw [Network.next, next _ hop]
    rfl
  · change _ = net.cost dest i at cheaper
    have positive := n.circuit.positive
    have stillUsable : entryCost ((net.router (net.peer i n)).advertisedEntry
        (net.slot dest)) < INFCOST := by omega
    obtain ⟨inside, advertised⟩ := advertised_usable stillUsable
    have same := advertised (rest.cost_le inside)
    change _ = net.cost dest (net.peer i n) at same
    have lower : net.cost dest (net.peer i n) < net.cost dest i := by omega
    refine .inr ⟨net.peer i n, ?_, ?_, lower⟩
    · rw [Network.next, next _ hop]
      exact if_pos router
    · exact rest.reachable_iff.mpr ⟨inside, lower.trans usable⟩
  · refine .inl ⟨.endnode n, ?_, ?_, plain, i, isUp⟩
    · rw [Network.next, next _ hop]
      exact if_neg plain
    · exact names_of (net.neighboursInArea i n isUp) number

/-- Loop freedom: at rest the next hops from a router that reaches a
destination are one way through routers of falling cost, none of them twice,
to the owner. -/
theorem loop_free (net : Network ι) (rest : net.AtRest) (dest : Nodeid)
    (i : ι) (reachable : ((net.router i).findOadj dest).1 ≠ none) :
    ∃ path owner, Walk (net.next dest) i path owner ∧ net.Owns dest owner ∧
      path.IsChain (fun j k => net.cost dest k < net.cost dest j) ∧ path.Nodup ∧
      ∀ path' owner', Walk (net.next dest) i path' owner' → path' = path ∧ owner' = owner := by
  obtain ⟨path, owner, walk, owns, _, chain⟩ := exists_walk (fun _ => rest.descends) reachable
  exact ⟨path, owner, walk, owns, chain, nodup_of_chain chain, fun _ _ other => walk.unique other⟩

section Pair

def pairId (i : Bool) : Nodeid :=
  if i then Nodeid.make 1 2 else Nodeid.make 1 1

def pairNeighbour (i : Bool) : Neighbour where
  address := 1
  nodeid := pairId !i
  ntype := .l1router
  circuit := Circuit.new 0 false 4

/-- What each heard from the other: its own entry, and this node's one hop
away. -/
def pairEntries (i : Bool) : List Nat :=
  if i then [routeEntry 31 1023, routeEntry 0 0, routeEntry 1 4]
  else [routeEntry 31 1023, routeEntry 1 4, routeEntry 0 0]

def pairHistory (i : Bool) : List Layer.Input :=
  [.up (pairNeighbour i), .message (.l1Routing (pairId !i) [⟨0, pairEntries i⟩]) (pairNeighbour i)]

def pairConfig (i : Bool) : RoutingConfig where
  id := pairId i
  maxnodes := 2
  maxarea := 1
  maxhops := 16
  maxcost := 128
  amaxhops := 16
  amaxcost := 128

def pair : Network Bool where
  area := 1
  config := pairConfig
  selfAddress := fun _ => 0
  history := pairHistory
  peer := fun i _ => !i
  inArea := by decide
  neighboursInArea := by decide +kernel

instance (entry : Nat) (n : Neighbour) (t : Nat) (col : RouteInfo) :
    Decidable (Caught entry n t col) :=
  inferInstanceAs (Decidable (_ ∧ _))

theorem pair_atRest : pair.AtRest where
  columns := by decide +kernel
  tables := by
    unfold Consistent
    decide +kernel

theorem loop_free_pair : pair.AtRest ∧
    ∃ path owner, Walk (pair.next (pairId true)) false path owner ∧ pair.Owns (pairId true) owner ∧
      path.IsChain (fun j k => pair.cost (pairId true) k < pair.cost (pairId true) j) ∧
      path.Nodup ∧
      ∀ path' owner', Walk (pair.next (pairId true)) false path' owner' →
        path' = path ∧ owner' = owner :=
  ⟨pair_atRest, loop_free pair pair_atRest (pairId true) false (by decide +kernel)⟩

end Pair

end Network

end Decnet.Routing
