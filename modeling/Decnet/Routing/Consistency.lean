import Decnet.Lib.Run
import Decnet.Routing.Router

/-!
# The level 1 table stays what a full recomputation would make it

Each handler of a router renews only the destinations it thinks it changed.
`RouteMatrix.Sound` is what they keep between them, for the tables of either
level.
-/

namespace Decnet.Routing

open RouteMatrix List

namespace RouteMatrix

/-- The invariant of one table.  Neighbours of a type in `kind` have columns;
`home` is this node's own number, or its own area; `extra` is the column of the
endnodes at level 1. -/
structure Sound (kind : Ntype → Bool) (me : Adjacency) (home : Nat)
    (up : List Neighbour) (m : RouteMatrix) (extra : Option EndnodesRouteInfo) : Prop where
  consistent : m.Consistent extra
  columns : ∀ col ∈ m.columns, col.adj = me ∨ ∃ n ∈ up, kind n.ntype ∧ col.adj = .neighbour n
  hasOwn : ∃ col ∈ m.columns, col.adj = me
  own : ∀ col ∈ m.columns, col.adj = me → col.hops home = 0 ∧ col.cost home = 0
  positive : ∀ col ∈ m.columns, col.adj ≠ me → ∀ i, 0 < col.cost i
  endnodes : ∀ col ∈ extra, ∀ i a, col.adjacencies i = some a →
    i ≤ m.maxid ∧ ∃ n ∈ up, ¬ kind n.ntype ∧ n.nodeid.tid = i ∧ a = .neighbour n
  endnodesPositive : ∀ col ∈ extra, ∀ i, 0 < col.cost i

namespace Sound

variable {kind : Ntype → Bool} {me : Adjacency} {home : Nat}
  {up : List Neighbour} {m : RouteMatrix} {extra : Option EndnodesRouteInfo}

variable {i : Nat} {n : Neighbour}

section

variable (sound : Sound kind me home up m extra)

include sound

/-- A route of the table leads to this node or to a neighbour that is up. -/
theorem live (bound : i ≤ m.maxid) {a : Adjacency} (hop : m.oadj i = some a) :
    a = me ∨ ∃ n ∈ up, a = .neighbour n := by
  have chosen : (m.best extra i).adjacency = some a := by
    rw [← sound.consistent i bound]
    exact hop
  rcases m.best_origin extra i with none | ⟨member, _⟩
  · rw [none] at chosen
    cases chosen
  · rcases mem_append.1 member with column | endnode
    · obtain ⟨col, inColumns, same⟩ := mem_map.1 column
      rw [← same] at chosen
      cases chosen
      rcases sound.columns col inColumns with own | ⟨n, isUp, _, adj⟩
      · exact .inl own
      · exact .inr ⟨n, isUp, adj⟩
    · obtain ⟨col, inExtra, same⟩ := Option.map_eq_some_iff.1 (Option.mem_toList.1 endnode)
      rw [← same] at chosen
      obtain ⟨_, n, isUp, _, _, adj⟩ := sound.endnodes col inExtra i a chosen
      exact .inr ⟨n, isUp, adj⟩

theorem free_route {r : Route} (member : r ∈ m.routes extra home)
    (free : r.cost = 0) : r = ⟨0, 0, some me⟩ := by
  rcases mem_append.1 member with column | endnode
  · obtain ⟨col, inColumns, rfl⟩ := mem_map.1 column
    by_cases isOwn : col.adj = me
    · obtain ⟨hops, cost⟩ := sound.own col inColumns isOwn
      simp [RouteInfo.route, hops, cost, isOwn]
    · exact absurd free (sound.positive col inColumns isOwn home).ne'
  · obtain ⟨col, inExtra, rfl⟩ := Option.map_eq_some_iff.1 (Option.mem_toList.1 endnode)
    exact absurd free (sound.endnodesPositive col inExtra home).ne'

theorem own_entry (inside : home ≤ m.maxid) : m.entry home = ⟨0, 0, some me⟩ := by
  have chosen := isBest_foldl (m.routes extra home)
  obtain ⟨col, inColumns, isOwn⟩ := sound.hasOwn
  have offered : col.route home ∈ m.routes extra home :=
    mem_append_left _ (mem_map_of_mem inColumns)
  have offeredFree : (col.route home).cost = 0 := (sound.own col inColumns isOwn).2
  have free : ((m.routes extra home).foldl consider Route.unreachable).cost = 0 := by
    rcases chosen.least _ offered with least | infinite
    · omega
    · rw [offeredFree] at infinite
      exact absurd infinite (by decide)
  have found : (m.routes extra home).foldl consider Route.unreachable = ⟨0, 0, some me⟩ := by
    rcases chosen.origin with none | ⟨member, _⟩
    · rw [none] at free
      exact absurd free (by decide)
    · exact sound.free_route member free
  rw [sound.consistent home inside, best, found]
  simp [limited]

end

/-! ## What the handlers do to a table -/

theorem new_consistent (maxid maxhops maxcost : Nat) {extra : Option EndnodesRouteInfo}
    (empty : ∀ col ∈ extra, col = EndnodesRouteInfo.new) :
    (new maxid maxhops maxcost).Consistent extra := by
  intro i _
  have none : (new maxid maxhops maxcost).best extra i = Route.unreachable := by
    refine (best_origin _ _ _).resolve_right ?_
    rintro ⟨member, usable⟩
    rcases mem_append.1 member with column | endnode
    · cases column
    · obtain ⟨col, inExtra, same⟩ := Option.map_eq_some_iff.1 (Option.mem_toList.1 endnode)
      rw [← same, empty col inExtra] at usable
      exact absurd usable (Nat.lt_irrefl _)
  exact none.symm

theorem initial (kind : Ntype → Bool) (me : Adjacency) (home maxid maxhops maxcost first : Nat)
    {last : Nat} {extra : Option EndnodesRouteInfo}
    (empty : ∀ col ∈ extra, col = EndnodesRouteInfo.new)
    (covered : ∀ i ≤ maxid, (first ≤ i ∧ i ≤ last) ∨ i ≠ home) :
    Sound kind me home [] (((new maxid maxhops maxcost).addColumn
        ((RouteInfo.new me).set home 0 0)).compute first last extra).1 extra := by
  have own {col : RouteInfo} (member : col ∈ (((new maxid maxhops maxcost).addColumn
        ((RouteInfo.new me).set home 0 0)).compute first last
          extra).1.columns) : col = (RouteInfo.new me).set home 0 0 := by
    rw [compute_columns] at member
    exact (mem_addColumn.1 member).resolve_right fun old => by cases old.1
  constructor
  case consistent =>
    refine (new_consistent maxid maxhops maxcost empty).compute rfl rfl ?_
    intro i outside bound
    refine best_addColumn (fun old member => by cases member) ?_ extra
    have other := (covered i bound).resolve_left outside
    simp [RouteInfo.set, RouteInfo.new, other]
  case columns =>
    intro col member
    rw [own member]
    exact .inl rfl
  case hasOwn =>
    refine ⟨(RouteInfo.new me).set home 0 0, ?_, rfl⟩
    rw [compute_columns]
    exact mem_addColumn.2 (.inl rfl)
  case own =>
    intro col member _
    rw [own member]
    simp [RouteInfo.set]
  case positive =>
    intro col member other
    rw [own member] at other
    exact absurd rfl other
  case endnodes =>
    intro col member i a entry
    rw [empty col member] at entry
    cases entry
  case endnodesPositive =>
    intro col member i
    rw [empty col member]
    exact Nat.zero_lt_succ _

section

variable (sound : Sound kind me home up m extra)

include sound

/-- A router neighbour came up: it gets a column that says nothing yet. -/
theorem addNeighbour (isNew : n ∉ up) (router : kind n.ntype)
    (notSelf : Adjacency.neighbour n ≠ me) :
    Sound kind me home (n :: up) (m.addColumn (RouteInfo.new (.neighbour n))) extra := by
  have absent : ∀ col ∈ m.columns, col.adj ≠ .neighbour n := by
    intro col member same
    rcases sound.columns col member with own | ⟨n', isUp, _, adj⟩
    · exact notSelf (same.symm.trans own)
    · cases same.symm.trans adj
      exact isNew isUp
  constructor
  case consistent =>
    intro i bound
    rw [best_addColumn absent (Nat.le_refl _)]
    exact sound.consistent i bound
  case columns =>
    intro col member
    rcases mem_addColumn.1 member with rfl | ⟨old, _⟩
    · exact .inr ⟨n, mem_cons_self, router, rfl⟩
    · refine (sound.columns col old).imp_right ?_
      rintro ⟨n', isUp, kept⟩
      exact ⟨n', mem_cons_of_mem _ isUp, kept⟩
  case hasOwn =>
    obtain ⟨col, member, isOwn⟩ := sound.hasOwn
    exact ⟨col, mem_addColumn.2 (.inr ⟨member, absent col member⟩), isOwn⟩
  case own =>
    intro col member isOwn
    rcases mem_addColumn.1 member with rfl | ⟨old, _⟩
    · exact absurd isOwn notSelf
    · exact sound.own col old isOwn
  case positive =>
    intro col member other i
    rcases mem_addColumn.1 member with rfl | ⟨old, _⟩
    · exact Nat.zero_lt_succ _
    · exact sound.positive col old other i
  case endnodes =>
    intro col member i a adjacency
    obtain ⟨bound, n', isUp, kept⟩ := sound.endnodes col member i a adjacency
    exact ⟨bound, n', mem_cons_of_mem _ isUp, kept⟩
  case endnodesPositive => exact sound.endnodesPositive

/-- A router neighbour went down: its column goes, and the table is renewed
wherever that may have changed a route. -/
theorem dropNeighbour (router : kind n.ntype)
    (notSelf : Adjacency.neighbour n ≠ me) {first last : Nat}
    (unchanged : ∀ i, ¬ (first ≤ i ∧ i ≤ last) → i ≤ m.maxid →
      (m.dropColumn (.neighbour n)).best extra i = m.best extra i) :
    Sound kind me home (up.filter (· ≠ n))
      ((m.dropColumn (.neighbour n)).compute first last extra).1 extra := by
  constructor
  case consistent =>
    exact sound.consistent.compute rfl rfl unchanged
  case columns =>
    intro col member
    rw [compute_columns] at member
    obtain ⟨old, other⟩ := mem_dropColumn.1 member
    refine (sound.columns col old).imp_right ?_
    rintro ⟨n', isUp, router', adj⟩
    refine ⟨n', ?_, router', adj⟩
    simp only [mem_filter, decide_eq_true_eq]
    exact ⟨isUp, fun same => other (same ▸ adj)⟩
  case hasOwn =>
    obtain ⟨col, member, isOwn⟩ := sound.hasOwn
    refine ⟨col, ?_, isOwn⟩
    rw [compute_columns]
    exact mem_dropColumn.2 ⟨member, fun same => notSelf (same ▸ isOwn)⟩
  case own =>
    intro col member
    rw [compute_columns] at member
    exact sound.own col (mem_dropColumn.1 member).1
  case positive =>
    intro col member
    rw [compute_columns] at member
    exact sound.positive col (mem_dropColumn.1 member).1
  case endnodes =>
    intro col member i a adjacency
    obtain ⟨bound, n', isUp, plain, kept⟩ := sound.endnodes col member i a adjacency
    rw [compute_maxid]
    refine ⟨bound, n', ?_, plain, kept⟩
    simp only [mem_filter, decide_eq_true_eq]
    exact ⟨isUp, fun same => plain (same ▸ router)⟩
  case endnodesPositive => exact sound.endnodesPositive

/-- An entry of a column was written and its destination renewed. -/
theorem setColumn (a : Adjacency) (i hops : Nat) {cost : Nat}
    (own : a = me → i ≠ home) (positive : a ≠ me → 0 < cost) :
    Sound kind me home up ((m.setColumn a i hops cost).compute i i extra).1 extra := by
  have written (col : RouteInfo) :
      (if col.adj = a then col.set i hops cost else col).adj = col.adj := by
    split <;> rfl
  have old {col' : RouteInfo} (member : col' ∈ ((m.setColumn a i hops cost).compute i i
        extra).1.columns) :
      ∃ col ∈ m.columns, (if col.adj = a then col.set i hops cost else col) = col' := by
    rw [compute_columns] at member
    exact mem_setColumn.1 member
  constructor
  case consistent =>
    refine sound.consistent.compute rfl rfl ?_
    intro j outside _
    exact best_setColumn_of_ne (by omega) _ _ _ _ _
  case columns =>
    intro col' member
    obtain ⟨col, inColumns, rfl⟩ := old member
    rw [written]
    exact sound.columns col inColumns
  case hasOwn =>
    obtain ⟨col, member, isOwn⟩ := sound.hasOwn
    refine ⟨_, ?_, (written col).trans isOwn⟩
    rw [compute_columns]
    exact mem_setColumn.2 ⟨col, member, rfl⟩
  case own =>
    intro col' member isOwn
    obtain ⟨col, inColumns, rfl⟩ := old member
    rw [written] at isOwn
    have kept := sound.own col inColumns isOwn
    split
    case isTrue here =>
      have elsewhere := own (here.symm.trans isOwn)
      simpa [RouteInfo.set, elsewhere.symm] using kept
    case isFalse => exact kept
  case positive =>
    intro col' member other j
    obtain ⟨col, inColumns, rfl⟩ := old member
    rw [written] at other
    have kept := sound.positive col inColumns other j
    split
    case isTrue here =>
      by_cases same : j = i
      · simpa [RouteInfo.set, same] using positive (here ▸ other)
      · simpa [RouteInfo.set, same] using kept
    case isFalse => exact kept
  case endnodes =>
    intro col member j a adjacency
    rw [compute_maxid]
    exact sound.endnodes col member j a adjacency
  case endnodesPositive => exact sound.endnodesPositive

end

/-- The entry of an endnode was written and its destination renewed, while the
other endnodes of `up` are still in `up'`. -/
theorem setEndnode {endnodes : EndnodesRouteInfo}
    (sound : Sound kind me home up m (some endnodes)) {up' : List Neighbour}
    (inside : i ≤ m.maxid) (hops : Nat) {cost : Nat}
    (positive : 0 < cost) {adjacency : Option Adjacency}
    (set : ∀ a, adjacency = some a → ∃ n ∈ up', ¬ kind n.ntype ∧
      n.nodeid.tid = i ∧ a = .neighbour n) (routers : ∀ n ∈ up, kind n.ntype → n ∈ up')
    (others : ∀ n ∈ up, ¬ kind n.ntype → n.nodeid.tid ≠ i → n ∈ up') :
    Sound kind me home up' (m.compute i i (some (endnodes.set i hops cost adjacency))).1
      (some (endnodes.set i hops cost adjacency)) := by
  constructor
  case consistent =>
    refine sound.consistent.compute rfl rfl ?_
    intro j outside _
    exact m.best_endnodes_of_ne (by omega) _ _ _ _
  case columns =>
    intro col member
    rw [compute_columns] at member
    refine (sound.columns col member).imp_right ?_
    rintro ⟨n, isUp, router, adj⟩
    exact ⟨n, routers n isUp router, router, adj⟩
  case hasOwn =>
    rw [compute_columns]
    exact sound.hasOwn
  case own =>
    rw [compute_columns]
    exact sound.own
  case positive =>
    rw [compute_columns]
    exact sound.positive
  case endnodes =>
    rintro col ⟨⟩ j a entry
    rw [compute_maxid]
    by_cases here : j = i
    · subst here
      refine ⟨inside, set a ?_⟩
      simpa [EndnodesRouteInfo.set] using entry
    · obtain ⟨bound, n, isUp, plain, number, adj⟩ :=
        sound.endnodes endnodes rfl j a (by
          simpa [EndnodesRouteInfo.set, here] using entry)
      refine ⟨bound, n, ?_, plain, number, adj⟩
      exact others n isUp plain (number ▸ here)
  case endnodesPositive =>
    rintro col ⟨⟩ j
    by_cases here : j = i
    · subst here
      simpa [EndnodesRouteInfo.set] using positive
    · simpa [EndnodesRouteInfo.set, here] using sound.endnodesPositive endnodes rfl j

/-- Neighbours the table does not mention may come and go. -/
theorem replaceUp (sound : Sound kind me home up m extra) {up' : List Neighbour}
    (routers : ∀ n ∈ up, kind n.ntype → n ∈ up') (others : ∀ col ∈ extra, ∀ n ∈ up, ¬ kind n.ntype →
      n.nodeid.tid ≤ m.maxid → n ∈ up') : Sound kind me home up' m extra := by
  refine { sound with columns := ?_, endnodes := ?_ }
  · intro col member
    refine (sound.columns col member).imp_right ?_
    rintro ⟨n, isUp, router, adj⟩
    exact ⟨n, routers n isUp router, router, adj⟩
  · intro col member i a adjacency
    obtain ⟨bound, n, isUp, plain, number, adj⟩ := sound.endnodes col member i a adjacency
    exact ⟨bound, n, others col member n isUp plain (number ▸ bound), plain, number, adj⟩

end Sound

end RouteMatrix

namespace L1Router

structure Sound (up : List Neighbour) (r : L1Router) : Prop where
  size : r.l1.maxid = r.maxnodes
  inRange : r.tid ≤ r.maxnodes
  table : r.l1.Sound Ntype.isRouter r.selfadj r.tid up (some r.endnodes)

theorem neighbour_ne_selfadj (n : Neighbour) (r : L1Router) : Adjacency.neighbour n ≠ r.selfadj :=
  fun same => Adjacency.noConfusion same

@[simp] theorem computeRoutes_l1 (first last : Nat) (r : L1Router) :
    (r.computeRoutes first last).l1 = (r.l1.compute first last (some r.endnodes)).1 := rfl

namespace Sound

variable {up : List Neighbour} {r : L1Router}

theorem computed {first last : Nat} (size : r.l1.maxid = r.maxnodes) (inRange : r.tid ≤ r.maxnodes)
    (table : (r.l1.compute first last (some r.endnodes)).1.Sound Ntype.isRouter
      r.selfadj r.tid up (some r.endnodes)) : Sound up (r.computeRoutes first last) :=
  ⟨(compute_maxid ..).trans size, inRange, table⟩

theorem start (config : RoutingConfig) (selfAddress : Nat)
    (inRange : config.id.tid ≤ min config.maxnodes 1023) :
    Sound [] (L1Router.new config selfAddress).start := by
  have empty : ∀ col ∈ some EndnodesRouteInfo.new, col = EndnodesRouteInfo.new := by
    rintro col ⟨⟩
    rfl
  unfold L1Router.start
  exact .computed rfl inRange (.initial _ (.self selfAddress config.id) config.id.tid
    (min config.maxnodes 1023) config.maxhops config.maxcost 0 empty
    (fun _ bound => .inl ⟨Nat.zero_le _, bound⟩))

theorem adjUp (sound : Sound up r) {adj : Neighbour} (isNew : adj ∉ up)
    (cost : adj.circuitCost < 2 ^ 16) : Sound (adj :: up) (r.adjUp adj) := by
  unfold L1Router.adjUp
  dsimp only
  split
  case isTrue router =>
    exact ⟨sound.size, sound.inRange, sound.table.addNeighbour isNew router
      (neighbour_ne_selfadj adj r)⟩
  case isFalse plain =>
    split
    case isTrue inside =>
      refine .computed sound.size sound.inRange ?_
      refine sound.table.setEndnode (sound.size.symm ▸ inside) _ ?_ ?_ ?_ ?_
      · rw [Nat.mod_eq_of_lt cost]
        exact adj.circuit.baseCost_pos
      · rintro a ⟨⟩
        exact ⟨adj, mem_cons_self, plain, rfl, rfl⟩
      · exact fun n isUp _ => mem_cons_of_mem _ isUp
      · exact fun n isUp _ _ => mem_cons_of_mem _ isUp
    case isFalse =>
      exact ⟨sound.size, sound.inRange, sound.table.replaceUp
        (fun n isUp _ => mem_cons_of_mem _ isUp) (fun _ _ n isUp _ _ => mem_cons_of_mem _ isUp)⟩

theorem adjDown (sound : Sound up r) (adj : Neighbour) :
    Sound (up.filter (· ≠ adj)) (r.adjDown adj) := by
  have others {n : Neighbour} (isUp : n ∈ up) (other : n ≠ adj) : n ∈ up.filter (· ≠ adj) :=
    mem_filter.2 ⟨isUp, decide_eq_true other⟩
  unfold L1Router.adjDown
  dsimp only
  split
  case isTrue router =>
    refine .computed sound.size sound.inRange ?_
    refine sound.table.dropNeighbour router (neighbour_ne_selfadj adj r) ?_
    intro i outside bound
    exact absurd ⟨Nat.zero_le i, sound.size ▸ bound⟩ outside
  case isFalse plain =>
    split
    case isTrue inside =>
      refine .computed sound.size sound.inRange ?_
      refine sound.table.setEndnode (sound.size.symm ▸ inside) _ (by decide) ?_ ?_ ?_
      · rintro a ⟨⟩
      · exact fun n isUp router => others isUp fun same => plain (same ▸ router)
      · exact fun n isUp _ number => others isUp fun same => number (same ▸ rfl)
    case isFalse outside =>
      refine ⟨sound.size, sound.inRange, sound.table.replaceUp ?_ ?_⟩
      · exact fun n isUp router => others isUp fun same => plain (same ▸ router)
      · intro _ _ n isUp _ bound
        refine others isUp fun same => outside ?_
        rw [← same, ← sound.size]
        exact bound

theorem setRoute (sound : Sound up r) (n : Neighbour) (i hops : Nat)
    {cost : Nat} (positive : 0 < cost) : Sound up (r.setRoute (.neighbour n) i hops cost) := by
  unfold L1Router.setRoute
  split
  · exact .computed sound.size sound.inRange (sound.table.setColumn _ i hops
        (fun same => absurd same (neighbour_ne_selfadj n r)) fun _ => positive)
  · exact sound

theorem tacit_sound (up : List Neighbour) : Tacit fun r r' => Sound up r → Sound up r' :=
  .of_pred (fun _ _ kept => { kept with })
    fun _ kept => { kept with }

theorem routingMessage (sound : Sound up r) (msg : RoutingMessage)
    {adj : Neighbour} (cost : adj.circuit.cost < 2 ^ 16) :
    Sound up (r.routingMessage msg adj adj.circuit.cost) := by
  have noWrap : adj.circuit.cost + 1023 < 2 ^ 32 := by omega
  refine (tacit_sound up).routingMessage ?_ r sound
  intro _ r u member sound
  have positive : 0 < u.cost := Nat.lt_of_lt_of_le adj.circuit.positive
    (RoutingMessage.cost_le_of_mem_updates member noWrap)
  exact sound.setRoute adj _ _ (lt_min positive (by decide))

end Sound

end L1Router

end Decnet.Routing
