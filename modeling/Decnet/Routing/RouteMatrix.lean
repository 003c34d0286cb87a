import Mathlib.Data.List.Sort
import Mathlib.Data.List.Induction
import Decnet.Routing.Adjacency

/-!
# The routing matrix

One column for each neighbour that keeps a routing table, one column shared by
the endnodes, and for each destination the route chosen among them.  `compute`
renews the chosen routes of a range of destinations; everything below is about
when that leaves the whole table as a full recomputation would.
-/

namespace Decnet.Routing

open List

/-- What one column says about a destination, and what the table keeps. -/
structure Route where
  (hops cost : Nat)
  adjacency : Option Adjacency
  deriving DecidableEq

def Route.unreachable : Route := ⟨INFHOPS, INFCOST, none⟩

/-- What one neighbour says it can reach. -/
structure RouteInfo where
  adj : Adjacency
  hops : Nat → Nat
  cost : Nat → Nat

namespace RouteInfo

def new (adj : Adjacency) : RouteInfo :=
  ⟨adj, fun _ => INFHOPS, fun _ => INFCOST⟩

def set (i hops cost : Nat) (col : RouteInfo) : RouteInfo :=
  { col with
    hops := Function.update col.hops i hops
    cost := Function.update col.cost i cost }

def route (i : Nat) (col : RouteInfo) : Route :=
  ⟨col.hops i, col.cost i, some col.adj⟩

@[simp] theorem new_adj (adj : Adjacency) : (new adj).adj = adj := rfl

@[simp] theorem set_adj (i hops cost : Nat) (col : RouteInfo) :
    (col.set i hops cost).adj = col.adj := rfl

theorem route_set_of_ne {i j : Nat} (differ : j ≠ i) (hops cost : Nat)
    (col : RouteInfo) : (col.set i hops cost).route j = col.route j := by
  simp [route, set, differ]

end RouteInfo

/-- The column of the endnodes, with an adjacency for each destination. -/
structure EndnodesRouteInfo where
  hops : Nat → Nat
  cost : Nat → Nat
  adjacencies : Nat → Option Adjacency

namespace EndnodesRouteInfo

def new : EndnodesRouteInfo :=
  ⟨fun _ => INFHOPS, fun _ => INFCOST, fun _ => none⟩

def set (i hops cost : Nat) (adjacency : Option Adjacency)
    (col : EndnodesRouteInfo) : EndnodesRouteInfo where
  hops := Function.update col.hops i hops
  cost := Function.update col.cost i cost
  adjacencies := Function.update col.adjacencies i adjacency

def route (i : Nat) (col : EndnodesRouteInfo) : Route :=
  ⟨col.hops i, col.cost i, col.adjacencies i⟩

theorem route_set_of_ne {i j : Nat} (differ : j ≠ i) (hops cost : Nat)
    (adjacency : Option Adjacency) (col : EndnodesRouteInfo) :
    (col.set i hops cost adjacency).route j = col.route j := by
  simp [route, set, differ]

end EndnodesRouteInfo

/-- The columns in the order of the map: by the address of the adjacency. -/
structure RouteMatrix where
  columns : List RouteInfo
  minhops : Nat → Nat
  mincost : Nat → Nat
  oadj : Nat → Option Adjacency
  (maxid maxhops maxcost : Nat)

/-! ## Choosing among columns -/

def higher : Option Adjacency → Option Adjacency → Bool
  | some a, some best => decide (best.nodeid.value < a.nodeid.value)
  | _, _ => false

/-- Lowest cost wins; ties go to the higher neighbour address. -/
def consider (best r : Route) : Route :=
  if r.cost < best.cost ∨ r.cost = best.cost ∧ higher r.adjacency best.adjacency
  then r else best

/-- `best` is what the rule of `consider` allows: some usable route of the
lowest cost and, among those, of the highest neighbour address, or no route at
all when none is usable. -/
structure IsBest (routes : List Route) (best : Route) : Prop where
  origin : best = Route.unreachable ∨ best ∈ routes ∧ best.cost < INFCOST
  least : ∀ r ∈ routes, best.cost ≤ r.cost ∨ INFCOST ≤ r.cost
  ties : ∀ r ∈ routes, r.cost = best.cost → r.cost < INFCOST → ¬ higher r.adjacency best.adjacency

namespace IsBest

theorem nil : IsBest [] Route.unreachable :=
  ⟨.inl rfl, by simp, by simp⟩

theorem cost_le {routes : List Route} {best : Route}
    (chosen : IsBest routes best) : best.cost ≤ INFCOST := by
  rcases chosen.origin with rfl | ⟨_, usable⟩
  · exact Nat.le_refl _
  · exact usable.le

theorem consider_unusable {routes : List Route} {best r : Route}
    (chosen : IsBest routes best) (unusable : INFCOST ≤ r.cost) : consider best r = best := by
  apply if_neg
  rintro (cheaper | ⟨same, above⟩)
  · exact absurd (unusable.trans cheaper.le) (by
      have := chosen.cost_le
      omega)
  · rcases chosen.origin with rfl | ⟨_, usable⟩
    · cases r.adjacency <;> simp [higher, Route.unreachable] at above
    · omega

theorem higher_trans {a b c : Option Adjacency} (first : higher a b)
    (second : higher b c) : higher a c := by
  cases a <;> cases b <;> cases c <;> simp_all [higher]
  omega

theorem append {routes : List Route} {best r : Route} (chosen : IsBest routes best)
    (least : best.cost ≤ r.cost ∨ INFCOST ≤ r.cost)
    (ties : r.cost = best.cost → r.cost < INFCOST → ¬ higher r.adjacency best.adjacency) :
    IsBest (routes ++ [r]) best where
  origin := chosen.origin.imp_right fun found => ⟨mem_append_left _ found.1, found.2⟩
  least := forall_mem_append.2 ⟨chosen.least, forall_mem_singleton.2 least⟩
  ties := forall_mem_append.2 ⟨chosen.ties, forall_mem_singleton.2 ties⟩

theorem step {routes : List Route} {best : Route} (chosen : IsBest routes best) (r : Route) :
    IsBest (routes ++ [r]) (consider best r) := by
  by_cases unusable : INFCOST ≤ r.cost
  · rw [chosen.consider_unusable unusable]
    exact chosen.append (.inr unusable) fun _ usable => absurd unusable (Nat.not_le.2 usable)
  · by_cases better : r.cost < best.cost ∨ r.cost = best.cost ∧ higher r.adjacency best.adjacency
    · rw [consider, if_pos better]
      have cheap : r.cost ≤ best.cost := by
        rcases better with less | ⟨same, _⟩ <;> omega
      refine ⟨.inr ⟨mem_append_right _ (mem_singleton_self r), by omega⟩, ?_, ?_⟩
      · refine forall_mem_append.2 ⟨fun other old => ?_, forall_mem_singleton.2 (.inl le_rfl)⟩
        exact (chosen.least other old).imp_left cheap.trans
      · refine forall_mem_append.2 ⟨fun other old same usable above => ?_, ?_⟩
        · rcases better with less | ⟨equal, aboveBest⟩
          · rcases chosen.least other old with le | inf <;> omega
          · exact chosen.ties other old (same.trans equal) usable (higher_trans above aboveBest)
        · cases adjacency : r.adjacency <;> simp [higher, adjacency]
    · rw [consider, if_neg better]
      exact chosen.append (.inl (Nat.le_of_not_lt fun less => better (.inl less)))
        fun same _ above => better (.inr ⟨same, above⟩)

end IsBest

/-- The loop over the columns finds a best route. -/
theorem isBest_foldl (routes : List Route) :
    IsBest routes (routes.foldl consider Route.unreachable) := by
  induction routes using reverseRecOn with
  | nil => exact IsBest.nil
  | append_singleton routes r ih =>
    rw [foldl_append]
    exact ih.step r

/-- A route that cannot be used changes nothing, wherever it stands. -/
theorem foldl_consider_insert (before after : List Route) {r : Route}
    (unusable : INFCOST ≤ r.cost) :
    (before ++ r :: after).foldl consider Route.unreachable =
      (before ++ after).foldl consider Route.unreachable := by
  rw [foldl_append, foldl_append, foldl_cons, (isBest_foldl before).consider_unusable unusable]

/-! ## The table -/

/-- What `compute` reports while it runs: a destination whose hops or cost
changed, and one that became reachable or unreachable. -/
inductive Notice where
  | change (i : Nat)
  | reach (i : Nat) (reachable : Bool)
  deriving DecidableEq

namespace RouteMatrix

def new (maxid maxhops maxcost : Nat) : RouteMatrix where
  columns := []
  minhops := fun _ => INFHOPS
  mincost := fun _ => INFCOST
  oadj := fun _ => none
  maxid := maxid
  maxhops := maxhops
  maxcost := maxcost

def routes (m : RouteMatrix) (extra : Option EndnodesRouteInfo) (i : Nat) : List Route :=
  m.columns.map (RouteInfo.route i) ++ (extra.map (EndnodesRouteInfo.route i)).toList

def limited (m : RouteMatrix) (r : Route) : Route :=
  if m.maxcost < r.cost ∨ m.maxhops < r.hops then Route.unreachable else r

def best (m : RouteMatrix) (extra : Option EndnodesRouteInfo) (i : Nat) : Route :=
  m.limited ((m.routes extra i).foldl consider Route.unreachable)

def entry (m : RouteMatrix) (i : Nat) : Route :=
  ⟨m.minhops i, m.mincost i, m.oadj i⟩

/-- The assignments for one destination.  The values fit the 8 and 16 bits
they are stored in. -/
def renew (extra : Option EndnodesRouteInfo) (m : RouteMatrix) (i : Nat) : RouteMatrix :=
  { m with
    minhops := Function.update m.minhops i (m.best extra i).hops
    mincost := Function.update m.mincost i (m.best extra i).cost
    oadj := Function.update m.oadj i (m.best extra i).adjacency }

def notices (extra : Option EndnodesRouteInfo) (m : RouteMatrix) (i : Nat) : List Notice :=
  let found := m.best extra i
  (if m.minhops i ≠ found.hops ∨ m.mincost i ≠ found.cost then [.change i]
    else []) ++
  (if found.adjacency ≠ m.oadj i ∧ (found.adjacency = none ∨ m.oadj i = none) ∧
      found.adjacency.all (fun a => !a.isSelf)
    then [.reach i found.adjacency.isSome] else [])

def range (m : RouteMatrix) (first last : Nat) : List Nat :=
  List.range' first (min last m.maxid + 1 - first)

def computeStep (extra : Option EndnodesRouteInfo)
    (state : RouteMatrix × List Notice) (i : Nat) : RouteMatrix × List Notice :=
  (state.1.renew extra i, state.2 ++ state.1.notices extra i)

def compute (m : RouteMatrix) (first last : Nat)
    (extra : Option EndnodesRouteInfo) : RouteMatrix × List Notice :=
  (m.range first last).foldl (computeStep extra) (m, [])

variable {i j : Nat} {m : RouteMatrix} {adj : Adjacency} {col : RouteInfo}

theorem mem_range {first last : Nat} :
    i ∈ m.range first last ↔ first ≤ i ∧ i ≤ last ∧ i ≤ m.maxid := by
  simp only [range, mem_range'_1]
  omega

theorem best_congr {m' : RouteMatrix} {extra extra' : Option EndnodesRouteInfo}
    (sameHops : m'.maxhops = m.maxhops) (sameCost : m'.maxcost = m.maxcost)
    (found : (m'.routes extra' i).foldl consider Route.unreachable =
      (m.routes extra i).foldl consider Route.unreachable) : m'.best extra' i = m.best extra i := by
  unfold best limited
  rw [found, sameHops, sameCost]

/-- Everything but the chosen routes is the same in both tables, so that both
choose alike. -/
structure SameColumns (m m' : RouteMatrix) : Prop where
  columns : m'.columns = m.columns
  maxid : m'.maxid = m.maxid
  maxhops : m'.maxhops = m.maxhops
  maxcost : m'.maxcost = m.maxcost

namespace SameColumns

theorem refl (m : RouteMatrix) : SameColumns m m := ⟨rfl, rfl, rfl, rfl⟩

section

variable {m m' : RouteMatrix} (same : SameColumns m m') (extra : Option EndnodesRouteInfo) (i : Nat)

include same

theorem best : m'.best extra i = m.best extra i :=
  best_congr same.maxhops same.maxcost (by simp only [routes, same.columns])

theorem renew : SameColumns m (m'.renew extra i) :=
  { same with }

end

end SameColumns

section

variable (extra : Option EndnodesRouteInfo) (m : RouteMatrix)

theorem entry_renew_of_ne (differ : j ≠ i) : (m.renew extra i).entry j = m.entry j := by
  simp [entry, renew, differ]

/-- The loop renews the destinations it visits and no others. -/
theorem foldl_computeStep (ids : List Nat) (state : RouteMatrix × List Notice)
    (same : SameColumns m state.1) :
    SameColumns m (ids.foldl (computeStep extra) state).1 ∧
      (∀ j ∈ ids, (ids.foldl (computeStep extra) state).1.entry j = m.best extra j) ∧
      ∀ j ∉ ids, (ids.foldl (computeStep extra) state).1.entry j = state.1.entry j := by
  induction ids using reverseRecOn with
  | nil => exact ⟨same, by simp, fun _ _ => rfl⟩
  | append_singleton ids i ih =>
    obtain ⟨same', visited, others⟩ := ih
    simp only [foldl_append, foldl_cons, foldl_nil, computeStep, mem_append, mem_singleton, not_or]
    refine ⟨same'.renew extra i, ?_, ?_⟩
    · intro j member
      by_cases last : j = i
      · subst last
        simp [entry, renew, same'.best]
      · rw [entry_renew_of_ne _ _ last]
        exact visited j (member.resolve_right last)
    · rintro j ⟨notBefore, notLast⟩
      rw [entry_renew_of_ne _ _ notLast, others j notBefore]

end

section Compute

variable (m : RouteMatrix) (first last : Nat) (extra : Option EndnodesRouteInfo)

theorem compute_same : SameColumns m (m.compute first last extra).1 :=
  (foldl_computeStep extra m _ (m, []) (SameColumns.refl m)).1

@[simp] theorem compute_columns : (m.compute first last extra).1.columns = m.columns :=
  (m.compute_same first last extra).columns

@[simp] theorem compute_maxid : (m.compute first last extra).1.maxid = m.maxid :=
  (m.compute_same first last extra).maxid

@[simp] theorem compute_best (i : Nat) :
    (m.compute first last extra).1.best extra i = m.best extra i :=
  (m.compute_same first last extra).best extra i

variable {first last} {i : Nat}

theorem entry_compute (inside : i ∈ m.range first last) :
    (m.compute first last extra).1.entry i = m.best extra i :=
  (foldl_computeStep extra m _ (m, []) (SameColumns.refl m)).2.1 i inside

theorem entry_compute_outside (outside : i ∉ m.range first last) :
    (m.compute first last extra).1.entry i = m.entry i :=
  (foldl_computeStep extra m _ (m, []) (SameColumns.refl m)).2.2 i outside

end Compute

/-- The table is what a full recomputation would make it. -/
def Consistent (m : RouteMatrix) (extra : Option EndnodesRouteInfo) : Prop :=
  ∀ i ≤ m.maxid, m.entry i = m.best extra i

/-- Renewing the slice outside of which nothing changed is enough. -/
theorem Consistent.compute {m' : RouteMatrix}
    {extra extra' : Option EndnodesRouteInfo} (consistent : m.Consistent extra)
    {first last : Nat} (sameSize : m'.maxid = m.maxid) (sameEntries : m'.entry = m.entry)
    (unchanged : ∀ i, ¬ (first ≤ i ∧ i ≤ last) → i ≤ m.maxid → m'.best extra' i = m.best extra i) :
    (m'.compute first last extra').1.Consistent extra' := by
  intro i bound
  rw [compute_maxid] at bound
  rw [compute_best]
  by_cases inside : i ∈ m'.range first last
  · exact m'.entry_compute extra' inside
  · rw [m'.entry_compute_outside extra' inside, sameEntries, consistent i (sameSize ▸ bound)]
    refine (unchanged i (fun within => inside ?_) (sameSize ▸ bound)).symm
    exact mem_range.2 ⟨within.1, within.2, bound⟩

/-- What the table chooses comes from a usable column or is no route. -/
theorem best_origin (m : RouteMatrix) (extra : Option EndnodesRouteInfo)
    (i : Nat) : m.best extra i = Route.unreachable ∨
      m.best extra i ∈ m.routes extra i ∧ (m.best extra i).cost < INFCOST := by
  unfold best limited
  split
  · exact .inl rfl
  · exact (isBest_foldl _).origin

/-! ## Changes of columns -/

def addColumn (col : RouteInfo) (m : RouteMatrix) : RouteMatrix :=
  { m with
    columns := (m.columns.filter (·.adj ≠ col.adj)).orderedInsert
      (fun a b => a.adj.address ≤ b.adj.address) col }

def dropColumn (adj : Adjacency) (m : RouteMatrix) : RouteMatrix :=
  { m with columns := m.columns.filter (·.adj ≠ adj) }

def column (adj : Adjacency) (m : RouteMatrix) : Option RouteInfo :=
  m.columns.find? (·.adj = adj)

def setColumn (adj : Adjacency) (i hops cost : Nat) (m : RouteMatrix) : RouteMatrix :=
  { m with
    columns := m.columns.map fun col =>
      if col.adj = adj then col.set i hops cost else col }

theorem mem_addColumn {col' : RouteInfo} :
    col' ∈ (m.addColumn col).columns ↔ col' = col ∨ col' ∈ m.columns ∧ col'.adj ≠ col.adj := by
  simp [addColumn]

theorem mem_dropColumn : col ∈ (m.dropColumn adj).columns ↔ col ∈ m.columns ∧ col.adj ≠ adj := by
  simp [dropColumn]

theorem mem_setColumn {hops cost : Nat} {col' : RouteInfo} :
    col' ∈ (m.setColumn adj i hops cost).columns ↔ ∃ col ∈ m.columns,
        (if col.adj = adj then col.set i hops cost else col) = col' := by
  simp [setColumn]

theorem best_addColumn (absent : ∀ old ∈ m.columns, old.adj ≠ col.adj)
    (unusable : INFCOST ≤ col.cost i) (extra : Option EndnodesRouteInfo) :
    (m.addColumn col).best extra i = m.best extra i := by
  have kept : m.columns.filter (·.adj ≠ col.adj) = m.columns :=
    filter_eq_self.2 fun old member => decide_eq_true (absent old member)
  have inserted : INFCOST ≤ (col.route i).cost := unusable
  refine best_congr rfl rfl ?_
  rw [addColumn, kept]
  simp only [routes, orderedInsert_eq_take_drop, map_append, map_cons, append_assoc, cons_append,
    foldl_consider_insert _ _ inserted]
  rw [← append_assoc, ← map_append, takeWhile_append_dropWhile]

/-- Writing one entry of a column changes at most that destination. -/
theorem best_setColumn_of_ne (differ : j ≠ i) (adj : Adjacency)
    (hops cost : Nat) (m : RouteMatrix) (extra : Option EndnodesRouteInfo) :
    (m.setColumn adj i hops cost).best extra j = m.best extra j := by
  have routes : (m.setColumn adj i hops cost).columns.map
      (RouteInfo.route j) = m.columns.map (RouteInfo.route j) := by
    rw [setColumn, map_map]
    refine map_congr_left fun col _ => ?_
    simp only [Function.comp_apply]
    split
    · exact RouteInfo.route_set_of_ne differ hops cost col
    · rfl
  exact best_congr rfl rfl (by simp only [RouteMatrix.routes, routes])

theorem best_endnodes_of_ne (differ : j ≠ i) (m : RouteMatrix)
    (hops cost : Nat) (adjacency : Option Adjacency) (endnodes : EndnodesRouteInfo) :
    m.best (some (endnodes.set i hops cost adjacency)) j = m.best (some endnodes) j :=
  best_congr rfl rfl (by
    simp only [routes, Option.map_some, EndnodesRouteInfo.route_set_of_ne differ])

end RouteMatrix

end Decnet.Routing
