import Decnet.Routing.AreaIsolation

/-!
# Every change of the table is asked to be sent

Whatever a router does, a destination whose hops or cost have changed is among
those it asks the update processes to mark, and what it holds fits the bits of
a routing message.
-/

namespace Decnet.Routing

open L1Router RouteMatrix List

namespace RouteMatrix

def value (m : RouteMatrix) (i : Nat) : Nat × Nat := (m.minhops i, m.mincost i)

variable (extra : Option EndnodesRouteInfo)

variable {j : Nat}

theorem value_renew_of_ne (m : RouteMatrix) {i : Nat} (differ : j ≠ i) :
    (m.renew extra i).value j = m.value j := by
  simp [value, renew, differ]

theorem value_renew_or_change (m : RouteMatrix) (i : Nat) :
    (m.renew extra i).value i = m.value i ∨ .change i ∈ m.notices extra i := by
  by_cases same : (m.renew extra i).value i = m.value i
  · exact .inl same
  · refine .inr (mem_append_left _ ?_)
    simp only [value, renew, Function.update_self, Prod.mk.injEq] at same
    rw [if_pos (by omega)]
    exact mem_singleton_self _

theorem change_mem_foldl (ids : List Nat) (state : RouteMatrix × List Notice)
    (changed : (ids.foldl (computeStep extra) state).1.value j ≠ state.1.value j) :
    .change j ∈ (ids.foldl (computeStep extra) state).2 := by
  induction ids using reverseRecOn with
  | nil => exact absurd rfl changed
  | append_singleton ids i induction =>
    rw [foldl_append] at changed ⊢
    generalize ids.foldl (computeStep extra) state = middle at *
    change (middle.1.renew extra i).value j ≠ state.1.value j at changed
    by_cases here : j = i
    · subst here
      rcases value_renew_or_change extra middle.1 j with same | noticed
      · rw [same] at changed
        exact mem_append_left _ (induction changed)
      · exact mem_append_right _ noticed
    · rw [value_renew_of_ne extra middle.1 here] at changed
      exact mem_append_left _ (induction changed)

end RouteMatrix

namespace L1Router

/-- The numbers fit: five bits for hops, ten for a cost that is chosen. -/
structure Legal (r : L1Router) : Prop where
  columns : ∀ col ∈ r.l1.columns, ∀ i, col.hops i ≤ INFHOPS
  endnodes : ∀ i, r.endnodes.hops i ≤ INFHOPS
  hops : ∀ i, r.l1.minhops i ≤ INFHOPS
  cost : ∀ i, r.l1.mincost i ≤ INFCOST

/-- What the step from one state of a router to another has asked for, and
what it keeps. -/
structure Announces (r r' : L1Router) : Prop where
  maxnodes : r'.maxnodes = r.maxnodes
  nodeid : r'.nodeid = r.nodeid
  maxid : r'.l1.maxid = r.l1.maxid
  legal : r.Legal → r'.Legal
  requests : ∃ new, r'.outputs = r.outputs ++ new ∧ ∀ d, r'.l1.value d ≠ r.l1.value d →
      ∃ low high, .setSrm low high ∈ new ∧ low ≤ d ∧ d ≤ high

namespace Announces

theorem refl (r : L1Router) : Announces r r :=
  ⟨rfl, rfl, rfl, id, [], (append_nil _).symm, fun _ changed => absurd rfl changed⟩

theorem trans {r r' r'' : L1Router} (first : Announces r r')
    (second : Announces r' r'') : Announces r r'' := by
  obtain ⟨new, outputs, announced⟩ := first.requests
  obtain ⟨new', outputs', announced'⟩ := second.requests
  refine ⟨second.maxnodes.trans first.maxnodes,
    second.nodeid.trans first.nodeid, second.maxid.trans first.maxid,
    second.legal ∘ first.legal, new ++ new', ?_, ?_⟩
  · rw [outputs', outputs, append_assoc]
  · intro d changed
    by_cases same : r'.l1.value d = r.l1.value d
    · obtain ⟨low, high, member, bounds⟩ := announced' d (same ▸ changed)
      exact ⟨low, high, mem_append_right _ member, bounds⟩
    · obtain ⟨low, high, member, bounds⟩ := announced d same
      exact ⟨low, high, mem_append_left _ member, bounds⟩

theorem of_columns {r r' : L1Router} (maxnodes : r'.maxnodes = r.maxnodes)
    (nodeid : r'.nodeid = r.nodeid) (maxid : r'.l1.maxid = r.l1.maxid)
    (outputs : r'.outputs = r.outputs) (hops : r'.l1.minhops = r.l1.minhops)
    (cost : r'.l1.mincost = r.l1.mincost)
    (columns : r.Legal → ∀ col ∈ r'.l1.columns, ∀ i, col.hops i ≤ INFHOPS)
    (endnodes : r.Legal → ∀ i, r'.endnodes.hops i ≤ INFHOPS) : Announces r r' := by
  refine ⟨maxnodes, nodeid, maxid, ?_, [], ?_, ?_⟩
  · intro legal
    exact ⟨columns legal, endnodes legal, hops ▸ legal.hops, cost ▸ legal.cost⟩
  · rw [outputs, append_nil]
  · intro d changed
    refine absurd ?_ changed
    rw [value, value, hops, cost]

end Announces

variable {r : L1Router}

theorem Legal.best (legal : r.Legal) (i : Nat) :
    (r.l1.best (some r.endnodes) i).hops ≤ INFHOPS ∧
      (r.l1.best (some r.endnodes) i).cost ≤ INFCOST := by
  rcases r.l1.best_origin (some r.endnodes) i with none | ⟨member, usable⟩
  · rw [none]
    exact ⟨le_rfl, le_rfl⟩
  · refine ⟨?_, usable.le⟩
    rcases mem_append.mp member with column | endnode
    · obtain ⟨col, inColumns, same⟩ := mem_map.mp column
      rw [← same]
      exact legal.columns col inColumns i
    · have same := mem_singleton.mp endnode
      rw [same]
      exact legal.endnodes i

theorem Legal.computed (legal : r.Legal) (first last : Nat) :
    (r.computeRoutes first last).Legal := by
  have entry (i : Nat) :
      ((r.computeRoutes first last).l1.entry i).hops ≤ INFHOPS ∧
        ((r.computeRoutes first last).l1.entry i).cost ≤ INFCOST := by
    rw [computeRoutes_l1]
    by_cases inside : i ∈ r.l1.range first last
    · rw [entry_compute _ _ inside]
      exact legal.best i
    · rw [entry_compute_outside _ _ inside]
      exact ⟨legal.hops i, legal.cost i⟩
  constructor
  case columns =>
    rw [computeRoutes_l1, compute_columns]
    exact legal.columns
  case endnodes => exact legal.endnodes
  case hops => exact fun i => (entry i).1
  case cost => exact fun i => (entry i).2

theorem announces_computeRoutes (r : L1Router) (first last : Nat) :
    Announces r (r.computeRoutes first last) := by
  refine ⟨rfl, rfl, compute_maxid .., fun legal => legal.computed first last, _, rfl, ?_⟩
  intro d changed
  have noticed := change_mem_foldl _ _ (r.l1, []) changed
  exact ⟨d, d, mem_map.mpr ⟨.change d, noticed, rfl⟩, le_rfl, le_rfl⟩

theorem Announces.computed {r r' : L1Router} (announces : Announces r r')
    (first last : Nat) : Announces r (r'.computeRoutes first last) :=
  announces.trans (r'.announces_computeRoutes first last)

theorem announces_emit (output : Output) (r : L1Router) : Announces r (r.emit output) :=
  ⟨rfl, rfl, rfl, fun legal => { legal with }, [output], rfl, fun _ changed => absurd rfl changed⟩

variable {hops : Nat}

theorem hops_setColumn {m : RouteMatrix} (adj : Adjacency) (i : Nat)
    (cost : Nat) (bounded : hops ≤ INFHOPS)
    (columns : ∀ col ∈ m.columns, ∀ i, col.hops i ≤ INFHOPS) :
    ∀ col ∈ (m.setColumn adj i hops cost).columns, ∀ i, col.hops i ≤ INFHOPS := by
  intro col member j
  obtain ⟨old, inColumns, rfl⟩ := mem_setColumn.mp member
  split
  · by_cases here : j = i
    · subst here
      simpa [RouteInfo.set] using bounded
    · simpa [RouteInfo.set, here] using columns old inColumns j
  · exact columns old inColumns j

theorem hops_addColumn {m : RouteMatrix} {new : RouteInfo} (bounded : ∀ i, new.hops i ≤ INFHOPS)
    (columns : ∀ col ∈ m.columns, ∀ i, col.hops i ≤ INFHOPS) :
    ∀ col ∈ (m.addColumn new).columns, ∀ i, col.hops i ≤ INFHOPS := by
  intro col member
  rcases mem_addColumn.mp member with rfl | ⟨old, _⟩
  · exact bounded
  · exact columns col old

theorem announces_setEndnode (r : L1Router) (tid cost : Nat)
    (bounded : hops ≤ INFHOPS) (adjacency : Option Adjacency) :
    Announces r (r.setEndnode tid hops cost adjacency) := by
  apply Announces.computed
  refine .of_columns rfl rfl rfl rfl rfl rfl ?_ ?_
  · exact fun legal => legal.columns
  · intro legal i
    by_cases here : i = tid
    · subst here
      simpa [EndnodesRouteInfo.set] using bounded
    · simpa [EndnodesRouteInfo.set, here] using legal.endnodes i

theorem announces_adjUp (adj : Neighbour) (r : L1Router) : Announces r (r.adjUp adj) := by
  have noted : Announces r { r with
      adjacencies := Function.update r.adjacencies adj.nodeid.value (some adj) } :=
    .of_columns rfl rfl rfl rfl rfl rfl Legal.columns Legal.endnodes
  unfold adjUp
  dsimp only
  split
  · refine noted.trans (.trans ?_ (announces_emit _ _))
    refine .of_columns rfl rfl rfl rfl rfl rfl ?_ ?_
    · exact fun legal => hops_addColumn (fun _ => le_rfl) legal.columns
    · exact fun legal => legal.endnodes
  · split
    · exact noted.trans (announces_setEndnode _ _ _ (by decide) _)
    · exact noted

theorem announces_adjDown (adj : Neighbour) (r : L1Router) : Announces r (r.adjDown adj) := by
  have noted : Announces r { r with
      adjacencies := Function.update r.adjacencies adj.nodeid.value none } :=
    .of_columns rfl rfl rfl rfl rfl rfl Legal.columns Legal.endnodes
  unfold adjDown
  dsimp only
  split
  · apply Announces.computed
    refine noted.trans (.of_columns rfl rfl rfl rfl rfl rfl ?_ Legal.endnodes)
    intro legal col member
    exact legal.columns col (mem_dropColumn.mp member).1
  · split
    · exact noted.trans (announces_setEndnode _ _ _ le_rfl _)
    · exact noted

theorem announces_setColumn (adj : Adjacency) (i : Nat)
    (cost : Nat) (bounded : hops ≤ INFHOPS) (r : L1Router) :
    Announces r { r with l1 := r.l1.setColumn adj i hops cost } :=
  .of_columns rfl rfl rfl rfl rfl rfl (fun legal => hops_setColumn adj i cost bounded legal.columns)
    Legal.endnodes

theorem announces_setRoute (adj : Adjacency) (i cost : Nat)
    (bounded : hops ≤ INFHOPS) (r : L1Router) : Announces r (r.setRoute adj i hops cost) := by
  unfold setRoute
  split
  · exact (announces_setColumn adj i cost bounded r).computed i i
  · exact .refl _

theorem announces_setOwnZero (attached : Bool) (r : L1Router) :
    Announces r (r.setOwnZero attached) := by
  apply Announces.computed
  refine .trans ?_ (announces_emit _ _)
  apply announces_setColumn
  split <;> decide

theorem shielded_announces : Shielded Announces where
  refl := .refl
  trans := .trans
  noted := fun _ outputs => ⟨rfl, rfl, rfl, fun legal => { legal with },
    outputs, rfl, fun _ changed => absurd rfl changed⟩
  lost := fun _ => .of_columns rfl rfl rfl rfl rfl rfl Legal.columns Legal.endnodes
  ownZero := announces_setOwnZero

end L1Router

theorem Layer.announces_step (s : Layer) (input : Layer.Input) :
    Announces s.router.base (s.step input).router.base := by
  apply shielded_announces.step
  cases input with
  | up adj => exact announces_adjUp adj
  | down adj => exact announces_adjDown adj
  | message msg adj =>
    apply shielded_announces.toTacit.routingMessage
    exact fun _ r u _ => announces_setRoute _ u.id _ (min_le_right _ _) r

theorem Layer.announces_run (s : Layer) (inputs : List Layer.Input) :
    Announces s.router.base (s.run inputs).router.base := by
  induction inputs generalizing s with
  | nil => exact .refl _
  | cons input inputs induction =>
    exact (s.announces_step input).trans (induction _)

theorem L1Router.legal_start (config : RoutingConfig) (selfAddress : Nat) :
    (new config selfAddress).start.Legal := by
  unfold start
  apply Legal.computed
  constructor
  case columns =>
    apply hops_addColumn
    · intro i
      by_cases here : i = (new config selfAddress).tid
      · subst here
        simp [RouteInfo.set]
      · simp [RouteInfo.set, RouteInfo.new, here]
    · rintro _ ⟨⟩
  case endnodes => exact fun _ => le_rfl
  case hops => exact fun _ => le_rfl
  case cost => exact fun _ => le_rfl

theorem Layer.legal_start (area : Bool) (config : RoutingConfig) (selfAddress : Nat) :
    (Layer.start area config selfAddress).router.base.Legal := by
  have level1 := L1Router.legal_start config selfAddress
  cases area with
  | false => exact level1
  | true =>
    exact (shielded_announces.computeAreas _ _ _).legal level1

theorem Layer.size_start (area : Bool) (config : RoutingConfig) (selfAddress : Nat) :
    (Layer.start area config selfAddress).router.base.l1.maxid = min config.maxnodes 1023 ∧
      (Layer.start area config selfAddress).router.base.maxnodes = min config.maxnodes 1023 := by
  have level1 : (new config selfAddress).start.l1.maxid = min config.maxnodes 1023 := by
    unfold L1Router.start
    rw [computeRoutes_l1, compute_maxid]
    rfl
  cases area with
  | false => exact ⟨level1, rfl⟩
  | true =>
    have announces := shielded_announces.computeAreas
      { L2Router.new config selfAddress with
        toL1Router := (new config selfAddress).start
        l2 := (L2Router.new config selfAddress).l2.addColumn
          ((RouteInfo.new (L2Router.new config selfAddress).selfadj).set
            (L2Router.new config selfAddress).homearea 0 0) }
      1 (L2Router.new config selfAddress).maxarea
    exact ⟨announces.maxid.trans level1, announces.maxnodes⟩

end Decnet.Routing
