import Decnet.Routing.Building
import Decnet.Routing.Marking

/-!
# What a neighbour is heard to say

The column of a neighbour changes only when the neighbour comes or goes and
when a level 1 routing message from it arrives.  Then it holds the last thing
the message says of each destination, one hop and the circuit's cost further
away.
-/

namespace Decnet.Routing

open L1Router RouteMatrix List

namespace RouteMatrix

variable {adj : Adjacency} (m : RouteMatrix)

theorem column_addColumn_of_ne {col : RouteInfo} (differ : col.adj ≠ adj) :
    (m.addColumn col).column adj = m.column adj := by
  have kept : (m.columns.filter (·.adj ≠ col.adj)).find? (·.adj = adj) =
      m.columns.find? (·.adj = adj) := by
    rw [find?_filter]
    congr 1
    funext other
    by_cases here : other.adj = adj
    · simp [here, differ.symm]
    · simp [here]
  unfold column
  rw [← kept]
  unfold addColumn
  rw [orderedInsert_eq_take_drop, find?_append, find?_cons, decide_eq_false differ]
  rw [← find?_append, takeWhile_append_dropWhile]

theorem column_dropColumn_of_ne {other : Adjacency} (differ : other ≠ adj) :
    (m.dropColumn other).column adj = m.column adj := by
  unfold column dropColumn
  rw [find?_filter]
  congr 1
  funext col
  by_cases here : col.adj = adj
  · simp [here, differ.symm]
  · simp [here]

theorem column_setColumn (i hops cost : Nat) :
    (m.setColumn adj i hops cost).column adj = (m.column adj).map (RouteInfo.set i hops cost) := by
  unfold column setColumn
  induction m.columns with
  | nil => rfl
  | cons col columns induction =>
    by_cases here : col.adj = adj
    · simp [here]
    · simpa [here] using induction

theorem column_setColumn_of_ne {other : Adjacency} (differ : other ≠ adj) (i hops cost : Nat) :
    (m.setColumn other i hops cost).column adj = m.column adj := by
  unfold column setColumn
  induction m.columns with
  | nil => rfl
  | cons col columns induction =>
    by_cases here : col.adj = adj
    · simp [here, differ.symm]
    · by_cases isOther : col.adj = other
      · simpa [isOther, differ] using induction
      · simpa [here, isOther] using induction

end RouteMatrix

namespace L1Router

def heard (n : Neighbour) (r : L1Router) : Option RouteInfo :=
  r.l1.column (.neighbour n)

variable {n : Neighbour} {r : L1Router}

@[simp] theorem heard_computeRoutes (first last : Nat) (r : L1Router) :
    (r.computeRoutes first last).heard n = r.heard n := by
  unfold heard RouteMatrix.column
  exact congrArg _ (compute_columns ..)

variable {adj : Neighbour} {d : Nat}

theorem heard_adjUp (differ : adj ≠ n) : (r.adjUp adj).heard n = r.heard n := by
  unfold adjUp
  dsimp only
  split
  · apply column_addColumn_of_ne
    simpa using differ
  · split
    · exact heard_computeRoutes ..
    · rfl

theorem heard_adjDown (differ : adj ≠ n) : (r.adjDown adj).heard n = r.heard n := by
  unfold adjDown
  dsimp only
  split
  · rw [heard_computeRoutes]
    apply column_dropColumn_of_ne
    simpa using differ
  · split
    · exact heard_computeRoutes ..
    · rfl

theorem shielded_heard (n : Neighbour) : Shielded fun r r' => r'.heard n = r.heard n where
  refl := fun _ => rfl
  trans := fun first second => second.trans first
  noted := fun _ _ => rfl
  lost := fun _ => rfl
  ownZero := fun _ r => column_setColumn_of_ne _ (neighbour_ne_selfadj n r).symm ..

def hears (n : Neighbour) (d : Nat) (r : L1Router) : Option (Nat × Nat) :=
  (r.heard n).map fun col => (col.hops d, col.cost d)

theorem hears_set (i hops cost d : Nat) (r : L1Router) :
    ((r.heard n).map (RouteInfo.set i hops cost)).map (fun col => (col.hops d, col.cost d)) =
      (r.hears n d).map fun old => if d = i then (hops, cost) else old := by
  unfold hears
  rw [Option.map_map, Option.map_map]
  congr 1
  funext col
  by_cases here : d = i
  · subst here
    simp [RouteInfo.set]
  · simp [RouteInfo.set, here]

theorem hears_setRoute (i hops cost d : Nat) (r : L1Router) :
    (r.setRoute (.neighbour n) i hops cost).hears n d =
      (r.hears n d).map fun old => if d = i then (hops, cost) else old := by
  unfold setRoute
  split
  case isTrue =>
    rw [← hears_set]
    unfold hears
    rw [heard_computeRoutes]
    exact congrArg _ (column_setColumn ..)
  case isFalse same =>
    cases column : r.l1.column (.neighbour n) with
    | none => simp [hears, heard, column]
    | some col =>
      have held : col.hops i = hops ∧ col.cost i = cost := by
        simpa [differs, column] using same
      by_cases here : d = i
      · subst here
        simp [hears, heard, column, held]
      · simp [here]

def capped (u : RouteUpdate) : Nat × Nat :=
  (min u.hops INFHOPS, min u.cost INFCOST)

theorem hears_routeUpdate (state : L1Router × Nat)
    (inside : d ≤ state.1.maxnodes) (u : RouteUpdate) :
    (routeUpdate (.neighbour n) state u).1.hears n d =
      (state.1.hears n d).map fun old => if d = u.id then capped u else old := by
  unfold routeUpdate
  split
  case isTrue beyond =>
    have other : d ≠ u.id := by omega
    simp [other]
  case isFalse => exact hears_setRoute ..

theorem hears_foldl (updates : List RouteUpdate)
    (state : L1Router × Nat) (inside : d ≤ state.1.maxnodes) :
    (updates.foldl (routeUpdate (.neighbour n)) state).1.hears n d =
      (state.1.hears n d).map fun old =>
        ((updates.filter (·.id = d)).getLast?.map capped).getD old := by
  induction updates using reverseRecOn with
  | nil => simp
  | append_singleton updates u induction =>
    have size : (updates.foldl (routeUpdate (.neighbour n)) state).1.maxnodes = state.1.maxnodes :=
      (shielded_announces.toTacit.foldl_routeUpdate (fun r u _ =>
        announces_setRoute _ u.id _ (min_le_right _ _) r) state).maxnodes
    rw [foldl_append, foldl_cons, foldl_nil,
      hears_routeUpdate _ (size ▸ inside), induction, Option.map_map]
    congr 1
    funext old
    by_cases here : u.id = d
    · subst here
      simp
    · simp [here, Ne.symm here]

/-- What a message says of a destination is what the column says after it. -/
theorem hears_routingMessage {msg : RoutingMessage}
    (nodes : msg.isL2 = false) (cost : Nat) (inside : d ≤ r.maxnodes) :
    (r.routingMessage msg n cost).hears n d = (r.hears n d).map fun old =>
        (((msg.updates cost).filter (·.id = d)).getLast?.map capped).getD old := by
  unfold routingMessage
  rw [nodes, if_neg Bool.false_ne_true]
  split
  case isTrue nothing =>
    have absent : r.heard n = none := Option.isNone_iff_eq_none.mp nothing
    simp [hears, absent]
  case isFalse =>
    unfold hears
    rw [(shielded_heard n).toTacit.reportLoss]
    exact hears_foldl _ (r, 0) inside

end L1Router

def further (cost : Nat) (value : Nat × Nat) : Nat × Nat :=
  (min (value.1 + 1) INFHOPS, min ((value.2 + cost) % 2 ^ 32) INFCOST)

namespace RoutingMessage

def toUpdate (cost : Nat) (e : Nat × Nat) : RouteUpdate :=
  ⟨e.1, entryHops e.2 + 1, (entryCost e.2 + cost) % 2 ^ 32⟩

theorem entryUpdates_eq (cost id : Nat) (entries : List Nat) :
    entryUpdates cost id entries = (entryIds id entries).map (toUpdate cost) := by
  induction entries generalizing id with
  | nil => rfl
  | cons e entries induction =>
    simp only [entryUpdates, induction]
    rfl

variable {msg : RoutingMessage}

theorem updates_eq (nodes : msg.isL2 = false)
    (cost : Nat) : msg.updates cost = msg.carried.map (toUpdate cost) := by
  cases msg with
  | l1Routing srcnode segments =>
    simp only [updates, segmentUpdates, carried, RouteSegment.carried, map_flatMap, entryUpdates_eq]
  | l2Routing srcnode segments => cases nodes
  | phaseIIIRouting srcnode entries => exact entryUpdates_eq cost 1 entries

theorem last_update (nodes : msg.isL2 = false) (cost d : Nat) :
    ((msg.updates cost).filter (·.id = d)).getLast?.map capped =
      (told d [msg]).getLast?.map (further cost) := by
  unfold told
  rw [updates_eq nodes, filter_map, getLast?_map, getLast?_map,
    flatMap_singleton, Option.map_map, Option.map_map]
  rfl

theorem told_areas (areas : msg.isL2 = true) (d : Nat) : told d [msg] = [] := by
  cases msg with
  | l2Routing srcnode segments => rfl
  | _ => cases areas

end RoutingMessage

namespace Layer

variable {n : Neighbour} {s : Layer}

theorem heard_step_of_ne {input : Input} (differ : input.adj ≠ n) :
    (s.step input).router.base.heard n = s.router.base.heard n := by
  refine (shielded_heard n).step ?_ s
  cases input with
  | up adj => exact fun _ => heard_adjUp differ
  | down adj => exact fun _ => heard_adjDown differ
  | message msg adj =>
    have other : Adjacency.neighbour adj ≠ .neighbour n :=
      fun same => differ (Adjacency.neighbour.inj same)
    apply (shielded_heard n).toTacit.routingMessage
    intro _ _ _ _
    unfold setRoute
    split
    · rw [heard_computeRoutes]
      exact column_setColumn_of_ne _ other ..
    · rfl

theorem heard_run_of_ne {inputs : List Input} (differ : ∀ input ∈ inputs, input.adj ≠ n) :
    (s.run inputs).router.base.heard n = s.router.base.heard n := by
  induction inputs generalizing s with
  | nil => rfl
  | cons input inputs induction =>
    refine (induction fun later member => differ later (.tail _ member)).trans ?_
    exact heard_step_of_ne (differ input mem_cons_self)

/-- After a message from the neighbour the column says the last thing the
message said. -/
theorem hears_message (msg : RoutingMessage) {d : Nat} (inside : d ≤ s.router.base.maxnodes) :
    (s.step (.message msg n)).router.base.hears n d = (s.router.base.hears n d).map fun old =>
        ((told d [msg]).getLast?.map (further n.circuit.cost)).getD old := by
  have level1 := (shielded_heard n).routingMessage msg n n.circuit.cost s.router
  have same : (s.step (.message msg n)).router.base.hears n d =
      (s.router.base.routingMessage msg n n.circuit.cost).hears n d := by
    unfold hears
    exact congrArg _ level1
  rw [same]
  by_cases areas : msg.isL2 = true
  · rw [RoutingMessage.told_areas areas, routingMessage, if_pos areas]
    simp
  · have nodes := Bool.eq_false_iff.mpr areas
    rw [← RoutingMessage.last_update nodes]
    exact hears_routingMessage nodes _ inside

end Layer

end Decnet.Routing
