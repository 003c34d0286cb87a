import Decnet.Lib.Registry
import Decnet.Routing.Attached

/-!
# Parallel adjacencies

`BaseRouter::adjacencies_` has one place for each node, and the endnode column
one for each node number, but the same node can be adjacent on several
circuits.  Both tables are overwritten when an adjacency comes up and cleared
when one goes down, whichever adjacency the entry came from.
-/

namespace Decnet.Routing

open L1Router EndnodesRouteInfo Function

namespace EndnodesRouteInfo

/-- The neighbour through which the column gives `t` a finite cost. -/
def via (col : EndnodesRouteInfo) (t : Nat) : Option Neighbour :=
  match col.adjacencies t with
  | some (.neighbour n) => if col.cost t < INFCOST then some n else none
  | _ => none

theorem via_eq_some {col : EndnodesRouteInfo} {t : Nat} {n : Neighbour} :
    col.via t = some n ↔ col.adjacencies t = some (.neighbour n) ∧ col.cost t < INFCOST := by
  unfold via
  split
  case h_1 n' entry =>
    rw [entry]
    by_cases finite : col.cost t < INFCOST
    · simp [finite]
    · simp [finite]
  case h_2 other =>
    constructor
    · nofun
    · rintro ⟨entry, _⟩
      exact absurd entry (other n)

theorem via_set (col : EndnodesRouteInfo) (t hops : Nat) {cost : Nat}
    (finite : cost < INFCOST) (n : Neighbour) :
    (col.set t hops cost (some (.neighbour n))).via = update col.via t (some n) := by
  funext place
  by_cases same : place = t
  · subst same
    rw [update_self, via_eq_some]
    simp [set, finite]
  · rw [update_of_ne same]
    simp [via, set, same]

theorem via_set_none (col : EndnodesRouteInfo) (t hops cost : Nat) (adjacency : Option Adjacency)
    (useless : adjacency = none ∨ INFCOST ≤ cost) :
    (col.set t hops cost adjacency).via = update col.via t none := by
  funext place
  by_cases same : place = t
  · subst same
    rw [update_self, Option.eq_none_iff_forall_ne_some]
    intro n found
    rw [via_eq_some] at found
    simp only [set, update_self] at found
    rcases useless with missing | infinite
    · rw [missing] at found
      cases found.1
    · omega
  · rw [update_of_ne same]
    simp [via, set, same]

end EndnodesRouteInfo

namespace L1Router

/-- The tables that adjacencies are entered in, and their size. -/
structure Registers (r r' : L1Router) : Prop where
  adjacencies : r'.adjacencies = r.adjacencies
  endnodes : r'.endnodes = r.endnodes
  maxnodes : r'.maxnodes = r.maxnodes

namespace Registers

theorem refl (r : L1Router) : Registers r r := ⟨rfl, rfl, rfl⟩

theorem trans {r r' r'' : L1Router} (first : Registers r r')
    (second : Registers r' r'') : Registers r r'' where
  adjacencies := second.adjacencies.trans first.adjacencies
  endnodes := second.endnodes.trans first.endnodes
  maxnodes := second.maxnodes.trans first.maxnodes

end Registers

variable (r : L1Router)

theorem shielded_registers : Shielded Registers where
  refl := .refl
  trans := .trans
  noted := fun _ _ => ⟨rfl, rfl, rfl⟩
  lost := fun _ => ⟨rfl, rfl, rfl⟩
  ownZero := fun _ _ => ⟨rfl, rfl, rfl⟩

/-! ## What an adjacency does to the tables -/

theorem adjUp_nodes (adj : Neighbour) :
    (r.adjUp adj).adjacencies = update r.adjacencies adj.nodeid.value (some adj) ∧
      (r.adjUp adj).maxnodes = r.maxnodes := by
  unfold adjUp
  dsimp only
  split
  · exact ⟨rfl, rfl⟩
  · split <;> exact ⟨rfl, rfl⟩

theorem adjDown_nodes (adj : Neighbour) :
    (r.adjDown adj).adjacencies = update r.adjacencies adj.nodeid.value none ∧
      (r.adjDown adj).maxnodes = r.maxnodes := by
  unfold adjDown
  dsimp only
  split
  · exact ⟨rfl, rfl⟩
  · split <;> exact ⟨rfl, rfl⟩

def Enters (adj : Neighbour) : Prop :=
  ¬ adj.ntype.isRouter ∧ adj.nodeid.tid ≤ r.maxnodes

variable {adj : Neighbour}

theorem adjUp_endnodes {r : L1Router} (enters : r.Enters adj) :
    (r.adjUp adj).endnodes = r.endnodes.set adj.nodeid.tid 1
      (adj.circuitCost % 2 ^ 16) (some (.neighbour adj)) := by
  unfold adjUp
  rw [if_neg enters.1, if_pos enters.2]
  rfl

theorem adjDown_endnodes {r : L1Router} (enters : r.Enters adj) :
    (r.adjDown adj).endnodes = r.endnodes.set adj.nodeid.tid INFHOPS INFCOST none := by
  unfold adjDown
  rw [if_neg enters.1, if_pos enters.2]
  rfl

theorem adjUp_endnodes_of_not {r : L1Router}
    (outside : ¬ r.Enters adj) : (r.adjUp adj).endnodes = r.endnodes := by
  unfold adjUp
  split
  · rfl
  case isFalse plain =>
    rw [if_neg fun fits => outside ⟨plain, fits⟩]

theorem adjDown_endnodes_of_not {r : L1Router}
    (outside : ¬ r.Enters adj) : (r.adjDown adj).endnodes = r.endnodes := by
  unfold adjDown
  split
  · rfl
  case isFalse plain =>
    rw [if_neg fun fits => outside ⟨plain, fits⟩]

end L1Router

theorem Router.registers_routingMessage (router : Router)
    (msg : RoutingMessage) (adj : Neighbour) (circuitCost : Nat) :
    Registers router.base (router.routingMessage msg adj circuitCost).base := by
  refine .trans ?_ (shielded_registers.routingMessage msg adj circuitCost router)
  refine shielded_registers.toTacit.routingMessage (fun _ r u _ => ?_) router.base
  unfold setRoute
  split
  · exact ⟨rfl, rfl, rfl⟩
  · exact .refl r

namespace Layer

open Registry

/-- `adjacencies_` has an entry for a node exactly when some adjacency to it is
up, and the endnode column a finite cost for a number exactly when some
endnode adjacency with that number is; both entries are up. -/
structure Registered (s : Layer) : Prop where
  nodes : Current (fun n : Neighbour => n.nodeid.value) {n | n ∈ s.up} s.router.base.adjacencies
  endnodes : Current (fun n : Neighbour => n.nodeid.tid)
    {n | n ∈ s.up ∧ ¬ n.ntype.isRouter} s.router.base.endnodes.via

/-- What goes down has no parallel, and an endnode that comes up has a number
the table holds and a finite cost. -/
def Sole (s : Layer) : Input → Prop
  | .up adj => adj ∉ s.up → ¬ adj.ntype.isRouter → adj.nodeid.tid ≤ s.router.base.maxnodes ∧
        adj.circuitCost % 2 ^ 16 < INFCOST
  | .down adj => adj ∈ s.up → (∀ other ∈ s.up, other ≠ adj → other.nodeid ≠ adj.nodeid) ∧
        (¬ adj.ntype.isRouter → ∀ other ∈ s.up, other ≠ adj →
          ¬ other.ntype.isRouter → other.nodeid.tid ≠ adj.nodeid.tid)
  | .message .. => True

def Bounded (s : Layer) : Prop :=
  ∀ t, s.router.base.maxnodes < t → s.router.base.endnodes.via t = none

theorem Registered.congr {s s' : Layer} (up : s'.up = s.up)
    (same : Registers s.router.base s'.router.base) : s'.Registered ↔ s.Registered := by
  constructor
  · intro registered
    refine ⟨?_, ?_⟩
    · rw [← up, ← same.adjacencies]
      exact registered.nodes
    · rw [← up, ← same.endnodes]
      exact registered.endnodes
  · intro registered
    refine ⟨?_, ?_⟩
    · rw [up, same.adjacencies]
      exact registered.nodes
    · rw [up, same.endnodes]
      exact registered.endnodes

theorem Bounded.congr {s s' : Layer} (bounded : s.Bounded)
    (same : Registers s.router.base s'.router.base) : s'.Bounded := by
  intro t beyond
  rw [same.maxnodes] at beyond
  rw [same.endnodes]
  exact bounded t beyond

variable {s : Layer} {adj : Neighbour}

theorem step_up (new : adj ∉ s.up) : s.step (.up adj) = ⟨s.router.adjUp adj, adj :: s.up⟩ :=
  if_neg new

theorem step_down (isUp : adj ∈ s.up) :
    s.step (.down adj) = ⟨s.router.adjDown adj, s.up.filter (· ≠ adj)⟩ :=
  if_pos isUp

theorem nodes_up (registered : s.Registered) (adj : Neighbour) :
    Current (fun n : Neighbour => n.nodeid.value) {n | n ∈ adj :: s.up}
      (s.router.base.adjUp adj).adjacencies := by
  rw [(adjUp_nodes ..).1]
  have entered := registered.nodes.insert adj
  have present : {n | n ∈ adj :: s.up} = insert adj {n | n ∈ s.up} := by
    ext n
    simp
  rw [present]
  exact entered

theorem nodes_down_iff (registered : s.Registered) (adj : Neighbour) :
    Current (fun n : Neighbour => n.nodeid.value) {n | n ∈ s.up.filter (· ≠ adj)}
        (s.router.base.adjDown adj).adjacencies ↔
      ∀ other ∈ s.up, other ≠ adj → other.nodeid ≠ adj.nodeid := by
  rw [(adjDown_nodes ..).1]
  have present : {n | n ∈ s.up.filter (· ≠ adj)} = {n | n ∈ s.up} \ {adj} := by
    ext n
    simp
  have value {other : Neighbour} :
      other.nodeid.value ≠ adj.nodeid.value ↔ other.nodeid ≠ adj.nodeid := by
    rw [ne_eq, Nodeid.value_injective.eq_iff]
  rw [present, registered.nodes.erase_iff adj]
  simp only [Set.mem_ofPred_eq, value]

/-- An endnode is entered if the column has a place for it and its cost is
finite, and otherwise it is up without an entry. -/
theorem endnodes_up_iff (bounded : s.Bounded) (registered : s.Registered) (adj : Neighbour) :
    Current (fun n : Neighbour => n.nodeid.tid) {n | n ∈ adj :: s.up ∧ ¬ n.ntype.isRouter}
        (s.router.base.adjUp adj).endnodes.via ↔
      (¬ adj.ntype.isRouter → adj.nodeid.tid ≤ s.router.base.maxnodes ∧
        adj.circuitCost % 2 ^ 16 < INFCOST) := by
  by_cases router : adj.ntype.isRouter
  · have present : {n | n ∈ adj :: s.up ∧ ¬ n.ntype.isRouter} =
        {n | n ∈ s.up ∧ ¬ n.ntype.isRouter} := by
      ext n
      simp only [List.mem_cons]
      constructor
      · rintro ⟨rfl | isUp, plain⟩
        · exact absurd router plain
        · exact ⟨isUp, plain⟩
      · exact fun old => ⟨.inr old.1, old.2⟩
    rw [adjUp_endnodes_of_not fun enters => enters.1 router, present]
    exact iff_of_true registered.endnodes fun plain => absurd router plain
  · have present : {n | n ∈ adj :: s.up ∧ ¬ n.ntype.isRouter} =
        insert adj {n | n ∈ s.up ∧ ¬ n.ntype.isRouter} := by
      ext n
      simp only [List.mem_cons]
      constructor
      · rintro ⟨rfl | isUp, plain⟩
        · exact .inl rfl
        · exact .inr ⟨isUp, plain⟩
      · rintro (rfl | old)
        · exact ⟨.inl rfl, router⟩
        · exact ⟨.inr old.1, old.2⟩
    rw [present]
    constructor
    · intro current _
      obtain ⟨entry, found⟩ := current.entered adj (Set.mem_insert _ _)
      by_contra condition
      have missing : (s.router.base.adjUp adj).endnodes.via adj.nodeid.tid = none := by
        by_cases fits : adj.nodeid.tid ≤ s.router.base.maxnodes
        · have infinite : INFCOST ≤ adj.circuitCost % 2 ^ 16 :=
            Nat.not_lt.mp fun finite => condition ⟨fits, finite⟩
          rw [adjUp_endnodes ⟨router, fits⟩, via_set_none _ _ _ _ _ (.inr infinite), update_self]
        · rw [adjUp_endnodes_of_not fun enters => fits enters.2]
          exact bounded _ (Nat.not_le.mp fits)
      rw [missing] at found
      cases found
    · intro condition
      obtain ⟨fits, finite⟩ := condition router
      rw [adjUp_endnodes ⟨router, fits⟩, via_set _ _ _ finite]
      exact registered.endnodes.insert adj

theorem endnodes_down_iff (bounded : s.Bounded) (registered : s.Registered) (isUp : adj ∈ s.up) :
    Current (fun n : Neighbour => n.nodeid.tid) {n | n ∈ s.up.filter (· ≠ adj) ∧ ¬ n.ntype.isRouter}
        (s.router.base.adjDown adj).endnodes.via ↔
      (¬ adj.ntype.isRouter → ∀ other ∈ s.up, other ≠ adj →
        ¬ other.ntype.isRouter → other.nodeid.tid ≠ adj.nodeid.tid) := by
  by_cases router : adj.ntype.isRouter
  · have present : {n | n ∈ s.up.filter (· ≠ adj) ∧ ¬ n.ntype.isRouter} =
        {n | n ∈ s.up ∧ ¬ n.ntype.isRouter} := by
      ext n
      simp only [List.mem_filter, decide_eq_true_eq]
      constructor
      · exact fun old => ⟨old.1.1, old.2⟩
      · rintro ⟨isUp, plain⟩
        exact ⟨⟨isUp, fun same => plain (same ▸ router)⟩, plain⟩
    rw [adjDown_endnodes_of_not fun enters => enters.1 router, present]
    exact iff_of_true registered.endnodes fun plain => absurd router plain
  · have present : {n | n ∈ s.up.filter (· ≠ adj) ∧ ¬ n.ntype.isRouter} =
        {n | n ∈ s.up ∧ ¬ n.ntype.isRouter} \ {adj} := by
      ext n
      simp only [List.mem_filter, decide_eq_true_eq, Set.mem_ofPred_eq,
        Set.mem_sdiff]
      tauto
    have fits : adj.nodeid.tid ≤ s.router.base.maxnodes := by
      obtain ⟨entry, found⟩ := registered.endnodes.entered adj ⟨isUp, router⟩
      by_contra beyond
      rw [bounded _ (Nat.not_le.mp beyond)] at found
      cases found
    rw [present, adjDown_endnodes ⟨router, fits⟩, via_set_none _ _ _ _ _ (.inl rfl),
      registered.endnodes.erase_iff adj]
    constructor
    · intro alone _ other otherUp differs plain
      exact alone other ⟨otherUp, plain⟩ differs
    · intro alone other present differs
      exact alone router other present.1 differs present.2

theorem Bounded.step (bounded : s.Bounded) (input : Input) : (s.step input).Bounded := by
  cases input with
  | up adj =>
    by_cases isUp : adj ∈ s.up
    · rw [show s.step (.up adj) = s from if_pos isUp]
      exact bounded
    · rw [step_up isUp]
      refine Bounded.congr (s := ⟨.l1 (s.router.base.adjUp adj), s.up⟩) ?_
        (shielded_registers.adjUp adj s.router)
      intro t beyond
      change (s.router.base.adjUp adj).maxnodes < t at beyond
      change (s.router.base.adjUp adj).endnodes.via t = none
      rw [(adjUp_nodes ..).2] at beyond
      by_cases enters : s.router.base.Enters adj
      · have other : t ≠ adj.nodeid.tid := fun same => by
          have := enters.2
          omega
        rw [adjUp_endnodes enters]
        simpa [EndnodesRouteInfo.via, EndnodesRouteInfo.set, other] using bounded t beyond
      · rw [adjUp_endnodes_of_not enters]
        exact bounded t beyond
  | down adj =>
    by_cases isUp : adj ∈ s.up
    · rw [step_down isUp]
      refine Bounded.congr (s := ⟨.l1 (s.router.base.adjDown adj), s.up⟩) ?_
        (shielded_registers.adjDown adj s.router)
      intro t beyond
      change (s.router.base.adjDown adj).maxnodes < t at beyond
      change (s.router.base.adjDown adj).endnodes.via t = none
      rw [(adjDown_nodes ..).2] at beyond
      by_cases enters : s.router.base.Enters adj
      · have other : t ≠ adj.nodeid.tid := fun same => by
          have := enters.2
          omega
        rw [adjDown_endnodes enters, via_set_none _ _ _ _ _ (.inl rfl), update_of_ne other]
        exact bounded t beyond
      · rw [adjDown_endnodes_of_not enters]
        exact bounded t beyond
    · rw [show s.step (.down adj) = s from if_neg isUp]
      exact bounded
  | message msg adj =>
    exact bounded.congr (s.router.registers_routingMessage msg adj _)

/-- A step keeps both tables in order exactly when it meets `Sole`. -/
theorem sole_iff_registered (bounded : s.Bounded) (registered : s.Registered) (input : Input) :
    s.Sole input ↔ (s.step input).Registered := by
  cases input with
  | up adj =>
    by_cases isUp : adj ∈ s.up
    · rw [show s.step (.up adj) = s from if_pos isUp]
      exact iff_of_true (fun new => absurd isUp new) registered
    · rw [step_up isUp]
      have nodes := nodes_up registered adj
      have endnodes := endnodes_up_iff bounded registered adj
      have same := shielded_registers.adjUp adj s.router
      rw [← same.adjacencies] at nodes
      rw [← same.endnodes] at endnodes
      constructor
      · intro sole
        exact ⟨nodes, endnodes.mpr (sole isUp)⟩
      · intro after _
        exact endnodes.mp after.endnodes
  | down adj =>
    by_cases isUp : adj ∈ s.up
    · rw [step_down isUp]
      have nodes := nodes_down_iff registered adj
      have endnodes := endnodes_down_iff bounded registered isUp
      have same := shielded_registers.adjDown adj s.router
      rw [← same.adjacencies] at nodes
      rw [← same.endnodes] at endnodes
      constructor
      · intro sole
        exact ⟨nodes.mpr (sole isUp).1, endnodes.mpr (sole isUp).2⟩
      · intro after _
        exact ⟨nodes.mp after.nodes, endnodes.mp after.endnodes⟩
    · rw [show s.step (.down adj) = s from if_neg isUp]
      exact iff_of_true (fun up => absurd up isUp) registered
  | message msg adj =>
    have same := s.router.registers_routingMessage msg adj adj.circuit.cost
    have congr : (s.step (.message msg adj)).Registered ↔ s.Registered := Registered.congr rfl same
    exact iff_of_true trivial (congr.mpr registered)

theorem start_tables (area : Bool) (config : RoutingConfig) (selfAddress : Nat) :
    (start area config selfAddress).router.base.adjacencies = (fun _ => none) ∧
      (start area config selfAddress).router.base.endnodes.via = fun _ => none := by
  cases area with
  | false => exact ⟨rfl, rfl⟩
  | true =>
    refine ⟨?_, ?_⟩
    · exact (shielded_registers.computeAreas _ _ _).adjacencies
    · exact congrArg via (shielded_registers.computeAreas _ _ _).endnodes

/-- The tables are in order throughout a run exactly when no adjacency goes
down that has a parallel, and every endnode that comes up has a number the
table holds and a finite cost. -/
theorem registered_iff (area : Bool) (config : RoutingConfig)
    (selfAddress : Nat) (inputs : List Input) :
    Run.Always step Registered (start area config selfAddress) inputs ↔
      Run.Guarded step Sole (start area config selfAddress) inputs := by
  obtain ⟨adjacencies, endnodes⟩ := start_tables area config selfAddress
  have kept (s : Layer) (input : Input) (bounded : s.Bounded) :
      (s.step input).Bounded := bounded.step input
  apply Run.always_iff_guarded kept
  · intro s input bounded registered
    exact sole_iff_registered bounded registered input
  · intro t _
    rw [endnodes]
  · constructor
    case nodes =>
      rw [adjacencies]
      have none : {n : Neighbour | n ∈ (start area config selfAddress).up} = ∅ := by
        simp [start]
      rw [none]
      exact current_empty _
    case endnodes =>
      rw [endnodes]
      have none : {n : Neighbour | n ∈ (start area config selfAddress).up ∧
          ¬ n.ntype.isRouter} = ∅ := by
        simp [start]
      rw [none]
      exact current_empty _

def parallelEndnode (name : Nat) : Neighbour :=
  ⟨100 + name, .make 1 2, .endnode, Circuit.new name false 4⟩

/-- The endnode is up on the second circuit, but neither table has it. -/
theorem parallel_down_clears :
    let s := (start false exampleConfig 7).run [.up (parallelEndnode 0), .up (parallelEndnode 1),
        .down (parallelEndnode 0)]
    parallelEndnode 1 ∈ s.up ∧ s.router.base.adjacencies (parallelEndnode 1).nodeid.value = none ∧
      s.router.base.endnodes.cost 2 = INFCOST ∧
      s.router.findOadj (parallelEndnode 1).nodeid = (none, false) ∧ ¬ s.Registered := by
  intro s
  have isUp : parallelEndnode 1 ∈ s.up := by decide +kernel
  have missing : s.router.base.adjacencies
      (parallelEndnode 1).nodeid.value = none := by decide +kernel
  refine ⟨isUp, missing, by decide +kernel, by decide +kernel, ?_⟩
  intro registered
  obtain ⟨entry, found⟩ := registered.nodes.entered _ isUp
  exact nomatch missing.symm.trans found

end Layer

end Decnet.Routing
