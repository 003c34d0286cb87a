import Decnet.Routing.LanSteps

/-!
# Which neighbours can hear us

A router neighbour comes up when its hello lists this node.  No later hello
takes it down again: an adjacency stays up although the latest hello no longer
lists this node, until the hellos stop.
-/

namespace Decnet.Routing

/-- A circuit and what it received, the latest first. -/
structure Watched (γ : Type) where
  circuit : γ
  history : List LanEvent

def Watched.step {γ : Type} (step : γ → LanEvent × Outside → γ)
    (w : Watched γ) (work : LanEvent × Outside) : Watched γ :=
  ⟨step w.circuit work, work.1 :: w.history⟩

namespace RoutingLanCircuit

variable {cfg : LanConfig}

/-- What holds of the neighbours in every reachable state: each has an
adjacency, and those of other areas are routers. -/
def Plausible (cfg : LanConfig) (t : LanTable) : Prop :=
  ∀ id b, known t id = some b → b.adj.isSome ∧ (id.area ≠ cfg.parent.homearea → b.ntype ≠ .endnode)

theorem plausible_step (c : RoutingLanCircuit) (work : LanEvent × Outside)
    (fitting : Plausible cfg c.station.adjacencies) :
    Plausible cfg (step cfg c work).station.adjacencies := by
  intro id b isKnown
  cases origin (step_table work.2 c work.1) isKnown with
  | router _ _ _ entered =>
    subst entered
    exact ⟨rfl, fun _ => ntypeOf_ne_endnode _⟩
  | endnode _ inArea _ sender entered =>
    subst entered sender
    exact ⟨rfl, fun foreign => absurd inArea foreign⟩
  | before isKnown => exact fitting id b isKnown

/-! ## Two way -/

def lastRouterHello (id : Nodeid) (history : List LanEvent) : Option RouterHello :=
  history.findSome? fun
    | .routerHello rh _ _ => if rh.id = id then some rh else none
    | _ => none

def Heard (cfg : LanConfig) (id : Nodeid) (history : List LanEvent) : Prop :=
  ∃ rh, lastRouterHello id history = some rh ∧ Lists cfg rh

/-- The neighbour is up, and is a router by its entry or its adjacency. -/
def RouterUp (b : LanAdjacency) : Prop :=
  b.state = .up ∧ (b.ntype ≠ .endnode ∨ ∃ n ∈ b.adj, n.ntype.isRouter)

/-- A router that is up hears this node, as far as its hellos say. -/
def TwoWay (cfg : LanConfig) (w : Watched RoutingLanCircuit) : Prop :=
  ∀ id b, known w.circuit.station.adjacencies id = some b → RouterUp b → Heard cfg id w.history

/-- No router hello that leaves this node out comes from a neighbour that is
up, and no endnode hello from a node known as a router that has not yet listed
this node. -/
def Answers (cfg : LanConfig) (w : Watched RoutingLanCircuit) :
    LanEvent × Outside → Prop
  | (.routerHello rh _ _, _) =>
    (entryOf rh.id w.circuit.station.adjacencies).state = .up → Lists cfg rh
  | (.endnodeHello eh _ _, _) =>
    let a := entryOf eh.id w.circuit.station.adjacencies
    eh.id.area = cfg.parent.homearea → a.state ≠ .up → (∃ l ∈ a.adj, l.neighbour.ntype.isRouter) →
      Heard cfg eh.id w.history
  | _ => True

variable {id : Nodeid} {history : List LanEvent}

theorem heard_routerHello {rh : RouterHello} (src address : Nat) (sender : rh.id = id) :
    Heard cfg id (.routerHello rh src address :: history) ↔ Lists cfg rh := by
  simp [Heard, lastRouterHello, sender]

theorem heard_of_not_routerHello {event : LanEvent}
    (other : ∀ rh src address, event = .routerHello rh src address →
      rh.id ≠ id) : Heard cfg id (event :: history) ↔ Heard cfg id history := by
  have skipped : lastRouterHello id (event :: history) = lastRouterHello id history := by
    cases event with
    | routerHello rh src address =>
      simp [lastRouterHello, other rh src address rfl]
    | _ => rfl
  rw [Heard, Heard, skipped]

theorem afterRouterHello_up {rh : RouterHello} {src address : Nat} {a : LanEntry} :
    (afterRouterHello cfg rh src address a).state = .up ↔
      a.state = .up ∨ Lists cfg rh ∧ Listens cfg rh.timer a := by
  unfold afterRouterHello
  split
  case isTrue both => simp [both]
  case isFalse neither => simp [neither]

theorem routerUp_afterEndnodeHello {eh : EndnodeHello} {src address : Nat} {a : LanEntry} :
    RouterUp (afterEndnodeHello cfg eh src address a) ↔
      ∃ l ∈ a.adj, l.neighbour.ntype.isRouter := by
  unfold RouterUp afterEndnodeHello
  cases a.adj with
  | none => simp [LanStation.listener, Ntype.isRouter]
  | some l => simp

section

variable {w : Watched RoutingLanCircuit} {work : LanEvent × Outside}

theorem twoWay_of_answers (twoWay : TwoWay cfg w) (answers : Answers cfg w work) :
    TwoWay cfg (w.step (step cfg) work) := by
  obtain ⟨event, out⟩ := work
  intro id b isKnown routerUp
  change Heard cfg id (event :: w.history)
  cases origin (step_table out w.circuit event) isKnown with
  | router item accepted sender entered =>
    subst item entered
    apply (heard_routerHello _ _ sender).mpr
    rcases afterRouterHello_up.mp routerUp.1 with wasUp | confirmed
    · exact answers wasUp
    · exact confirmed.1
  | endnode item inArea notUp sender entered =>
    subst item entered sender
    apply (heard_of_not_routerHello ?_).mpr
    · exact answers inArea notUp (routerUp_afterEndnodeHello.mp routerUp)
    · nofun
  | before wasKnown =>
    have heard := twoWay id b wasKnown routerUp
    by_cases fromHere : ∃ rh src address, event = .routerHello rh src address ∧ rh.id = id
    · obtain ⟨rh, src, address, item, sender⟩ := fromHere
      subst item sender
      apply (heard_routerHello _ _ rfl).mpr
      apply answers
      rw [← routerUp.1]
      exact congrArg LanAdjacency.state (known_eq_some wasKnown)
    · rw [heard_of_not_routerHello]
      · exact heard
      · intro rh src address item sender
        exact fromHere ⟨rh, src, address, item, sender⟩

theorem answers_of_twoWay (fitting : Plausible cfg w.circuit.station.adjacencies)
    (twoWay : TwoWay cfg (w.step (step cfg) work)) : Answers cfg w work := by
  obtain ⟨event, out⟩ := work
  have table := @step_table cfg out w.circuit event
  cases event with
  | routerHello rh src address =>
    intro isUp
    simp only [TableAfter] at table
    apply (heard_routerHello src address rfl).mp
    split at table
    case isTrue accepted =>
      apply twoWay rh.id (afterRouterHello cfg rh src address
        (entryOf rh.id w.circuit.station.adjacencies))
      · exact table.found
      · exact ⟨afterRouterHello_up.mpr (.inl isUp), .inl (ntypeOf_ne_endnode rh)⟩
    case isFalse ignored =>
      have wasKnown := known_of_up isUp
      have foreign : rh.id.area ≠ cfg.parent.homearea := by
        intro inArea
        exact ignored (by simp [accepts, inArea])
      apply twoWay rh.id _
      · change known (step cfg w.circuit _).station.adjacencies rh.id = _
        rw [table]
        exact wasKnown
      · exact ⟨isUp, .inl ((fitting _ _ wasKnown).2 foreign)⟩
  | endnodeHello eh src address =>
    intro inArea notUp isRouter
    simp only [TableAfter, if_pos (And.intro inArea notUp)] at table
    apply twoWay eh.id (afterEndnodeHello cfg eh src address
      (entryOf eh.id w.circuit.station.adjacencies))
    · exact table.found
    · exact routerUp_afterEndnodeHello.mpr isRouter
  | _ => trivial

end

/-- A run keeps every router that is up two way exactly when the neighbours
answer. -/
theorem twoWay_iff (cfg : LanConfig) (work : List (LanEvent × Outside)) :
    Run.Always (Watched.step (step cfg)) (TwoWay cfg) ⟨start cfg, []⟩ work ↔
      Run.Guarded (Watched.step (step cfg)) (Answers cfg) ⟨start cfg, []⟩ work := by
  have kept (w : Watched RoutingLanCircuit) (work : LanEvent × Outside)
      (fitting : Plausible cfg w.circuit.station.adjacencies) :=
    plausible_step w.circuit work fitting
  have none : Plausible cfg (start cfg).station.adjacencies := by
    rw [start_table]
    nofun
  refine Run.always_iff_guarded kept ?_ work none ?_
  · intro w work fitting twoWay
    exact ⟨twoWay_of_answers twoWay, answers_of_twoWay fitting⟩
  · intro id b isKnown
    rw [start_table] at isKnown
    cases isKnown

def hello12 (routers : List Nodeid) : LanEvent × Outside :=
  (.routerHello ⟨Nodeid.make 1 2, false, 64, 10, routers⟩ 2 1, fun _ => true)

/-- Router 1.2 lists 1.1 and then, on its way out, nobody: it stays up, and the
router was never told otherwise. -/
theorem left_out_stays_up :
    ¬ TwoWay lanConfig ([hello12 [Nodeid.make 1 1], hello12 []].foldl
        (Watched.step (step lanConfig)) ⟨start lanConfig, []⟩) ∧ (run lanConfig
        [hello12 [Nodeid.make 1 1], hello12 []]).station.calls =
        [.up ⟨1, Nodeid.make 1 2, .l1router, Circuit.new 0 true 4⟩] := by
  refine ⟨?_, by decide +kernel⟩
  intro twoWay
  have isUp : known (run lanConfig [hello12 [Nodeid.make 1 1], hello12 []]).station.adjacencies
        (Nodeid.make 1 2) = some ⟨some ⟨1, Nodeid.make 1 2, .l1router, Circuit.new 0 true 4⟩, 2,
        .up, 64, .l1router, 310⟩ := by decide +kernel
  obtain ⟨rh, last, lists⟩ := twoWay _ _ isUp ⟨rfl, .inl nofun⟩
  cases last
  exact absurd lists (by decide)

end RoutingLanCircuit

end Decnet.Routing
