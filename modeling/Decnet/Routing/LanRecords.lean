import Decnet.Routing.LanTwoWay

/-!
# What is recorded of a neighbour and what it last announced

Type, Ethernet address, priority and adjacency of a neighbour are written on
different branches.  Which hellos leave them in agreement, for the circuit of a
router and for that of an endnode.
-/

namespace Decnet.Routing

open RoutingLanCircuit EndnodeLanCircuit

structure Announcement where
  ntype : Ntype
  src : Nat
  prio : Option Nat
  deriving DecidableEq

def announcement : LanEvent → Option (Nodeid × Announcement)
  | .routerHello rh src _ =>
    some (rh.id, ⟨RoutingLanCircuit.ntypeOf rh, src, some rh.prio⟩)
  | .endnodeHello eh src _ => some (eh.id, ⟨.endnode, src, none⟩)
  | _ => none

def lastHello (id : Nodeid) (history : List LanEvent) : Option Announcement :=
  history.findSome? fun event =>
    (announcement event).bind fun (sender, said) =>
      if sender = id then some said else none

/-- The derived address, its six bytes read as a number. -/
def fromNodeid (id : Nodeid) : Nat := 0x000400aa + id.value * 2 ^ 32

/-- The address `send_to` uses: the recorded one, if there is one. -/
def sendToMac (id : Nodeid) (b : LanAdjacency) : Nat :=
  if b.macaddr ≠ 0 then b.macaddr else fromNodeid id

structure Current (id : Nodeid) (b : LanAdjacency) (said : Announcement) : Prop where
  ntype : b.ntype = said.ntype
  address : sendToMac id b = said.src
  prio : ∀ prio ∈ said.prio, b.prio = prio
  adjacency : b.adj.map Neighbour.ntype = some said.ntype

def RecordsCurrent (t : LanTable) (history : List LanEvent) : Prop :=
  ∀ id b, known t id = some b → b.state = .up →
    ∃ said, lastHello id history = some said ∧ Current id b said

variable {id : Nodeid} {history : List LanEvent} {event : LanEvent}

theorem lastHello_of_announcement {said : Announcement}
    (announces : announcement event = some (id, said)) :
    lastHello id (event :: history) = some said := by
  simp [lastHello, announces]

theorem lastHello_skip (other : ∀ said, announcement event ≠ some (id, said)) :
    lastHello id (event :: history) = lastHello id history := by
  have skipped : ((announcement event).bind fun (sender, said) =>
      if sender = id then some said else none) = none := by
    cases announces : announcement event with
    | none => rfl
    | some pair =>
      obtain ⟨sender, said⟩ := pair
      refine if_neg ?_
      rintro rfl
      exact other said announces
  unfold lastHello
  rw [List.findSome?_cons, skipped]

/-- A hello from a station address can be answered there. -/
theorem sendToMac_eq_iff {b : LanAdjacency} : sendToMac id b = b.macaddr ↔ b.macaddr ≠ 0 := by
  unfold sendToMac fromNodeid
  split <;> omega

namespace RoutingLanCircuit

variable {cfg : LanConfig}

/-- The adjacency that the circuit already has for a neighbour, if any, is of
the given type. -/
def OfType (ntype : Ntype) (a : LanEntry) : Prop :=
  ∀ l ∈ a.adj, l.neighbour.ntype = ntype

theorem ofType_iff {ntype : Ntype} {a : LanEntry} {l : Listener}
    (made : l.neighbour.ntype = ntype) :
    OfType ntype a ↔ (some (a.adj.getD l).neighbour).map Neighbour.ntype = some ntype := by
  unfold OfType
  cases a.adj with
  | none => simp [made]
  | some l' => simp

/-- A hello that brings up or renews an entry comes from a station address and
finds no adjacency of another type; one that does not touch an entry that is up
says what is recorded. -/
def Agrees (cfg : LanConfig) (w : Watched RoutingLanCircuit) :
    LanEvent × Outside → Prop
  | (.routerHello rh src _, _) =>
    let a := entryOf rh.id w.circuit.station.adjacencies
    if accepts cfg rh then
      a.state = .up ∨ Lists cfg rh ∧ Listens cfg rh.timer a → src ≠ 0 ∧ OfType (ntypeOf rh) a
    else
      a.state = .up → Current rh.id a.forget ⟨ntypeOf rh, src, some rh.prio⟩
  | (.endnodeHello eh src _, _) =>
    let a := entryOf eh.id w.circuit.station.adjacencies
    if eh.id.area = cfg.parent.homearea ∧ a.state ≠ .up then
      src ≠ 0 ∧ OfType .endnode a
    else a.state = .up → Current eh.id a.forget ⟨.endnode, src, none⟩
  | _ => True

theorem current_afterRouterHello {rh : RouterHello} {src address : Nat} {a : LanEntry} :
    Current rh.id (afterRouterHello cfg rh src address a) ⟨ntypeOf rh, src, some rh.prio⟩ ↔
      src ≠ 0 ∧ OfType (ntypeOf rh) a := by
  have typed := @ofType_iff (ntypeOf rh) a (LanStation.listener cfg rh.id
    (ntypeOf rh) rh.timer address) rfl
  have addressed := @sendToMac_eq_iff rh.id (afterRouterHello cfg rh src address a)
  constructor
  · intro current
    exact ⟨addressed.mp current.address, typed.mpr current.adjacency⟩
  · rintro ⟨station, ofType⟩
    refine ⟨rfl, addressed.mpr station, ?_, typed.mp ofType⟩
    rintro prio ⟨⟩
    rfl

theorem current_afterEndnodeHello {eh : EndnodeHello} {src address : Nat} {a : LanEntry} :
    Current eh.id (afterEndnodeHello cfg eh src address a) ⟨.endnode, src, none⟩ ↔
      src ≠ 0 ∧ OfType .endnode a := by
  have typed := @ofType_iff .endnode a (LanStation.listener cfg eh.id .endnode eh.timer address) rfl
  have addressed := @sendToMac_eq_iff eh.id (afterEndnodeHello cfg eh src address a)
  constructor
  · intro current
    exact ⟨addressed.mp current.address, typed.mpr current.adjacency⟩
  · rintro ⟨station, ofType⟩
    exact ⟨rfl, addressed.mpr station, nofun, typed.mp ofType⟩

section

variable {w : Watched RoutingLanCircuit} {work : LanEvent × Outside}

theorem recordsCurrent_of_agrees (records : RecordsCurrent w.circuit.station.adjacencies w.history)
    (agrees : Agrees cfg w work) :
    RecordsCurrent (step cfg w.circuit work).station.adjacencies (work.1 :: w.history) := by
  obtain ⟨event, out⟩ := work
  intro id b isKnown isUp
  cases origin (step_table out w.circuit event) isKnown with
  | router item accepted sender entered =>
    subst item entered sender
    simp only [Agrees, accepted] at agrees
    refine ⟨_, lastHello_of_announcement rfl, ?_⟩
    exact current_afterRouterHello.mpr (agrees (afterRouterHello_up.mp isUp))
  | endnode item inArea notUp sender entered =>
    subst item entered sender
    simp only [Agrees, if_pos (And.intro inArea notUp)] at agrees
    refine ⟨_, lastHello_of_announcement rfl, ?_⟩
    exact current_afterEndnodeHello.mpr agrees
  | before wasKnown noRouter noEndnode =>
    have entry := known_eq_some wasKnown
    have entryUp : (entryOf id w.circuit.station.adjacencies).state = .up :=
      (congrArg LanAdjacency.state entry).trans isUp
    by_cases announces : ∃ said, announcement event = some (id, said)
    · obtain ⟨said, announces⟩ := announces
      refine ⟨said, lastHello_of_announcement announces, ?_⟩
      cases event with
      | routerHello rh src address =>
        cases announces
        have ignored := fun accepted => noRouter rh src address rfl accepted rfl
        simp only [Agrees, if_neg ignored] at agrees
        exact entry ▸ agrees entryUp
      | endnodeHello eh src address =>
        cases announces
        simp only [Agrees, entryUp, ne_eq, not_true_eq_false, and_false] at agrees
        exact entry ▸ agrees trivial
      | _ => cases announces
    · obtain ⟨said, last, current⟩ := records id b wasKnown isUp
      refine ⟨said, ?_, current⟩
      rw [lastHello_skip fun said announced => announces ⟨said, announced⟩]
      exact last

theorem agrees_of_recordsCurrent
    (records : RecordsCurrent (step cfg w.circuit work).station.adjacencies (work.1 :: w.history)) :
    Agrees cfg w work := by
  obtain ⟨event, out⟩ := work
  have table := @step_table cfg out w.circuit event
  -- An entry that is up afterwards agrees with the hello that was just heard.
  have current {id : Nodeid} {b : LanAdjacency} {said : Announcement}
      (isKnown : known (step cfg w.circuit (event, out)).station.adjacencies
        id = some b) (isUp : b.state = .up) (announces : announcement event = some (id, said)) :
      Current id b said := by
    obtain ⟨said', last, current⟩ := records id b isKnown isUp
    rw [lastHello_of_announcement announces] at last
    cases last
    exact current
  cases event with
  | routerHello rh src address =>
    simp only [TableAfter] at table
    unfold Agrees
    dsimp only
    split at table
    case isTrue accepted =>
      rw [if_pos accepted]
      intro isUp
      apply current_afterRouterHello.mp
      exact current table.found (afterRouterHello_up.mpr isUp) rfl
    case isFalse ignored =>
      rw [if_neg ignored]
      intro isUp
      refine current ?_ isUp rfl
      rw [table]
      exact known_of_up isUp
  | endnodeHello eh src address =>
    simp only [TableAfter] at table
    unfold Agrees
    dsimp only
    split at table
    case isTrue fresh =>
      rw [if_pos fresh]
      apply current_afterEndnodeHello.mp
      exact current table.found rfl rfl
    case isFalse notFresh =>
      rw [if_neg notFresh]
      intro isUp
      refine current ?_ isUp rfl
      rw [table.known]
      exact known_of_up isUp
  | _ => trivial

end

end RoutingLanCircuit

/-! ## The circuit of an endnode -/

namespace EndnodeLanCircuit

open Throwing LanStation

variable {cfg : LanConfig} {c : EndnodeLanCircuit} {s : LanStation}

/-- Every neighbour is up, as an endnode by its entry and as a router by its
adjacency. -/
def Mistyped (t : LanTable) : Prop :=
  ∀ id b, known t id = some b → b.state = .up ∧ b.ntype = .endnode ∧
    b.adj.map Neighbour.ntype ≠ some .endnode

/-- What every reachable state has: the neighbours are mistyped, and the router
in use is one of them. -/
structure Using (c : EndnodeLanCircuit) : Prop where
  entries : Mistyped c.station.adjacencies
  router : ∀ d ∈ c.dr.map Prod.fst, known c.station.adjacencies d ≠ none

theorem Using.quiet {id : Nodeid} {s' : LanStation} (inUse : Using c)
    (quiet : Quiet id c.station.adjacencies s'.adjacencies) : Using { c with station := s' } := by
  refine ⟨forall_known_dropped inUse.entries (.inr quiet), ?_⟩
  intro d isDr
  rw [quiet.known]
  exact inUse.router d isDr

@[simp] theorem ends_base {α : Type} {x : StationM α}
    {good : α → EndnodeLanCircuit → Prop} {bad : EndnodeLanCircuit → Prop} :
    Ends (base x) c good bad ↔ Ends x c.station (fun value s => good value { c with station := s })
        (fun s => bad { c with station := s }) :=
  ends_zoom

theorem stillThere_leaves (id : Nodeid) : Leaves (stillThere id) s (Quiet id s.adjacencies) := by
  unfold stillThere
  rw [Leaves, ends_bind, ends_get]
  split
  case h_1 => exact .same
  case h_2 a found =>
    split
    case h_1 => exact .same
    case h_2 l has =>
      simp only [ends_bind, ends_alive]
      split_ifs
      · exact alive_quiet found has
      · exact .same

theorem forgetRouter_ends (out : Outside) (inUse : Using c) :
    Ends (forgetRouter out) c (fun _ c' => Mistyped c'.station.adjacencies) Using := by
  unfold forgetRouter
  rw [ends_bind, ends_get]
  split
  case h_1 => exact inUse.entries
  case h_2 old src isDr =>
    rw [ends_base]
    have isKnown := inUse.router old (by rw [isDr]; rfl)
    cases found : c.station.adjacencies.find old with
    | none => exact absurd (by rw [known, found]; rfl) isKnown
    | some a =>
      apply Ends.imp (adjacencyDown_ends out found)
      · intro _ s' dropped
        exact forall_known_dropped inUse.entries (.inl dropped)
      · exact fun _ quiet => inUse.quiet quiet

theorem enter_leaves (cfg : LanConfig) (out : Outside) (rh : RouterHello)
    (src address : Nat) (mistyped : Mistyped s.adjacencies) :
    Leaves (enter cfg out rh src address) s fun t =>
      Mistyped t ∧ known t rh.id ≠ none := by
  have entered {a : LanEntry} {t : LanTable} (ntype : a.ntype = .endnode)
      (adj : a.adj.map (·.neighbour.ntype) ≠ some .endnode)
      (change : Entered rh.id { a.forget with
        state := .up
        adj := some (a.adj.getD (listener cfg rh.id (ntypeOf rh) rh.timer address)).neighbour }
        (s.adjacencies.put rh.id a) t) :
      Mistyped t ∧ known t rh.id ≠ none := by
    refine ⟨?_, by rw [change.found]; nofun⟩
    obtain ⟨a', rfl, forget⟩ := change
    refine Entered.forall_known mistyped ⟨a', Table.put_put .., forget⟩ ⟨rfl, ntype, ?_⟩
    cases has : a.adj with
    | none =>
      intro same
      exact ntypeOf_ne_endnode rh (Option.some.inj same)
    | some l =>
      rw [has] at adj
      exact adj
  have before : ((s.adjacencies.find rh.id).getD .new).ntype = .endnode ∧
      ((s.adjacencies.find rh.id).getD .new).adj.map (·.neighbour.ntype) ≠ some .endnode := by
    cases found : s.adjacencies.find rh.id with
    | none => exact ⟨rfl, nofun⟩
    | some a =>
      have wrong := mistyped rh.id a.forget (by rw [known, found]; rfl)
      refine ⟨wrong.2.1, ?_⟩
      have adj := wrong.2.2
      simp only [LanEntry.forget, Option.map_map] at adj
      exact adj
  unfold enter
  simp only [Leaves, ends_bind]
  exact Ends.mono (adjacencyUp_leaves ..) fun _ => entered before.1 before.2

theorem switch_ends (cfg : LanConfig) (out : Outside) (rh : RouterHello)
    (src address : Nat) (inUse : Using c) :
    Ends (switch cfg out rh src address) c (fun _ => Using) Using := by
  refine (forgetRouter_ends out inUse).seq fun _ c' mistyped => ?_
  rw [ends_bind, ends_modify, ends_base]
  refine Ends.mono (enter_leaves cfg out rh src address mistyped) fun s' found => ⟨found.1, ?_⟩
  rintro d ⟨⟩
  exact found.2

theorem Using.dropped {id : Nodeid} {s' : LanStation} (inUse : Using c)
    (other : ∀ d ∈ c.dr.map Prod.fst, d ≠ id)
    (dropped : s'.adjacencies = c.station.adjacencies.erase id ∨
      Quiet id c.station.adjacencies s'.adjacencies) : Using { c with station := s' } := by
  refine ⟨forall_known_dropped inUse.entries dropped, fun d isDr => ?_⟩
  rcases dropped with erased | quiet
  · rw [erased, known_erase, Function.update_of_ne (other d isDr)]
    exact inUse.router d isDr
  · exact (inUse.quiet quiet).router d isDr

theorem listenTimeout_ends (out : Outside) {id : Nodeid} {a : LanEntry}
    {l : Listener} (inUse : Using c)
    (found : c.station.adjacencies.find id = some a) (has : a.adj = some l) :
    Ends (listenTimeout out id a l) c (fun _ => Using) Using := by
  unfold listenTimeout
  rw [ends_bind, ends_base]
  apply Ends.imp (expire_leaves out found has)
  · intro _ s' quiet
    have expired := inUse.quiet quiet
    rw [ends_bind, ends_modify, ends_base]
    split
    case isTrue =>
      have idle : Using { c with station := s', dr := none } := ⟨expired.entries, nofun⟩
      exact Ends.mono (adjacencyDown_leaves out id) fun _ => idle.dropped nofun
    case isFalse notDr =>
      have other : ∀ d ∈ c.dr.map Prod.fst, d ≠ id := by
        rintro d isDr rfl
        exact notDr isDr
      exact Ends.mono (adjacencyDown_leaves out id) fun _ => expired.dropped other
  · exact fun _ quiet => inUse.quiet quiet

theorem using_step (work : LanEvent × Outside) (inUse : Using c) : Using (step cfg c work) := by
  obtain ⟨event, out⟩ := work
  apply (after_iff_ends (dispatch cfg out event) c).mpr
  unfold dispatch
  split
  case h_1 rh src address =>
    unfold routerHello
    rw [ends_bind, ends_get]
    split
    · exact inUse
    · split
      · rw [ends_base]
        exact Ends.mono (stillThere_leaves rh.id) fun _ => inUse.quiet
      · exact switch_ends cfg out rh src address inUse
  case h_2 id =>
    rw [ends_bind, ends_get]
    exact ends_expiry inUse (listenTimeout_ends out inUse)
  case h_3 => exact inUse

def NoRouter (cfg : LanConfig) : LanEvent × Outside → Prop
  | (.routerHello rh _ _, _) => rh.id.area ≠ cfg.parent.homearea
  | _ => True

/-- A mistyped entry agrees with no hello, so the records are current only as
long as there are none. -/
theorem recordsCurrent_iff_empty {t : LanTable} {history : List LanEvent} (mistyped : Mistyped t) :
    RecordsCurrent t history ↔ ∀ id, known t id = none := by
  constructor
  · intro records id
    apply Option.eq_none_iff_forall_ne_some.mpr
    intro b isKnown
    obtain ⟨isUp, ntype, adj⟩ := mistyped id b isKnown
    obtain ⟨said, _, current⟩ := records id b isKnown isUp
    apply adj
    rw [current.adjacency, ← current.ntype, ntype]
  · intro empty id b isKnown
    rw [empty id] at isKnown
    cases isKnown

/-- The first router of this area that is heard gets an entry. -/
theorem empty_step_iff (inUse : Using c) (work : LanEvent × Outside)
    (empty : ∀ id, known c.station.adjacencies id = none) :
    (∀ id, known (step cfg c work).station.adjacencies id = none) ↔ NoRouter cfg work := by
  obtain ⟨event, out⟩ := work
  have missing (id : Nodeid) : c.station.adjacencies.find id = none :=
    Option.map_eq_none_iff.mp (empty id)
  have idle : c.dr = none := by
    cases isDr : c.dr with
    | none => rfl
    | some pair =>
      have isKnown := inUse.router pair.1 (by rw [isDr]; rfl)
      exact absurd (empty pair.1) isKnown
  cases event with
  | routerHello rh src address =>
    by_cases inArea : rh.id.area = cfg.parent.homearea
    · refine iff_of_false ?_ (fun outside => outside inArea)
      intro stillEmpty
      refine absurd (stillEmpty rh.id) ?_
      apply (@after_iff_ends _ _ _ (fun c' : EndnodeLanCircuit =>
        known c'.station.adjacencies rh.id ≠ none)
        (dispatch cfg out (.routerHello rh src address)) c).mpr
      simp only [dispatch, routerHello, switch, forgetRouter, ends_bind,
        ends_get, idle, ends_ite,
        ne_eq, inArea, ends_base]
      apply Ends.imp (enter_leaves cfg out rh src address inUse.entries)
      · exact fun _ _ found => found.2
      · exact fun _ found => found.2
    · refine iff_of_true ?_ inArea
      have ignored : step cfg c (.routerHello rh src address, out) = c := by
        simp only [step, dispatch, routerHello, ne_eq, inArea]
        rfl
      rw [ignored]
      exact empty
  | listenTimeout id =>
    refine iff_of_true ?_ trivial
    have ignored : step cfg c (.listenTimeout id, out) = c := by
      simp only [step, dispatch, get_bind_apply, missing]
      rfl
    rw [ignored]
    exact empty
  | _ => exact iff_of_true empty trivial

end EndnodeLanCircuit

/-- On the circuit of a router the records stay current exactly when the hellos
agree with what is recorded.  On that of an endnode they are wrong as soon as a
router of the area is heard. -/
theorem recordsCurrent_iff (cfg : LanConfig) (work : List (LanEvent × Outside)) :
    (Run.Always (Watched.step (RoutingLanCircuit.step cfg))
        (fun w => RecordsCurrent w.circuit.station.adjacencies w.history)
        ⟨RoutingLanCircuit.start cfg, []⟩ work ↔
      Run.Guarded (Watched.step (RoutingLanCircuit.step cfg))
        (RoutingLanCircuit.Agrees cfg) ⟨RoutingLanCircuit.start cfg, []⟩ work) ∧
    (Run.Always (Watched.step (EndnodeLanCircuit.step cfg))
        (fun w => RecordsCurrent w.circuit.station.adjacencies w.history)
        ⟨EndnodeLanCircuit.new, []⟩ work ↔ ∀ item ∈ work, EndnodeLanCircuit.NoRouter cfg item) := by
  constructor
  · refine Run.always_iff_guarded_of_iff ?_ work ?_
    · intro w item records
      exact ⟨recordsCurrent_of_agrees records, agrees_of_recordsCurrent⟩
    · intro id b isKnown
      rw [start_table] at isKnown
      cases isKnown
  · rw [← Run.guarded_const (Watched.step (EndnodeLanCircuit.step cfg))
      (NoRouter cfg) ⟨new, []⟩ work]
    have kept (w : Watched EndnodeLanCircuit) (item : LanEvent × Outside)
        (inUse : Using w.circuit) := @EndnodeLanCircuit.using_step cfg w.circuit item inUse
    refine Run.always_iff_guarded kept ?_ work ⟨nofun, nofun⟩ ?_
    · intro w item inUse records
      have empty := (recordsCurrent_iff_empty inUse.entries).mp records
      have after := @EndnodeLanCircuit.using_step cfg w.circuit item inUse
      rw [← empty_step_iff inUse item empty]
      exact (recordsCurrent_iff_empty after.entries).symm
    · exact nofun

def hello13 (src : Nat) : LanEvent × Outside :=
  (.endnodeHello ⟨Nodeid.make 1 3, 10⟩ src 1, fun _ => true)

/-- Endnode 1.3 goes on from another Ethernet address, and packets for it are
sent to the old one. -/
theorem moved_endnode_not_recorded :
    ¬ RecordsCurrent (RoutingLanCircuit.run RoutingLanCircuit.lanConfig
        [hello13 7, hello13 8]).station.adjacencies [(hello13 8).1, (hello13 7).1] := by
  intro records
  have isKnown : known (run lanConfig
      [hello13 7, hello13 8]).station.adjacencies (Nodeid.make 1 3) =
      some ⟨some ⟨1, Nodeid.make 1 3, .endnode, Circuit.new 0 true 4⟩, 7,
        .up, 0, .endnode, 310⟩ := by decide +kernel
  obtain ⟨said, last, current⟩ := records _ _ isKnown rfl
  cases last
  exact absurd current.address (by decide)

end Decnet.Routing
