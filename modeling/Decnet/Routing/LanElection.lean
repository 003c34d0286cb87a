import Decnet.Routing.LanSteps

/-!
# The designated router

A circuit acts as designated router only while nobody in its table outranks its
own router.  The election is held again whenever a router hello has been
handled, a router is lost or the election timer expires; an exception in the
handling of a hello skips it.
-/

namespace Decnet.Routing

open Throwing Nodeid

namespace RoutingLanCircuit

open LanStation

variable {cfg : LanConfig} {t : LanTable}

/-- A router of this area with a better claim than this node. -/
def Outranks (cfg : LanConfig) (id : Nodeid) (b : LanAdjacency) : Prop :=
  b.ntype ≠ .endnode ∧ id.area = cfg.parent.homearea ∧ betterDr b.prio id cfg.prio cfg.parent.nodeid

def Unrivalled (cfg : LanConfig) (t : LanTable) : Prop :=
  ∀ id b, known t id = some b → ¬ Outranks cfg id b

theorem foldl_challenge_lost (entries : List (Nodeid × LanEntry))
    {best : Candidate} (lost : best.self = false) :
    (entries.foldl (challenge cfg) best).self = false := by
  induction entries generalizing best with
  | nil => exact lost
  | cons entry entries induction =>
    apply induction
    unfold challenge
    split
    · exact lost
    · split
      · exact lost
      · split
        · rfl
        · exact lost

theorem challenge_self (entry : Nodeid × LanEntry) :
    challenge cfg ⟨cfg.prio, cfg.parent.nodeid, true⟩ entry = ⟨cfg.prio, cfg.parent.nodeid, true⟩ ∧
        ¬ Outranks cfg entry.1 entry.2.forget ∨
      (challenge cfg ⟨cfg.prio, cfg.parent.nodeid, true⟩ entry).self = false ∧
        Outranks cfg entry.1 entry.2.forget := by
  unfold challenge
  split
  case isTrue endnode => exact .inl ⟨rfl, fun outranks => outranks.1 endnode⟩
  case isFalse router =>
    split
    case isTrue foreign =>
      exact .inl ⟨rfl, fun outranks => foreign outranks.2.1⟩
    case isFalse inArea =>
      split
      case isTrue better =>
        exact .inr ⟨rfl, router, not_not.mp inArea, better⟩
      case isFalse worse =>
        exact .inl ⟨rfl, fun outranks => worse outranks.2.2⟩

/-- This node wins the election exactly when nobody outranks it. -/
theorem bestDr_self_iff (t : LanTable) : (bestDr cfg t).self = true ↔ Unrivalled cfg t := by
  have search (entries : List (Nodeid × LanEntry)) :
      (entries.foldl (challenge cfg) ⟨cfg.prio, cfg.parent.nodeid, true⟩).self = true ↔
        ∀ entry ∈ entries, ¬ Outranks cfg entry.1 entry.2.forget := by
    induction entries with
    | nil => simp
    | cons entry entries induction =>
      rw [List.foldl_cons, List.forall_mem_cons]
      rcases challenge_self entry with ⟨same, below⟩ | ⟨lost, outranks⟩
      · rw [same, induction]
        exact ⟨fun rest => ⟨below, rest⟩, And.right⟩
      · rw [foldl_challenge_lost entries lost]
        exact iff_of_false nofun fun both => both.1 outranks
  rw [bestDr, search]
  constructor
  · intro below id b isKnown
    obtain ⟨a, found, rfl⟩ := Option.map_eq_some_iff.mp isKnown
    exact below (id, a) (Table.find_eq_some.mp found)
  · rintro unrivalled ⟨id, a⟩ member
    apply unrivalled id a.forget
    rw [known, Table.find_eq_some.mpr member]
    rfl

/-- Acting as designated router, the circuit knows of nobody better. -/
def Safe (cfg : LanConfig) (c : RoutingLanCircuit) : Prop :=
  c.isdr = true → Unrivalled cfg c.station.adjacencies

def Acting (isdr : Bool) (c : RoutingLanCircuit) : Prop := c.isdr = isdr

theorem Acting.safe {c : RoutingLanCircuit} (notActing : Acting false c) : Safe cfg c :=
  fun acting => nomatch notActing.symm.trans acting

variable {isdr : Bool}

theorem base_acting {α : Type} {x : StationM α} : Keeps (Acting isdr) (base x) := by
  intro c acting
  unfold base zoom
  split <;> exact acting

theorem sendHello_acting : Keeps (Acting isdr) (sendHello cfg) := by
  apply Keeps.get_bind
  intro c
  split
  · exact keeps_throw _
  · exact base_acting

theorem stepDown_ends (c : RoutingLanCircuit) :
    Ends (stepDown cfg) c (fun _ => Acting false) (Acting false) := by
  unfold stepDown
  rw [ends_bind, ends_get]
  split
  case isTrue =>
    exact sendHello_acting.ends rfl
  case isFalse notActing => exact Bool.eq_false_iff.mpr notActing

theorem safe_of_unrivalled {x : RoutingLanM Unit} {c : RoutingLanCircuit}
    (keeps : Keeps (Apart c.station.adjacencies c.station.helloArmed
      c.station.calls) x) (unrivalled : Unrivalled cfg c.station.adjacencies) :
    Ends x c (fun _ => Safe cfg) (Safe cfg) := by
  exact Ends.mono (@results_of_keeps _ c (Unrivalled cfg) keeps unrivalled)
    fun _ unrivalled _ => unrivalled

theorem calcDr_safe (c : RoutingLanCircuit) :
    Ends (calcDr cfg) c (fun _ => Safe cfg) (Safe cfg) := by
  unfold calcDr
  rw [ends_bind, ends_get]
  dsimp only
  split
  case isTrue won =>
    exact safe_of_unrivalled standBy_apart.keeps ((bestDr_self_iff _).mp won)
  case isFalse =>
    rw [ends_bind]
    apply Ends.imp (stepDown_ends c)
    · intro _ c' notActing
      rw [ends_modify]
      intro acting
      split at acting <;> cases notActing.symm.trans acting
    · exact fun _ notActing => notActing.safe

theorem becomeDr_safe (c : RoutingLanCircuit) :
    Ends (becomeDr cfg) c (fun _ => Safe cfg) (Safe cfg) := by
  unfold becomeDr
  simp only [ends_bind, ends_modify, ends_get]
  split
  case isTrue won =>
    simp only [ends_bind]
    exact safe_of_unrivalled sendHello_apart.keeps ((bestDr_self_iff _).mp won)
  case isFalse => exact calcDr_safe _

theorem renewElection_safe {c : RoutingLanCircuit} (id : Nodeid)
    (wasRouter : Bool) (safe : Safe cfg c) :
    Ends (renewElection cfg id wasRouter) c (fun _ => Safe cfg) (Safe cfg) := by
  have forgotten : Safe cfg (if c.dr = id then { c with dr := noNode }
      else c) := by
    split <;> exact safe
  unfold renewElection
  rw [ends_bind, ends_modify]
  split
  · refine (calcDr_safe _).seq fun _ c' safe => ?_
    cases acting : c'.isdr with
    | true => exact safe_of_unrivalled sendHello_apart.keeps (safe acting)
    | false =>
      have notActing : Keeps (Acting false) (sendHello cfg) := sendHello_acting
      exact (notActing.ends acting).mono fun _ => Acting.safe
  · exact forgotten

/-- The handling of a router hello gets to the election: the listen timer fits
the wheel and, if the hello brings the router up, the calls it makes return. -/
def Goes (cfg : LanConfig) (out : Outside) (rh : RouterHello) (a : LanEntry) : Prop :=
  Listens cfg rh.timer a ∧ (Lists cfg rh → a.state ≠ .up →
    ((∃ l ∈ a.adj, l.up) ∨ out .adjUp) ∧ out .adjacencyUpEvent)

theorem adjacencyUp_returns (out : Outside) (id : Nodeid) (a : LanEntry)
    (l : Listener) (s : LanStation) {returns : Prop} (exactly : returns ↔ ((a.adj.getD l).up ∨
      TimerWheel.Spans (a.adj.getD l).t4 ∧ out .adjUp) ∧ out .adjacencyUpEvent) :
    Ends (adjacencyUp out id a l) s (fun _ _ => returns) (fun _ => ¬ returns) := by
  rw [exactly]
  unfold adjacencyUp
  simp only [up, ends_bind, ends_store, ends_ite,
    ends_startTimer, ends_callRouter, ends_callOutside]
  split_ifs with wasUp event spans router event'
  · exact ⟨.inl wasUp, event⟩
  · exact fun both => event both.2
  · exact ⟨.inr ⟨spans, router⟩, event'⟩
  · exact fun both => event' both.2
  · exact fun both => both.1.elim wasUp fun calls => router calls.2
  · exact fun both => both.1.elim wasUp fun calls => spans calls.1

theorem hello_goes (cfg : LanConfig) (out : Outside) (rh : RouterHello)
    (src address : Nat) (a : LanEntry) (s : LanStation) :
    Ends (do
        let a ← store rh.id (heardRouter cfg rh src address a)
        let a ← alive rh.id a (a.adj.getD (listener cfg rh.id a.ntype rh.timer address))
        confirm cfg out rh address a) s
      (fun _ _ => Goes cfg out rh a) (fun _ => ¬ Goes cfg out rh a) := by
  have t4 := getD_listener_t4 cfg rh.id (ntypeOf rh) rh.timer address a
  have isUp : (a.adj.getD (listener cfg rh.id (ntypeOf rh) rh.timer
      address)).up = true ↔ ∃ l ∈ a.adj, l.up := by
    cases a.adj <;> simp [listener]
  simp only [ends_bind, ends_store, ends_alive, heardRouter, Option.getD_some, t4]
  by_cases listens : TimerWheel.Spans (listenBase cfg rh.timer a * 2100)
  · rw [if_pos listens]
    unfold confirm
    by_cases confirmed : rh.routers.contains cfg.parent.nodeid ∧ a.state ≠ .up
    · rw [if_pos confirmed]
      apply adjacencyUp_returns
      have spans : TimerWheel.Spans (a.adj.getD (listener cfg rh.id
          (ntypeOf rh) rh.timer address)).t4 := t4 ▸ listens
      constructor
      · rintro ⟨_, goes⟩
        have calls := goes confirmed.1 confirmed.2
        exact ⟨calls.1.imp isUp.mpr fun router => ⟨spans, router⟩, calls.2⟩
      · rintro ⟨calls, event⟩
        exact ⟨listens, fun _ _ => ⟨calls.imp isUp.mp And.right, event⟩⟩
    · rw [if_neg confirmed]
      exact ⟨listens, fun listed notUp => absurd ⟨listed, notUp⟩ confirmed⟩
  · rw [if_neg listens]
    exact fun goes => listens goes.1

variable {t' : LanTable} {id : Nodeid}

theorem routerHello_election (out : Outside) {c : RoutingLanCircuit}
    {rh : RouterHello} {src address : Nat} (accepted : accepts cfg rh) :
    Goes cfg out rh (entryOf rh.id c.station.adjacencies) ∧
        Safe cfg (step cfg c (.routerHello rh src address, out)) ∨
      ¬ Goes cfg out rh (entryOf rh.id c.station.adjacencies) ∧
        Acting c.isdr (step cfg c (.routerHello rh src address, out)) ∧
        Entered rh.id (afterRouterHello cfg rh src address
          (entryOf rh.id c.station.adjacencies)) c.station.adjacencies (step cfg c
            (.routerHello rh src address, out)).station.adjacencies := by
  apply (@after_iff_ends _ _ _ (fun c' : RoutingLanCircuit =>
    Goes cfg out rh (entryOf rh.id c.station.adjacencies) ∧ Safe cfg c' ∨
      ¬ Goes cfg out rh (entryOf rh.id c.station.adjacencies) ∧
        Acting c.isdr c' ∧ Entered rh.id (afterRouterHello cfg rh src address
          (entryOf rh.id c.station.adjacencies)) c.station.adjacencies c'.station.adjacencies)
    (dispatch cfg out (.routerHello rh src address)) c).mpr
  simp only [dispatch, routerHello, accepted, if_true]
  rw [ends_bind, ends_get, ends_bind, ends_base]
  apply Ends.imp ((hello_goes cfg out rh src address _ _).and
    (hello_leaves cfg out rh src address _))
  · rintro _ s ⟨goes, _⟩
    exact (calcDr_safe { c with station := s }).mono fun _ safe => .inl ⟨goes, safe⟩
  · rintro s ⟨stops, entered⟩
    exact .inr ⟨stops, rfl, entered⟩

/-- While this node is designated router, the handling of a hello from a better
one gets to the election. -/
def Steady (cfg : LanConfig) (c : RoutingLanCircuit) :
    LanEvent × Outside → Prop
  | (.routerHello rh _ _, out) =>
    accepts cfg rh → c.isdr = true → rh.id.area = cfg.parent.homearea →
      betterDr rh.prio rh.id cfg.prio cfg.parent.nodeid →
      Goes cfg out rh (entryOf rh.id c.station.adjacencies)
  | _ => True

theorem steady_iff_routerHello {c : RoutingLanCircuit} (safe : Safe cfg c)
    (rh : RouterHello) (src address : Nat) (out : Outside) :
    Steady cfg c (.routerHello rh src address, out) ↔
      Safe cfg (step cfg c (.routerHello rh src address, out)) := by
  by_cases accepted : accepts cfg rh
  · rcases @routerHello_election cfg out c rh src address accepted with
      ⟨goes, safe'⟩ | ⟨stops, acting, entered⟩
    · exact iff_of_true (fun _ _ _ _ => goes) safe'
    · constructor
      · intro steady isdr
        have wasActing : c.isdr = true := acting.symm.trans isdr
        apply entered.forall_known (safe wasActing)
        rintro ⟨_, inArea, better⟩
        exact stops (steady accepted wasActing inArea better)
      · intro safe' _ wasActing inArea better
        have unrivalled := safe' (acting.trans wasActing)
        exact absurd ⟨ntypeOf_ne_endnode rh, inArea, better⟩ (unrivalled rh.id _ entered.found)
  · have ignored : step cfg c (.routerHello rh src address, out) = c := by
      simp only [step, dispatch, routerHello, accepted]
      rfl
    rw [ignored]
    exact iff_of_true (fun isAccepted => absurd isAccepted accepted) safe

theorem safe_base {x : StationM Unit} {c : RoutingLanCircuit}
    {change : LanTable → Prop} (safe : Safe cfg c) (leaves : Leaves x c.station change)
    (kept : ∀ t', Unrivalled cfg c.station.adjacencies → change t' →
      Unrivalled cfg t') : Ends (base x) c (fun _ => Safe cfg) (Safe cfg) := by
  rw [ends_base]
  exact Ends.mono leaves fun s changed acting => kept _ (safe acting) changed

theorem listenTimeout_safe (out : Outside) {c : RoutingLanCircuit}
    {a : LanEntry} {l : Listener} (safe : Safe cfg c)
    (found : c.station.adjacencies.find id = some a) (has : a.adj = some l) :
    Ends (listenTimeout cfg out id a l) c (fun _ => Safe cfg) (Safe cfg) := by
  refine (safe_base safe (expire_leaves out found has) fun _ unrivalled quiet =>
    forall_known_dropped unrivalled (.inr quiet)).seq fun _ c' safe' => ?_
  unfold adjacencyDown
  rw [ends_bind, ends_get]
  split
  · exact safe'
  · exact (safe_base safe' (adjacencyDown_leaves out id) fun _ => forall_known_dropped).seq
      fun _ _ => renewElection_safe id _

theorem announce_acting : Keeps (Acting isdr) (announce cfg) := by
  apply Keeps.bind
  · exact sendHello_acting
  · intro _
    apply Keeps.bind
    · exact base_acting
    · exact fun _ => base_acting

theorem safe_of_acting {c : RoutingLanCircuit} {event : LanEvent}
    {out : Outside} (safe : Safe cfg c) (keeps : Keeps (Acting c.isdr) (dispatch cfg out event))
    (noRouter : ∀ rh src address, event ≠ .routerHello rh src address) :
    Safe cfg (step cfg c (event, out)) := by
  intro acting id b isKnown
  have wasActing : c.isdr = true := (keeps c rfl).symm.trans acting
  cases origin (step_table out c event) isKnown with
  | router item => exact absurd item (noRouter _ _ _)
  | endnode item inArea notUp sender entered =>
    intro outranks
    exact outranks.1 (entered ▸ rfl)
  | before wasKnown => exact safe wasActing id b wasKnown

theorem steady_iff {c : RoutingLanCircuit} (safe : Safe cfg c) (work : LanEvent × Outside) :
    Steady cfg c work ↔ Safe cfg (step cfg c work) := by
  obtain ⟨event, out⟩ := work
  cases event with
  | routerHello rh src address =>
    exact steady_iff_routerHello safe rh src address out
  | endnodeHello | routing | data =>
    exact iff_of_true trivial (safe_of_acting safe base_acting nofun)
  | helloTimeout =>
    refine iff_of_true trivial (safe_of_acting safe ?_ nofun)
    apply Keeps.get_bind
    intro c
    split
    · exact base_acting.bind fun _ => announce_acting
    · exact keeps_pure _
  | listenTimeout id =>
    refine iff_of_true trivial ?_
    apply (after_iff_ends (dispatch cfg out (.listenTimeout id)) c).mpr
    unfold dispatch
    rw [ends_bind, ends_get]
    exact ends_expiry safe (listenTimeout_safe out safe)
  | drTimeout =>
    refine iff_of_true trivial ?_
    apply (after_iff_ends (dispatch cfg out .drTimeout) c).mpr
    unfold dispatch
    rw [ends_bind, ends_get]
    split
    · exact becomeDr_safe c
    · exact safe

theorem safe_start (cfg : LanConfig) : Safe cfg (start cfg) := by
  apply (after_iff_ends (do announce cfg; calcDr cfg) new).mpr
  rw [ends_bind]
  have acting : Keeps (Acting false) (announce cfg) := announce_acting
  have isNot : Acting false new := rfl
  apply (acting.ends isNot).imp
  · exact fun _ c _ => calcDr_safe c
  · exact fun _ notActing => notActing.safe

/-! ## The routers of one area -/

theorem betterDr_iff {prioA prioB : Nat} {a b : Nodeid} :
    betterDr prioA a prioB b = true ↔ prioB < prioA ∨ prioA = prioB ∧ b.value < a.value := by
  unfold betterDr
  split
  case isTrue differ => simp [differ]
  case isFalse same => simp [not_not.mp same]

theorem betterDr_total {prioA prioB : Nat} {a b : Nodeid} (differ : a ≠ b) :
    betterDr prioA a prioB b ∨ betterDr prioB b prioA a := by
  rw [betterDr_iff, betterDr_iff]
  have values : a.value ≠ b.value := fun same => differ (value_injective same)
  omega

/-- Routers of one area, each with all the others in its table with the
priorities they have. -/
structure Acquainted {ι : Type} (cfg : ι → LanConfig) (c : ι → RoutingLanCircuit) : Prop where
  differ : ∀ {i j}, i ≠ j → (cfg i).parent.nodeid ≠ (cfg j).parent.nodeid
  oneArea : ∀ i j, (cfg i).parent.nodeid.area = (cfg j).parent.homearea
  listed : ∀ {i j}, i ≠ j → ∃ b, known (c i).station.adjacencies (cfg j).parent.nodeid = some b ∧
      b.ntype ≠ .endnode ∧ b.prio = (cfg j).prio

/-- Of routers that know each other at most one acts. -/
theorem Acquainted.unique {ι : Type} {cfg : ι → LanConfig}
    {c : ι → RoutingLanCircuit} (acquainted : Acquainted cfg c)
    (safe : ∀ i, Safe (cfg i) (c i)) {i j : ι} (actingI : (c i).isdr = true)
    (actingJ : (c j).isdr = true) : i = j := by
  have unrivalled {i j : ι} (differ : i ≠ j) (acting : (c i).isdr = true) :
      ¬ betterDr (cfg j).prio (cfg j).parent.nodeid (cfg i).prio (cfg i).parent.nodeid := by
    intro better
    obtain ⟨b, listed, router, prio⟩ := acquainted.listed differ
    rw [← prio] at better
    exact safe i acting _ b listed ⟨router, acquainted.oneArea j i, better⟩
  by_contra differ
  rcases betterDr_total (acquainted.differ differ) with better | better
  · exact unrivalled (Ne.symm differ) actingJ better
  · exact unrivalled differ actingI better

def pairConfig (second : Bool) : LanConfig :=
  LanConfig.new ⟨make 1 (if second then 2 else 1), .l1router, 1023, 63⟩
    (Circuit.new 0 true 4) 10 64

def pairWork (second : Bool) : List (LanEvent × Outside) :=
  [(.routerHello ⟨make 1 (if second then 1 else 2), false, 64, 10,
      [make 1 (if second then 2 else 1)]⟩ 2 1, fun _ => true), (.drTimeout, fun _ => true)]

/-- A router acts as designated router only while nobody in its table outranks
it, exactly when the handling of a better router's hello gets to the election;
and then of routers that know each other at most one acts. -/
theorem designated_router {ι : Type} (cfg : ι → LanConfig) (work : ι → List (LanEvent × Outside)) :
    (∀ i, Run.Always (step (cfg i)) (Safe (cfg i)) (start (cfg i)) (work i) ↔
      Run.Guarded (step (cfg i)) (Steady (cfg i)) (start (cfg i)) (work i)) ∧
    ((∀ i, Run.Guarded (step (cfg i)) (Steady (cfg i)) (start (cfg i)) (work i)) →
      Acquainted cfg (fun i => run (cfg i) (work i)) → ∀ i j, (run (cfg i) (work i)).isdr = true →
        (run (cfg j) (work j)).isdr = true → i = j) := by
  have exactly (i : ι) (c : RoutingLanCircuit) (item : LanEvent × Outside)
      (safe : Safe (cfg i) c) := steady_iff safe item
  constructor
  · intro i
    exact Run.always_iff_guarded_of_iff (exactly i) (work i) (safe_start (cfg i))
  · intro guarded acquainted i j
    apply acquainted.unique
    intro i
    have kept (c : RoutingLanCircuit) (item : LanEvent × Outside)
        (safe : Safe (cfg i) c) := (exactly i c item safe).mp
    exact (guarded i).invariant kept (safe_start (cfg i))

/-- Router 1.1 and a router 1.2 of the same priority hear each other; then the
election timers of both expire, and 1.2 alone acts. -/
theorem designated_router_pair :
    (∀ i j, (run (pairConfig i) (pairWork i)).isdr = true →
        (run (pairConfig j) (pairWork j)).isdr = true → i = j) ∧
      (run (pairConfig true) (pairWork true)).isdr = true := by
  refine ⟨(designated_router pairConfig pairWork).2 ?_ ?_, by decide +kernel⟩
  · intro i
    cases i <;> refine ⟨?_, trivial, trivial⟩ <;>
      exact fun _ acting => absurd acting (by decide +kernel)
  · refine ⟨?_, by decide, ?_⟩
    · intro i j differ
      cases i <;> cases j <;> first | exact absurd rfl differ | decide
    · intro i j differ
      cases i <;> cases j
      case false.false => exact absurd rfl differ
      case true.true => exact absurd rfl differ
      case false.true =>
        exact ⟨⟨some ⟨1, make 1 2, .l1router, Circuit.new 0 true 4⟩, 2,
          .up, 64, .l1router, 310⟩, by decide +kernel, nofun, rfl⟩
      case true.false =>
        exact ⟨⟨some ⟨1, make 1 1, .l1router, Circuit.new 0 true 4⟩, 2,
          .up, 64, .l1router, 310⟩, by decide +kernel, nofun, rfl⟩

/-- Router 1.1 acts when 1.2, of a higher priority, announces a hello timer
that the wheel does not span: 1.1 enters 1.2 in its table and goes on acting. -/
theorem long_timer_keeps_dr :
    ¬ Safe lanConfig (run lanConfig [(.drTimeout, fun _ => true),
      (.routerHello ⟨make 1 2, false, 100, 2000, []⟩ 2 1, fun _ => true)]) := by
  intro safe
  have better : known (run lanConfig [(.drTimeout, fun _ => true),
      (.routerHello ⟨make 1 2, false, 100, 2000, []⟩ 2 1,
        fun _ => true)]).station.adjacencies (make 1 2) =
      some ⟨some ⟨1, make 1 2, .l1router, Circuit.new 0 true 4⟩, 2,
        .init, 100, .l1router, 62000⟩ := by
    decide +kernel
  exact safe (by decide +kernel) _ _ better ⟨nofun, rfl, rfl⟩

end RoutingLanCircuit

end Decnet.Routing
