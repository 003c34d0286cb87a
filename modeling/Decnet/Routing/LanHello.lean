import Mathlib.Data.List.TakeDrop
import Decnet.Routing.LanUpkeep

/-!
# The hello of a router

The router list of a hello has an entry for every router in the table, of seven
bytes and with seven bits for the priority, and the hello has room for 236 bytes
of them.  What a neighbour announces can make the hello impossible to build; the
hello timer is then not started again.
-/

namespace Decnet.Routing

open Throwing Reading LanEntry TimerWheel List

/-! ## When it can be built -/

def rsent (entry : Nodeid × LanEntry) : List UInt8 :=
  HIORD ++ (putUint entry.1.value 2 ++
    putUint (entry.2.prio + 128 * (decide (entry.2.state = .up)).toNat) 1)

theorem rsent_length (entry : Nodeid × LanEntry) : (rsent entry).length = 7 := by
  simp [rsent, HIORD]

theorem flatten_rsent_length (entries : List (Nodeid × LanEntry)) :
    (entries.map rsent).flatten.length = 7 * entries.length := by
  induction entries with
  | nil => rfl
  | cons entry entries induction =>
    rw [map_cons, flatten_cons, length_append, rsent_length, length_cons]
    omega

theorem encodeEntry_of_lt {entry : Nodeid × LanEntry}
    (low : entry.2.prio < 128) : encodeEntry entry = .ok (rsent entry) :=
  if_neg (Nat.not_le.mpr low)

theorem mapM_encodeEntry {entries : List (Nodeid × LanEntry)}
    (low : ∀ entry ∈ entries, entry.2.prio < 128) :
    entries.mapM encodeEntry = .ok (entries.map rsent) := by
  induction entries with
  | nil => rfl
  | cons entry entries induction =>
    have rest := induction fun other member => low other (mem_cons_of_mem _ member)
    rw [mapM_cons, encodeEntry_of_lt (low entry mem_cons_self), rest]
    rfl

theorem low_of_mapM {entries : List (Nodeid × LanEntry)} {encoded : List (List UInt8)}
    (returned : entries.mapM encodeEntry = .ok encoded) :
    ∀ entry ∈ entries, entry.2.prio < 128 := by
  induction entries generalizing encoded with
  | nil => nofun
  | cons entry entries induction =>
    rw [mapM_cons] at returned
    by_cases first : 128 ≤ entry.2.prio
    · have thrown : encodeEntry entry = .error (.fieldOverflow
          s!"field 'prio' value {entry.2.prio} too large for 7 bits") := if_pos first
      rw [thrown] at returned
      cases returned
    · rw [encodeEntry_of_lt (Nat.not_le.mp first)] at returned
      cases rest : entries.mapM encodeEntry with
      | error e =>
        rw [rest] at returned
        cases returned
      | ok tail =>
        intro other member
        rcases mem_cons.mp member with rfl | later
        · exact Nat.not_le.mp first
        · exact induction rest other later

/-- At most 33 routers, each with a priority of seven bits. -/
structure HelloFits (t : LanTable) : Prop where
  few : t.count LanEntry.isRouter ≤ 33
  low : ∀ id b, known t id = some b → b.ntype ≠ .endnode → b.prio < 128

/-- The hello can be encoded, and fits an Ethernet frame. -/
def Buildable (cfg : LanConfig) (t : LanTable) : Prop :=
  ∃ frame, helloFrame cfg t = .ok frame ∧ frame.length ≤ 1500

theorem fits_iff (t : LanTable) :
    HelloFits t ↔ (t.entries.filter (·.2.isRouter)).length ≤ 33 ∧
      ∀ entry ∈ t.entries.filter (·.2.isRouter), entry.2.prio < 128 := by
  constructor
  · rintro ⟨few, low⟩
    refine ⟨by rwa [← countP_eq_length_filter], ?_⟩
    rintro ⟨id, a⟩ member
    obtain ⟨inTable, isRouter⟩ := mem_filter.mp member
    apply low id a.forget
    · rw [known, Table.find_eq_some.mpr inTable]
      rfl
    · exact of_decide_eq_true isRouter
  · rintro ⟨few, low⟩
    refine ⟨by rwa [← countP_eq_length_filter] at few, ?_⟩
    intro id b isKnown isRouter
    obtain ⟨a, found, rfl⟩ := Option.map_eq_some_iff.mp isKnown
    exact low (id, a) (mem_filter.mpr ⟨Table.find_eq_some.mp found, decide_eq_true isRouter⟩)

theorem buildElist_of_low {t : LanTable}
    (low : ∀ entry ∈ t.entries.filter (·.2.isRouter), entry.2.prio < 128) :
    buildElist t = encodeElist ((t.entries.filter (·.2.isRouter)).map rsent).flatten := by
  unfold buildElist
  rw [mapM_encodeEntry low]
  rfl

def elistBytes (rslist : List UInt8) : List UInt8 :=
  replicate 7 0 ++ (putUint rslist.length 1 ++ rslist)

theorem encodeRouterHello_of_le (cfg : LanConfig) {elist : List UInt8} (fits : elist.length ≤ 244) :
    ∃ frame, encodeRouterHello cfg elist = .ok frame ∧ frame.length = elist.length + 19 := by
  refine ⟨_, if_neg (Nat.not_lt.mpr fits), ?_⟩
  simp [HIORD]
  omega

theorem buildable_iff (cfg : LanConfig) (t : LanTable) : Buildable cfg t ↔ HelloFits t := by
  rw [fits_iff]
  have length := flatten_rsent_length (t.entries.filter (·.2.isRouter))
  constructor
  · rintro ⟨frame, built, _⟩
    unfold helloFrame at built
    cases list : buildElist t with
    | error e =>
      rw [list] at built
      cases built
    | ok elist =>
      cases parts : (t.entries.filter (·.2.isRouter)).mapM encodeEntry with
      | error e =>
        unfold buildElist at list
        rw [parts] at list
        cases list
      | ok encoded =>
        have low := low_of_mapM parts
        refine ⟨?_, low⟩
        rw [buildElist_of_low low] at list
        unfold encodeElist at list
        split at list
        · cases list
        · omega
  · rintro ⟨few, low⟩
    have elist := buildElist_of_low low
    generalize ((t.entries.filter (·.2.isRouter)).map rsent).flatten = rslist at length elist
    have encoded : encodeElist rslist = .ok (elistBytes rslist) := if_neg (by omega)
    have size : (elistBytes rslist).length = rslist.length + 8 := by
      simp [elistBytes]
      omega
    obtain ⟨frame, made, frameSize⟩ :=
      encodeRouterHello_of_le cfg (show (elistBytes rslist).length ≤ 244 by
        omega)
    refine ⟨frame, ?_, by omega⟩
    rw [helloFrame, elist, encoded]
    exact made

/-! ## What the neighbours may announce -/

namespace RoutingLanCircuit

variable {cfg : LanConfig} {t t' : LanTable} {id : Nodeid}

/-- A router hello announces a priority of seven bits, and a router that is new
to the table is not the 34th. -/
def Bearable (cfg : LanConfig) (t : LanTable) : LanEvent → Prop
  | .routerHello rh _ _ => accepts cfg rh → rh.prio < 128 ∧
      ((entryOf rh.id t).ntype = .endnode → t.count LanEntry.isRouter < 33)
  | _ => True

theorem weight_find (id : Nodeid) (t : LanTable) :
    Table.weight isRouter (t.find id) =
      if (entryOf id t).ntype = .endnode then 0 else 1 := by
  unfold entryOf Table.weight
  cases t.find id with
  | none => rfl
  | some a =>
    by_cases endnode : a.ntype = .endnode
    · simp [isRouter]
    · simp [isRouter]

theorem count_entered {b : LanAdjacency} (change : Entered id b t t') :
    t'.count isRouter + (if (entryOf id t).ntype = .endnode then 0 else 1) =
      t.count isRouter + if b.ntype = .endnode then 0 else 1 := by
  obtain ⟨a', rfl, rfl⟩ := change
  have counted := Table.count_put Nodeid.value_injective id a' isRouter t
  rw [weight_find] at counted
  rw [counted]
  by_cases endnode : a'.ntype = .endnode
  · simp [Table.weight, isRouter, forget, endnode]
  · simp [Table.weight, isRouter, forget, endnode]

theorem count_quiet (quiet : Quiet id t t') : t'.count isRouter = t.count isRouter := by
  cases quiet with
  | same => rfl
  | timer found kept =>
    have counted := @count_entered t _ id _ ⟨_, rfl, kept⟩
    rw [entryOf, found] at counted
    exact Nat.add_right_cancel counted

section

variable (fits : HelloFits t)

include fits

theorem fits_routerHello {rh : RouterHello} {src address : Nat} (change : Entered rh.id
      (afterRouterHello cfg rh src address (entryOf rh.id t)) t t') :
    HelloFits t' ↔ rh.prio < 128 ∧ ((entryOf rh.id t).ntype = .endnode →
      t.count isRouter < 33) := by
  have counted := count_entered change
  have isRouter : (afterRouterHello cfg rh src address
      (entryOf rh.id t)).ntype ≠ .endnode := ntypeOf_ne_endnode rh
  have few := fits.few
  rw [if_neg isRouter] at counted
  constructor
  · intro fits'
    have few' := fits'.few
    refine ⟨fits'.low _ _ change.found isRouter, ?_⟩
    intro wasEndnode
    rw [if_pos wasEndnode] at counted
    omega
  · rintro ⟨low, room⟩
    refine ⟨?_, change.forall_known fits.low fun _ => low⟩
    split at counted
    case isTrue wasEndnode =>
      have := room wasEndnode
      omega
    case isFalse => omega

theorem fits_dropped (dropped : t' = t.erase id ∨ Quiet id t t') : HelloFits t' := by
  refine ⟨?_, forall_known_dropped fits.low dropped⟩
  rcases dropped with rfl | quiet
  · exact (Table.count_erase_le id _ t).trans fits.few
  · exact count_quiet quiet ▸ fits.few

theorem fits_after_iff {event : LanEvent} (after : TableAfter cfg t event t') :
    HelloFits t' ↔ Bearable cfg t event := by
  cases event with
  | routerHello rh src address =>
    simp only [TableAfter] at after
    split at after
    case isTrue accepted =>
      rw [fits_routerHello fits after]
      exact ⟨fun both _ => both, fun both => both accepted⟩
    case isFalse ignored =>
      subst after
      exact iff_of_true fits fun accepted => absurd accepted ignored
  | endnodeHello eh src address =>
    refine iff_of_true ?_ trivial
    simp only [TableAfter] at after
    split at after
    · have counted := count_entered after
      have few := fits.few
      refine ⟨?_, after.forall_known fits.low fun router => absurd rfl router⟩
      rw [if_pos (show (afterEndnodeHello cfg eh src address
        (entryOf eh.id t)).ntype = .endnode from rfl)] at counted
      omega
    · exact fits_dropped fits (.inr after)
  | routing | data => exact iff_of_true (fits_dropped fits (.inr after)) trivial
  | listenTimeout id => exact iff_of_true (fits_dropped fits after) trivial
  | helloTimeout | drTimeout => exact iff_of_true (after.symm ▸ fits) trivial

end

end RoutingLanCircuit

/-! ## The hello timer -/

def LanStation.Ticking (armed : Bool) (s : LanStation) : Prop :=
  s.helloArmed = armed

namespace RoutingLanCircuit

open LanStation

variable {cfg : LanConfig} {armed : Bool} {out : Outside}

variable {c : RoutingLanCircuit}

def Announcing (armed : Bool) (c : RoutingLanCircuit) : Prop :=
  Ticking armed c.station

/-- The hello timer stays as it is, whatever becomes of the neighbours. -/
def ticking (armed : Bool) : Upkeep where
  entry _ := True
  fresh _ := True
  hello now := now = armed
  allowed _ := True

theorem ticking_lawful (armed : Bool) : (ticking armed).Lawful := by
  constructor <;> intros <;> trivial

theorem dispatch_keeps {event : LanEvent} (other : event ≠ .helloTimeout)
    (announcing : Announcing armed c) : Announcing armed (step cfg c (event, out)) := by
  have hears : (ticking armed).Hears cfg event := by
    cases event with
    | routerHello | endnodeHello => exact fun _ => trivial
    | _ => trivial
  have serves : (ticking armed).LanServes (dispatch cfg out event) :=
    (ticking_lawful armed).dispatch (fun _ _ _ => trivial) hears fun hello => absurd hello other
  exact (serves.keeps c ⟨announcing, fun _ _ _ => trivial⟩).hello

/-- The hello timer is started again exactly when its interval fits the
wheel. -/
theorem announce_ends (buildable : Buildable cfg c.station.adjacencies) :
    Ends (announce cfg) c (fun _ c' => Spans (cfg.t3 * 1000) ∧ Announcing true c')
      (fun c' => ¬ Spans (cfg.t3 * 1000) ∧ Announcing c.station.helloArmed c') := by
  obtain ⟨frame, built, _⟩ := buildable
  unfold announce sendHello
  rw [ends_bind, ends_bind, ends_get]
  simp only [built, ends_base, ends_modify, ends_bind, ends_startTimer]
  split
  case isTrue spans => exact ⟨spans, rfl⟩
  case isFalse notSpans => exact ⟨notSpans, rfl⟩

/-- The hello can be built, and the timer for the next one runs. -/
structure Speaks (cfg : LanConfig) (c : RoutingLanCircuit) : Prop where
  buildable : Buildable cfg c.station.adjacencies
  armed : Announcing true c

theorem announcing_step (speaks : Speaks cfg c)
    (spans : Spans (cfg.t3 * 1000)) (work : LanEvent × Outside) :
    Announcing true (step cfg c work) := by
  obtain ⟨event, out⟩ := work
  by_cases hello : event = .helloTimeout
  · subst hello
    apply (after_iff_ends (dispatch cfg out .helloTimeout) c).mpr
    have armed : c.station.helloArmed = true := speaks.armed
    simp only [dispatch, ends_bind, ends_get, armed]
    have announced := @announce_ends cfg { c with
      station := { c.station with helloArmed := false } } speaks.buildable
    apply announced.imp
    · exact fun _ _ ended => ended.2
    · exact fun _ ended => absurd spans ended.1
  · exact dispatch_keeps hello speaks.armed

theorem speaks_step_iff (speaks : Speaks cfg c)
    (spans : Spans (cfg.t3 * 1000)) (work : LanEvent × Outside) :
    Bearable cfg c.station.adjacencies work.1 ↔ Speaks cfg (step cfg c work) := by
  have fits := (buildable_iff cfg _).mp speaks.buildable
  rw [← fits_after_iff fits (step_table work.2 c work.1), ← buildable_iff cfg]
  exact ⟨fun buildable => ⟨buildable, announcing_step speaks spans work⟩, Speaks.buildable⟩

theorem buildable_empty (cfg : LanConfig) : Buildable cfg .empty :=
  (buildable_iff cfg _).mpr ⟨Nat.zero_le _, nofun⟩

theorem announcing_start (cfg : LanConfig) :
    Announcing (decide (Spans (cfg.t3 * 1000))) (start cfg) := by
  apply (after_iff_ends (do announce cfg; calcDr cfg) new).mpr
  rw [ends_bind]
  apply (announce_ends (buildable_empty cfg)).imp
  · rintro _ c ⟨spans, announcing⟩
    rw [decide_eq_true spans, ← announcing]
    exact (calcDr_apart.keeps.ends ⟨rfl, rfl, rfl⟩).mono fun _ apart => apart.2.1
  · rintro c ⟨notSpans, announcing⟩
    rw [decide_eq_false notSpans]
    exact announcing

/-- A router goes on sending hellos exactly when the hello timer can run and
the neighbours announce what the hello has room for. -/
theorem speaks_iff (cfg : LanConfig) (work : List (LanEvent × Outside)) :
    Run.Always (step cfg) (Speaks cfg) (start cfg) work ↔ TimerWheel.Spans (cfg.t3 * 1000) ∧
        Run.Guarded (step cfg) (fun c item => Bearable cfg c.station.adjacencies item.1)
          (start cfg) work := by
  have started := announcing_start cfg
  by_cases spans : Spans (cfg.t3 * 1000)
  · rw [decide_eq_true spans] at started
    have speaks : Speaks cfg (start cfg) := ⟨start_table cfg ▸ buildable_empty cfg, started⟩
    have exactly (c : RoutingLanCircuit) (item : LanEvent × Outside)
        (speaks : Speaks cfg c) := speaks_step_iff speaks spans item
    rw [Run.always_iff_guarded_of_iff exactly work speaks]
    exact ⟨fun guarded => ⟨spans, guarded⟩, fun both => both.2⟩
  · rw [decide_eq_false spans] at started
    refine iff_of_false (fun always => ?_) fun both => spans both.1
    have armed := always.first.armed
    cases started.symm.trans armed

/-- Router 1.2 announces a priority of 128.  The next hello cannot be built,
and the hello timer stops. -/
theorem high_priority_silences :
    ¬ Speaks lanConfig (run lanConfig [(.routerHello ⟨Nodeid.make 1 2, false, 128, 10, []⟩ 2 1,
        fun _ => true), (.helloTimeout, fun _ => true)]) := by
  intro speaks
  have stopped : Announcing false (run lanConfig
      [(.routerHello ⟨Nodeid.make 1 2, false, 128, 10, []⟩ 2 1,
        fun _ => true), (.helloTimeout, fun _ => true)]) := by
    unfold Announcing LanStation.Ticking
    decide +kernel
  cases stopped.symm.trans speaks.armed

end RoutingLanCircuit

end Decnet.Routing
