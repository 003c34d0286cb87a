import Decnet.Routing.LanUpkeep

/-!
# The listen timers of a broadcast circuit

A hello renews the listen timer of its sender.  The interval belongs to the
adjacency, which takes it from the hello it was made for and the multiplier of
point to point circuits; the listen time that a router reports is that of the
latest hello and the multiplier of broadcast circuits.
-/

namespace Decnet.Routing

open Throwing LanEntry TimerWheel RoutingLanCircuit Nodeid

/-- The listen timer of the neighbour is armed for `BCT3MULT` times the hello
timer, and that is its listen time. -/
def TimedBy (timer : Nat) (id : Nodeid) (t : LanTable) : Prop :=
  ∃ a l, t.find id = some a ∧ a.adj = some l ∧ l.armed = true ∧
    l.t4 = timer * 3100 ∧ a.listenTime = timer * 31

/-- The listen interval of the adjacency is `BCT3MULT` times the hello timer,
and the wheel has room for it. -/
def Listener.Agrees (timer : Nat) (l : Listener) : Prop :=
  l.base * 21 = timer * 31 ∧ TimerWheel.Spans l.t4

instance (timer : Nat) (l : Listener) : Decidable (l.Agrees timer) :=
  inferInstanceAs (Decidable (_ ∧ _))

/-- What holds of an adjacency in a table: its interval is positive, it is
timed only if the wheel has room, and it is up only if its entry is. -/
structure LanEntry.Holds (a : LanEntry) (l : Listener) : Prop where
  positive : 0 < l.base
  spans : l.armed = true → TimerWheel.Spans l.t4
  isUp : l.up = true → a.state = .up

/-- `reported` is what is known of the listen times. -/
structure LanEntry.Regular (reported : Nat → Prop) (a : LanEntry) : Prop where
  listenTime : reported a.listenTime
  adj : ∀ l, a.adj = some l → a.Holds l

/-- An adjacency as one is made. -/
structure Listener.Fresh (l : Listener) : Prop where
  positive : 0 < l.base
  idle : l.armed = false
  down : l.up = false

theorem LanStation.listener_fresh {cfg : LanConfig} (positive : 0 < cfg.t3)
    (id : Nodeid) (ntype : Ntype) (timer address : Nat) :
    (listener cfg id ntype timer address).Fresh where
  positive := by
    unfold listener
    dsimp only
    split
    · exact positive
    · omega
  idle := rfl
  down := rfl

theorem LanEntry.Regular.getD {reported : Nat → Prop} {a : LanEntry}
    {l : Listener} (entry : a.Regular reported) (fresh : l.Fresh) : a.Holds (a.adj.getD l) := by
  cases has : a.adj with
  | none =>
    exact ⟨fresh.positive, fun armed => by simp [fresh.idle] at armed,
      fun up => by simp [fresh.down] at up⟩
  | some l' => exact entry.adj l' has

/-- What every operation keeps, wherever it is cut short. -/
def LanEntry.regular (reported : Nat → Prop) : Upkeep where
  entry := LanEntry.Regular reported
  fresh := Listener.Fresh
  hello _ := True
  allowed _ := True

theorem LanEntry.regular_lawful {reported : Nat → Prop}
    (unheard : reported 0) : (regular reported).Lawful where
  benign _ _ := trivial
  refused _ _ _ _ _ _ := trivial
  unheard := ⟨unheard, nofun⟩
  noted _ _ _ _ entry := ⟨entry.listenTime, fun l has => { entry.adj l has with }⟩
  promoted _ entry := ⟨entry.listenTime, fun l has => { entry.adj l has with isUp := fun _ => rfl }⟩
  made a l entry fresh := by
    refine ⟨entry.listenTime, ?_⟩
    rintro _ ⟨⟩
    exact { entry.getD fresh with }
  timed a l l' entry has base armed up := by
    have holds := entry.adj l has
    refine ⟨entry.listenTime, ?_⟩
    rintro _ ⟨⟩
    refine ⟨base ▸ holds.positive, fun isArmed => ?_, fun isUp => ?_⟩
    · have spans := (armed isArmed).elim holds.spans id
      unfold Listener.t4 at *
      rwa [base]
    · exact (up isUp).elim holds.isUp id

theorem LanEntry.regular_hears {reported : Nat → Prop} {cfg : LanConfig}
    (positive : 0 < cfg.t3) (event : LanEvent) : (regular reported).Hears cfg event := by
  cases event with
  | routerHello | endnodeHello =>
    exact fun ntype => LanStation.listener_fresh positive ..
  | _ => trivial

/-- The entry of `id` has the given listen time, and its adjacency has the given
multiple and is timed exactly if the wheel has room. -/
def Renewed (id : Nodeid) (base listenTime : Nat) (t : LanTable) : Prop :=
  ∃ a l, t.find id = some a ∧ a.adj = some l ∧ l.base = base ∧ a.listenTime = listenTime ∧
    (l.armed = true ↔ TimerWheel.Spans (base * 2100))

variable {id : Nodeid}

theorem Renewed.timedBy_iff {base listenTime timer : Nat}
    {t : LanTable} (renewed : Renewed id base listenTime t) :
    TimedBy timer id t ↔ (base * 21 = timer * 31 ∧ Spans (base * 2100)) ∧
        listenTime = timer * 31 := by
  obtain ⟨a, l, found, has, rfl, rfl, armed⟩ := renewed
  constructor
  · rintro ⟨a', l', found', has', isArmed, interval, reported⟩
    cases found.symm.trans found'
    cases has.symm.trans has'
    unfold Listener.t4 at interval
    exact ⟨⟨by omega, armed.mp isArmed⟩, reported⟩
  · rintro ⟨⟨agrees, spans⟩, reported⟩
    refine ⟨a, l, found, has, armed.mpr spans, ?_, reported⟩
    unfold Listener.t4
    omega

theorem LanStation.adjacencyUp_renews {s : LanStation} (out : Outside) {a : LanEntry} {l : Listener}
    (holds : a.Holds (a.adj.getD l)) (notUp : a.state ≠ .up) :
    Leaves (adjacencyUp out id a l) s (Renewed id (a.adj.getD l).base a.listenTime) := by
  have waits : ¬ (a.adj.getD l).up = true := fun isUp => notUp (holds.isUp isUp)
  simp only [Leaves, adjacencyUp, up, ends_bind, ends_store, ends_ite, ends_startTimer,
    ends_callRouter, ends_callOutside, Option.getD_some]
  rw [if_neg waits]
  by_cases spans : Spans (a.adj.getD l).t4
  · simp only [if_pos spans, ite_self]
    exact ⟨_, _, Table.find_put_self .., rfl, rfl, rfl, iff_of_true rfl spans⟩
  · rw [if_neg spans]
    refine ⟨_, _, Table.find_put_self .., rfl, rfl, rfl, ?_⟩
    exact iff_of_false (fun armed => spans (holds.spans armed)) spans

theorem LanStation.alive_renews {s : LanStation} {a : LanEntry}
    {l : Listener} (found : s.adjacencies.find id = some a)
    (has : a.adj = some l) (holds : a.Holds l) :
    Leaves (do let _ ← alive id a l) s (Renewed id l.base a.listenTime) := by
  simp only [Leaves, ends_bind, ends_alive]
  by_cases spans : Spans l.t4
  · rw [if_pos spans]
    exact ⟨_, _, Table.find_put_self .., rfl, rfl, rfl, iff_of_true rfl spans⟩
  · rw [if_neg spans]
    refine ⟨a, l, found, has, rfl, rfl, ?_⟩
    exact iff_of_false (fun armed => spans (holds.spans armed)) spans

namespace RoutingLanCircuit

open LanStation

variable {reported : Nat → Prop} {cfg : LanConfig}

abbrev Regular (c : RoutingLanCircuit) : Prop :=
  (LanEntry.regular fun _ => True).Holds c.station

theorem regular_run (positive : 0 < cfg.t3)
    (work : List (LanEvent × Outside)) : Regular (run cfg work) := by
  have lawful := @LanEntry.regular_lawful (fun _ => True) trivial
  have start : Regular (start cfg) := by
    refine ⟨trivial, fun id a found => ?_⟩
    rw [start_table] at found
    cases found
  refine Run.foldl_invariant (fun c item regular => ?_) work start
  refine (lawful.dispatch (fun a _ entry => ?_)
    (regular_hears positive item.1) fun _ => ?_).keeps c regular
  · exact ⟨trivial, fun l has => { entry.adj l has with }⟩
  · exact lawful.helloTimeout (fun _ => trivial) fun _ _ => trivial

variable {a : LanEntry} {s : LanStation}

/-- The interval of an adjacency made for the hello itself never agrees with its
timer. -/
theorem agrees_iff (positive : 0 < cfg.t3) (t : LanTable) (id : Nodeid) (timer : Nat) :
    (listenBase cfg timer (entryOf id t) * 21 = timer * 31 ∧
        Spans (listenBase cfg timer (entryOf id t) * 2100)) ↔
      ∃ a l, t.find id = some a ∧ a.adj = some l ∧ l.Agrees timer := by
  have made : ¬ (if timer = 0 then cfg.t3 else timer) * 21 = timer * 31 := by
    split <;> omega
  unfold entryOf
  cases found : t.find id with
  | none =>
    refine iff_of_false (fun agrees => made agrees.1) ?_
    rintro ⟨_, _, ⟨⟩, _⟩
  | some a =>
    rw [Option.getD_some]
    unfold listenBase
    cases has : a.adj with
    | none =>
      refine iff_of_false (fun agrees => made agrees.1) ?_
      rintro ⟨_, _, ⟨⟩, has', _⟩
      cases has.symm.trans has'
    | some l =>
      constructor
      · exact fun agrees => ⟨a, l, rfl, has, agrees⟩
      · rintro ⟨_, _, ⟨⟩, has', agrees⟩
        cases has.symm.trans has'
        exact agrees

theorem listenBase_eq (cfg : LanConfig) (id : Nodeid) (ntype : Ntype)
    (timer address : Nat) (a : LanEntry) :
    (a.adj.getD (listener cfg id ntype timer address)).base = listenBase cfg timer a := by
  unfold listenBase
  cases a.adj <;> rfl

/-- A router hello renews the listen timer of the adjacency there is, or of the
one that is made for it. -/
theorem hello_renews (positive : 0 < cfg.t3) (out : Outside)
    (rh : RouterHello) (src address : Nat) (entry : a.Regular fun _ => True) :
    Leaves (do
        let a ← store rh.id (heardRouter cfg rh src address a)
        let a ← alive rh.id a (a.adj.getD (listener cfg rh.id a.ntype rh.timer address))
        confirm cfg out rh address a) s
      (Renewed rh.id (listenBase cfg rh.timer a) (rh.timer * 31)) := by
  have holds := entry.getD (listener_fresh positive rh.id (ntypeOf rh) rh.timer address)
  have base := listenBase_eq cfg rh.id (ntypeOf rh) rh.timer address a
  have t4 := getD_listener_t4 cfg rh.id (ntypeOf rh) rh.timer address a
  simp only [Leaves, ends_bind, ends_store, ends_alive, heardRouter, Option.getD_some, t4]
  by_cases spans : Spans (listenBase cfg rh.timer a * 2100)
  · rw [if_pos spans]
    unfold confirm
    split
    case isTrue confirmed =>
      rw [← base]
      exact LanStation.adjacencyUp_renews out
        ⟨holds.positive, fun _ => t4 ▸ spans, holds.isUp⟩ confirmed.2
    case isFalse =>
      exact ⟨_, _, Table.find_put_self .., rfl, base, rfl, iff_of_true rfl spans⟩
  · rw [if_neg spans]
    refine ⟨_, _, Table.find_put_self .., rfl, base, rfl, ?_⟩
    exact iff_of_false (fun armed => spans (t4 ▸ holds.spans armed)) spans

theorem timedBy_routerHello_iff (positive : 0 < cfg.t3)
    {c : RoutingLanCircuit} (regular : Regular c) (out : Outside)
    {rh : RouterHello} (src address : Nat) (accepted : accepts cfg rh) :
    TimedBy rh.timer rh.id (step cfg c (.routerHello rh src address, out)).station.adjacencies ↔
      ∃ a l, c.station.adjacencies.find rh.id = some a ∧ a.adj = some l ∧ l.Agrees rh.timer := by
  have renewed : Renewed rh.id (listenBase cfg rh.timer (entryOf rh.id c.station.adjacencies))
      (rh.timer * 31) (step cfg c (.routerHello rh src address, out)).station.adjacencies := by
    apply (results_iff (routerHello cfg out rh src address) c _).mp
    unfold routerHello
    rw [if_pos accepted, Results, ends_bind, ends_get, ends_bind, ends_base]
    apply Ends.imp (hello_renews positive out rh src address
      (regular.entry (regular_lawful trivial) rh.id))
    · intro _ s renewed
      exact @results_of_keeps _ { c with station := s } (Renewed rh.id _ _)
        calcDr_apart.keeps renewed
    · exact fun _ renewed => renewed
  rw [renewed.timedBy_iff, and_iff_left rfl]
  exact agrees_iff positive _ rh.id rh.timer

theorem endnodeHello_renews (positive : 0 < cfg.t3) {eh : EndnodeHello}
    (entry : (entryOf eh.id s.adjacencies).Regular fun _ => True)
    (out : Outside) (src address : Nat) (inArea : eh.id.area = cfg.parent.homearea)
    (notUp : (entryOf eh.id s.adjacencies).state ≠ .up) :
    Leaves (endnodeHello cfg out eh src address) s
      (Renewed eh.id (listenBase cfg eh.timer (entryOf eh.id s.adjacencies)) (eh.timer * 31)) := by
  have holds := entry.getD (listener_fresh positive eh.id .endnode eh.timer address)
  unfold endnodeHello
  rw [if_pos inArea]
  change Ends (if (entryOf eh.id s.adjacencies).state = .up then _ else _)
    _ _ _
  rw [if_neg notUp, ← listenBase_eq cfg eh.id .endnode eh.timer address]
  refine LanStation.adjacencyUp_renews out ?_ notUp
  exact { holds with }

theorem timedBy_endnodeHello_iff (positive : 0 < cfg.t3)
    {c : RoutingLanCircuit} (regular : Regular c) (out : Outside)
    {eh : EndnodeHello} (src address : Nat) (inArea : eh.id.area = cfg.parent.homearea) :
    TimedBy eh.timer eh.id (step cfg c (.endnodeHello eh src address, out)).station.adjacencies ↔
      ∃ a l, c.station.adjacencies.find eh.id = some a ∧ a.adj = some l ∧ l.Agrees eh.timer ∧
        (a.state = .up → a.listenTime = eh.timer * 31) := by
  apply (results_iff (base (endnodeHello cfg out eh src address)) c
    fun t => TimedBy eh.timer eh.id t ↔ _).mp
  apply results_base
  by_cases isUp : (entryOf eh.id c.station.adjacencies).state = .up
  · cases found : c.station.adjacencies.find eh.id with
    | none =>
      rw [entryOf, found] at isUp
      cases isUp
    | some a =>
      rw [entryOf, found, Option.getD_some] at isUp
      unfold endnodeHello
      rw [if_pos inArea, Leaves, ends_bind, ends_get, found, Option.getD_some, if_pos isUp]
      split
      case h_1 unknown =>
        constructor
        · rintro ⟨a', l, found', has, _⟩
          cases found.symm.trans found'
          cases unknown.symm.trans has
        · rintro ⟨a', l, ⟨⟩, has, _⟩
          cases unknown.symm.trans has
      case h_2 l has =>
        -- The hello of an endnode that is up renews its listen timer alone.
        have renews := LanStation.alive_renews found has ((regular.entries eh.id a found).adj l has)
        have exactly (t : LanTable) (renewed : Renewed eh.id l.base a.listenTime t) :
            TimedBy eh.timer eh.id t ↔ ∃ a' l', some a = some a' ∧ a'.adj = some l' ∧
                l'.Agrees eh.timer ∧ (a'.state = .up → a'.listenTime = eh.timer * 31) := by
          rw [renewed.timedBy_iff]
          constructor
          · rintro ⟨agrees, reported⟩
            exact ⟨a, l, rfl, has, agrees, fun _ => reported⟩
          · rintro ⟨_, l', ⟨⟩, has', agrees, reported⟩
            cases has.symm.trans has'
            exact ⟨agrees, reported isUp⟩
        exact Ends.mono renews fun _ => exactly _
  · have exactly (t : LanTable) (renewed : Renewed eh.id
        (listenBase cfg eh.timer (entryOf eh.id c.station.adjacencies)) (eh.timer * 31) t) :
        TimedBy eh.timer eh.id t ↔ ∃ a l, c.station.adjacencies.find eh.id = some a ∧
            a.adj = some l ∧ l.Agrees eh.timer ∧
            (a.state = .up → a.listenTime = eh.timer * 31) := by
      rw [renewed.timedBy_iff, and_iff_left rfl, agrees_iff positive]
      constructor
      · rintro ⟨a, l, found, has, agrees⟩
        rw [entryOf, found] at isUp
        exact ⟨a, l, found, has, agrees, fun up => absurd up isUp⟩
      · rintro ⟨a, l, found, has, agrees, _⟩
        exact ⟨a, l, found, has, agrees⟩
    have entry := regular.entry (regular_lawful trivial) eh.id
    exact Ends.mono (endnodeHello_renews positive entry out src address inArea isUp) fun _ =>
      exactly _

end RoutingLanCircuit

namespace EndnodeLanCircuit

open LanStation

variable {cfg : LanConfig}

/-- An endnode records no listen times. -/
abbrev Regular (c : EndnodeLanCircuit) : Prop :=
  (LanEntry.regular (· = 0)).Holds c.station

theorem regular_step (positive : 0 < cfg.t3) {c : EndnodeLanCircuit}
    (regular : Regular c) (item : LanEvent × Outside) : Regular (step cfg c item) := by
  have lawful := @LanEntry.regular_lawful (· = 0) rfl
  exact (lawful.endnodeDispatch (regular_hears positive item.1)).keeps c regular

theorem regular_run (positive : 0 < cfg.t3) (work : List (LanEvent × Outside)) :
    Regular (work.foldl (step cfg) new) := by
  have start : Regular new := by
    refine ⟨trivial, fun id a found => ?_⟩
    cases found
  refine Run.foldl_invariant (fun c item regular => ?_) work start
  exact regular_step positive regular item

theorem Regular.not_timedBy {c : EndnodeLanCircuit} (regular : Regular c)
    (timer : Nat) (id : Nodeid) : ¬ TimedBy timer id c.station.adjacencies := by
  rintro ⟨a, l, found, has, _, interval, reported⟩
  have entry := regular.entries id a found
  have none : a.listenTime = 0 := entry.listenTime
  have positive := (entry.adj l has).positive
  unfold Listener.t4 at interval
  omega

end EndnodeLanCircuit

/-! ## What a hello leaves -/

theorem LanConfig.new_t3_pos (parent : Parent) (circuit : Circuit)
    (t3 priority : Nat) : 0 < (LanConfig.new parent circuit t3 priority).t3 := by
  unfold LanConfig.new
  dsimp only
  split <;> omega

/-- A hello leaves its sender timed by the timer it announces exactly if its
adjacency was made before and its interval happens to be the same; the first
hello never does, and none at all on the circuit of an endnode. -/
theorem timed_by_hello_iff (parent : Parent) (circuit : Circuit)
    (t3 priority : Nat) (work : List (LanEvent × Outside)) (out : Outside) (src address : Nat) :
    let cfg := LanConfig.new parent circuit t3 priority
    let c := run cfg work
    let e := work.foldl (EndnodeLanCircuit.step cfg) .new
    (∀ rh, accepts cfg rh → (TimedBy rh.timer rh.id (step cfg c
          (.routerHello rh src address, out)).station.adjacencies ↔
        ∃ a l, c.station.adjacencies.find rh.id = some a ∧ a.adj = some l ∧ l.Agrees rh.timer)) ∧
    (∀ eh : EndnodeHello, eh.id.area = parent.homearea →
      (TimedBy eh.timer eh.id (step cfg c
          (.endnodeHello eh src address, out)).station.adjacencies ↔
        ∃ a l, c.station.adjacencies.find eh.id = some a ∧ a.adj = some l ∧ l.Agrees eh.timer ∧
          (a.state = .up → a.listenTime = eh.timer * 31))) ∧
    ∀ rh : RouterHello, ¬ TimedBy rh.timer rh.id (EndnodeLanCircuit.step cfg e
      (.routerHello rh src address, out)).station.adjacencies := by
  intro cfg c e
  have positive : 0 < cfg.t3 := LanConfig.new_t3_pos ..
  have regular : c.Regular := regular_run positive work
  have endnode : e.Regular := EndnodeLanCircuit.regular_run positive work
  refine ⟨fun rh accepted => ?_, fun eh inArea => ?_, fun rh => ?_⟩
  · exact timedBy_routerHello_iff positive regular out src address accepted
  · exact timedBy_endnodeHello_iff positive regular out src address inArea
  · apply EndnodeLanCircuit.Regular.not_timedBy
    exact EndnodeLanCircuit.regular_step positive endnode _

/-- Router 1.1 hears 1.2 announce a timer of 31 seconds and then one of 21: now
65.1 seconds are right, though they come from the first hello. -/
theorem timed_by_hello_secondHello :
    TimedBy 21 (make 1 2) (step
      lanConfig (run lanConfig [(.routerHello
          ⟨make 1 2, false, 64, 31, []⟩ 2 1, fun _ => true)])
      (.routerHello ⟨make 1 2, false, 64, 21, []⟩ 2 1,
        fun _ => true)).station.adjacencies := by
  apply ((timed_by_hello_iff _ _ 10 64 _ _ 2 1).1
    ⟨make 1 2, false, 64, 21, []⟩ (by decide)).mpr
  exact ⟨⟨some ⟨⟨1, make 1 2, .l1router, Circuit.new 0 true 4⟩, 31,
    false, true⟩, 2, .init, 64, .l1router, 961⟩, _, by decide +kernel, rfl, by decide⟩

def listening (id : Nodeid) (t : LanTable) : Option Nat :=
  ((t.find id).bind (·.adj)).bind fun l =>
    if l.armed then some l.t4 else none

theorem TimedBy.listening {timer : Nat} {t : LanTable} (timed : TimedBy timer id t) :
    Routing.listening id t = some (timer * 3100) := by
  obtain ⟨a, l, found, has, armed, interval, _⟩ := timed
  simp [Routing.listening, found, has, armed, interval]

/-- Neighbours that announce a timer of ten seconds are timed for 21 seconds,
not for 31: a router and an endnode on the circuit of router 1.1, and the
router that an endnode uses.  When router 1.2 changes its timer to 40 seconds,
it is still timed for 21. -/
theorem listens_too_briefly :
    let heard := (run lanConfig
      [(.routerHello ⟨make 1 2, false, 64, 10, []⟩ 2 1, fun _ => true),
        (.endnodeHello ⟨make 1 3, 10⟩ 3 2, fun _ => true)])
    let changed := step lanConfig heard
      (.routerHello ⟨make 1 2, false, 64, 40, []⟩ 2 1, fun _ => true)
    let endnode := EndnodeLanCircuit.step lanConfig .new
      (.routerHello ⟨make 1 2, false, 64, 10, []⟩ 2 1, fun _ => true)
    (listening (make 1 2) heard.station.adjacencies = some 21000 ∧
      ¬ TimedBy 10 (make 1 2) heard.station.adjacencies) ∧
    (listening (make 1 3) heard.station.adjacencies = some 21000 ∧
      ¬ TimedBy 10 (make 1 3) heard.station.adjacencies) ∧
    (listening (make 1 2) changed.station.adjacencies = some 21000 ∧
      ¬ TimedBy 40 (make 1 2) changed.station.adjacencies) ∧
    listening (make 1 2) endnode.station.adjacencies = some 21000 ∧
      ¬ TimedBy 10 (make 1 2) endnode.station.adjacencies := by
  have brief {timer : Nat} {id : Nodeid} {t : LanTable}
      (armed : listening id t = some 21000) (longer : timer * 3100 ≠ 21000) :
      listening id t = some 21000 ∧ ¬ TimedBy timer id t :=
    ⟨armed, fun timed => longer (Option.some.inj (timed.listening.symm.trans armed))⟩
  refine ⟨brief ?_ (by decide), brief ?_ (by decide), brief ?_ (by decide), brief ?_ (by decide)⟩
  all_goals decide +kernel

end Decnet.Routing
