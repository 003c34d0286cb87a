import Decnet.Routing.Consistency

/-!
# The area table and the attached state

A level 2 router keeps a second table, of areas.  Whether another area is
reachable there decides what the router says about destination 0 in its own
column of the level 1 table, so a change of areas feeds back into level 1.
-/

namespace Decnet.Routing

open L1Router RouteMatrix L2Router

/-! ## What the level 1 handlers leave alone -/

namespace L1Router

/-- `r'` is the same router as `r`, with no own column that `r` did not
have. -/
structure SameOwn (r r' : L1Router) : Prop where
  nodeid : r'.nodeid = r.nodeid
  selfAddress : r'.selfAddress = r.selfAddress
  columns : ∀ col ∈ r'.l1.columns, col.adj = r.selfadj → col ∈ r.l1.columns

namespace SameOwn

theorem refl (r : L1Router) : SameOwn r r := ⟨rfl, rfl, fun _ h _ => h⟩

variable {r' : L1Router}

theorem selfadj {r : L1Router} (same : SameOwn r r') : r'.selfadj = r.selfadj := by
  unfold L1Router.selfadj
  rw [same.nodeid, same.selfAddress]

theorem tid {r : L1Router} (same : SameOwn r r') : r'.tid = r.tid := by
  unfold L1Router.tid
  rw [same.nodeid]

theorem homearea {r : L1Router} (same : SameOwn r r') : r'.homearea = r.homearea := by
  unfold L1Router.homearea
  rw [same.nodeid]

theorem trans {r r'' : L1Router} (first : SameOwn r r')
    (second : SameOwn r' r'') : SameOwn r r'' where
  nodeid := second.nodeid.trans first.nodeid
  selfAddress := second.selfAddress.trans first.selfAddress
  columns := fun col member isOwn =>
    first.columns col (second.columns col member (first.selfadj ▸ isOwn)) isOwn

theorem computed {r : L1Router} (same : SameOwn r r') (first last : Nat) :
    SameOwn r (r'.computeRoutes first last) where
  __ := same
  columns := by
    rw [computeRoutes_l1, compute_columns]
    exact same.columns

end SameOwn

variable (r : L1Router)

theorem sameOwn_adjUp (adj : Neighbour) : SameOwn r (r.adjUp adj) := by
  unfold adjUp
  dsimp only
  split
  · refine ⟨rfl, rfl, ?_⟩
    intro col member isOwn
    rcases mem_addColumn.1 member with rfl | ⟨old, _⟩
    · exact absurd isOwn (neighbour_ne_selfadj adj r)
    · exact old
  · split
    · apply SameOwn.computed
      exact ⟨rfl, rfl, fun _ h _ => h⟩
    · exact ⟨rfl, rfl, fun _ h _ => h⟩

theorem sameOwn_adjDown (adj : Neighbour) : SameOwn r (r.adjDown adj) := by
  unfold adjDown
  dsimp only
  split
  · apply SameOwn.computed
    refine ⟨rfl, rfl, ?_⟩
    exact fun col member _ => (mem_dropColumn.1 member).1
  · split
    · apply SameOwn.computed
      exact ⟨rfl, rfl, fun _ h _ => h⟩
    · exact ⟨rfl, rfl, fun _ h _ => h⟩

theorem sameOwn_setRoute (n : Neighbour) (i hops cost : Nat) :
    SameOwn r (r.setRoute (.neighbour n) i hops cost) := by
  unfold setRoute
  split
  · apply SameOwn.computed
    refine ⟨rfl, rfl, ?_⟩
    intro col member isOwn
    obtain ⟨old, inColumns, written⟩ := mem_setColumn.1 member
    split at written
    case isTrue isN =>
      rw [← written, RouteInfo.set_adj, isN] at isOwn
      exact absurd isOwn (neighbour_ne_selfadj n r)
    case isFalse => exact written ▸ inColumns
  · exact SameOwn.refl r

theorem tacit_sameOwn : Tacit SameOwn where
  refl := .refl
  trans := .trans
  noted := fun _ _ => ⟨rfl, rfl, fun _ h _ => h⟩
  lost := fun _ => ⟨rfl, rfl, fun _ h _ => h⟩

theorem sameOwn_routingMessage (msg : RoutingMessage) (adj : Neighbour)
    (circuitCost : Nat) : SameOwn r (r.routingMessage msg adj circuitCost) :=
  tacit_sameOwn.routingMessage (fun _ r _ _ => r.sameOwn_setRoute adj _ _ _) r

def OwnZero (attached : Bool) (r : L1Router) : Prop :=
  ∀ col ∈ r.l1.columns, col.adj = r.selfadj → col.hops 0 = (if attached then 0 else INFHOPS) ∧
      col.cost 0 = if attached then 0 else INFCOST

theorem OwnZero.of_sameOwn {attached : Bool} {r r' : L1Router}
    (zero : r.OwnZero attached) (same : SameOwn r r') : r'.OwnZero attached := by
  intro col member isOwn
  rw [same.selfadj] at isOwn
  exact zero col (same.columns col member isOwn) isOwn

theorem ownZero_setOwnZero (attached : Bool) (r : L1Router) :
    (r.setOwnZero attached).OwnZero attached := by
  intro col member isOwn
  obtain ⟨old, _, written⟩ := mem_setColumn.1 member
  split at written
  case isTrue =>
    rw [← written]
    simp [RouteInfo.set]
  case isFalse other => exact absurd (written ▸ isOwn) other

theorem Sound.setOwnZero {up : List Neighbour} {r : L1Router}
    (sound : Sound up r) (numbered : r.tid ≠ 0) (attached : Bool) :
    Sound up (r.setOwnZero attached) := by
  apply Sound.computed
  · exact sound.size
  · exact sound.inRange
  · exact sound.table.setColumn _ _ _ (fun _ => numbered.symm) fun other => absurd rfl other

end L1Router

namespace L2Router

structure Sound (up : List Neighbour) (r : L2Router) : Prop where
  level1 : r.toL1Router.Sound up
  numbered : r.tid ≠ 0
  size : r.l2.maxid = r.maxarea
  inRange : r.homearea ≤ r.maxarea
  table : r.l2.Sound (fun ntype => ntype = .l2router) r.selfadj r.homearea up none
  zero : ∀ col ∈ r.l2.columns, INFCOST ≤ col.cost 0
  attached : r.attached = r.anyArea
  ownZero : r.toL1Router.OwnZero r.attached

theorem best_zero {m : RouteMatrix} (zero : ∀ col ∈ m.columns, INFCOST ≤ col.cost 0) :
    m.best none 0 = Route.unreachable := by
  refine (m.best_origin none 0).resolve_right ?_
  rintro ⟨member, usable⟩
  rcases List.mem_append.1 member with column | endnode
  · obtain ⟨col, inColumns, same⟩ := List.mem_map.1 column
    rw [← same] at usable
    exact absurd (zero col inColumns) (Nat.not_le.2 usable)
  · cases endnode

namespace Sound

variable {up : List Neighbour} {r : L2Router}

/-- Renewing areas brings the attached state up to date, and with it the own
column of the level 1 table. -/
theorem computed {first last : Nat} (level1 : r.toL1Router.Sound up)
    (numbered : r.tid ≠ 0) (size : r.l2.maxid = r.maxarea) (inRange : r.homearea ≤ r.maxarea)
    (table : (r.l2.compute first last none).1.Sound
      (fun ntype => ntype = .l2router) r.selfadj r.homearea up none)
    (zero : ∀ col ∈ r.l2.columns, INFCOST ≤ col.cost 0)
    (ownZero : r.toL1Router.OwnZero r.attached) : Sound up (r.computeAreas first last) := by
  have size' : (r.l2.compute first last none).1.maxid = r.maxarea := (compute_maxid ..).trans size
  have zero' : ∀ col ∈ (r.l2.compute first last none).1.columns, INFCOST ≤ col.cost 0 := by
    rw [compute_columns]
    exact zero
  unfold computeAreas
  dsimp only
  split
  case isTrue same =>
    exact ⟨{ level1 with }, numbered, size',
      inRange, table, zero', same.symm, ownZero⟩
  case isFalse =>
    refine ⟨Sound.setOwnZero ?_ ?_ _, numbered, size', inRange,
      table, zero', rfl, ownZero_setOwnZero _ _⟩
    · exact { level1 with }
    · exact numbered

theorem start (config : RoutingConfig) (selfAddress : Nat) (numbered : config.id.tid ≠ 0)
    (inRange : config.id.tid ≤ min config.maxnodes 1023) (hasArea : config.id.area ≠ 0)
    (areaInRange : config.id.area ≤ min config.maxarea 63) :
    Sound [] (new config selfAddress).start := by
  have columns (col : RouteInfo) :
      col ∈ (L1Router.new config selfAddress).start.l1.columns →
        col = (RouteInfo.new (.self selfAddress config.id)).set config.id.tid 0 0 := by
    intro member
    unfold L1Router.start at member
    rw [L1Router.computeRoutes_l1, compute_columns] at member
    exact (mem_addColumn.1 member).resolve_right fun old => by cases old.1
  refine .computed (L1Router.Sound.start config selfAddress inRange) numbered
    rfl areaInRange ?_ ?_ ?_
  · refine .initial _ (.self selfAddress config.id) config.id.area
      (min config.maxarea 63) config.amaxhops config.amaxcost 1 (by simp) fun i bound => ?_
    by_cases isZero : i = 0
    · exact .inr (isZero ▸ hasArea.symm)
    · exact .inl ⟨Nat.one_le_iff_ne_zero.2 isZero, bound⟩
  · intro col member
    have own := (mem_addColumn.1 member).resolve_right fun old => by cases old.1
    rw [own]
    simp [RouteInfo.set, RouteInfo.new, hasArea.symm, L1Router.homearea, new, L1Router.new]
  · intro col member _
    rw [columns col member]
    simp [RouteInfo.set, RouteInfo.new, numbered.symm, new]

/-- A handler of the level 1 side, and what it means for the area table. -/
theorem withLevel1 (sound : Sound up r) {r1 : L1Router}
    {up' : List Neighbour} (level1 : r1.Sound up')
    (same : SameOwn r.toL1Router r1) {m : RouteMatrix} (size : m.maxid = r.maxarea)
    (table : m.Sound (fun ntype => ntype = .l2router) r.selfadj r.homearea up' none)
    (zero : ∀ col ∈ m.columns, INFCOST ≤ col.cost 0) (oadj : m.oadj = r.l2.oadj) :
    Sound up' { r with toL1Router := r1, l2 := m } where
  level1 := level1
  numbered := same.tid.symm ▸ sound.numbered
  size := size
  inRange := same.homearea.symm ▸ sound.inRange
  table := by
    rw [same.selfadj, same.homearea]
    exact table
  zero := zero
  attached := by
    rw [sound.attached]
    simp only [anyArea, same.homearea, oadj]
  ownZero := sound.ownZero.of_sameOwn same

theorem adjUp (sound : Sound up r) {adj : Neighbour} (isNew : adj ∉ up)
    (cost : adj.circuitCost < 2 ^ 16) : Sound (adj :: up) (r.adjUp adj) := by
  have level1 := sound.level1.adjUp isNew cost
  have same := r.toL1Router.sameOwn_adjUp adj
  unfold L2Router.adjUp
  split
  case isTrue areaRouter =>
    have added := sound.withLevel1 level1 same
      (m := r.l2.addColumn (RouteInfo.new (.neighbour adj))) sound.size
      (sound.table.addNeighbour isNew (decide_eq_true areaRouter)
        (neighbour_ne_selfadj adj r.toL1Router)) (by
        intro col member
        rcases mem_addColumn.1 member with rfl | ⟨old, _⟩
        · exact Nat.le_refl _
        · exact sound.zero col old) rfl
    exact { added with
      level1 := { level1 with } }
  case isFalse =>
    exact sound.withLevel1 level1 same sound.size
      (sound.table.replaceUp (fun n isUp _ => List.mem_cons_of_mem _ isUp) nofun) sound.zero rfl

theorem adjDown (sound : Sound up r) (adj : Neighbour) :
    Sound (up.filter (· ≠ adj)) (r.adjDown adj) := by
  have level1 := sound.level1.adjDown adj
  have same := r.toL1Router.sameOwn_adjDown adj
  unfold L2Router.adjDown
  split
  case isTrue areaRouter =>
    have zero : ∀ col ∈ (r.l2.dropColumn (.neighbour adj)).columns,
        INFCOST ≤ col.cost 0 := fun col member => sound.zero col (mem_dropColumn.1 member).1
    have unchanged : ∀ i, ¬ (1 ≤ i ∧ i ≤ r.maxarea) → i ≤ r.l2.maxid →
        (r.l2.dropColumn (.neighbour adj)).best none i = r.l2.best none i := by
      intro i outside bound
      have isZero : i = 0 := by
        have := sound.size ▸ bound
        omega
      rw [isZero, best_zero zero, best_zero sound.zero]
    have table := sound.table.dropNeighbour (decide_eq_true areaRouter)
      (neighbour_ne_selfadj adj r.toL1Router) unchanged
    refine .computed level1 (same.tid.symm ▸ sound.numbered) sound.size
      (same.homearea.symm ▸ sound.inRange) ?_ zero (sound.ownZero.of_sameOwn same)
    rw [same.selfadj, same.homearea]
    exact table
  case isFalse other =>
    refine sound.withLevel1 level1 same sound.size (sound.table.replaceUp ?_ nofun) sound.zero rfl
    intro n isUp areaRouter
    refine List.mem_filter.2 ⟨isUp, decide_eq_true fun isAdj => other ?_⟩
    exact isAdj ▸ of_decide_eq_true areaRouter

theorem setArea (sound : Sound up r) (n : Neighbour) {i : Nat}
    (isArea : i ≠ 0) (hops : Nat) {cost : Nat} (positive : 0 < cost) :
    Sound up (r.setArea (.neighbour n) i hops cost) := by
  unfold L2Router.setArea
  split
  · refine .computed sound.level1 sound.numbered sound.size sound.inRange
      (sound.table.setColumn _ i hops
        (fun same => absurd same (neighbour_ne_selfadj n r.toL1Router))
        fun _ => positive) ?_ sound.ownZero
    intro col member
    obtain ⟨old, inColumns, written⟩ := mem_setColumn.1 member
    have unchanged : col.cost 0 = old.cost 0 := by
      rw [← written]
      split
      · simp [RouteInfo.set, isArea.symm]
      · rfl
    rw [unchanged]
    exact sound.zero old inColumns
  · exact sound

theorem foldl_areaUpdate (n : Neighbour) (updates : List RouteUpdate)
    (positive : ∀ u ∈ updates, 0 < u.cost) (state : L2Router × Nat) (sound : Sound up state.1) :
    Sound up (updates.foldl (areaUpdate (.neighbour n)) state).1 := by
  induction updates generalizing state with
  | nil => exact sound
  | cons u updates ih =>
    refine ih (fun u' member => positive u' (.tail _ member)) _ ?_
    unfold areaUpdate
    split
    · exact sound
    · have isArea : u.id ≠ 0 := by omega
      have := positive u List.mem_cons_self
      exact sound.setArea n isArea _ (lt_min this (by decide))

theorem reportLoss {state : L2Router × Nat} (sound : Sound up state.1) :
    Sound up (reportLoss state) :=
  sound.withLevel1 ((Sound.tacit_sound up).reportLoss (state.1.toL1Router, state.2) sound.level1)
    (tacit_sameOwn.reportLoss (state.1.toL1Router, state.2)) sound.size sound.table sound.zero rfl

theorem routingMessage (sound : Sound up r) (msg : RoutingMessage)
    {adj : Neighbour} (cost : adj.circuit.cost < 2 ^ 16) :
    Sound up (r.routingMessage msg adj adj.circuit.cost) := by
  unfold L2Router.routingMessage
  split
  · split
    · exact sound
    · refine reportLoss (foldl_areaUpdate adj _ ?_ _ sound)
      intro u member
      have noWrap : adj.circuit.cost + 1023 < 2 ^ 32 := by omega
      exact Nat.lt_of_lt_of_le adj.circuit.positive
        (RoutingMessage.cost_le_of_mem_updates member noWrap)
  · exact sound.withLevel1 (sound.level1.routingMessage msg cost)
      (r.toL1Router.sameOwn_routingMessage msg adj _) sound.size sound.table sound.zero rfl

end Sound

end L2Router

/-- What a table promises between two handlers: it is what a full
recomputation gives, for every destination one of the cheapest columns with
the highest neighbour address if that is within the limits, and its next hops
are this node or neighbours that are up. -/
structure RouteMatrix.Correct (me : Adjacency) (up : List Neighbour)
    (m : RouteMatrix) (extra : Option EndnodesRouteInfo) : Prop where
  recomputed : ∀ i ≤ m.maxid, m.entry i = m.best extra i
  chosen : ∀ i ≤ m.maxid, ∃ found, IsBest (m.routes extra i) found ∧ m.entry i = m.limited found
  live : ∀ i ≤ m.maxid, ∀ a, m.oadj i = some a → a = me ∨ ∃ n ∈ up, a = .neighbour n

variable {up : List Neighbour}

theorem RouteMatrix.Sound.correct {kind : Ntype → Bool} {me : Adjacency}
    {home : Nat} {m : RouteMatrix}
    {extra : Option EndnodesRouteInfo} (sound : m.Sound kind me home up extra) :
    m.Correct me up extra where
  recomputed := sound.consistent
  chosen := fun i bound => ⟨_, isBest_foldl _, sound.consistent i bound⟩
  live := fun _ bound _ => sound.live bound

structure L1Router.Correct (up : List Neighbour) (r : L1Router) : Prop where
  size : r.l1.maxid = r.maxnodes
  table : r.l1.Correct r.selfadj up (some r.endnodes)
  own : r.l1.oadj r.tid = some r.selfadj
  ownAddress : r.findOadj r.nodeid = (some r.selfadj, false)

/-- A level 2 router is attached when another area is reachable, and then
offers itself as the nearest level 2 router. -/
structure L2Router.Correct (up : List Neighbour) (r : L2Router) : Prop where
  level1 : r.toL1Router.Correct up
  size : r.l2.maxid = r.maxarea
  table : r.l2.Correct r.selfadj up none
  ownArea : r.l2.oadj r.homearea = some r.selfadj
  ownAddress : r.findOadj r.nodeid = (some r.selfadj, false)
  attached : r.attached ↔ ∃ area, 1 ≤ area ∧ area ≤ r.maxarea ∧
    area ≠ r.homearea ∧ (r.l2.oadj area).isSome
  ownZero : ∃ col, r.l1.column r.selfadj = some col ∧
    (col.cost 0 = 0 ↔ r.attached) ∧ (col.hops 0 = 0 ↔ r.attached)

theorem L1Router.Sound.correct {r : L1Router} (sound : r.Sound up) : r.Correct up := by
  have inside : r.tid ≤ r.l1.maxid := sound.size ▸ sound.inRange
  have own : r.l1.oadj r.tid = some r.selfadj :=
    congrArg Route.adjacency (sound.table.own_entry inside)
  refine ⟨sound.size, sound.table.correct, own, ?_⟩
  unfold findOadj
  simp only [homearea, ne_eq]
  exact (if_neg (Nat.not_lt.2 inside)).trans (Prod.ext own rfl)

theorem L2Router.anyArea_iff (r : L2Router) :
    r.anyArea ↔ ∃ area, 1 ≤ area ∧ area ≤ r.maxarea ∧ area ≠ r.homearea ∧
      (r.l2.oadj area).isSome := by
  simp only [anyArea, List.any_eq_true, List.mem_range'_1, Bool.and_eq_true, decide_eq_true_eq]
  constructor
  · rintro ⟨area, bounds, other, reachable⟩
    exact ⟨area, bounds.1, by omega, other, reachable⟩
  · rintro ⟨area, low, high, other, reachable⟩
    exact ⟨area, ⟨low, by omega⟩, other, reachable⟩

theorem L2Router.Sound.correct {r : L2Router} (sound : r.Sound up) : r.Correct up := by
  have level1 := sound.level1.correct
  have inside : r.homearea ≤ r.l2.maxid := sound.size ▸ sound.inRange
  refine ⟨level1, sound.size, sound.table.correct,
    congrArg Route.adjacency (sound.table.own_entry inside), ?_, ?_, ?_⟩
  · unfold findOadj
    rw [if_neg fun away => away.2 rfl]
    exact level1.ownAddress
  · rw [sound.attached]
    exact r.anyArea_iff
  · obtain ⟨own, member, isOwn⟩ := sound.level1.table.hasOwn
    have hasColumn : (r.l1.column r.selfadj).isSome :=
      List.find?_isSome.2 ⟨own, member, decide_eq_true isOwn⟩
    obtain ⟨col, found⟩ := Option.isSome_iff_exists.1 hasColumn
    have adj := List.find?_some found
    obtain ⟨hops, cost⟩ :=
      sound.ownZero col (List.mem_of_find?_eq_some found) (of_decide_eq_true adj)
    refine ⟨col, found, ?_, ?_⟩
    · rw [cost]
      cases r.attached <;> simp
    · rw [hops]
      cases r.attached <;> simp

namespace Layer

def Sound (s : Layer) : Prop :=
  match s.router with
  | .l1 r => r.Sound s.up
  | .l2 r => r.Sound s.up

def Correct (s : Layer) : Prop :=
  match s.router with
  | .l1 r => r.Correct s.up
  | .l2 r => r.Correct s.up

/-- The node's own number, and for a level 2 router its area, are ones the
tables have room for. -/
def InRange (area : Bool) (config : RoutingConfig) : Prop :=
  config.id.tid ≤ min config.maxnodes 1023 ∧ (area → config.id.tid ≠ 0 ∧ config.id.area ≠ 0 ∧
      config.id.area ≤ min config.maxarea 63)

instance (area : Bool) (config : RoutingConfig) : Decidable (InRange area config) :=
  inferInstanceAs (Decidable (_ ∧ _))

/-- The cost of the circuit fits the 16 bits of an entry. -/
def Moderate (_ : Layer) (input : Input) : Prop :=
  input.adj.circuit.cost < 2 ^ 16

instance (s : Layer) (input : Input) : Decidable (Moderate s input) :=
  inferInstanceAs (Decidable (_ < _))

theorem Sound.start {area : Bool} {config : RoutingConfig}
    (inRange : InRange area config) (selfAddress : Nat) :
    Sound (Layer.start area config selfAddress) := by
  cases area with
  | false => exact L1Router.Sound.start config selfAddress inRange.1
  | true =>
    obtain ⟨numbered, hasArea, areaInRange⟩ := inRange.2 rfl
    exact L2Router.Sound.start config selfAddress numbered inRange.1 hasArea areaInRange

theorem Sound.step {s : Layer} (sound : s.Sound) {input : Input}
    (moderate : Moderate s input) : (s.step input).Sound := by
  obtain ⟨router, up⟩ := s
  cases input with
  | up adj =>
    by_cases isUp : adj ∈ up
    · simpa [Layer.step, isUp] using sound
    · simp only [Layer.step, isUp]
      cases router with
      | l1 r | l2 r =>
        exact Sound.adjUp sound isUp (Circuit.baseCost_lt moderate)
  | down adj =>
    by_cases isUp : adj ∈ up
    · simp only [Layer.step, isUp]
      cases router with
      | l1 r | l2 r => exact Sound.adjDown sound adj
    · simpa [Layer.step, isUp] using sound
  | message msg adj =>
    cases router with
    | l1 r | l2 r => exact Sound.routingMessage sound msg moderate

theorem Sound.correct {s : Layer} (sound : s.Sound) : s.Correct := by
  obtain ⟨router, up⟩ := s
  cases router with
  | l1 r => exact L1Router.Sound.correct sound
  | l2 r => exact L2Router.Sound.correct sound

/-- Routing table consistency, for routers whose own number fits their tables
and whose circuits cost less than 65536. -/
theorem tables_correct (area : Bool) (config : RoutingConfig)
    (selfAddress : Nat) (inputs : List Input) (inRange : InRange area config)
    (moderate : Run.Guarded step Moderate (start area config selfAddress)
      inputs) : ((start area config selfAddress).run inputs).Correct :=
  Sound.correct (moderate.invariant (fun _ _ sound ok => sound.step ok)
    (Sound.start inRange selfAddress))

def exampleConfig : RoutingConfig where
  id := .make 1 1
  maxnodes := 4
  maxarea := 3
  maxhops := 16
  maxcost := 1022
  amaxhops := 8
  amaxcost := 128

/-- A level 2 router of area 2 on a circuit of cost 4, which says that it
reaches area 3. -/
def exampleInputs : List Input :=
  let adj : Neighbour := ⟨100, .make 2 2, .l2router, Circuit.new 0 false 4⟩
  [.up adj, .message (.l2Routing adj.nodeid [⟨2, [0, routeEntry 1 5]⟩]) adj, .down adj]

theorem tables_correct_area : ((start true exampleConfig 7).run exampleInputs).Correct :=
  tables_correct true exampleConfig 7 exampleInputs (by decide) (by decide +kernel)

def costlyNeighbour : Neighbour :=
  ⟨100, .make 1 2, .l1router, Circuit.new 0 false 4294967295⟩

/-- It advertises node 1 at cost 1: the sum of the costs wraps to zero, ties
with the own column, and the higher address wins. -/
theorem wrapped_cost_takes_own_number :
    let s := (start false exampleConfig 7).run [.up costlyNeighbour,
        .message (.l1Routing costlyNeighbour.nodeid [⟨1, [routeEntry 0 1]⟩]) costlyNeighbour]
    s.router.findOadj exampleConfig.id =
      (some (.neighbour costlyNeighbour), false) ∧ ¬ s.Correct := by
  intro s
  have diverted : s.router.findOadj exampleConfig.id =
      (some (.neighbour costlyNeighbour), false) := by decide +kernel
  refine ⟨diverted, fun correct => ?_⟩
  have own := Correct.ownAddress correct
  have taken := own.symm.trans diverted
  exact Adjacency.noConfusion (Option.some.inj (congrArg Prod.fst taken))

end Layer

end Decnet.Routing
