import Decnet.Routing.Building
import Decnet.Routing.Marking

/-!
# What a node puts on a circuit

The update process of a circuit with a router on it marks every destination
whose hops or cost have changed.  When its timer runs out it sends what the
table says at that moment of every destination it has marked.
-/

namespace Decnet.Routing

open RoutingNode Function LanCircuit Update List

/-! ## The update process of a circuit -/

namespace Update

/-- The update process of the second state is that of the first, marks
apart. -/
structure Ready (u' u : Update) : Prop where
  level : u'.level = u.level
  size : u'.size = u.size
  running : u'.running = u.running
  noted : (∀ d, u.srm d = true → u.anySrm = true) → ∀ d, u'.srm d = true → u'.anySrm = true

theorem Ready.refl (u : Update) : Ready u u := ⟨rfl, rfl, rfl, id⟩

theorem ready_timeout (wants : Bool) (blksize : Nat) (srcnode : Nodeid)
    (entryFor : Nat → Nat) (u : Update) : Ready (u.timeout wants blksize srcnode entryFor).1 u := by
  unfold timeout
  dsimp only
  split
  · exact ⟨rfl, rfl, rfl, id⟩
  · split
    · exact ⟨rfl, rfl, rfl, id⟩
    · exact ⟨rfl, rfl, rfl, nofun⟩

structure Grows (u u' : Update) : Prop where
  level : u'.level = u.level
  size : u'.size = u.size
  running : u'.running = u.running
  srm : ∀ d, u.srm d = true → u'.srm d = true
  anySrm : u.anySrm = true → u'.anySrm = true
  noted : (∀ d, u.srm d = true → u.anySrm = true) → ∀ d, u'.srm d = true → u'.anySrm = true

theorem Grows.refl (u : Update) : Grows u u :=
  ⟨rfl, rfl, rfl, fun _ => id, id, id⟩

theorem Grows.trans {u u' u'' : Update} (first : Grows u u')
    (second : Grows u' u'') : Grows u u'' where
  level := second.level.trans first.level
  size := second.size.trans first.size
  running := second.running.trans first.running
  srm d := second.srm d ∘ first.srm d
  anySrm := second.anySrm ∘ first.anySrm
  noted := second.noted ∘ first.noted

theorem grows_setSrm (wants : Bool) (low high : Nat) (u : Update) :
    Grows u (u.setSrm wants low high) := by
  unfold setSrm
  split
  · exact .refl u
  · refine ⟨rfl, rfl, rfl, ?_, fun _ => rfl, fun _ _ _ => rfl⟩
    intro d marked
    simp [marked]

end Update

namespace RoutingNode

theorem grows_notify (name : Nat) (s : RoutingNode) (request : Output) :
    (s.updates name).Grows ((s.notify request).updates name) := by
  cases request with
  | setSrm low high => exact grows_setSrm _ low high _
  | _ => exact .refl _

theorem grows_foldl_notify (name : Nat) (requests : List Output) (s : RoutingNode) :
    (s.updates name).Grows ((requests.foldl notify s).updates name) := by
  induction requests generalizing s with
  | nil => exact .refl _
  | cons request requests induction =>
    exact (s.grows_notify name request).trans (induction _)

theorem areas_foldl_notify (name : Nat) (requests : List Output) (s : RoutingNode) :
    ((requests.foldl notify s).areaUpdates name).level = (s.areaUpdates name).level := by
  induction requests generalizing s with
  | nil => rfl
  | cons request requests induction =>
    refine (induction _).trans ?_
    cases request with
    | setAsrm low high => exact (grows_setSrm _ low high _).level
    | _ => rfl

variable {name : Nat} {s : RoutingNode}

/-- The update process of a circuit that wants updates marks all it is asked
to mark. -/
theorem foldl_notify_marks {requests : List Output}
    (wants : (s.circuits name).wantsUpdates .one = true)
    {low high d : Nat} (member : .setSrm low high ∈ requests)
    (above : low ≤ d) (below : d ≤ high) (inside : d < (s.updates name).size) :
    ((requests.foldl notify s).updates name).srm d = true := by
  induction requests generalizing s with
  | nil => cases member
  | cons request requests induction =>
    have circuits : (s.notify request).circuits = s.circuits := by
      cases request <;> rfl
    rcases mem_cons.mp member with rfl | later
    · apply (grows_foldl_notify name requests _).srm
      change ((s.updates name).setSrm ((s.circuits name).wantsUpdates .one) low high).srm d = true
      have last : d ≤ (s.updates name).size - 1 := by omega
      simp [wants, setSrm, above, below, last]
    · apply @induction (s.notify request) (circuits ▸ wants) later
      rw [(s.grows_notify name request).size]
      exact inside

/-- The table of a node, as far as its neighbours are told. -/
def value (s : RoutingNode) (d : Nat) : Nat × Nat := s.router.base.l1.value d

/-- What the router asked for between two states of a node is noted. -/
structure Notes (name : Nat) (s s' : RoutingNode) : Prop where
  router : s.router.base.Announces s'.router.base
  grows : (s.updates name).Grows (s'.updates name)
  areas : (s'.areaUpdates name).level = (s.areaUpdates name).level

/-- What has changed in the table is marked for a circuit as well. -/
structure Marks (name : Nat) (s s' : RoutingNode) : Prop extends Notes name s s' where
  changed : ∀ d < (s.updates name).size, s'.value d ≠ s.value d → (s'.updates name).srm d = true

theorem Notes.refl (name : Nat) (s : RoutingNode) : Notes name s s :=
  ⟨.refl _, .refl _, rfl⟩

theorem Notes.trans {s' s'' : RoutingNode}
    (first : Notes name s s') (second : Notes name s' s'') : Notes name s s'' :=
  ⟨first.router.trans second.router, first.grows.trans second.grows, second.areas.trans first.areas⟩

theorem Marks.refl (name : Nat) (s : RoutingNode) : Marks name s s :=
  ⟨.refl name s, fun _ _ changed => absurd rfl changed⟩

theorem Marks.trans {s' s'' : RoutingNode} (first : Marks name s s') (second : Marks name s' s'') :
    Marks name s s'' := by
  refine ⟨first.toNotes.trans second.toNotes, ?_⟩
  intro d inside changed
  by_cases same : s'.value d = s.value d
  · exact second.changed d (first.grows.size ▸ inside) (same ▸ changed)
  · exact second.grows.srm d (first.changed d inside same)

theorem call_layer (other : Nat) (s : RoutingNode) (made : AnyCircuit × Layer.Input) :
    (s.call other made).layer = s.layer.step made.2 :=
  (foldl_notify _ _).1

theorem call_circuits (other : Nat) (s : RoutingNode) (made : AnyCircuit × Layer.Input) :
    (s.call other made).circuits = update s.circuits other made.1 :=
  (foldl_notify _ _).2.1

def calls (s : RoutingNode) : Input → List Layer.Input
  | .ptp name work =>
    match s.circuits name with
    | .ptp c => (c.dispatch s.router.parent work).2.map Prod.snd
    | .lan _ => []
  | .lan name work =>
    match s.circuits name with
    | .ptp _ => []
    | .lan c => (c.dispatch s.router.parent work).2.map Prod.snd
  | .updateTimeout .. => []

theorem perform_layer (name : Nat) (after : AnyCircuit)
    (calls : RouterCalls AnyCircuit) (s : RoutingNode) :
    (s.perform name after calls).layer = s.layer.run (calls.map Prod.snd) := by
  change (calls.foldl (call name) s).layer = _
  induction calls generalizing s with
  | nil => rfl
  | cons made calls induction =>
    rw [foldl_cons, induction, call_layer]
    rfl

theorem step_layer (s : RoutingNode) (input : Input) :
    (s.step input).layer = s.layer.run (s.calls input) := by
  cases input with
  | ptp name work =>
    cases kind : s.circuits name with
    | ptp c =>
      simp only [step, ptpWork, calls, kind]
      rw [perform_layer, map_map]
      rfl
    | lan c =>
      simp only [step, ptpWork, calls, kind]
      rfl
  | lan name work =>
    cases kind : s.circuits name with
    | ptp c =>
      simp only [step, lanWork, calls, kind]
      rfl
    | lan c =>
      simp only [step, lanWork, calls, kind]
      rw [perform_layer, map_map]
      rfl
  | updateTimeout name level => rfl

theorem announces_step (s : RoutingNode) (input : Input) :
    s.router.base.Announces (s.step input).router.base := by
  unfold router
  rw [step_layer]
  exact s.layer.announces_run _

theorem notes_call (name other : Nat) (s : RoutingNode)
    (made : AnyCircuit × Layer.Input) : Notes name s (s.call other made) := by
  constructor
  case router =>
    unfold router
    rw [call_layer]
    exact s.layer.announces_step made.2
  case grows =>
    exact grows_foldl_notify name _ { s with
      layer := s.layer.step made.2
      circuits := update s.circuits other made.1 }
  case areas =>
    exact areas_foldl_notify name _ { s with
      layer := s.layer.step made.2
      circuits := update s.circuits other made.1 }

theorem marks_call {other : Nat} {made : AnyCircuit × Layer.Input}
    (wants : (update s.circuits other made.1 name).wantsUpdates .one =
      true) : Marks name s (s.call other made) := by
  refine ⟨notes_call name other s made, ?_⟩
  intro d inside changed
  unfold value router at changed
  rw [call_layer] at changed
  obtain ⟨new, outputs, announced⟩ := (s.layer.announces_step made.2).requests
  obtain ⟨low, high, member, above, below⟩ := announced d changed
  have requests : (s.layer.step made.2).router.base.outputs.drop
      s.router.base.outputs.length = new := by
    rw [outputs]
    exact drop_left ..
  unfold call
  dsimp only
  rw [requests]
  exact foldl_notify_marks wants member above below inside

theorem notes_perform (name other : Nat) (after : AnyCircuit)
    (calls : RouterCalls AnyCircuit) (s : RoutingNode) :
    Notes name s (s.perform other after calls) := by
  have called : Notes name s (calls.foldl (call other) s) := by
    induction calls generalizing s with
    | nil => exact .refl name s
    | cons made calls induction =>
      exact (notes_call name other s made).trans (induction _)
  exact { called with }

theorem marks_perform {other : Nat} {after : AnyCircuit} {calls : RouterCalls AnyCircuit}
    (wants : name ≠ other → (s.circuits name).wantsUpdates .one = true)
    (snapshots : name = other → ∀ made ∈ calls, made.1.wantsUpdates .one = true) :
    Marks name s (s.perform other after calls) := by
  have called : Marks name s (calls.foldl (call other) s) := by
    induction calls generalizing s with
    | nil => exact .refl name s
    | cons made calls induction =>
      refine (marks_call ?_).trans (induction ?_ ?_)
      · by_cases here : name = other
        · subst here
          rw [update_self]
          exact snapshots rfl made mem_cons_self
        · rw [update_of_ne here]
          exact wants here
      · intro elsewhere
        rw [call_circuits, update_of_ne elsewhere]
        exact wants elsewhere
      · exact fun here later member => snapshots here later (.tail _ member)
  exact ⟨{ called with }, called.changed⟩

end RoutingNode

/-! ## Circuits with a router on them -/

/-- The circuit runs and the router `id` is its neighbour. -/
def PtpCircuit.Up (id : Nodeid) (c : PtpCircuit) : Prop :=
  c.state = .running ∧ c.info.id = id ∧ c.info.ntype.isRouter = true

def LanCircuit.Up (id : Nodeid) (c : LanCircuit) : Prop :=
  ∃ a, c.find id = some a ∧ a.state = .up ∧ a.ntype ≠ .endnode

def AnyCircuit.Up (id : Nodeid) : AnyCircuit → Prop
  | ptp c => c.Up id
  | lan c => c.Up id

instance (id : Nodeid) : ∀ c : AnyCircuit, Decidable (c.Up id)
  | .ptp _ => inferInstanceAs (Decidable (_ ∧ _ ∧ _))
  | .lan c => inferInstanceAs (Decidable (∃ a ∈ c.find id, a.state = .up ∧ a.ntype ≠ .endnode))

theorem AnyCircuit.Up.wants {id : Nodeid} {c : AnyCircuit} (up : c.Up id) :
    c.wantsUpdates .one = true := by
  cases c with
  | ptp c => exact up.2.2
  | lan c =>
    obtain ⟨a, found, isUp, isRouter⟩ := up
    obtain ⟨before, after, split, _⟩ := lookup_eq_some_iff.mp found
    have member : (id, a) ∈ c.adjacencies := by
      rw [split]
      exact mem_append_right _ mem_cons_self
    refine any_eq_true.mpr ⟨(id, a), member, ?_⟩
    simp [isUp, isRouter]

theorem PtpCircuit.running_snapshot {c : PtpCircuit} {work : PtpWork}
    {made : PtpCircuit × Layer.Input} (member : made ∈ (c.running work).2) : made.1 = c := by
  have down {made : PtpCircuit × Layer.Input} (member : made ∈ c.downCalls) : made.1 = c := by
    obtain ⟨n, _, rfl⟩ := mem_map.mp member
    rfl
  have restart {made : PtpCircuit × Layer.Input} (member : made ∈ c.restart.2) : made.1 = c := by
    simp only [PtpCircuit.restart] at member
    split at member
    · exact down member
    · cases member
  unfold PtpCircuit.running at member
  split at member
  case h_1 => cases member
  case h_2 => exact restart member
  case h_3 => exact restart member
  case h_4 => exact down member
  case h_5 =>
    split at member
    · exact restart member
    · split at member
      · exact restart member
      · cases member
  case h_6 =>
    split at member
    · exact restart member
    · cases member
  case h_7 =>
    obtain ⟨n, _, rfl⟩ := mem_map.mp member
    rfl
  case h_8 => exact down member
  case h_9 => cases member

namespace LanCircuit

variable {c : LanCircuit} {id : Nodeid}

variable {other : Nodeid}

theorem lookup_filter_of_ne {adjacencies : List (Nodeid × LanAdjacency)} (differ : id ≠ other) :
    (adjacencies.filter (·.1 ≠ other)).lookup id = adjacencies.lookup id := by
  induction adjacencies with
  | nil => rfl
  | cons entry adjacencies induction =>
    obtain ⟨key, a⟩ := entry
    by_cases dropped : key = other
    · subst dropped
      rw [filter_cons_of_neg (by simp), induction, lookup_cons, beq_false_of_ne differ]
    · rw [filter_cons_of_pos (by simpa using dropped), lookup_cons, lookup_cons, induction]

theorem Up.put_of_ne (up : c.Up id) (differ : id ≠ other)
    (a : LanAdjacency) : (c.put other a).Up id := by
  obtain ⟨b, found, isUp⟩ := up
  refine ⟨b, ?_, isUp⟩
  unfold find put
  rw [lookup_cons, beq_false_of_ne differ, lookup_filter_of_ne differ]
  exact found

/-- A neighbour that is brought up was not up before. -/
theorem Up.adjacencyUp (up : c.Up id) {a : LanAdjacency}
    (notUp : ((c.find other).getD .new).state ≠ .up) (ntype : Ntype) (address : Nat) :
    ∀ made ∈ (c.adjacencyUp other ntype address a).2, made.1.Up id := by
  intro made member
  rw [mem_singleton.mp member]
  apply up.put_of_ne
  rintro rfl
  obtain ⟨b, found, isUp, _⟩ := up
  rw [found] at notUp
  exact notUp isUp

theorem Up.adjacencyDown (up : c.Up id) (other : Nodeid) :
    ∀ made ∈ (c.adjacencyDown other).2, made.1.Up id := by
  intro made member
  unfold LanCircuit.adjacencyDown at member
  split at member
  · cases member
  · dsimp only at member
    split at member
    · obtain ⟨n, _, rfl⟩ := mem_map.mp member
      exact up
    · cases member

/-- The router is up whenever the circuit calls. -/
theorem Up.snapshot (up : c.Up id) (parent : Parent) (work : LanWork) :
    ∀ made ∈ (c.dispatch parent work).2, made.1.Up id := by
  cases work with
  | listenTimeout other =>
    intro made member
    unfold dispatch listenTimeout at member
    dsimp only at member
    split at member
    · cases member
    · rcases mem_cons.mp member with rfl | rest
      · exact up
      · exact up.adjacencyDown other made rest
  | received packet src address =>
    cases packet with
    | routerHello rh =>
      simp only [dispatch, routerHello]
      split
      · exact fun _ member => absurd member not_mem_nil
      · split
        case isTrue news => exact up.adjacencyUp news.2 _ _
        case isFalse => exact fun _ member => absurd member not_mem_nil
    | endnodeHello eh =>
      simp only [dispatch, endnodeHello]
      split
      · exact fun _ member => absurd member not_mem_nil
      · split
        case isTrue => exact fun _ member => absurd member not_mem_nil
        case isFalse news => exact up.adjacencyUp news _ _
    | routing message =>
      intro made member
      simp only [dispatch, routingMessage] at member
      split at member
      · cases member
      · dsimp only at member
        split at member
        · obtain ⟨n, _, rfl⟩ := mem_map.mp member
          exact up
        · cases member
    | data => exact fun _ member => absurd member not_mem_nil

end LanCircuit

namespace RoutingNode

variable {name : Nat} {id : Nodeid} {s : RoutingNode}

theorem perform_sent (other : Nat) (after : AnyCircuit)
    (calls : RouterCalls AnyCircuit) (s : RoutingNode) :
    (s.perform other after calls).sent = s.sent := by
  induction calls generalizing s with
  | nil => rfl
  | cons made calls induction =>
    exact (induction _).trans (foldl_notify _ _).2.2

theorem marks_ptpWork (up : (s.circuits name).Up id) (other : Nat) (work : PtpWork) :
    Marks name s (s.ptpWork other work) ∧ (s.ptpWork other work).sent = s.sent := by
  unfold ptpWork
  split
  case h_1 c kind =>
    refine ⟨marks_perform (fun _ => up.wants) ?_, perform_sent ..⟩
    rintro rfl made member
    rw [kind] at up
    obtain ⟨own, inCalls, rfl⟩ := mem_map.mp member
    unfold PtpCircuit.dispatch at inCalls
    rw [up.1] at inCalls
    have same := PtpCircuit.running_snapshot inCalls
    change own.1.wantsUpdates .one = true
    rw [same]
    exact up.2.2
  case h_2 => exact ⟨.refl _ _, rfl⟩

theorem marks_lanWork (up : (s.circuits name).Up id) (other : Nat) (work : LanWork) :
    Marks name s (s.lanWork other work) ∧ (s.lanWork other work).sent = s.sent := by
  unfold lanWork
  split
  case h_1 => exact ⟨.refl _ _, rfl⟩
  case h_2 c kind =>
    refine ⟨marks_perform (fun _ => up.wants) ?_, perform_sent ..⟩
    rintro rfl made member
    rw [kind] at up
    obtain ⟨own, inCalls, rfl⟩ := mem_map.mp member
    have still : (AnyCircuit.lan own.1).Up id := Up.snapshot up _ work own inCalls
    exact still.wants

/-! ## The updates that go out -/

def posted (name : Nat) (s s' : RoutingNode) : List RoutingMessage :=
  ((s'.sent.drop s.sent.length).filter (·.circuit = name)).map SentUpdate.message

theorem posted_of_sent {s' : RoutingNode} (same : s'.sent = s.sent) : posted name s s' = [] := by
  unfold posted
  rw [same, drop_length]
  rfl

def update (other : Nat) (level : Level) (s : RoutingNode) : Update × List RoutingMessage :=
  (match level with
    | .one => s.updates other
    | .two => s.areaUpdates other).timeout ((s.circuits other).wantsUpdates level)
      (s.circuits other).updateBlksize s.router.base.nodeid (s.router.entryFor level)

theorem posted_updateTimeout (other : Nat) (level : Level) :
    posted name s (s.updateTimeout other level) =
      if other = name then (s.update other level).2 else [] := by
  have sent : (s.updateTimeout other level).sent = s.sent ++ (s.update other level).2.map fun m =>
        ⟨other, level, (s.circuits other).receiver, m⟩ :=
    rfl
  unfold posted
  rw [sent, drop_left, filter_map]
  split
  case isTrue here =>
    subst here
    simp [comp_def]
  case isFalse elsewhere => simp [elsewhere]

/-- What is known of the update process of a circuit. -/
structure Regular (name : Nat) (s : RoutingNode) : Prop where
  legal : s.router.base.Legal
  maxid : s.router.base.l1.maxid = s.router.base.maxnodes
  level : (s.updates name).level = .one
  size : (s.updates name).size = s.router.base.maxnodes + 1
  running : (s.updates name).running = true
  noted : ∀ d, (s.updates name).srm d = true → (s.updates name).anySrm = true
  areas : (s.areaUpdates name).level = .two

theorem Regular.notes {s' : RoutingNode} (regular : Regular name s)
    (notes : Notes name s s') : Regular name s' where
  legal := notes.router.legal regular.legal
  maxid := by
    rw [notes.router.maxid, notes.router.maxnodes]
    exact regular.maxid
  level := notes.grows.level.trans regular.level
  size := by
    rw [notes.grows.size, notes.router.maxnodes]
    exact regular.size
  running := notes.grows.running.trans regular.running
  noted := notes.grows.noted regular.noted
  areas := notes.areas.trans regular.areas

theorem Regular.start (area : Bool) (config : RoutingConfig)
    (selfAddress : Nat) (circuits : Nat → CircuitConfig) (name : Nat) :
    Regular name (start area config selfAddress circuits) := by
  have size := Layer.size_start area config selfAddress
  refine ⟨Layer.legal_start area config selfAddress, ?_, rfl, ?_, rfl, nofun, rfl⟩
  · exact size.1.trans size.2.symm
  · exact congrArg (· + 1) size.2.symm

theorem Regular.updateTimeout (regular : Regular name s) (other : Nat)
    (level : Level) : Regular name (s.updateTimeout other level) := by
  have kept : Ready ((s.updateTimeout other level).updates name) (s.updates name) := by
    cases level with
    | two => exact .refl _
    | one =>
      by_cases here : name = other
      · subst here
        change Ready (Function.update s.updates name (s.update name .one).1 name) _
        rw [update_self]
        exact ready_timeout ..
      · change Ready (Function.update s.updates other (s.update other .one).1 name) _
        rw [update_of_ne here]
        exact .refl _
  have areas : ((s.updateTimeout other level).areaUpdates name).level =
      (s.areaUpdates name).level := by
    cases level with
    | one => rfl
    | two =>
      change (Function.update s.areaUpdates other (s.update other .two).1 name).level = _
      by_cases here : name = other
      · subst here
        rw [update_self]
        exact (ready_timeout ..).level
      · rw [update_of_ne here]
  exact ⟨regular.legal, regular.maxid, kept.level.trans regular.level,
    kept.size.trans regular.size, kept.running.trans regular.running,
    kept.noted regular.noted, areas.trans regular.areas⟩

theorem Regular.step (regular : Regular name s) (input : Input) : Regular name (s.step input) := by
  cases input with
  | ptp other work =>
    apply regular.notes
    simp only [RoutingNode.step, RoutingNode.ptpWork]
    split
    · exact notes_perform ..
    · exact .refl _ _
  | lan other work =>
    apply regular.notes
    simp only [RoutingNode.step, RoutingNode.lanWork]
    split
    · exact .refl _ _
    · exact notes_perform ..
  | updateTimeout other level => exact regular.updateTimeout other level

theorem Regular.run (area : Bool) (config : RoutingConfig)
    (selfAddress : Nat) (circuits : Nat → CircuitConfig) (name : Nat) (inputs : List Input) :
    Regular name ((RoutingNode.start area config selfAddress circuits).run inputs) :=
  Run.foldl_invariant (fun _ input regular => regular.step input) inputs
    (.start area config selfAddress circuits name)

end RoutingNode

theorem entry_of_fits {hops cost : Nat} (fitsHops : hops ≤ INFHOPS) (fitsCost : cost ≤ INFCOST) :
    entryHops (routeEntry hops cost) = hops ∧ entryCost (routeEntry hops cost) = cost := by
  have five : hops ≤ 31 := fitsHops
  have ten : cost ≤ 1023 := fitsCost
  unfold entryHops entryCost routeEntry
  omega

theorem Update.mem_timeout {u : Update} {wants : Bool} {blksize : Nat}
    {srcnode : Nodeid} {entryFor : Nat → Nat} {m : RoutingMessage}
    (member : m ∈ (u.timeout wants blksize srcnode entryFor).2) :
    m.srcnode = srcnode ∧ (u.level = .two → m.carried = []) := by
  unfold timeout at member
  dsimp only at member
  split at member
  · cases member
  · split at member
    · cases member
    · obtain ⟨segments, _, rfl⟩ := mem_map.mp member
      split
      case h_1 level => exact ⟨rfl, fun two => nomatch level.symm.trans two⟩
      case h_2 => exact ⟨rfl, fun _ => rfl⟩

namespace RoutingNode

variable {name : Nat} {id : Nodeid} {s : RoutingNode}

variable {d : Nat}

theorem Regular.entry (regular : Regular name s) (inside : d ≤ s.router.base.maxnodes) :
    (entryHops (s.router.entryFor .one d), entryCost (s.router.entryFor .one d)) = s.value d := by
  have fits := entry_of_fits (regular.legal.hops d) (regular.legal.cost d)
  have known : ¬ s.router.base.l1.maxid < d := by
    rw [regular.maxid]
    omega
  have advertised : s.router.entryFor .one d =
      routeEntry (s.router.base.l1.minhops d) (s.router.base.l1.mincost d) := by
    exact if_neg known
  rw [advertised, fits.1, fits.2]
  rfl

/-- The update process sends what the table says, and sends it of every
destination it has marked. -/
theorem Regular.told (regular : Regular name s) (up : (s.circuits name).Up id)
    (inside : d ≤ s.router.base.maxnodes) :
    (∀ v ∈ told d (s.update name .one).2, v = s.value d) ∧ ((s.updates name).srm d = true →
        Routing.told d (s.update name .one).2 ≠ []) := by
  have sent : (s.update name .one).2.flatMap RoutingMessage.carried =
      (ids (!(s.updates name).anySrm) (s.updates name)).map
        fun i => (i, s.router.entryFor .one i) := by
    unfold update timeout
    simp only [regular.running, up.wants]
    exact build_carried regular.level ..
  unfold Routing.told
  rw [sent]
  constructor
  case left =>
    intro v member
    obtain ⟨e, kept, rfl⟩ := mem_map.mp member
    obtain ⟨inIds, isD⟩ := mem_filter.mp kept
    obtain ⟨i, _, rfl⟩ := mem_map.mp inIds
    cases of_decide_eq_true isD
    exact regular.entry inside
  case right =>
    intro marked
    have member : d ∈ ids (!(s.updates name).anySrm) (s.updates name) := by
      refine mem_filter.mpr ⟨?_, by simp [marked]⟩
      have low : (s.updates name).lowid = 0 := by
        unfold lowid
        rw [regular.level]
      rw [mem_range'_1, regular.size]
      omega
    intro nothing
    have entry : (d, s.router.entryFor .one d) ∈
        ((ids (!(s.updates name).anySrm) (s.updates name)).map
          fun i => (i, s.router.entryFor .one i)).filter (·.1 = d) :=
      mem_filter.mpr ⟨mem_map.mpr ⟨d, member, rfl⟩, by simp⟩
    rw [map_eq_nil_iff.mp nothing] at entry
    cases entry

theorem Regular.told_areas (regular : Regular name s) (d : Nat) :
    Routing.told d (s.update name .two).2 = [] := by
  have nothing : (s.update name .two).2.flatMap RoutingMessage.carried = [] :=
    flatMap_eq_nil_iff.mpr fun _ member => (mem_timeout member).2 regular.areas
  unfold Routing.told
  rw [nothing]
  rfl

theorem posted_srcnode {input : Input} {m : RoutingMessage}
    (up : (s.circuits name).Up id) (member : m ∈ posted name s (s.step input)) :
    m.srcnode = s.router.base.nodeid := by
  cases input with
  | ptp other work =>
    rw [step, posted_of_sent (marks_ptpWork up other work).2] at member
    cases member
  | lan other work =>
    rw [step, posted_of_sent (marks_lanWork up other work).2] at member
    cases member
  | updateTimeout other level =>
    rw [step, posted_updateTimeout] at member
    split at member
    · exact (mem_timeout member).1
    · cases member

/-- One step of a node, seen from a circuit with a router on it: what changes
is marked and nothing is said of it, or the table is sent and stays. -/
theorem Regular.step_told (regular : Regular name s) (up : (s.circuits name).Up id) (input : Input)
    (inside : d ≤ s.router.base.maxnodes) :
    Marks name s (s.step input) ∧ Routing.told d (posted name s (s.step input)) = [] ∨
      (∀ v ∈ Routing.told d (posted name s (s.step input)), v = s.value d) ∧
        ((s.updates name).srm d = true → Routing.told d (posted name s (s.step input)) ≠ []) ∧
        (s.step input).value d = s.value d := by
  cases input with
  | ptp other work =>
    obtain ⟨marks, sent⟩ := marks_ptpWork up other work
    refine .inl ⟨marks, ?_⟩
    rw [RoutingNode.step, posted_of_sent sent]
    rfl
  | lan other work =>
    obtain ⟨marks, sent⟩ := marks_lanWork up other work
    refine .inl ⟨marks, ?_⟩
    rw [RoutingNode.step, posted_of_sent sent]
    rfl
  | updateTimeout other level =>
    rw [RoutingNode.step, posted_updateTimeout]
    by_cases here : other = name
    · subst here
      rw [if_pos rfl]
      cases level with
      | one =>
        obtain ⟨present, served⟩ := regular.told up inside
        exact .inr ⟨present, served, rfl⟩
      | two =>
        refine .inl ⟨?_, regular.told_areas d⟩
        refine ⟨⟨.refl _, .refl _, ?_⟩, fun _ _ changed => absurd rfl changed⟩
        exact (regular.updateTimeout other .two).areas.trans regular.areas.symm
    · rw [if_neg here]
      refine .inl ⟨?_, rfl⟩
      have updates : (s.updateTimeout other level).updates name = s.updates name := by
        cases level with
        | one => exact update_of_ne (Ne.symm here) ..
        | two => rfl
      refine ⟨⟨.refl _, ?_, ?_⟩, fun _ _ changed => absurd rfl changed⟩
      · rw [updates]
        exact .refl _
      · exact (regular.updateTimeout other level).areas.trans regular.areas.symm

end RoutingNode

end Decnet.Routing
