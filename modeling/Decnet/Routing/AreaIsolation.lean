import Decnet.Routing.Node
import Decnet.Routing.Attached

/-!
# Level 1 routing stays inside the area

The level 1 table is about node numbers, which mean something in one area only.
A router of another area that becomes a neighbour gets a column in it all the
same, and a point to point circuit sends it level 1 updates.  The table is kept
apart as long as no such column is ever filled.
-/

namespace Decnet.Routing

open List PtpCircuit AnyCircuit

namespace RouteMatrix

/-- The columns of nodes outside of `home` reach nothing, and no next hop is
such a node. -/
structure Local (home : Nat) (m : RouteMatrix) (extra : Option EndnodesRouteInfo) : Prop where
  columns : ∀ col ∈ m.columns, col.adj.nodeid.area ≠ home → ∀ i, INFCOST ≤ col.cost i
  endnodes : ∀ col ∈ extra, ∀ i a, col.adjacencies i = some a → a.nodeid.area = home
  hops : ∀ i a, m.oadj i = some a → a.nodeid.area = home

namespace Local

variable {home : Nat} {m : RouteMatrix} {extra : Option EndnodesRouteInfo}

section

variable (isLocal : Local home m extra)

include isLocal

theorem best {i : Nat} {a : Adjacency}
    (chosen : (m.best extra i).adjacency = some a) : a.nodeid.area = home := by
  rcases m.best_origin extra i with none | ⟨member, usable⟩
  · rw [none] at chosen
    cases chosen
  · rcases mem_append.1 member with column | endnode
    · obtain ⟨col, inColumns, same⟩ := mem_map.1 column
      rw [← same] at chosen usable
      cases chosen
      by_contra outside
      have unusable := isLocal.columns col inColumns outside i
      exact absurd usable (Nat.not_lt.2 unusable)
    · obtain ⟨col, inExtra, same⟩ := Option.map_eq_some_iff.1 (Option.mem_toList.1 endnode)
      rw [← same] at chosen
      exact isLocal.endnodes col inExtra i a chosen

theorem compute (low high : Nat) : Local home (m.compute low high extra).1 extra where
  columns := by
    rw [compute_columns]
    exact isLocal.columns
  endnodes := isLocal.endnodes
  hops := by
    intro i a hop
    by_cases inside : i ∈ m.range low high
    · have renewed := congrArg Route.adjacency (m.entry_compute extra inside)
      exact isLocal.best (renewed.symm.trans hop)
    · have kept := congrArg Route.adjacency (m.entry_compute_outside extra inside)
      exact isLocal.hops i a (kept.symm.trans hop)

theorem addColumn {col : RouteInfo}
    (empty : col.adj.nodeid.area ≠ home → ∀ i, INFCOST ≤ col.cost i) :
    Local home (m.addColumn col) extra := by
  refine { isLocal with columns := ?_ }
  intro col' member outside
  rcases mem_addColumn.1 member with rfl | ⟨old, _⟩
  · exact empty outside
  · exact isLocal.columns col' old outside

theorem dropColumn (adj : Adjacency) : Local home (m.dropColumn adj) extra := by
  refine { isLocal with columns := ?_ }
  intro col member
  exact isLocal.columns col (mem_dropColumn.1 member).1

theorem setColumn (adj : Adjacency) (inArea : adj.nodeid.area = home)
    (i hops cost : Nat) : Local home (m.setColumn adj i hops cost) extra := by
  refine { isLocal with columns := ?_ }
  intro col' member outside
  obtain ⟨col, inColumns, written⟩ := mem_setColumn.1 member
  split at written
  case isTrue isAdj =>
    rw [← written, RouteInfo.set_adj, isAdj] at outside
    exact absurd inArea outside
  case isFalse =>
    rw [← written] at outside ⊢
    exact isLocal.columns col inColumns outside

end

theorem setEndnode {endnodes : EndnodesRouteInfo}
    (isLocal : Local home m (some endnodes)) (i hops cost : Nat) {adjacency : Option Adjacency}
    (inArea : ∀ a ∈ adjacency, a.nodeid.area = home) :
    Local home m (some (endnodes.set i hops cost adjacency)) := by
  refine { isLocal with endnodes := ?_ }
  rintro col ⟨⟩ j a entry
  by_cases here : j = i
  · subst here
    exact inArea a (by simpa [EndnodesRouteInfo.set] using entry)
  · exact isLocal.endnodes endnodes rfl j a (by
      simpa [EndnodesRouteInfo.set, here] using entry)

end Local

end RouteMatrix

/-- A call that keeps level 1 inside of `home`: whoever is not a router is of
the area, and so is the source of whatever fills a level 1 column. -/
def Layer.Proper (home : Nat) : Layer.Input → Prop
  | .up n => n.ntype.isRouter ∨ n.nodeid.area = home
  | .down _ => True
  | .message msg n => msg.isL2 ∨ n.nodeid.area = home

namespace L1Router

structure Local (home : Nat) (r : L1Router) : Prop where
  area : r.homearea = home
  table : r.l1.Local home (some r.endnodes)

namespace Local

variable {home : Nat} {r : L1Router}

theorem computeRoutes (isLocal : Local home r) (low high : Nat) :
    Local home (r.computeRoutes low high) :=
  ⟨isLocal.area, isLocal.table.compute low high⟩

theorem start (config : RoutingConfig) (selfAddress : Nat) :
    Local config.id.area (L1Router.new config selfAddress).start := by
  unfold L1Router.start
  apply computeRoutes
  refine ⟨rfl, ?_⟩
  apply RouteMatrix.Local.addColumn
  · exact ⟨nofun, by rintro col ⟨⟩ i a ⟨⟩, nofun⟩
  · exact fun outside => absurd rfl outside

variable {n : Neighbour}

theorem adjUp (isLocal : Local home r)
    (proper : Layer.Proper home (.up n)) : Local home (r.adjUp n) := by
  unfold L1Router.adjUp
  dsimp only
  split
  case isTrue =>
    exact ⟨isLocal.area, isLocal.table.addColumn fun _ _ => Nat.le_refl _⟩
  case isFalse plain =>
    split
    · apply computeRoutes
      refine ⟨isLocal.area, isLocal.table.setEndnode _ _ _ ?_⟩
      rintro a ⟨⟩
      exact proper.resolve_left plain
    · exact ⟨isLocal.area, isLocal.table⟩

theorem adjDown (isLocal : Local home r) (n : Neighbour) : Local home (r.adjDown n) := by
  unfold L1Router.adjDown
  dsimp only
  split
  · apply computeRoutes
    exact ⟨isLocal.area, isLocal.table.dropColumn _⟩
  · split
    · apply computeRoutes
      exact ⟨isLocal.area, isLocal.table.setEndnode _ _ _ nofun⟩
    · exact ⟨isLocal.area, isLocal.table⟩

theorem setRoute (isLocal : Local home r) (inArea : n.nodeid.area = home) (i hops cost : Nat) :
    Local home (r.setRoute (.neighbour n) i hops cost) := by
  unfold L1Router.setRoute
  split
  · apply computeRoutes
    exact ⟨isLocal.area, isLocal.table.setColumn (.neighbour n) inArea _ _ _⟩
  · exact isLocal

theorem setOwnZero (isLocal : Local home r) (attached : Bool) :
    Local home (r.setOwnZero attached) := by
  apply computeRoutes
  exact ⟨isLocal.area, isLocal.table.setColumn r.selfadj isLocal.area _ _ _⟩

end Local

/-- Whatever is done to the area table, the level 1 table hears of it only
through destination 0 of the own column. -/
theorem shielded_local (home : Nat) : Shielded fun r r' => Local home r → Local home r' where
  toTacit := .of_pred (fun _ _ kept => ⟨kept.area, kept.table⟩)
    fun _ kept => ⟨kept.area, kept.table⟩
  ownZero := fun attached _ kept => kept.setOwnZero attached

end L1Router

variable {home : Nat}

theorem Layer.local_step {s : Layer} (isLocal : s.router.base.Local home) {input : Layer.Input}
    (proper : Layer.Proper home input) : (s.step input).router.base.Local home := by
  have shielded := L1Router.shielded_local home
  refine shielded.step ?_ s isLocal
  cases input with
  | up n => exact fun _ kept => kept.adjUp proper
  | down n => exact fun _ kept => kept.adjDown n
  | message msg n =>
    apply shielded.toTacit.routingMessage
    intro level1 _ u _ kept
    have inArea : n.nodeid.area = home := proper.resolve_left (by simp [level1])
    exact kept.setRoute inArea _ _ _

/-! ## Circuits -/

/-- A circuit handled a work item: it stays local, and each of its calls in
the router is proper and made while it was. -/
def Handled {γ : Type} (IsLocal : γ → Prop) (home : Nat) (result : γ × RouterCalls γ) : Prop :=
  IsLocal result.1 ∧ ∀ made ∈ result.2, IsLocal made.1 ∧ Layer.Proper home made.2

theorem Handled.quiet {γ : Type} {IsLocal : γ → Prop} {c : γ}
    (isLocal : IsLocal c) : Handled IsLocal home (c, []) :=
  ⟨isLocal, nofun⟩

namespace PtpCircuit

structure Local (home : Nat) (c : PtpCircuit) : Prop where
  adj : ∀ n ∈ c.adj, n.nodeid.area = home
  info : c.state = .routingVerify ∨ c.state = .running → c.info.id.area = home

variable {home : Nat} {c : PtpCircuit}

theorem Local.of_cleared (none : c.adj = none)
    (early : c.state ≠ .routingVerify ∧ c.state ≠ .running) : c.Local home where
  adj := by simp [none]
  info := fun late => (late.elim early.1 early.2).elim

section

variable (isLocal : c.Local home)

include isLocal

theorem Local.downCalls : ∀ made ∈ c.downCalls, made.1.Local home ∧ Layer.Proper home made.2 := by
  intro made member
  obtain ⟨n, _, rfl⟩ := mem_map.1 member
  exact ⟨isLocal, trivial⟩

theorem Local.restart : Handled (Local home) home c.restart := by
  refine ⟨.of_cleared rfl (by simp [PtpCircuit.restart]), ?_⟩
  intro made member
  simp only [PtpCircuit.restart] at member
  split at member
  · exact isLocal.downCalls made member
  · cases member

theorem Local.halt : c.halt.Local home :=
  ⟨isLocal.adj, fun late => by simp [PtpCircuit.halt] at late⟩

theorem Local.call (request : PortCall) : (c.call request).Local home :=
  { isLocal with }

theorem Local.up (known : c.info.id.area = home) : Handled (Local home) home c.up := by
  refine ⟨⟨isLocal.adj, fun _ => known⟩, ?_⟩
  intro made member
  obtain ⟨n, inAdj, rfl⟩ := mem_map.1 member
  exact ⟨isLocal, .inr (isLocal.adj n (Option.mem_toList.1 inAdj))⟩

end

theorem Local.learn {init : PtpInit} (inArea : init.srcnode.area = home)
    (address : Nat) (c : PtpCircuit) :
    (c.learn init address).Local home ∧ (c.learn init address).info.id.area = home := by
  have info : (c.learn init address).info.id = init.srcnode := by
    unfold PtpCircuit.learn
    split <;> rfl
  refine ⟨⟨?_, fun _ => info ▸ inArea⟩, info ▸ inArea⟩
  rintro n ⟨⟩
  exact inArea

/-- The work item brings no init message from another area. -/
def InArea (home : Nat) : PtpWork → Bool
  | .received (some (.init init)) _ => init.srcnode.area = home
  | _ => true

theorem Local.dispatch (isLocal : c.Local home) (parent : Parent)
    {work : PtpWork} (inArea : InArea home work) :
    Handled (Local home) home (c.dispatch parent work) := by
  unfold PtpCircuit.dispatch
  split
  case h_1 =>
    unfold halted
    split
    · exact .quiet (.of_cleared rfl (by simp))
    · exact .quiet (.of_cleared rfl (by simp))
    · exact .quiet isLocal
  case h_2 =>
    unfold datalinkStart
    split
    · exact .quiet (.of_cleared rfl (by simp))
    · exact isLocal.restart
    · exact isLocal.restart
    · exact .quiet isLocal.halt
    · exact .quiet isLocal
  case h_3 =>
    unfold routingInit
    split
    · exact isLocal.restart
    · exact isLocal.restart
    · exact isLocal.restart
    · exact .quiet isLocal.halt
    case h_5 init address =>
      obtain ⟨learned, known⟩ := Local.learn (of_decide_eq_true inArea) address c
      split
      · dsimp only
        split
        · exact .quiet ⟨learned.adj, fun _ => known⟩
        · exact learned.up known
      · exact isLocal.restart
    · exact isLocal.restart
    · exact isLocal.restart
    · exact .quiet isLocal
  case h_4 verifying =>
    unfold routingVerify
    split
    · exact isLocal.restart
    · exact isLocal.restart
    · exact isLocal.restart
    · exact .quiet isLocal.halt
    · split
      · exact isLocal.restart
      · split
        · exact isLocal.restart
        · exact isLocal.up (isLocal.info (.inl verifying))
    · exact .quiet isLocal
  case h_5 isRunning =>
    unfold running
    split
    · exact .quiet (isLocal.call _)
    · exact isLocal.restart
    · exact isLocal.restart
    · refine ⟨Local.halt ⟨nofun, isLocal.info⟩, isLocal.downCalls⟩
    · split
      · exact isLocal.restart
      · split
        · exact isLocal.restart
        · exact .quiet isLocal
    · split
      · exact isLocal.restart
      · exact .quiet isLocal
    · refine ⟨isLocal, ?_⟩
      intro made member
      obtain ⟨n, inAdj, rfl⟩ := mem_map.1 member
      exact ⟨isLocal, .inr (isLocal.adj n (Option.mem_toList.1 inAdj))⟩
    · exact ⟨.of_cleared rfl (by simp [PtpCircuit.restart]), isLocal.downCalls⟩
    · exact .quiet isLocal

end PtpCircuit

namespace LanCircuit

def Fits (home : Nat) (id : Nodeid) (n : Neighbour) : Prop :=
  n.nodeid = id ∧ (n.ntype.isRouter ∨ n.nodeid.area = home)

def Local (home : Nat) (c : LanCircuit) : Prop :=
  ∀ entry ∈ c.adjacencies, ∀ n ∈ entry.2.adj, Fits home entry.1 n

variable {home : Nat} {c : LanCircuit}

variable {a : LanAdjacency} {id : Nodeid}

theorem Local.find (isLocal : c.Local home)
    (found : c.find id = some a) : ∀ n ∈ a.adj, Fits home id n := by
  obtain ⟨before, after, split, _⟩ := lookup_eq_some_iff.1 found
  refine isLocal (id, a) ?_
  rw [split]
  exact mem_append_right _ mem_cons_self

theorem Local.find_getD (isLocal : c.Local home) (id : Nodeid) :
    ∀ n ∈ ((c.find id).getD .new).adj, Fits home id n := by
  cases found : c.find id with
  | none => exact nofun
  | some a => exact isLocal.find found

theorem Local.erase (isLocal : c.Local home) (id : Nodeid) : (c.erase id).Local home :=
  fun entry member => isLocal entry (mem_filter.1 member).1

theorem Local.put (isLocal : c.Local home)
    (fits : ∀ n ∈ a.adj, Fits home id n) : (c.put id a).Local home := by
  intro entry member
  rcases mem_cons.1 member with rfl | old
  · exact fits
  · exact isLocal entry (mem_filter.1 old).1

theorem fits_getD {adj : Option Neighbour} {n : Neighbour}
    (fits : ∀ n ∈ adj, Fits home id n) (fitsNew : Fits home id n) : Fits home id (adj.getD n) := by
  cases adj with
  | none => exact fitsNew
  | some n => exact fits n rfl

theorem Local.adjacencyUp (isLocal : c.Local home)
    {ntype : Ntype} (suits : ntype.isRouter ∨ id.area = home) (address : Nat)
    (fits : ∀ n ∈ a.adj, Fits home id n) :
    Handled (Local home) home (c.adjacencyUp id ntype address a) := by
  have fitsUp : Fits home id (a.adj.getD ⟨address, id, ntype, c.circuit⟩) :=
    fits_getD fits ⟨rfl, suits⟩
  have put : (c.put id { a with
      state := .up
      adj := some (a.adj.getD ⟨address, id, ntype, c.circuit⟩) }).Local
      home := by
    apply isLocal.put
    rintro n ⟨⟩
    exact fitsUp
  refine ⟨put, ?_⟩
  intro made member
  rw [mem_singleton.1 member]
  exact ⟨put, fitsUp.2⟩

theorem Local.adjacencyDown (isLocal : c.Local home) (id : Nodeid) :
    Handled (Local home) home (c.adjacencyDown id) := by
  unfold LanCircuit.adjacencyDown
  split
  · exact .quiet isLocal
  · refine ⟨isLocal.erase id, ?_⟩
    intro made member
    split at member
    · obtain ⟨n, _, rfl⟩ := mem_map.1 member
      exact ⟨isLocal, trivial⟩
    · cases member

/-- The work item brings no level 1 routing message from another area. -/
def InArea (home : Nat) : LanWork → Bool
  | .received (.routing message) _ _ =>
    message.isL2 ∨ message.srcnode.area = home
  | _ => true

section

variable (isLocal : c.Local home)

include isLocal

theorem Local.routerHello (parent : Parent) (rh : RouterHello) (src address : Nat) :
    Handled (Local home) home (c.routerHello parent rh src address) := by
  have router : (if rh.areaRouter then Ntype.l2router
      else .l1router).isRouter := by
    split <;> rfl
  unfold LanCircuit.routerHello
  split
  · exact .quiet isLocal
  · dsimp only
    have fits : ∀ n ∈ some (((c.find rh.id).getD .new).adj.getD
        ⟨address, rh.id, if rh.areaRouter then .l2router else .l1router,
          c.circuit⟩), Fits home rh.id n := by
      rintro n ⟨⟩
      exact fits_getD (isLocal.find_getD rh.id) ⟨rfl, .inl router⟩
    split
    · exact isLocal.adjacencyUp (.inl router) address fits
    · exact .quiet (isLocal.put fits)

theorem Local.endnodeHello {parent : Parent} (area : parent.homearea = home)
    (eh : EndnodeHello) (src address : Nat) :
    Handled (Local home) home (c.endnodeHello parent eh src address) := by
  unfold LanCircuit.endnodeHello
  split
  case isTrue => exact .quiet isLocal
  case isFalse inArea =>
    dsimp only
    split
    · exact .quiet isLocal
    · refine isLocal.adjacencyUp (.inr ?_) address (isLocal.find_getD eh.id)
      exact (not_not.1 inArea).trans area

theorem Local.routingMessage {message : RoutingMessage}
    (inArea : message.isL2 ∨ message.srcnode.area = home) :
    Handled (Local home) home (c.routingMessage message) := by
  unfold LanCircuit.routingMessage
  split
  case h_1 => exact .quiet isLocal
  case h_2 a found =>
    refine ⟨isLocal, ?_⟩
    intro made member
    split at member
    · obtain ⟨n, inAdj, rfl⟩ := mem_map.1 member
      obtain ⟨source, _⟩ := isLocal.find found n (Option.mem_toList.1 inAdj)
      exact ⟨isLocal, inArea.imp_right fun area => source ▸ area⟩
    · cases member

theorem Local.listenTimeout (id : Nodeid) : Handled (Local home) home (c.listenTimeout id) := by
  obtain ⟨after, calls⟩ := isLocal.adjacencyDown id
  unfold LanCircuit.listenTimeout
  split
  · exact .quiet isLocal
  · refine ⟨after, ?_⟩
    intro made member
    rcases mem_cons.1 member with rfl | later
    · exact ⟨isLocal, trivial⟩
    · exact calls made later

theorem Local.dispatch {parent : Parent} (area : parent.homearea = home)
    {work : LanWork} (inArea : InArea home work) :
    Handled (Local home) home (c.dispatch parent work) := by
  cases work with
  | received packet src address =>
    cases packet with
    | routerHello rh => exact isLocal.routerHello parent rh src address
    | endnodeHello eh => exact isLocal.endnodeHello area eh src address
    | routing message =>
      exact isLocal.routingMessage (of_decide_eq_true inArea)
    | data => exact .quiet isLocal
  | listenTimeout id => exact isLocal.listenTimeout id

end

end LanCircuit

/-! ## The node -/

def AnyCircuit.Local (home : Nat) : AnyCircuit → Prop
  | ptp c => c.Local home
  | lan c => c.Local home

theorem AnyCircuit.local_new (home name : Nat) (config : CircuitConfig) :
    (new name config).Local home := by
  unfold new
  split
  · exact fun entry member => nomatch member
  · exact .of_cleared rfl (by simp [PtpCircuit.new])

theorem AnyCircuit.local_sendUpdate (messages : List RoutingMessage)
    {c : AnyCircuit} (isLocal : c.Local home) :
    (messages.foldl sendUpdate c).Local home := by
  induction messages generalizing c with
  | nil => exact isLocal
  | cons message messages ih =>
    apply ih
    cases c with
    | lan c => exact isLocal
    | ptp c =>
      show (c.sendUpdate message).Local home
      unfold PtpCircuit.sendUpdate
      split
      · exact Local.call isLocal _
      · exact isLocal

namespace RoutingNode

structure Local (home : Nat) (s : RoutingNode) : Prop where
  router : s.router.base.Local home
  circuits : ∀ name, (s.circuits name).Local home
  sent : ∀ e ∈ s.sent, ∀ id ∈ e.receiver, id.area = home

theorem foldl_notify (requests : List Output) (s : RoutingNode) :
    (requests.foldl notify s).layer = s.layer ∧ (requests.foldl notify s).circuits = s.circuits ∧
      (requests.foldl notify s).sent = s.sent := by
  induction requests generalizing s with
  | nil => exact ⟨rfl, rfl, rfl⟩
  | cons request requests ih =>
    obtain ⟨layer, circuits, sent⟩ := ih (s.notify request)
    cases request <;> exact ⟨layer, circuits, sent⟩

theorem local_update {home : Nat} {circuits : Nat → AnyCircuit}
    (isLocal : ∀ name, (circuits name).Local home) (name : Nat)
    {c : AnyCircuit} (isLocal' : c.Local home) (other : Nat) :
    (Function.update circuits name c other).Local home := by
  by_cases same : other = name
  · subst same
    rwa [Function.update_self]
  · rw [Function.update_of_ne same]
    exact isLocal other

variable {home : Nat} {s : RoutingNode}

theorem Local.call (isLocal : s.Local home) (name : Nat)
    {made : AnyCircuit × Layer.Input} (snapshot : made.1.Local home)
    (proper : Layer.Proper home made.2) : (s.call name made).Local home := by
  unfold RoutingNode.call
  constructor
  · unfold RoutingNode.router
    rw [(foldl_notify _ _).1]
    exact Layer.local_step isLocal.router proper
  · rw [(foldl_notify _ _).2.1]
    exact local_update isLocal.circuits name snapshot
  · rw [(foldl_notify _ _).2.2]
    exact isLocal.sent

theorem Local.perform (isLocal : s.Local home) (name : Nat)
    {after : AnyCircuit} (afterLocal : after.Local home) {calls : RouterCalls AnyCircuit}
    (handled : ∀ made ∈ calls, made.1.Local home ∧
      Layer.Proper home made.2) : (s.perform name after calls).Local home := by
  have called : (calls.foldl (RoutingNode.call name) s).Local home := by
    induction calls generalizing s with
    | nil => exact isLocal
    | cons made calls ih =>
      obtain ⟨snapshot, proper⟩ := handled made mem_cons_self
      exact ih (isLocal.call name snapshot proper)
        fun later member => handled later (.tail _ member)
  exact ⟨called.router, local_update called.circuits name afterLocal, called.sent⟩

theorem Local.updateTimeout (isLocal : s.Local home) (name : Nat)
    (level : Level) : (s.updateTimeout name level).Local home := by
  refine ⟨isLocal.router, ?_, ?_⟩
  · apply local_update isLocal.circuits
    exact local_sendUpdate _ (isLocal.circuits name)
  · intro e member id receives
    rcases mem_append.1 member with old | new
    · exact isLocal.sent e old id receives
    · obtain ⟨message, _, rfl⟩ := mem_map.1 new
      have circuit := isLocal.circuits name
      cases kind : s.circuits name with
      | lan c =>
        rw [kind] at receives
        cases receives
      | ptp c =>
        rw [kind] at receives circuit
        unfold receiver at receives
        dsimp only at receives
        split at receives
        case isTrue isRunning =>
          cases receives
          exact Local.info circuit (.inr isRunning)
        case isFalse => cases receives

/-- No init message from another area arrives on a point to point circuit, and
no level 1 routing message from another area on a LAN. -/
def InArea (s : RoutingNode) : Input → Prop
  | .ptp _ work => PtpCircuit.InArea s.router.base.homearea work
  | .lan _ work => LanCircuit.InArea s.router.base.homearea work
  | .updateTimeout .. => True

instance (s : RoutingNode) : ∀ input, Decidable (s.InArea input)
  | .ptp _ _ => inferInstanceAs (Decidable (_ = true))
  | .lan _ _ => inferInstanceAs (Decidable (_ = true))
  | .updateTimeout .. => .isTrue trivial

theorem Local.ptpWork (isLocal : s.Local home) (name : Nat) {work : PtpWork}
    (inArea : PtpCircuit.InArea home work) : (s.ptpWork name work).Local home := by
  have circuit := isLocal.circuits name
  unfold RoutingNode.ptpWork
  split
  case h_1 c kind =>
    rw [kind] at circuit
    obtain ⟨after, calls⟩ := Local.dispatch circuit s.router.parent inArea
    apply isLocal.perform name
    · exact after
    · intro made member
      obtain ⟨own, inCalls, rfl⟩ := mem_map.1 member
      exact calls own inCalls
  case h_2 => exact isLocal

theorem Local.lanWork (isLocal : s.Local home) (name : Nat) {work : LanWork}
    (inArea : LanCircuit.InArea home work) : (s.lanWork name work).Local home := by
  have area : s.router.parent.homearea = home := by
    refine Eq.trans ?_ isLocal.router.area
    cases s.router <;> rfl
  have circuit := isLocal.circuits name
  unfold RoutingNode.lanWork
  split
  case h_1 => exact isLocal
  case h_2 c kind =>
    rw [kind] at circuit
    obtain ⟨after, calls⟩ := LanCircuit.Local.dispatch circuit area inArea
    apply isLocal.perform name
    · exact after
    · intro made member
      obtain ⟨own, inCalls, rfl⟩ := mem_map.1 member
      exact calls own inCalls

theorem Local.step (isLocal : s.Local home) {input : Input}
    (inArea : s.InArea input) : (s.step input).Local home := by
  cases input with
  | ptp name work =>
    rw [InArea, isLocal.router.area] at inArea
    exact isLocal.ptpWork name inArea
  | lan name work =>
    rw [InArea, isLocal.router.area] at inArea
    exact isLocal.lanWork name inArea
  | updateTimeout name level => exact isLocal.updateTimeout name level

theorem Local.start (area : Bool) (config : RoutingConfig)
    (selfAddress : Nat) (circuits : Nat → CircuitConfig) :
    (RoutingNode.start area config selfAddress circuits).Local config.id.area := by
  have level1 := L1Router.Local.start config selfAddress
  refine ⟨?_, fun name => local_new _ name _, nofun⟩
  cases area with
  | false => exact level1
  | true =>
    exact (L1Router.shielded_local _).computeAreas _ _ _ level1

/-- Area isolation: the next hops of the level 1 table are of the area, and so
is whoever gets a level 1 update on a point to point circuit. -/
structure Isolated (s : RoutingNode) : Prop where
  hops : ∀ t a, s.router.base.l1.oadj t = some a → a = s.router.base.selfadj ∨
      a.nodeid.area = s.router.base.homearea
  sent : ∀ e ∈ s.sent, e.level = .one → ∀ id ∈ e.receiver, id.area = s.router.base.homearea

theorem Local.isolated (isLocal : s.Local home) : s.Isolated where
  hops := fun t a hop => .inr ((isLocal.router.table.hops t a hop).trans isLocal.router.area.symm)
  sent := fun e member _ id receives =>
    (isLocal.sent e member id receives).trans isLocal.router.area.symm

/-- An area router keeps its level 1 routing inside the area as long as its
point to point neighbours are of the area and no router of another area sends
it level 1 routing messages. -/
theorem areas_isolated (config : RoutingConfig) (selfAddress : Nat)
    (circuits : Nat → CircuitConfig) (inputs : List Input) (inArea : Run.Guarded step InArea
      (start true config selfAddress circuits) inputs) :
    ((start true config selfAddress circuits).run inputs).Isolated := by
  have isLocal : ((start true config selfAddress circuits).run inputs).Local config.id.area :=
    inArea.invariant (fun _ _ isLocal ok => isLocal.step ok)
      (Local.start true config selfAddress circuits)
  exact isLocal.isolated

def exampleCircuits (name : Nat) : CircuitConfig where
  broadcast := name == 1
  cost := 4
  verify := []
  expectVerify := []
  startWorks := true

/-- The area router of area 2 that is adjacent on the LAN sends area routes
only; the router 1.2 on the point to point circuit sends node routes. -/
def inAreaInputs : List Input :=
  [.ptp 0 .start, .ptp 0 (.dlStatus true),
    .ptp 0 (.received (some (.init ⟨.make 1 2, .l1router, false, false, 576⟩)) 100),
    .ptp 0 (.received (some (.routing (.l1Routing (.make 1 2) [⟨3, [routeEntry 0 0]⟩]))) 101),
    .lan 1 (.received (.routerHello ⟨.make 2 2, true, 64, 15, [.make 1 1]⟩) 7 102),
    .lan 1 (.received (.routing (.l2Routing (.make 2 2) [⟨2, [routeEntry 0 0]⟩])) 7 103),
    .updateTimeout 0 .one, .updateTimeout 1 .two]

theorem areas_isolated_mixed :
    ((start true Layer.exampleConfig 7 exampleCircuits).run inAreaInputs).Isolated :=
  areas_isolated Layer.exampleConfig 7 exampleCircuits inAreaInputs (by decide +kernel)

/-- The area router 2.2 on a point to point circuit sends a level 1 message
about node 3. -/
def otherAreaInputs : List Input :=
  [.ptp 0 .start, .ptp 0 (.dlStatus true),
    .ptp 0 (.received (some (.init ⟨.make 2 2, .l2router, false, false, 576⟩)) 100),
    .ptp 0 (.received (some (.routing (.l1Routing (.make 2 2) [⟨3, [routeEntry 0 0]⟩]))) 101),
    .updateTimeout 0 .one]

/-- Packets for node 1.3 now go to 2.2, and 2.2 is told which nodes of area 1
are reachable. -/
theorem other_area_joins_level1 :
    let s := (start true Layer.exampleConfig 7 exampleCircuits).run otherAreaInputs
    ((s.router.base.l1.oadj 3).map fun a => (a.isSelf, a.nodeid)) = some (false, .make 2 2) ∧
      (∃ e ∈ s.sent, e.level = .one ∧ e.receiver = some (.make 2 2)) ∧ ¬ s.Isolated := by
  intro s
  have hop : ((s.router.base.l1.oadj 3).map fun a =>
      (a.isSelf, a.nodeid)) = some (false, .make 2 2) := by decide +kernel
  have sent : ∃ e ∈ s.sent, e.level = .one ∧ e.receiver = some (.make 2 2) := by decide +kernel
  refine ⟨hop, sent, fun isolated => ?_⟩
  obtain ⟨e, member, level, receiver⟩ := sent
  have area := isolated.sent e member level _ receiver
  have home : s.router.base.homearea = 1 := by decide +kernel
  rw [home] at area
  exact absurd area (by decide)

end RoutingNode

end Decnet.Routing
