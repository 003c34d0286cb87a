import Decnet.Lib.Expiry
import Decnet.Routing.LanCycles
import Decnet.Routing.LanRecords
import Decnet.Routing.PtpStates

/-!
# When circuits drop adjacencies

A circuit frees an adjacency when it drops it.  A point to point circuit does so
whenever it leaves the running state, a broadcast circuit of a router when the
adjacency's listen timer expires, and the one of an endnode also when it turns
to another router.  The adjacency is known by its address.
-/

namespace Decnet.Routing

open RoutingLanCircuit Throwing

/-! ## Adjacencies of point to point circuits -/

def PtpCircuit.Leaves (c : PtpCircuit) : PtpWork → Prop
  | .down => True
  | .stop => True
  | .listenTimeout => True
  | .dlStatus up => up = false
  | .received (some (.hello srcnode valid)) _ =>
    c.checkSrc srcnode = false ∨ valid = false
  | .received (some (.verify srcnode _)) _ => c.checkSrc srcnode = false
  | _ => False

theorem PtpCircuit.running_adj {c : PtpCircuit} {work : PtpWork}
    (stays : ¬ c.Leaves work) : (c.running work).1.adj = c.adj := by
  unfold running
  split
  case h_1 => rfl
  case h_2 => exact absurd trivial stays
  case h_3 => exact absurd rfl stays
  case h_4 => exact absurd trivial stays
  case h_5 srcnode valid address =>
    obtain ⟨fromIt, isValid⟩ : c.checkSrc srcnode = true ∧ valid = true := by
      simpa [Leaves] using stays
    simp [fromIt, isValid]
  case h_6 srcnode fcnval address =>
    have fromIt : c.checkSrc srcnode = true := by simpa [Leaves] using stays
    simp [fromIt]
  case h_7 => rfl
  case h_8 => exact absurd trivial stays
  case h_9 => rfl

namespace LivePtp

def Drops (c : LivePtp) (item : TimedWork) : Prop :=
  c.state ≠ .running ∨ c.circuit.Leaves item.work

theorem adj_of_not_drops {cfg : PtpConfig} {c : LivePtp} {item : TimedWork}
    (keeps : ¬ c.Drops item) : (step cfg c item).circuit.adj = c.circuit.adj := by
  obtain ⟨running, stays⟩ := not_or.mp keeps
  have running : c.state = .running := Decidable.not_not.mp running
  have followed : (follow cfg item.work c).circuit.adj = c.circuit.adj := by
    have dispatched : c.circuit.dispatch cfg.parent item.work = c.circuit.running item.work := by
      unfold PtpCircuit.dispatch
      rw [show c.circuit.state = .running from running]
    rw [follow, dispatched]
    exact PtpCircuit.running_adj stays
  have ends : Ends (dispatch cfg item) c (fun _ c' => c'.circuit.adj = c.circuit.adj)
      (fun c' => c'.circuit.adj = c.circuit.adj) := by
    unfold dispatch
    rw [ends_bind, ends_get, running]
    split
    case h_1 isRunning _ => cases isRunning
    case h_2 isRunning _ => cases isRunning
    case h_3 isRunning _ => cases isRunning
    case h_4 =>
      simp only [ends_bind, ends_startTimer]
      split <;> exact followed
    case h_5 =>
      simp only [ends_bind, ends_ite, ends_startTimer]
      split_ifs <;> exact followed
    case h_6 => exact followed
  exact (after_iff_ends (dispatch cfg item) c).mpr ends

end LivePtp

/-- The timers of a circuit: its own, which has its life, and the listen timers
of its adjacencies. -/
inductive CircuitTimer where
  | own
  | adjacency (id : Nodeid) (address : Nat)
  deriving DecidableEq

def ptpOwner (cfg : PtpConfig) : Expiry.Owner where
  State := LivePtp
  Input := TimedWork
  Timer := CircuitTimer
  step _ := LivePtp.step cfg
  present c
    | .own => True
    | .adjacency id address => ∃ n, c.circuit.adj = some n ∧ n.nodeid = id ∧ n.address = address
  armed c
    | .own => true
    | .adjacency id address => c.isUp && c.circuit.adj.any fun n =>
      decide (n.nodeid = id ∧ n.address = address)
  discards _ c item timer := timer ≠ .own ∧ c.Drops item
  present_of_armed {c timer} armed := by
    cases timer with
    | own => trivial
    | adjacency id address =>
      obtain ⟨n, has, same⟩ := (Option.any_eq_true _ _).mp (Bool.and_eq_true_iff.mp armed).2
      exact ⟨n, has, of_decide_eq_true same⟩
  kept {_ c item timer} present keeps := by
    cases timer with
    | own => trivial
    | adjacency id address =>
      have same := @LivePtp.adj_of_not_drops cfg c item fun drops => keeps ⟨nofun, drops⟩
      dsimp only at present ⊢
      rw [same]
      exact present

/-! ## Adjacencies of broadcast circuits -/

def HasAdjacency (id : Nodeid) (address : Nat) (t : LanTable) : Prop :=
  ∃ b n, known t id = some b ∧ b.adj = some n ∧ n.address = address

variable {address : Nat} {id other : Nodeid} {t : LanTable}

theorem HasAdjacency.quiet {t' : LanTable} (has : HasAdjacency id address t)
    (quiet : Quiet other t t') : HasAdjacency id address t' := by
  unfold HasAdjacency
  rw [quiet.known]
  exact has

theorem HasAdjacency.erase (has : HasAdjacency id address t) (differ : id ≠ other) :
    HasAdjacency id address (t.erase other) := by
  obtain ⟨b, n, isKnown, rest⟩ := has
  refine ⟨b, n, ?_, rest⟩
  rw [known_erase, Function.update_of_ne differ]
  exact isKnown

theorem HasAdjacency.entered {t' : LanTable} {b : LanAdjacency}
    (has : HasAdjacency id address t) (entered : Entered other b t t') (reused : ∃ l, b.adj =
      some ((entryOf other t).adj.getD l).neighbour) : HasAdjacency id address t' := by
  obtain ⟨b', n, isKnown, adj, same⟩ := has
  by_cases here : id = other
  · subst here
    refine ⟨b, n, entered.found, ?_, same⟩
    have forgotten := known_eq_some isKnown
    rw [← forgotten] at adj
    obtain ⟨l', hasAdj, rfl⟩ := Option.map_eq_some_iff.mp adj
    obtain ⟨l, reused⟩ := reused
    rw [reused, hasAdj, Option.getD_some]
  · refine ⟨b', n, ?_, adj, same⟩
    rw [entered.known, Function.update_of_ne here]
    exact isKnown

def listens (id : Nodeid) (address : Nat) (t : LanTable) : Bool :=
  ((t.find id).bind LanEntry.adj).any fun l => l.armed && decide (l.neighbour.address = address)

theorem HasAdjacency.of_listens
    (armed : listens id address t = true) : HasAdjacency id address t := by
  obtain ⟨l, has, both⟩ := (Option.any_eq_true _ _).mp armed
  obtain ⟨a, found, adj⟩ := Option.bind_eq_some_iff.mp has
  refine ⟨a.forget, l.neighbour, ?_, ?_, of_decide_eq_true (Bool.and_eq_true_iff.mp both).2⟩
  · rw [known, found, Option.map_some]
  · rw [LanEntry.forget, adj, Option.map_some]

/-- A router drops an adjacency only when its own listen timer expires. -/
theorem HasAdjacency.routing_step {cfg : LanConfig} {c : RoutingLanCircuit}
    {event : LanEvent} {out : Outside} (has : HasAdjacency id address c.station.adjacencies)
    (other : event ≠ .listenTimeout id) :
    HasAdjacency id address (step cfg c (event, out)).station.adjacencies := by
  have table := @step_table cfg out c event
  cases event with
  | routerHello rh src address =>
    simp only [TableAfter] at table
    split at table
    · exact has.entered table ⟨_, rfl⟩
    · rw [table]
      exact has
  | endnodeHello eh src address =>
    simp only [TableAfter] at table
    split at table
    · exact has.entered table ⟨_, rfl⟩
    · exact has.quiet table
  | routing | data => exact has.quiet table
  | listenTimeout expired =>
    have differ : id ≠ expired := by
      rintro rfl
      exact other rfl
    rcases table with erased | quiet
    · rw [erased]
      exact has.erase differ
    · exact has.quiet quiet
  | helloTimeout | drTimeout =>
    rw [show _ = _ from table]
    exact has

namespace RoutingLanCircuit

open Throwing LanStation

variable {cfg : LanConfig}

theorem starting_results (c : RoutingLanCircuit) :
    Results (starting cfg) c (· = c.station.adjacencies) := by
  exact Ends.seq (announce_results c) fun _ c' same =>
    @results_of_keeps _ c' (· = c.station.adjacencies) calcDr_apart.keeps same

end RoutingLanCircuit

namespace EndnodeLanCircuit

open Throwing LanStation

variable {cfg : LanConfig} {c : EndnodeLanCircuit} {id : Nodeid} {address : Nat}

def Has (id : Nodeid) (address : Nat) (c : EndnodeLanCircuit) : Prop :=
  HasAdjacency id address c.station.adjacencies

/-- Work that makes the circuit drop the adjacency of a node: the expiry of its
listen timer, or the hello of another router than the one in use. -/
def Forgets (cfg : LanConfig) (c : EndnodeLanCircuit) (id : Nodeid) :
    LanEvent → Prop
  | .listenTimeout expired => expired = id
  | .routerHello rh _ _ => rh.id.area = cfg.parent.homearea ∧
      c.dr.map Prod.fst = some id ∧ rh.id ≠ id
  | _ => False

theorem enter_has (out : Outside) (rh : RouterHello) (src new : Nat)
    {s : LanStation} (has : HasAdjacency id address s.adjacencies) :
    Leaves (enter cfg out rh src new) s (HasAdjacency id address) := by
  unfold enter
  simp only [Leaves, ends_bind]
  have entered {t : LanTable} {a : LanEntry} (reused : a.adj = (entryOf rh.id s.adjacencies).adj)
      (change : Entered rh.id { a.forget with
        state := .up
        adj := some (a.adj.getD (listener cfg rh.id (ntypeOf rh) rh.timer new)).neighbour }
        (s.adjacencies.put rh.id a) t) : HasAdjacency id address t := by
    obtain ⟨a', rfl, forget⟩ := change
    refine has.entered ⟨a', Table.put_put .., forget⟩ ⟨listener cfg rh.id
      (ntypeOf rh) rh.timer new, ?_⟩
    rw [reused]
  exact Ends.mono (adjacencyUp_leaves ..) fun _ => entered rfl

theorem dropped_has {other : Nodeid} {t t' : LanTable}
    (has : HasAdjacency id address t) (differ : id ≠ other)
    (dropped : t' = t.erase other ∨ Quiet other t t') : HasAdjacency id address t' := by
  rcases dropped with rfl | quiet
  · exact has.erase differ
  · exact has.quiet quiet

theorem forgetRouter_has (out : Outside) (has : Has id address c)
    (other : c.dr.map Prod.fst ≠ some id) :
    Ends (forgetRouter out) c (fun _ => Has id address) (Has id address) := by
  unfold forgetRouter
  rw [ends_bind, ends_get]
  split
  case h_1 => exact has
  case h_2 old src isDr =>
    have differ : id ≠ old := by
      intro same
      exact other (by rw [isDr, same]; rfl)
    rw [ends_base]
    exact Ends.mono (adjacencyDown_leaves out old) fun _ => dropped_has has differ

theorem listenTimeout_has (out : Outside) {other : Nodeid} {a : LanEntry}
    {l : Listener} (has : Has id address c)
    (differ : id ≠ other) (found : c.station.adjacencies.find other = some a)
    (listening : a.adj = some l) :
    Ends (listenTimeout out other a l) c (fun _ => Has id address) (Has id address) := by
  unfold listenTimeout
  rw [ends_bind, ends_base]
  apply Ends.imp (expire_leaves out found listening)
  · intro _ s' quiet
    have expired := has.quiet quiet
    rw [ends_bind, ends_modify, ends_base]
    split
    all_goals
      exact Ends.mono (adjacencyDown_leaves out other) fun _ => dropped_has expired differ
  · exact fun _ quiet => has.quiet quiet

theorem step_has {event : LanEvent} {out : Outside}
    (has : Has id address c) (stays : ¬ c.Forgets cfg id event) :
    Has id address (step cfg c (event, out)) := by
  apply (after_iff_ends (dispatch cfg out event) c).mpr
  unfold dispatch
  split
  case h_1 rh src new =>
    unfold routerHello
    rw [ends_bind, ends_get]
    split
    case isTrue => exact has
    case isFalse inArea =>
      split
      case isTrue =>
        rw [ends_base]
        exact Ends.mono (stillThere_leaves rh.id) fun _ => has.quiet
      case isFalse notDr =>
        have other : c.dr.map Prod.fst ≠ some id := by
          intro isDr
          refine stays ⟨Decidable.not_not.mp inArea, isDr, ?_⟩
          intro same
          exact notDr (same ▸ isDr)
        refine (forgetRouter_has out has other).seq fun _ c' still => ?_
        rw [ends_bind, ends_modify, ends_base]
        exact enter_has out rh src new still
  case h_2 expired =>
    have differ : id ≠ expired := fun same => stays same.symm
    rw [ends_bind, ends_get]
    exact ends_expiry has (listenTimeout_has out has differ)
  case h_3 => exact has

end EndnodeLanCircuit

/-- What a broadcast circuit of a router is to do. -/
inductive LanDuty where
  | start | stop
  | work (event : LanEvent) (out : Outside)

def lanOwner (cfg : LanConfig) : Expiry.Owner where
  State := RoutingLanCircuit
  Input := LanDuty
  Timer := CircuitTimer
  step _ c
    | .start => after (starting cfg c)
    | .stop => after (stopping cfg c)
    | .work event out => step cfg c (event, out)
  present c
    | .own => True
    | .adjacency id address => HasAdjacency id address c.station.adjacencies
  armed c
    | .own => true
    | .adjacency id address => listens id address c.station.adjacencies
  discards _ _ input timer := ∃ id address out,
    timer = .adjacency id address ∧ input = .work (.listenTimeout id) out
  present_of_armed {c timer} armed := by
    cases timer with
    | own => trivial
    | adjacency id address => exact HasAdjacency.of_listens armed
  kept {_ c input timer} present keeps := by
    cases timer with
    | own => trivial
    | adjacency id address =>
      cases input with
      | start =>
        change HasAdjacency id address _
        rw [(results_iff (starting cfg) c _).mp (starting_results c)]
        exact present
      | stop => exact present
      | work event out =>
        apply HasAdjacency.routing_step present
        rintro rfl
        exact keeps ⟨id, address, out, rfl, rfl⟩

def endnodeOwner (cfg : LanConfig) : Expiry.Owner where
  State := EndnodeLanCircuit
  Input := LanEvent × Outside
  Timer := CircuitTimer
  step _ := EndnodeLanCircuit.step cfg
  present c
    | .own => True
    | .adjacency id address => c.Has id address
  armed c
    | .own => true
    | .adjacency id address => listens id address c.station.adjacencies
  discards _ c input timer := ∃ id address, timer = .adjacency id address ∧ c.Forgets cfg id input.1
  present_of_armed {c timer} armed := by
    cases timer with
    | own => trivial
    | adjacency id address => exact HasAdjacency.of_listens armed
  kept {_ c input timer} present keeps := by
    cases timer with
    | own => trivial
    | adjacency id address =>
      exact EndnodeLanCircuit.step_has present fun forgets => keeps ⟨id, address, rfl, forgets⟩

end Decnet.Routing
