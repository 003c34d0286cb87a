import Decnet.Routing.RoutingLan

/-!
# What a work item does to the table of neighbours

`LanEntry.forget` is what a circuit knows of a neighbour apart from the state
of its listen timer.  Each work item changes it in one way, whatever the calls
outside the circuit do and wherever an exception cuts it short.
-/

namespace Decnet.Routing

open Throwing RoutingLanCircuit Function TimerWheel LanEntry Admits Table

def LanEntry.forget (a : LanEntry) : LanAdjacency where
  adj := a.adj.map Listener.neighbour
  macaddr := a.macaddr
  state := a.state
  prio := a.prio
  ntype := a.ntype
  listenTime := a.listenTime

/-- Nothing changed but the state of the listen timer of `id`. -/
inductive Quiet (id : Nodeid) (t : LanTable) : LanTable → Prop where
  | same : Quiet id t t
  | timer {a a' : LanEntry} (found : t.find id = some a)
      (kept : a'.forget = a.forget) : Quiet id t (t.put id a')

/-- `id` was entered, or its entry replaced, by one with the given
knowledge. -/
def Entered (id : Nodeid) (known : LanAdjacency) (t t' : LanTable) : Prop :=
  ∃ a', t' = t.put id a' ∧ a'.forget = known

namespace Quiet

variable {id : Nodeid} {t t' t'' : LanTable}

theorem trans (first : Quiet id t t') (second : Quiet id t' t'') : Quiet id t t'' := by
  cases first with
  | same => exact second
  | timer found kept =>
    cases second with
    | same => exact .timer found kept
    | timer found' kept' =>
      rw [find_put_self] at found'
      cases found'
      rw [put_put]
      exact .timer found (kept'.trans kept)

theorem erase (quiet : Quiet id t t') : t'.erase id = t.erase id := by
  cases quiet with
  | same => rfl
  | timer => exact erase_put Nodeid.value_injective ..

theorem find (quiet : Quiet id t t') (other : Nodeid) :
    (t'.find other).map forget = (t.find other).map forget := by
  cases quiet with
  | same => rfl
  | timer found kept =>
    by_cases here : other = id
    · subst here
      rw [find_put_self, found, Option.map_some, Option.map_some, kept]
    · rw [find_put_of_ne Nodeid.value_injective here]

end Quiet

/-! ## Exceptions -/

/-- Anything but the wheel's refusal. -/
def Thrown.Benign : Thrown → Prop
  | .overflowError _ => False
  | .fieldOverflow _ => True
  | .outside => True

variable {e : Thrown}

theorem check_benign {α : Type} {c : Prop} [Decidable c] {text : String} {value : α}
    (failed : (if c then throw (.fieldOverflow text) else pure value : Except Thrown α) =
      .error e) : e.Benign := by
  split at failed
  · cases failed
    trivial
  · cases failed

theorem bind_benign {α β : Type} {x : Except Thrown α} {f : α → Except Thrown β}
    (first : ∀ {e}, x = .error e → e.Benign) (later : ∀ {value e}, f value = .error e → e.Benign)
    (failed : (x >>= f) = .error e) : e.Benign := by
  cases x with
  | error cause =>
    cases failed
    exact first rfl
  | ok value => exact later failed

theorem mapM_encodeEntry_benign {entries : List (Nodeid × LanEntry)}
    (failed : entries.mapM encodeEntry = .error e) : e.Benign := by
  induction entries generalizing e with
  | nil => cases failed
  | cons entry entries induction =>
    rw [List.mapM_cons] at failed
    exact bind_benign check_benign (bind_benign induction (by rintro _ _ ⟨⟩)) failed

/-! ## Outcomes of the basic operations -/

namespace LanStation

variable {good : Unit → LanStation → Prop} {bad : LanStation → Prop} {s : LanStation}

@[simp] theorem ends_startTimer (ms : Nat) :
    Ends (startTimer ms) s good bad ↔
      if Spans ms then good () s else bad s := by
  unfold startTimer
  by_cases spans : Spans ms
  · rw [start_of_spans spans, if_pos spans]
    rfl
  · rw [start_of_not_spans spans, if_neg spans]
    rfl

@[simp] theorem ends_callOutside (out : Outside) (call : Call) :
    Ends (callOutside out call) s good bad ↔
      if out call then good () s else bad s := by
  simp [callOutside]

@[simp] theorem ends_callRouter (out : Outside) (call : Call) (input : Layer.Input) :
    Ends (callRouter out call input) s good bad ↔
      if out call then good () { s with calls := s.calls ++ [input] }
      else bad { s with calls := s.calls ++ [input] } := by
  simp [callRouter]

@[simp] theorem ends_store (id : Nodeid) (a : LanEntry) {good : LanEntry → LanStation → Prop} :
    Ends (store id a) s good bad ↔ good a (s.put id a) :=
  Iff.rfl

@[simp] theorem put_adjacencies (id : Nodeid) (a : LanEntry)
    (s : LanStation) : (s.put id a).adjacencies = s.adjacencies.put id a :=
  rfl

@[simp] theorem ends_alive (id : Nodeid) (a : LanEntry) (l : Listener)
    {good : LanEntry → LanStation → Prop} :
    Ends (alive id a l) s good bad ↔
      if Spans l.t4 then
        good { a with adj := some { l with armed := true } }
          (s.put id { a with adj := some { l with armed := true } })
      else bad s := by
  simp [alive]

/-- A listen timer that does not run cannot expire. -/
theorem ends_expiry {σ : Type} {handle : LanEntry → Listener → EStateM Thrown σ Unit} {state : σ}
    {good : Unit → σ → Prop} {bad : σ → Prop} {t : LanTable} {id : Nodeid} (idle : good () state)
    (expired : ∀ {a l}, t.find id = some a → a.adj = some l → Ends (handle a l) state good bad) :
    Ends (match t.find id with
      | some a =>
        match a.adj with
        | some l => if l.armed then handle a l else pure ()
        | none => pure ()
      | none => pure ()) state good bad := by
  split
  case h_1 a found =>
    split
    case h_1 l has =>
      split
      · exact expired found has
      · exact idle
    case h_2 => exact idle
  case h_2 => exact idle

/-- A property of the table of neighbours, whichever way a run ends. -/
def Leaves (x : StationM Unit) (s : LanStation) (property : LanTable → Prop) : Prop :=
  Ends x s (fun _ s' => property s'.adjacencies) (fun s' => property s'.adjacencies)

section

variable (out : Outside)

/-- An adjacency is marked as up before anything can throw. -/
theorem adjacencyUp_leaves (id : Nodeid) (a : LanEntry) (l : Listener) :
    Leaves (adjacencyUp out id a l) s (Entered id
      { a.forget with state := .up, adj := some (a.adj.getD l).neighbour } s.adjacencies) := by
  simp only [Leaves, adjacencyUp, up, ends_bind, ends_store, ends_ite, ends_startTimer,
    ends_callRouter, ends_callOutside, put_adjacencies, put_put]
  split_ifs <;> exact ⟨_, rfl, rfl⟩

section

variable {id : Nodeid} {a : LanEntry} {l : Listener} (found : s.adjacencies.find id = some a)
  (has : a.adj = some l)

include found has

theorem down_leaves : Leaves (down out id a l) s (Quiet id s.adjacencies) := by
  simp only [Leaves, down, ends_bind, ends_ite, ends_callRouter]
  have kept : ({ a with adj := some { l with up := false, armed := false } } :
      LanEntry).forget = a.forget := by
    simp [forget, has]
  split_ifs
  · exact .timer found kept
  · exact .timer found kept
  · exact .same

theorem expire_leaves : Leaves (expire out id a l) s (Quiet id s.adjacencies) := by
  have kept : ({ a with adj := some { l with armed := false } } : LanEntry).forget = a.forget := by
    simp [forget, has]
  have stopped : Quiet id s.adjacencies (s.put id
      { a with adj := some { l with armed := false } }).adjacencies := .timer found kept
  have downed := @down_leaves (s.put id { a with adj := some { l with armed := false } }) out id
    { a with adj := some { l with armed := false } } { l with armed := false }
    (find_put_self ..) rfl
  exact downed.mono fun _ => stopped.trans

end

theorem reportDown_leaves {id : Nodeid} {a : LanEntry} (found : s.adjacencies.find id = some a) :
    Leaves (reportDown out id a) s (Quiet id s.adjacencies) := by
  unfold reportDown
  split
  case h_1 l has _ =>
    simp only [Leaves, ends_bind, ends_callOutside]
    split_ifs
    · exact down_leaves out found has
    · exact .same
  case h_2 => exact .same

theorem adjacencyDown_ends {id : Nodeid} {a : LanEntry} (found : s.adjacencies.find id = some a) :
    Ends (adjacencyDown out id) s (fun _ s' => s'.adjacencies = s.adjacencies.erase id)
      (fun s' => Quiet id s.adjacencies s'.adjacencies) := by
  unfold adjacencyDown
  rw [ends_bind, ends_get, found, ends_bind]
  apply Ends.imp (reportDown_leaves out found)
  · exact fun _ s' quiet => quiet.erase
  · exact fun _ quiet => quiet

/-- A neighbour that goes down is dropped, unless an exception keeps its
entry. -/
theorem adjacencyDown_leaves (id : Nodeid) :
    Leaves (adjacencyDown out id) s fun t =>
      t = s.adjacencies.erase id ∨ Quiet id s.adjacencies t := by
  cases found : s.adjacencies.find id with
  | none =>
    unfold adjacencyDown
    rw [Leaves, ends_bind, ends_get, found]
    exact .inr .same
  | some a =>
    exact (adjacencyDown_ends out found).imp (fun _ _ => .inl) fun _ => .inr

end

theorem alive_quiet {id : Nodeid} {a : LanEntry} {l : Listener}
    (found : s.adjacencies.find id = some a) (has : a.adj = some l) :
    Quiet id s.adjacencies (s.put id { a with adj := some { l with armed := true } }).adjacencies :=
  .timer found (by simp [forget, has])

end LanStation

namespace RoutingLanCircuit

open LanStation

variable {s : LanStation}

theorem upEntry_found {id : Nodeid} {a : LanEntry} {l : Listener}
    (isUp : upEntry id s = some (a, l)) : s.adjacencies.find id = some a ∧ a.adj = some l := by
  unfold upEntry at isUp
  split at isUp
  case h_1 a' found =>
    split at isUp
    · obtain ⟨l', has, same⟩ := Option.map_eq_some_iff.mp isUp
      cases same
      exact ⟨found, has⟩
    · cases isUp
  case h_2 => cases isUp

theorem routingMessage_leaves (out : Outside) (message : RoutingMessage) :
    Leaves (routingMessage out message) s (Quiet message.srcnode s.adjacencies) := by
  unfold routingMessage
  simp only [Leaves, ends_bind, ends_get]
  split
  case h_1 => exact .same
  case h_2 a l isUp =>
    obtain ⟨found, has⟩ := upEntry_found isUp
    simp only [ends_bind, ends_alive, ends_callRouter, ite_self]
    split_ifs
    · exact alive_quiet found has
    · exact .same

theorem data_leaves (srcnode : Nodeid) (src : Nat) :
    Leaves (data srcnode src) s (Quiet srcnode s.adjacencies) := by
  unfold data
  simp only [Leaves, ends_bind, ends_get]
  split
  case h_1 => exact .same
  case h_2 a l isUp =>
    obtain ⟨found, has⟩ := upEntry_found isUp
    simp only [ends_ite, ends_bind, ends_alive]
    split_ifs
    · exact alive_quiet found has
    · exact .same
    · exact .same

def entryOf (id : Nodeid) (t : LanTable) : LanEntry := (t.find id).getD .new

/-- The seconds that the listen timer is a multiple of. -/
def listenBase (cfg : LanConfig) (timer : Nat) (a : LanEntry) : Nat :=
  match a.adj with
  | some l => l.base
  | none => if timer = 0 then cfg.t3 else timer

/-- The listen timer of the adjacency that a hello refreshes, or that is made
for it, fits the wheel. -/
def Listens (cfg : LanConfig) (timer : Nat) (a : LanEntry) : Prop :=
  TimerWheel.Spans (listenBase cfg timer a * 2100)

instance (cfg : LanConfig) (timer : Nat) (a : LanEntry) : Decidable (Listens cfg timer a) :=
  inferInstanceAs (Decidable (TimerWheel.Spans _))

theorem getD_listener_t4 (cfg : LanConfig) (id : Nodeid) (ntype : Ntype)
    (timer address : Nat) (a : LanEntry) :
    (a.adj.getD (listener cfg id ntype timer address)).t4 = listenBase cfg timer a * 2100 := by
  unfold listenBase
  cases a.adj <;> rfl

def Lists (cfg : LanConfig) (rh : RouterHello) : Prop :=
  rh.routers.contains cfg.parent.nodeid

instance (cfg : LanConfig) (rh : RouterHello) : Decidable (Lists cfg rh) :=
  inferInstanceAs (Decidable (_ = _))

def afterRouterHello (cfg : LanConfig) (rh : RouterHello) (src address : Nat)
    (a : LanEntry) : LanAdjacency where
  adj := some (a.adj.getD (listener cfg rh.id (ntypeOf rh) rh.timer address)).neighbour
  macaddr := src
  state := if Lists cfg rh ∧ Listens cfg rh.timer a then .up else a.state
  prio := rh.prio
  ntype := ntypeOf rh
  listenTime := rh.timer * 31

theorem hello_leaves (cfg : LanConfig) (out : Outside) (rh : RouterHello)
    (src address : Nat) (a : LanEntry) :
    Leaves (do
        let a ← store rh.id (heardRouter cfg rh src address a)
        let a ← alive rh.id a (a.adj.getD (listener cfg rh.id a.ntype rh.timer address))
        confirm cfg out rh address a) s
      (Entered rh.id (afterRouterHello cfg rh src address a) s.adjacencies) := by
  have t4 := getD_listener_t4 cfg rh.id (ntypeOf rh) rh.timer address a
  simp only [Leaves, ends_bind, ends_store, ends_alive, heardRouter, Option.getD_some, t4]
  by_cases listens : Listens cfg rh.timer a
  · have spans : Spans (listenBase cfg rh.timer a * 2100) := listens
    rw [if_pos spans]
    unfold confirm
    by_cases confirmed : rh.routers.contains cfg.parent.nodeid ∧ a.state ≠ .up
    · have listed : Lists cfg rh := confirmed.1
      rw [if_pos confirmed]
      refine Ends.mono (adjacencyUp_leaves ..) ?_
      rintro _ ⟨a', table, forget⟩
      refine ⟨a', by simpa using table, forget.trans ?_⟩
      simp [afterRouterHello, LanEntry.forget, listens, listed]
    · rw [if_neg confirmed]
      refine ⟨_, put_put .., ?_⟩
      have sameState : (if Lists cfg rh ∧ Listens cfg rh.timer a
          then AdjState.up else a.state) = a.state := by
        split
        case isTrue both =>
          by_contra notUp
          exact confirmed ⟨both.1, Ne.symm notUp⟩
        case isFalse => rfl
      simp [afterRouterHello, LanEntry.forget, sameState]
  · have spans : ¬ Spans (listenBase cfg rh.timer a * 2100) := listens
    rw [if_neg spans]
    refine ⟨_, rfl, ?_⟩
    simp [afterRouterHello, LanEntry.forget, listens]

def afterEndnodeHello (cfg : LanConfig) (eh : EndnodeHello)
    (src address : Nat) (a : LanEntry) : LanAdjacency where
  adj := some (a.adj.getD (listener cfg eh.id .endnode eh.timer address)).neighbour
  macaddr := src
  state := .up
  prio := a.prio
  ntype := .endnode
  listenTime := eh.timer * 31

theorem endnodeHello_leaves (cfg : LanConfig) (out : Outside)
    (eh : EndnodeHello) (src address : Nat) :
    Leaves (endnodeHello cfg out eh src address) s fun t =>
      if eh.id.area = cfg.parent.homearea ∧ (entryOf eh.id s.adjacencies).state ≠ .up then
        Entered eh.id (afterEndnodeHello cfg eh src address
          (entryOf eh.id s.adjacencies)) s.adjacencies t
      else Quiet eh.id s.adjacencies t := by
  unfold endnodeHello
  by_cases inArea : eh.id.area = cfg.parent.homearea
  · rw [if_pos inArea]
    change Ends (if (entryOf eh.id s.adjacencies).state = .up then _ else _)
      _ _ _
    by_cases isUp : (entryOf eh.id s.adjacencies).state = .up
    · have found : s.adjacencies.find eh.id = some (entryOf eh.id s.adjacencies) := by
        unfold entryOf at isUp ⊢
        cases found : s.adjacencies.find eh.id with
        | none =>
          rw [found] at isUp
          cases isUp
        | some a => rfl
      rw [if_pos isUp]
      simp only [isUp, ne_eq, not_true_eq_false, and_false, if_false]
      split
      case h_1 => exact .same
      case h_2 l has =>
        simp only [ends_bind, ends_alive]
        split_ifs
        · exact alive_quiet found has
        · exact .same
    · rw [if_neg isUp]
      simp only [inArea, isUp, ne_eq]
      exact adjacencyUp_leaves ..
  · rw [if_neg inArea]
    simp only [inArea]
    exact .same

/-! ## Whole work items -/

/-- What the election and the hellos have no part in. -/
def Apart (t : LanTable) (armed : Bool) (calls : List Layer.Input) (c : RoutingLanCircuit) : Prop :=
  c.station.adjacencies = t ∧ c.station.helloArmed = armed ∧ c.station.calls = calls

variable {cfg : LanConfig} {t : LanTable} {armed : Bool} {calls : List Layer.Input}

@[simp] theorem ends_base {α : Type} {x : StationM α}
    {c : RoutingLanCircuit} {good : α → RoutingLanCircuit → Prop} {bad : RoutingLanCircuit → Prop} :
    Ends (base x) c good bad ↔ Ends x c.station (fun value s => good value { c with station := s })
        (fun s => bad { c with station := s }) :=
  ends_zoom

/-- However it ends, and not for the wheel's refusal. -/
abbrev Aside (t : LanTable) (armed : Bool) (calls : List Layer.Input)
    (x : RoutingLanM Unit) : Prop :=
  Admits (Apart t armed calls) Thrown.Benign x

theorem sendHello_apart : Aside t armed calls (sendHello cfg) := by
  apply get_bind
  intro c apart
  split
  case h_1 e failed =>
    exact admits_throw
      (bind_benign (bind_benign mapM_encodeEntry_benign check_benign) check_benign failed)
  case h_2 => exact fun _ apart => apart

theorem standBy_apart : Aside t armed calls standBy := by
  apply get_bind
  intro c apart
  split
  · intro c' apart
    exact apart
  · exact admits_pure _

theorem stepDown_apart : Aside t armed calls (stepDown cfg) := by
  apply get_bind
  intro c apart
  split
  · apply Admits.bind
    · exact admits_modify fun _ apart => apart
    · exact fun _ => sendHello_apart
  · exact admits_pure _

theorem calcDr_apart : Aside t armed calls (calcDr cfg) := by
  apply get_bind
  intro c apart
  dsimp only
  split
  · exact standBy_apart
  · refine stepDown_apart.bind fun _ => admits_modify ?_
    intro c' apart
    split <;> exact apart

theorem becomeDr_apart : Aside t armed calls (becomeDr cfg) := by
  apply Admits.bind
  · exact admits_modify fun _ apart => apart
  · intro _
    apply get_bind
    intro c apart
    split
    · apply Admits.bind
      · exact admits_modify fun _ apart => apart
      · exact fun _ => sendHello_apart
    · exact calcDr_apart

theorem renewElection_apart (id : Nodeid) (wasRouter : Bool) :
    Aside t armed calls (renewElection cfg id wasRouter) := by
  refine (admits_modify ?_).bind fun _ => ?_
  · intro c apart
    split <;> exact apart
  · split
    · exact calcDr_apart.bind fun _ => sendHello_apart
    · exact admits_pure _

/-- A property of the table of neighbours, whichever way a run ends. -/
def Results (x : RoutingLanM Unit) (c : RoutingLanCircuit) (property : LanTable → Prop) : Prop :=
  Ends x c (fun _ c' => property c'.station.adjacencies) (fun c' => property c'.station.adjacencies)

theorem results_of_keeps {x : RoutingLanM Unit} {c : RoutingLanCircuit} {property : LanTable → Prop}
    (keeps : Keeps (Apart c.station.adjacencies c.station.helloArmed
      c.station.calls) x) (holds : property c.station.adjacencies) : Results x c property := by
  refine Ends.mono (keeps.ends ⟨rfl, rfl, rfl⟩) fun c' apart => ?_
  rw [apart.1]
  exact holds

theorem results_iff (x : RoutingLanM Unit) (c : RoutingLanCircuit) (property : LanTable → Prop) :
    Results x c property ↔ property (after (x c)).station.adjacencies := by
  unfold Results Ends
  cases x c <;> rfl

theorem results_base {x : StationM Unit} {c : RoutingLanCircuit}
    {property : LanTable → Prop} (leaves : Leaves x c.station property) :
    Results (base x) c property :=
  ends_base.mpr leaves

/-- What a work item does to the table `t`. -/
def TableAfter (cfg : LanConfig) (t : LanTable) : LanEvent → LanTable → Prop
  | .routerHello rh src address, t' =>
    if accepts cfg rh then
      Entered rh.id (afterRouterHello cfg rh src address (entryOf rh.id t)) t t'
    else t' = t
  | .endnodeHello eh src address, t' =>
    if eh.id.area = cfg.parent.homearea ∧ (entryOf eh.id t).state ≠ .up then
      Entered eh.id (afterEndnodeHello cfg eh src address (entryOf eh.id t)) t t'
    else Quiet eh.id t t'
  | .routing message, t' => Quiet message.srcnode t t'
  | .data srcnode _, t' => Quiet srcnode t t'
  -- An exception may keep the entry of a neighbour that is lost.
  | .listenTimeout id, t' => t' = t.erase id ∨ Quiet id t t'
  | .helloTimeout, t' => t' = t
  | .drTimeout, t' => t' = t

variable (out : Outside) (c : RoutingLanCircuit)

theorem routerHello_results (rh : RouterHello) (src address : Nat) :
    Results (routerHello cfg out rh src address) c
      (TableAfter cfg c.station.adjacencies (.routerHello rh src address)) := by
  unfold routerHello TableAfter
  by_cases accepted : accepts cfg rh
  · simp only [accepted, if_true]
    rw [Results, ends_bind, ends_get, ends_bind, ends_base]
    apply Ends.imp (hello_leaves cfg out rh src address _)
    · intro _ s' entered
      exact @results_of_keeps _ { c with station := s' }
        (Entered rh.id _ c.station.adjacencies) calcDr_apart.keeps entered
    · exact fun _ entered => entered
  · simp only [accepted]
    rfl

theorem announce_results : Results (announce cfg) c (· = c.station.adjacencies) := by
  refine Ends.seq (@results_of_keeps _ c (· = c.station.adjacencies) sendHello_apart.keeps rfl)
    fun _ c' same => ?_
  simp only [ends_bind, ends_base, ends_startTimer]
  split <;> exact same

theorem start_table (cfg : LanConfig) : (start cfg).station.adjacencies = .empty := by
  apply (results_iff (do announce cfg; calcDr cfg) new (· = .empty)).mp
  exact Ends.seq (announce_results new) fun _ c' same =>
    @results_of_keeps _ c' (· = .empty) calcDr_apart.keeps same

theorem adjacencyDown_results (id : Nodeid) :
    Results (adjacencyDown cfg out id) c fun t =>
      t = c.station.adjacencies.erase id ∨ Quiet id c.station.adjacencies t := by
  unfold adjacencyDown
  rw [Results, ends_bind, ends_get]
  split
  case h_1 => exact .inr .same
  case h_2 a found =>
    rw [ends_bind, ends_base]
    apply Ends.imp (adjacencyDown_leaves out id)
    · intro _ s' dropped
      exact @results_of_keeps _ { c with station := s' }
        (fun t => t = c.station.adjacencies.erase id ∨ Quiet id c.station.adjacencies t)
        (renewElection_apart id _).keeps dropped
    · exact fun _ dropped => dropped

theorem listenTimeout_results {id : Nodeid} {a : LanEntry} {l : Listener}
    (found : c.station.adjacencies.find id = some a) (has : a.adj = some l) :
    Results (listenTimeout cfg out id a l) c fun t =>
      t = c.station.adjacencies.erase id ∨ Quiet id c.station.adjacencies t := by
  unfold listenTimeout
  rw [Results, ends_bind, ends_base]
  apply Ends.imp (expire_leaves out found has)
  · intro _ s' quiet
    exact Ends.mono (adjacencyDown_results out { c with station := s' } id) fun c' =>
      Or.imp (·.trans quiet.erase) quiet.trans
  · exact fun _ quiet => .inr quiet

/-- What each work item does to the table, whatever the calls outside the
circuit do. -/
theorem step_table (event : LanEvent) :
    TableAfter cfg c.station.adjacencies event (step cfg c (event, out)).station.adjacencies := by
  apply (results_iff (dispatch cfg out event) c _).mp
  unfold dispatch
  cases event with
  | routerHello rh src address =>
    exact routerHello_results out c rh src address
  | endnodeHello eh src address =>
    exact results_base (endnodeHello_leaves cfg out eh src address)
  | routing message => exact results_base (routingMessage_leaves out message)
  | data srcnode src => exact results_base (data_leaves srcnode src)
  | listenTimeout id =>
    rw [Results, ends_bind, ends_get]
    exact ends_expiry (.inr .same) (listenTimeout_results out c)
  | helloTimeout =>
    rw [Results, ends_bind, ends_get]
    split
    · unfold helloTimeout
      rw [ends_bind]
      exact announce_results { c with
        station := { c.station with helloArmed := false } }
    · rfl
  | drTimeout =>
    rw [Results, ends_bind, ends_get]
    split
    · exact @results_of_keeps _ c (· = c.station.adjacencies) becomeDr_apart.keeps rfl
    · rfl

end RoutingLanCircuit

/-! ## What is known of the neighbours -/

def known (t : LanTable) (id : Nodeid) : Option LanAdjacency :=
  (t.find id).map LanEntry.forget

section

variable {id : Nodeid} {entered : LanAdjacency} {t t' : LanTable} (change : Entered id entered t t')

include change

theorem Entered.known : known t' = update (known t) id (some entered) := by
  obtain ⟨a', rfl, rfl⟩ := change
  funext other
  by_cases here : other = id
  · subst here
    simp [Routing.known]
  · simp [Routing.known, here, find_put_of_ne Nodeid.value_injective here]

theorem Entered.found : Routing.known t' id = some entered := by
  rw [change.known, update_self]

end

theorem Quiet.known {id : Nodeid} {t t' : LanTable} (quiet : Quiet id t t') : known t' = known t :=
  funext quiet.find

theorem known_erase (id : Nodeid) (t : LanTable) :
    known (t.erase id) = update (known t) id none := by
  funext other
  by_cases here : other = id
  · subst here
    simp [known]
  · simp [known, here, find_erase_of_ne here]

section

variable {t t' : LanTable} {property : Nodeid → LanAdjacency → Prop} {id : Nodeid}
  (holds : ∀ id b, Routing.known t id = some b → property id b)

include holds

theorem Entered.forall_known {entered : LanAdjacency} (change : Entered id entered t t')
    (new : property id entered) (other : Nodeid) (b : LanAdjacency)
    (isKnown : Routing.known t' other = some b) : property other b := by
  rw [change.known, update_apply] at isKnown
  split_ifs at isKnown with here
  · cases isKnown
    exact here ▸ new
  · exact holds other b isKnown

theorem forall_known_dropped (dropped : t' = t.erase id ∨ Quiet id t t') (other : Nodeid)
    (b : LanAdjacency) (isKnown : known t' other = some b) : property other b := by
  rcases dropped with rfl | quiet
  · rw [known_erase, update_apply] at isKnown
    split_ifs at isKnown
    exact holds other b isKnown
  · exact holds other b (quiet.known ▸ isKnown)

end

theorem known_eq_some {t : LanTable} {id : Nodeid} {b : LanAdjacency}
    (isKnown : known t id = some b) : (entryOf id t).forget = b := by
  obtain ⟨a, found, rfl⟩ := Option.map_eq_some_iff.mp isKnown
  rw [entryOf, found]
  rfl

theorem known_of_up {t : LanTable} {id : Nodeid} (isUp : (entryOf id t).state = .up) :
    known t id = some (entryOf id t).forget := by
  unfold entryOf known at *
  cases found : t.find id with
  | none =>
    rw [found] at isUp
    cases isUp
  | some a => rfl

namespace RoutingLanCircuit

variable {cfg : LanConfig}

theorem ntypeOf_ne_endnode (rh : RouterHello) : ntypeOf rh ≠ .endnode := by
  unfold ntypeOf
  split <;> nofun

/-- Where the knowledge of a neighbour after a work item comes from: the hello
that the item is, or from before. -/
inductive Origin (cfg : LanConfig) (t : LanTable) (event : LanEvent)
    (id : Nodeid) (b : LanAdjacency) : Prop where
  | router {rh : RouterHello} {src address : Nat} (item : event = .routerHello rh src address)
      (accepted : accepts cfg rh) (sender : rh.id = id)
      (entered : afterRouterHello cfg rh src address (entryOf rh.id t) = b)
  | endnode {eh : EndnodeHello} {src address : Nat} (item : event = .endnodeHello eh src address)
      (inArea : eh.id.area = cfg.parent.homearea)
      (notUp : (entryOf eh.id t).state ≠ .up) (sender : eh.id = id)
      (entered : afterEndnodeHello cfg eh src address (entryOf eh.id t) = b)
  | before (isKnown : known t id = some b)
      (noRouter : ∀ rh src address, event = .routerHello rh src address →
        accepts cfg rh → rh.id ≠ id)
      (noEndnode : ∀ eh src address, event = .endnodeHello eh src address →
        eh.id = id → b.state = .up ∨ id.area ≠ cfg.parent.homearea)

theorem origin {t t' : LanTable} {event : LanEvent}
    (after : TableAfter cfg t event t') {id : Nodeid} {b : LanAdjacency}
    (isKnown : known t' id = some b) : Origin cfg t event id b := by
  have quiet {other : Nodeid} (unchanged : Quiet other t t') :
      known t id = some b := unchanged.known ▸ isKnown
  cases event with
  | routerHello rh src address =>
    simp only [TableAfter] at after
    split at after
    case isTrue accepted =>
      rw [after.known, update_apply] at isKnown
      split_ifs at isKnown with here
      · cases isKnown
        exact .router rfl accepted here.symm rfl
      · refine .before isKnown ?_ nofun
        rintro _ _ _ ⟨⟩ _
        exact Ne.symm here
    case isFalse ignored =>
      subst after
      refine .before isKnown ?_ nofun
      rintro _ _ _ ⟨⟩ accepted
      exact absurd accepted ignored
  | endnodeHello eh src address =>
    simp only [TableAfter] at after
    split at after
    case isTrue fresh =>
      rw [after.known, update_apply] at isKnown
      split_ifs at isKnown with here
      · cases isKnown
        exact .endnode rfl fresh.1 fresh.2 here.symm rfl
      · refine .before isKnown nofun ?_
        rintro _ _ _ ⟨⟩ sender
        exact absurd sender.symm here
    case isFalse notFresh =>
      have isKnown := quiet after
      refine .before isKnown nofun ?_
      rintro _ _ _ ⟨⟩ rfl
      have state : (entryOf eh.id t).state = b.state :=
        congrArg LanAdjacency.state (known_eq_some isKnown)
      by_cases inArea : eh.id.area = cfg.parent.homearea
      · left
        by_contra notUp
        exact notFresh ⟨inArea, fun isUp => notUp (state ▸ isUp)⟩
      · exact .inr inArea
  | routing | data => exact .before (quiet after) nofun nofun
  | listenTimeout lost =>
    rcases after with rfl | unchanged
    · rw [known_erase, update_apply] at isKnown
      split_ifs at isKnown
      exact .before isKnown nofun nofun
    · exact .before (quiet unchanged) nofun nofun
  | helloTimeout | drTimeout =>
    cases after
    exact .before isKnown nofun nofun

end RoutingLanCircuit

end Decnet.Routing
