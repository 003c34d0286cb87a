import Decnet.Events.Logger
import Decnet.Nsp.Throwing
import Decnet.Nsp.Wire

/-!
# Bytes delivered to NSP

`NSP::deliver` as routing calls it: a packet that cannot be parsed is reported
by event 3.0, any other goes to its link.  The event carries the packet as a
hex image and the source node by number and name, and both are limited to 255
bytes: building the event throws where they do not fit, and nothing up to the
main loop catches that.  Reporting it can also use a link, that of a remote
event sink.
-/

namespace Decnet.Nsp

open Events Throwing Connection

/-- A node: NSP, the node database and the event sinks.  The events that were
given to `Node::logevent` are history. -/
structure Station (τ : Type) where
  nsp : Machine τ
  self : NiceNode
  db : NodeDb
  sinks : List Sink
  logged : List Event

namespace Station

variable {τ : Type} (wire : Event → Bytes)

/-- Event 3.0, invalid message, with the message and the source node. -/
def invalidMessage (db : NodeDb) (src : Nodeid) (payload : Bytes) :
    Except FieldOverflow Event := do
  let image ← Value.makeHi payload
  let source ← nodeValue (db.nicenode src)
  pure (((Event.make ⟨3, 0⟩).param 0 image).param 2 source)

def logevent (event : Event) (s : Station τ) : Station τ :=
  let event := { event with source := s.self }
  let (sinks, w) := Events.logEvent wire s.db event s.sinks s.nsp.nsp
  { s with
    nsp := { s.nsp with nsp := w }
    sinks := sinks
    logged := s.logged ++ [event] }

variable (sc : ThrowingSession FieldOverflow τ)

def deliver (src : Nodeid) (payload : Bytes) :
    EStateM FieldOverflow (Station τ) Unit := fun s =>
  match parseFrame payload with
  | none =>
    match invalidMessage s.db src payload with
    | .error exception => .error exception s
    | .ok event => .ok () (s.logevent wire event)
  | some packet =>
    match Machine.deliver sc src packet s.nsp with
    | .error exception nsp => .error exception { s with nsp := nsp }
    | .ok _ nsp => .ok () { s with nsp := nsp }

/-! ## Building the event -/

/-- Event 3.0 that carries the source node. -/
structure Reports (db : NodeDb) (src : Nodeid) (event : Event) : Prop where
  id : event.id = ⟨3, 0⟩
  source : ∃ value, nodeValue (db.nicenode src) = .ok value ∧ (2, value) ∈ event.params

theorem nodeValue_ok_iff (node : NiceNode) :
    (∃ value, nodeValue node = .ok value) ↔ node.name.length ≤ 255 := by
  unfold nodeValue
  split
  · rename_i nameless
    have short : node.name.length ≤ 255 := by
      rw [List.isEmpty_iff.mp nameless]
      exact Nat.zero_le _
    exact ⟨fun _ => short, fun _ => ⟨_, rfl⟩⟩
  · by_cases long : node.name.length > 255
    · have thrown : Value.makeAi node.name =
          .error ⟨"NICE ASCII image longer than 255 bytes"⟩ := if_pos long
      rw [thrown]
      constructor
      · rintro ⟨value, built⟩
        cases built
      · intro short
        exact absurd short (Nat.not_le.mpr long)
    · have built : Value.makeAi node.name = .ok (.ai node.name) := if_neg long
      rw [built]
      exact ⟨fun _ => Nat.not_lt.mp long, fun _ => ⟨_, rfl⟩⟩

theorem invalidMessage_ok_iff (db : NodeDb) (src : Nodeid) (payload : Bytes) :
    (∃ event, invalidMessage db src payload = .ok event) ↔
      payload.length ≤ 255 ∧ (db.name src).length ≤ 255 := by
  have named := nodeValue_ok_iff (db.nicenode src)
  unfold invalidMessage
  by_cases long : payload.length > 255
  · have thrown : Value.makeHi payload =
        .error ⟨"NICE hex image longer than 255 bytes"⟩ := if_pos long
    rw [thrown]
    constructor
    · rintro ⟨event, built⟩
      cases built
    · rintro ⟨short, _⟩
      exact absurd short (Nat.not_le.mpr long)
  · have built : Value.makeHi payload = .ok (.hi payload) := if_neg long
    rw [built]
    cases source : nodeValue (db.nicenode src) with
    | error exception =>
      constructor
      · rintro ⟨event, made⟩
        cases made
      · rintro ⟨_, short⟩
        obtain ⟨value, found⟩ := named.mpr short
        rw [source] at found
        cases found
    | ok value =>
      exact ⟨fun _ => ⟨Nat.not_lt.mp long, named.mp ⟨value, source⟩⟩, fun _ => ⟨_, rfl⟩⟩

theorem reports_invalidMessage {db : NodeDb} {src : Nodeid} {payload : Bytes} {event : Event}
    (built : invalidMessage db src payload = .ok event) : Reports db src event := by
  unfold invalidMessage at built
  cases image : Value.makeHi payload with
  | error exception =>
    rw [image] at built
    cases built
  | ok hex =>
    rw [image] at built
    cases source : nodeValue (db.nicenode src) with
    | error exception =>
      rw [source] at built
      cases built
    | ok value =>
      rw [source] at built
      cases built
      exact ⟨rfl, value, source, by simp [Event.param]⟩

end Station

/-! ## What reporting does to the links -/

namespace Connection

theorem cut_ne_nil (limit rounds : Nat) (first : Bool) (data : Bytes) :
    cut limit rounds first data ≠ [] := by
  cases rounds with
  | zero => exact List.cons_ne_nil _ _
  | succ rounds =>
    unfold cut
    split
    · exact List.cons_ne_nil _ _
    · exact List.cons_ne_nil _ _

theorem length_sendData {c : Connection} (running : c.state = .run)
    (data : Bytes) : c.txq.length < (c.sendData data).txq.length := by
  have some : 0 < (pieces c.segmentLimit data).length :=
    List.length_pos_iff.mpr (cut_ne_nil _ _ _ _)
  have active : c.running = true := by simp [Connection.running, running]
  have sent : (c.sendData data).txq.length =
      c.txq.length + (pieces c.segmentLimit data).length := by
    unfold sendData sendSegments
    rw [active]
    exact (length_sendBlocked _).trans (length_queueSegments _ _)
  omega

end Connection

namespace World

variable {τ : Type*} {w w' w'' : World τ}

/-- Links may have been opened and sent data on, no more. -/
structure Grown (w w' : World τ) : Prop where
  allocated : w.allocated ≤ w'.allocated
  state : ∀ link < w.allocated, (w'.links link).state = (w.links link).state
  txq : ∀ link < w.allocated, (w.links link).txq.length ≤ (w'.links link).txq.length
  new : ∀ link, w.allocated ≤ link → link < w'.allocated → (w'.links link).state ≠ .run

theorem Grown.refl (w : World τ) : Grown w w :=
  ⟨le_rfl, fun _ _ => rfl, fun _ _ => le_rfl, fun _ low high => absurd high (Nat.not_lt.mpr low)⟩

theorem Grown.trans (first : Grown w w') (second : Grown w' w'') : Grown w w'' where
  allocated := first.allocated.trans second.allocated
  state := by
    intro link old
    rw [second.state link (old.trans_le first.allocated)]
    exact first.state link old
  txq := by
    intro link old
    exact (first.txq link old).trans (second.txq link (old.trans_le first.allocated))
  new := by
    intro link low high
    by_cases here : link < w'.allocated
    · rw [second.state link here]
      exact first.new link low here
    · exact second.new link (Nat.not_lt.mp here) high

theorem sendData_state (data : Bytes) (c : Connection) : (c.sendData data).state = c.state :=
  (kept_sendData data c).state

theorem sendData_txq (data : Bytes) (c : Connection) :
    c.txq.length ≤ (c.sendData data).txq.length := by
  by_cases running : c.state = .run
  · exact (length_sendData running data).le
  · rw [sendData_of_not_run data c running]

theorem grown_sendData (link : Ptr) (data : Bytes) (w : World τ) :
    Grown w (w.perform (.sendData link data)) := by
  by_cases reachable : Reachable (.sendData link data) w
  · rw [perform_of_reachable reachable]
    constructor
    case allocated => exact execute_allocated_le (w.logged _) _
    case state =>
      intro other old
      rw [act_links w _ old]
      split
      · exact sendData_state data _
      · rfl
    case txq =>
      intro other old
      rw [act_links w _ old]
      split
      · exact sendData_txq data _
      · exact le_rfl
    case new => exact fun _ low high => absurd high (Nat.not_lt.mpr low)
  · rw [perform_of_not_reachable reachable]
    exact .refl w

theorem grown_connect (dest : Nodeid) (message : Bytes) (w : World τ) :
    Grown w (w.perform (.connect dest message)) ∧ ∀ link < w.allocated,
        (w.perform (.connect dest message)).links link = w.links link := by
  have reachable : Reachable (.connect dest message) w := nofun
  have same : ∀ link < w.allocated,
      (w.perform (.connect dest message)).links link = w.links link := by
    intro link old
    rw [perform_of_reachable reachable, act_links w _ old]
    rfl
  refine ⟨?_, same⟩
  constructor
  case allocated =>
    rw [perform_of_reachable reachable]
    exact execute_allocated_le (w.logged _) _
  case state => exact fun link old => congrArg state (same link old)
  case txq =>
    exact fun link old => (congrArg (fun c => c.txq.length) (same link old)).ge
  case new =>
    intro link low high
    rw [perform_of_reachable reachable] at high ⊢
    obtain ⟨addr, dest, payload, created⟩ := act_links_new w _ low high
    rw [created]
    exact nofun

end World

end Decnet.Nsp

namespace Decnet.Events

open Nsp World

variable {τ : Type*} {wire : Event → Bytes} {db : NodeDb} {w : World τ}

/-- The sink is a remote one that takes the event, and has a running link to
send it on. -/
def Sink.Sends (id : EventId) (w : World τ) : Sink → Prop
  | .onSite => False
  | .remote sink =>
    (∃ kind < 3, sink.filters kind id = true) ∧ sink.stopped = false ∧
      sink.queue.length < queueLimit ∧ ∃ link, sink.conn = some link ∧ link < w.allocated ∧
        (w.links link).state = .run

theorem sinkmask_ne_zero (sink : RemoteSink) (event : Event) :
    sink.sinkmask event ≠ 0 ↔ ∃ kind < 3, sink.filters kind event.id = true := by
  unfold RemoteSink.sinkmask
  constructor
  · intro some
    by_contra none
    have off : ∀ kind < 3, sink.filters kind event.id = false := by
      intro kind low
      rw [← Bool.not_eq_true]
      exact fun on => none ⟨kind, low, on⟩
    rw [off 0 (by decide), off 1 (by decide), off 2 (by decide)] at some
    exact some rfl
  · rintro ⟨kind, low, on⟩
    have one : kind = 0 ∨ kind = 1 ∨ kind = 2 := by omega
    rcases one with rfl | rfl | rfl
    · rw [on, Bool.toNat_true]
      omega
    · rw [on, Bool.toNat_true]
      omega
    · rw [on, Bool.toNat_true]
      omega

theorem Sink.Sends.grown_iff {w' : World τ} (grown : Grown w w')
    (id : EventId) (sink : Sink) : sink.Sends id w' ↔ sink.Sends id w := by
  cases sink with
  | onSite => exact Iff.rfl
  | remote sink =>
    have link_iff (link : Ptr) :
        (link < w'.allocated ∧ (w'.links link).state = .run) ↔
          (link < w.allocated ∧ (w.links link).state = .run) := by
      constructor
      · rintro ⟨present, running⟩
        by_cases old : link < w.allocated
        · rw [grown.state link old] at running
          exact ⟨old, running⟩
        · exact absurd running (grown.new link (Nat.not_lt.mp old) present)
      · rintro ⟨old, running⟩
        rw [← grown.state link old] at running
        exact ⟨old.trans_le grown.allocated, running⟩
    simp only [Sink.Sends, link_iff]

theorem grown_sendQueued (link : Ptr) (queue : List Event) (w : World τ) :
    Grown w (sendQueued wire link queue w).2 := by
  induction queue generalizing w with
  | nil => exact .refl w
  | cons event queue ih =>
    unfold sendQueued
    split
    · exact (grown_sendData link _ w).trans (ih _)
    · exact .refl w

theorem sendQueued_idle {link : Ptr} (idle : ¬ (link < w.allocated ∧ (w.links link).state = .run))
    (queue : List Event) : (sendQueued wire link queue w).2 = w := by
  induction queue with
  | nil => rfl
  | cons event queue ih =>
    unfold sendQueued
    split
    · rename_i running
      have state : (w.links link).state = .run := by
        simpa [Connection.running] using running
      have absent : ¬ link < w.allocated := fun old => idle ⟨old, state⟩
      have ignored : w.perform (.sendData link (wire event)) = w := by
        apply perform_of_not_reachable
        intro reachable
        exact absent (reachable link rfl)
      rw [ignored]
      exact ih
    · rfl

theorem sendQueued_running {link : Ptr} (old : link < w.allocated)
    (running : (w.links link).state = .run) (event : Event) (queue : List Event) :
    (w.links link).txq.length < ((sendQueued wire link (event :: queue) w).2.links
        link).txq.length := by
  have active : (w.links link).running = true := by
    simp [Connection.running, running]
  have reachable : Reachable (.sendData link (wire event)) w := by
    intro target same
    cases same
    exact old
  have sent : (w.links link).txq.length <
      ((w.perform (.sendData link (wire event))).links link).txq.length := by
    have target : (Call.sendData link (wire event)).target = some link := rfl
    rw [perform_of_reachable reachable, act_links w _ old, if_pos target]
    exact Connection.length_sendData running _
  have grown : Grown (w.perform (.sendData link (wire event))) (sendQueued wire link queue
        (w.perform (.sendData link (wire event)))).2 := grown_sendQueued link queue _
  unfold sendQueued
  rw [if_pos active]
  refine sent.trans_le (grown.txq link ?_)
  exact old.trans_le (grown_sendData link _ w).allocated

/-- What one sink does to the links: nothing to those that exist, unless it has
a running link to send on. -/
structure Touches (sends : Prop) (w w' : World τ) : Prop where
  grown : Grown w w'
  kept : ¬ sends → ∀ link < w.allocated, w'.links link = w.links link
  sent : sends → ∃ link < w.allocated, (w.links link).state = .run ∧
    (w.links link).txq.length < (w'.links link).txq.length

theorem touches_none {sends : Prop} (never : ¬ sends) (w : World τ) : Touches sends w w :=
  ⟨.refl w, fun _ _ _ => rfl, fun now => absurd now never⟩

theorem touches_sendEvents (sink : RemoteSink) (w : World τ) (queued : sink.queue ≠ []) :
    Touches (sink.stopped = false ∧ ∃ link, sink.conn = some link ∧
        link < w.allocated ∧ (w.links link).state = .run) w (sink.sendEvents wire db w).2 := by
  unfold RemoteSink.sendEvents
  split
  · rename_i stopped
    apply touches_none
    rintro ⟨active, _⟩
    rw [stopped] at active
    cases active
  rename_i active
  split
  · rename_i link connected
    refine ⟨grown_sendQueued link _ w, ?_, ?_⟩
    · intro idle other _
      have still : ¬ (link < w.allocated ∧ (w.links link).state = .run) :=
        fun running => idle ⟨Bool.eq_false_iff.mpr active, link, connected, running⟩
      rw [sendQueued_idle still]
    · rintro ⟨_, other, same, old, running⟩
      rw [connected] at same
      cases same
      obtain ⟨event, queue, shape⟩ := List.exists_cons_of_ne_nil queued
      rw [shape]
      exact ⟨link, old, running, sendQueued_running old running event queue⟩
  · rename_i unconnected
    have never : ¬ (sink.stopped = false ∧ ∃ link, sink.conn = some link ∧
        link < w.allocated ∧ (w.links link).state = .run) := by
      rintro ⟨_, link, connected, _⟩
      rw [unconnected] at connected
      cases connected
    split
    · exact touches_none never w
    split
    · exact touches_none never w
    split
    · exact touches_none never w
    split
    · exact touches_none never w
    · rename_i dest _ _ message _ _
      obtain ⟨grown, same⟩ := grown_connect dest message w
      exact ⟨grown, fun _ => same, fun now => absurd now never⟩

theorem touches_logEvent (event : Event) (sink : Sink) (w : World τ) :
    Touches (sink.Sends event.id w) w (sink.logEvent wire db event w).2 := by
  cases sink with
  | onSite => exact touches_none id w
  | remote sink =>
    have taken := sinkmask_ne_zero sink event
    unfold Sink.logEvent
    dsimp only
    split
    · rename_i none
      apply touches_none
      rintro ⟨takes, _⟩
      exact taken.mpr takes none
    · rename_i some
      unfold RemoteSink.writeEvent
      split
      · rename_i full
        have never : ¬ (Sink.remote sink).Sends event.id w := by
          rintro ⟨_, _, room, _⟩
          exact absurd full (Nat.not_le.mpr room)
        split
        · exact touches_none never w
        · exact touches_none never w
      · rename_i room
        have touched := @touches_sendEvents τ wire db
          { sink with queue := sink.queue ++
            [{ event with
              console := (sink.sinkmask event).testBit 0
              file := (sink.sinkmask event).testBit 1
              monitor := (sink.sinkmask event).testBit 2 }] } w
          (by simp)
        refine ⟨touched.grown, ?_, ?_⟩
        · intro silent
          apply touched.kept
          rintro ⟨active, connected⟩
          exact silent ⟨taken.mp some, active, Nat.not_le.mp room, connected⟩
        · rintro ⟨_, active, _, connected⟩
          exact touched.sent ⟨active, connected⟩

theorem grown_logEvent (event : Event) (sinks : List Sink) (w : World τ) :
    Grown w (logEvent wire db event sinks w).2 := by
  induction sinks generalizing w with
  | nil => exact .refl w
  | cons sink sinks ih =>
    exact (touches_logEvent event sink w).grown.trans (ih _)

theorem logEvent_kept {event : Event} {sinks : List Sink}
    (silent : ∀ sink ∈ sinks, ¬ sink.Sends event.id w) {link : Ptr} (old : link < w.allocated) :
    (logEvent wire db event sinks w).2.links link = w.links link := by
  induction sinks generalizing w with
  | nil => rfl
  | cons sink sinks ih =>
    rw [List.forall_mem_cons] at silent
    have touched : Touches (sink.Sends event.id w) w
        (sink.logEvent wire db event w).2 := touches_logEvent event sink w
    have later : ∀ other ∈ sinks, ¬ other.Sends event.id (sink.logEvent wire db event w).2 := by
      simp only [Sink.Sends.grown_iff touched.grown]
      exact silent.2
    have same := ih later (old.trans_le touched.grown.allocated)
    exact same.trans (touched.kept silent.1 link old)

theorem logEvent_sent {event : Event} {sinks : List Sink} {sink : Sink}
    (member : sink ∈ sinks) (sends : sink.Sends event.id w) :
    ∃ link < w.allocated, (w.links link).state = .run ∧ (w.links link).txq.length <
        ((logEvent wire db event sinks w).2.links link).txq.length := by
  induction sinks generalizing w with
  | nil => cases member
  | cons first sinks ih =>
    have touched : Touches (first.Sends event.id w) w
        (first.logEvent wire db event w).2 := touches_logEvent event first w
    have grown : Grown (first.logEvent wire db event w).2 (logEvent wire db event sinks
          (first.logEvent wire db event w).2).2 := grown_logEvent event sinks _
    rcases List.mem_cons.mp member with rfl | later
    · obtain ⟨link, old, running, longer⟩ := touched.sent sends
      exact ⟨link, old, running, longer.trans_le
        (grown.txq link (old.trans_le touched.grown.allocated))⟩
    · rw [← Sink.Sends.grown_iff touched.grown] at sends
      obtain ⟨link, present, running, longer⟩ := ih later sends
      have old : link < w.allocated := by
        by_contra new
        exact touched.grown.new link (Nat.not_lt.mp new) present running
      rw [touched.grown.state link old] at running
      exact ⟨link, old, running, (touched.grown.txq link old).trans_lt longer⟩

/-- Logging an event leaves the links alone exactly when no sink sends it on a
running link. -/
theorem logEvent_links_iff (event : Event) (sinks : List Sink) (w : World τ) :
    (∀ link < w.allocated, (logEvent wire db event sinks w).2.links link = w.links link) ↔
      ∀ sink ∈ sinks, ¬ sink.Sends event.id w := by
  constructor
  · intro kept sink member sends
    obtain ⟨link, old, _, longer⟩ := @logEvent_sent τ wire db w event sinks sink member sends
    rw [kept link old] at longer
    exact absurd longer (Nat.lt_irrefl _)
  · exact fun silent link old => logEvent_kept silent old

end Decnet.Events

namespace Decnet.Nsp.Station

open Events Throwing

variable {τ : Type}

/-- What every delivery should do: return, and if the packet is ill formed
leave every link alone and report it once. -/
structure Accepts (wire : Event → Bytes)
    (sc : ThrowingSession FieldOverflow τ) (src : Nodeid) (payload : Bytes)
    (s : Station τ) : Prop where
  returns : ∃ s', deliver wire sc src payload s = .ok () s'
  reports : parseFrame payload = none → ∀ s', deliver wire sc src payload s = .ok () s' →
      (∀ link < s.nsp.nsp.allocated, s'.nsp.nsp.links link = s.nsp.nsp.links link) ∧
      ∃ event, s'.logged = s.logged ++ [event] ∧ Reports s.db src event

theorem deliver_illFormed {wire : Event → Bytes}
    {sc : ThrowingSession FieldOverflow τ} {src : Nodeid} {payload : Bytes}
    {event : Event} {s : Station τ} (illFormed : parseFrame payload = none)
    (built : invalidMessage s.db src payload = .ok event) :
    deliver wire sc src payload s = .ok () (s.logevent wire event) := by
  unfold deliver
  rw [illFormed]
  rw [built]

/-- A delivery is accepted exactly when the packet is well formed, or it is at
most 255 bytes long, the name of its source is, and no remote event sink sends
the report on a running link. -/
theorem deliver_accepts_iff (wire : Event → Bytes) (sc : ThrowingSession FieldOverflow τ)
    (quiet : ∀ link upcall w, sc.throws link upcall w = none)
    (src : Nodeid) (payload : Bytes) (s : Station τ) :
    Accepts wire sc src payload s ↔ (parseFrame payload = none →
        payload.length ≤ 255 ∧ (s.db.name src).length ≤ 255 ∧
          ∀ sink ∈ s.sinks, ¬ sink.Sends ⟨3, 0⟩ s.nsp.nsp) := by
  constructor
  · intro accepts illFormed
    have built : ∃ event, invalidMessage s.db src payload = .ok event := by
      obtain ⟨s', returned⟩ := accepts.returns
      unfold deliver at returned
      rw [illFormed] at returned
      cases made : invalidMessage s.db src payload with
      | error exception =>
        rw [made] at returned
        cases returned
      | ok event => exact ⟨event, rfl⟩
    obtain ⟨short, named⟩ := (invalidMessage_ok_iff s.db src payload).mp built
    obtain ⟨event, made⟩ := built
    have reported := reports_invalidMessage made
    have kept := (accepts.reports illFormed _ (deliver_illFormed illFormed made)).1
    have silent := (logEvent_links_iff { event with source := s.self } s.sinks s.nsp.nsp).mp kept
    rw [reported.id] at silent
    exact ⟨short, named, silent⟩
  · intro condition
    cases parsed : parseFrame payload with
    | some packet =>
      constructor
      case returns =>
        obtain ⟨m', returned⟩ := Machine.deliver_returns quiet src packet s.nsp
        unfold deliver
        rw [parsed]
        dsimp only
        rw [returned]
        exact ⟨_, rfl⟩
      case reports =>
        intro illFormed
        rw [parsed] at illFormed
        cases illFormed
    | none =>
      obtain ⟨short, named, silent⟩ := condition parsed
      obtain ⟨event, made⟩ := (invalidMessage_ok_iff s.db src payload).mpr ⟨short, named⟩
      have reported := reports_invalidMessage made
      have delivered : deliver wire sc src payload s =
          .ok () (s.logevent wire event) := deliver_illFormed parsed made
      constructor
      case returns => exact ⟨_, delivered⟩
      case reports =>
        intro _ s' returned
        rw [delivered] at returned
        cases returned
        refine ⟨?_, _, rfl, ⟨reported.id, reported.source⟩⟩
        rw [← reported.id] at silent
        intro link old
        exact @logEvent_kept τ wire s.db s.nsp.nsp
          { event with source := s.self } s.sinks silent link old

def idleSession : ThrowingSession FieldOverflow Unit where
  toSessionControl := .scripted fun _ _ => []
  throws _ _ _ := none

def fresh : Station Unit where
  nsp := Machine.start ⟨1, 20, 8, 4, 60⟩ [1] ()
  self := ⟨1025, []⟩
  db := ⟨fun _ => [], fun _ => none⟩
  sinks := []
  logged := []

theorem deliver_accepts_iff_oneByte :
    Accepts (fun _ => []) idleSession 5 [0xff] fresh ↔ (parseFrame [0xff] = none →
        [(0xff : UInt8)].length ≤ 255 ∧ (fresh.db.name 5).length ≤ 255 ∧
          ∀ sink ∈ fresh.sinks, ¬ sink.Sends ⟨3, 0⟩ fresh.nsp.nsp) :=
  deliver_accepts_iff (fun _ => []) idleSession (fun _ _ _ => rfl) 5 [0xff] fresh

/-- An ill formed packet of 256 bytes: the exception leaves `deliver`, and
nothing has been logged. -/
theorem long_illFormed_thrown :
    let s' := after (deliver (fun _ => []) idleSession 5 (List.replicate 256 0xff) fresh)
    (∀ link upcall w, idleSession.throws link upcall w = none) ∧
      parseFrame (List.replicate 256 0xff) = none ∧
      deliver (fun _ => []) idleSession 5 (List.replicate 256 0xff) fresh =
        .error ⟨"NICE hex image longer than 255 bytes"⟩ s' ∧ s'.logged = [] := by
  have illFormed : parseFrame (List.replicate 256 0xff) = none := by
    decide +kernel
  have long : (List.replicate 256 (0xff : UInt8)).length > 255 := by
    rw [List.length_replicate]
    decide
  have thrown : Value.makeHi (List.replicate 256 0xff) =
      .error ⟨"NICE hex image longer than 255 bytes"⟩ := if_pos long
  have left : deliver (fun _ => []) idleSession 5 (List.replicate 256 0xff)
      fresh = .error ⟨"NICE hex image longer than 255 bytes"⟩ fresh := by
    unfold deliver invalidMessage
    rw [thrown]
    rfl
  rw [left]
  exact ⟨fun _ _ _ => rfl, illFormed, rfl, rfl⟩

end Decnet.Nsp.Station
