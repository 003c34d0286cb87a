import Decnet.Routing.LanElection

/-!
# Stopping and starting a broadcast circuit

A node that brings its circuits up on demand stops and starts them any number
of times.  The flag `drtimer_running_` is to say whether the election timer is
armed or its expiry waits in the work queue; `stop` takes the timer off the
wheel and leaves the flag.

Packets are handled and neighbours expire while a circuit is stopped.
-/

namespace Decnet.Routing

open Throwing RoutingLanCircuit

namespace RoutingLanCircuit

open LanStation

variable {cfg : LanConfig}

/-- `RoutingLanCircuit::start`. -/
def starting (cfg : LanConfig) : RoutingLanM Unit := do
  announce cfg
  calcDr cfg

/-- `RoutingLanCircuit::stop`: a last hello with an empty router list, and both
timers are off. -/
def stopping (cfg : LanConfig) : RoutingLanM Unit := do
  modify fun c => { c with drtimerArmed := false }
  match encodeElist [] >>= encodeRouterHello cfg with
  | .error e => throw e
  | .ok frame =>
    base (modify fun s => { s with sent := s.sent ++ [(.allRouters, frame)] })
  base (modify fun s => { s with helloArmed := false })

/-! ## The flag -/

/-- The flag and the timer agree. -/
def Matched (c : RoutingLanCircuit) : Prop :=
  c.drtimerRunning = c.drtimerArmed

theorem base_matched {α : Type} {x : StationM α} : Keeps Matched (base x) := by
  intro c matched
  unfold base zoom
  split <;> exact matched

theorem sendHello_matched : Keeps Matched (sendHello cfg) := by
  apply Keeps.get_bind
  intro c
  split
  · exact keeps_throw _
  · exact base_matched

theorem standBy_ends (c : RoutingLanCircuit) :
    Ends standBy c (fun _ c' => (Matched c → Matched c') ∧
      (c'.isdr = true ∨ c'.drtimerRunning = true)) (fun _ => False) := by
  simp only [standBy, ends_bind, ends_get, ends_ite, ends_modify, ends_base]
  split
  case isTrue => exact ⟨fun _ => rfl, .inr trivial⟩
  case isFalse busy =>
    refine ⟨id, ?_⟩
    cases isdr : c.isdr with
    | true => exact .inl rfl
    | false =>
      cases running : c.drtimerRunning with
      | true => exact .inr rfl
      | false => exact absurd ⟨by simp [isdr], by simp [running]⟩ busy

theorem standBy_matched : Keeps Matched standBy := by
  intro c matched
  apply (after_iff_ends standBy c).mpr
  exact (standBy_ends c).imp (fun _ _ both => both.1 matched) nofun

theorem stepDown_matched : Keeps Matched (stepDown cfg) := by
  apply Keeps.get_bind
  intro c
  split
  · apply Keeps.bind
    · exact keeps_modify fun _ matched => matched
    · exact fun _ => sendHello_matched
  · exact keeps_pure _

theorem calcDr_matched : Keeps Matched (calcDr cfg) := by
  apply Keeps.get_bind
  intro c
  dsimp only
  split
  · exact standBy_matched
  · apply stepDown_matched.bind
    intro _
    apply keeps_modify
    intro c matched
    split
    · rfl
    · exact matched

theorem becomeDr_matched : Keeps Matched (becomeDr cfg) := by
  apply Keeps.bind
  · exact keeps_modify fun _ _ => rfl
  · intro _
    apply Keeps.get_bind
    intro c
    split
    · apply Keeps.bind
      · exact keeps_modify fun _ matched => matched
      · exact fun _ => sendHello_matched
    · exact calcDr_matched

theorem adjacencyDown_matched (out : Outside) (id : Nodeid) :
    Keeps Matched (adjacencyDown cfg out id) := by
  apply Keeps.get_bind
  intro c
  split
  · exact keeps_pure _
  · apply base_matched.bind
    intro _
    apply Keeps.bind
    · apply keeps_modify
      intro c matched
      split <;> exact matched
    · intro _
      split
      · exact calcDr_matched.bind fun _ => sendHello_matched
      · exact keeps_pure _

theorem announce_matched : Keeps Matched (announce cfg) := by
  apply sendHello_matched.bind
  intro _
  exact base_matched.bind fun _ => base_matched

theorem dispatch_matched (out : Outside) (event : LanEvent) :
    Keeps Matched (dispatch cfg out event) := by
  cases event with
  | routerHello rh src address =>
    change Keeps Matched (routerHello cfg out rh src address)
    unfold routerHello
    split
    · apply Keeps.get_bind
      intro c
      exact base_matched.bind fun _ => calcDr_matched
    · exact keeps_pure _
  | endnodeHello | routing | data => exact base_matched
  | listenTimeout id =>
    apply Keeps.get_bind
    intro c
    split
    · split
      · split
        · exact base_matched.bind fun _ => adjacencyDown_matched out id
        · exact keeps_pure _
      · exact keeps_pure _
    · exact keeps_pure _
  | helloTimeout =>
    apply Keeps.get_bind
    intro c
    split
    · exact base_matched.bind fun _ => announce_matched
    · exact keeps_pure _
  | drTimeout =>
    apply Keeps.get_bind
    intro c
    split
    · exact becomeDr_matched
    · exact keeps_pure _

/-- This router acts, or waits to. -/
def Engaged (c : RoutingLanCircuit) : Prop :=
  c.isdr = true ∨ c.drtimerRunning = true

instance (c : RoutingLanCircuit) : Decidable (Engaged c) :=
  inferInstanceAs (Decidable (_ ∨ _))

/-- As the best candidate it does. -/
def Ready (cfg : LanConfig) (c : RoutingLanCircuit) : Prop :=
  Unrivalled cfg c.station.adjacencies → Engaged c

theorem base_engaged {α : Type} {x : StationM α} : Keeps Engaged (base x) := by
  intro c engaged
  unfold base zoom
  split <;> exact engaged

theorem sendHello_engaged : Keeps Engaged (sendHello cfg) := by
  apply Keeps.get_bind
  intro c
  split
  · exact keeps_throw _
  · exact base_engaged

theorem sendHello_ready : Keeps (Ready cfg) (sendHello cfg) := by
  apply Keeps.get_bind
  intro c
  split
  · exact keeps_throw _
  · exact fun _ ready => ready

theorem calcDr_ready (c : RoutingLanCircuit) :
    Ends (calcDr cfg) c (fun _ => Ready cfg) (Ready cfg) := by
  have rivalled (c' : RoutingLanCircuit) (lost : ¬ (bestDr cfg c.station.adjacencies).self = true)
      (same : c'.station.adjacencies = c.station.adjacencies) : Ready cfg c' := by
    intro unrivalled
    rw [same] at unrivalled
    exact absurd ((bestDr_self_iff _).mpr unrivalled) lost
  by_cases won : (bestDr cfg c.station.adjacencies).self = true
  · unfold calcDr
    rw [ends_bind, ends_get]
    rw [if_pos won]
    exact (standBy_ends c).imp (fun _ _ both _ => both.2) nofun
  · have same := @results_of_keeps _ c (· = c.station.adjacencies)
      (@calcDr_apart cfg _ _ _).keeps rfl
    exact Ends.mono same fun c' => rivalled c' won

theorem becomeDr_ready (c : RoutingLanCircuit) :
    Ends (becomeDr cfg) c (fun _ => Ready cfg) (Ready cfg) := by
  unfold becomeDr
  simp only [ends_bind, ends_modify, ends_get]
  split
  case isTrue =>
    exact (sendHello_engaged.ends (.inl rfl)).mono fun _ engaged _ => engaged
  case isFalse => exact calcDr_ready _

variable {c : RoutingLanCircuit} {id : Nodeid}

/-- A router that is lost is followed by an election; an endnode had no part in
it. -/
theorem renewElection_ready (id : Nodeid)
    (wasRouter : Bool) (ready : wasRouter = false → Ready cfg c) :
    Ends (renewElection cfg id wasRouter) c (fun _ => Ready cfg) (Ready cfg) := by
  unfold renewElection
  rw [ends_bind, ends_modify]
  cases wasRouter with
  | true =>
    simp only [if_true]
    exact (calcDr_ready _).seq fun _ c' ready => sendHello_ready.ends ready
  | false =>
    have ready := ready rfl
    simp only [Bool.false_eq_true, if_false]
    split <;> exact ready

theorem ready_base {x : StationM Unit} {change : LanTable → Prop} (ready : Ready cfg c)
    (leaves : Leaves x c.station change) (kept : ∀ t', change t' → Unrivalled cfg t' →
      Engaged c ∨ Unrivalled cfg c.station.adjacencies) :
    Ends (base x) c (fun _ => Ready cfg) (Ready cfg) := by
  have engaged (s : LanStation) (changed : change s.adjacencies) :
      Ready cfg { c with station := s } := by
    intro unrivalled
    rcases kept _ changed unrivalled with engaged | before
    · exact engaged
    · exact ready before
  rw [ends_base]
  exact Ends.mono leaves engaged

theorem unrivalled_of_quiet {t t' : LanTable}
    (quiet : Quiet id t t') (unrivalled : Unrivalled cfg t') : Unrivalled cfg t := by
  unfold Unrivalled at *
  rw [quiet.known] at unrivalled
  exact unrivalled

/-- The table without `id`, or with something else for it, loses a rival only
if that was one. -/
theorem unrivalled_of_update {t t' : LanTable} {replaced : Option LanAdjacency}
    (change : known t' = Function.update (known t) id replaced)
    (below : ∀ b, known t id = some b → ¬ Outranks cfg id b)
    (unrivalled : Unrivalled cfg t') : Unrivalled cfg t := by
  intro other b isKnown
  by_cases here : other = id
  · subst here
    exact below b isKnown
  · apply unrivalled other b
    rw [change, Function.update_of_ne here]
    exact isKnown

theorem adjacencyDown_ready (out : Outside) (id : Nodeid) (ready : Ready cfg c) :
    Ends (adjacencyDown cfg out id) c (fun _ => Ready cfg) (Ready cfg) := by
  unfold adjacencyDown
  rw [ends_bind, ends_get]
  split
  case h_1 => exact ready
  case h_2 a found =>
    rw [ends_bind, ends_base]
    apply Ends.imp (adjacencyDown_ends out found)
    · intro _ s erased
      apply renewElection_ready
      intro notRouter unrivalled
      apply ready
      rw [erased] at unrivalled
      apply unrivalled_of_update (known_erase id _) ?_ unrivalled
      intro b isKnown outranks
      rw [known, found] at isKnown
      cases isKnown
      have endnode : a.ntype = .endnode := by simpa using notRouter
      exact outranks.1 endnode
    · intro s quiet unrivalled
      exact ready (unrivalled_of_quiet quiet unrivalled)

theorem listenTimeout_ready (out : Outside) {a : LanEntry} {l : Listener}
    (ready : Ready cfg c) (found : c.station.adjacencies.find id = some a) (has : a.adj = some l) :
    Ends (listenTimeout cfg out id a l) c (fun _ => Ready cfg) (Ready cfg) := by
  exact (ready_base ready (expire_leaves out found has) fun _ quiet unrivalled =>
    .inr (unrivalled_of_quiet quiet unrivalled)).seq fun _ _ => adjacencyDown_ready out id

theorem routerHello_ready (out : Outside) {rh : RouterHello}
    (src address : Nat) (ready : Ready cfg c) (goes : accepts cfg rh → ¬ Engaged c →
      Goes cfg out rh (entryOf rh.id c.station.adjacencies)) :
    Ends (routerHello cfg out rh src address) c (fun _ => Ready cfg) (Ready cfg) := by
  unfold routerHello
  split
  case isFalse => exact ready
  case isTrue accepted =>
    rw [ends_bind, ends_get, ends_bind, ends_base]
    apply Ends.imp (hello_goes cfg out rh src address _ _)
    · exact fun _ _ _ => calcDr_ready _
    · intro s stops _
      by_contra notEngaged
      exact stops (goes accepted notEngaged)

theorem endnodeHello_ready (out : Outside) {eh : EndnodeHello}
    (src address : Nat) (ready : Ready cfg c) (below : eh.id.area = cfg.parent.homearea →
      (entryOf eh.id c.station.adjacencies).state ≠ .up → ¬ Engaged c →
      ¬ Outranks cfg eh.id (entryOf eh.id c.station.adjacencies).forget) :
    Ends (base (endnodeHello cfg out eh src address)) c (fun _ => Ready cfg) (Ready cfg) := by
  apply ready_base ready (endnodeHello_leaves cfg out eh src address)
  intro t' changed unrivalled
  split at changed
  case isTrue fresh =>
    by_cases engaged : Engaged c
    · exact .inl engaged
    · right
      apply unrivalled_of_update changed.known ?_ unrivalled
      intro b isKnown
      rw [← known_eq_some isKnown]
      exact below fresh.1 fresh.2 engaged
  case isFalse => exact .inr (unrivalled_of_quiet changed unrivalled)

/-- The hello of a circuit that starts can be built, and its timer fits. -/
def Announces (cfg : LanConfig) (c : RoutingLanCircuit) : Prop :=
  (helloFrame cfg c.station.adjacencies).isOk ∧ TimerWheel.Spans (cfg.t3 * 1000)

instance (cfg : LanConfig) (c : RoutingLanCircuit) : Decidable (Announces cfg c) :=
  inferInstanceAs (Decidable (_ ∧ _))

theorem announce_returns (announces : Announces cfg c) :
    Ends (announce cfg) c (fun _ _ => True) (fun _ => False) := by
  unfold announce sendHello
  rw [ends_bind, ends_bind, ends_get]
  split
  case h_1 e failed =>
    have built := announces.1
    rw [failed] at built
    cases built
  case h_2 =>
    simp only [ends_base, ends_modify, ends_bind, ends_startTimer, if_pos announces.2]

theorem announce_engaged : Keeps Engaged (announce cfg) := by
  apply sendHello_engaged.bind
  intro _
  exact base_engaged.bind fun _ => base_engaged

theorem announce_ready : Keeps (Ready cfg) (announce cfg) := by
  apply sendHello_ready.bind
  intro _ c ready
  apply (after_iff_ends _ c).mpr
  simp only [ends_bind, ends_base, ends_startTimer]
  split <;> exact ready

theorem starting_ready (announces : ¬ Engaged c → Announces cfg c) :
    Ends (starting cfg) c (fun _ => Ready cfg) (Ready cfg) := by
  unfold starting
  rw [ends_bind]
  by_cases engaged : Engaged c
  · apply Ends.imp (announce_engaged.ends engaged)
    · exact fun _ c' _ => calcDr_ready c'
    · exact fun _ engaged _ => engaged
  · apply Ends.imp (announce_returns (announces engaged))
    · exact fun _ c' _ => calcDr_ready c'
    · nofun

theorem dispatch_ready (out : Outside) {event : LanEvent} (ready : Ready cfg c)
    (router : ∀ rh src address, event = .routerHello rh src address → accepts cfg rh → ¬ Engaged c →
        Goes cfg out rh (entryOf rh.id c.station.adjacencies))
    (endnode : ∀ eh src address, event = .endnodeHello eh src address →
      eh.id.area = cfg.parent.homearea →
      (entryOf eh.id c.station.adjacencies).state ≠ .up → ¬ Engaged c → ¬ Outranks cfg eh.id
          (entryOf eh.id c.station.adjacencies).forget) : Ready cfg (step cfg c (event, out)) := by
  apply (after_iff_ends (dispatch cfg out event) c).mpr
  unfold dispatch
  have quiet {x : StationM Unit} {id : Nodeid}
      (leaves : Leaves x c.station (Quiet id c.station.adjacencies)) :
      Ends (base x) c (fun _ => Ready cfg) (Ready cfg) :=
    ready_base ready leaves fun _ quiet unrivalled => .inr (unrivalled_of_quiet quiet unrivalled)
  cases event with
  | routerHello rh src address =>
    exact routerHello_ready out src address ready (router _ _ _ rfl)
  | endnodeHello eh src address =>
    exact endnodeHello_ready out src address ready (endnode _ _ _ rfl)
  | routing message => exact quiet (routingMessage_leaves out message)
  | data srcnode src => exact quiet (data_leaves srcnode src)
  | listenTimeout id =>
    rw [ends_bind, ends_get]
    exact ends_expiry ready (listenTimeout_ready out ready)
  | helloTimeout =>
    rw [ends_bind, ends_get]
    split
    · unfold helloTimeout
      rw [ends_bind]
      exact announce_ready.ends ready
    · exact ready
  | drTimeout =>
    rw [ends_bind, ends_get]
    split
    · exact becomeDr_ready c
    · exact ready

end RoutingLanCircuit

/-! ## Circuits that are stopped and started -/

/-- A circuit, whether the expiry of its election timer is in the work queue,
and whether it has been started. -/
structure Cycled where
  lan : RoutingLanCircuit
  (queued started : Bool)

/-- `expires` is when the wheel finds the election timer expired and queues its
expiry; the work item `drTimeout` delivers it. -/
inductive Cycle where
  | start | stop | expires
  | work (event : LanEvent) (out : Outside)

namespace Cycled

variable {cfg : LanConfig}

def new : Cycled := ⟨.new, false, false⟩

def armed (c : Cycled) : Bool := c.lan.drtimerArmed && !c.queued

/-- With a timer that was stopped its expiry in the queue has become stale. -/
def become (lan : RoutingLanCircuit) (c : Cycled) : Cycled :=
  { c with lan := lan, queued := c.queued && lan.drtimerArmed }

def step (cfg : LanConfig) (c : Cycled) : Cycle → Cycled
  | .start =>
    { c.become (after (RoutingLanCircuit.starting cfg c.lan)) with
      started := true }
  | .stop => c.become (after (RoutingLanCircuit.stopping cfg c.lan))
  | .expires => { c with queued := c.lan.drtimerArmed }
  | .work .drTimeout out =>
    if c.queued then
      { c.become (RoutingLanCircuit.step cfg c.lan (.drTimeout, out)) with
        queued := false }
    else c
  | .work event out => c.become (RoutingLanCircuit.step cfg c.lan (event, out))

/-- The flag says whether the election timer is armed or its expiry queued, and
the best candidate acts as designated router or has that timer pending. -/
def NeverStuck (cfg : LanConfig) (c : Cycled) : Prop :=
  c.started = true → (c.lan.drtimerRunning = true ↔ c.armed = true ∨ c.queued = true) ∧
    (RoutingLanCircuit.Unrivalled cfg c.lan.station.adjacencies →
      c.lan.isdr = true ∨ c.armed = true ∨ c.queued = true)

/-- A circuit is stopped only while the election timer does not run.  Unless
this router acts or waits to, the hello of a circuit that starts can be sent,
the handling of a router hello gets to the election, and no router with a
better claim comes up as an endnode. -/
def Heeds (cfg : LanConfig) (c : Cycled) : Cycle → Prop
  | .start => ¬ c.lan.Engaged → c.lan.Announces cfg
  | .stop => c.lan.drtimerRunning = false
  | .expires => True
  | .work (.routerHello rh _ _) out =>
    c.started = true → RoutingLanCircuit.accepts cfg rh → ¬ c.lan.Engaged →
      RoutingLanCircuit.Goes cfg out rh (RoutingLanCircuit.entryOf rh.id c.lan.station.adjacencies)
  | .work (.endnodeHello eh _ _) _ =>
    c.started = true → eh.id.area = cfg.parent.homearea →
      (RoutingLanCircuit.entryOf eh.id c.lan.station.adjacencies).state ≠ .up → ¬ c.lan.Engaged →
      ¬ RoutingLanCircuit.Outranks cfg eh.id
        (RoutingLanCircuit.entryOf eh.id c.lan.station.adjacencies).forget
  | .work _ _ => True

structure Sound (cfg : LanConfig) (c : Cycled) : Prop where
  matched : c.lan.Matched
  queued : c.queued = true → c.lan.drtimerArmed = true
  ready : c.started = true → c.lan.Ready cfg

theorem sound_new (cfg : LanConfig) : Sound cfg new where
  matched := rfl
  queued := nofun
  ready := nofun

variable {c : Cycled}

theorem become_queued {lan : RoutingLanCircuit}
    (queued : (c.become lan).queued = true) : lan.drtimerArmed = true :=
  (Bool.and_eq_true_iff.mp queued).2

section

variable (sound : Sound cfg c)

include sound

theorem Sound.start (heeds : Heeds cfg c .start) : Sound cfg (step cfg c .start) where
  matched := (announce_matched.bind fun _ => calcDr_matched) c.lan sound.matched
  queued := become_queued
  ready := by
    intro _
    apply (after_iff_ends (starting cfg) c.lan).mpr
    exact starting_ready heeds

theorem Sound.stop (heeds : Heeds cfg c .stop) : Sound cfg (step cfg c .stop) where
  matched := heeds
  queued := become_queued
  ready := sound.ready

theorem Sound.become {event : LanEvent} {out : Outside} (ready : c.started = true →
      (RoutingLanCircuit.step cfg c.lan (event, out)).Ready cfg) :
    Sound cfg (c.become (RoutingLanCircuit.step cfg c.lan (event, out))) where
  matched := dispatch_matched out event c.lan sound.matched
  queued := become_queued
  ready := ready

theorem Sound.work {event : LanEvent} {out : Outside} (heeds : Heeds cfg c (.work event out)) :
    Sound cfg (c.become (RoutingLanCircuit.step cfg c.lan (event, out))) := by
  apply sound.become
  intro started
  apply dispatch_ready out (sound.ready started)
  · rintro rh src address rfl
    exact heeds started
  · rintro eh src address rfl
    exact heeds started

theorem Sound.step (input : Cycle) (heeds : Heeds cfg c input) : Sound cfg (c.step cfg input) := by
  cases input with
  | start => exact sound.start heeds
  | stop => exact sound.stop heeds
  | expires => exact { sound with queued := id }
  | work event out =>
    have worked := sound.work heeds
    cases event with
    | drTimeout =>
      change Sound cfg (if c.queued = true then _ else c)
      split
      · exact { worked with queued := nofun }
      · exact sound
    | _ => exact worked

theorem Sound.neverStuck : NeverStuck cfg c := by
  intro started
  have pending : c.lan.drtimerArmed = true ↔ c.armed = true ∨ c.queued = true := by
    cases queued : c.queued with
    | true => simp [sound.queued queued]
    | false => simp [armed, queued]
  have flag : c.lan.drtimerRunning = true ↔ c.armed = true ∨ c.queued = true := by
    rw [← pending, sound.matched]
  refine ⟨flag, fun unrivalled => ?_⟩
  exact (sound.ready started unrivalled).imp_right flag.mp

end

/-- In every run in which each step heeds the condition, the election is not
stuck in any state after the first start. -/
theorem election_never_stuck (cfg : LanConfig) (inputs : List Cycle)
    (guarded : Run.Guarded (step cfg) (Heeds cfg) new inputs) :
    NeverStuck cfg (inputs.foldl (step cfg) new) :=
  Sound.neverStuck (guarded.invariant
    (fun _ input sound heeds => sound.step input heeds) (sound_new cfg))

/-- Router 1.1 is started, becomes designated router, is stopped and started
again. -/
theorem election_never_stuck_secondStart :
    NeverStuck RoutingLanCircuit.lanConfig
      ([.start, .expires, .work .drTimeout fun _ => true, .stop,
        .start].foldl (step RoutingLanCircuit.lanConfig) new) := by
  apply election_never_stuck
  refine ⟨fun _ => by decide +kernel, trivial, trivial, ?_, fun _ => by decide +kernel, trivial⟩
  change drtimerRunning _ = false
  decide +kernel

/-- The circuit of router 1.1 has been started; the router is the best
candidate, but it neither acts nor has the election timer pending. -/
def Stuck (c : Cycled) : Prop :=
  c.started = true ∧ (bestDr RoutingLanCircuit.lanConfig c.lan.station.adjacencies).self = true ∧
    c.lan.isdr = false ∧ c.armed = false ∧ c.queued = false

instance (c : Cycled) : Decidable (Stuck c) :=
  inferInstanceAs (Decidable (_ ∧ _))

theorem Stuck.not_neverStuck (stuck : Stuck c) : ¬ NeverStuck lanConfig c := by
  obtain ⟨started, best, notActing, notArmed, notQueued⟩ := stuck
  intro neverStuck
  have engaged := (neverStuck started).2 ((bestDr_self_iff _).mp best)
  simp [notActing, notArmed, notQueued] at engaged

/-- The election of router 1.1 is stuck when the circuit is stopped within the
election delay and started again, with the flag set; when a better router, whose
announced timer exceeds the wheel, lowers its priority; and when a better router
that was heard but not confirmed comes back as an endnode. -/
theorem election_stuck :
    let cfg := RoutingLanCircuit.lanConfig
    let restarted := [.start, .stop, .start].foldl (step cfg) new
    let lowered := [.start, .work (.routerHello ⟨Nodeid.make 1 2, false, 100, 2000, []⟩ 2 1)
        fun _ => true, .expires, .work .drTimeout fun _ => true,
      .work (.routerHello ⟨Nodeid.make 1 2, false, 1, 2000, []⟩ 2 1)
        fun _ => true].foldl (step cfg) new
    let converted := [.start, .work (.routerHello ⟨Nodeid.make 1 2, false, 100, 10, []⟩ 2 1)
        fun _ => true, .work (.endnodeHello ⟨Nodeid.make 1 2, 10⟩ 2 1)
        fun _ => true].foldl (step cfg) new
    (restarted.lan.drtimerRunning = true ∧ Stuck restarted ∧ ¬ NeverStuck cfg restarted) ∧
    (Stuck lowered ∧ ¬ NeverStuck cfg lowered) ∧
    Stuck converted ∧ ¬ NeverStuck cfg converted := by
  have stuck {c : Cycled} (isStuck : Stuck c) : Stuck c ∧ ¬ NeverStuck lanConfig c :=
    ⟨isStuck, isStuck.not_neverStuck⟩
  refine ⟨⟨by decide +kernel, stuck ?_⟩, stuck ?_, stuck ?_⟩
  all_goals decide +kernel

end Cycled

end Decnet.Routing
