import Decnet.Lib.Throwing
import Decnet.Nsp.Receiving

/-!
# Notifications that throw

`Decnet.Nsp.World` assumes that session control returns.  Here a notification
may also end by throwing: the exception passes through the member functions of
`Connection` and `NSP`, which have no handler, and `Node::mainloop` catches it
and goes on.  What they changed before stays changed, and what they would have
done after is not done.

`Machine` adds the member `received_` of each connection, which a state
function looks at to tell a packet from a timer expiry.
-/

namespace Decnet.Nsp

open Throwing World Connection

/-- NSP, and for each link the packet that `receive` is working on. -/
structure Machine (τ : Type) where
  nsp : World τ
  received : Ptr → Option Packet

/-- Session control that may end a notification by throwing. -/
structure ThrowingSession (ε τ : Type) extends SessionControl τ where
  throws : Ptr → Upcall → World τ → Option ε

namespace Machine

variable {ε τ : Type}

def setReceived (link : Ptr) (packet : Option Packet) (m : Machine τ) : Machine τ :=
  { m with received := Function.update m.received link packet }

/-- A statement that cannot throw. -/
def change (f : World τ → World τ) : EStateM ε (Machine τ) Unit :=
  modify fun m => { m with nsp := f m.nsp }

variable (sc : ThrowingSession ε τ)

def tell (link : Ptr) (upcall : Upcall) : EStateM ε (Machine τ) Unit := do
  let m ← get
  change (World.tell sc.toSessionControl link upcall)
  match sc.throws link upcall m.nsp with
  | none => pure ()
  | some exception => throw exception

def acceptSegment (link : Ptr) (segment : DataSeg) :
    EStateM ε (Machine τ) Unit := do
  let m ← get
  change (World.modify link (assemble segment))
  if (m.nsp.links link).completes segment then
    let m ← get
    tell sc link (.dataReceived (m.nsp.links link).assembly)
    change (World.modify link clearAssembly)

def drain (link : Ptr) : Nat → EStateM ε (Machine τ) Unit
  | 0 => pure ()
  | rounds + 1 => do
      let m ← get
      let c := m.nsp.links link
      match c.ooo.lookup c.nextExpect.value with
      | none => pure ()
      | some held =>
        change (World.modify link release)
        acceptSegment sc link held
        change (World.modify link advance)
        drain link rounds

def takeSegment (link : Ptr) (segment : DataSeg) :
    EStateM ε (Machine τ) Unit := do
  acceptSegment sc link segment
  change (World.modify link advance)
  let m ← get
  drain sc link (m.nsp.links link).ooo.keys.length
  let m ← get
  let c := m.nsp.links link
  if segment.dly && c.cphase ≥ 4 && c.running then
    change (World.modify link delayAck)
  else
    change (World.modify link sendAck)

def handleData (link : Ptr) (segment : DataSeg) :
    EStateM ε (Machine τ) Unit := do
  change (World.modify link (routeAck segment.acknum true))
  change (World.modify link (routeAck segment.acknum2 true))
  let m ← get
  let c := m.nsp.links link
  if segment.segnum.less c.nextExpect then
    change (World.modify link sendAck)
  else if segment.segnum ≠ c.nextExpect then
    change (World.modify link (fun c => (c.hold segment).sendAck))
  else
    takeSegment sc link segment

def handleInterrupt (link : Ptr) (message : IntMsg) :
    EStateM ε (Machine τ) Unit := do
  let m ← get
  if message.segnum.less (m.nsp.links link).intNextExpect then
    change (World.modify link (fun c => c.sendAckOther (c.intNextExpect - Mod.wrap 1)))
  else
    change (World.modify link (takeOther message.segnum))
    tell sc link (.interruptReceived message.payload)

def close (link : Ptr) (reason : Nat) (data : Bytes) (tellSession : Bool) :
    EStateM ε (Machine τ) Unit :=
  if tellSession then do
    change (World.modify link clearQueues)
    tell sc link (.disconnected reason data)
    change (World.closeConnection link)
  else
    change (World.closeQuietly link)

def retransmit (link : Ptr) : EStateM ε (Machine τ) Unit := do
  let m ← get
  let c := m.nsp.links link
  if c.inFlight = 0 then
    pure ()
  else
    let retries := (c.retries + 1) % 2 ^ 32
    change (World.modify link (setRetries retries))
    if retries > m.nsp.config.retransmits then
      close sc link discNoLink [] true
      change (World.setState link .cl)
    else
      change (World.modify link resend)

/-! ## States -/

def cd (link : Ptr) (input : Option Packet) : EStateM ε (Machine τ) (Option ConnState) :=
  match input with
  | none => do
      close sc link discObjFail [] true
      pure (some .cl)
  | some (.connConf message) => do
      change (fun w => w.modify link (confirm w.config message))
      change (World.setState link .run)
      tell sc link (.connectConfirmed message.dataCtl)
      pure (some .run)
  | some (.discInit message) => do
      change (World.modify link (confirmReject message))
      tell sc link (.connectRejected message.reason message.dataCtl)
      close sc link message.reason [] false
      pure (some .cl)
  | some (.discConf message) => do
      tell sc link (.connectRejected message.reason [])
      close sc link message.reason [] false
      pure (some .cl)
  | some _ => pure none

def ci (link : Ptr) (input : Option Packet) : EStateM ε (Machine τ) (Option ConnState) :=
  match input with
  | none => do
      close sc link discObjFail [] true
      pure (some .cl)
  | some (.ackConn _) => do
      change (World.modify link connectAcked)
      pure (some .cd)
  | some packet => cd sc link (some packet)

def cr (link : Ptr) (input : Option Packet) : EStateM ε (Machine τ) (Option ConnState) :=
  match input with
  | none => do
      change (World.reject link discObjFail [])
      pure none
  | some (.connInit _) => do
      change (World.modify link sendAckConn)
      pure none
  | some _ => pure none

def discInitReceived (link : Ptr) (message : DiscInit) :
    EStateM ε (Machine τ) (Option ConnState) := do
  change (World.modify link sendDiscConf)
  close sc link message.reason message.dataCtl true
  pure (some .cl)

def runPacket (link : Ptr) (packet : Packet) : EStateM ε (Machine τ) (Option ConnState) :=
  match packet with
  | .dataSeg segment => do
      handleData sc link segment
      pure none
  | .ackData header => do
      change (World.modify link (fun c =>
        (c.routeAck header.acknum true).routeAck header.acknum2 true))
      pure none
  | .ackOther header => do
      change (World.modify link (fun c =>
        (c.routeAck header.acknum false).routeAck header.acknum2 false))
      pure none
  | .linkSvc message => do
      change (World.modify link (handleLinkService message))
      pure none
  | .intMsg message => do
      handleInterrupt sc link message
      pure none
  | .discInit message => discInitReceived sc link message
  | .discConf _ => do
      close sc link discNormal [] true
      pure (some .cl)
  | _ => pure none

def run (link : Ptr) (input : Option Packet) : EStateM ε (Machine τ) (Option ConnState) :=
  match input with
  | none => do
      change (World.modify link inactive)
      pure none
  | some packet => do
      change (World.modify link touch)
      runPacket sc link packet

def cc (link : Ptr) (input : Option Packet) : EStateM ε (Machine τ) (Option ConnState) :=
  match input with
  | none => do
      close sc link discObjFail [] true
      pure (some .cl)
  | some packet =>
    if World.confirmsAccept packet then do
      change (World.modify link (processAck (Mod.wrap 0)))
      change (World.setState link .run)
      tell sc link .runState
      run sc link (some packet)
    else
      match packet with
      | .discInit message => discInitReceived sc link message
      | _ => pure none

def di (link : Ptr) (input : Option Packet) : EStateM ε (Machine τ) (Option ConnState) :=
  match input with
  | none => do
      close sc link discNormal [] true
      pure (some .cl)
  | some (.discConf _) => do
      close sc link discNormal [] true
      pure (some .cl)
  | some (.discInit _) => do
      close sc link discNormal [] true
      pure (some .cl)
  | some _ => pure none

def stateFunction (state : ConnState) (link : Ptr) (input : Option Packet) :
    EStateM ε (Machine τ) (Option ConnState) :=
  match state with
  | .s0 => pure none
  | .ci => ci sc link input
  | .cd => cd sc link input
  | .cr => cr link input
  | .cc => cc sc link input
  | .run => run sc link input
  | .di => di sc link input
  | .cl => pure none

/-- The state functions take `received_` for their input whatever the work
item is. -/
def dispatch (link : Ptr) : EStateM ε (Machine τ) Unit := do
  let m ← get
  let next ← stateFunction sc (m.nsp.links link).state link (m.received link)
  match next with
  | none => pure ()
  | some state => change (World.setState link state)

def receive (link : Ptr) (packet : Packet) : EStateM ε (Machine τ) Unit := do
  modify (setReceived link (some packet))
  dispatch sc link
  modify (setReceived link none)

def timeout (link : Ptr) : EStateM ε (Machine τ) Unit := do
  let m ← get
  if (m.nsp.links link).timerIsRetransmit then retransmit sc link else dispatch sc link

/-! ## NSP -/

def startInbound (link : Ptr) (message : ConnInit) :
    EStateM ε (Machine τ) Unit := do
  change (fun w => w.modify link (connectReceived w.config message))
  tell sc link (.connectReceived message.payload)

/-- A new connection starts with `received_` null. -/
def deliverConnInit (src : Nodeid) (message : ConnInit) :
    EStateM ε (Machine τ) Unit := do
  let m ← get
  match m.nsp.byRemote.lookup (src, message.srcaddr) with
  | some link => receive sc link (.connInit message)
  | none =>
    match m.nsp.getId with
    | none =>
      change (fun w => { w with
        sent := w.sent ++ [(src, .discConf ⟨message.srcaddr, 0, noResources⟩)] })
    | some (addr, w) =>
      change (fun _ => w.newInbound addr src message.srcaddr)
      modify (setReceived w.allocated none)
      startInbound sc w.allocated message

def deliver (src : Nodeid) (packet : Packet) : EStateM ε (Machine τ) Unit :=
  match packet with
  | .connInit message => deliverConnInit sc src message
  | packet => do
      let m ← get
      match m.nsp.byAddr.lookup packet.linkAddress with
      | none => pure ()
      | some link => receive sc link packet

def expire (link : Ptr) : EStateM ε (Machine τ) Unit := do
  let m ← get
  if (m.nsp.links link).timer then
    change (World.modify link stopTimer)
    timeout sc link

/-- `Node::mainloop` goes on after an exception with what it left behind. -/
def step (m : Machine τ) : World.Input τ → Machine τ
  | .deliver src packet => after (deliver sc src packet m)
  | .expire link => after (expire sc link m)
  | input => { m with nsp := m.nsp.step sc.toSessionControl input }

def start (config : NspConfig) (ids : List Nat) (session : τ) : Machine τ :=
  { nsp := World.start config ids session
    received := fun _ => none }

def reach (config : NspConfig) (ids : List Nat) (session : τ)
    (inputs : List (World.Input τ)) : Machine τ :=
  inputs.foldl (step sc) (start config ids session)

variable {sc}

/-! ## What the functions do

Every function does what its counterpart in `World` does, or a notification
throws; none below `receive` touches `received_`. -/

/-- From `m` the computation changes NSP and returns as in `out`, or ends with
an exception of session control. -/
def Does (sc : ThrowingSession ε τ) {α : Type} (m : Machine τ)
    (x : EStateM ε (Machine τ) α) (out : World τ × α) : Prop :=
  match x m with
  | .ok value m' => value = out.2 ∧ m' = { m with nsp := out.1 }
  | .error exception m' => m'.received = m.received ∧
      ∃ link upcall w, sc.throws link upcall w = some exception

section Does

variable {m : Machine τ} {α β : Type} {x : EStateM ε (Machine τ) α}
  {y : α → EStateM ε (Machine τ) β} {link : Ptr}

theorem does_pure (value : α) : Does sc m (pure value) (m.nsp, value) :=
  ⟨rfl, rfl⟩

theorem does_change (f : World τ → World τ) : Does sc m (change f) (f m.nsp, ()) :=
  ⟨rfl, rfl⟩

theorem Does.bind {w : World τ} {value : α} {out : World τ × β} (first : Does sc m x (w, value))
    (second : Does sc { m with nsp := w } (y value) out) : Does sc m (x >>= y) out := by
  unfold Does at first ⊢
  rw [bind_apply]
  cases ended : x m with
  | ok value' m' =>
    rw [ended] at first
    obtain ⟨rfl, rfl⟩ := first
    exact second
  | error exception m' =>
    rw [ended] at first
    exact first

theorem Does.get {x : Machine τ → EStateM ε (Machine τ) α}
    {out : World τ × α} (does : Does sc m (x m) out) : Does sc m (MonadState.get >>= x) out :=
  does

theorem Does.ok {out : World τ × α} (does : Does sc m x out)
    (quiet : ∀ link upcall w, sc.throws link upcall w = none) :
    x m = .ok out.2 { m with nsp := out.1 } := by
  unfold Does at does
  split at does
  · rename_i ended
    rw [ended, does.1, does.2]
  · obtain ⟨_, link, upcall, w, thrown⟩ := does
    rw [quiet] at thrown
    cases thrown

theorem Does.received {out : World τ × α} (does : Does sc m x out)
    {exception : ε} {m' : Machine τ} (thrown : x m = .error exception m') :
    m'.received = m.received := by
  unfold Does at does
  rw [thrown] at does
  exact does.1

theorem does_tell (upcall : Upcall) :
    Does sc m (tell sc link upcall) (m.nsp.tell sc.toSessionControl link upcall, ()) := by
  refine .get (.bind (does_change _) ?_)
  cases thrown : sc.throws link upcall m.nsp with
  | none => exact does_pure _
  | some exception => exact ⟨rfl, link, upcall, m.nsp, thrown⟩

theorem does_acceptSegment (segment : DataSeg) :
    Does sc m (acceptSegment sc link segment)
      (m.nsp.acceptSegment sc.toSessionControl link segment, ()) := by
  unfold acceptSegment World.acceptSegment
  refine .get (.bind (does_change _) ?_)
  dsimp only
  split
  · exact .get (.bind (does_tell _) (does_change _))
  · exact does_pure _

theorem does_drain (rounds : Nat) :
    Does sc m (drain sc link rounds) (m.nsp.drain sc.toSessionControl link rounds, ()) := by
  induction rounds generalizing m with
  | zero => exact does_pure _
  | succ rounds ih =>
    unfold drain World.drain
    refine .get ?_
    dsimp only
    cases (m.nsp.links link).ooo.lookup (m.nsp.links link).nextExpect.value with
    | none => exact does_pure _
    | some held =>
      exact (does_change _).bind ((does_acceptSegment held).bind ((does_change _).bind ih))

theorem does_handleData (segment : DataSeg) :
    Does sc m (handleData sc link segment)
      (m.nsp.handleData sc.toSessionControl link segment, ()) := by
  unfold handleData World.handleData
  refine (does_change _).bind ((does_change _).bind (.get ?_))
  dsimp only
  split
  · exact does_change _
  split
  · exact does_change _
  · refine (does_acceptSegment segment).bind ((does_change _).bind
      (.get ((does_drain _).bind (.get ?_))))
    dsimp only
    split <;> exact does_change _

theorem does_handleInterrupt (message : IntMsg) :
    Does sc m (handleInterrupt sc link message)
      (m.nsp.handleInterrupt sc.toSessionControl link message, ()) := by
  unfold handleInterrupt World.handleInterrupt
  refine .get ?_
  dsimp only
  split
  · exact does_change _
  · exact (does_change _).bind (does_tell _)

theorem does_close (reason : Nat) (data : Bytes) (tellSession : Bool) :
    Does sc m (close sc link reason data tellSession)
      (m.nsp.close sc.toSessionControl link reason data tellSession, ()) := by
  cases tellSession with
  | false => exact does_change _
  | true => exact (does_change _).bind ((does_tell _).bind (does_change _))

theorem does_cd (input : Option Packet) :
    Does sc m (cd sc link input) (m.nsp.cd sc.toSessionControl link input) := by
  cases input with
  | none => exact (does_close _ _ _).bind (does_pure _)
  | some packet =>
    cases packet with
    | connConf message =>
      exact (does_change _).bind ((does_change _).bind ((does_tell _).bind (does_pure _)))
    | discInit message =>
      exact (does_change _).bind ((does_tell _).bind ((does_close _ _ _).bind (does_pure _)))
    | discConf message =>
      exact (does_tell _).bind ((does_close _ _ _).bind (does_pure _))
    | _ => exact does_pure none

theorem does_discInitReceived (message : DiscInit) :
    Does sc m (discInitReceived sc link message)
      (m.nsp.discInitReceived sc.toSessionControl link message) :=
  (does_change _).bind ((does_close _ _ _).bind (does_pure _))

theorem does_run (input : Option Packet) :
    Does sc m (run sc link input) (m.nsp.run sc.toSessionControl link input) := by
  cases input with
  | none => exact (does_change _).bind (does_pure _)
  | some packet =>
    refine (does_change _).bind ?_
    cases packet with
    | dataSeg segment => exact (does_handleData segment).bind (does_pure _)
    | intMsg message =>
      exact (does_handleInterrupt message).bind (does_pure _)
    | discInit message => exact does_discInitReceived message
    | discConf _ => exact (does_close _ _ _).bind (does_pure _)
    | ackData | ackOther | linkSvc =>
      exact (does_change _).bind (does_pure _)
    | _ => exact does_pure none

theorem does_cc (packet : Packet) :
    Does sc m (cc sc link (some packet)) (m.nsp.cc sc.toSessionControl link (some packet)) := by
  cases packet with
  | discInit message => exact does_discInitReceived message
  | dataSeg | ackData | intMsg | linkSvc | ackOther =>
    exact (does_change _).bind ((does_change _).bind ((does_tell _).bind (does_run _)))
  | _ => exact does_pure none

theorem does_stateFunction (state : ConnState) (input : Option Packet) :
    Does sc m (stateFunction sc state link input)
      (m.nsp.stateFunction sc.toSessionControl state link input) := by
  cases state with
  | s0 | cl => exact does_pure none
  | cd => exact does_cd input
  | run => exact does_run input
  | ci =>
    have other := @does_cd ε τ sc m link input
    rcases input with _ | packet
    · exact (does_close _ _ _).bind (does_pure _)
    · cases packet with
      | ackConn _ => exact (does_change _).bind (does_pure _)
      | _ => exact other
  | cr =>
    rcases input with _ | packet
    · exact (does_change _).bind (does_pure _)
    · cases packet with
      | connInit _ => exact (does_change _).bind (does_pure _)
      | _ => exact does_pure none
  | cc =>
    rcases input with _ | packet
    · exact (does_close _ _ _).bind (does_pure _)
    · exact does_cc packet
  | di =>
    rcases input with _ | packet
    · exact (does_close _ _ _).bind (does_pure _)
    · cases packet with
      | discConf | discInit => exact (does_close _ _ _).bind (does_pure _)
      | _ => exact does_pure none

theorem does_dispatch (link : Ptr) :
    Does sc m (dispatch sc link)
      (m.nsp.dispatch sc.toSessionControl link (m.received link), ()) := by
  have asked := @does_stateFunction ε τ sc m link (m.nsp.links link).state (m.received link)
  unfold dispatch World.dispatch
  generalize m.nsp.stateFunction sc.toSessionControl (m.nsp.links link).state
    link (m.received link) = ended at asked ⊢
  obtain ⟨w, next⟩ := ended
  refine .get (asked.bind ?_)
  cases next with
  | none => exact does_pure _
  | some state => exact does_change _

theorem does_retransmit (link : Ptr) :
    Does sc m (retransmit sc link) (m.nsp.retransmit sc.toSessionControl link, ()) := by
  unfold retransmit World.retransmit
  refine .get ?_
  dsimp only
  split
  · exact does_pure _
  · refine (does_change _).bind ?_
    rw [modify_config]
    split
    · exact (does_close _ _ _).bind (does_change _)
    · exact does_change _

theorem does_startInbound (link : Ptr) (message : ConnInit) :
    Does sc m (startInbound sc link message)
      (m.nsp.startInbound sc.toSessionControl link message, ()) :=
  (does_change _).bind (does_tell _)

end Does

/-! ## Session control that returns

Nothing throws, and `received_` is null between two work items. -/

section Quiet

def idle (w : World τ) : Machine τ :=
  ⟨w, fun _ => none⟩

theorem setReceived_idle (link : Ptr) (w : World τ) : setReceived link none (idle w) = idle w := by
  unfold setReceived idle
  rw [Function.update_eq_self_iff.mpr rfl]

variable (quiet : ∀ link upcall w, sc.throws link upcall w = none)
include quiet

theorem receive_of_quiet (link : Ptr) (packet : Packet) (w : World τ) :
    receive sc link packet (idle w) =
      .ok () (idle (w.receive sc.toSessionControl link packet)) := by
  have dispatched := (@does_dispatch ε τ sc (setReceived link (some packet) (idle w)) link).ok quiet
  have input : (setReceived link (some packet) (idle w)).received link = some packet := by
    simp [setReceived]
  rw [input] at dispatched
  have cleared := setReceived_idle link (w.receive sc.toSessionControl link packet)
  unfold receive
  rw [bind_ok (modify_apply _ _), bind_ok dispatched, modify_apply, ← cleared]
  simp only [setReceived, Function.update_idem]
  rfl

theorem deliver_returns (src : Nodeid) (packet : Packet) (m : Machine τ) :
    ∃ m', deliver sc src packet m = .ok () m' := by
  have received (link : Ptr) (packet : Packet) : ∃ m', receive sc link packet m = .ok () m' := by
    unfold receive
    rw [bind_ok (modify_apply _ m), bind_ok ((does_dispatch link).ok quiet)]
    exact ⟨_, rfl⟩
  have addressed (packet : Packet) :
      ∃ m', (match m.nsp.byAddr.lookup packet.linkAddress with
        | none => pure ()
        | some link => receive sc link packet : EStateM ε (Machine τ) Unit) m = .ok () m' := by
    cases m.nsp.byAddr.lookup packet.linkAddress with
    | none => exact ⟨_, rfl⟩
    | some link => exact received link packet
  cases packet with
  | connInit message =>
    unfold deliver deliverConnInit
    dsimp only
    rw [get_bind_apply]
    cases m.nsp.byRemote.lookup (src, message.srcaddr) with
    | some link => exact received link _
    | none =>
      cases m.nsp.getId with
      | none => exact ⟨_, rfl⟩
      | some fresh => exact ⟨_, (does_startInbound _ _).ok quiet⟩
  | _ => exact addressed _

theorem deliver_of_quiet (src : Nodeid) (packet : Packet) (w : World τ) :
    deliver sc src packet (idle w) = .ok () (idle (w.deliver sc.toSessionControl src packet)) := by
  have addressed (packet : Packet) (found : Option Ptr) :
      (match found with
        | none => pure ()
        | some link => receive sc link packet : EStateM ε (Machine τ) Unit) (idle w) =
        .ok () (idle (match found with
          | none => w
          | some link => w.receive sc.toSessionControl link packet)) := by
    cases found with
    | none => rfl
    | some link => exact receive_of_quiet quiet link packet w
  cases packet with
  | connInit message =>
    unfold deliver deliverConnInit World.deliver World.deliverConnInit
    dsimp only
    rw [get_bind_apply]
    dsimp only [idle]
    cases w.byRemote.lookup (src, message.srcaddr) with
    | some link => exact receive_of_quiet quiet link _ w
    | none =>
      cases w.getId with
      | none => rfl
      | some fresh =>
        change startInbound sc fresh.2.allocated message (setReceived fresh.2.allocated none
            (idle (fresh.2.newInbound fresh.1 src message.srcaddr))) = _
        rw [setReceived_idle]
        exact (does_startInbound _ _).ok quiet
  | _ => exact addressed _ _

theorem timeout_of_quiet (link : Ptr) (w : World τ) :
    timeout sc link (idle w) = .ok () (idle (w.timeout sc.toSessionControl link)) := by
  unfold timeout World.timeout
  change (if (w.links link).timerIsRetransmit = true then _ else _ :
    EStateM ε (Machine τ) Unit) (idle w) = _
  split
  · exact (does_retransmit link).ok quiet
  · exact (does_dispatch link).ok quiet

theorem expire_of_quiet (link : Ptr) (w : World τ) :
    expire sc link (idle w) = .ok () (idle (w.expire sc.toSessionControl link)) := by
  unfold expire World.expire
  change (if (w.links link).timer = true then _ else _ : EStateM ε (Machine τ) Unit) (idle w) = _
  split
  · exact timeout_of_quiet quiet link _
  · rfl

end Quiet

/-- Runs in which nothing throws are those of `World`. -/
theorem reach_of_quiet (session : SessionControl τ) (config : NspConfig) (ids : List Nat)
    (initial : τ) (inputs : List (World.Input τ)) :
    reach (⟨session, fun _ _ _ => none⟩ : ThrowingSession ε τ) config ids initial inputs =
      idle (World.reach session config ids initial inputs) := by
  unfold reach World.reach
  have begun : start config ids initial = idle (World.start config ids initial) := rfl
  rw [begun]
  generalize World.start config ids initial = w
  induction inputs generalizing w with
  | nil => rfl
  | cons input inputs ih =>
    have stepped : @step ε τ ⟨session, fun _ _ _ => none⟩ (idle w) input =
        idle (w.step session input) := by
      cases input with
      | deliver src packet => exact congrArg after (deliver_of_quiet (fun _ _ _ => rfl) src packet w)
      | expire link => exact congrArg after (expire_of_quiet (fun _ _ _ => rfl) link w)
      | _ => rfl
    rw [List.foldl_cons, stepped]
    exact ih _

theorem received_of_throw {link : Ptr} {packet : Packet} {exception : ε} {m m' : Machine τ}
    (thrown : receive sc link packet m = .error exception m') : m'.received link = some packet := by
  rcases bind_error thrown with early | ⟨_, entered, set, later⟩
  · cases early
  · cases set
    rcases bind_error later with raised | ⟨_, _, _, cleared⟩
    · rw [(does_dispatch link).received raised]
      simp [setReceived]
    · cases cleared

end Machine

/-! ## What an exception leaves behind -/

namespace Connection

/-- The segments that a link takes when `segment` arrives in its turn: that
one, and after it the held ones that follow on. -/
def InTurn (segment : DataSeg) (c : Connection) : Nat → DataSeg → Prop
  | 0, other => other = segment
  | place + 1, other =>
    c.ooo.lookup (c.nextExpect + Mod.wrap (place + 1)).value = some other

/-- Some segments have been taken in their turn: each was handed up and
counted.  No other one was, and the others that were held are held still. -/
def Whole (segment : DataSeg) (before after : Connection) : Prop :=
  ∃ taken : List DataSeg, (∀ place other, taken[place]? = some other →
      before.InTurn segment place other) ∧
    after.nextExpect = before.nextExpect + Mod.wrap taken.length ∧
    after.rcvd = before.rcvd + taken.length ∧
    after.messages = ((taken.map DataSeg.piece).foldl Assembly.take before.assembled).delivered ∧
    ∀ number other, before.ooo.lookup number = some other →
      other ∈ taken ∨ after.ooo.lookup number = some other

end Connection

/-- The link that a packet is for: one that exists, or the one it opens. -/
def World.addressee {τ : Type*} (src : Nodeid) (packet : Packet) (w : World τ) : Ptr :=
  (w.recipient src packet).getD w.allocated

namespace Machine

variable {ε τ : Type} {sc : ThrowingSession ε τ}

/-- Nothing is being worked on any more, and each data segment has been handed
up and counted, or neither. -/
structure Unharmed (src : Nodeid) (packet : Packet) (m m' : Machine τ) : Prop where
  cleared : m'.received (m.nsp.addressee src packet) = none
  whole : ∀ segment, packet = .dataSeg segment →
    Whole segment (m.nsp.links (m.nsp.addressee src packet))
      (m'.nsp.links (m.nsp.addressee src packet))

theorem deliver_of_recipient {m : Machine τ} {src : Nodeid} {packet : Packet}
    {link : Ptr} (found : m.nsp.recipient src packet = some link) :
    deliver sc src packet m = receive sc link packet m := by
  cases packet with
  | connInit message =>
    change m.nsp.byRemote.lookup (src, message.srcaddr) = some link at found
    simp only [deliver, deliverConnInit]
    rw [get_bind_apply, found]
  | _ =>
    simp only [recipient] at found
    simp only [deliver]
    rw [get_bind_apply, found]

theorem deliver_of_no_recipient {m m' : Machine τ} {src : Nodeid} {packet : Packet} {exception : ε}
    (unknown : m.nsp.recipient src packet = none)
    (thrown : deliver sc src packet m = .error exception m') :
    ∃ message, packet = .connInit message ∧ m'.received m.nsp.allocated = none := by
  cases packet with
  | connInit message =>
    change m.nsp.byRemote.lookup (src, message.srcaddr) = none at unknown
    simp only [deliver, deliverConnInit] at thrown
    rw [get_bind_apply, unknown] at thrown
    cases fresh : m.nsp.getId with
    | none =>
      rw [fresh] at thrown
      cases thrown
    | some pair =>
      obtain ⟨addr, rest⟩ := pair
      have place : rest.allocated = m.nsp.allocated := by
        unfold getId at fresh
        split at fresh
        · cases fresh
        · cases fresh
          rfl
      rw [fresh] at thrown
      have kept := (does_startInbound rest.allocated message).received thrown
      rw [kept, ← place]
      simp [setReceived]
  | _ =>
    simp only [recipient] at unknown
    simp only [deliver] at thrown
    rw [get_bind_apply, unknown] at thrown
    cases thrown

/-- An exception does no harm exactly when the packet was for no link that
existed, so that it opened one. -/
theorem thrown_unharmed_iff (sc : ThrowingSession ε τ) (src : Nodeid)
    (packet : Packet) (exception : ε) (m m' : Machine τ)
    (thrown : deliver sc src packet m = .error exception m') :
    Unharmed src packet m m' ↔ m.nsp.recipient src packet = none := by
  constructor
  · intro unharmed
    have cleared := unharmed.cleared
    cases found : m.nsp.recipient src packet with
    | none => rfl
    | some link =>
      rw [deliver_of_recipient found] at thrown
      rw [addressee, found, Option.getD_some, received_of_throw thrown] at cleared
      cases cleared
  · intro unknown
    obtain ⟨message, rfl, cleared⟩ := deliver_of_no_recipient unknown thrown
    constructor
    case cleared =>
      rw [addressee, unknown]
      exact cleared
    case whole => exact nofun

/-- Session control that accepts every link, and throws when it is handed a
message or, if `wary`, when a connection arrives. -/
def throwing (wary : Bool) : ThrowingSession Unit Unit where
  toSessionControl := .scripted fun link upcall =>
    match upcall with
    | .connectReceived _ => [.accept link [] svcNone]
    | _ => []
  throws _ upcall _ :=
    match upcall with
    | .connectReceived _ => if wary then some () else none
    | .dataReceived _ => some ()
    | _ => none

def connecting : Packet :=
  .connInit
    { dstaddr := 0
      srcaddr := 9
      fcopt := svcNone
      info := 2
      segsize := 500
      payload := [] }

def oneMessage : Packet :=
  .dataSeg
    { dstaddr := 1
      srcaddr := 9
      acknum := none
      acknum2 := none
      segnum := Mod.wrap 1
      dly := false
      bom := true
      eom := true
      payload := [7] }

def smallConfig : NspConfig := ⟨1, 20, 8, 4, 60⟩

theorem thrown_unharmed_iff_connecting :
    let m := start smallConfig [1] ()
    let m' := after (deliver (throwing true) 5 connecting m)
    deliver (throwing true) 5 connecting m = .error () m' ∧ (Unharmed 5 connecting m m' ↔
        m.nsp.recipient 5 connecting = none) := by
  intro m m'
  have thrown : deliver (throwing true) 5 connecting m = .error () m' := rfl
  exact ⟨thrown, thrown_unharmed_iff (throwing true) 5 connecting () m m' thrown⟩

def accepted : Machine Unit :=
  reach (throwing false) smallConfig [1] ()
    [.deliver 5 connecting, .deliver 5 (.ackData ⟨1, 9, none, none⟩)]

/-- The message has been handed up, its segment is still expected, and the next
timer expiry will be taken for the packet. -/
theorem message_thrown_harmed :
    let m' := after (deliver (throwing false) 5 oneMessage accepted)
    deliver (throwing false) 5 oneMessage accepted = .error () m' ∧
      (m'.nsp.links 0).messages = [[7]] ∧ (m'.nsp.links 0).nextExpect = Mod.wrap 1 ∧
      m'.received 0 = some oneMessage ∧ ¬ Unharmed 5 oneMessage accepted m' := by
  refine ⟨rfl, by decide +kernel, by decide +kernel, by decide +kernel, ?_⟩
  intro unharmed
  have cleared := unharmed.cleared
  revert cleared
  decide +kernel

end Machine

end Decnet.Nsp
