import Decnet.Nsp.Steady
import Decnet.Nsp.World

/-!
# What NSP does to one link

A packet, a timer or a decision of the peer changes one link by a few
operations of `Connection`, in an order that the state functions fix.  `Op`
names the operations that leave session control alone, `LinkStep` adds the
notifications and the ways a link is confirmed or closed.  All that is proved
about a link in every run rests on these lists.

What a packet brings is processed in many places.  The parameter `heeds` says
what may be, so that a condition on what arrives can be carried to the place
where it matters.
-/

namespace Decnet.Nsp

open Connection

/-- Notifications that neither announce a link nor end one. -/
def Upcall.midway : Upcall → Bool
  | .dataReceived _ => true
  | .interruptReceived _ => true
  | .runState => true
  | _ => false

open Relation

/-- A condition on what a link processes: which acknowledgements, by the link,
the field and whether it came on the data subchannel; whether any data
segments, or messages of the other-data subchannel; and which addresses of the
far end it may learn. -/
structure Heeds where
  ack : Connection → Option AckNum → Bool → Prop
  data : Prop
  other : Prop
  learns : Nat → Prop

def Heeds.all : Heeds := ⟨fun _ _ _ => True, True, True, fun _ => True⟩

/-- A notification may be the outcome of what is processed. -/
def Heeds.Hears (heeds : Heeds) : Upcall → Prop
  | .dataReceived _ => heeds.data
  | .interruptReceived _ => heeds.other
  | _ => True

/-- The operations of a link that leave session control alone. -/
inductive Connection.Op (heeds : Heeds) : Connection → Connection → Prop where
  | touch (c : Connection) : Op heeds c c.touch
  | routeAck (c : Connection) (ack : Option AckNum) (onData : Bool)
      (heeded : heeds.ack c ack onData) : Op heeds c (c.routeAck ack onData)
  | sendAck (c : Connection) : Op heeds c c.sendAck
  | delayAck (c : Connection) : Op heeds c c.delayAck
  | ackHoldoff (c : Connection) : Op heeds c c.stopAckTimer.ackHoldoff
  | hold (c : Connection) (segment : DataSeg) (data : heeds.data) : Op heeds c (c.hold segment)
  | release (c : Connection) (data : heeds.data) : Op heeds c c.release
  | assemble (c : Connection) (segment : DataSeg) (data : heeds.data) :
      Op heeds c (c.assemble segment)
  | clearAssembly (c : Connection) (data : heeds.data) : Op heeds c c.clearAssembly
  | advance (c : Connection) (data : heeds.data) : Op heeds c c.advance
  | sendAckOther (c : Connection) (num : Seq) (other : heeds.other) :
      Op heeds c (c.sendAckOther num)
  | takeOther (c : Connection) (num : Seq) (other : heeds.other) : Op heeds c (c.takeOther num)
  | applyCredit (c : Connection) (message : LinkSvcMsg)
      (other : heeds.other) : Op heeds c (c.applyCredit message)
  | sendDiscConf (c : Connection) : Op heeds c c.sendDiscConf
  | sendAckConn (c : Connection) : Op heeds c c.sendAckConn
  | confirmReject (c : Connection) (message : DiscInit) (opening : c.state = .ci ∨ c.state = .cd)
      (learned : heeds.learns message.srcaddr) : Op heeds c (c.confirmReject message)
  | connectAcked (c : Connection) (opening : c.state = .ci) :
      Op heeds c (c.connectAcked.withState .cd)
  | accepted (c : Connection) (confirming : c.state = .cc) :
      Op heeds c ((c.processAck (Mod.wrap 0)).withState .run)
  | inactive (c : Connection) (running : c.state = .run) (kind : c.timerIsRetransmit = false) :
      Op heeds c c.stopTimer.inactive
  | stopTimer (c : Connection) (idle : c.state = .s0 ∨ c.state = .cl ∨
        c.timerIsRetransmit = true ∧ c.inFlight = 0) : Op heeds c c.stopTimer
  | resend (c : Connection) (retries : Nat)
      (kind : c.timerIsRetransmit = true) (flying : c.inFlight ≠ 0) :
      Op heeds c (c.stopTimer.setRetries retries).resend

namespace Connection

/-- What has been taken of the data, and what is held. -/
structure Inbox where
  nextExpect : Seq
  rcvd : Nat
  ooo : AList (fun _ : Nat => DataSeg)
  assembly : Bytes
  assembling : Bool

/-- The members that change as packets are received and answered. -/
structure ReceivingHalf extends Inbox where
  intNextExpect : Seq
  (ackpending ackTimer timer : Bool)
  outbox : List Frame

def inbox (c : Connection) : Inbox :=
  ⟨c.nextExpect, c.rcvd, c.ooo, c.assembly, c.assembling⟩

def receivingHalf (c : Connection) : ReceivingHalf :=
  ⟨c.inbox, c.intNextExpect, c.ackpending, c.ackTimer, c.timer, c.outbox⟩

def withReceiving (half : ReceivingHalf) (c : Connection) : Connection :=
  { c with
    nextExpect := half.nextExpect
    rcvd := half.rcvd
    ooo := half.ooo
    assembly := half.assembly
    assembling := half.assembling
    intNextExpect := half.intNextExpect
    ackpending := half.ackpending
    ackTimer := half.ackTimer
    timer := half.timer
    outbox := half.outbox }

/-- A packet that is no data segment, and no acknowledgement of other data
unless such is heeded. -/
structure Answer (heeds : Heeds) (f : Frame) : Prop where
  data : ∀ segment, f.packet ≠ .dataSeg segment
  other : heeds.other ∨ ∀ header, f.packet ≠ .ackOther header

/-- What an operation does.  Most of them only receive: they leave the timer
alone or arm it, and send at most one packet. -/
inductive Does (heeds : Heeds) (c : Connection) : Connection → Prop where
  | receives (half : ReceivingHalf) (timer : half.timer = c.timer ∨ half.timer = true)
      (sent : half.outbox = c.outbox ∨ ∃ f : Frame, half.outbox = c.outbox ++ [f] ∧ Answer heeds f)
      (data : heeds.data ∨ half.toInbox = c.inbox)
      (other : heeds.other ∨ half.intNextExpect = c.intNextExpect) :
      Does heeds c (c.withReceiving half)
  | routeAck (ack : Option AckNum) (onData : Bool)
      (heeded : heeds.ack c ack onData) : Does heeds c (c.routeAck ack onData)
  | applyCredit (message : LinkSvcMsg) (other : heeds.other) : Does heeds c (c.applyCredit message)
  | confirmReject (message : DiscInit) (opening : c.state = .ci ∨ c.state = .cd)
      (learned : heeds.learns message.srcaddr) : Does heeds c (c.confirmReject message)
  | connectAcked (opening : c.state = .ci) : Does heeds c (c.connectAcked.withState .cd)
  | accepted (confirming : c.state = .cc) :
      Does heeds c ((c.processAck (Mod.wrap 0)).withState .run)
  | stopTimer (idle : c.state = .s0 ∨ c.state = .cl ∨
      c.timerIsRetransmit = true ∧ c.inFlight = 0) : Does heeds c c.stopTimer
  | resend (retries : Nat) (kind : c.timerIsRetransmit = true) (flying : c.inFlight ≠ 0) :
      Does heeds c (c.stopTimer.setRetries retries).resend

theorem inactive_stopTimer (c : Connection) :
    c.stopTimer.inactive = { c.sendAck with timer := true } :=
  rfl

theorem does_op {heeds : Heeds} {c c' : Connection} (op : Op heeds c c') : Does heeds c c' := by
  have quiet {c' : Connection} (same : c' = c.withReceiving c'.receivingHalf)
      (timer : c'.timer = c.timer ∨ c'.timer = true) (outbox : c'.outbox = c.outbox)
      (data : heeds.data ∨ c'.inbox = c.inbox)
      (intNextExpect : c'.intNextExpect = c.intNextExpect) : Does heeds c c' :=
    same ▸ .receives _ timer (.inl outbox) data (.inr intNextExpect)
  have one {c' : Connection} {f : Frame} (same : c' = c.withReceiving c'.receivingHalf)
      (timer : c'.timer = c.timer ∨ c'.timer = true) (outbox : c'.outbox = c.outbox ++ [f])
      (inbox : c'.inbox = c.inbox) (answer : Answer heeds f)
      (other : heeds.other ∨ c'.intNextExpect = c.intNextExpect) : Does heeds c c' :=
    same ▸ .receives _ timer (.inr ⟨f, outbox, answer⟩) (.inr inbox) other
  cases op with
  | touch =>
    unfold touch
    split
    · exact quiet rfl (.inr rfl) rfl (.inr rfl) rfl
    · exact quiet rfl (.inl rfl) rfl (.inr rfl) rfl
  | ackHoldoff =>
    unfold ackHoldoff
    split
    · exact one rfl (.inl rfl) rfl rfl ⟨nofun, .inr nofun⟩ (.inr rfl)
    · exact quiet rfl (.inl rfl) rfl (.inr rfl) rfl
  | hold _ data =>
    unfold hold
    split
    · split <;> exact quiet rfl (.inl rfl) rfl (.inl data) rfl
    · exact quiet rfl (.inl rfl) rfl (.inl data) rfl
  | assemble _ data =>
    unfold assemble
    dsimp only
    split <;> split <;> exact quiet rfl (.inl rfl) rfl (.inl data) rfl
  | sendAckConn =>
    unfold sendAckConn
    split
    · exact one rfl (.inl rfl) rfl rfl ⟨nofun, .inr nofun⟩ (.inr rfl)
    · exact quiet rfl (.inl rfl) rfl (.inr rfl) rfl
  | delayAck => exact quiet rfl (.inl rfl) rfl (.inr rfl) rfl
  | release data | clearAssembly data | advance data =>
    exact quiet rfl (.inl rfl) rfl (.inl data) rfl
  | sendAck | sendDiscConf =>
    exact one rfl (.inl rfl) rfl rfl ⟨nofun, .inr nofun⟩ (.inr rfl)
  | sendAckOther _ other | takeOther _ other =>
    exact one rfl (.inl rfl) rfl rfl ⟨nofun, .inl other⟩ (.inl other)
  | inactive =>
    rw [inactive_stopTimer]
    exact one rfl (.inr rfl) rfl rfl ⟨nofun, .inr nofun⟩ (.inr rfl)
  | routeAck ack onData heeded => exact .routeAck ack onData heeded
  | applyCredit message other => exact .applyCredit message other
  | confirmReject message opening learned =>
    exact .confirmReject message opening learned
  | connectAcked opening => exact .connectAcked opening
  | accepted confirming => exact .accepted confirming
  | stopTimer idle => exact .stopTimer idle
  | resend retries kind flying => exact .resend retries kind flying

end Connection

/-- What an expired timer changes before the link is closed. -/
inductive Connection.Expiry : (Connection → Connection) → Prop where
  | none : Expiry id
  | expired : Expiry stopTimer
  | exhausted (retries : Nat) : Expiry (fun c => c.stopTimer.setRetries retries)

namespace World

variable {τ : Type*}

def put (link : Ptr) (c : Connection) (w : World τ) : World τ :=
  { w with links := Function.update w.links link c }

section

variable (w : World τ) (link : Ptr)

@[simp] theorem put_put (c c' : Connection) : (w.put link c).put link c' = w.put link c' := by
  simp [put]

@[simp] theorem put_self : w.put link (w.links link) = w := by
  simp [put]

@[simp] theorem put_links_self (c : Connection) : (w.put link c).links link = c := by
  simp [put]

theorem modify_eq_put (change : Connection → Connection) :
    w.modify link change = w.put link (change (w.links link)) :=
  rfl

end

variable (sc : SessionControl τ)

/-- One change that a packet or a timer of `link` makes; `lapses` says whether
its connect timer may run out in state `cr`. -/
inductive LinkStep (heeds : Heeds) (lapses : Prop) (link : Ptr) : World τ → World τ → Prop where
  | op (w : World τ) (c : Connection) (op : Connection.Op heeds (w.links link) c) :
      LinkStep heeds lapses link w (w.put link c)
  | inform (w : World τ) (upcall : Upcall) (midway : upcall.midway = true)
      (heard : heeds.Hears upcall) : LinkStep heeds lapses link w (w.tell sc link upcall)
  | confirmed (w : World τ) (message : ConnConf)
      (opening : (w.links link).state = .ci ∨ (w.links link).state = .cd)
      (learned : heeds.learns message.srcaddr) :
      LinkStep heeds lapses link w ((((w.modify link (Connection.confirm w.config message)).setState
          link .run).tell sc link (.connectConfirmed message.dataCtl)).setState link .run)
  | refused (w : World τ) (reason : Nat) (data : Bytes)
      (opening : (w.links link).state = .ci ∨ (w.links link).state = .cd) :
      LinkStep heeds lapses link w (((w.tell sc link (.connectRejected reason data)).closeQuietly
          link).setState link .cl)
  | ended (w : World τ) (prepare : Connection → Connection) (reason : Nat)
      (data : Bytes) (expiry : Connection.Expiry prepare)
      (live : ((w.links link).state ≠ .s0 ∧ (w.links link).state ≠ .cr ∧
        (w.links link).state ≠ .cl) ∨ (w.links link).txq ≠ []) :
      LinkStep heeds lapses link w
        (((w.modify link prepare).close sc link reason data true).setState link .cl)
  | lapsed (w : World τ) (due : lapses) (waiting : (w.links link).state = .cr)
      (kind : (w.links link).timerIsRetransmit = false) :
      LinkStep heeds lapses link w ((w.modify link Connection.stopTimer).reject link discObjFail [])

abbrev LinkSteps (heeds : Heeds) (lapses : Prop) (link : Ptr) : World τ → World τ → Prop :=
  ReflTransGen (LinkStep sc heeds lapses link)

/-- What a packet brings may be processed by a link in run state. -/
def Heeded (heeds : Heeds) (c : Connection) (packet : Packet) : Prop :=
  match packet with
  | .dataSeg segment =>
    heeds.data ∧ heeds.ack c.touch segment.acknum true ∧
      heeds.ack (c.touch.routeAck segment.acknum true) segment.acknum2 true
  | .ackData header =>
    heeds.ack c.touch header.acknum true ∧
      heeds.ack (c.touch.routeAck header.acknum true) header.acknum2 true
  | .ackOther header =>
    heeds.ack c.touch header.acknum false ∧
      heeds.ack (c.touch.routeAck header.acknum false) header.acknum2 false
  | .linkSvc message =>
    heeds.other ∧ heeds.ack c.touch message.acknum false ∧
      heeds.ack (c.touch.routeAck message.acknum false) message.acknum2 false
  | .intMsg _ => heeds.other
  | _ => True

/-- The address of the far end that a packet tells a link that is being
opened. -/
def teaches : Packet → Option Nat
  | .connConf message => some message.srcaddr
  | .discInit message => some message.srcaddr
  | _ => none

/-- The address that a packet tells may be learnt. -/
def Taught (heeds : Heeds) (packet : Packet) : Prop :=
  ∀ addr, teaches packet = some addr → heeds.learns addr

variable {sc} {heeds : Heeds} {lapses : Prop} {link : Ptr}

theorem taught_all (packet : Packet) : Taught .all packet :=
  fun _ _ => trivial

theorem heeded_of_all (ack : ∀ c ack onData, heeds.ack c ack onData)
    (data : heeds.data) (other : heeds.other) (c : Connection)
    (packet : Packet) : Heeded heeds c packet := by
  cases packet with
  | dataSeg segment => exact ⟨data, ack _ _ _, ack _ _ _⟩
  | ackData | ackOther => exact ⟨ack _ _ _, ack _ _ _⟩
  | linkSvc message => exact ⟨other, ack _ _ _, ack _ _ _⟩
  | _ => trivial

theorem heeded_all (c : Connection) (packet : Packet) : Heeded .all c packet :=
  heeded_of_all (fun _ _ _ => trivial) trivial trivial c packet

variable {c : Connection} {w : World τ}

theorem receive_running {packet : Packet} {w' : World τ} (running : (w.links link).state = .run)
    (ran : w.run sc link (some packet) = (w', none)) : w.receive sc link packet = w' := by
  simp [receive, dispatch, stateFunction, running, ran]

theorem linkSteps_ops (ops : ReflTransGen (Op heeds) (w.links link) c) :
    LinkSteps sc heeds lapses link w (w.put link c) := by
  induction ops with
  | refl => rw [put_self]
  | @tail middle final _ last ih =>
    refine ih.tail ?_
    have step := @LinkStep.op τ sc heeds lapses link (w.put link middle) final
      (by rw [put_links_self]; exact last)
    rw [put_put] at step
    exact step

theorem linkSteps_op {change : Connection → Connection}
    (op : Op heeds (w.links link) (change (w.links link))) :
    LinkSteps sc heeds lapses link w (w.modify link change) :=
  linkSteps_ops (.single op)

/-! ## Data -/

theorem linkSteps_acceptSegment (data : heeds.data) (w : World τ) (segment : DataSeg) :
    LinkSteps sc heeds lapses link w (w.acceptSegment sc link segment) := by
  have grown : LinkSteps sc heeds lapses link w (w.modify link (assemble segment)) :=
    linkSteps_op (.assemble _ segment data)
  unfold acceptSegment
  dsimp only
  split
  · exact (grown.tail (.inform _ (.dataReceived _) rfl data)).trans
      (linkSteps_op (.clearAssembly _ data))
  · exact grown

theorem linkSteps_drain (data : heeds.data) (rounds : Nat) (w : World τ) :
    LinkSteps sc heeds lapses link w (w.drain sc link rounds) := by
  induction rounds generalizing w with
  | zero => exact .refl
  | succ rounds ih =>
    simp only [drain]
    split
    · exact .refl
    · rename_i held _
      have released : LinkSteps sc heeds lapses link w (w.modify link release) :=
        linkSteps_op (.release _ data)
      have taken := released.trans (linkSteps_acceptSegment data _ held)
      have advanced := taken.trans (linkSteps_op (.advance _ data))
      exact advanced.trans (ih _)

theorem ops_routeAcks {first second : Option AckNum}
    {onData : Bool} (heedsFirst : heeds.ack c first onData)
    (heedsSecond : heeds.ack (c.routeAck first onData) second onData) :
    ReflTransGen (Op heeds) c ((c.routeAck first onData).routeAck second onData) :=
  .tail (.single (.routeAck c first onData heedsFirst)) (.routeAck _ second onData heedsSecond)

theorem linkSteps_handleData (w : World τ) (segment : DataSeg)
    (data : heeds.data) (heedsFirst : heeds.ack (w.links link) segment.acknum true)
    (heedsSecond : heeds.ack ((w.links link).routeAck segment.acknum true) segment.acknum2 true) :
    LinkSteps sc heeds lapses link w (w.handleData sc link segment) := by
  have acked : LinkSteps sc heeds lapses link w
      ((w.modify link (routeAck segment.acknum true)).modify link
        (routeAck segment.acknum2 true)) := by
    have steps : LinkSteps sc heeds lapses link w (w.put link _) :=
      linkSteps_ops (ops_routeAcks heedsFirst heedsSecond)
    simpa [modify_eq_put] using steps
  unfold handleData
  dsimp only
  split
  · exact acked.trans (linkSteps_op (.sendAck _))
  · split
    · refine acked.trans ?_
      exact linkSteps_ops (.tail (.single (.hold _ segment data)) (.sendAck _))
    · have taken := acked.trans (linkSteps_acceptSegment data _ segment)
      have advanced := taken.trans (linkSteps_op (.advance _ data))
      split
      · exact (advanced.trans (linkSteps_drain data _ _)).trans (linkSteps_op (.delayAck _))
      · exact (advanced.trans (linkSteps_drain data _ _)).trans (linkSteps_op (.sendAck _))

/-! ## The other-data subchannel -/

theorem linkSteps_handleInterrupt (w : World τ) (message : IntMsg) (other : heeds.other) :
    LinkSteps sc heeds lapses link w (w.handleInterrupt sc link message) := by
  unfold handleInterrupt
  dsimp only
  split
  · exact linkSteps_op (.sendAckOther _ _ other)
  · have taken : LinkSteps sc heeds lapses link w (w.modify link (takeOther message.segnum)) :=
      linkSteps_op (.takeOther _ _ other)
    exact taken.tail (.inform _ (.interruptReceived _) rfl other)

theorem ops_handleLinkService (message : LinkSvcMsg)
    (other : heeds.other) (heedsFirst : heeds.ack c message.acknum false)
    (heedsSecond : heeds.ack (c.routeAck message.acknum false) message.acknum2 false) :
    ReflTransGen (Op heeds) c (c.handleLinkService message) := by
  unfold handleLinkService
  split
  · exact .refl
  · have acked := ops_routeAcks heedsFirst heedsSecond
    dsimp only
    split
    · exact acked.tail (.sendAckOther _ _ other)
    · exact (acked.tail (.takeOther _ _ other)).tail (.applyCredit _ _ other)

/-! ## State functions -/

/-- The steps of a state function, with the state it returns installed. -/
def Installs (sc : SessionControl τ) (heeds : Heeds) (lapses : Prop)
    (link : Ptr) (w : World τ) (result : World τ × Option ConnState) : Prop :=
  match result.2 with
  | none => LinkSteps sc heeds lapses link w result.1
  | some state => LinkSteps sc heeds lapses link w (result.1.setState link state)

theorem Installs.before {w' : World τ} {result : World τ × Option ConnState}
    (earlier : LinkSteps sc heeds lapses link w w')
    (installs : Installs sc heeds lapses link w' result) :
    Installs sc heeds lapses link w result := by
  obtain ⟨reached, next⟩ := result
  cases next with
  | none | some => exact ReflTransGen.trans earlier installs

def Live (c : Connection) : Prop :=
  c.state ≠ .s0 ∧ c.state ≠ .cr ∧ c.state ≠ .cl

section

variable (w : World τ)

theorem linkStep_close (reason : Nat) (data : Bytes) (live : Live (w.links link)) :
    LinkStep sc heeds lapses link w ((w.close sc link reason data true).setState link .cl) := by
  have step := @LinkStep.ended τ sc heeds lapses link w id reason data .none (.inl live)
  rw [modify_eq_put, id_eq, put_self] at step
  exact step

theorem installs_discInitReceived (message : DiscInit) (live : Live (w.links link)) :
    Installs sc heeds lapses link w (w.discInitReceived sc link message) := by
  have told : LinkSteps sc heeds lapses link w (w.modify link sendDiscConf) :=
    linkSteps_op (.sendDiscConf _)
  refine ReflTransGen.tail told (linkStep_close _ _ _ ?_)
  simpa [Live, (steady_sendDiscConf (w.links link)).state] using live

theorem installs_cd (packet : Packet)
    (opening : (w.links link).state = .ci ∨ (w.links link).state = .cd)
    (taught : Taught heeds packet) :
    Installs sc heeds lapses link w (w.cd sc link (some packet)) := by
  unfold cd
  split
  case h_1 absent => cases absent
  case h_2 message same =>
    cases same
    exact .single (.confirmed w message opening (taught _ rfl))
  case h_3 message same =>
    cases same
    have learned : LinkSteps sc heeds lapses link w (w.modify link (confirmReject message)) :=
      linkSteps_op (.confirmReject _ message opening (taught _ rfl))
    refine ReflTransGen.tail learned (.refused _ _ _ ?_)
    simpa [(steady_confirmReject message (w.links link)).state] using opening
  case h_4 message _ => exact .single (.refused w _ _ opening)
  case h_5 => exact ReflTransGen.refl

theorem installs_ci (packet : Packet) (opening : (w.links link).state = .ci)
    (taught : Taught heeds packet) :
    Installs sc heeds lapses link w (w.ci sc link (some packet)) := by
  unfold ci
  split
  case h_1 absent => cases absent
  case h_2 =>
    have acked : LinkSteps sc heeds lapses link w (w.put link _) :=
      linkSteps_ops (.single (.connectAcked (w.links link) opening))
    simpa [Installs, setState, modify_eq_put] using acked
  case h_3 _ same =>
    cases same
    exact installs_cd w _ (.inl opening) taught

theorem installs_cr (packet : Packet) :
    Installs sc heeds lapses link w (w.cr link (some packet)) := by
  unfold cr
  split
  case h_1 absent => cases absent
  case h_2 => exact linkSteps_op (.sendAckConn _)
  case h_3 => exact ReflTransGen.refl

theorem installs_run (packet : Packet)
    (running : (w.links link).state = .run ∨ confirmsAccept packet = true)
    (heeded : Heeded heeds (w.links link) packet) :
    Installs sc heeds lapses link w (w.run sc link (some packet)) := by
  have touched : LinkSteps sc heeds lapses link w (w.modify link touch) := linkSteps_op (.touch _)
  have current : (w.modify link touch).links link = (w.links link).touch := by simp
  have live (closing : confirmsAccept packet = false) :
      Live ((w.modify link touch).links link) := by
    have state : (w.links link).state = .run := by
      rcases running with running | confirms
      · exact running
      · rw [closing] at confirms
        cases confirms
    rw [current, Live, (steady_touch (w.links link)).state, state]
    decide
  refine Installs.before touched ?_
  cases packet with
  | dataSeg segment =>
    obtain ⟨data, first, second⟩ := heeded
    exact linkSteps_handleData _ segment data (current ▸ first) (current ▸ second)
  | ackData | ackOther =>
    exact linkSteps_ops (ops_routeAcks (current ▸ heeded.1) (current ▸ heeded.2))
  | linkSvc message =>
    obtain ⟨other, first, second⟩ := heeded
    exact linkSteps_ops (ops_handleLinkService message other (current ▸ first) (current ▸ second))
  | intMsg message => exact linkSteps_handleInterrupt _ message heeded
  | discInit message => exact installs_discInitReceived _ message (live rfl)
  | discConf message => exact .single (linkStep_close _ _ _ (live rfl))
  | ackConn | connInit | connConf => exact ReflTransGen.refl

end

variable (sc) in
def accepted (link : Ptr) (w : World τ) : World τ :=
  ((w.modify link (Connection.processAck (Mod.wrap 0))).setState link .run).tell sc link .runState

section

variable (w : World τ)

theorem installs_cc (packet : Packet) (confirming : (w.links link).state = .cc)
    (heeded : Heeded heeds ((w.accepted sc link).links link) packet) :
    Installs sc heeds lapses link w (w.cc sc link (some packet)) := by
  unfold cc
  dsimp only
  split
  · rename_i confirms
    have turned : LinkSteps sc heeds lapses link w (w.put link _) :=
      linkSteps_ops (.single (.accepted (w.links link) confirming))
    have told := turned.tail (.inform _ .runState rfl trivial)
    refine Installs.before ?_ (installs_run _ packet (.inr confirms) heeded)
    simpa [setState, modify_eq_put] using told
  · split
    · exact installs_discInitReceived w _ (by simp [Live, confirming])
    · exact ReflTransGen.refl

theorem installs_di (packet : Packet) (leaving : (w.links link).state = .di) :
    Installs sc heeds lapses link w (w.di sc link (some packet)) := by
  have live : Live (w.links link) := by simp [Live, leaving]
  unfold di
  split
  case h_1 absent => cases absent
  case h_2 => exact .single (linkStep_close w _ _ live)
  case h_3 => exact .single (linkStep_close w _ _ live)
  case h_4 => exact ReflTransGen.refl

theorem linkSteps_receive (packet : Packet)
    (running : (w.links link).state = .run → Heeded heeds (w.links link) packet)
    (confirming : (w.links link).state = .cc →
      Heeded heeds ((w.accepted sc link).links link) packet)
    (opening : (w.links link).state = .ci ∨ (w.links link).state = .cd → Taught heeds packet) :
    LinkSteps sc heeds lapses link w (w.receive sc link packet) := by
  have installs : Installs sc heeds lapses link w
      (w.stateFunction sc (w.links link).state link (some packet)) := by
    cases state : (w.links link).state with
    | s0 | cl => exact ReflTransGen.refl
    | ci => exact installs_ci w packet state (opening (.inl state))
    | cd => exact installs_cd w packet (.inr state) (opening (.inr state))
    | cr => exact installs_cr w packet
    | cc => exact installs_cc w packet state (confirming state)
    | run => exact installs_run w packet (.inl state) (running state)
    | di => exact installs_di w packet state
  unfold receive dispatch
  revert installs
  generalize w.stateFunction sc (w.links link).state link (some packet) = result
  obtain ⟨reached, next⟩ := result
  cases next <;> exact id

/-! ## Timers -/

theorem linkSteps_retransmit (kind : (w.links link).timerIsRetransmit = true) :
    LinkSteps sc heeds lapses link w ((w.modify link stopTimer).retransmit sc link) := by
  have same : ((w.modify link stopTimer).links link).inFlight = (w.links link).inFlight := by
    simp [stopTimer, inFlight]
  unfold retransmit
  dsimp only
  rw [same]
  split
  · rename_i none
    exact linkSteps_op (.stopTimer _ (.inr (.inr ⟨kind, none⟩)))
  · rename_i flying
    split
    · have queued : (w.links link).txq ≠ [] := by
        intro empty
        apply flying
        simp [inFlight, empty]
      have gone : LinkStep sc heeds lapses link w _ :=
        .ended w _ discNoLink []
          (.exhausted (((w.links link).stopTimer.retries + 1) % 2 ^ 32)) (.inr queued)
      simpa [modify_eq_put] using ReflTransGen.single gone
    · have again : LinkSteps sc heeds lapses link w (w.put link _) :=
        linkSteps_ops (.single (.resend (w.links link)
          (((w.links link).stopTimer.retries + 1) % 2 ^ 32) kind flying))
      simpa [modify_eq_put] using again

theorem linkSteps_expire
    (due : (w.links link).timer = true → (w.links link).state = .cr →
      (w.links link).timerIsRetransmit = false → lapses) :
    LinkSteps sc heeds lapses link w (w.expire sc link) := by
  unfold expire timeout
  split
  case isFalse => exact .refl
  case isTrue armed =>
    have kept := steady_stopTimer (w.links link)
    have current : ((w.modify link stopTimer).links link) = (w.links link).stopTimer := by simp
    have ends (reason : Nat) (live : Live (w.links link)) :
        LinkSteps sc heeds lapses link w (((w.modify link stopTimer).close sc link reason []
            true).setState link .cl) := .single (.ended w _ reason [] .expired (.inl live))
    rw [current]
    split
    case isTrue kind => exact linkSteps_retransmit w kind
    case isFalse kind =>
      have other : (w.links link).timerIsRetransmit = false := by
        simpa [stopTimer] using kind
      unfold dispatch
      rw [current, kept.state]
      cases state : (w.links link).state with
      | s0 => exact linkSteps_op (.stopTimer _ (.inl state))
      | ci | cd | cc | di => exact ends _ (by simp [Live, state])
      | cr => exact .single (.lapsed w (due armed state other) state other)
      | run =>
        have proved : LinkSteps sc heeds lapses link w (w.put link _) :=
          linkSteps_ops (.single (.inactive (w.links link) state other))
        simpa [stateFunction, run, modify_eq_put] using proved
      | cl => exact linkSteps_op (.stopTimer _ (.inr (.inl state)))

theorem linkSteps_expireAck : LinkSteps sc heeds lapses link w (w.expireAck link) := by
  unfold expireAck
  split
  · exact linkSteps_op (.ackHoldoff _)
  · exact .refl

end

end World

end Decnet.Nsp
