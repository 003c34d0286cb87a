import Decnet.Nsp.Handshake
import Mathlib.Algebra.Order.BigOperators.Group.List
import Mathlib.Algebra.Order.Group.Nat
import Mathlib.Data.Nat.Find

/-!
# The other-data subchannel

Interrupts and link service messages share one sequence of numbers.  A link
takes every message that is not behind the number it expects, and expects the
one after it from then on.  So a message that comes ahead of its turn is taken
and acknowledged, and the messages that it overtook are dropped as repetitions
when they come.
-/

namespace Decnet.Nsp

open Relation Connection World List

def Frame.otherAck (f : Frame) : Option Seq :=
  match f.packet with
  | .ackOther header => header.acknum.map AckNum.num
  | _ => none

def Upcall.interrupt : Upcall → Option Bytes
  | .interruptReceived data => some data
  | _ => none

/-- What the far end lets a link send. -/
structure Credit where
  (interrupts messages segments : Nat)
  xon : Bool
  deriving DecidableEq, Repr

namespace Connection

def credit (c : Connection) : Credit :=
  ⟨c.intMaxMsg, c.maxMsg, c.maxSeg, c.xon⟩

def interrupts (c : Connection) : List Bytes :=
  c.events.filterMap Upcall.interrupt

def otherAcks (c : Connection) : List Seq :=
  c.outbox.filterMap Frame.otherAck

def Plain (c : Connection) : Prop :=
  ∀ e ∈ c.txq, e.frame.otherAck = none

/-- A change that takes nothing from the other-data subchannel and acknowledges
nothing there. -/
structure Silent (c c' : Connection) : Prop where
  intNextExpect : c'.intNextExpect = c.intNextExpect
  interrupts : c'.interrupts = c.interrupts
  otherAcks : c.Plain → c'.otherAcks = c.otherAcks
  plain : c.Plain → c'.Plain

theorem Silent.trans {c c' c'' : Connection} (first : Silent c c')
    (second : Silent c' c'') : Silent c c'' where
  intNextExpect := second.intNextExpect.trans first.intNextExpect
  interrupts := second.interrupts.trans first.interrupts
  otherAcks := fun plain => (second.otherAcks (first.plain plain)).trans (first.otherAcks plain)
  plain := fun plain => second.plain (first.plain plain)

/-- A change that leaves the receiving half of the other-data subchannel
alone. -/
structure Undisturbed (c c' : Connection) : Prop extends Silent c c' where
  credit : c'.credit = c.credit

namespace Undisturbed

variable {c c' c'' : Connection}

theorem refl (c : Connection) : Undisturbed c c :=
  ⟨⟨rfl, rfl, fun _ => rfl, id⟩, rfl⟩

theorem trans (first : Undisturbed c c') (second : Undisturbed c' c'') : Undisturbed c c'' :=
  ⟨first.toSilent.trans second.toSilent, second.credit.trans first.credit⟩

section

variable (intNextExpect : c'.intNextExpect = c.intNextExpect)

include intNextExpect

theorem sends {frames : List Frame} (credit : c'.credit = c.credit)
    (events : c'.events = c.events) (outbox : c'.outbox = c.outbox ++ frames)
    (others : c.Plain → ∀ f ∈ frames, f.otherAck = none)
    (plain : c.Plain → c'.Plain) : Undisturbed c c' where
  intNextExpect := intNextExpect
  credit := credit
  interrupts := congrArg (filterMap Upcall.interrupt) events
  otherAcks := by
    intro before
    have none : frames.filterMap Frame.otherAck = [] := filterMap_eq_nil_iff.2 (others before)
    simp only [otherAcks, outbox, filterMap_append, none, append_nil]
  plain := plain

theorem quiet (credit : c'.credit = c.credit) (events : c'.events = c.events)
    (outbox : c'.outbox = c.outbox) (txq : c'.txq = c.txq) : Undisturbed c c' := by
  refine sends intNextExpect credit events
    (outbox.trans (append_nil _).symm) (fun _ => forall_mem_nil _) ?_
  intro plain
  rw [Plain, txq]
  exact plain

theorem sendsOne {f : Frame} (credit : c'.credit = c.credit)
    (events : c'.events = c.events) (outbox : c'.outbox = c.outbox ++ [f])
    (other : f.otherAck = none) (txq : c'.txq = c.txq) : Undisturbed c c' := by
  refine sends intNextExpect credit events outbox ?_ ?_
  · intro _ g member
    rw [mem_singleton.1 member]
    exact other
  · intro plain
    rw [Plain, txq]
    exact plain

end

end Undisturbed

/-! ## Operations -/

section Operations

variable {c : Connection}

theorem Sends.undisturbed {c' : Connection} (sends : Sends c c') : Undisturbed c c' := by
  obtain ⟨half, rfl, queued, sent⟩ := sends
  refine .sends rfl rfl rfl rfl ?_ ?_
  · intro plain f member
    obtain ⟨old, before, same⟩ := sent f member
    exact same ▸ plain old before
  · intro plain e member
    obtain ⟨old, before, same⟩ := queued e member
    exact same ▸ plain old before

theorem undisturbed_touch (c : Connection) : Undisturbed c c.touch := by
  unfold touch
  split <;> exact .quiet rfl rfl rfl rfl rfl

theorem undisturbed_sendAck (c : Connection) : Undisturbed c c.sendAck :=
  .sendsOne rfl rfl rfl rfl rfl rfl

theorem undisturbed_sendAckConn (c : Connection) : Undisturbed c c.sendAckConn := by
  unfold sendAckConn
  split
  · exact .sendsOne rfl rfl rfl rfl rfl rfl
  · exact .refl c

theorem undisturbed_timers (armed isRetransmit : Bool) (c : Connection) :
    Undisturbed c { c with timer := armed, timerIsRetransmit := isRetransmit } :=
  .quiet rfl rfl rfl rfl rfl

theorem undisturbed_withState (state : ConnState) (c : Connection) :
    Undisturbed c (c.withState state) :=
  .quiet rfl rfl rfl rfl rfl

variable {c' : Connection} {heeds : Heeds} {config : NspConfig} {permits : Permits}

theorem undisturbed_op {c : Connection}
    (apart : ¬ heeds.other) (op : Op heeds c c') : Undisturbed c c' := by
  cases does_op op with
  | receives half _ sent _ other =>
    have expects := other.resolve_left apart
    rcases sent with same | ⟨f, one, answer⟩
    · exact .quiet expects rfl rfl same rfl
    · refine .sendsOne expects rfl rfl one ?_ rfl
      unfold Frame.otherAck
      split
      · rename_i header acks
        exact absurd acks (answer.other.resolve_left apart header)
      · rfl
  | routeAck ack onData _ => exact (sends_routeAck ack onData c).undisturbed
  | applyCredit _ other => exact absurd other apart
  | confirmReject => exact .sendsOne rfl rfl rfl rfl rfl rfl
  | connectAcked =>
    have acked := (sends_processAck (Mod.wrap 0) c).undisturbed
    exact (acked.trans (undisturbed_timers true false _)).trans (undisturbed_withState .cd _)
  | accepted =>
    exact (sends_processAck (Mod.wrap 0) c).undisturbed.trans (undisturbed_withState .run _)
  | stopTimer => exact .quiet rfl rfl rfl rfl rfl
  | resend retries =>
    have stopped : Undisturbed c (c.stopTimer.setRetries retries) := .quiet rfl rfl rfl rfl rfl
    exact stopped.trans (sends_resend _).undisturbed

theorem undisturbed_queueSegments (ps : List Piece) (c : Connection) :
    Undisturbed c (ps.foldl queueSegment c) := by
  induction ps generalizing c with
  | nil => exact .refl c
  | cons piece ps ih =>
    refine Undisturbed.trans ?_ (ih _)
    refine .sends rfl rfl rfl (append_nil _).symm (fun _ => forall_mem_nil _) ?_
    intro plain
    exact forall_mem_append.2 ⟨plain, forall_mem_cons.2 ⟨rfl, forall_mem_nil _⟩⟩

theorem undisturbed_clearQueues (c : Connection) : Undisturbed c c.clearQueues :=
  .sends rfl rfl rfl (append_nil _).symm (fun _ => forall_mem_nil _) (fun _ => forall_mem_nil _)

theorem undisturbed_noteClosing (c : Connection) : Undisturbed c c.noteClosing :=
  .quiet rfl rfl rfl rfl rfl

theorem undisturbed_called (config : NspConfig) (call : Call)
    (c : Connection) : Undisturbed c (called config call c) := by
  obtain ⟨c', same, outcome⟩ := called_outcome config call c
  rw [same]
  cases outcome with
  | ignored => exact .refl c
  | unconfirmed => exact .quiet rfl rfl rfl rfl rfl
  | accepted =>
    refine .sends rfl rfl rfl rfl ?_ ?_
    · exact fun _ => forall_mem_cons.2 ⟨rfl, forall_mem_nil _⟩
    · exact fun plain => forall_mem_append.2 ⟨plain, forall_mem_cons.2 ⟨rfl, forall_mem_nil _⟩⟩
  | rejected link reason data =>
    have told : Undisturbed c (c.send (c.discInit reason data)) := .sendsOne rfl rfl rfl rfl rfl rfl
    exact ((told.trans (undisturbed_clearQueues _)).trans
      (undisturbed_noteClosing _)).trans (undisturbed_withState .cl _)
  | left | interrupted => exact .sendsOne rfl rfl rfl rfl rfl rfl
  | sent link data running =>
    have inRun : ¬ (!c.running) = true := by
      simp [Connection.running, running]
    have noted : Undisturbed c { c with submitted := c.submitted ++ [data] } :=
      .quiet rfl rfl rfl rfl rfl
    rw [sendData, if_neg inRun]
    exact (noted.trans (undisturbed_queueSegments _ _)).trans (sends_sendBlocked _).undisturbed

theorem undisturbed_calls {ok : Call → Prop}
    {c : Connection} (calls : Called config ok c c') : Undisturbed c c' :=
  calls.keeps (.refl c) fun _ call _ so => so.trans (undisturbed_called config call _)

theorem undisturbed_noteEvent {upcall : Upcall} (other : upcall.interrupt = none) (c : Connection) :
    Undisturbed c (c.noteEvent upcall) where
  intNextExpect := rfl
  credit := rfl
  interrupts := by
    simp [interrupts, noteEvent, other]
  otherAcks := fun _ => rfl
  plain := id

theorem undisturbed_confirm (config : NspConfig) (message : ConnConf)
    (c : Connection) : Undisturbed c (c.confirm config message) := by
  have learned : Undisturbed c
      (c.learn config message.info message.srcaddr message.segsize message.fcopt) :=
    .quiet rfl rfl rfl rfl rfl
  have acked := learned.trans (sends_processAck (Mod.wrap 0) _).undisturbed
  unfold confirm
  dsimp only
  split
  · exact (acked.trans (undisturbed_sendAck _)).trans (undisturbed_timers true false _)
  · exact acked.trans (undisturbed_timers true false _)

theorem undisturbed_change {c : Connection} (apart : ¬ heeds.other)
    (change : Change heeds permits config c c') : Undisturbed c c' := by
  refine change.keeps (.refl c) ?_ ?_ ?_ ?_ ?_ ?_ ?_ ?_
  · exact fun _ _ op so => so.trans (undisturbed_op apart op)
  · exact fun call d so => so.trans (undisturbed_called config call d)
  · intro upcall d heard so
    refine so.trans ?_
    cases upcall with
    | interruptReceived data => exact absurd heard apart
    | _ => exact undisturbed_noteEvent rfl d
  · exact fun message d so => so.trans (undisturbed_confirm config message d)
  · intro prepare d expiry so
    refine so.trans ?_
    cases expiry with
    | none => exact .refl d
    | expired | exhausted => exact .quiet rfl rfl rfl rfl rfl
  · exact fun state d so => so.trans (undisturbed_withState state d)
  · exact fun d so => so.trans (undisturbed_clearQueues d)
  · exact fun d so => so.trans (undisturbed_noteClosing d)

theorem undisturbed_changes {c : Connection} (apart : ¬ heeds.other)
    (changes : ReflTransGen (Change heeds permits config) c c') : Undisturbed c c' := by
  induction changes with
  | refl => exact .refl c
  | tail _ last ih => exact ih.trans (undisturbed_change apart last)

theorem undisturbed_connectReceived (config : NspConfig) (message : ConnInit)
    (c : Connection) : Undisturbed c (c.connectReceived config message) := by
  have learned : Undisturbed c
      (c.learn config message.info message.srcaddr message.segsize message.fcopt) :=
    .quiet rfl rfl rfl rfl rfl
  have told := learned.trans (undisturbed_sendAckConn _)
  exact (told.trans (undisturbed_timers true false _)).trans (undisturbed_withState .cr _)

theorem undisturbed_begun {c : Connection} (begun : Begun permits config c) :
    Undisturbed (create config 0 0) c := by
  have created (addr : Nat) (dest : Nodeid) :
      Undisturbed (create config 0 0) (create config addr dest) := .quiet rfl rfl rfl rfl rfl
  cases begun with
  | outbound addr dest payload =>
    refine (created addr dest).trans (.sends rfl rfl rfl rfl ?_ ?_)
    · exact fun _ => forall_mem_cons.2 ⟨rfl, forall_mem_nil _⟩
    · exact fun _ => forall_mem_cons.2 ⟨rfl, forall_mem_nil _⟩
  | inbound addr src message _ calls =>
    have received := undisturbed_connectReceived config message (create config addr src)
    generalize (create config addr src).connectReceived config message = waiting at calls received
    have told : Undisturbed waiting (waiting.noteEvent (.connectReceived message.payload)) :=
      undisturbed_noteEvent rfl waiting
    exact (((created addr src).trans received).trans told).trans (undisturbed_calls calls)

/-! ## Taking and acknowledging -/

theorem otherAcks_sendAckOther (num : Seq) (c : Connection) :
    (c.sendAckOther num).otherAcks = c.otherAcks ++ [num] := by
  simp [otherAcks, sendAckOther, send, Frame.otherAck]

theorem silent_applyCredit (message : LinkSvcMsg) (c : Connection) :
    Silent c (c.applyCredit message) := by
  obtain ⟨granted, sends⟩ := sends_applyCredit message c
  have given : Silent c (c.withCredit granted) := ⟨rfl, rfl, fun _ => rfl, id⟩
  exact given.trans sends.undisturbed.toSilent

/-- A message that is behind the expected number is acknowledged again. -/
structure Repeats (c c' : Connection) : Prop where
  intNextExpect : c'.intNextExpect = c.intNextExpect
  interrupts : c'.interrupts = c.interrupts
  credit : c'.credit = c.credit
  otherAcks : c.Plain → c'.otherAcks = c.otherAcks ++ [c.intNextExpect - Mod.wrap 1]
  plain : c.Plain → c'.Plain

/-- A message that is not behind is acknowledged, and the one after it is
expected. -/
structure Takes (num : Seq) (c c' : Connection) : Prop where
  intNextExpect : c'.intNextExpect = num + Mod.wrap 1
  otherAcks : c.Plain → c'.otherAcks = c.otherAcks ++ [num]
  plain : c.Plain → c'.Plain

theorem Undisturbed.repeats {c : Connection} (kept : Undisturbed c c') :
    Repeats c (c'.sendAckOther (c'.intNextExpect - Mod.wrap 1)) where
  __ := kept
  otherAcks := by
    intro plain
    rw [otherAcks_sendAckOther, kept.otherAcks plain, kept.intNextExpect]

theorem Undisturbed.takes {c : Connection} (kept : Undisturbed c c')
    (num : Seq) : Takes num c (c'.takeOther num) where
  intNextExpect := rfl
  otherAcks := by
    intro plain
    exact (otherAcks_sendAckOther num { c' with
      intNextExpect := num + Mod.wrap 1 }).trans
      (congrArg (· ++ [num]) (kept.otherAcks plain))
  plain := kept.plain

theorem Takes.silent {num : Seq} {c c'' : Connection}
    (takes : Takes num c c') (silent : Silent c' c'') : Takes num c c'' where
  intNextExpect := silent.intNextExpect.trans takes.intNextExpect
  otherAcks := fun plain => (silent.otherAcks (takes.plain plain)).trans (takes.otherAcks plain)
  plain := fun plain => silent.plain (takes.plain plain)

theorem Takes.noteEvent {num : Seq} {c : Connection} (takes : Takes num c c') (upcall : Upcall) :
    Takes num c (c'.noteEvent upcall) :=
  { takes with }

theorem interrupts_noteEvent (payload : Bytes) (c : Connection) :
    (c.noteEvent (.interruptReceived payload)).interrupts = c.interrupts ++ [payload] := by
  simp [interrupts, noteEvent, Upcall.interrupt]

theorem linkService_cases {c : Connection} (kept : Undisturbed c c')
    (message : LinkSvcMsg) (valid : message.valid = true) :
    if message.segnum.less c.intNextExpect then
      Repeats c (c'.handleLinkService message)
    else
      Takes message.segnum c (c'.handleLinkService message) ∧
        (c'.handleLinkService message).interrupts = c.interrupts ∧
        ∃ d : Connection, d.credit = c.credit ∧ (c'.handleLinkService message).credit =
            (d.applyCredit message).credit := by
  have routed := (kept.trans (sends_routeAck message.acknum false c').undisturbed).trans
    (sends_routeAck message.acknum2 false _).undisturbed
  have same := routed.intNextExpect
  unfold handleLinkService
  simp only [valid]
  generalize (c'.routeAck message.acknum false).routeAck message.acknum2 false = acked at *
  rw [← same]
  by_cases stale : message.segnum.less acked.intNextExpect = true
  · rw [if_pos stale, if_pos stale]
    exact routed.repeats
  · rw [if_neg stale, if_neg stale]
    have applied := silent_applyCredit message (acked.takeOther message.segnum)
    refine ⟨(routed.takes message.segnum).silent applied,
      applied.interrupts.trans routed.interrupts, _, ?_, rfl⟩
    exact routed.credit

end Operations

end Connection

/-! ## The far end's messages -/

/-- What a link service message asks for, without the reserved values. -/
structure LinkService where
  (fcmod fcvalInt : Nat)
  fcval : Int
  valid : fcvalInt ≤ 1 ∧ fcmod ≠ 3

inductive OtherMessage where
  | interrupt (payload : Bytes)
  | linkService (request : LinkService)

def LinkService.message (request : LinkService) (number : Nat) (header : AckHdr) : LinkSvcMsg :=
  { toAckHdr := header
    segnum := Mod.wrap number
    fcmod := request.fcmod
    fcvalInt := request.fcvalInt
    fcval := request.fcval }

namespace OtherMessage

def packet (number : Nat) (header : AckHdr) : OtherMessage → Packet
  | .interrupt payload =>
    .intMsg
      { toAckHdr := header
        segnum := Mod.wrap number
        payload := payload }
  | .linkService request => .linkSvc (request.message number header)

def payload : OtherMessage → Option Bytes
  | .interrupt payload => some payload
  | .linkService _ => none

end OtherMessage

def Packet.isOther : Packet → Bool
  | .intMsg _ => true
  | .linkSvc _ => true
  | _ => false

/-- The credit after the first messages of the far end, if each of them is
applied once and in order.  How much of a message's credit counts also depends
on what is acknowledged by then. -/
inductive Granted (peer : Nat → OtherMessage) : Nat → Credit → Prop where
  | none : Granted peer 0 ⟨1, 0, 0, true⟩
  | interrupt {count : Nat} {credit : Credit} {payload : Bytes}
      (next : peer (count + 1) = .interrupt payload)
      (granted : Granted peer count credit) : Granted peer (count + 1) credit
  | linkService {count : Nat} {request : LinkService} (c : Connection)
      (header : AckHdr) (next : peer (count + 1) = .linkService request)
      (granted : Granted peer count c.credit) :
      Granted peer (count + 1) (c.applyCredit (request.message (count + 1) header)).credit

theorem exists_missing (arrived : List Nat) : ∃ n, n + 1 ∉ arrived := by
  refine ⟨arrived.sum, fun member => ?_⟩
  exact Nat.not_succ_le_self _ (le_sum_of_mem member)

/-- The number up to which every message has arrived. -/
def complete (arrived : List Nat) : Nat :=
  Nat.find (exists_missing arrived)

theorem complete_eq_iff (arrived : List Nat) (count : Nat) :
    complete arrived = count ↔ count + 1 ∉ arrived ∧ ∀ k < count, k + 1 ∈ arrived := by
  rw [complete, Nat.find_eq_iff]
  simp only [not_not]

namespace World

variable {τ : Type*} {sc : SessionControl τ} {link : Ptr}

/-! ## Steps of NSP -/

/-- All links but one may process messages of the other-data subchannel. -/
def apartFrom (link : Ptr) (other : Ptr) : Heeds :=
  ⟨fun _ _ _ => True, True, other ≠ link, fun _ => True⟩

theorem heeded_apart {other : Ptr} {packet : Packet}
    (apart : other = link → packet.isOther = false) (c : Connection) :
    Heeded (apartFrom link other) c packet := by
  cases packet with
  | intMsg message => exact fun same => Bool.noConfusion (apart same)
  | linkSvc message =>
    exact ⟨fun same => Bool.noConfusion (apart same), trivial, trivial⟩
  | _ => trivial

variable {w : World τ}

theorem undisturbed_step {input : Input τ} (known : Known w)
    (apart : ∀ src packet, input = .deliver src packet → w.recipient src packet = some link →
        ((w.links link).state = .run ∨ (w.links link).state = .cc) → packet.isOther = false) :
    Undisturbed (w.links link) ((w.step sc input).links link) := by
  have free : CallsOk (fun _ => True) (w.step sc input) := fun _ _ => trivial
  have attentive : w.AttentiveEach sc (apartFrom link) input := by
    cases input with
    | deliver src packet =>
      intro other found
      refine ⟨fun running => heeded_apart ?_ _,
        fun confirming => heeded_apart ?_ _, fun _ _ _ => trivial⟩
      · rintro rfl
        exact apart src packet rfl found (.inl running)
      · rintro rfl
        exact apart src packet rfl found (.inr confirming)
    | _ => trivial
  have tracks : Tracks (apartFrom link) (fun _ _ => True) w (w.step sc input) :=
    tracks_step within_all known attentive free
  have nothing : ¬ (apartFrom link link).other := fun differs => differs rfl
  by_cases old : link < w.allocated
  · exact undisturbed_changes nothing (tracks.old link old)
  · have beyond := Nat.le_of_not_lt old
    rw [known.unborn link beyond]
    by_cases born : link < (w.step sc input).allocated
    · obtain ⟨c, begun, changes⟩ := tracks.new link beyond born
      exact (undisturbed_begun begun).trans (undisturbed_changes nothing changes)
    · have after := (tracks.known known).unborn link (Nat.le_of_not_lt born)
      rw [after, tracks.config]
      exact .refl _

theorem known_step (known : Known w) (input : Input τ) : Known (w.step sc input) :=
  (tracks_always known [input]).known known

/-! ## A message is handled -/

def Handles (message : OtherMessage) (number : Nat) (c c' : Connection) : Prop :=
  if (Mod.wrap number).less c.intNextExpect then
    c.Repeats c'
  else
    c.Takes (Mod.wrap number) c' ∧ c'.interrupts = c.interrupts ++ message.payload.toList ∧
      match message with
      | .interrupt _ => c'.credit = c.credit
      | .linkService request => ∃ (d : Connection) (header : AckHdr), d.credit = c.credit ∧
            c'.credit = (d.applyCredit (request.message number header)).credit

theorem handles_linkService (w : World τ) {c : Connection}
    (kept : c.Undisturbed (w.links link)) (request : LinkService) (number : Nat) (header : AckHdr) :
    Handles (.linkService request) number c ((w.run sc link
        (some (.linkSvc (request.message number header)))).1.links link) := by
  have valid : (request.message number header).valid = true := decide_eq_true request.valid
  have touched := kept.trans (undisturbed_touch (w.links link))
  have handled := linkService_cases touched (request.message number header) valid
  have same : (w.run sc link (some (.linkSvc (request.message number header)))).1.links link =
      (w.links link).touch.handleLinkService (request.message number header) := by
    simp [run]
  rw [same, Handles]
  by_cases stale : (Mod.wrap number).less c.intNextExpect = true
  · rw [if_pos stale]
    exact (if_pos stale).mp handled
  · rw [if_neg stale]
    obtain ⟨takes, interrupts, d, before, after⟩ := (if_neg stale).mp handled
    refine ⟨takes, ?_, d, header, before, after⟩
    exact interrupts.trans (append_nil _).symm

theorem handles_interrupt (old : link < w.allocated)
    {c : Connection} (kept : c.Undisturbed (w.links link)) (payload : Bytes)
    (number : Nat) (header : AckHdr) :
    Handles (.interrupt payload) number c ((w.run sc link
        (some (OtherMessage.packet number header (.interrupt payload)))).1.links link) := by
  have touched := kept.trans (undisturbed_touch (w.links link))
  rw [Handles]
  simp only [run, OtherMessage.packet, handleInterrupt, modify_links, Function.update_self]
  rw [touched.intNextExpect]
  by_cases stale : (Mod.wrap number).less c.intNextExpect = true
  · rw [if_pos stale, if_pos stale]
    simpa using touched.repeats
  · rw [if_neg stale, if_neg stale]
    have current : ((w.modify link touch).modify link (takeOther (Mod.wrap number))).links link =
        (w.links link).touch.takeOther (Mod.wrap number) := by
      simp
    have calls := @called_tell τ sc ((w.modify link touch).modify link
        (takeOther (Mod.wrap number))) link old (.interruptReceived payload)
    rw [current] at calls
    have told := undisturbed_calls calls
    have taken := touched.takes (Mod.wrap number)
    refine ⟨(taken.noteEvent _).silent told.toSilent, ?_, ?_⟩
    · refine told.interrupts.trans ?_
      rw [interrupts_noteEvent]
      exact congrArg (· ++ [payload]) touched.interrupts
    · exact told.credit.trans touched.credit

/-- A message that reaches a link in state `cc` takes it to run first. -/
theorem receive_attending {packet : Packet}
    (old : link < w.allocated) (other : packet.isOther = true)
    (state : (w.links link).state = .run ∨ (w.links link).state = .cc) :
    ∃ w' : World τ, link < w'.allocated ∧ (w.links link).Undisturbed (w'.links link) ∧
      w.receive sc link packet = (w'.run sc link (some packet)).1 := by
  have stays (w' : World τ) : (w'.run sc link (some packet)).2 = none := by
    cases packet with
    | intMsg | linkSvc => rfl
    | _ => cases other
  rcases state with running | confirming
  · refine ⟨w, old, .refl _, ?_⟩
    simp only [receive, dispatch, stateFunction, running, stays]
  · have turned : ((w.modify link (processAck (Mod.wrap 0))).setState link .run).links link =
        ((w.links link).processAck (Mod.wrap 0)).withState .run := by
      simp [setState]
    have calls := @called_tell τ sc ((w.modify link
      (processAck (Mod.wrap 0))).setState link .run) link old .runState
    rw [turned] at calls
    have acked := (sends_processAck (Mod.wrap 0)
      (w.links link)).undisturbed.trans (undisturbed_withState .run _)
    have told : Undisturbed _ (noteEvent .runState _) := acked.trans (undisturbed_noteEvent rfl _)
    refine ⟨w.accepted sc link,
      old.trans_le (allocated_tell ((w.modify link _).setState link _) link _),
      told.trans (undisturbed_calls calls), ?_⟩
    have confirms : confirmsAccept packet = true := by
      cases packet with
      | intMsg | linkSvc => rfl
      | _ => cases other
    have entered : w.cc sc link (some packet) = (w.accepted sc link).run sc link (some packet) := by
      simp only [cc, confirms]
      rfl
    simp only [receive, dispatch, stateFunction, confirming, entered, stays]

theorem handles_receive (old : link < w.allocated)
    (state : (w.links link).state = .run ∨ (w.links link).state = .cc)
    (message : OtherMessage) (number : Nat) (header : AckHdr) :
    Handles message number (w.links link)
      ((w.receive sc link (message.packet number header)).links link) := by
  have other : (message.packet number header).isOther = true := by
    cases message <;> rfl
  obtain ⟨w', still, kept, same⟩ := @receive_attending τ sc link w _ old other state
  rw [same]
  cases message with
  | interrupt payload => exact handles_interrupt still kept payload number header
  | linkService request => exact handles_linkService w' kept request number header

end World

/-- A link with the messages that have arrived for it and, for each
acknowledgement it sent, the number up to which it had all of them then. -/
structure Subchannel (τ : Type*) where
  world : World τ
  (arrived acked : List Nat)

/-- What can happen next: a message for the link arrives, or anything else. -/
inductive Arrival (τ : Type*) where
  | message (src : Nodeid) (number : Nat) (header : AckHdr)
  | other (input : World.Input τ)

namespace Subchannel

variable {τ : Type*} (sc : SessionControl τ) (peer : Nat → OtherMessage) (link : Ptr)

/-- The message reaches the link while it runs, or is taken to run. -/
def Hears (s : Subchannel τ) (src : Nodeid) (number : Nat) (header : AckHdr) : Prop :=
  s.world.recipient src ((peer number).packet number header) = some link ∧
    ((s.world.links link).state = .run ∨ (s.world.links link).state = .cc)

instance (s : Subchannel τ) (src : Nodeid) (number : Nat) (header : AckHdr) :
    Decidable (s.Hears peer link src number header) :=
  inferInstanceAs (Decidable (_ ∧ _))

/-- Record what has arrived, and what it was that new acknowledgements could
have acknowledged. -/
def note (s : Subchannel τ) (world : World τ) (arrived : List Nat) : Subchannel τ :=
  { world := world
    arrived := arrived
    acked := s.acked ++ List.replicate
      ((world.links link).otherAcks.length -
        (s.world.links link).otherAcks.length) (complete arrived) }

def step (s : Subchannel τ) : Arrival τ → Subchannel τ
  | .message src number header =>
    s.note link (s.world.deliver sc src ((peer number).packet number header))
      (if s.Hears peer link src number header then s.arrived ++ [number] else s.arrived)
  | .other input => s.note link (s.world.step sc input) s.arrived

/-- Messages are numbered from one and arrive within the window of the
sequence numbers; what else happens is not a message for the link. -/
def Admits (s : Subchannel τ) : Arrival τ → Prop
  | .message src number header => 1 ≤ number ∧ (s.Hears peer link src number header →
        number < complete s.arrived + 1 + 2048 ∧ complete s.arrived + 1 < number + 2048)
  | .other input => ∀ src packet, input = .deliver src packet →
      s.world.recipient src packet = some link → packet.isOther = false

/-- No message overtakes one that has not arrived yet. -/
def InTurn (s : Subchannel τ) : Arrival τ → Prop
  | .message src number header => s.Hears peer link src number header →
      number ≤ complete s.arrived + 1
  | .other _ => True

/-- The messages up to the first one missing have been passed on, each once and
in order, and no acknowledgement went further. -/
structure Delivered (s : Subchannel τ) : Prop where
  interrupts : (s.world.links link).interrupts =
    (List.range (complete s.arrived)).filterMap fun i => (peer (i + 1)).payload
  credit : Granted peer (complete s.arrived) (s.world.links link).credit
  acks : (s.world.links link).otherAcks = s.acked.map Mod.wrap

def start (config : NspConfig) (ids : List Nat) (session : τ) : Subchannel τ :=
  ⟨World.start config ids session, [], []⟩

/-! ## Messages in turn -/

variable {arrived : List Nat} {number : Nat} {s : Subchannel τ} {world : World τ}

theorem complete_nil : complete [] = 0 :=
  (complete_eq_iff _ _).2 (by simp)

theorem complete_of_other (other : number ≠ complete arrived + 1) :
    complete (arrived ++ [number]) = complete arrived := by
  obtain ⟨missing, present⟩ := (complete_eq_iff arrived _).1 rfl
  refine (complete_eq_iff _ _).2 ⟨?_, ?_⟩
  · simp only [mem_append, mem_singleton, not_or]
    exact ⟨missing, other.symm⟩
  · exact fun k below => mem_append_left _ (present k below)

theorem complete_of_next (bound : ∀ k ∈ arrived, k ≤ complete arrived) :
    complete (arrived ++ [complete arrived + 1]) = complete arrived + 1 := by
  obtain ⟨_, present⟩ := (complete_eq_iff arrived _).1 rfl
  refine (complete_eq_iff _ _).2 ⟨?_, ?_⟩
  · intro member
    rcases mem_append.1 member with old | new
    · have := bound _ old
      omega
    · have := mem_singleton.1 new
      omega
  · intro k below
    rcases Nat.lt_succ_iff_lt_or_eq.1 below with earlier | rfl
    · exact mem_append_left _ (present k earlier)
    · exact mem_append_right _ mem_cons_self

variable {sc peer link}

/-- What holds as long as every message arrives in turn. -/
structure Tracked (peer : Nat → OtherMessage) (link : Ptr)
    (s : Subchannel τ) : Prop extends Delivered peer link s where
  known : World.Known s.world
  expects : (s.world.links link).intNextExpect = Mod.wrap (complete s.arrived + 1)
  plain : (s.world.links link).Plain
  bound : ∀ k ∈ s.arrived, k ≤ complete s.arrived

theorem tracked_start (config : NspConfig) (ids : List Nat) (session : τ) :
    Tracked peer link (start config ids session) := by
  constructor
  case known => exact known_start config ids session
  case plain => exact forall_mem_nil _
  case bound => exact forall_mem_nil _
  case expects =>
    simp only [start, complete_nil]
    rfl
  case toDelivered =>
    constructor
    case acks => rfl
    case interrupts =>
      simp only [start, complete_nil]
      rfl
    case credit =>
      simp only [start, complete_nil]
      exact .none

section

variable (tracked : Tracked peer link s)

include tracked

theorem Tracked.quiet (known : Known world)
    (kept : (s.world.links link).Undisturbed (world.links link)) :
    Tracked peer link (s.note link world s.arrived) := by
  have same := kept.otherAcks tracked.plain
  constructor
  case known => exact known
  case expects => exact kept.intNextExpect.trans tracked.expects
  case plain => exact kept.plain tracked.plain
  case bound => exact tracked.bound
  case toDelivered =>
    constructor
    case interrupts => exact kept.interrupts.trans tracked.interrupts
    case credit =>
      simp only [note, kept.credit]
      exact tracked.credit
    case acks =>
      simp only [note, same, Nat.sub_self, replicate_zero, append_nil]
      exact tracked.acks

theorem Tracked.again (known : Known world) (late : number ≤ complete s.arrived)
    (near : complete s.arrived + 1 < number + 2048)
    (handles : Handles (peer number) number (s.world.links link) (world.links link)) :
    Tracked peer link (s.note link world (s.arrived ++ [number])) := by
  have stale : (Mod.wrap number).less (s.world.links link).intNextExpect = true := by
    rw [tracked.expects]
    exact Mod.less_wrap (by omega) (by omega)
  rw [Handles.eq_def, if_pos stale] at handles
  have same := complete_of_other (by omega : number ≠ complete s.arrived + 1)
  have acked := handles.otherAcks tracked.plain
  rw [tracked.expects, Mod.wrap_sub_one] at acked
  constructor
  case known => exact known
  case plain => exact handles.plain tracked.plain
  case expects =>
    simp only [note, same]
    exact handles.intNextExpect.trans tracked.expects
  case bound =>
    simp only [note, same]
    intro k member
    rcases mem_append.1 member with old | new
    · exact tracked.bound k old
    · exact mem_singleton.1 new ▸ late
  case toDelivered =>
    constructor
    case interrupts =>
      simp only [note, same]
      exact handles.interrupts.trans tracked.interrupts
    case credit =>
      simp only [note, same, handles.credit]
      exact tracked.credit
    case acks => simp [note, acked, same, tracked.acks]

theorem Tracked.next (known : Known world)
    (handles : Handles (peer (complete s.arrived + 1)) (complete s.arrived + 1)
      (s.world.links link) (world.links link)) :
    Tracked peer link (s.note link world (s.arrived ++ [complete s.arrived + 1])) := by
  have fresh : ¬ (Mod.wrap (complete s.arrived + 1)).less
      (s.world.links link).intNextExpect = true := by
    rw [tracked.expects, Mod.not_less_wrap le_rfl (by omega)]
    exact Bool.false_ne_true
  rw [Handles.eq_def, if_neg fresh] at handles
  obtain ⟨takes, interrupts, credit⟩ := handles
  have same := complete_of_next tracked.bound
  have acked := takes.otherAcks tracked.plain
  constructor
  case known => exact known
  case plain => exact takes.plain tracked.plain
  case expects =>
    simp only [note, same]
    exact takes.intNextExpect.trans (Mod.wrap_add_wrap _ 1)
  case bound =>
    simp only [note, same]
    intro k member
    rcases mem_append.1 member with old | new
    · exact Nat.le_succ_of_le (tracked.bound k old)
    · exact (mem_singleton.1 new).le
  case toDelivered =>
    constructor
    case interrupts =>
      simp only [note, same, interrupts, tracked.interrupts, range_succ]
      cases told : (peer (complete s.arrived + 1)).payload <;> simp [told]
    case acks => simp [note, acked, same, tracked.acks]
    case credit =>
      simp only [note, same]
      cases sent : peer (complete s.arrived + 1) with
      | interrupt payload =>
        rw [sent] at credit
        rw [credit]
        exact .interrupt sent tracked.credit
      | linkService request =>
        rw [sent] at credit
        obtain ⟨d, header, before, after⟩ := credit
        rw [after]
        exact .linkService d header sent (before ▸ tracked.credit)

/-- A message that overtakes another is acknowledged all the same. -/
theorem Tracked.not_ahead (ahead : complete s.arrived + 1 < number)
    (near : number < complete s.arrived + 1 + 2048)
    (handles : Handles (peer number) number (s.world.links link) (world.links link)) :
    ¬ Delivered peer link (s.note link world (s.arrived ++ [number])) := by
  intro delivered
  have fresh : ¬ (Mod.wrap number).less (s.world.links link).intNextExpect = true := by
    rw [tracked.expects, Mod.not_less_wrap (by omega) (by omega)]
    exact Bool.false_ne_true
  rw [Handles.eq_def, if_neg fresh] at handles
  have acked := handles.1.otherAcks tracked.plain
  have acks := delivered.acks
  simp only [note, acked, complete_of_other ahead.ne', tracked.acks,
    length_append, length_singleton, Nat.add_sub_cancel_left,
    replicate_one, map_append, map_singleton, append_cancel_left_eq, cons.injEq, and_true] at acks
  have same := (Mod.wrap_inj 4096 (by omega) (by omega)).1 acks.symm
  omega

theorem Tracked.step {arrival : Arrival τ} (admitted : s.Admits peer link arrival)
    (turn : s.InTurn peer link arrival) : Tracked peer link (s.step sc peer link arrival) := by
  cases arrival with
  | other input =>
    refine tracked.quiet (known_step tracked.known input) ?_
    refine undisturbed_step tracked.known ?_
    exact fun src packet same found _ => admitted src packet same found
  | message src number header =>
    have known := @World.known_step τ sc _ tracked.known
      (.deliver src ((peer number).packet number header))
    simp only [Subchannel.step]
    by_cases heard : s.Hears peer link src number header
    · rw [if_pos heard]
      have handles := @World.handles_receive τ sc link s.world
        (tracked.known.recipient heard.1) heard.2 (peer number) number header
      rw [← deliver_of_recipient heard.1] at handles
      rcases Nat.lt_or_eq_of_le (turn heard) with late | rfl
      · exact tracked.again known (Nat.le_of_lt_succ late) (admitted.2 heard).2 handles
      · exact tracked.next known handles
    · rw [if_neg heard]
      refine tracked.quiet known (@World.undisturbed_step τ sc link s.world
        (.deliver src _) tracked.known ?_)
      intro _ _ same found attends
      cases same
      exact absurd ⟨found, attends⟩ heard

theorem Tracked.turn {arrival : Arrival τ} (admitted : s.Admits peer link arrival)
    (delivered : Delivered peer link (s.step sc peer link arrival)) :
    s.InTurn peer link arrival := by
  cases arrival with
  | other input => trivial
  | message src number header =>
    intro heard
    by_contra ahead
    have handles := @World.handles_receive τ sc link s.world
      (tracked.known.recipient heard.1) heard.2 (peer number) number header
    rw [← deliver_of_recipient heard.1] at handles
    simp only [Subchannel.step, if_pos heard] at delivered
    exact tracked.not_ahead (Nat.lt_of_not_le ahead) (admitted.2 heard).1 handles delivered

theorem Tracked.delivered_iff {arrivals : List (Arrival τ)}
    (admitted : Run.Guarded (Subchannel.step sc peer link) (Admits peer link) s arrivals) :
    Run.Guarded (Subchannel.step sc peer link)
        (fun s arrival => Delivered peer link (s.step sc peer link arrival)) s arrivals ↔
      Run.Guarded (Subchannel.step sc peer link) (InTurn peer link) s arrivals := by
  induction arrivals generalizing s with
  | nil => exact Iff.rfl
  | cons arrival arrivals ih =>
    constructor
    · rintro ⟨here, later⟩
      have turn := tracked.turn admitted.1 here
      exact ⟨turn, (ih (tracked.step admitted.1 turn) admitted.2).1 later⟩
    · rintro ⟨turn, later⟩
      have after : Tracked peer link (s.step sc peer link arrival) := tracked.step admitted.1 turn
      exact ⟨after.toDelivered, (ih after admitted.2).2 later⟩

end

def numbered (number : Nat) : OtherMessage :=
  .interrupt [UInt8.ofNat number]

def opened : List (Arrival Unit) :=
  [.other (.deliver 1025 (.connInit ⟨0, 7, svcNone, 2, 500, []⟩)), .other (.act (.accept 0 [] 0))]

def repeating : List (Arrival Unit) :=
  opened ++ [.message 1025 1 ⟨1, 7, none, none⟩,
    .message 1025 1 ⟨1, 7, none, none⟩, .message 1025 2 ⟨1, 7, none, none⟩]

def overtaking : List (Arrival Unit) :=
  opened ++ [.message 1025 2 ⟨1, 7, none, none⟩, .message 1025 1 ⟨1, 7, none, none⟩]

theorem admits_opened (s : Subchannel Unit) (arrivals : List (Arrival Unit))
    (later : Run.Guarded (Subchannel.step (.scripted fun _ _ => []) numbered 0) (Admits numbered 0)
      (opened.foldl (Subchannel.step (.scripted fun _ _ => []) numbered 0) s) arrivals) :
    Run.Guarded (Subchannel.step (.scripted fun _ _ => []) numbered 0)
      (Admits numbered 0) s (opened ++ arrivals) := by
  refine (Run.guarded_append _ _ _ _ _).2 ⟨⟨?_, ?_, trivial⟩, later⟩
  · intro src packet same _
    cases same
    rfl
  · intro src packet same
    cases same

section

variable {s : Subchannel Unit} {count : Nat} (same : s.arrived = arrived)
  (upTo : complete arrived = count)

include same upTo

theorem window_of_arrived (near : number < count + 1 + 2048 ∧ count + 1 < number + 2048) :
    number < complete s.arrived + 1 + 2048 ∧ complete s.arrived + 1 < number + 2048 := by
  rw [same, upTo]
  exact near

theorem turn_of_arrived (due : number ≤ count + 1) : number ≤ complete s.arrived + 1 := by
  rw [same, upTo]
  exact due

end

end Subchannel

end Decnet.Nsp
