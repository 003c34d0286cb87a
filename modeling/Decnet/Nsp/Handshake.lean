import Decnet.Nsp.Terminal
import Decnet.Nsp.Timers

/-!
# Answers to disconnects and to repeated packets

A disconnect initiate closes the link it names in the states in which the link
confirms it, and is otherwise not confirmed.  A packet that a link has already
processed is acknowledged again if it carries data, an interrupt or a link
service message; a repeated connect message often is not.
-/

namespace Decnet.Nsp

open Relation Connection

namespace Connection

section Calls

variable {config : NspConfig} {c c' : Connection}

/-! ## What calls send -/

theorem called_outbox (config : NspConfig) (call : Call) (c : Connection) :
    c.outbox <+: (World.called config call c).outbox := by
  obtain ⟨c', same, outcome⟩ := World.called_outcome config call c
  rw [same]
  cases outcome with
  | ignored | unconfirmed => exact List.prefix_rfl
  | accepted | rejected | left | interrupted => exact List.prefix_append _ _
  | sent link data running =>
    have inRun : ¬ (!c.running) = true := by
      simp [Connection.running, running]
    rw [sendData, if_neg inRun, sendSegments, sendBlocked_outbox, queueSegments_outbox]
    exact List.prefix_append _ _

def confirms (c : Connection) : Nat :=
  c.outbox.countP fun f =>
    match f.packet with
    | .discConf _ => true
    | _ => false

theorem called_confirms (call : Call) (idle : c.state ≠ .run) :
    (World.called config call c).confirms = c.confirms := by
  obtain ⟨c', same, outcome⟩ := World.called_outcome config call c
  rw [same]
  cases outcome with
  | ignored | unconfirmed => rfl
  | accepted => simp [confirms, send]
  | rejected =>
    simp [confirms, send, withState, noteClosing, clearQueues, stopAckHoldoff, discInit]
  | left => simp [confirms, send, discInit]
  | sent _ _ running | interrupted _ _ _ _ running => exact absurd running idle

theorem calls_confirms {ok : Call → Prop} (calls : Called config ok c c')
    (idle : c.state ≠ .run) : c'.confirms = c.confirms ∧ c'.state ≠ .run := by
  refine calls.keeps ⟨rfl, idle⟩ ?_
  rintro c call _ ⟨same, still⟩
  refine ⟨(called_confirms call still).trans same, ?_⟩
  exact fun running => still (carries_called call running).1

end Calls

/-! ## Acknowledgements and what is expected next -/

/-- A change that takes nothing back that was sent and expects the same numbers
next. -/
structure Expects (c c' : Connection) : Prop where
  outbox : c.outbox <+: c'.outbox
  nextExpect : c'.nextExpect = c.nextExpect
  intNextExpect : c'.intNextExpect = c.intNextExpect

section Expects

variable {c c' : Connection}

theorem Expects.trans {c'' : Connection} (first : Expects c c')
    (second : Expects c' c'') : Expects c c'' :=
  ⟨first.outbox.trans second.outbox, second.nextExpect.trans first.nextExpect,
    second.intNextExpect.trans first.intNextExpect⟩

theorem Sends.expects (sends : Sends c c') : Expects c c' := by
  obtain ⟨half, rfl, _⟩ := sends
  exact ⟨List.prefix_append _ _, rfl, rfl⟩

theorem expects_touch (c : Connection) : Expects c c.touch := by
  unfold touch
  split <;> exact ⟨List.prefix_rfl, rfl, rfl⟩

def acks (c : Connection) : Nat :=
  c.outbox.countP fun f =>
    match f.packet with
    | .ackData _ => true
    | .ackOther _ => true
    | .ackConn _ => true
    | _ => false

theorem Expects.acks_le (expects : Expects c c') : c.acks ≤ c'.acks :=
  expects.outbox.sublist.countP_le

theorem Expects.acks_lt_sendAck (expects : Expects c c') : c.acks < c'.sendAck.acks := by
  have one : c'.sendAck.acks = c'.acks + 1 := by
    simp [acks, sendAck, send, stopAckHoldoff]
  rw [one]
  exact Nat.lt_succ_of_le expects.acks_le

theorem Expects.acks_lt_sendAckOther (expects : Expects c c') (num : Seq) :
    c.acks < (c'.sendAckOther num).acks := by
  have one : (c'.sendAckOther num).acks = c'.acks + 1 := by
    simp [acks, sendAckOther, send]
  rw [one]
  exact Nat.lt_succ_of_le expects.acks_le

end Expects

/-- A packet of which the link has already processed a copy. -/
def Processed (c : Connection) : Packet → Prop
  | .connInit _ => c.state = .cr ∨ c.Inbound
  | .connConf _ => c.state = .run ∧ ¬ c.Inbound
  | .dataSeg segment => c.state = .run ∧ segment.segnum.less c.nextExpect = true
  | .intMsg message => c.state = .run ∧ message.segnum.less c.intNextExpect = true
  | .linkSvc message => c.state = .run ∧ message.valid = true ∧
      message.segnum.less c.intNextExpect = true
  | _ => False

/-- The repeated packets that a link acknowledges again. -/
def Reacknowledges (c : Connection) : Packet → Prop
  | .connInit _ => c.state = .cr ∧ c.cphase > 2
  | .connConf _ => False
  | _ => True

/-! ## How a disconnect ends a link -/

def Confirming (c : Connection) : Prop :=
  c.state = .ci ∨ c.state = .cd ∨ c.state = .cc ∨ c.state = .run

/-- A link that was closed after it had sent some packets and session control
was told. -/
structure Parted (config : NspConfig) (frames : List Frame) (c c' : Connection) : Prop where
  state : c'.state = .cl
  told : ∃ (before inner : Connection) (upcall : Upcall), upcall.terminal = true ∧
    Called config (fun _ => True) (before.noteEvent upcall) inner ∧
    before.state = c.state ∧ before.events = c.events ∧ before.outbox = c.outbox ++ frames ∧
    c'.events = inner.events ∧ c'.outbox = inner.outbox

variable {config : NspConfig} {frames : List Frame} {c c' : Connection}

theorem Parted.terminals (parted : Parted config frames c c') : c'.terminals = c.terminals + 1 := by
  obtain ⟨before, inner, upcall, terminal, calls, _, events, _, after, _⟩ := parted.told
  have noted : inner.events = before.events ++ [upcall] := calls_events calls
  simp [Connection.terminals, after, noted, events, terminal]

theorem Parted.outbox (parted : Parted config frames c c') : c.outbox ++ frames <+: c'.outbox := by
  obtain ⟨before, inner, upcall, _, calls, _, _, outbox, _, after⟩ := parted.told
  rw [after, ← outbox]
  exact calls.keeps List.prefix_rfl fun _ call _ so => so.trans (called_outbox config call _)

theorem Parted.confirms_lt {confirm : DiscConf} {known : Nat}
    (parted : Parted config [⟨.discConf confirm, 0, known⟩] c c') : c.confirms < c'.confirms := by
  have more := parted.outbox.sublist.countP_le (p := fun f =>
    match f.packet with
    | .discConf _ => true
    | _ => false)
  rw [List.countP_append] at more
  exact more

theorem Parted.confirms (parted : Parted config [] c c')
    (idle : c.state ≠ .run) : c'.confirms = c.confirms := by
  obtain ⟨before, inner, upcall, _, calls, state, _, outbox, _, after⟩ := parted.told
  have silent : before.state ≠ .run := state ▸ idle
  have same := (calls_confirms calls silent).1
  rw [List.append_nil] at outbox
  rw [Connection.confirms, after]
  refine same.trans ?_
  show before.confirms = c.confirms
  rw [Connection.confirms, outbox, Connection.confirms]

end Connection

namespace World

variable {τ : Type*} {sc : SessionControl τ}

section Parted

variable {w : World τ} {link : Ptr} (old : link < w.allocated)
  {c : Connection} {frames : List Frame} (state : (w.links link).state = c.state)
  (events : (w.links link).events = c.events) (outbox : (w.links link).outbox = c.outbox ++ frames)

include old state events outbox

theorem parted_close (reason : Nat) (data : Bytes) :
    Parted w.config frames c
      (((w.close sc link reason data true).setState link .cl).links link) := by
  have calls : Called w.config (fun _ => True) (((w.modify link clearQueues).links link).noteEvent
        (.disconnected reason data)) (((w.modify link clearQueues).tell sc link
        (.disconnected reason data)).links link) :=
    called_tell (w := w.modify link clearQueues) old _
  rw [modify_links, Function.update_self] at calls
  constructor
  case state => simp [setState, withState]
  case told =>
    refine ⟨(w.links link).clearQueues, _, _, rfl, calls, state, events, outbox, ?_, ?_⟩
    · simp [close, setState, withState, noteClosing]
    · simp [close, setState, withState, noteClosing]

theorem parted_refused (reason : Nat) (data : Bytes) :
    Parted w.config frames c ((((w.tell sc link (.connectRejected reason data)).closeQuietly
        link).setState link .cl).links link) := by
  have calls : Called w.config (fun _ => True)
      ((w.links link).noteEvent (.connectRejected reason data))
      ((w.tell sc link (.connectRejected reason data)).links link) := called_tell old _
  constructor
  case state => simp [setState, withState]
  case told =>
    refine ⟨w.links link, _, _, rfl, calls, state, events, outbox, ?_, ?_⟩
    · simp [closeQuietly, setState, withState, noteClosing, clearQueues, stopAckHoldoff]
    · simp [closeQuietly, setState, withState, noteClosing, clearQueues, stopAckHoldoff]

end Parted

theorem receive_discInit_confirmed (w : World τ) {link : Ptr}
    (old : link < w.allocated) (message : DiscInit) (state : (w.links link).Confirming) :
    ∃ confirm known, Parted w.config [⟨.discConf confirm, 0, known⟩] (w.links link)
      ((w.receive sc link (.discInit message)).links link) := by
  have refused (same : w.receive sc link (.discInit message) =
      (((w.modify link (confirmReject message)).tell sc link
        (.connectRejected message.reason message.dataCtl)).closeQuietly link).setState link .cl) :
      ∃ confirm known, Parted w.config [⟨.discConf confirm, 0, known⟩] (w.links link)
        ((w.receive sc link (.discInit message)).links link) := by
    refine ⟨⟨message.srcaddr, (w.links link).srcaddr, discComplete⟩, (w.links link).rcvd, ?_⟩
    rw [same]
    refine parted_refused (w := w.modify link (confirmReject message)) old ?_ ?_ ?_ _ _
    · simp [(steady_confirmReject message (w.links link)).state]
    · simp [(steady_confirmReject message (w.links link)).events]
    · simp [confirmReject, sendDiscConf, send]
  have confirmed (before : Connection → Connection)
      (steady : (w.links link).Steady (before (w.links link)))
      (silent : (before (w.links link)).outbox = (w.links link).outbox)
      (same : w.receive sc link (.discInit message) =
        (((w.modify link before).modify link sendDiscConf).close sc
          link message.reason message.dataCtl true).setState link .cl) :
      ∃ confirm known, Parted w.config [⟨.discConf confirm, 0, known⟩] (w.links link)
        ((w.receive sc link (.discInit message)).links link) := by
    refine ⟨⟨(before (w.links link)).dstaddr, (before (w.links link)).srcaddr,
      discComplete⟩, (before (w.links link)).rcvd, ?_⟩
    have told := steady.trans (steady_sendDiscConf (before (w.links link)))
    rw [same]
    refine parted_close (w := (w.modify link before).modify link sendDiscConf) old ?_ ?_ ?_ _ _
    · simp [told.state]
    · simp [told.events]
    · simp [sendDiscConf, send, silent]
  rcases state with state | state | state | state
  · refine refused ?_
    simp [receive, dispatch, stateFunction, state, ci, cd, close]
  · refine refused ?_
    simp [receive, dispatch, stateFunction, state, cd, close]
  · refine confirmed id (.refl _) rfl ?_
    simp [receive, dispatch, stateFunction, state, cc, confirmsAccept, discInitReceived, modify]
  · refine confirmed touch (steady_touch _) ?_ ?_
    · unfold touch
      split <;> rfl
    · simp [receive, dispatch, stateFunction, state, run, discInitReceived]

theorem receive_discInit_crossing (w : World τ) {link : Ptr}
    (old : link < w.allocated) (message : DiscInit) (state : (w.links link).state = .di) :
    Parted w.config [] (w.links link) ((w.receive sc link (.discInit message)).links link) := by
  have same : w.receive sc link (.discInit message) =
      (w.close sc link discNormal [] true).setState link .cl := by
    simp [receive, dispatch, stateFunction, state, di]
  rw [same]
  exact parted_close old rfl rfl (List.append_nil _).symm _ _

/-! ## Disconnect initiates -/

/-- A link that the claimed handshake is about. -/
def OpenLink (w : World τ) (addr : Nat) (link : Ptr) : Prop :=
  w.byAddr.lookup addr = some link ∧ (w.links link).state ≠ .s0 ∧ (w.links link).state ≠ .cl

/-- What the sender of a disconnect initiate expects: the open link it names is
closed, the disconnect is confirmed and session control is told once, or if
there is no such link the disconnect is confirmed all the same. -/
def DisconnectServed (sc : SessionControl τ) (w : World τ) (src : Nodeid)
    (message : DiscInit) : Prop :=
  (∀ link, w.OpenLink message.dstaddr link →
    ((w.deliver sc src (.discInit message)).links link).state = .cl ∧ (w.links link).confirms <
        ((w.deliver sc src (.discInit message)).links link).confirms ∧
      ((w.deliver sc src (.discInit message)).links link).terminals =
        (w.links link).terminals + 1) ∧ ((∀ link, ¬ w.OpenLink message.dstaddr link) →
      ∃ confirm, (w.deliver sc src (.discInit message)).sent = w.sent ++ [(src, .discConf confirm)])

theorem served_of_confirming {w : World τ} {src : Nodeid}
    {message : DiscInit} {link : Ptr} (known : Known w)
    (found : w.byAddr.lookup message.dstaddr = some link) (confirming : (w.links link).Confirming) :
    DisconnectServed sc w src message := by
  have old := (known.byAddr _ link found).1
  have given : w.deliver sc src (.discInit message) =
      w.receive sc link (.discInit message) := deliver_of_recipient found
  obtain ⟨confirm, number, parted⟩ := @receive_discInit_confirmed τ sc w link old message confirming
  rw [← given] at parted
  refine ⟨?_, ?_⟩
  · rintro other ⟨held, _⟩
    cases found.symm.trans held
    exact ⟨parted.state, parted.confirms_lt, parted.terminals⟩
  · intro gone
    refine absurd ⟨found, ?_, ?_⟩ (gone link)
    · rcases confirming with state | state | state | state <;> simp [state]
    · rcases confirming with state | state | state | state <;> simp [state]

theorem not_served_of_silent {w : World τ} {src : Nodeid} {message : DiscInit}
    (silent : w.deliver sc src (.discInit message) = w) : ¬ DisconnectServed sc w src message := by
  intro served
  by_cases gone : ∀ link, ¬ w.OpenLink message.dstaddr link
  · obtain ⟨confirm, answered⟩ := served.2 gone
    rw [silent] at answered
    have lengths := congrArg List.length answered
    simp at lengths
  · simp only [not_forall, not_not] at gone
    obtain ⟨link, isOpen⟩ := gone
    have told := (served.1 link isOpen).2.2
    rw [silent] at told
    omega

/-- A disconnect initiate is served in every state of the link it names but
three: while the link waits for session control's decision, while it is itself
disconnecting, and when it is gone. -/
theorem disconnect_served_iff (config : NspConfig) (ids : List Nat)
    (session : τ) (inputs : List (Input τ)) (src : Nodeid) (message : DiscInit) :
    DisconnectServed sc (reach sc config ids session inputs) src message ↔
      ∃ link, (reach sc config ids session inputs).byAddr.lookup message.dstaddr = some link ∧
        ((reach sc config ids session inputs).links link).Confirming := by
  have known : Known (reach sc config ids session inputs) := known_reach config ids session inputs
  generalize reach sc config ids session inputs = w at *
  constructor
  · intro served
    cases found : w.byAddr.lookup message.dstaddr with
    | none =>
      refine absurd served (not_served_of_silent ?_)
      simp [deliver, Packet.linkAddress, found]
    | some link =>
      refine ⟨link, rfl, ?_⟩
      have old := (known.byAddr _ link found).1
      have given : w.deliver sc src (.discInit message) =
          w.receive sc link (.discInit message) := deliver_of_recipient found
      have silent (state : (w.links link).state = .s0 ∨
          (w.links link).state = .cr ∨ (w.links link).state = .cl) : (w.links link).Confirming := by
        refine absurd served (not_served_of_silent ?_)
        rw [given]
        rcases state with state | state | state <;> simp [receive, dispatch, stateFunction, state, cr]
      cases state : (w.links link).state with
      | s0 => exact silent (.inl state)
      | cr => exact silent (.inr (.inl state))
      | cl => exact silent (.inr (.inr state))
      | ci => exact .inl state
      | cd => exact .inr (.inl state)
      | cc => exact .inr (.inr (.inl state))
      | run => exact .inr (.inr (.inr state))
      | di =>
        have parted := @receive_discInit_crossing τ sc w link old message state
        rw [← given] at parted
        have confirmed := (served.1 link ⟨found, by simp [state], by simp [state]⟩).2.1
        rw [parted.confirms (by simp [state])] at confirmed
        exact absurd confirmed (Nat.lt_irrefl _)
  · rintro ⟨link, found, confirming⟩
    exact served_of_confirming known found confirming

/-- A disconnect initiate for a link that waits for session control's decision
is ignored, one that crosses our own is not confirmed, and one for a link that
is gone is not answered. -/
theorem disconnect_not_served :
    let sc : SessionControl Unit := .scripted fun _ _ => []
    let config : NspConfig := ⟨1, 20, 1, 4, 60⟩
    let waiting : List (Input Unit) :=
      [.deliver 1025 (.connInit ⟨0, 7, svcNone, 2, 500, []⟩)]
    let leaving : List (Input Unit) :=
      [.act (.connect 1025 []), .deliver 1025 (.connConf ⟨1, 7, svcNone, 2, 500, []⟩),
        .act (.disconnect 0 0 [])]
    InitIds 1 [1] ∧ ¬ DisconnectServed sc (reach sc config [1] () waiting) 1025 ⟨1, 7, 0, []⟩ ∧
      ¬ DisconnectServed sc (reach sc config [1] () leaving) 1025 ⟨1, 7, 0, []⟩ ∧
      ¬ DisconnectServed sc (reach sc config [1] () []) 1025 ⟨1, 7, 0, []⟩ := by
  refine ⟨⟨fun _ => 0, fun _ => Nat.zero_le _, by decide⟩, ?_, ?_, ?_⟩
  · intro served
    have closed := (served.1 0 ⟨by decide +kernel, by decide +kernel, by decide +kernel⟩).1
    revert closed
    decide +kernel
  · intro served
    have confirmed := (served.1 0 ⟨by decide +kernel, by decide +kernel, by decide +kernel⟩).2.1
    revert confirmed
    decide +kernel
  · exact not_served_of_silent rfl

/-! ## Repeated packets -/

section Repeated

variable (w : World τ) (link : Ptr) (running : (w.links link).state = .run)

include running

theorem acks_repeated_dataSeg (segment : DataSeg)
    (stale : segment.segnum.less (w.links link).nextExpect = true) :
    (w.links link).acks < ((w.receive sc link (.dataSeg segment)).links link).acks := by
  have routed := ((expects_touch (w.links link)).trans
    (sends_routeAck segment.acknum true _).expects).trans
      (sends_routeAck segment.acknum2 true _).expects
  rw [← routed.nextExpect] at stale
  rw [receive_running running rfl]
  simpa [handleData, stale] using routed.acks_lt_sendAck

theorem acks_repeated_intMsg (message : IntMsg)
    (stale : message.segnum.less (w.links link).intNextExpect = true) :
    (w.links link).acks < ((w.receive sc link (.intMsg message)).links link).acks := by
  have touched := expects_touch (w.links link)
  rw [← touched.intNextExpect] at stale
  rw [receive_running running rfl]
  simpa [handleInterrupt, stale] using touched.acks_lt_sendAckOther _

theorem acks_repeated_linkSvc (message : LinkSvcMsg) (valid : message.valid = true)
    (stale : message.segnum.less (w.links link).intNextExpect = true) :
    (w.links link).acks < ((w.receive sc link (.linkSvc message)).links link).acks := by
  have routed := ((expects_touch (w.links link)).trans
    (sends_routeAck message.acknum false _).expects).trans
      (sends_routeAck message.acknum2 false _).expects
  rw [← routed.intNextExpect] at stale
  rw [receive_running running rfl]
  simpa [handleLinkService, valid, stale] using routed.acks_lt_sendAckOther _

/-- A link that runs says nothing when it gets a connect message again. -/
theorem acks_repeated_connect (packet : Packet)
    (connects : (∃ message, packet = .connInit message) ∨ ∃ message, packet = .connConf message) :
    ((w.receive sc link packet).links link).acks = (w.links link).acks := by
  have touched : (w.links link).touch.outbox = (w.links link).outbox := by
    unfold touch
    split <;> rfl
  have told : (w.receive sc link packet).links link = (w.links link).touch := by
    rcases connects with ⟨message, rfl⟩ | ⟨message, rfl⟩ <;>
      rw [receive_running running rfl, modify_links, Function.update_self]
  rw [told, acks, touched, acks]

end Repeated

/-- A link in state `cr` or `run` acknowledges every repeated packet again, but
for a connect message in run state and, with a Phase II node, a connect
initiate in state `cr`. -/
theorem repeated_acknowledged_iff (w : World τ) (link : Ptr) (packet : Packet)
    (state : (w.links link).state = .cr ∨ (w.links link).state = .run)
    (processed : (w.links link).Processed packet) :
    (w.links link).acks < ((w.receive sc link packet).links link).acks ↔
      (w.links link).Reacknowledges packet := by
  cases packet with
  | dataSeg segment =>
    obtain ⟨running, stale⟩ := processed
    exact iff_of_true (acks_repeated_dataSeg w link running segment stale) trivial
  | intMsg message =>
    obtain ⟨running, stale⟩ := processed
    exact iff_of_true (acks_repeated_intMsg w link running message stale) trivial
  | linkSvc message =>
    obtain ⟨running, valid, stale⟩ := processed
    exact iff_of_true (acks_repeated_linkSvc w link running message valid stale) trivial
  | connConf message =>
    have same := @acks_repeated_connect τ sc w link processed.1
      (.connConf message) (.inr ⟨message, rfl⟩)
    rw [same]
    exact iff_of_false (Nat.lt_irrefl _) id
  | connInit message =>
    rcases state with waiting | running
    · have told : (w.receive sc link (.connInit message)).links link =
          (w.links link).sendAckConn := by
        simp [receive, dispatch, stateFunction, waiting, cr]
      rw [told]
      simp only [Reacknowledges, waiting, true_and, sendAckConn]
      split
      · rename_i later
        refine iff_of_true ?_ later
        simp [acks, send]
      · rename_i second
        exact iff_of_false (Nat.lt_irrefl _) second
    · have same := @acks_repeated_connect τ sc w link running
        (.connInit message) (.inl ⟨message, rfl⟩)
      rw [same]
      refine iff_of_false (Nat.lt_irrefl _) ?_
      rintro ⟨waiting, _⟩
      rw [running] at waiting
      cases waiting
  | ackData | ackOther | ackConn | discConf | discInit => exact processed.elim

/-- A running link that has received one data segment. -/
def received : List (Input Unit) :=
  [.act (.connect 1025 []), .deliver 1025 (.connConf ⟨1, 7, svcNone, 2, 500, []⟩), .deliver 1025
      (.dataSeg ⟨⟨1, 7, none, none⟩, Mod.wrap 1, false, true, true, [3]⟩)]

theorem repeated_acknowledged_dataSeg :
    let sc : SessionControl Unit := .scripted fun _ _ => []
    let w := reach sc ⟨1, 20, 1, 4, 60⟩ [1] () received
    let segment : DataSeg :=
      ⟨⟨1, 7, none, none⟩, Mod.wrap 1, false, true, true, [3]⟩
    (w.links 0).acks < ((w.receive sc 0 (.dataSeg segment)).links 0).acks := by
  intro sc w segment
  exact (repeated_acknowledged_iff w 0 (.dataSeg segment)
    (.inr (by decide +kernel)) ⟨by decide +kernel, by decide +kernel⟩).2 trivial

/-- A connect confirm that reaches a running link again is not acknowledged,
and so its sender never gets to run state by it. -/
theorem repeated_connConf_unanswered :
    let sc : SessionControl Unit := .scripted fun _ _ => []
    let confirm : ConnConf := ⟨1, 7, svcNone, 2, 500, []⟩
    let w := reach sc ⟨1, 20, 1, 4, 60⟩ [1] ()
      [.act (.connect 1025 []), .deliver 1025 (.connConf confirm)]
    InitIds 1 [1] ∧ (w.links 0).state = .run ∧ (w.links 0).Processed (.connConf confirm) ∧
      ((w.deliver sc 1025 (.connConf confirm)).links 0).outbox = (w.links 0).outbox := by
  intro sc confirm w
  have told : (w.links 0).events = [.connectConfirmed []] := by
    decide +kernel
  refine ⟨⟨fun _ => 0, fun _ => Nat.zero_le _, by decide⟩,
    by decide +kernel, ⟨by decide +kernel, ?_⟩, by decide +kernel⟩
  rintro ⟨payload, member⟩
  rw [told] at member
  simp at member

end World

end Decnet.Nsp
