import Decnet.Nsp.QueueShape

/-!
# Which segments a link sends

The life of a link is a sequence of operations of `Connection`.  Each of them
sends only data segments that flow control allows at that moment, except that a
timeout sends the oldest segment again.
-/

namespace Decnet.Nsp

open Relation TxEntry Connection List

def Heeds.noAck : Heeds :=
  ⟨fun _ _ _ => False, True, True, fun _ => True⟩

namespace Connection

/-- The operations of a link, one at a time. -/
inductive Tick (config : NspConfig) : Connection → Connection → Prop where
  | startOutbound (c : Connection) (payload : Bytes) :
      Tick config c (c.startOutbound config payload)
  | connectReceived (c : Connection) (message : ConnInit) :
      Tick config c (c.connectReceived config message)
  | op (c c' : Connection) (op : Op .noAck c c') : Tick config c c'
  | processAck (c : Connection) (num : Seq) : Tick config c (c.processAck num)
  | processNak (c : Connection) : Tick config c c.processNak
  | processIntAck (c : Connection) (num : Seq) : Tick config c (c.processIntAck num)
  | call (c : Connection) (call : Call) : Tick config c (World.called config call c)
  | noteEvent (c : Connection) (upcall : Upcall) : Tick config c (c.noteEvent upcall)
  | confirm (c : Connection) (message : ConnConf) : Tick config c (c.confirm config message)
  | withState (c : Connection) (next : ConnState) : Tick config c (c.withState next)
  | expiry (c : Connection) (prepare : Connection → Connection)
      (expiry : Expiry prepare) : Tick config c (prepare c)
  | clearQueues (c : Connection) : Tick config c c.clearQueues
  | noteClosing (c : Connection) : Tick config c c.noteClosing

/-- What flow control demands of a data segment: XON, the congestion window
within `qmax`, and the credit that the far end has granted. -/
structure Allows (c : Connection) (e : TxEntry) : Prop where
  xon : c.xon = true
  window : ∀ oldest ∈ c.txq.head?, e.segnum < oldest.segnum + c.window
  segments : c.flow = svcSeg → e.segnum ≤ c.maxSeg
  messages : c.flow = svcMsg → e.msgnum ≤ c.maxMsg

/-- Every data segment sent is a queued one that flow control allows.  An
operation that sends changes nothing of this after it has begun to send, so
the link after it tells what held at that moment. -/
def Paced (c c' : Connection) : Prop :=
  ∃ frames, c'.outbox = c.outbox ++ frames ∧ ∀ f ∈ frames, f.dataNumber ≠ none →
      ∃ e ∈ c'.txq, e.frame = f ∧ e.isData = true ∧ c'.Allows e

/-- A timeout sends the oldest segment again. -/
def Resends (c c' : Connection) : Prop :=
  ∃ oldest rest retries, c.txq = oldest :: rest ∧ oldest.sent = true ∧ c.timerIsRetransmit = true ∧
    c' = (c.stopTimer.setRetries retries).resend ∧ c'.outbox = c.outbox ++ [oldest.frame]

def Orderly (config : NspConfig) (c c' : Connection) : Prop :=
  Tick config c c' ∧ (Paced c c' ∨ Resends c c')

section Paced

variable {config : NspConfig} {c c' : Connection}

theorem paced_same (same : c'.outbox = c.outbox) : Paced c c' :=
  ⟨[], by rw [same, append_nil], forall_mem_nil _⟩

def SendsOne (c c' : Connection) : Prop :=
  ∃ f : Frame, c'.outbox = c.outbox ++ [f] ∧ f.dataNumber = none

theorem SendsOne.paced (one : SendsOne c c') : Paced c c' := by
  obtain ⟨f, outbox, plain⟩ := one
  refine ⟨[f], outbox, ?_⟩
  intro x member data
  rw [mem_singleton.1 member] at data
  exact absurd plain data

theorem Allows.of_flowOk {e : TxEntry} (isData : e.isData = true)
    (allowed : c.flowOk e = true) : c.Allows e := by
  have granted : c.xon = true ∧ if c.flow = svcSeg then e.segnum ≤ c.maxSeg
      else c.flow = svcMsg → e.msgnum ≤ c.maxMsg := by
    simp only [flowOk, isData, Bool.not_true, Bool.false_eq_true, if_false] at allowed
    split at allowed
    · cases allowed
    · rename_i on
      refine ⟨by simpa using on, ?_⟩
      split at allowed
      · cases allowed
      · split at allowed
        · rename_i kind
          rw [if_pos kind]
          simpa using allowed
        · rename_i kind
          rw [if_neg kind]
          intro messages
          simpa [messages] using allowed
  constructor
  case xon => exact granted.1
  case window =>
    intro oldest first
    cases queue : c.txq with
    | nil => simp [queue] at first
    | cons front rest =>
      rw [queue, head?_cons, Option.mem_some_iff] at first
      rw [← first]
      exact flowOk_segnum allowed isData queue
  case segments =>
    intro kind
    simpa [kind] using granted.2
  case messages =>
    intro kind
    have other : ¬ c.flow = svcSeg := by
      rw [kind]
      decide
    have credit := granted.2
    rw [if_neg other] at credit
    exact credit kind

theorem flowOk_congr (e : TxEntry) (xon : c'.xon = c.xon)
    (flow : c'.flow = c.flow) (maxSeg : c'.maxSeg = c.maxSeg)
    (maxMsg : c'.maxMsg = c.maxMsg) (window : c'.window = c.window)
    (oldest : c'.txq.head?.map segnum = c.txq.head?.map segnum) : c'.flowOk e = c.flowOk e := by
  have limit : c'.maxq = c.maxq := by
    unfold maxq
    cases after : c'.txq with
    | nil =>
      cases before : c.txq with
      | nil => rw [window]
      | cons => simp [after, before] at oldest
    | cons front rest =>
      cases before : c.txq with
      | nil => simp [after, before] at oldest
      | cons old others =>
        have same : front.segnum = old.segnum := by
          simpa [after, before] using oldest
        simp only [window, same]
  unfold flowOk
  rw [limit, xon, flow, maxSeg, maxMsg]

theorem flowOk_sendBlocked (e : TxEntry) (c : Connection) :
    c.sendBlocked.flowOk e = c.flowOk e := by
  have oldest : c.sendBlocked.txq.head?.map segnum = c.txq.head?.map segnum := by
    have same := congrArg head? c.sendBlocked_unmarked
    simpa [Function.comp_def, unmarked] using congrArg (Option.map segnum) same
  generalize after : c.sendBlocked = c' at *
  unfold sendBlocked at after
  dsimp only at after
  split at after <;> subst after <;> exact flowOk_congr e rfl rfl rfl rfl rfl oldest

theorem Shape.paced (shape : c'.Shape) (same : c'.outbox = c.outbox) : Paced c c'.sendBlocked := by
  refine ⟨_, (sendBlocked_outbox c').trans (congrArg (· ++ _) same), ?_⟩
  intro f member _
  obtain ⟨e, present, frame, allowed⟩ := sendBlockedLoop_frames _ _ _ f member
  rw [← sendBlocked_txq] at present
  rw [← flowOk_sendBlocked] at allowed
  rcases shape with lined | opening
  · obtain ⟨_, _, _, slot⟩ := lined.sendBlocked.slots.mem present
    exact ⟨e, present, frame, slot.isData, .of_flowOk slot.isData allowed⟩
  · obtain ⟨only, queue, _, _, isSent⟩ := opening.entry
    rw [queue] at member
    simp [sendBlockedLoop, isSent] at member

/-! ## Operations -/

section

variable (shape : c.Shape)

include shape

theorem Shape.paced_processAck (num : Seq) : Paced c (c.processAck num) := by
  obtain ⟨segnum, cwnd, nak, retries, isRetransmit, timer, same⟩ := processAck_eq num c
  rw [same]
  refine Shape.paced ((shape.pop (acknowledges num)).aside ?_) rfl
  exact ⟨rfl, rfl, rfl, rfl, rfl, rfl, rfl⟩

theorem Shape.processAck_zero_outbox (early : c.Early) :
    (c.processAck (Mod.wrap 0)).outbox = c.outbox := by
  obtain ⟨segnum, cwnd, nak, retries, isRetransmit, timer, same⟩ := processAck_eq (Mod.wrap 0) c
  rw [same, shape.dropWhile_zero early]
  exact append_nil _

theorem Shape.paced_processNak : Paced c c.processNak := by
  have marked : { c with txq := c.txq.map unsend }.Shape := shape.imp Lined.marked Opening.marked
  rcases processNak_cases c with same | ⟨_, _, _, same⟩
  · exact paced_same (congrArg outbox same)
  · rw [same]
    refine Shape.paced (marked.aside ?_) rfl
    exact ⟨rfl, rfl, rfl, rfl, rfl, rfl, rfl⟩

theorem Shape.paced_applyCredit (message : LinkSvcMsg) : Paced c (c.applyCredit message) := by
  obtain ⟨granted, same | same⟩ := applyCredit_cases message c
  · rw [same]
    exact paced_same rfl
  · rw [same]
    refine Shape.paced (shape.aside ?_) rfl
    exact ⟨rfl, rfl, rfl, rfl, rfl, rfl, rfl⟩

theorem Shape.orderly_routeAck (ack : Option AckNum) (onData : Bool) :
    ReflTransGen (Orderly config) c (c.routeAck ack onData) := by
  have acked (num : Seq) : Orderly config c (c.processAck num) :=
    ⟨.processAck c num, .inl (shape.paced_processAck num)⟩
  generalize after : c.routeAck ack onData = c'
  cases after ▸ routed ack onData c with
  | none => exact .refl
  | other field =>
    exact .single ⟨.processIntAck c field.num, .inl (paced_same rfl)⟩
  | data field => exact .single (acked field.num)
  | nak field =>
    have resent := (shape.processAck field.num).paced_processNak
    exact .tail (.single (acked field.num)) ⟨.processNak _, .inl resent⟩

/-- Sent entries come first, so the oldest entry is the oldest one sent. -/
theorem Shape.oldest_sent (flying : c.inFlight ≠ 0) :
    ∃ oldest rest, c.txq = oldest :: rest ∧ oldest.sent = true := by
  rcases shape with lined | opening
  · have order := lined.order
    unfold inFlight at flying
    cases queue : c.txq with
    | nil => simp [queue] at flying
    | cons oldest rest =>
      refine ⟨oldest, rest, rfl, ?_⟩
      rw [queue] at order flying
      obtain ⟨e, member, isSent⟩ := countP_pos_iff.1 (Nat.pos_of_ne_zero flying)
      rcases mem_cons.1 member with rfl | later
      · exact isSent
      · exact ((pairwise_cons.1 order).1 e later).1 isSent
  · obtain ⟨e, queue, _, _, isSent⟩ := opening.entry
    exact ⟨e, [], queue, isSent⟩

theorem Shape.resends (retries : Nat) (kind : c.timerIsRetransmit = true)
    (flying : c.inFlight ≠ 0) : Resends c (c.stopTimer.setRetries retries).resend := by
  obtain ⟨oldest, rest, queue, isSent⟩ := shape.oldest_sent flying
  refine ⟨oldest, rest, retries, queue, isSent, kind, rfl, ?_⟩
  simp [resend, setRetries, stopTimer, queue, resendQueue, isSent]

end

variable {heeds : Heeds} {prepare : Connection → Connection} {permits : Permits}
  {counted : Prop} {queue : List TxEntry}

theorem noAck_op (op : Op heeds c c') :
    Op .noAck c c' ∨ ∃ ack onData, c' = c.routeAck ack onData := by
  cases op with
  | routeAck ack onData => exact .inr ⟨ack, onData, rfl⟩
  | touch => exact .inl (.touch c)
  | sendAck => exact .inl (.sendAck c)
  | delayAck => exact .inl (.delayAck c)
  | ackHoldoff => exact .inl (.ackHoldoff c)
  | hold segment => exact .inl (.hold c segment trivial)
  | release => exact .inl (.release c trivial)
  | assemble segment => exact .inl (.assemble c segment trivial)
  | clearAssembly => exact .inl (.clearAssembly c trivial)
  | advance => exact .inl (.advance c trivial)
  | sendAckOther num => exact .inl (.sendAckOther c num trivial)
  | takeOther num => exact .inl (.takeOther c num trivial)
  | applyCredit message => exact .inl (.applyCredit c message trivial)
  | sendDiscConf => exact .inl (.sendDiscConf c)
  | sendAckConn => exact .inl (.sendAckConn c)
  | confirmReject message opening =>
    exact .inl (.confirmReject c message opening trivial)
  | connectAcked opening => exact .inl (.connectAcked c opening)
  | accepted confirming => exact .inl (.accepted c confirming)
  | inactive running kind => exact .inl (.inactive c running kind)
  | stopTimer idle => exact .inl (.stopTimer c idle)
  | resend retries kind flying => exact .inl (.resend c retries kind flying)

theorem Shape.orderly_op (shape : c.Shape)
    (op : Op heeds c c') : ReflTransGen (Orderly config) c c' := by
  rcases noAck_op op with op | ⟨ack, onData, rfl⟩
  · refine .single ⟨.op _ _ op, ?_⟩
    cases does_op op with
    | receives _ _ sent =>
      rcases sent with same | ⟨f, one, answer⟩
      · exact .inl (paced_same same)
      · refine .inl (SendsOne.paced ⟨f, one, ?_⟩)
        unfold Frame.dataNumber
        split
        · rename_i segment data
          exact absurd data (answer.data segment)
        · rfl
    | routeAck _ _ heeded => exact heeded.elim
    | applyCredit message => exact .inl (shape.paced_applyCredit message)
    | confirmReject => exact .inl (SendsOne.paced ⟨_, rfl, rfl⟩)
    | connectAcked opening =>
      have early : c.Early := by simp [Early, opening]
      exact .inl (paced_same (shape.processAck_zero_outbox early))
    | accepted confirming =>
      have early : c.Early := by simp [Early, confirming]
      exact .inl (paced_same (shape.processAck_zero_outbox early))
    | stopTimer => exact .inl (paced_same rfl)
    | resend retries kind flying => exact .inr (shape.resends retries kind flying)
  · exact shape.orderly_routeAck ack onData

/-! ## Calls -/

theorem queueSegments_outbox (ps : List Piece) (c : Connection) :
    (ps.foldl queueSegment c).outbox = c.outbox := by
  induction ps generalizing c with
  | nil => rfl
  | cons piece ps ih => exact (ih _).trans rfl

theorem Shape.paced_sendData (shape : c.Shape) (data : Bytes) : Paced c (c.sendData data) := by
  by_cases state : c.state = .run
  · have lined : c.Lined := shape.resolve_right fun opening => opening.not_run state
    have queued := lined.queued_sendData data state
    have inRun : ¬ (!c.running) = true := by simp [running, state]
    rw [sendData, if_neg inRun]
    exact Shape.paced (.inl queued) (queueSegments_outbox _ _)
  · rw [sendData_of_not_run data c state]
    exact paced_same rfl

theorem Shape.paced_called (shape : c.Shape) (call : Call) :
    Paced c (World.called config call c) := by
  obtain ⟨c', same, outcome⟩ := World.called_outcome config call c
  rw [same]
  cases outcome with
  | ignored | unconfirmed => exact paced_same rfl
  | accepted | rejected | left | interrupted =>
    exact SendsOne.paced ⟨_, rfl, rfl⟩
  | sent link data => exact shape.paced_sendData data

theorem Shape.orderly_calls {ok : Call → Prop} (shape : c.Shape)
    (calls : Called config ok c c') : ReflTransGen (Orderly config) c c' := by
  induction calls with
  | refl => exact .refl
  | tail earlier last ih =>
    obtain ⟨call, _, rfl⟩ := last
    have still := shape.calls earlier
    exact ih.tail ⟨.call _ call, .inl (still.paced_called call)⟩

/-! ## Changes -/

theorem Shape.paced_confirm (shape : c.Shape) (early : c.Early)
    (message : ConnConf) : Paced c (c.confirm config message) := by
  obtain ⟨learned, aside, outbox, same⟩ := confirm_eq config message c
  have silent := (shape.aside aside).processAck_zero_outbox (early.aside aside)
  rw [outbox] at silent
  rcases same with same | same
  · rw [same]
    exact paced_same silent
  · rw [same]
    exact SendsOne.paced ⟨_, congrArg (· ++ [_]) silent, rfl⟩

theorem fixed_confirm (config : NspConfig) (message : ConnConf)
    (c : Connection) : Fixed c (c.confirm config message) := by
  obtain ⟨learned, aside, _, same⟩ := confirm_eq config message c
  have acked := aside.fixed.trans (fixed_sends (sends_processAck (Mod.wrap 0) learned))
  rcases same with same | same
  · rw [same]
    exact acked.trans (aside_timers true false _).fixed
  · rw [same]
    have told := acked.trans (aside_sendAck _).fixed
    exact told.trans (aside_timers true false _).fixed

theorem Shape.expiry
    (expiry : Expiry prepare) (shape : c.Shape) : (prepare c).Shape := by
  cases expiry with
  | none => exact shape
  | expired | exhausted => exact shape.aside ⟨rfl, rfl, rfl, rfl, rfl, rfl, rfl⟩

theorem change_qmax
    (change : Change heeds permits config c c') : c'.qmax = c.qmax := by
  refine change.keeps rfl ?_ ?_ ?_ ?_ ?_ ?_ ?_ ?_
  · exact fun _ _ op so => (keeps_op op).qmax.trans so
  · exact fun call d so => (called_qmax config call d).trans so
  · exact fun _ _ _ so => so
  · exact fun message d so => (fixed_confirm config message d).qmax.trans so
  · intro _ _ expiry so
    cases expiry <;> exact so
  · exact fun _ _ so => so
  · exact fun _ so => so
  · exact fun _ so => so

theorem Shape.not_waiting (shape : c.Shape)
    (live : (c.state ≠ .s0 ∧ c.state ≠ .cr ∧ c.state ≠ .cl) ∨ c.txq ≠ []) : c.state ≠ .cr := by
  rcases live with ⟨_, decided, _⟩ | queued
  · exact decided
  · intro waiting
    have early : c.Early := by simp [Early, waiting]
    rcases shape with lined | opening
    · have none := lined.early early
      have fits := lined.fits
      rw [none, Nat.le_zero, length_eq_zero_iff] at fits
      exact queued fits
    · exact opening.not_waiting waiting

theorem Orderly.quiet (tick : Tick config c c')
    (same : c'.outbox = c.outbox) : ReflTransGen (Orderly config) c c' :=
  .single ⟨tick, .inl (paced_same same)⟩

theorem orderly_noteEvent (upcall : Upcall) (c : Connection) :
    ReflTransGen (Orderly config) c (c.noteEvent upcall) :=
  Orderly.quiet (.noteEvent c upcall) rfl

theorem orderly_withState (next : ConnState) (c : Connection) :
    ReflTransGen (Orderly config) c (c.withState next) :=
  Orderly.quiet (.withState c next) rfl

theorem orderly_clearQueues (c : Connection) : ReflTransGen (Orderly config) c c.clearQueues :=
  Orderly.quiet (.clearQueues c) rfl

theorem orderly_noteClosing (c : Connection) : ReflTransGen (Orderly config) c c.noteClosing :=
  Orderly.quiet (.noteClosing c) rfl

theorem orderly_expiry (expiry : Expiry prepare) (c : Connection) :
    ReflTransGen (Orderly config) c (prepare c) := by
  refine Orderly.quiet (.expiry c prepare expiry) ?_
  cases expiry <;> rfl

theorem Shape.orderly_change (shape : c.Shape) (change : Change heeds permits config c c') :
    c'.Shape ∧ ReflTransGen (Orderly config) c c' := by
  cases change with
  | op _ op => exact ⟨(keeps_op op).shape shape, shape.orderly_op op⟩
  | call call =>
    exact ⟨shape.called, .single ⟨.call c call, .inl (shape.paced_called call)⟩⟩
  | inform _ upcall _ _ calls =>
    have noted := shape.noteEvent upcall
    exact ⟨noted.calls calls, (orderly_noteEvent upcall c).trans (noted.orderly_calls calls)⟩
  | confirmed inner message opening calls =>
    have early := early_of_opening opening
    have lined := shape.confirm early config message
    have confirmed : ReflTransGen (Orderly config) c (c.confirm config message) :=
      .single ⟨.confirm c message, .inl (shape.paced_confirm early message)⟩
    generalize c.confirm config message = answered at *
    have running := lined.withState .run (.inl rfl)
    have noted := running.noteEvent (.connectConfirmed message.dataCtl)
    obtain ⟨after, _⟩ := noted.calls ConnState.noConfusion calls
    refine ⟨.inl (after.withState .run (.inl rfl)), ?_⟩
    have entered := confirmed.trans (orderly_withState .run answered)
    have told := entered.trans (orderly_noteEvent (.connectConfirmed message.dataCtl) _)
    have made := told.trans (Shape.orderly_calls (.inl noted) calls)
    exact made.trans (orderly_withState .run inner)
  | refused inner reason data _ calls =>
    have noted := shape.noteEvent (.connectRejected reason data)
    refine ⟨.inl (noted.calls calls).closed, ?_⟩
    have told := (orderly_noteEvent _ c).trans (noted.orderly_calls calls)
    have cleared := told.trans (orderly_clearQueues inner)
    have closed := cleared.trans (orderly_noteClosing _)
    exact closed.trans (orderly_withState .cl _)
  | ended inner prepare reason data expiry live calls =>
    have decided : (prepare c).state ≠ .cr := by
      have still := shape.not_waiting live
      cases expiry <;> exact still
    have cleared : (prepare c).clearQueues.Lined :=
      (shape.expiry expiry).emptied.aside ⟨rfl, rfl, rfl, rfl, rfl, rfl, rfl⟩
    have noted := cleared.noteEvent (.disconnected reason data)
    obtain ⟨after, _⟩ := noted.calls decided calls
    have closing : inner.noteClosing.Lined := after.aside ⟨rfl, rfl, rfl, rfl, rfl, rfl, rfl⟩
    refine ⟨.inl (closing.withState .cl (.inr (.inr (.inl rfl)))), ?_⟩
    have emptied : ReflTransGen (Orderly config) c (prepare c).clearQueues :=
      (orderly_expiry expiry c).trans (orderly_clearQueues _)
    have told := emptied.trans (orderly_noteEvent (.disconnected reason data) _)
    have made := told.trans (Shape.orderly_calls (.inl noted) calls)
    have closed := made.trans (orderly_noteClosing inner)
    exact closed.trans (orderly_withState .cl _)
  | lapsed link _ _ =>
    have stopped : c.stopTimer.Shape := shape.aside ⟨rfl, rfl, rfl, rfl, rfl, rfl, rfl⟩
    refine ⟨stopped.called, ?_⟩
    refine (orderly_expiry .expired c).tail ⟨.call _ _, .inl ?_⟩
    exact stopped.paced_called _

/-! ## Whole runs -/

theorem lined_create (config : NspConfig) (addr : Nat) (dest : Nodeid) :
    (create config addr dest).Lined where
  nextSend := rfl
  nextSegnum := rfl
  messages := ⟨0, le_rfl, rfl, fun _ => forall_mem_nil _⟩
  fits := le_rfl
  slots := trivial
  order := .nil
  single := Nat.zero_le _
  early := fun _ => rfl

theorem aside_sendAckConn (c : Connection) : Aside c c.sendAckConn := by
  unfold sendAckConn
  split <;> exact ⟨rfl, rfl, rfl, rfl, rfl, rfl, rfl⟩

theorem Lined.connectReceived (lined : c.Lined) (none : c.queued = 0)
    (config : NspConfig) (message : ConnInit) : (c.connectReceived config message).Lined := by
  have learned : (c.learn config message.info message.srcaddr message.segsize message.fcopt).Lined :=
    lined.aside ⟨rfl, rfl, rfl, rfl, rfl, rfl, rfl⟩
  have acked := aside_sendAckConn
    (c.learn config message.info message.srcaddr message.segsize message.fcopt)
  have waiting := (learned.aside acked).aside (aside_timers true false _)
  exact waiting.withState .cr (.inr (.inr (.inr (acked.queued.trans none))))

theorem paced_connectReceived (config : NspConfig) (message : ConnInit)
    (c : Connection) : Paced c (c.connectReceived config message) := by
  unfold connectReceived sendAckConn
  dsimp only
  split
  · exact SendsOne.paced ⟨_, rfl, rfl⟩
  · exact paced_same rfl

/-- The limit of the queue, its shape, and what was sent since the link was
created. -/
structure Disciplined (config : NspConfig) (c : Connection) : Prop where
  qmax : c.qmax = config.qmax
  shape : c.Shape
  orderly : ∃ addr dest, ReflTransGen (Orderly config) (create config addr dest) c

theorem disciplined_begun
    (begun : Begun permits config c) : Disciplined config c := by
  cases begun with
  | outbound addr dest payload =>
    have started : Orderly config (create config addr dest)
        ((create config addr dest).startOutbound config payload) :=
      ⟨.startOutbound _ payload, .inl (SendsOne.paced ⟨_, rfl, rfl⟩)⟩
    refine ⟨rfl, .inr ?_, addr, dest, .single started⟩
    exact ⟨⟨_, rfl, rfl, rfl, rfl⟩, .inl rfl, rfl, rfl, rfl, rfl⟩
  | inbound addr src message _ calls =>
    have lined := (lined_create config addr src).connectReceived rfl config message
    have received : ReflTransGen (Orderly config) (create config addr src)
        ((create config addr src).connectReceived config message) :=
      .single ⟨.connectReceived _ message, .inl (paced_connectReceived config message _)⟩
    have told := received.trans (orderly_noteEvent (.connectReceived message.payload) _)
    have noted : Shape _ := .inl (lined.noteEvent (.connectReceived message.payload))
    constructor
    case qmax =>
      refine (calls_qmax calls).trans ?_
      exact (aside_sendAckConn _).qmax
    case shape => exact noted.calls calls
    case orderly =>
      exact ⟨addr, src, told.trans (noted.orderly_calls calls)⟩

theorem Disciplined.change (disciplined : Disciplined config c)
    (change : Change heeds permits config c c') : Disciplined config c' := by
  obtain ⟨addr, dest, earlier⟩ := disciplined.orderly
  obtain ⟨shape, later⟩ := disciplined.shape.orderly_change change
  exact ⟨(change_qmax change).trans disciplined.qmax, shape, addr, dest, earlier.trans later⟩

theorem countP_sent_le (holds : counted) {bound start : Nat}
    (slots : Numbered (Slot counted bound) start queue) :
    queue.countP (fun e => e.sent) ≤ bound - start := by
  induction queue generalizing start with
  | nil => exact Nat.zero_le _
  | cons e rest ih =>
    obtain ⟨slot, later⟩ := slots
    have rests := ih later
    rw [countP_cons]
    split
    · rename_i isSent
      have := slot.sent holds isSent
      omega
    · omega

theorem segnums_of_slots {bound start : Nat} (slots : Numbered (Slot counted bound) start queue)
    (few : start + queue.length ≤ 2 ^ 32) : queue.map segnum = range' start queue.length := by
  induction queue generalizing start with
  | nil => rfl
  | cons e rest ih =>
    obtain ⟨slot, later⟩ := slots
    rw [length_cons] at few ⊢
    rw [map_cons, slot.segnum, ih later (by omega), range'_succ, Nat.mod_eq_of_lt (by omega)]

theorem unsent_of_order (order : queue.Pairwise (Precedes counted)) :
    ∀ e ∈ queue.dropWhile (fun e => e.sent), e.sent = false := by
  induction queue with
  | nil => exact forall_mem_nil _
  | cons first rest ih =>
    obtain ⟨before, others⟩ := pairwise_cons.1 order
    cases isSent : first.sent with
    | true =>
      rw [dropWhile_cons_of_pos isSent]
      exact ih others
    | false =>
      have stops : ¬ first.sent = true := by simp [isSent]
      rw [dropWhile_cons_of_neg stops]
      intro e member
      rcases mem_cons.1 member with rfl | later
      · exact isSent
      · by_contra sent
        exact stops ((before e later).1 (by simpa using sent))

/-- The shape of a transmit queue as a reader of the queue sees it. -/
structure WellQueued (c : Connection) : Prop where
  consecutive : ∃ first, (c.txq.filter (fun e => e.isData)).map
    TxEntry.segnum = List.range' first (c.txq.filter (fun e => e.isData)).length
  sequence : ∀ e ∈ c.txq, e.isData = true → e.seq.value = e.segnum % 4096
  messages : ((c.txq.filter (fun e => e.isData)).map TxEntry.msgnum).Pairwise (· ≤ ·)
  sentFirst : ∀ e ∈ c.txq.dropWhile (fun e => e.sent), e.sent = false
  limited : c.inFlight ≤ c.qmax
  timedOnce : c.txq.countP (fun e => e.timed) ≤ 1

theorem Lined.wellQueued (lined : c.Lined) (few : c.Few)
    (positive : 1 ≤ c.qmax) : c.WellQueued := by
  have fits := lined.fits
  have slotted : ∀ e ∈ c.txq, ∃ number ≤ c.queued, e.Slot c.Few (c.front + c.span) number := by
    intro e member
    obtain ⟨number, _, below, slot⟩ := lined.slots.mem member
    refine ⟨number, ?_, slot⟩
    unfold front at below
    omega
  have allData : c.txq.filter (fun e => e.isData) = c.txq := by
    rw [filter_eq_self]
    intro e member
    obtain ⟨_, _, slot⟩ := slotted e member
    exact slot.isData
  unfold Few at few
  constructor
  case consecutive =>
    rw [allData]
    refine ⟨c.front, segnums_of_slots lined.slots ?_⟩
    unfold front
    omega
  case sequence =>
    intro e member _
    obtain ⟨number, queued, slot⟩ := slotted e member
    have unwrapped : e.segnum = number := by
      rw [slot.segnum, Nat.mod_eq_of_lt (by omega)]
    rw [slot.seq, unwrapped]
    rfl
  case messages =>
    rw [allData, pairwise_map]
    exact lined.order.imp fun precedes => precedes.2 few
  case sentFirst => exact unsent_of_order lined.order
  case limited =>
    have sent := countP_sent_le few lined.slots
    have span : c.span = c.qmax := Nat.max_eq_right positive
    unfold inFlight
    omega
  case timedOnce => exact lined.single

theorem Opening.wellQueued (opening : c.Opening) (positive : 1 ≤ c.qmax) : c.WellQueued := by
  obtain ⟨e, queue, isData, _, isSent⟩ := opening.entry
  have noData : c.txq.filter (fun e => e.isData) = [] := by
    simp [queue, isData]
  constructor
  case consecutive => exact ⟨0, by rw [noData]; rfl⟩
  case sequence =>
    intro x member data
    rw [queue, mem_singleton] at member
    rw [member, isData] at data
    cases data
  case messages =>
    rw [noData]
    exact .nil
  case sentFirst =>
    rw [queue]
    simp [isSent]
  case limited =>
    unfold inFlight
    rw [queue]
    simpa [isSent] using positive
  case timedOnce =>
    rw [queue]
    exact countP_le_length

end Paced

end Connection

namespace World

variable {τ : Type*} {sc : SessionControl τ}

def resending : List (Input Unit) :=
  [.act (.connect 1025 []), .deliver 1025 (.connConf ⟨1, 7, svcNone, 2, 500, []⟩),
    .act (.sendData 0 [5, 6]), .expire 0]

end World

end Decnet.Nsp
