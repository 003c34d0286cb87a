import Decnet.Nsp.Changes
import Decnet.Nsp.Sender

/-!
# The shape of the transmit queue

While a link is being opened its transmit queue holds at most the connect
message.  From then on it holds data segments with consecutive numbers, sent
ones before unsent ones, and every segment that goes out is one that flow
control allows, except the oldest one after a timeout.
-/

namespace Decnet.Nsp

open Relation Connection TxEntry World List

/-- What `config.cc` accepts for `--qmax`. -/
def NspConfig.QmaxInRange (config : NspConfig) : Prop :=
  1 ≤ config.qmax ∧ config.qmax ≤ 4095

/-- A queue entry for data segment `number`.  Where segment numbers cannot have
wrapped, `counted`, entries that are sent are below a bound. -/
structure TxEntry.Slot (counted : Prop) (bound number : Nat) (e : TxEntry) : Prop where
  seq : e.seq = Mod.wrap number
  segnum : e.segnum = number % 2 ^ 32
  isData : e.isData = true
  sent : counted → e.sent = true → number < bound
  timed : e.timed = true → e.sent = true

/-- The first of two entries is sent before the second and belongs to the same
message or an earlier one. -/
def TxEntry.Precedes (counted : Prop) (e later : TxEntry) : Prop :=
  (later.sent = true → e.sent = true) ∧ (counted → e.msgnum ≤ later.msgnum)

theorem TxEntry.Slot.mono {counted fewer : Prop} {bound number : Nat}
    {e : TxEntry} (slot : e.Slot counted bound number)
    (weaker : fewer → counted) : e.Slot fewer bound number :=
  { slot with sent := fun few => slot.sent (weaker few) }

section

variable {counted : Prop} {bound number : Nat} {e : TxEntry} (slot : e.Slot counted bound number)

include slot

theorem TxEntry.Slot.unsend : (unsend e).Slot counted bound number := by
  unfold Connection.unsend
  split
  · exact { slot with
      sent := fun _ again => absurd again Bool.false_ne_true
      timed := fun again => absurd again Bool.false_ne_true }
  · exact slot

theorem TxEntry.Slot.cleared :
    (Connection.unsend e).sent = false ∧ (Connection.unsend e).timed = false := by
  have untimed := slot.timed
  cases sent : e.sent with
  | false =>
    rw [sent] at untimed
    have : e.timed = false := by simpa using untimed
    simp [Connection.unsend, sent, this]
  | true => simp [Connection.unsend, sent, slot.isData]

end

namespace Connection

def Early (c : Connection) : Prop :=
  c.state ≠ .run ∧ c.state ≠ .di ∧ c.state ≠ .cl

theorem early_of_opening {c : Connection} (opening : c.state = .ci ∨ c.state = .cd) : c.Early := by
  rcases opening with state | state <;> simp [Early, state]

def Few (c : Connection) : Prop :=
  c.queued < 2 ^ 32

/-- A transmit queue of data segments. -/
structure Lined (c : Connection) : Prop where
  nextSend : c.nextSend = Mod.wrap (c.queued + 1)
  nextSegnum : c.nextSegnum = (c.queued + 1) % 2 ^ 32
  messages : ∃ count, count ≤ c.queued ∧ c.nextMsgnum = (count + 1) % 2 ^ 32 ∧
      (c.Few → ∀ e ∈ c.txq, e.msgnum ≤ count + 1)
  fits : c.txq.length ≤ c.queued
  slots : Numbered (TxEntry.Slot c.Few (c.front + c.span)) c.front c.txq
  order : c.txq.Pairwise (TxEntry.Precedes c.Few)
  single : c.txq.countP (fun e => e.timed) ≤ 1
  early : c.Early → c.queued = 0

/-- A transmit queue that holds the connect message. -/
structure Opening (c : Connection) : Prop where
  entry : ∃ e, c.txq = [e] ∧ e.isData = false ∧ e.seq = Mod.wrap 0 ∧ e.sent = true
  state : c.state = .ci ∨ c.state = .cc ∨ c.state = .di
  nextSend : c.nextSend = Mod.wrap 1
  nextSegnum : c.nextSegnum = 1
  nextMsgnum : c.nextMsgnum = 1
  queued : c.queued = 0

def Shape (c : Connection) : Prop :=
  c.Lined ∨ c.Opening

/-- A change that leaves the transmit queue and its numbers alone. -/
structure Aside (c c' : Connection) : Prop where
  nextSend : c'.nextSend = c.nextSend
  nextSegnum : c'.nextSegnum = c.nextSegnum
  nextMsgnum : c'.nextMsgnum = c.nextMsgnum
  queued : c'.queued = c.queued
  qmax : c'.qmax = c.qmax
  txq : c'.txq = c.txq
  state : c'.state = c.state

section Lined

variable {c c' : Connection}

theorem Lined.aside (lined : c.Lined) (aside : Aside c c') : c'.Lined := by
  have front : c'.front = c.front := by
    rw [front, front, aside.queued, aside.txq]
  have span : c'.span = c.span := by
    rw [span, span, aside.qmax]
  have few : c'.Few = c.Few := by
    rw [Few, Few, aside.queued]
  constructor
  case nextSend => rw [aside.nextSend, aside.queued]; exact lined.nextSend
  case nextSegnum =>
    rw [aside.nextSegnum, aside.queued]
    exact lined.nextSegnum
  case messages =>
    rw [few, aside.queued, aside.nextMsgnum, aside.txq]
    exact lined.messages
  case fits => rw [aside.txq, aside.queued]; exact lined.fits
  case slots => rw [few, front, span, aside.txq]; exact lined.slots
  case order => rw [few, aside.txq]; exact lined.order
  case single => rw [aside.txq]; exact lined.single
  case early =>
    rw [Early, aside.state, aside.queued]
    exact lined.early

theorem Opening.aside (opening : c.Opening) (aside : Aside c c') : c'.Opening where
  entry := by rw [aside.txq]; exact opening.entry
  state := by rw [aside.state]; exact opening.state
  nextSend := aside.nextSend.trans opening.nextSend
  nextSegnum := aside.nextSegnum.trans opening.nextSegnum
  nextMsgnum := aside.nextMsgnum.trans opening.nextMsgnum
  queued := aside.queued.trans opening.queued

theorem Shape.aside (shape : c.Shape) (aside : Aside c c') : c'.Shape :=
  shape.imp (fun lined => lined.aside aside) (fun opening => opening.aside aside)

theorem Lined.pop (lined : c.Lined) (take : TxEntry → Bool) :
    { c with txq := c.txq.dropWhile take }.Lined := by
  have remains := dropWhile_sublist take (l := c.txq)
  refine { lined with
    messages := ?_, fits := ?_, slots := ?_, order := ?_, single := ?_ }
  · obtain ⟨count, bound, next, below⟩ := lined.messages
    exact ⟨count, bound, next, fun few e member => below few e (remains.subset member)⟩
  · exact remains.length_le.trans lined.fits
  · rw [front_dropWhile lined.fits]
    refine (lined.slots.dropWhile take).mono ?_
    intro number e slot
    refine { slot with sent := fun few isSent => ?_ }
    have := slot.sent few isSent
    show number < _ + c.span
    omega
  · exact lined.order.sublist remains
  · exact (remains.countP_le).trans lined.single

theorem Lined.requeue (lined : c.Lined) {entries : List TxEntry}
    (marks : entries.map unmarked = c.txq.map unmarked)
    (slots : Numbered (Slot c.Few (c.front + c.span)) c.front entries)
    (order : entries.Pairwise (Precedes c.Few)) (single : entries.countP (fun e => e.timed) ≤ 1) :
    { c with txq := entries }.Lined := by
  have same := length_unmarked marks
  have sameFront : ({ c with txq := entries } : Connection).front = c.front := by
    unfold front
    rw [same]
  refine { lined with
    messages := ?_, fits := ?_, slots := ?_, order := order, single := single }
  · obtain ⟨count, bound, next, below⟩ := lined.messages
    refine ⟨count, bound, next, ?_⟩
    intro few e member
    obtain ⟨old, present, unmarked⟩ := exists_unmarked marks member
    have msgnum : old.msgnum = e.msgnum := (congrArg msgnum unmarked :)
    rw [← msgnum]
    exact below few old present
  · exact same.le.trans lined.fits
  · rw [sameFront]
    exact slots

/-! ## Sending what flow control allows -/

variable {bound : Nat} {counted : Prop} {queue : List TxEntry} {call : Call}
  {config : NspConfig} {ok : Call → Prop}

theorem Lined.flowOk_lt (lined : c.Lined) (few : c.Few)
    {number : Nat} {e : TxEntry} (present : e ∈ c.txq)
    (slot : e.Slot counted bound number) (queued : number ≤ c.queued)
    (allowed : c.flowOk e = true) : number < c.front + c.span := by
  cases shape : c.txq with
  | nil =>
    rw [shape] at present
    cases present
  | cons oldest rest =>
    have slots := lined.slots
    have fits := lined.fits
    rw [shape] at slots fits
    have first := slots.1.segnum
    have segnum := slot.segnum
    have inWindow := flowOk_segnum allowed slot.isData shape
    have spans := c.window_le_span
    unfold Few at few
    omega

/-- The loop of `send_blocked` keeps entries in order; it times at most one
more, and none if one is being timed. -/
theorem sendBlockedLoop_lined {start last : Nat} (timing : Bool)
    (allowed : counted → ∀ number ≤ last, ∀ e ∈ queue,
      e.Slot counted bound number → c.flowOk e = true → number < bound)
    (ends : start + queue.length ≤ last + 1) (slots : Numbered (Slot counted bound) start queue)
    (order : queue.Pairwise (Precedes counted)) :
    Numbered (Slot counted bound) start (c.sendBlockedLoop timing queue).1 ∧
      (c.sendBlockedLoop timing queue).1.Pairwise (Precedes counted) ∧
      (c.sendBlockedLoop timing queue).1.countP (fun e => e.timed) ≤
        queue.countP (fun e => e.timed) + (if timing then 0 else 1) := by
  induction queue generalizing start timing with
  | nil => exact ⟨trivial, .nil, Nat.zero_le _⟩
  | cons e rest ih =>
    obtain ⟨slot, later⟩ := slots
    obtain ⟨first, others⟩ := pairwise_cons.1 order
    rw [length_cons] at ends
    have endsLater : start + 1 + rest.length ≤ last + 1 := by omega
    have allowedLater := fun few number low e member =>
      allowed few number low e (mem_cons_of_mem _ member)
    have precedes {sent timed timing : Bool} (isSent : sent = true) :
        ∀ x ∈ (c.sendBlockedLoop timing rest).1,
          ({ e with sent := sent, timed := timed } : TxEntry).Precedes counted x := by
      intro x member
      obtain ⟨old, present, same⟩ := exists_unmarked (sendBlockedLoop_unmarked c timing rest) member
      have msgnum : old.msgnum = x.msgnum := (congrArg msgnum same :)
      exact ⟨fun _ => isSent, msgnum ▸ (first old present).2⟩
    rw [sendBlockedLoop]
    split
    next isSent =>
      obtain ⟨slots, sorted, timed⟩ := ih timing allowedLater endsLater later others
      refine ⟨⟨slot, slots⟩, pairwise_cons.2 ⟨?_, sorted⟩, ?_⟩
      · exact precedes isSent
      · simp only [countP_cons]
        omega
    · split
      next notSent passes =>
        obtain ⟨slots, sorted, timed⟩ := ih true allowedLater endsLater later others
        have below (few : counted) : start < bound :=
          allowed few start (by omega) e mem_cons_self slot passes
        have untimed : e.timed = false := by
          by_contra isTimed
          exact notSent (slot.timed (by simpa using isTimed))
        refine ⟨⟨?_, slots⟩, pairwise_cons.2 ⟨?_, sorted⟩, ?_⟩
        · exact { slot with
            sent := fun few _ => below few, timed := fun _ => rfl }
        · exact precedes rfl
        · rw [if_pos rfl] at timed
          cases timing <;> simp only [countP_cons, untimed, Bool.not_true,
              Bool.not_false, Bool.or_false, if_true, if_false, Bool.false_eq_true] <;> omega
      next => exact ⟨⟨slot, later⟩, order, Nat.le_add_right _ _⟩

theorem Lined.sendBlocked (lined : c.Lined) : c.sendBlocked.Lined := by
  have allowed : c.Few → ∀ number ≤ c.queued, ∀ e ∈ c.txq,
      e.Slot c.Few (c.front + c.span) number → c.flowOk e = true →
        number < c.front + c.span := fun few _ low _ member slot passes =>
    lined.flowOk_lt few member slot low passes
  have fits := lined.fits
  have ends : c.front + c.txq.length ≤ c.queued + 1 := by
    unfold front
    omega
  obtain ⟨slots, order, timed⟩ :=
    sendBlockedLoop_lined (c.txq.any (fun e => e.timed)) allowed ends lined.slots lined.order
  have single : (c.sendBlockedLoop (c.txq.any (fun e => e.timed))
      c.txq).1.countP (fun e => e.timed) ≤ 1 := by
    refine timed.trans ?_
    split
    · exact lined.single
    · rename_i none
      have zero : c.txq.countP (fun e => e.timed) = 0 := by
        rw [countP_eq_zero]
        intro e member isTimed
        exact none (any_eq_true.2 ⟨e, member, isTimed⟩)
      omega
  have sent := lined.requeue (sendBlockedLoop_unmarked c _ _) slots order single
  refine sent.aside ?_
  unfold Connection.sendBlocked
  dsimp only
  split <;> exact ⟨rfl, rfl, rfl, rfl, rfl, rfl, rfl⟩

theorem Opening.sendBlocked (opening : c.Opening) : c.sendBlocked.Opening := by
  obtain ⟨e, queue, _, _, isSent⟩ := opening.entry
  have nothing (timing : Bool) : c.sendBlockedLoop timing c.txq = (c.txq, []) := by
    rw [queue]
    simp [sendBlockedLoop, isSent]
  have idle : c.sendBlocked = c := by
    simp [Connection.sendBlocked, nothing]
  rw [idle]
  exact opening

theorem Shape.sendBlocked (shape : c.Shape) : c.sendBlocked.Shape :=
  shape.imp Lined.sendBlocked Opening.sendBlocked

theorem Shape.emptied (shape : c.Shape) : { c with txq := [] }.Lined := by
  rcases shape with lined | opening
  · obtain ⟨count, bound, next, _⟩ := lined.messages
    refine { lined with
      messages := ⟨count, bound, next, fun _ => forall_mem_nil _⟩
      fits := Nat.zero_le _, slots := trivial, order := .nil
      single := Nat.zero_le _ }
  · constructor
    case nextSend => rw [opening.queued]; exact opening.nextSend
    case nextSegnum => rw [opening.queued]; exact opening.nextSegnum
    case messages =>
      exact ⟨0, Nat.zero_le _, opening.nextMsgnum, fun _ => forall_mem_nil _⟩
    case fits => exact Nat.zero_le _
    case slots => trivial
    case order => exact .nil
    case single => exact Nat.zero_le _
    case early => exact fun _ => opening.queued

/-! ## Acknowledgements -/

theorem Shape.pop (shape : c.Shape) (take : TxEntry → Bool) :
    { c with txq := c.txq.dropWhile take }.Shape := by
  rcases shape with lined | opening
  · exact .inl (lined.pop take)
  · obtain ⟨e, queue, _⟩ := opening.entry
    cases taken : take e with
    | true =>
      have none : c.txq.dropWhile take = [] := by simp [queue, taken]
      rw [none]
      exact .inl (Shape.emptied (.inr opening))
    | false =>
      have same : c.txq.dropWhile take = c.txq := by simp [queue, taken]
      rw [same]
      exact .inr opening

theorem Shape.processAck (shape : c.Shape) (num : Seq) : (c.processAck num).Shape := by
  obtain ⟨segnum, cwnd, nak, retries, isRetransmit, timer, same⟩ := processAck_eq num c
  rw [same]
  refine Shape.sendBlocked ((shape.pop (acknowledges num)).aside ?_)
  exact ⟨rfl, rfl, rfl, rfl, rfl, rfl, rfl⟩

theorem Lined.processAck (lined : c.Lined) (num : Seq) : (c.processAck num).Lined := by
  obtain ⟨segnum, cwnd, nak, retries, isRetransmit, timer, same⟩ := processAck_eq num c
  rw [same]
  refine Lined.sendBlocked ((lined.pop (acknowledges num)).aside ?_)
  exact ⟨rfl, rfl, rfl, rfl, rfl, rfl, rfl⟩

theorem Shape.dropWhile_zero (shape : c.Shape) (early : c.Early) :
    c.txq.dropWhile (acknowledges (Mod.wrap 0)) = [] := by
  rcases shape with lined | opening
  · have none : c.txq = [] := by
      rw [← length_eq_zero_iff]
      have := lined.fits
      have := lined.early early
      omega
    rw [none]
    rfl
  · obtain ⟨e, queue, _, seq, isSent⟩ := opening.entry
    rw [queue]
    simp [acknowledges, seq, isSent, Mod.less]

theorem Shape.processAck_zero (shape : c.Shape) (early : c.Early) :
    (c.processAck (Mod.wrap 0)).Lined := by
  obtain ⟨segnum, cwnd, nak, retries, isRetransmit, timer, same⟩ := processAck_eq (Mod.wrap 0) c
  rw [same, shape.dropWhile_zero early]
  refine Lined.sendBlocked (shape.emptied.aside ?_)
  exact ⟨rfl, rfl, rfl, rfl, rfl, rfl, rfl⟩

theorem unsend_lined {start : Nat} (slots : Numbered (Slot counted bound) start queue)
    (order : queue.Pairwise (Precedes counted)) :
    Numbered (Slot counted bound) start (queue.map unsend) ∧
      (queue.map unsend).Pairwise (Precedes counted) ∧
      (queue.map unsend).countP (fun e => e.timed) = 0 := by
  have cleared (e : TxEntry) (member : e ∈ queue) :
      (unsend e).sent = false ∧ (unsend e).timed = false := by
    obtain ⟨_, _, _, slot⟩ := slots.mem member
    exact slot.cleared
  refine ⟨slots.map fun _ _ slot => slot.unsend, ?_, ?_⟩
  · rw [pairwise_map]
    refine order.imp_of_mem ?_
    intro e later _ present precedes
    refine ⟨fun isSent => ?_, ?_⟩
    · rw [(cleared later present).1] at isSent
      cases isSent
    · rw [unsend_msgnum, unsend_msgnum]
      exact precedes.2
  · rw [countP_eq_zero]
    refine forall_mem_map.2 fun e member => ?_
    simp [(cleared e member).2]

theorem Lined.marked (lined : c.Lined) : { c with txq := c.txq.map unsend }.Lined := by
  obtain ⟨slots, order, untimed⟩ := unsend_lined lined.slots lined.order
  exact lined.requeue (map_unsend_unmarked _) slots order (by omega)

theorem Opening.marked (opening : c.Opening) : { c with txq := c.txq.map unsend }.Opening := by
  obtain ⟨e, queue, isData, _⟩ := opening.entry
  have same : c.txq.map unsend = c.txq := by
    simp [queue, unsend, isData]
  exact opening.aside ⟨rfl, rfl, rfl, rfl, rfl, same, rfl⟩

theorem Shape.processNak (shape : c.Shape) : c.processNak.Shape := by
  have marked : { c with txq := c.txq.map unsend }.Shape := shape.imp Lined.marked Opening.marked
  rcases processNak_cases c with same | ⟨_, _, _, same⟩
  · rw [same]
    exact shape
  · rw [same]
    refine Shape.sendBlocked (marked.aside ?_)
    exact ⟨rfl, rfl, rfl, rfl, rfl, rfl, rfl⟩

theorem Shape.routeAck (shape : c.Shape) (ack : Option AckNum)
    (onData : Bool) : (c.routeAck ack onData).Shape := by
  generalize after : c.routeAck ack onData = c'
  cases after ▸ routed ack onData c with
  | none => exact shape
  | other => exact shape.aside ⟨rfl, rfl, rfl, rfl, rfl, rfl, rfl⟩
  | data field => exact shape.processAck field.num
  | nak field => exact (shape.processAck field.num).processNak

/-! ## Credit -/

theorem Shape.applyCredit (shape : c.Shape) (message : LinkSvcMsg) :
    (c.applyCredit message).Shape := by
  obtain ⟨granted, same⟩ := applyCredit_cases message c
  have given : (c.withCredit granted).Shape := shape.aside ⟨rfl, rfl, rfl, rfl, rfl, rfl, rfl⟩
  rcases same with same | same
  · exact same ▸ given
  · exact same ▸ given.sendBlocked

/-! ## Timeouts -/

theorem resendQueue_unsent (unsent : ∀ e ∈ queue, ¬ e.sent = true) :
    (resendQueue queue).1 = queue := by
  induction queue with
  | nil => rfl
  | cons e rest ih =>
    have later := ih fun x member => unsent x (mem_cons_of_mem _ member)
    rw [resendQueue, if_neg (unsent e mem_cons_self)]
    dsimp only
    rw [later]

/-- A timeout leaves one entry sent, the oldest, if any is. -/
theorem resendQueue_cases {start : Nat} (slots : Numbered (Slot counted bound) start queue)
    (order : queue.Pairwise (Precedes counted)) :
    (resendQueue queue).1 = queue ∨ ∃ e rest, queue = e :: rest ∧ e.sent = true ∧
      (resendQueue queue).1 = { e with timed := false } :: rest.map unsend := by
  cases queue with
  | nil => exact .inl rfl
  | cons e rest =>
    by_cases isSent : e.sent = true
    · refine .inr ⟨e, rest, rfl, isSent, ?_⟩
      rw [resendQueue, if_pos isSent]
      refine congrArg (_ :: ·) (map_congr_left fun x member => ?_)
      obtain ⟨_, _, _, slot⟩ := slots.2.mem member
      simp [unsend, slot.isData]
    · -- Nothing after an unsent entry is sent.
      refine .inl (resendQueue_unsent (forall_mem_cons.2 ⟨isSent, ?_⟩))
      exact fun x member again => isSent (((pairwise_cons.1 order).1 x member).1 again)

theorem Lined.resend (lined : c.Lined) : c.resend.Lined := by
  have queue : { c with txq := (resendQueue c.txq).1 }.Lined := by
    rcases resendQueue_cases lined.slots lined.order with
      same | ⟨e, rest, queue, isSent, same⟩
    · rw [same]
      exact lined
    · have slots := lined.slots
      have order := lined.order
      rw [queue] at slots order
      obtain ⟨slot, later⟩ := slots
      obtain ⟨first, others⟩ := pairwise_cons.1 order
      obtain ⟨unsent, sorted, untimed⟩ := unsend_lined later others
      rw [same]
      refine lined.requeue ?_ ⟨{ slot with timed := fun _ => isSent }, unsent⟩
        (pairwise_cons.2 ⟨forall_mem_map.2 ?_, sorted⟩) (by simp [untimed])
      · rw [queue]
        exact congrArg (_ :: ·) (map_unsend_unmarked rest)
      · intro old present
        refine ⟨fun _ => isSent, ?_⟩
        rw [unsend_msgnum]
        exact (first old present).2
  exact queue.aside ⟨rfl, rfl, rfl, rfl, rfl, rfl, rfl⟩

theorem Opening.resend (opening : c.Opening) : c.resend.Opening := by
  obtain ⟨e, queue, isData, seq, isSent⟩ := opening.entry
  refine { opening with entry := ?_ }
  refine ⟨{ e with timed := false }, ?_, isData, seq, isSent⟩
  simp [Connection.resend, queue, resendQueue, isSent]

/-! ## Queueing segments -/

theorem Lined.queueSegment (lined : c.Lined) (opened : ¬ c.Early)
    (piece : Piece) : (c.queueSegment piece).Lined := by
  have fits := lined.fits
  obtain ⟨count, bound, next, below⟩ := lined.messages
  have before (few : (c.queueSegment piece).Few) : c.Few := Nat.lt_of_succ_lt few
  have nextMsgnum (few : (c.queueSegment piece).Few) : c.nextMsgnum = count + 1 := by
    have : c.queued + 1 < 2 ^ 32 := few
    rw [next, Nat.mod_eq_of_lt (by omega)]
  obtain ⟨sameFront, start⟩ := front_queueSegment fits piece
  constructor
  case nextSend =>
    show c.nextSend.succ = _
    rw [lined.nextSend, Mod.succ_wrap]
    rfl
  case nextSegnum =>
    show (c.nextSegnum + 1) % 2 ^ 32 = (c.queued + 1 + 1) % 2 ^ 32
    rw [lined.nextSegnum, Nat.mod_add_mod]
  case messages =>
    have entries (few : (c.queueSegment piece).Few) :
        ∀ e ∈ (c.queueSegment piece).txq, e.msgnum ≤ count + 1 := by
      intro e member
      rcases mem_append.1 member with old | new
      · exact below (before few) e old
      · rw [mem_singleton.1 new]
        exact (nextMsgnum few).le
    cases ends : piece.eom with
    | true =>
      refine ⟨count + 1, Nat.succ_le_succ bound, ?_,
        fun few e member => (entries few e member).trans (Nat.le_succ _)⟩
      simp only [Connection.queueSegment, ends, if_true, next, Nat.mod_add_mod]
    | false =>
      refine ⟨count, bound.trans (Nat.le_succ _), ?_, entries⟩
      simp only [Connection.queueSegment, ends, Bool.false_eq_true, if_false, next]
  case fits =>
    simp only [Connection.queueSegment, length_append, length_singleton]
    omega
  case slots =>
    rw [sameFront]
    refine Numbered.append.2 ⟨?_, ⟨?_, trivial⟩⟩
    · exact lined.slots.mono fun _ _ slot => slot.mono before
    · rw [start]
      exact ⟨lined.nextSend, lined.nextSegnum, rfl,
        fun _ early => absurd early Bool.false_ne_true,
        fun early => absurd early Bool.false_ne_true⟩
  case order =>
    have earlier : c.txq.Pairwise (Precedes (c.queueSegment piece).Few) :=
      lined.order.imp fun precedes => ⟨precedes.1, fun few => precedes.2 (before few)⟩
    refine pairwise_append.2 ⟨earlier, pairwise_singleton _ _, ?_⟩
    intro e member new isNew
    rw [mem_singleton.1 isNew]
    refine ⟨fun early => absurd early Bool.false_ne_true, ?_⟩
    intro few
    rw [nextMsgnum few]
    exact below (before few) e member
  case single =>
    simp only [Connection.queueSegment, countP_append]
    exact lined.single
  case early => exact fun early => absurd early opened

theorem Lined.queueSegments (ps : List Piece) (lined : c.Lined)
    (opened : ¬ c.Early) : (ps.foldl Connection.queueSegment c).Lined := by
  induction ps generalizing c with
  | nil => exact lined
  | cons piece ps ih => exact ih (lined.queueSegment opened piece) opened

/-- A change that queues nothing and keeps the limit of the queue. -/
structure Fixed (c c' : Connection) : Prop where
  queued : c'.queued = c.queued
  qmax : c'.qmax = c.qmax

theorem Fixed.trans {c'' : Connection} (first : Fixed c c') (second : Fixed c' c'') : Fixed c c'' :=
  ⟨second.queued.trans first.queued, second.qmax.trans first.qmax⟩

theorem fixed_sends (sends : Sends c c') : Fixed c c' := by
  obtain ⟨half, rfl, _⟩ := sends
  exact ⟨rfl, rfl⟩

theorem Lined.queued_sendData (lined : c.Lined) (data : Bytes) (state : c.state = .run) :
    ((pieces c.segmentLimit data).foldl Connection.queueSegment
      { c with submitted := c.submitted ++ [data] }).Lined := by
  have submitted : { c with submitted := c.submitted ++ [data] }.Lined :=
    lined.aside ⟨rfl, rfl, rfl, rfl, rfl, rfl, rfl⟩
  exact submitted.queueSegments _ fun early => early.1 state

theorem Lined.sendData (lined : c.Lined) (data : Bytes) : (c.sendData data).Lined := by
  by_cases state : c.state = .run
  · have inRun : ¬ (!c.running) = true := by simp [Connection.running, state]
    have queued := lined.queued_sendData data state
    rw [Connection.sendData, if_neg inRun]
    exact queued.sendBlocked
  · rw [sendData_of_not_run data c state]
    exact lined

theorem Opening.not_run (opening : c.Opening) : c.state ≠ .run := by
  rcases opening.state with state | state | state <;> simp [state]

theorem Opening.not_waiting (opening : c.Opening) : c.state ≠ .cr := by
  rcases opening.state with state | state | state <;> simp [state]

/-! ## Operations, calls and changes -/

theorem Lined.withState (lined : c.Lined) (next : ConnState)
    (late : next = .run ∨ next = .di ∨ next = .cl ∨ c.queued = 0) : (c.withState next).Lined := by
  refine { lined with early := ?_ }
  intro early
  rcases late with rfl | rfl | rfl | none
  · exact absurd rfl early.1
  · exact absurd rfl early.2.1
  · exact absurd rfl early.2.2
  · exact none

theorem Shape.queued_early (shape : c.Shape) (early : c.Early) : c.queued = 0 := by
  rcases shape with lined | opening
  · exact lined.early early
  · exact opening.queued

theorem fixed_withState (next : ConnState) (c : Connection) : Fixed c (c.withState next) :=
  ⟨rfl, rfl⟩

theorem fixed_applyCredit (message : LinkSvcMsg) (c : Connection) :
    Fixed c (c.applyCredit message) := by
  obtain ⟨granted, sends⟩ := sends_applyCredit message c
  have given : Fixed c (c.withCredit granted) := ⟨rfl, rfl⟩
  exact given.trans (fixed_sends sends)

structure Keeps (c c' : Connection) : Prop extends Fixed c c' where
  shape : c.Shape → c'.Shape

theorem Aside.fixed (aside : Aside c c') : Fixed c c' :=
  ⟨aside.queued, aside.qmax⟩

theorem Aside.keeps (aside : Aside c c') : Keeps c c' :=
  ⟨aside.fixed, fun shape => shape.aside aside⟩

theorem Keeps.trans {c'' : Connection} (first : Keeps c c') (second : Keeps c' c'') : Keeps c c'' :=
  ⟨first.toFixed.trans second.toFixed, fun shape => second.shape (first.shape shape)⟩

theorem aside_timers (timer isRetransmit : Bool) (c : Connection) :
    Aside c { c with timer := timer, timerIsRetransmit := isRetransmit } :=
  ⟨rfl, rfl, rfl, rfl, rfl, rfl, rfl⟩

theorem aside_sendAck (c : Connection) : Aside c c.sendAck :=
  ⟨rfl, rfl, rfl, rfl, rfl, rfl, rfl⟩

theorem Shape.connectAcked (shape : c.Shape) (early : c.Early) :
    (c.connectAcked.withState .cd).Lined := by
  have acked : c.connectAcked.Lined :=
    (shape.processAck_zero early).aside (aside_timers true false _)
  refine acked.withState .cd (.inr (.inr (.inr ?_)))
  simp only [Connection.connectAcked, (fixed_sends (sends_processAck _ c)).queued]
  exact shape.queued_early early

theorem keeps_op {heeds : Heeds} (op : Op heeds c c') : Keeps c c' := by
  cases does_op op with
  | receives | confirmReject | stopTimer =>
    exact Aside.keeps ⟨rfl, rfl, rfl, rfl, rfl, rfl, rfl⟩
  | routeAck ack onData _ =>
    exact ⟨fixed_sends (sends_routeAck ack onData c), fun shape => shape.routeAck _ _⟩
  | applyCredit message =>
    exact ⟨fixed_applyCredit message c, fun shape => shape.applyCredit _⟩
  | connectAcked opening =>
    have early : c.Early := by simp [Early, opening]
    have acked : Fixed c c.connectAcked :=
      (fixed_sends (sends_processAck _ c)).trans (aside_timers true false _).fixed
    exact ⟨acked.trans (fixed_withState .cd _), fun shape => .inl (shape.connectAcked early)⟩
  | accepted confirming =>
    have early : c.Early := by simp [Early, confirming]
    have acked := fixed_sends (sends_processAck (Mod.wrap 0) c)
    refine ⟨acked.trans (fixed_withState .run _), fun shape => .inl ?_⟩
    exact (shape.processAck_zero early).withState .run (.inl rfl)
  | resend retries =>
    have stopped : Keeps c (c.stopTimer.setRetries retries) :=
      Aside.keeps ⟨rfl, rfl, rfl, rfl, rfl, rfl, rfl⟩
    exact stopped.trans ⟨⟨rfl, rfl⟩, fun shape => shape.imp Lined.resend Opening.resend⟩

theorem Shape.closed (shape : c.Shape) : (c.clearQueues.noteClosing.withState .cl).Lined := by
  have cleared : c.clearQueues.noteClosing.Lined :=
    shape.emptied.aside ⟨rfl, rfl, rfl, rfl, rfl, rfl, rfl⟩
  exact cleared.withState .cl (.inr (.inr (.inl rfl)))

theorem Shape.accept (shape : c.Shape) (config : NspConfig) (data : Bytes)
    (fcopt : Nat) : (c.accept config data fcopt).Shape := by
  unfold Connection.accept
  split
  · exact shape
  · rename_i waiting
    have state : c.state = .cr := by simpa using waiting
    have early : c.Early := by simp [Early, state]
    have none := shape.queued_early early
    have lined : c.Lined := shape.resolve_right fun opening => opening.not_waiting state
    have empty : c.txq = [] := by
      have := lined.fits
      rw [← length_eq_zero_iff]
      omega
    split
    · exact .inl (lined.withState .cc (.inr (.inr (.inr none))))
    · refine .inr ⟨?_, .inr (.inl rfl), ?_, ?_, ?_, none⟩
      · simp only [empty]
        exact ⟨_, rfl, rfl, rfl, rfl⟩
      · have nextSend := lined.nextSend
        rw [none] at nextSend
        exact nextSend
      · have nextSegnum := lined.nextSegnum
        rw [none] at nextSegnum
        exact nextSegnum
      · obtain ⟨count, bound, next, _⟩ := lined.messages
        have zero : count = 0 := by omega
        rw [zero] at next
        exact next

theorem called_decided (decided : c.state ≠ .cr) (config : NspConfig)
    (call : Call) : (called config call c).state ≠ .cr := by
  obtain ⟨c', same, outcome⟩ := called_outcome config call c
  rw [same]
  cases outcome with
  | ignored | interrupted => exact decided
  | unconfirmed | accepted | rejected | left => exact ConnState.noConfusion
  | sent link data =>
    rw [(kept_sendData data c).state]
    exact decided

/-- Only `accept` on a link that waits for a decision queues a connect
message. -/
theorem Lined.called (lined : c.Lined) (decided : c.state ≠ .cr ∨
      ∀ link data fcopt, call ≠ .accept link data fcopt) : (called config call c).Lined := by
  obtain ⟨c', same, outcome⟩ := called_outcome config call c
  rw [same]
  cases outcome with
  | ignored => exact lined
  | unconfirmed _ _ _ waiting | accepted _ _ _ _ waiting =>
    exact absurd waiting (decided.resolve_right fun other => other _ _ _ rfl)
  | rejected link reason data =>
    have told : (c.send (c.discInit reason data)).Lined := { lined with }
    exact Shape.closed (.inl told)
  | left => exact { lined with early := fun early => absurd rfl early.2.1 }
  | sent link data => exact lined.sendData data
  | interrupted => exact { lined with }

theorem Opening.called (opening : c.Opening) : (called config call c).Shape := by
  obtain ⟨c', same, outcome⟩ := called_outcome config call c
  rw [same]
  cases outcome with
  | ignored => exact .inr opening
  | unconfirmed _ _ _ waiting | accepted _ _ _ _ waiting =>
    exact absurd waiting opening.not_waiting
  | rejected link reason data =>
    have told : (c.send (c.discInit reason data)).Opening := { opening with }
    exact .inl (Shape.closed (.inr told))
  | left => exact .inr { opening with state := .inr (.inr rfl) }
  | sent _ _ running => exact absurd running opening.not_run
  | interrupted => exact .inr { opening with }

theorem Shape.called (shape : c.Shape) : (called config call c).Shape := by
  rcases shape with lined | opening
  · cases call with
    | accept link data fcopt => exact Shape.accept (.inl lined) config data _
    | _ => exact .inl (lined.called (.inr (by simp)))
  · exact opening.called

theorem queueSegments_qmax (ps : List Piece) (c : Connection) :
    (ps.foldl queueSegment c).qmax = c.qmax := by
  induction ps generalizing c with
  | nil => rfl
  | cons piece ps ih => exact (ih _).trans rfl

theorem called_qmax (config : NspConfig) (call : Call) (c : Connection) :
    (called config call c).qmax = c.qmax := by
  obtain ⟨c', same, outcome⟩ := called_outcome config call c
  rw [same]
  cases outcome with
  | sent link data =>
    unfold sendData
    split
    · rfl
    · exact (fixed_sends (sends_sendBlocked _)).qmax.trans (queueSegments_qmax _ _)
  | _ => rfl

theorem calls_qmax (calls : Called config ok c c') : c'.qmax = c.qmax :=
  calls.keeps rfl fun _ call _ so => (called_qmax config call _).trans so

theorem Lined.calls (lined : c.Lined) (decided : c.state ≠ .cr)
    (calls : Called config ok c c') : c'.Lined ∧ c'.state ≠ .cr :=
  calls.keeps ⟨lined, decided⟩ fun _ call _ ⟨still, undecided⟩ =>
    ⟨still.called (.inl undecided), called_decided undecided config call⟩

theorem Shape.calls
    (shape : c.Shape) (calls : Called config ok c c') : c'.Shape :=
  calls.keeps shape fun _ _ _ still => still.called

theorem Lined.noteEvent (lined : c.Lined) (upcall : Upcall) : (c.noteEvent upcall).Lined :=
  lined.aside ⟨rfl, rfl, rfl, rfl, rfl, rfl, rfl⟩

theorem Shape.noteEvent (shape : c.Shape) (upcall : Upcall) : (c.noteEvent upcall).Shape :=
  shape.aside ⟨rfl, rfl, rfl, rfl, rfl, rfl, rfl⟩

/-- A confirm tells the link about the far end, acknowledges the connect
message, and starts the inactivity timer. -/
theorem confirm_eq (config : NspConfig) (message : ConnConf) (c : Connection) :
    ∃ learned : Connection, Aside c learned ∧ learned.outbox = c.outbox ∧
      ((c.confirm config message = { learned.processAck (Mod.wrap 0) with
        timer := true, timerIsRetransmit := false }) ∨
      (c.confirm config message = { (learned.processAck (Mod.wrap 0)).sendAck
        with timer := true, timerIsRetransmit := false })) := by
  refine ⟨c.learn config message.info message.srcaddr message.segsize message.fcopt,
    ⟨rfl, rfl, rfl, rfl, rfl, rfl, rfl⟩, rfl, ?_⟩
  unfold confirm
  dsimp only
  split
  · exact .inr rfl
  · exact .inl rfl

theorem Early.aside (early : c.Early) (aside : Aside c c') : c'.Early := by
  rw [Early, aside.state]
  exact early

theorem Shape.confirm (shape : c.Shape) (early : c.Early)
    (config : NspConfig) (message : ConnConf) : (c.confirm config message).Lined := by
  obtain ⟨learned, aside, _, same⟩ := confirm_eq config message c
  have acked := (shape.aside aside).processAck_zero (early.aside aside)
  rcases same with same | same
  · rw [same]
    exact acked.aside (aside_timers true false _)
  · rw [same]
    exact (acked.aside (aside_sendAck _)).aside (aside_timers true false _)

end Lined

end Connection

end Decnet.Nsp
