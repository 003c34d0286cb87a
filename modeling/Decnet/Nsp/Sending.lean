import Decnet.Nsp.Handshake

/-!
# The sending half through the life of a link

Nothing that happens to a link in run state disturbs its sending half: the
queue goes on holding consecutive segments of what was submitted, and what was
sent stays in order.  The oldest segment moves on only by acknowledgements, and
never past what an honest one acknowledges.
-/

namespace Decnet.Nsp

open Relation List

/-- A frame that asks the far end to close the link. -/
def Frame.closing (f : Frame) : Bool :=
  match f.packet with
  | .discInit _ => true
  | _ => false

theorem Frame.IsSegment.closing {stream : List Connection.Piece} {known number : Nat} {f : Frame}
    (segment : f.IsSegment stream known number) : f.closing = false := by
  obtain ⟨_, packet, _⟩ := segment.packet
  simp [Frame.closing, packet]

namespace Connection

section Queue

variable {stream longer : List Piece} {c : Connection}

theorem Queue.mono (queue : Queue stream c) (grown : stream <+: longer) : Queue longer c :=
  { queue with
    txq := queue.txq.mono fun _ _ sound => sound.mono grown (Nat.le_refl _) (Nat.le_refl _)
    outbox := fun f member => (queue.outbox f member).mono grown (Nat.le_refl _) }

theorem front_sendBlocked (c : Connection) : c.sendBlocked.front = c.front := by
  unfold front
  rw [(fixed_sends (sends_sendBlocked c)).queued, length_sendBlocked]

theorem Fixed.counts {c' : Connection} (fixed : Fixed c c') : c'.Counts ↔ c.Counts := by
  unfold Counts span
  rw [fixed.queued, fixed.qmax]

end Queue

def ForData (ack : AckNum) (onData : Bool) : Prop :=
  (if ack.isCross then !onData else onData) = true

/-- An acknowledgement of data, if it is one, is of fewer than `bound`
segments, and not too old for the queue it meets. -/
def Honest (bound : Option Nat) (c : Connection) (ack : Option AckNum) (onData : Bool) : Prop :=
  ∀ limit ∈ bound, ∀ a, ack = some a → ForData a onData →
    ∃ count, a.num = Mod.wrap count ∧ count < limit ∧ c.front < count + 2048

/-! ## Operations -/

/-- What happens to the queue of a link that goes on running. -/
structure Sent (bound : Option Nat) (stream : List Piece) (c c' : Connection) : Prop where
  queue : Queue stream c'
  front : ∀ limit ∈ bound, c.front ≤ limit → c'.front ≤ limit
  plain : ∀ f ∈ c'.outbox, f.closing = true → f ∈ c.outbox

/-- An operation that queues nothing. -/
structure Ran (bound : Option Nat) (c c' : Connection) : Prop extends Fixed c c' where
  state : c'.state = c.state
  submitted : c'.submitted = c.submitted
  segsize : c'.segsize = c.segsize
  outbox : c.outbox <+: c'.outbox
  rcvd : c.rcvd ≤ c'.rcvd
  sent : ∀ stream, stream.length ≤ c.queued → c.Counts → Queue stream c → Sent bound stream c c'

namespace Ran

variable {bound : Option Nat} {c c' c'' : Connection}

theorem plain (fixed : Fixed c c' := by exact ⟨rfl, rfl⟩) (state : c'.state = c.state := by rfl)
    (submitted : c'.submitted = c.submitted := by rfl) (segsize : c'.segsize = c.segsize := by rfl)
    (outbox : c'.outbox = c.outbox := by rfl) (rcvd : c.rcvd ≤ c'.rcvd := by exact Nat.le_refl _)
    (queue : ∀ stream, Queue stream c → Queue stream c' := by
      exact fun _ queue => { queue with })
    (front : c'.front = c.front := by rfl) : Ran bound c c' where
  toFixed := fixed
  state := state
  submitted := submitted
  segsize := segsize
  outbox := outbox ▸ prefix_rfl
  rcvd := rcvd
  sent := by
    intro stream _ _ before
    refine ⟨queue stream before, ?_, ?_⟩
    · intro limit _ low
      rw [front]
      exact low
    · intro f member _
      rw [outbox] at member
      exact member

theorem refl (c : Connection) : Ran bound c c := .plain

theorem trans (first : Ran bound c c') (second : Ran bound c' c'') : Ran bound c c'' where
  toFixed := first.toFixed.trans second.toFixed
  state := second.state.trans first.state
  submitted := second.submitted.trans first.submitted
  segsize := second.segsize.trans first.segsize
  outbox := first.outbox.trans second.outbox
  rcvd := first.rcvd.trans second.rcvd
  sent := by
    intro stream all counts queue
    have middle := first.sent stream all counts queue
    have final := second.sent stream (first.queued.symm ▸ all)
      (first.toFixed.counts.mpr counts) middle.queue
    refine ⟨final.queue, ?_, ?_⟩
    · exact fun limit bounded low => final.front limit bounded (middle.front limit bounded low)
    · exact fun f member closing => middle.plain f (final.plain f member closing) closing

theorem control {f : Frame} (plain : f.dataNumber = none) (mild : f.closing = false)
    (sound : ∀ stream, Queue stream c → f.Sound stream c.rcvd) :
    Ran bound c { c with outbox := c.outbox ++ [f] } where
  queued := rfl
  qmax := rfl
  state := rfl
  submitted := rfl
  segsize := rfl
  outbox := prefix_append _ _
  rcvd := Nat.le_refl _
  sent := by
    intro stream _ _ queue
    refine ⟨queue.control plain (sound stream queue), fun _ _ => id, ?_⟩
    intro other member closing
    rcases mem_append.mp member with old | new
    · exact old
    · rw [mem_singleton.mp new, mild] at closing
      cases closing

end Ran

variable {bound : Option Nat} {c c' : Connection}

theorem ran_sendBlocked (c : Connection) : Ran bound c c.sendBlocked := by
  have rest : c.sendBlocked.submitted = c.submitted ∧
      c.sendBlocked.segsize = c.segsize ∧ c.sendBlocked.rcvd = c.rcvd := by
    unfold sendBlocked
    dsimp only
    split <;> exact ⟨rfl, rfl, rfl⟩
  constructor
  case toFixed => exact fixed_sends (sends_sendBlocked c)
  case state => exact (sends_sendBlocked c).steady.state
  case submitted => exact rest.1
  case segsize => exact rest.2.1
  case outbox =>
    rw [sendBlocked_outbox]
    exact prefix_append _ _
  case rcvd => exact rest.2.2.ge
  case sent =>
    intro stream all counts queue
    have after := queue.sendBlocked all counts
    refine ⟨after, ?_, ?_⟩
    · intro limit _ low
      rw [front_sendBlocked]
      exact low
    · intro f member closing
      rw [sendBlocked_outbox] at member
      rcases mem_append.mp member with old | new
      · exact old
      · obtain ⟨e, present, rfl, _⟩ := sendBlockedLoop_frames _ _ _ f new
        rw [← sendBlocked_txq] at present
        obtain ⟨_, _, _, sound⟩ := after.txq.mem present
        rw [sound.frame.closing] at closing
        cases closing

theorem ran_processNak (c : Connection) : Ran bound c c.processNak := by
  rcases processNak_cases c with same | ⟨_, _, _, same⟩
  · rw [same]
    exact .refl c
  · rw [same]
    refine Ran.trans ?_ (ran_sendBlocked _)
    refine .plain ⟨rfl, rfl⟩ rfl rfl rfl rfl (Nat.le_refl _) ?_ ?_
    · intro stream queue
      have marked := queue.marked fun _ _ _ sound => sound.unsend
      exact { marked with }
    · unfold front
      rw [length_map]

theorem ran_processAck (num : Seq) (c : Connection)
    (honest : ∀ limit ∈ bound, ∃ count, num = Mod.wrap count ∧
      count < limit ∧ c.front < count + 2048) : Ran bound c (c.processAck num) := by
  obtain ⟨_, _, _, _, _, _, same⟩ := processAck_eq num c
  rw [same]
  refine Ran.trans ?_ (ran_sendBlocked _)
  constructor
  case toFixed => exact ⟨rfl, rfl⟩
  case state => rfl
  case submitted => rfl
  case segsize => rfl
  case outbox => exact prefix_rfl
  case rcvd => exact Nat.le_refl _
  case sent =>
    intro stream _ _ queue
    have popped := queue.pop num
    refine ⟨{ popped with }, ?_, fun _ member _ => member⟩
    intro limit bounded low
    obtain ⟨count, rfl, below, fresh⟩ := honest limit bounded
    exact (queue.front_pop_le fresh).trans (by omega)

theorem ran_routeAck {ack : Option AckNum} {onData : Bool} {c : Connection}
    (honest : Honest bound c ack onData) : Ran bound c (c.routeAck ack onData) := by
  have acked {field : AckNum} (present : ack = some field)
      (forData : (if field.isCross then !onData else onData) = true) :
      Ran bound c (c.processAck field.num) :=
    ran_processAck field.num c fun limit bounded => honest limit bounded field present forData
  generalize after : c.routeAck ack onData = c'
  cases after ▸ routed ack onData c with
  | none => exact .refl c
  | other => exact .plain
  | data field present forData => exact acked present forData
  | nak field present forData =>
    exact (acked present forData).trans (ran_processNak _)

theorem ran_applyCredit (message : LinkSvcMsg) (c : Connection) :
    Ran bound c (c.applyCredit message) := by
  obtain ⟨granted, same⟩ := applyCredit_cases message c
  have given : Ran bound c (c.withCredit granted) := .plain
  rcases same with same | same
  · exact same ▸ given
  · exact same ▸ given.trans (ran_sendBlocked _)

theorem ran_sendAck (c : Connection) : Ran bound c c.sendAck := by
  have stopped : Ran bound c c.stopAckHoldoff := .plain
  refine stopped.trans (.control rfl rfl ?_)
  intro stream queue
  exact ⟨congrArg some (queue.ackNum .ackq), rfl, Nat.le_refl _⟩

theorem ran_resend (c : Connection) : Ran bound c c.resend where
  queued := rfl
  qmax := rfl
  state := rfl
  submitted := rfl
  segsize := rfl
  outbox := prefix_append _ _
  rcvd := Nat.le_refl _
  sent := by
    intro stream _ _ queue
    refine ⟨queue.resend, ?_, ?_⟩
    · intro limit _ low
      have same := length_unmarked (resendQueue_unmarked c.txq)
      unfold front resend at *
      rw [same]
      exact low
    · intro f member closing
      rcases mem_append.mp member with old | new
      · exact old
      · rw [resendQueue_frames] at new
        obtain ⟨e, found, rfl⟩ := mem_map.mp new
        have present := mem_of_find?_eq_some (Option.mem_toList.mp found)
        obtain ⟨_, _, _, sound⟩ := queue.txq.mem present
        rw [sound.frame.closing] at closing
        cases closing

def Opened (c : Connection) : Prop :=
  c.state = .run ∨ c.state = .di ∨ c.state = .cl

theorem Opened.congr (opened : c.Opened) (state : c'.state = c.state) : c'.Opened := by
  unfold Opened
  rw [state]
  exact opened

theorem Opened.not_opening (opened : c.Opened) : ¬ (c.state = .ci ∨ c.state = .cd) := by
  rintro (state | state) <;> simp [Opened, state] at opened

variable {heeds : Heeds} {config : NspConfig}

theorem ran_op (opened : c.Opened) (honest : ∀ ack onData, heeds.ack c ack onData →
      Honest bound c ack onData) (op : Op heeds c c') : Ran bound c c' := by
  cases op with
  | touch =>
    unfold touch
    split
    · exact .plain
    · exact .refl c
  | routeAck ack onData heeded => exact ran_routeAck (honest _ _ heeded)
  | sendAck => exact ran_sendAck c
  | delayAck | release | clearAssembly | stopTimer => exact .plain
  | ackHoldoff =>
    have stopped : Ran bound c c.stopAckTimer := .plain
    unfold ackHoldoff
    split
    · exact stopped.trans (ran_sendAck _)
    · exact stopped
  | hold segment _ =>
    unfold hold
    split
    · split
      · exact .refl c
      · exact .plain
    · exact .refl c
  | assemble segment _ =>
    unfold assemble
    dsimp only
    split <;> split <;> exact .plain
  | advance _ =>
    exact .plain ⟨rfl, rfl⟩ rfl rfl rfl rfl (Nat.le_succ _) (fun _ queue => queue.advance) rfl
  | sendAckOther num _ =>
    exact .control rfl rfl fun _ _ => ⟨⟨num, rfl⟩, rfl⟩
  | takeOther num _ =>
    have taken : Ran bound c { c with intNextExpect := num + Mod.wrap 1 } := .plain
    exact taken.trans (.control rfl rfl fun _ _ => ⟨⟨num, rfl⟩, rfl⟩)
  | applyCredit message _ => exact ran_applyCredit message c
  | sendDiscConf => exact .control rfl rfl fun _ _ => trivial
  | sendAckConn =>
    unfold sendAckConn
    split
    · exact .control rfl rfl fun _ _ => trivial
    · exact .refl c
  | confirmReject _ opening => exact (opened.not_opening opening).elim
  | connectAcked state | accepted state => simp [Opened, state] at opened
  | inactive _ _ =>
    have stopped : Ran bound c c.stopTimer := .plain
    refine (stopped.trans (ran_sendAck _)).trans ?_
    exact .plain
  | resend retries _ _ =>
    have stopped : Ran bound c (c.stopTimer.setRetries retries) := .plain
    exact stopped.trans (ran_resend _)

/-! ## Calls and changes -/

/-- What is true whatever happens to a link that has been opened. -/
structure After (c c' : Connection) : Prop where
  opened : c'.Opened
  running : c'.state = .run → c.state = .run
  queued : c.queued ≤ c'.queued
  qmax : c'.qmax = c.qmax
  rcvd : c.rcvd ≤ c'.rcvd
  outbox : c.outbox <+: c'.outbox
  submitted : c.submitted <+: c'.submitted
  idle : c.state ≠ .run → c'.submitted = c.submitted

/-- What happens to a link that has been opened, and to its sending half if it
is still in run state afterwards. -/
structure Onward (bound : Option Nat) (c c' : Connection) : Prop extends After c c' where
  segsize : c'.state = .run → c'.segsize = c.segsize
  sending : c'.state = .run → c'.Counts → c.Sending → c'.Sending
  sent : c'.state = .run → c'.Counts → c.Sending → Sent bound c'.stream c c'

theorem After.same (opened : c.Opened) (state : c'.state = c.state := by rfl)
    (queued : c'.queued = c.queued := by rfl)
    (qmax : c'.qmax = c.qmax := by rfl) (rcvd : c'.rcvd = c.rcvd := by rfl)
    (outbox : c'.outbox = c.outbox := by rfl)
    (submitted : c'.submitted = c.submitted := by rfl) : After c c' where
  opened := opened.congr state
  running := fun running => state ▸ running
  queued := queued.ge
  qmax := qmax
  rcvd := rcvd.ge
  outbox := outbox ▸ prefix_rfl
  submitted := submitted ▸ prefix_rfl
  idle := fun _ => submitted

theorem After.trans {c'' : Connection} (first : After c c')
    (second : After c' c'') : After c c'' where
  opened := second.opened
  running := fun running => first.running (second.running running)
  queued := first.queued.trans second.queued
  qmax := second.qmax.trans first.qmax
  rcvd := first.rcvd.trans second.rcvd
  outbox := first.outbox.trans second.outbox
  submitted := first.submitted.trans second.submitted
  idle := by
    intro idle
    have still : c'.state ≠ .run := fun running => idle (first.running running)
    exact (second.idle still).trans (first.idle idle)

theorem After.counts (after : After c c') (counts : c'.Counts) : c.Counts := by
  have queued := after.queued
  unfold Counts span at *
  rw [after.qmax] at counts
  omega

theorem Onward.trans {c'' : Connection} (first : Onward bound c c')
    (second : Onward bound c' c'') : Onward bound c c'' where
  toAfter := first.toAfter.trans second.toAfter
  segsize := by
    intro running
    exact (second.segsize running).trans (first.segsize (second.running running))
  sending := by
    intro running counts sending
    exact second.sending running counts (first.sending
      (second.running running) (second.toAfter.counts counts) sending)
  sent := by
    intro running counts sending
    have between := second.running running
    have counted := second.toAfter.counts counts
    have earlier := first.sent between counted sending
    have later := second.sent running counts (first.sending between counted sending)
    exact ⟨later.queue, fun limit bounded low =>
        later.front limit bounded (earlier.front limit bounded low),
      fun f member closing => earlier.plain f (later.plain f member closing) closing⟩

theorem Ran.onward (ran : Ran bound c c') (opened : c.Opened) : Onward bound c c' := by
  have same : c'.stream = c.stream := by
    unfold stream segmentLimit
    rw [ran.submitted, ran.segsize]
  have moved (counts : c'.Counts) (sending : c.Sending) : Sent bound c'.stream c c' := by
    rw [same]
    exact ran.sent c.stream sending.queued.ge (ran.toFixed.counts.mp counts) sending.toQueue
  constructor
  case toAfter =>
    constructor
    case opened => exact opened.congr ran.state
    case running => exact fun running => ran.state ▸ running
    case queued => exact ran.queued.ge
    case qmax => exact ran.qmax
    case rcvd => exact ran.rcvd
    case outbox => exact ran.outbox
    case submitted => exact ran.submitted ▸ prefix_rfl
    case idle => exact fun _ => ran.submitted
  case segsize => exact fun _ => ran.segsize
  case sending =>
    intro _ counts sending
    refine ⟨(moved counts sending).queue, ?_⟩
    rw [ran.queued, same]
    exact sending.queued
  case sent => exact fun _ => moved

theorem queueSegments_rest (ps : List Piece) (c : Connection) :
    (ps.foldl queueSegment c).submitted = c.submitted ∧
      (ps.foldl queueSegment c).segsize = c.segsize ∧ (ps.foldl queueSegment c).rcvd = c.rcvd ∧
      (ps.foldl queueSegment c).queued = c.queued + ps.length := by
  induction ps generalizing c with
  | nil => exact ⟨rfl, rfl, rfl, rfl⟩
  | cons piece ps ih =>
    obtain ⟨submitted, segsize, rcvd, queued⟩ := ih (c.queueSegment piece)
    refine ⟨submitted, segsize, rcvd, queued.trans ?_⟩
    show c.queued + 1 + ps.length = c.queued + (ps.length + 1)
    omega

theorem onward_queued (running : c.state = .run) (data : Bytes) :
    Onward bound c ((pieces c.segmentLimit data).foldl queueSegment
      { c with submitted := c.submitted ++ [data] }) := by
  have rest := queueSegments_rest (pieces c.segmentLimit data)
    { c with submitted := c.submitted ++ [data] }
  have kept := kept_queueSegments
    { c with submitted := c.submitted ++ [data] } (pieces c.segmentLimit data)
  have outbox := queueSegments_outbox (pieces c.segmentLimit data)
    { c with submitted := c.submitted ++ [data] }
  have qmax := queueSegments_qmax (pieces c.segmentLimit data)
    { c with submitted := c.submitted ++ [data] }
  have steps (sending : c.Sending) := @Queue.queueSegments (c.stream ++ pieces c.segmentLimit data)
    { c with submitted := c.submitted ++ [data] } (pieces c.segmentLimit data) []
    { sending.toQueue.mono (prefix_append _ _) with }
    (by rw [sending.queued, drop_left', append_nil]; rfl)
  generalize (pieces c.segmentLimit data).foldl queueSegment
    { c with submitted := c.submitted ++ [data] } = c' at *
  obtain ⟨submitted, segsize, rcvd, queued⟩ := rest
  have stream : c'.stream = c.stream ++ pieces c.segmentLimit data := by
    have limit : c'.segmentLimit = c.segmentLimit := by
      unfold segmentLimit
      rw [segsize]
    unfold Connection.stream
    rw [submitted, limit, flatMap_append, flatMap_singleton]
  constructor
  case toAfter =>
    constructor
    case opened => exact .inl (kept.state.trans running)
    case running => exact fun _ => running
    case queued => exact queued ▸ Nat.le_add_right _ _
    case qmax => exact qmax
    case rcvd => exact rcvd.ge
    case outbox => exact outbox ▸ prefix_rfl
    case submitted => exact submitted ▸ prefix_append _ _
    case idle => exact fun idle => absurd running idle
  case segsize => exact fun _ => segsize
  case sending =>
    intro _ _ sending
    refine ⟨stream ▸ (steps sending).1, ?_⟩
    rw [queued, stream, length_append]
    exact congrArg (· + _) sending.queued
  case sent =>
    intro _ _ sending
    obtain ⟨queue, _, front⟩ := steps sending
    refine ⟨stream ▸ queue, ?_, ?_⟩
    · intro limit _ low
      exact front.le.trans low
    · intro f member _
      rw [outbox] at member
      exact member

theorem onward_sendData (opened : c.Opened) (data : Bytes) : Onward bound c (c.sendData data) := by
  by_cases running : c.state = .run
  · have inRun : ¬ (!c.running) = true := by simp [Connection.running, running]
    have queued := @onward_queued bound c running data
    rw [sendData, if_neg inRun]
    exact queued.trans ((ran_sendBlocked _).onward queued.opened)
  · rw [sendData_of_not_run data c running]
    exact (Ran.refl c).onward opened

theorem After.onward (after : After c c') (left : c'.state ≠ .run) : Onward bound c c' :=
  { after with
    segsize := fun running => absurd running left
    sending := fun running => absurd running left
    sent := fun running => absurd running left }

theorem after_disconnected {f : Frame} {timer isRetransmit : Bool} :
    After c
      { c with
        outbox := c.outbox ++ [f]
        timer := timer
        timerIsRetransmit := isRetransmit
        state := .di } where
  opened := .inr (.inl rfl)
  running := fun running => nomatch running
  queued := Nat.le_refl _
  qmax := rfl
  rcvd := Nat.le_refl _
  outbox := prefix_append _ _
  submitted := prefix_rfl
  idle := fun _ => rfl

theorem after_clearQueues (opened : c.Opened) : After c c.clearQueues :=
  .same opened

theorem after_closing (c : Connection) : After c (c.noteClosing.withState .cl) where
  opened := .inr (.inr rfl)
  running := fun running => nomatch running
  queued := Nat.le_refl _
  qmax := rfl
  rcvd := Nat.le_refl _
  outbox := prefix_rfl
  submitted := prefix_rfl
  idle := fun _ => rfl

section

variable (opened : c.Opened)

include opened

theorem onward_called (config : NspConfig) (call : Call) :
    Onward bound c (World.called config call c) := by
  have same : Onward bound c c := (Ran.refl c).onward opened
  have decided : c.state ≠ .cr := by
    rcases opened with state | state | state <;> simp [state]
  obtain ⟨c', result, outcome⟩ := World.called_outcome config call c
  rw [result]
  cases outcome with
  | ignored => exact same
  | unconfirmed _ _ _ waiting | accepted _ _ _ _ waiting =>
    exact absurd waiting decided
  | rejected link reason data =>
    have told : After c (c.send (c.discInit reason data)) :=
      { same with outbox := prefix_append _ _ }
    have cleared := told.trans (after_clearQueues told.opened)
    exact (cleared.trans (after_closing _)).onward nofun
  | left => exact after_disconnected.onward nofun
  | sent link data => exact onward_sendData opened data
  | interrupted link data message =>
    have told := @Ran.control bound c ⟨.intMsg message, 0, c.rcvd⟩ rfl rfl fun _ _ => trivial
    exact (told.trans .plain).onward opened

theorem onward_calls {ok : Call → Prop} (calls : Called config ok c c') : Onward bound c c' :=
  calls.keeps ((Ran.refl c).onward opened) fun _ call _ so =>
    so.trans (onward_called so.opened config call)

theorem after_ended {ok : Call → Prop} {prepare : Connection → Connection}
    {upcall : Upcall} (expiry : Expiry prepare)
    (calls : Called config ok ((prepare c).clearQueues.noteEvent upcall) c') :
    After c (c'.noteClosing.withState .cl) := by
  have prepared : After c (prepare c) := by
    cases expiry with
    | none | expired | exhausted => exact .same opened
  have cleared := prepared.trans (after_clearQueues prepared.opened)
  have noted : After c ((prepare c).clearQueues.noteEvent upcall) :=
    cleared.trans (.same cleared.opened)
  have called := noted.trans (@onward_calls none _ _ config noted.opened ok calls).toAfter
  exact called.trans (after_closing c')

section

variable {permits : Permits}
  (honest : ∀ c ack onData, heeds.ack c ack onData → Honest bound c ack onData)

include honest

theorem onward_change (change : Change heeds permits config c c') : Onward bound c c' := by
  cases change with
  | op _ op => exact (ran_op opened (honest c) op).onward opened
  | call call => exact onward_called opened config call
  | inform _ upcall _ _ calls =>
    have noted : Ran bound c (c.noteEvent upcall) := .plain
    exact (noted.onward opened).trans (onward_calls (opened.congr noted.state) calls)
  | confirmed _ _ opening | refused _ _ _ opening => exact (opened.not_opening opening).elim
  | ended _ prepare reason data expiry live calls =>
    exact (after_ended opened expiry calls).onward nofun
  | lapsed link waiting kind => simp [Opened, waiting] at opened

theorem onward_changes (changes : ReflTransGen (Change heeds permits config) c c') :
    Onward bound c c' := by
  induction changes with
  | refl => exact (Ran.refl c).onward opened
  | tail _ last ih => exact ih.trans (onward_change ih.opened honest last)

end

end

end Connection

end Decnet.Nsp
