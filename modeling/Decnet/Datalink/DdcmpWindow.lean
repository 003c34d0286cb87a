import Decnet.Datalink.DdcmpChanges
import Decnet.Lib.Run
import Mathlib.Data.List.Induction

/-!
# The window of one DDCMP engine

Whatever the far end sends, the engine keeps exactly the messages that it has
numbered and that have not been acknowledged, at most `qmax` of them, and they
and the queue behind them are the last payloads that it accepted since it was
initialised.
-/

namespace Decnet.Ddcmp.Protocol

open Protocol Counters Function List

/-- The window in terms of the counts: every number in it has its message, and
there is nothing else. -/
structure Windowed (p : Protocol) (qmax : Nat) : Prop where
  limit : p.qmax = qmax
  small : qmax ≤ 255
  a : p.a = UInt8.ofNat p.acked
  n : p.n = UInt8.ofNat p.numbered
  ordered : p.acked ≤ p.numbered
  window : p.numbered ≤ p.acked + qmax
  short : p.numbered ≤ p.accepted.length
  queue : p.accepted.drop p.numbered = p.notsent
  filled : ∀ number, p.acked < number → number ≤ p.numbered →
    ∃ frame, p.unack (UInt8.ofNat number) = some frame ∧
      p.accepted[number - 1]? = some frame.message.payload
  clear : ∀ slot frame, p.unack slot = some frame →
    ∃ number, p.acked < number ∧ number ≤ p.numbered ∧ slot = UInt8.ofNat number

variable {qmax : Nat}

variable {p p' : Protocol} {message : Message}

theorem Windowed.pending (windowed : p.Windowed qmax) : p.pending = p.numbered - p.acked := by
  have small := windowed.small
  have window := windowed.window
  rw [Protocol.pending, windowed.a, windowed.n]
  exact distance_forward windowed.ordered (by omega)

/-! ## What keeps the window -/

theorem windowed_of_empty (limit : p.qmax = qmax) (small : qmax ≤ 255)
    (a : p.a = 0) (n : p.n = 0) (acked : p.acked = 0)
    (numbered : p.numbered = 0) (notsent : p.notsent = [])
    (accepted : p.accepted = []) (unack : ∀ slot, p.unack slot = none) : p.Windowed qmax where
  limit := limit
  small := small
  a := by rw [a, acked]; rfl
  n := by rw [n, numbered]; rfl
  ordered := by rw [acked]; exact Nat.zero_le _
  window := by rw [numbered]; exact Nat.zero_le _
  short := by rw [numbered]; exact Nat.zero_le _
  queue := by rw [accepted, notsent, drop_nil]
  filled number above below := by omega
  clear slot frame stored := by
    rw [unack slot] at stored
    cases stored

section

variable (windowed : p.Windowed qmax)

include windowed

theorem Windowed.number {payload : Bytes} {rest : List Bytes}
    (queue : p.notsent = payload :: rest) (room : p.cansend = true) :
    (p.number payload rest).Windowed qmax := by
  have whole := windowed.queue
  rw [queue] at whole
  have next : p.accepted[p.numbered]? = some payload := by
    rw [← head?_drop, whole]
    rfl
  have bound : p.numbered < p.acked + qmax := by
    have free : p.pending < p.qmax := by simpa [cansend] using room
    rw [windowed.pending, windowed.limit] at free
    omega
  have small := windowed.small
  have slot : p.n + 1 = UInt8.ofNat (p.numbered + 1) := by
    rw [windowed.n, ofNat_succ]
  exact
    { windowed with
      n := slot
      ordered := Nat.le_succ_of_le windowed.ordered
      window := bound
      short := (List.getElem?_eq_some_iff.mp next).1
      queue := by
        change p.accepted.drop (p.numbered + 1) = rest
        rw [← tail_drop, whole]
        rfl
      filled := by
        intro number above below
        change number ≤ p.numbered + 1 at below
        rcases Nat.lt_or_eq_of_le below with earlier | last
        · obtain ⟨frame, stored, present⟩ :=
            windowed.filled number above (Nat.lt_succ_iff.mp earlier)
          refine ⟨frame, (update_of_ne ?_ ..).trans stored, present⟩
          intro same
          rw [slot] at same
          have : number = p.numbered + 1 := ofNat_near same (by omega) (by
            change p.acked < number at above
            omega)
          omega
        · subst last
          rw [← slot]
          exact ⟨_, update_self .., next⟩
      clear := by
        intro other frame stored
        by_cases same : other = p.n + 1
        · exact ⟨p.numbered + 1, Nat.lt_succ_of_le windowed.ordered, Nat.le_refl _, same.trans slot⟩
        · have old : p.unack other = some frame := (update_of_ne same ..).symm.trans stored
          obtain ⟨number, above, below, place⟩ := windowed.clear other frame old
          exact ⟨number, above, Nat.le_succ_of_le below, place⟩ }

theorem Windowed.acknowledgeOne (unacked : p.acked < p.numbered) :
    p.acknowledgeOne.Windowed qmax := by
  have small := windowed.small
  have window := windowed.window
  have slot : p.a + 1 = UInt8.ofNat (p.acked + 1) := by
    rw [windowed.a, ofNat_succ]
  exact
    { windowed with
      a := slot
      ordered := unacked
      window := by
        change p.numbered ≤ p.acked + 1 + qmax
        omega
      filled := by
        intro number above below
        change p.acked + 1 < number at above
        obtain ⟨frame, stored, present⟩ := windowed.filled number (by omega) below
        refine ⟨frame, (update_of_ne ?_ ..).trans stored, present⟩
        intro same
        rw [slot] at same
        change number ≤ p.numbered at below
        have := ofNat_near same (by omega) (by omega)
        omega
      clear := by
        intro other frame stored
        by_cases same : other = p.a + 1
        · subst same
          have gone : p.acknowledgeOne.unack (p.a + 1) = none := update_self ..
          rw [gone] at stored
          cases stored
        · have old : p.unack other = some frame := (update_of_ne same ..).symm.trans stored
          obtain ⟨number, above, below, place⟩ := windowed.clear other frame old
          refine ⟨number, Nat.lt_of_le_of_ne above ?_, below, place⟩
          intro first
          rw [place, ← first, slot] at same
          exact same rfl }

theorem Windowed.changes {limit : Nat} (changes : Changes limit p p') : p'.Windowed qmax := by
  induction changes with
  | refl => exact windowed
  | tail _ change induction =>
    cases change with
    | adjust | control | kept =>
      exact { induction with }
    | number payload rest queue room => exact induction.number queue room
    | acknowledge unacked below => exact induction.acknowledgeOne unacked

theorem Windowed.enqueue (payload : Bytes) : (p.enqueue payload).Windowed qmax :=
  { windowed with
    short := by
      change p.numbered ≤ (p.accepted ++ [payload]).length
      rw [length_append]
      exact Nat.le_add_right_of_le windowed.short
    queue := by
      change (p.accepted ++ [payload]).drop p.numbered = p.notsent ++ [payload]
      rw [drop_append_of_le_length windowed.short, windowed.queue]
    filled := by
      intro number above below
      obtain ⟨frame, stored, present⟩ := windowed.filled number above below
      refine ⟨frame, stored, ?_⟩
      change (p.accepted ++ [payload])[number - 1]? = _
      rw [getElem?_append_left]
      · exact present
      · exact (List.getElem?_eq_some_iff.mp present).1 }

theorem Windowed.sendFrame (frame : Frame) (seconds : Nat) :
    (p.sendFrame frame seconds).Windowed qmax := by
  unfold Protocol.sendFrame
  split
  · exact { windowed with }
  · exact { windowed with }

theorem Windowed.unacked (current : ¬ p.stale message = true) :
    p.acked + distance p.a message.resp ≤ p.numbered := by
  have ordered := windowed.ordered
  simp only [stale, decide_eq_true_eq, windowed.pending] at current
  omega

theorem Windowed.takeAck (begun : p.Begun)
    (current : ¬ p.stale message = true) : (p.takeAck message).Windowed qmax :=
  windowed.changes (changes_takeAck (windowed.unacked current) (windowed.unacked current) begun)

end

theorem processAck_of_stale
    (stale : p.stale message = true) : p.processAck message = p :=
  if_pos stale

theorem Windowed.processAck (windowed : p.Windowed qmax) (begun : p.Begun) (message : Message) :
    (p.processAck message).Windowed qmax := by
  unfold Protocol.processAck
  split
  case isTrue => exact windowed
  case isFalse current => exact windowed.takeAck begun current

/-! ## The state and the pending acknowledgement -/

/-- Neither the state nor the pending acknowledgement is changed. -/
structure Steady (p p' : Protocol) : Prop where
  state : p'.state = p.state
  ackflag : p'.ackflag = p.ackflag

theorem Steady.trans {p'' : Protocol} (first : Steady p p')
    (second : Steady p' p'') : Steady p p'' :=
  ⟨second.state.trans first.state, second.ackflag.trans first.ackflag⟩

theorem steady_sendFrame (frame : Frame) (seconds : Nat) (p : Protocol) :
    Steady p (p.sendFrame frame seconds) := by
  unfold sendFrame
  split <;> exact ⟨rfl, rfl⟩

theorem steady_sendKept (slot : Seq) (p : Protocol) : Steady p (p.sendKept slot) := by
  unfold sendKept
  split
  · exact ⟨rfl, rfl⟩
  · have waited : Steady p { p with acktmr := p.acktmr.next.2 } := ⟨rfl, rfl⟩
    exact waited.trans (steady_sendFrame _ _ _)

theorem steady_sendQueuedLoop (queueOnly : Bool) (queue : List Bytes)
    (p : Protocol) : Steady p (sendQueuedLoop queueOnly queue p) := by
  induction queue generalizing p with
  | nil => exact ⟨rfl, rfl⟩
  | cons payload rest induction =>
    simp only [sendQueuedLoop]
    split
    · have numbered : Steady p (p.number payload rest) := ⟨rfl, rfl⟩
      cases queueOnly with
      | true => exact numbered.trans (induction _)
      | false =>
        exact (numbered.trans (steady_sendKept _ _)).trans (induction _)
    · exact ⟨rfl, rfl⟩

theorem steady_acknowledge (count : Nat) (p : Protocol) : Steady p (p.acknowledge count) := by
  induction count generalizing p with
  | zero => exact ⟨rfl, rfl⟩
  | succ count induction =>
    have one : Steady p p.acknowledgeOne := ⟨rfl, rfl⟩
    exact one.trans (induction _)

theorem steady_awaitReply (p : Protocol) : Steady p p.awaitReply := by
  unfold awaitReply
  split <;> exact ⟨rfl, rfl⟩

theorem steady_takeAck (message : Message) (p : Protocol) : Steady p (p.takeAck message) :=
  ((steady_acknowledge _ p).trans (steady_awaitReply _)).trans (steady_sendQueuedLoop _ _ _)

theorem steady_processAck (message : Message) (p : Protocol) : Steady p (p.processAck message) := by
  unfold processAck
  split
  · exact ⟨rfl, rfl⟩
  · exact steady_takeAck message p

theorem steady_retransmitLoop (count : Nat) (slot : Seq) (p : Protocol) :
    Steady p (p.retransmitLoop count slot) := by
  induction count generalizing slot p with
  | zero => exact ⟨rfl, rfl⟩
  | succ count induction =>
    exact (steady_sendKept _ p).trans (induction _ _)

/-- The engine between two inputs: no acknowledgement is pending, and one that
does not run has no numbers in use. -/
structure Settled (p : Protocol) (qmax : Nat) : Prop where
  windowed : p.Windowed qmax
  answered : p.ackflag = false
  quiet : p.state = .running ∨ p.a = 0

theorem Settled.steady (settled : p.Settled qmax)
    (windowed : p'.Windowed qmax) (steady : Steady p p') (a : p'.a = p.a) : p'.Settled qmax where
  windowed := windowed
  answered := steady.ackflag.trans settled.answered
  quiet := by
    rw [steady.state, a]
    exact settled.quiet

theorem sendFrame_a (frame : Frame) (seconds : Nat) (p : Protocol) :
    (p.sendFrame frame seconds).a = p.a := by
  unfold sendFrame
  split <;> rfl

theorem Settled.sendFrame (settled : p.Settled qmax) (frame : Frame)
    (seconds : Nat) : (p.sendFrame frame seconds).Settled qmax :=
  settled.steady (settled.windowed.sendFrame frame seconds)
    (steady_sendFrame frame seconds p) (sendFrame_a frame seconds p)

theorem Settled.sendStarting (settled : p.Settled qmax)
    (message : Message) : (p.sendStarting message).Settled qmax := by
  have waited : Settled { p with stacktmr := p.stacktmr.next.2 } qmax :=
    ⟨{ settled.windowed with }, settled.answered, settled.quiet⟩
  exact waited.sendFrame _ _

section

variable (windowed : p.Windowed qmax)

include windowed

theorem Windowed.settled_flushAck (running : p.state = .running) : p.flushAck.Settled qmax := by
  unfold flushAck
  split
  case isTrue =>
    have lowered : Settled { p with ackflag := false } qmax :=
      ⟨{ windowed with }, rfl, .inl running⟩
    exact lowered.sendFrame _ _
  case isFalse lowered =>
    exact ⟨windowed, Bool.eq_false_iff.mpr lowered, .inl running⟩

theorem Windowed.settled_initState : p.initState.Settled qmax :=
  ⟨windowed_of_empty windowed.limit windowed.small rfl rfl rfl rfl rfl rfl fun _ => rfl,
    rfl, .inr rfl⟩

theorem Windowed.connected : p.connected.Settled qmax := by
  have reset : p.initState.resetAcktmr.resetStacktmr.Settled qmax :=
    ⟨{ windowed.settled_initState.windowed with }, rfl, .inr rfl⟩
  have sent := reset.sendStarting makeStart
  have zero : (p.initState.resetAcktmr.resetStacktmr.sendStarting
      makeStart).a = 0 := sendFrame_a _ _ _
  exact ⟨{ sent.windowed with }, sent.answered, .inr zero⟩

theorem Windowed.reportDown : p.reportDown.Windowed qmax := by
  unfold Protocol.reportDown
  split
  · exact { windowed with }
  · exact windowed

theorem Windowed.halt : p.halt.Settled qmax := by
  have initial := windowed.reportDown.settled_initState
  exact ⟨{ initial.windowed with }, rfl, .inr rfl⟩

end

theorem Settled.doRestart (settled : p.Settled qmax) : p.doRestart.Settled qmax := by
  unfold Protocol.doRestart
  split
  · exact settled
  · exact settled.windowed.reportDown.connected

theorem Settled.enterRunning (settled : p.Settled qmax)
    (ack : Bool) : (p.enterRunning ack).Settled qmax := by
  have running : (((p.withState .running).setTimer 0).report .up).Settled qmax :=
    ⟨{ settled.windowed with }, settled.answered, .inl rfl⟩
  cases ack with
  | true => exact running.sendFrame (control (makeAck p.r) _) 0
  | false => exact running

theorem Settled.receiveMaintenance (settled : p.Settled qmax)
    (message : Message) : (p.receiveMaintenance message).Settled qmax := by
  unfold Protocol.receiveMaintenance
  split
  · exact settled.doRestart
  · exact settled

theorem Windowed.receiveData (windowed : p.Windowed qmax) (begun : p.Begun) (message : Message) :
    (p.receiveData message).Windowed qmax := by
  have taken := windowed.processAck begun message
  unfold Protocol.receiveData
  dsimp only
  split
  · exact { taken with }
  · exact taken

theorem receiveData_state (message : Message) (p : Protocol) :
    (p.receiveData message).state = p.state := by
  unfold receiveData
  dsimp only
  split <;> exact (steady_processAck message p).state

theorem Windowed.receiveNak (windowed : p.Windowed qmax) (begun : p.Begun) (message : Message) :
    (p.receiveNak message).Windowed qmax := by
  have counted : (p.count (nakReceived message.subtype)).Windowed qmax := { windowed with }
  unfold Protocol.receiveNak
  dsimp only
  split
  case isTrue => exact counted
  case isFalse current =>
    have sending := (steady_takeAck message (p.count (nakReceived message.subtype))).state
    have again : Changes 0 _ (Protocol.takeAck message
        (p.count (nakReceived message.subtype))).retransmit :=
      changes_retransmitLoop _ _ (fun state => begun (sending.symm.trans state))
    exact (counted.takeAck begun current).changes again

theorem receiveNak_state (message : Message) (p : Protocol) :
    (p.receiveNak message).state = p.state := by
  unfold receiveNak
  dsimp only
  split
  · rfl
  · exact ((steady_takeAck message _).trans (steady_retransmitLoop _ _ _)).state

section

variable (settled : p.Settled qmax)

include settled

theorem Settled.receiveRunning (running : p.state = .running)
    (message : Message) : (p.receiveRunning message).Settled qmax := by
  have begun : p.Begun := by simp [Begun, running]
  have windowed := settled.windowed
  unfold Protocol.receiveRunning
  split
  · exact (windowed.receiveData begun message).settled_flushAck
      ((receiveData_state message p).trans running)
  · exact (windowed.processAck begun message).settled_flushAck
      ((steady_processAck message p).state.trans running)
  · exact (windowed.receiveNak begun message).settled_flushAck
      ((receiveNak_state message p).trans running)
  · have changes : Changes 0 p (p.receiveRep message) := changes_receiveRep message begun
    exact (windowed.changes changes).settled_flushAck ((changes_state changes).trans running)
  · have down : ((p.initState.report .down).withState .maintenance).Settled qmax :=
      ⟨{ windowed.settled_initState.windowed with }, rfl, .inr rfl⟩
    exact down.receiveMaintenance message
  · exact settled.doRestart
  · have raised : p.raiseAckflag.Windowed qmax := { windowed with }
    exact raised.settled_flushAck running

theorem Settled.enterMaintenance (message : Message) :
    (p.enterMaintenance.receiveMaintenance message).Settled qmax := by
  have initial := settled.windowed.settled_initState
  have entered : p.enterMaintenance.Settled qmax := ⟨{ initial.windowed with }, rfl, .inr rfl⟩
  exact entered.receiveMaintenance message

theorem Settled.follow (message : Message) : (p.follow message).Settled qmax := by
  unfold Protocol.follow
  split
  · exact (settled.enterRunning false).receiveRunning rfl message
  · exact settled

theorem Settled.receiveIstart (starting : p.state = .istart)
    (message : Message) : (p.receiveIstart message).Settled qmax := by
  unfold Protocol.receiveIstart
  split
  · have reset : p.resetStacktmr.Settled qmax :=
      ⟨{ settled.windowed with }, settled.answered, settled.quiet⟩
    have sent := reset.sendStarting makeStack
    have zero : p.a = 0 := by
      rcases settled.quiet with running | zero
      · rw [starting] at running
        cases running
      · exact zero
    have same : (p.resetStacktmr.sendStarting makeStack).a = p.a := sendFrame_a _ _ _
    exact ⟨{ sent.windowed with }, sent.answered, .inr (same.trans zero)⟩
  · exact settled.enterRunning true
  · exact settled.enterMaintenance message
  · exact settled

theorem Settled.receive (message : Message) : (p.receive message).Settled qmax := by
  unfold Protocol.receive
  split
  case h_1 => exact settled
  case h_2 starting => exact settled.receiveIstart starting message
  case h_3 =>
    unfold receiveAstart
    split
    · exact settled.sendStarting makeStack
    · exact settled.enterRunning true
    · exact settled.enterMaintenance message
    · exact settled.follow message
    · exact settled.follow message
    · exact settled
  case h_4 => exact settled.receiveMaintenance message
  case h_5 running => exact settled.receiveRunning running message

theorem Settled.receiveError (reason : UInt8) (header : Option Message) :
    (p.receiveError reason header).Settled qmax := by
  unfold Protocol.receiveError
  split
  case isFalse => exact settled
  case isTrue running =>
    have begun : p.Begun := by simp [Begun, running]
    have counted : (p.count (errorReceived reason)).Settled qmax :=
      ⟨{ settled.windowed with }, settled.answered, .inl running⟩
    split
    · exact counted.sendFrame _ _
    · split
      · rename_i message _
        have steady := steady_processAck message (p.count (errorReceived reason))
        have taken : (processAck message (p.count (errorReceived reason))).Settled qmax :=
          ⟨counted.windowed.processAck begun message, steady.ackflag.trans settled.answered,
            .inl (steady.state.trans running)⟩
        exact taken.sendFrame _ _
      · exact counted.sendFrame _ _

theorem Settled.timeout : p.timeout.Settled qmax := by
  unfold Protocol.timeout
  split
  · exact settled.sendStarting makeStart
  · exact settled.sendStarting makeStack
  · have waited : Settled { p.count repSent with acktmr := p.acktmr.next.2 } qmax :=
      ⟨{ settled.windowed with }, settled.answered, settled.quiet⟩
    exact waited.sendFrame _ _
  · exact settled

theorem Settled.send (payload : Bytes) : (p.send payload).Settled qmax := by
  unfold Protocol.send
  split
  case isTrue running =>
    have begun : (p.enqueue payload).Begun := by
      simp [Begun, enqueue, running]
    have sent : Changes 0 (p.enqueue payload) ((p.enqueue payload).sendQueued false) :=
      changes_sendQueuedLoop false rfl begun
    have steady : Steady (p.enqueue payload) ((p.enqueue payload).sendQueued false) :=
      steady_sendQueuedLoop _ _ _
    exact ⟨(settled.windowed.enqueue payload).changes sent, steady.ackflag.trans settled.answered,
      .inl (steady.state.trans running)⟩
  case isFalse => exact settled

end

inductive Input where
  | send (payload : Bytes)
  | receive (message : Message)
  | receiveError (reason : UInt8) (header : Option Message)
  | timeout | connected | restart | halt
  | sendMaintenance (payload : Bytes)
  deriving DecidableEq, Repr

def step (p : Protocol) : Input → Protocol
  | .send payload => p.send payload
  | .receive message => p.receive message
  | .receiveError reason header => p.receiveError reason header
  | .timeout => p.timeout
  | .connected => p.connected
  | .restart => p.restart
  | .halt => p.halt
  | .sendMaintenance payload => p.sendMaintenance payload

theorem Settled.step (settled : p.Settled qmax) (input : Input) : (p.step input).Settled qmax := by
  cases input with
  | send payload => exact settled.send payload
  | receive message => exact settled.receive message
  | receiveError reason header => exact settled.receiveError reason header
  | timeout => exact settled.timeout
  | connected => exact settled.windowed.connected
  | restart => exact settled.doRestart
  | halt => exact settled.windowed.halt
  | sendMaintenance payload =>
    exact settled.sendFrame (p.control (makeMaintenance payload)) 0

theorem settled_create {qmax : Nat} (positive : 0 < qmax)
    (small : qmax ≤ 255) : (create qmax).Settled qmax := by
  have limit : (create qmax).qmax = qmax := if_neg (Nat.ne_of_gt positive)
  exact ⟨windowed_of_empty limit small rfl rfl rfl rfl rfl rfl fun _ => rfl, rfl, .inr rfl⟩

/-- The payloads that are kept, in the order of their numbers. -/
def held (p : Protocol) : List Bytes :=
  (List.range p.pending).filterMap fun index =>
    (p.unack (p.a + UInt8.ofNat (index + 1))).map (·.message.payload)

theorem filterMap_range_getElem? {α : Type} (items : List α) :
    (range items.length).filterMap (fun index => items[index]?) = items := by
  induction items using reverseRecOn with
  | nil => rfl
  | append_singleton items item induction =>
    have earlier : ∀ index ∈ range items.length,
        (items ++ [item])[index]? = items[index]? := fun index member =>
      getElem?_append_left (mem_range.mp member)
    rw [length_append, length_singleton, range_succ,
      filterMap_append, filterMap_congr earlier, induction]
    simp

theorem Windowed.held (windowed : p.Windowed qmax) :
    p.held = (p.accepted.take p.numbered).drop p.acked := by
  have short := windowed.short
  have length : ((p.accepted.take p.numbered).drop p.acked).length = p.pending := by
    rw [length_drop, length_take, windowed.pending]
    omega
  have entry : ∀ index ∈ range p.pending,
      (p.unack (p.a + UInt8.ofNat (index + 1))).map (·.message.payload) =
        ((p.accepted.take p.numbered).drop p.acked)[index]? := by
    intro index member
    have below := mem_range.mp member
    rw [windowed.pending] at below
    obtain ⟨frame, stored, present⟩ := windowed.filled (p.acked + (index + 1)) (by omega) (by omega)
    rw [windowed.a, ← UInt8.ofNat_add, stored, getElem?_drop, getElem?_take_of_lt (by omega)]
    exact present.symm
  rw [Protocol.held, filterMap_congr entry, ← length]
  exact filterMap_range_getElem? _

theorem Windowed.slots (windowed : p.Windowed qmax) (slot : Seq) :
    (p.unack slot).isSome ↔ 0 < distance p.a slot ∧ distance p.a slot ≤ distance p.a p.n := by
  have small := windowed.small
  have window := windowed.window
  have pending : distance p.a p.n = p.numbered - p.acked := windowed.pending
  rw [pending, Option.isSome_iff_exists]
  constructor
  · rintro ⟨frame, stored⟩
    obtain ⟨number, above, below, rfl⟩ := windowed.clear slot frame stored
    rw [windowed.a, distance_forward (by omega) (by omega)]
    omega
  · rintro ⟨positive, bounded⟩
    obtain ⟨frame, stored, -⟩ := windowed.filled (p.acked + distance p.a slot) (by omega) (by omega)
    have place : UInt8.ofNat (p.acked + distance p.a slot) = slot := by
      rw [UInt8.ofNat_add, ← windowed.a, distance, UInt8.ofNat_toNat]
      rw [UInt8.add_comm, UInt8.sub_add_cancel]
    exact ⟨frame, place ▸ stored⟩

/-- What is kept and what is queued are the last payloads accepted. -/
theorem Windowed.suffix (windowed : p.Windowed qmax) : p.held ++ p.notsent <:+ p.accepted := by
  have ordered := windowed.ordered
  refine ⟨p.accepted.take p.acked, ?_⟩
  rw [windowed.held, ← windowed.queue, ← append_assoc]
  have first : p.accepted.take p.acked ++ (p.accepted.take p.numbered).drop p.acked =
      p.accepted.take p.numbered := by
    have part := take_append_drop p.acked (p.accepted.take p.numbered)
    rw [take_take, Nat.min_eq_left ordered] at part
    exact part
  rw [first, take_append_drop]

/-! ## Acknowledgements outside the window -/

/-- What the far end's acknowledgements act on. -/
structure Untouched (p p' : Protocol) : Prop where
  a : p'.a = p.a
  n : p'.n = p.n
  unack : p'.unack = p.unack
  notsent : p'.notsent = p.notsent
  acktmr : p'.acktmr = p.acktmr
  timer : p'.timer = p.timer

theorem untouched_flushAck (untouched : Untouched p p') : Untouched p p'.flushAck := by
  unfold flushAck
  split
  · exact { untouched with }
  · exact untouched

section

variable (settled : p.Settled qmax) (stale : p.stale message = true)

include settled stale

/-- A response outside the window is also outside while the engine starts, so
that it is not followed. -/
theorem Settled.not_follows (answered : p.state = .astart) : p.follow message = p := by
  refine if_neg fun zero => ?_
  have quiet : p.a = 0 := by
    rcases settled.quiet with running | quiet
    · rw [answered] at running
      cases running
    · exact quiet
  simp [Protocol.stale, distance, zero, quiet] at stale

theorem Settled.ack_outside (kind : message.kind = .ack ∨ message.kind = .nak) :
    ∃ counters, p.receive message = { p with counters := counters } := by
  have unanswered : ¬ p.ackflag = true := by simp [settled.answered]
  unfold Protocol.receive
  split
  case h_1 => exact ⟨p.counters, rfl⟩
  case h_2 =>
    refine ⟨p.counters, ?_⟩
    rcases kind with kind | kind <;> simp only [Protocol.receiveIstart, kind]
  case h_3 answered =>
    refine ⟨p.counters, ?_⟩
    rcases kind with kind | kind
    · simp only [receiveAstart, kind]
      exact settled.not_follows stale answered
    · simp only [receiveAstart, kind]
  case h_4 =>
    refine ⟨p.counters, ?_⟩
    rcases kind with kind | kind <;> simp only [Protocol.receiveMaintenance, kind]
  case h_5 =>
    rcases kind with kind | kind
    · refine ⟨p.counters, ?_⟩
      simp only [Protocol.receiveRunning, kind]
      rw [processAck_of_stale stale]
      exact if_neg unanswered
    · simp only [Protocol.receiveRunning, kind, Protocol.receiveNak]
      rw [if_pos (by exact stale)]
      exact ⟨_, if_neg unanswered⟩

theorem Settled.untouched_receive (sets : message.setsResp = true) :
    Untouched p (p.receive message) := by
  have same : Untouched p p := ⟨rfl, rfl, rfl, rfl, rfl, rfl⟩
  by_cases data : message.kind = .data
  · unfold Protocol.receive
    split
    case h_1 => exact same
    case h_2 => simpa [Protocol.receiveIstart, data] using same
    case h_3 answered =>
      simp only [receiveAstart, data]
      rw [settled.not_follows stale answered]
      exact same
    case h_4 => simpa [Protocol.receiveMaintenance, data] using same
    case h_5 =>
      simp only [Protocol.receiveRunning, data, Protocol.receiveData]
      rw [processAck_of_stale stale]
      apply untouched_flushAck
      split
      · exact ⟨rfl, rfl, rfl, rfl, rfl, rfl⟩
      · exact same
  · have kind : message.kind = .ack ∨ message.kind = .nak := by
      cases kind : message.kind <;> simp_all [Message.setsResp]
    obtain ⟨counters, only⟩ := settled.ack_outside stale kind
    rw [only]
    exact ⟨rfl, rfl, rfl, rfl, rfl, rfl⟩

end

theorem untouched_receiveError (stale : p.stale message = true) (reason : UInt8) :
    Untouched p (p.receiveError reason (some message)) := by
  unfold receiveError
  split
  case isFalse => exact ⟨rfl, rfl, rfl, rfl, rfl, rfl⟩
  case isTrue =>
    dsimp only
    split
    · rw [processAck_of_stale (by exact stale)]
      exact ⟨rfl, rfl, rfl, rfl, rfl, rfl⟩
    · exact ⟨rfl, rfl, rfl, rfl, rfl, rfl⟩

/-- In every state that an engine reaches, whatever it is given: the slots in
use are the numbers after `a` up to `n`, at most `qmax` of them; their payloads
and those not sent are the last that were accepted since the engine was
initialised; and an acknowledgement outside the window acts on nothing, be it in
a message that is received or in the header of a damaged one. -/
theorem window_holds {qmax : Nat} (positive : 0 < qmax) (small : qmax ≤ 255)
    (inputs : List Input) (p : Protocol) (reached : inputs.foldl step (create qmax) = p) :
    (∀ slot, (p.unack slot).isSome ↔ 0 < distance p.a slot ∧ distance p.a slot ≤ distance p.a p.n) ∧
      distance p.a p.n ≤ qmax ∧ p.held ++ p.notsent <:+ p.accepted ∧
      ∀ message : Message, distance p.a p.n < distance p.a message.resp →
        (message.setsResp = true → Untouched p (p.receive message)) ∧
        (message.kind = .ack ∨ message.kind = .nak →
          ∃ counters, p.receive message = { p with counters := counters }) ∧
        ∀ reason, Untouched p (p.receiveError reason (some message)) := by
  have settled : p.Settled qmax := by
    rw [← reached]
    exact @Run.foldl_invariant _ _ step _ (fun p => p.Settled qmax)
      (fun _ input settled => settled.step input) inputs (settled_create positive small)
  have windowed := settled.windowed
  refine ⟨windowed.slots, ?_, windowed.suffix, ?_⟩
  · have pending : distance p.a p.n = p.numbered - p.acked := windowed.pending
    have window := windowed.window
    omega
  · intro message outside
    have stale : p.stale message = true := decide_eq_true outside
    exact ⟨settled.untouched_receive stale, settled.ack_outside stale, untouched_receiveError stale⟩

/-- An engine with a window of two that has been given three payloads, of which
the first has been acknowledged. -/
def threeSent : List Input :=
  [.connected, .receive makeStack, .send [1], .send [2], .send [3], .receive (makeAck 1)]

theorem window_holds_threeSent :
    (threeSent.foldl step (create 2)).held = [[2], [3]] ∧ (threeSent.foldl step (create 2)).held ++
        (threeSent.foldl step (create 2)).notsent <:+
          (threeSent.foldl step (create 2)).accepted := by
  refine ⟨by decide +kernel, ?_⟩
  exact (window_holds (by decide) (by decide) threeSent _ rfl).2.2.1

end Decnet.Ddcmp.Protocol
