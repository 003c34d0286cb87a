import Decnet.Nsp.Wraparound

/-!
# Disconnecting after sending

`disconnect` sends its message at once, in front of the segments that the
window, the peer's credit or an XOFF holds back, and those are never sent.
Over a network that brings every packet in its turn, what was submitted at one
end has been handed up at the other when the disconnect arrives, if every
segment had been sent before it.
-/

namespace Decnet.Nsp

open Relation World List

/-- The acknowledgement in a packet is fewer than 2048 numbers old when it
arrives.  A segment carries the acknowledgement of the moment when it was
queued, so it may be old even if no packet is delayed. -/
def Frame.AcksRecent (c : Connection) (f : Frame) : Prop :=
  match f.packet with
  | .dataSeg _ => c.front < f.acks + 2048
  | .ackData _ => c.front < f.acks + 2048
  | _ => True

namespace Connection

/-! ## What has arrived -/

def reaches (count : Nat) (c : Connection) : Nat :=
  highest 0 (numbers (c.outbox.take count))

/-- The first `count` packets that one end sent have arrived at the other, one
by one. -/
structure Arrived (count : Nat) (c d : Connection) : Prop where
  within : count ≤ c.outbox.length
  taken : d.Taken c.stream (c.reaches count)
  caught : c.reaches count ≤ d.rcvd

variable {c c' d d' : Connection} {count number : Nat} {f : Frame}

theorem reaches_le_sentTo (count : Nat) (c : Connection) : c.reaches count ≤ c.sentTo := by
  have split := take_append_drop count c.outbox
  unfold reaches sentTo numbers
  rw [← split, filterMap_append, highest_append, split]
  exact le_highest _ _

theorem reaches_succ (next : c.outbox[count]? = some f) :
    c.reaches (count + 1) = highest (c.reaches count) f.dataNumber.toList := by
  unfold reaches numbers
  rw [take_add_one, next]
  cases numbered : f.dataNumber with
  | none | some number => simp [numbered]

/-- The next segment is in sequence with those before it or repeats one of the
last window. -/
theorem Sending.next (sending : c.Sending) (next : c.outbox[count]? = some f)
    (numbered : f.dataNumber = some number) :
    number ≤ c.reaches count + 1 ∧ c.reaches count < number + c.span := by
  have split : c.outbox = c.outbox.take count ++ f :: c.outbox.drop (count + 1) := by
    obtain ⟨inside, rfl⟩ := List.getElem?_eq_some_iff.mp next
    rw [getElem_cons_drop, take_append_drop]
  have order := sending.inOrder
  rw [split, numbers, filterMap_append, filterMap_cons_some numbered, InOrder.append] at order
  exact order.2.1

section

variable (arrived : Arrived count c d) (sending : c.Sending)

include arrived sending

theorem Arrived.sender (sent : c.outbox <+: c'.outbox) (grown : c.stream <+: c'.stream) :
    Arrived count c' d := by
  have same : c'.reaches count = c.reaches count := by
    obtain ⟨more, longer⟩ := sent
    unfold reaches
    rw [← longer, take_append_of_le_length arrived.within]
  constructor
  case within => exact arrived.within.trans sent.length_le
  case taken =>
    rw [same]
    refine ⟨?_, arrived.taken.2⟩
    exact arrived.taken.1.mono grown (Nat.le_refl _)
      ((reaches_le_sentTo count c).trans sending.sentTo_le)
  case caught => exact same ▸ arrived.caught

/-- When all segments have arrived all messages have been handed up. -/
theorem Arrived.complete (all : c.queued ≤ c.reaches count) : d.messages = c.submitted := by
  have caught := arrived.caught
  rw [sending.queued] at all
  have whole := Assembly.foldl_messages c.segmentLimit c.submitted []
  have taken : d.messages = (reassemble c.stream d.rcvd).delivered :=
    congrArg Assembly.delivered arrived.taken.1.assembled
  rw [taken, reassemble, take_of_length_le (by omega)]
  exact congrArg Assembly.delivered whole

theorem Arrived.recent (span : c.span ≤ 2047) (next : c.outbox[count]? = some f)
    (recent : f.AcksRecent d) : f.Recent d := by
  unfold Frame.AcksRecent at recent
  unfold Frame.Recent
  cases kind : f.packet with
  | dataSeg segment =>
    rw [kind] at recent
    obtain ⟨_, above⟩ := sending.next next
      (show f.dataNumber = some f.number by simp [Frame.dataNumber, kind])
    have reached := arrived.taken.1.reached
    exact ⟨by omega, recent⟩
  | ackData header =>
    rw [kind] at recent
    exact recent
  | _ => trivial

end

end Connection

namespace World

open Connection

variable {τ : Type*} {sc : SessionControl τ} {w : World τ} {link : Ptr}
  {input : Input τ} {far : Connection} {count : Nat}

def arriving (link : Ptr) (w : World τ) : Input τ → Option Packet
  | .deliver src packet =>
    if w.recipient src packet = some link then some packet else none
  | _ => none

theorem arriving_eq_some {packet : Packet} :
    w.arriving link input = some packet ↔ ∃ src, input = .deliver src packet ∧
        w.recipient src packet = some link := by
  cases input with
  | deliver src other =>
    simp only [arriving, Option.ite_none_right_eq_some, Option.some.injEq, Input.deliver.injEq]
    constructor
    · rintro ⟨found, rfl⟩
      exact ⟨src, ⟨rfl, rfl⟩, found⟩
    · rintro ⟨_, ⟨rfl, rfl⟩, found⟩
      exact ⟨found, rfl⟩
  | _ => simp [arriving]

/-- What a step brings is the next packet that the far end sent, and does not
ask to close the link. -/
def InTurn (link : Ptr) (far : Connection) (count : Nat) (w : World τ) (input : Input τ) : Prop :=
  ∀ packet, w.arriving link input = some packet →
    ∃ f, far.outbox[count]? = some f ∧ f.packet = packet ∧
      f.closing = false ∧ f.AcksRecent (w.links link)

def counted (link : Ptr) (count : Nat) (w : World τ) (input : Input τ) : Nat :=
  if (w.arriving link input).isSome then count + 1 else count

theorem InTurn.network (inTurn : w.InTurn link far count input)
    (arrived : Arrived count far (w.links link)) (sending : far.Sending)
    (span : far.span ≤ 2047) : w.Network link far input := by
  cases input with
  | deliver src packet =>
    intro found
    obtain ⟨f, next, same, _, recent⟩ := inTurn packet (arriving_eq_some.mpr ⟨src, rfl, found⟩)
    exact .inl ⟨f, mem_of_getElem? next, same, arrived.recent sending span next recent⟩
  | _ => trivial

theorem arrived_segment (present : link < w.allocated)
    (running : (w.links link).state = .run) (sending : far.Sending)
    (span : far.span ≤ 2047) (arrived : Arrived count far (w.links link))
    {f : Frame} (next : far.outbox[count]? = some f) {segment : DataSeg}
    (same : f.packet = .dataSeg segment) :
    Arrived (count + 1) far ((w.receive sc link (.dataSeg segment)).links link) := by
  have numbered : f.dataNumber = some f.number := by
    simp [Frame.dataNumber, same]
  have further := reaches_succ next
  rw [numbered, Option.toList_some, highest_cons, highest_nil] at further
  obtain ⟨inSequence, inWindow⟩ := sending.next next numbered
  have sound := sending.outbox f (mem_of_getElem? next)
  unfold Frame.Sound at sound
  rw [same] at sound
  obtain ⟨_, packet, segnum, piece, _⟩ := sound.packet
  rw [same] at packet
  cases packet
  have touched : (w.modify link Connection.touch).links link = (w.links link).touch := by simp
  have still := receiving_touch (w.links link)
  have reached := arrived.taken.1.reached
  have caught := arrived.caught
  have inside := (reaches_le_sentTo count far).trans sending.sentTo_le
  have before : (w.links link).Taken far.stream (far.reaches (count + 1)) :=
    ⟨arrived.taken.1.mono prefix_rfl (by omega) inside, arrived.taken.2⟩
  obtain ⟨taken, kept, took⟩ := @taken_handleData τ sc far.stream
    (far.reaches (count + 1)) (w.modify link Connection.touch) link present
    (touched.symm ▸ before.receiving still)
    (by rw [touched, still.rcvd]; omega) segment f.number segnum (by omega)
    (by rw [touched, still.rcvd]; omega) piece
  rw [touched, still.rcvd] at kept took
  rw [receive_dataSeg running]
  refine ⟨?_, taken, ?_⟩
  · obtain ⟨inside, _⟩ := List.getElem?_eq_some_iff.mp next
    exact inside
  · rw [further]
    refine max_le (caught.trans kept) ?_
    rcases Nat.lt_or_ge (w.links link).rcvd f.number with new | old
    · exact took (by omega)
    · exact old.trans kept

theorem arrived_step (known : Known w) (present : link < w.allocated)
    (running : (w.links link).state = .run) (sending : far.Sending)
    (span : far.span ≤ 2047) (arrived : Arrived count far (w.links link))
    (inTurn : w.InTurn link far count input) :
    Arrived (w.counted link count input) far ((w.step sc input).links link) := by
  unfold counted
  by_cases data : ∃ src segment, input = .deliver src (.dataSeg segment) ∧
      w.recipient src (.dataSeg segment) = some link
  · obtain ⟨src, segment, rfl, found⟩ := data
    have arrives : w.arriving link (.deliver src (.dataSeg segment)) =
        some (.dataSeg segment) := arriving_eq_some.mpr ⟨src, rfl, found⟩
    obtain ⟨f, next, same, _⟩ := inTurn _ arrives
    rw [arrives, step_deliver found]
    exact arrived_segment present running sending span arrived next same
  · obtain ⟨taken, further⟩ := @silent_step τ sc w link input far.stream
      (far.reaches count) known present running arrived.taken data
    have caught := arrived.caught.trans further
    cases arrives : w.arriving link input with
    | none => exact ⟨arrived.within, taken, caught⟩
    | some packet =>
      obtain ⟨f, next, same, _⟩ := inTurn packet arrives
      have plain : f.dataNumber = none := by
        unfold Frame.dataNumber
        split
        case h_1 segment kind =>
          obtain ⟨src, sent, found⟩ := arriving_eq_some.mp arrives
          rw [kind] at same
          subst same
          exact absurd ⟨src, segment, sent, found⟩ data
        case h_2 => rfl
      have further := reaches_succ next
      rw [plain] at further
      obtain ⟨inside, _⟩ := List.getElem?_eq_some_iff.mp next
      exact ⟨inside, further ▸ taken, further ▸ caught⟩

theorem inTurn_step {other : Nat} (known : Known w)
    (present : link < w.allocated) (running : (w.links link).state = .run)
    (out : OneWay (w.links link) far) (back : OneWay far (w.links link))
    (sent : Arrived other (w.links link) far) (arrived : Arrived count far (w.links link))
    (inTurn : w.InTurn link far count input) (stays : ((w.step sc input).links link).state = .run)
    (counts : ((w.step sc input).links link).Counts) :
    Arrived other ((w.step sc input).links link) far ∧ Arrived (w.counted link count input) far
        ((w.step sc input).links link) ∧
      ∀ f ∈ ((w.step sc input).links link).outbox, f.closing = true →
        f ∈ (w.links link).outbox := by
  have network := inTurn.network arrived back.sending back.span
  obtain ⟨changes, _⟩ := @changes_network τ sc w link input far known present running back network
  have onward : Onward (some (far.rcvd + 1)) (w.links link) ((w.step sc input).links link) :=
    onward_changes (.inl running) (fun _ _ _ => id) changes
  refine ⟨?_, ?_, (onward.sent stays counts out.sending).plain⟩
  · exact sent.sender out.sending onward.outbox
      (stream_mono onward.submitted (onward.segsize stays))
  · exact arrived_step known present running back.sending back.span arrived inTurn

end World

/-! ## Leaving run state -/

namespace Connection

/-- A link that was disconnected when it was `c`. -/
structure Departed (c c' : Connection) : Prop extends After c c' where
  left : c'.state ≠ .run
  complete : c'.submitted = c.submitted
  closes : ∃ f rest, f.closing = true ∧ c'.outbox = c.outbox ++ f :: rest

def AllSent (c : Connection) : Prop :=
  c.queued ≤ highest 0 (numbers (c.outbox.takeWhile fun f => !f.closing))

instance (c : Connection) : Decidable c.AllSent :=
  inferInstanceAs (Decidable (_ ≤ _))

/-- A link that was in run state is in it still, is closed, or was
disconnected. -/
def Parts (bound : Option Nat) (c c' : Connection) : Prop :=
  Onward bound c c' ∧ c'.state = .run ∨ c'.state = .cl ∨
    ∃ middle, Onward bound c middle ∧ middle.state = .run ∧ Departed middle c'

variable {bound : Option Nat} {c c' c'' : Connection} {config : NspConfig}

theorem Departed.after (departed : Departed c c') (after : After c' c'') : Departed c c'' where
  toAfter := departed.toAfter.trans after
  left := fun running => departed.left (after.running running)
  complete := (after.idle departed.left).trans departed.complete
  closes := by
    obtain ⟨f, rest, closing, same⟩ := departed.closes
    obtain ⟨more, longer⟩ := after.outbox
    refine ⟨f, rest ++ more, closing, ?_⟩
    rw [← longer, same, append_assoc, cons_append]

theorem parts_called (running : c.state = .run) (call : Call) :
    Parts bound c (called config call c) := by
  have onward : Onward bound c (called config call c) := onward_called (.inl running) config call
  obtain ⟨c', same, outcome⟩ := called_outcome config call c
  rw [same] at onward ⊢
  cases outcome with
  | ignored | interrupted => exact .inl ⟨onward, running⟩
  | unconfirmed _ _ _ waiting | accepted _ _ _ _ waiting =>
    rw [running] at waiting
    cases waiting
  | rejected => exact .inr (.inl rfl)
  | left link reason data =>
    have here : Onward bound c c := (Ran.refl c).onward (.inl running)
    refine .inr (.inr ⟨c, here, running, ?_⟩)
    exact { onward with
      left := ConnState.noConfusion
      complete := rfl
      closes := ⟨⟨c.discInit reason data, 0, c.rcvd⟩, [], rfl, rfl⟩ }
  | sent link data =>
    exact .inl ⟨onward, (kept_sendData data c).state.trans running⟩

theorem Parts.called (parts : Parts bound c c') (call : Call) :
    Parts bound c (called config call c') := by
  rcases parts with ⟨onward, running⟩ | closed | ⟨middle, before, running, departed⟩
  · rcases parts_called running call with ⟨next, still⟩ | shut | ⟨middle, before, inRun, departed⟩
    · exact .inl ⟨onward.trans next, still⟩
    · exact .inr (.inl shut)
    · exact .inr (.inr ⟨middle, onward.trans before, inRun, departed⟩)
  · exact .inr (.inl (closed_called closed call))
  · have after := (@onward_called none c' departed.opened config call).toAfter
    exact .inr (.inr ⟨middle, before, running, departed.after after⟩)

theorem Parts.calls {ok : Call → Prop} (parts : Parts bound c c')
    (calls : Called config ok c' c'') : Parts bound c c'' :=
  calls.keeps parts fun _ call _ still => still.called call

theorem Parts.ran (parts : Parts bound c c') (ran : Ran bound c' c'') : Parts bound c c'' := by
  rcases parts with ⟨onward, running⟩ | closed | ⟨middle, before, running, departed⟩
  · exact .inl ⟨onward.trans (ran.onward (.inl running)), ran.state.trans running⟩
  · exact .inr (.inl (ran.state.trans closed))
  · have after := (ran.onward departed.opened).toAfter
    exact .inr (.inr ⟨middle, before, running, departed.after after⟩)

theorem parts_changes {heeds : Heeds} {permits : Permits} (running : c.state = .run)
    (honest : ∀ c ack onData, heeds.ack c ack onData → Honest bound c ack onData)
    (changes : ReflTransGen (Change heeds permits config) c c') : Parts bound c c' := by
  induction changes with
  | refl => exact .inl ⟨(Ran.refl c).onward (.inl running), running⟩
  | @tail middle final before last ih =>
    have opened : middle.Opened := (onward_changes (.inl running) honest before).opened
    cases last with
    | op _ op => exact ih.ran (ran_op opened (honest middle) op)
    | call call => exact ih.called call
    | inform _ upcall _ _ calls =>
      have noted : Ran bound middle (middle.noteEvent upcall) := .plain
      exact (ih.ran noted).calls calls
    | confirmed _ _ opening | refused _ _ _ opening =>
      exact (opened.not_opening opening).elim
    | ended => exact .inr (.inl rfl)
    | lapsed link waiting kind => simp [Opened, waiting] at opened

end Connection

/-! ## Two ends and the packets between them -/

/-- Two nodes with a link between them, and how many of the packets of each end
have arrived at the other. -/
structure Lanes (τ σ : Type*) extends Pair τ σ where
  (toLeft toRight : Nat)

namespace Lanes

open Connection Pair

variable {τ σ : Type*} (near : SessionControl τ) (far : SessionControl σ) (a b : Ptr)

def step (lanes : Lanes τ σ) (input : Input τ σ) : Lanes τ σ :=
  { toPair := lanes.toPair.step near far input
    toLeft := match input with
      | .left input => lanes.left.counted a lanes.toLeft input
      | .right _ => lanes.toLeft
    toRight := match input with
      | .left _ => lanes.toRight
      | .right input => lanes.right.counted b lanes.toRight input }

/-- Every packet arrives in its turn.  The left end leaves run state only by
`disconnect`, and the right end stays in it until that message arrives. -/
def InTurn (lanes : Lanes τ σ) : Input τ σ → Prop
  | .left input => (lanes.here a).state = .run →
      lanes.left.InTurn a (lanes.there b) lanes.toLeft input ∧
        (((lanes.left.step near input).links a).state = .run ∨
          ((lanes.left.step near input).links a).state = .di)
  | .right input =>
    lanes.right.InTurn b (lanes.here a) lanes.toRight input ∧
      ((lanes.right.step far input).links b).state = .run

/-- Two ends that have just come to run state, with packets of the handshake
perhaps still on their way. -/
structure Begins (lanes : Lanes τ σ) : Prop extends Pair.Begins a b lanes.toPair where
  toLeft : lanes.toLeft ≤ (lanes.there b).outbox.length
  toRight : lanes.toRight ≤ (lanes.here a).outbox.length
  plain : ∀ f ∈ (lanes.here a).outbox, f.closing = false

structure Together (lanes : Lanes τ σ) : Prop where
  joined : lanes.toPair.Joined a b
  out : Arrived lanes.toRight (lanes.here a) (lanes.there b)
  back : Arrived lanes.toLeft (lanes.there b) (lanes.here a)
  plain : ∀ f ∈ (lanes.here a).outbox, f.closing = false

/-- The left end was disconnected when it was `c`. -/
structure Apart (c : Connection) (lanes : Lanes τ σ) : Prop where
  knownLeft : Known lanes.left
  knownRight : Known lanes.right
  presentLeft : a < lanes.left.allocated
  presentRight : b < lanes.right.allocated
  running : (lanes.there b).state = .run
  sending : c.Sending
  span : c.span ≤ 2047
  out : Arrived lanes.toRight c (lanes.there b)
  plain : ∀ f ∈ c.outbox, f.closing = false
  departed : Departed c (lanes.here a)

variable {near far a b} {lanes : Lanes τ σ}

theorem arrived_start {c d : Connection} {count : Nat} (sender : c.Unused)
    (receiver : d.Unused) (within : count ≤ c.outbox.length) : Arrived count c d := by
  have none : c.reaches count = 0 := by
    have low := reaches_le_sentTo count c
    rw [sender.sentTo] at low
    exact Nat.le_zero.mp low
  refine ⟨within, ?_, ?_⟩
  · rw [sender.stream, none]
    exact receiver.taken
  · rw [none]
    exact Nat.zero_le _

theorem Begins.together (begins : lanes.Begins a b) : lanes.Together a b where
  joined := begins.joined
  out := arrived_start begins.unusedLeft begins.unusedRight begins.toRight
  back := arrived_start begins.unusedRight begins.unusedLeft begins.toLeft
  plain := begins.plain

theorem Together.stays (together : lanes.Together a b) {input : Input τ σ}
    (inTurn : lanes.InTurn near far a b input) (room : lanes.toPair.Room near far a b input)
    (stays : ((lanes.step near far a b input).here a).state = .run) :
    (lanes.step near far a b input).Together a b := by
  have joined := together.joined
  cases input with
  | left input =>
    have inTurn := (inTurn joined.runningLeft).1
    have joins : lanes.toPair.Joins near far a b (.left input) :=
      ⟨inTurn.network together.back joined.back.sending joined.back.span, stays⟩
    obtain ⟨out, back, plain⟩ := inTurn_step joined.knownLeft
      joined.presentLeft joined.runningLeft joined.out joined.back
      together.out together.back inTurn stays room.1
    refine ⟨joined.step joins room, out, back, ?_⟩
    intro f member
    by_contra closing
    have old := plain f member (Bool.eq_true_of_not_eq_false closing)
    exact closing (together.plain f old)
  | right input =>
    obtain ⟨inTurn, remains⟩ := inTurn
    have joins : lanes.toPair.Joins near far a b (.right input) :=
      ⟨inTurn.network together.out joined.out.sending joined.out.span, remains⟩
    obtain ⟨back, out, _⟩ := inTurn_step joined.knownRight
      joined.presentRight joined.runningRight joined.back joined.out
      together.back together.out inTurn remains room.2
    exact ⟨joined.step joins room, out, back, together.plain⟩

theorem Together.departs (together : lanes.Together a b) {input : Input τ}
    (inTurn : lanes.InTurn near far a b (.left input))
    (room : lanes.toPair.Room near far a b (.left input))
    (left : ((lanes.left.step near input).links a).state = .di) :
    ∃ c, (lanes.step near far a b (.left input)).Apart a b c := by
  have joined := together.joined
  have network := (inTurn joined.runningLeft).1.network together.back
    joined.back.sending joined.back.span
  obtain ⟨changes, known, present⟩ := @changes_network τ near lanes.left
    a input (lanes.there b) joined.knownLeft joined.presentLeft
    joined.runningLeft joined.back network
  have parts : Parts (some ((lanes.there b).rcvd + 1)) (lanes.here a)
      ((lanes.left.step near input).links a) :=
    parts_changes joined.runningLeft (fun _ _ _ => id) changes
  rcases parts with ⟨_, state⟩ | state | ⟨c, onward, running, departed⟩
  · rw [left] at state
    cases state
  · rw [left] at state
    cases state
  · have counts := departed.toAfter.counts room.1
    have out := joined.out.sender running counts onward
    have earlier := onward.sent running counts joined.out.sending
    refine ⟨c, known, joined.knownRight, present, joined.presentRight,
      joined.runningRight, out.sending, out.span, ?_, ?_, departed⟩
    · exact together.out.sender joined.out.sending onward.outbox
        (stream_mono onward.submitted (onward.segsize running))
    · intro f member
      by_contra closing
      have old := earlier.plain f member (Bool.eq_true_of_not_eq_false closing)
      exact closing (together.plain f old)

/-- After that the left end sends no more segments, and the right end goes on
taking those that were sent. -/
theorem Apart.step {c : Connection} (apart : lanes.Apart a b c)
    {input : Input τ σ} (inTurn : lanes.InTurn near far a b input) :
    (lanes.step near far a b input).Apart a b c := by
  cases input with
  | left input =>
    obtain ⟨changes, known, present⟩ := @changes_step τ near lanes.left
      a input .all apart.knownLeft apart.presentLeft apart.departed.opened
      (fun _ packet _ _ _ => heeded_all _ packet)
    have onward : Onward none (lanes.here a) ((lanes.left.step near input).links a) :=
      onward_changes apart.departed.opened (fun _ _ _ _ _ bounded => nomatch bounded) changes
    exact { apart with
      knownLeft := known
      presentLeft := present
      departed := apart.departed.after onward.toAfter }
  | right input =>
    obtain ⟨inTurn, remains⟩ := inTurn
    have sent : lanes.right.InTurn b c lanes.toRight input := by
      intro packet arrives
      obtain ⟨f, next, same, mild, recent⟩ := inTurn packet arrives
      refine ⟨f, ?_, same, mild, recent⟩
      obtain ⟨g, rest, closing, outbox⟩ := apart.departed.closes
      rw [outbox] at next
      rcases Nat.lt_or_eq_of_le apart.out.within with before | last
      · rwa [getElem?_append_left before] at next
      · rw [last, getElem?_append_right (Nat.le_refl _), Nat.sub_self] at next
        cases next
        rw [mild] at closing
        cases closing
    obtain ⟨_, known, present⟩ := @changes_step σ far lanes.right b
      input .all apart.knownRight apart.presentRight (.inl apart.running)
      (fun _ packet _ _ _ => heeded_all _ packet)
    exact { apart with
      knownRight := known
      presentRight := present
      running := remains
      out := arrived_step apart.knownRight apart.presentRight
        apart.running apart.sending apart.span apart.out sent }

/-- Everything before the disconnect has arrived. -/
theorem Apart.handedUp {c : Connection} (apart : lanes.Apart a b c)
    {f : Frame} (next : (lanes.here a).outbox[lanes.toRight]? = some f)
    (closing : f.closing = true) (allSent : (lanes.here a).AllSent) :
    (lanes.there b).messages = c.submitted := by
  obtain ⟨g, rest, closes, outbox⟩ := apart.departed.closes
  have plain : ∀ f ∈ c.outbox, (!f.closing) = true := by
    intro f member
    rw [apart.plain f member]
    rfl
  have last : c.outbox.length ≤ lanes.toRight := by
    by_contra before
    rw [outbox, getElem?_append_left (Nat.lt_of_not_le before)] at next
    have isOpen := apart.plain f (mem_of_getElem? next)
    rw [closing] at isOpen
    cases isOpen
  have queued := apart.departed.queued
  unfold AllSent at allSent
  rw [outbox, takeWhile_append_of_pos plain, takeWhile_cons_of_neg
    (by simp [closes]), append_nil] at allSent
  refine apart.out.complete apart.sending ?_
  unfold reaches
  rw [take_of_length_le last]
  exact queued.trans allSent

/-- If every segment had been sent before the link was disconnected, all that
was submitted has been handed up when the disconnect arrives. -/
theorem messages_before_disconnect (begins : lanes.Begins a b) {inputs : List (Input τ σ)}
    (inTurn : Run.Guarded (step near far a b) (InTurn near far a b) lanes inputs)
    (room : Run.Guarded (step near far a b)
      (fun lanes => lanes.toPair.Room near far a b) lanes inputs) :
    let final := inputs.foldl (step near far a b) lanes
    ∀ f, (final.here a).outbox[final.toRight]? = some f → f.closing = true →
      (final.here a).AllSent → (final.there b).messages = (final.here a).submitted := by
  intro final f next closing allSent
  have both := inTurn.and room
  have reached : final.Together a b ∨ ∃ c, final.Apart a b c := by
    refine @Run.Guarded.invariant _ _ _ _ _ _
      (fun lanes => lanes.Together a b ∨ ∃ c, lanes.Apart a b c) ?_ both (.inl begins.together)
    rintro lanes input (together | ⟨c, apart⟩) ⟨inTurn, room⟩
    · cases input with
      | left input =>
        rcases (inTurn together.joined.runningLeft).2 with stays | left
        · exact .inl (together.stays inTurn room stays)
        · exact .inr (together.departs inTurn room left)
      | right input =>
        exact .inl (together.stays inTurn room together.joined.runningLeft)
    · exact .inr ⟨c, apart.step inTurn⟩
  rcases reached with together | ⟨c, apart⟩
  · have plain := together.plain f (mem_of_getElem? next)
    rw [closing] at plain
    cases plain
  · have complete : (final.here a).submitted = c.submitted := apart.departed.complete
    rw [complete]
    exact apart.handedUp next closing allSent

/-! ## From the handshake on -/

/-- Two nodes after the handshake, with all its packets arrived. -/
def opened : Lanes Unit Unit where
  toPair := Pair.opened
  toLeft := 2
  toRight := 2

theorem opened_begins : opened.Begins 0 0 :=
  { Pair.opened_begins with
    toLeft := by decide +kernel
    toRight := by decide +kernel
    plain := by decide +kernel }

abbrev moves : Lanes Unit Unit → Input Unit Unit → Lanes Unit Unit :=
  step quiet quiet 0 0

/-- Messages of one byte are submitted, the link is disconnected, and the first
segment arrives. -/
def partingWith (messages : List Bytes) : List (Input Unit Unit) :=
  messages.map (fun data => .left (.act (.sendData 0 data))) ++ [.left (.act (.disconnect 0 0 [])),
      .right (.deliver 1026 (.dataSeg (nextSegment 0 [1])))]

theorem segment_inTurn {lanes : Lanes Unit Unit} (next : (lanes.here 0).outbox[lanes.toRight]? =
      some ⟨.dataSeg (nextSegment 0 [1]), 1, 0⟩) (recent : (lanes.there 0).front < 2048)
    (stays : ((lanes.right.step quiet (.deliver 1026
      (.dataSeg (nextSegment 0 [1])))).links 0).state = .run) :
    lanes.InTurn quiet quiet 0 0 (.right (.deliver 1026 (.dataSeg (nextSegment 0 [1])))) := by
  refine ⟨?_, stays⟩
  intro packet arrives
  obtain ⟨_, same, _⟩ := arriving_eq_some.mp arrives
  cases same
  exact ⟨_, next, rfl, rfl, recent⟩

theorem messages_before_disconnect_single :
    ((partingWith [[1]]).foldl moves opened).toRight = 3 ∧
      (((partingWith [[1]]).foldl moves opened).there 0).messages =
        (((partingWith [[1]]).foldl moves opened).here 0).submitted := by
  have inTurn : Run.Guarded moves (InTurn quiet quiet 0 0) opened (partingWith [[1]]) :=
    ⟨fun _ => ⟨nofun, .inl (by decide +kernel)⟩, fun _ => ⟨nofun, .inr (by decide +kernel)⟩,
      segment_inTurn (by decide +kernel) (by decide +kernel) (by decide +kernel), trivial⟩
  have room : Run.Guarded moves (fun lanes => lanes.toPair.Room quiet quiet 0 0) opened
      (partingWith [[1]]) :=
    ⟨⟨by decide +kernel, by decide +kernel⟩, ⟨by decide +kernel, by decide +kernel⟩,
      ⟨by decide +kernel, by decide +kernel⟩, trivial⟩
  exact ⟨by decide +kernel, messages_before_disconnect opened_begins inTurn
    room ⟨.discInit ⟨7, 1, 0, []⟩, 0, 0⟩ (by decide +kernel) rfl (by decide +kernel)⟩

/-- The second message is held back by the window when the link is
disconnected, and never sent.  The other end is told of the disconnect without
having been handed it. -/
theorem disconnect_loses_message :
    opened.Begins 0 0 ∧ Run.Guarded moves (InTurn quiet quiet 0 0) opened
        (partingWith [[1], [2]]) ∧ (let final := (partingWith [[1], [2]]).foldl moves opened
      (final.here 0).outbox[final.toRight]? = some ⟨.discInit ⟨7, 1, 0, []⟩, 0, 0⟩ ∧
        (final.here 0).submitted = [[1], [2]] ∧ ((final.right.step quiet (.deliver 1026
          (.discInit ⟨7, 1, 0, []⟩))).links 0).events =
          [.connectReceived [], .runState, .dataReceived [1], .disconnected 0 []]) := by
  refine ⟨opened_begins, ?_, ?_⟩
  · exact ⟨fun _ => ⟨nofun, .inl (by decide +kernel)⟩, fun _ => ⟨nofun, .inl (by decide +kernel)⟩,
      fun _ => ⟨nofun, .inr (by decide +kernel)⟩,
      segment_inTurn (by decide +kernel) (by decide +kernel) (by decide +kernel), trivial⟩
  · exact ⟨by decide +kernel, by decide +kernel, by decide +kernel⟩

end Lanes

end Decnet.Nsp
