import Decnet.Nsp.Taking

/-!
# Two ends of a link

Two nodes each have one end of a link in run state, and the network between
them brings copies of what either end sent, in any order and any number, as
long as a copy is not too old.  What one end has handed up is then always a
beginning of what was submitted at the other.
-/

namespace Decnet.Nsp

open Relation

/-! ## What the network brings -/

/-- A copy of a frame is fewer than 2048 numbers old when it arrives: its
segment counted from the one that is expected, its acknowledgement from the
oldest segment that is not acknowledged. -/
def Frame.Recent (c : Connection) (f : Frame) : Prop :=
  match f.packet with
  | .dataSeg _ => c.rcvd + 1 < f.number + 2048 ∧ c.front < f.acks + 2048
  | .ackData _ => c.front < f.acks + 2048
  | _ => True

namespace Connection

variable {c c' d : Connection}

/-- A packet is a copy of one that the far end sent, or asks for segments to
be sent again that the far end does not have. -/
def Brings (far c : Connection) (packet : Packet) : Prop :=
  (∃ f ∈ far.outbox, f.packet = packet ∧ f.Recent c) ∨ ∃ header count, packet = .ackData header ∧
      header.acknum = some ⟨Mod.wrap count, .nak⟩ ∧ header.acknum2 = none ∧
      count ≤ far.rcvd ∧ c.front < count + 2048

/-- Honest acknowledgements of data, and anything else. -/
def honestHeeds (bound : Nat) : Heeds :=
  ⟨Honest (some bound), True, True, fun _ => True⟩

def silentHeeds : Heeds :=
  ⟨fun _ _ _ => True, False, True, fun _ => True⟩

theorem front_touch (c : Connection) : c.touch.front = c.front := by
  unfold touch
  split <;> rfl

theorem honest_none (bound : Option Nat) (c : Connection) (onData : Bool) :
    Honest bound c none onData :=
  fun _ _ _ absent => nomatch absent

theorem honest_count {bound count : Nat} (qual : Qual) (below : count < bound)
    (fresh : c.front < count + 2048) (onData : Bool) :
    Honest (some bound) c (some ⟨Mod.wrap count, qual⟩) onData := by
  intro limit bounded a same _
  cases bounded
  cases same
  exact ⟨count, rfl, below, fresh⟩

theorem heeded_sound {stream : List Piece} {f : Frame} {known : Nat}
    (sound : f.Sound stream known) (recent : f.Recent c) :
    World.Heeded (honestHeeds (known + 1)) c f.packet := by
  have touched := front_touch c
  unfold Frame.Sound at sound
  unfold Frame.Recent at recent
  cases kind : f.packet with
  | dataSeg segment =>
    rw [kind] at sound recent
    obtain ⟨other, same, _, _, acknum, acknum2⟩ := sound.packet
    rw [kind] at same
    cases same
    refine ⟨trivial, ?_, ?_⟩
    · rw [acknum]
      exact honest_count _ (Nat.lt_succ_of_le sound.acks) (touched ▸ recent.2) true
    · rw [acknum2]
      exact honest_none _ _ _
  | ackData header =>
    rw [kind] at sound recent
    obtain ⟨acknum, acknum2, acks⟩ := sound
    refine ⟨?_, ?_⟩
    · rw [acknum]
      exact honest_count _ (Nat.lt_succ_of_le acks) (touched ▸ recent) true
    · rw [acknum2]
      exact honest_none _ _ _
  | ackOther header =>
    rw [kind] at sound
    obtain ⟨⟨num, acknum⟩, acknum2⟩ := sound
    refine ⟨?_, ?_⟩
    · rw [acknum]
      intro limit _ a same forData
      cases same
      cases forData
    · rw [acknum2]
      exact honest_none _ _ _
  | linkSvc message =>
    rw [kind] at sound
    exact sound.elim
  | intMsg | _ => trivial

theorem Brings.heeded {stream : List Piece} {packet : Packet} (brings : Brings d c packet)
    (sound : ∀ f ∈ d.outbox, f.Sound stream d.rcvd) :
    World.Heeded (honestHeeds (d.rcvd + 1)) c packet := by
  rcases brings with ⟨f, member, rfl, recent⟩ | ⟨header, count, rfl, acknum, acknum2, known, fresh⟩
  · exact heeded_sound (sound f member) recent
  · refine ⟨?_, ?_⟩
    · rw [acknum]
      exact honest_count _ (Nat.lt_succ_of_le known) (front_touch c ▸ fresh) true
    · rw [acknum2]
      exact honest_none _ _ _

/-! ## One direction -/

/-- What one end has sent and the other has taken. -/
structure OneWay (c d : Connection) : Prop where
  sending : c.Sending
  span : c.span ≤ 2047
  acked : c.front ≤ d.rcvd + 1
  taken : d.Taken c.stream c.sentTo

theorem Sending.sentTo_le (sending : c.Sending) : c.sentTo ≤ c.stream.length := by
  refine highest_le (Nat.zero_le _) ?_
  intro number member
  obtain ⟨f, present, numbered⟩ := List.mem_filterMap.mp member
  have sound := sending.outbox f present
  unfold Frame.dataNumber at numbered
  unfold Frame.Sound at sound
  split at numbered
  case h_1 segment same =>
    rw [same] at sound
    cases numbered
    exact sound.le_length
  case h_2 => cases numbered

theorem sentTo_mono (longer : c.outbox <+: c'.outbox) : c.sentTo ≤ c'.sentTo := by
  obtain ⟨more, same⟩ := longer
  unfold sentTo numbers
  rw [← same, List.filterMap_append, highest_append]
  exact le_highest _ _

theorem stream_mono (submitted : c.submitted <+: c'.submitted)
    (segsize : c'.segsize = c.segsize) : c.stream <+: c'.stream := by
  obtain ⟨more, same⟩ := submitted
  unfold stream segmentLimit
  rw [← same, segsize, List.flatMap_append]
  exact List.prefix_append _ _

theorem OneWay.near (oneWay : OneWay c d) : c.sentTo < d.rcvd + 2048 := by
  have ahead := oneWay.sending.ahead
  have span := oneWay.span
  have acked := oneWay.acked
  omega

theorem OneWay.sender (oneWay : OneWay c d) (running : c'.state = .run)
    (counts : c'.Counts) (onward : Onward (some (d.rcvd + 1)) c c') : OneWay c' d where
  sending := onward.sending running counts oneWay.sending
  span := by
    unfold Connection.span
    rw [onward.qmax]
    exact oneWay.span
  acked := (onward.sent running counts oneWay.sending).front _ rfl oneWay.acked
  taken := by
    have grown := stream_mono onward.submitted (onward.segsize running)
    refine ⟨?_, oneWay.taken.2⟩
    exact oneWay.taken.1.mono grown (sentTo_mono onward.outbox) oneWay.sending.sentTo_le

theorem OneWay.receiver {d' : Connection} (oneWay : OneWay c d)
    (rcvd : d.rcvd ≤ d'.rcvd) (taken : d'.Taken c.stream c.sentTo) : OneWay c d' :=
  { oneWay with
    acked := oneWay.acked.trans (Nat.succ_le_succ rcvd)
    taken := taken }

/-- What was handed up is a beginning of what was submitted. -/
theorem OneWay.delivered (oneWay : OneWay c d) : d.messages <+: c.submitted := by
  have taken : d.messages = (reassemble c.stream d.rcvd).delivered :=
    congrArg Assembly.delivered oneWay.taken.1.assembled
  rw [taken]
  exact delivered_reassemble c.segmentLimit c.submitted d.rcvd

end Connection

/-- Nothing has been sent or received on the data subchannel of a link that
is in run state. -/
structure Connection.Unused (c : Connection) : Prop where
  running : c.state = .run
  submitted : c.submitted = []
  queued : c.queued = 0
  txq : c.txq = []
  nextSend : c.nextSend = Mod.wrap 1
  nextSegnum : c.nextSegnum = 1
  nextExpect : c.nextExpect = Mod.wrap 1
  rcvd : c.rcvd = 0
  ooo : c.ooo = ∅
  assembled : c.assembled = Assembly.empty
  outbox : ∀ f ∈ c.outbox, f.dataNumber = none ∧ f.Sound [] 0

namespace Connection

variable {c d : Connection}

section

variable (unused : c.Unused)

include unused

theorem Unused.stream : c.stream = [] := by
  unfold Connection.stream
  rw [unused.submitted]
  rfl

theorem Unused.numbers : numbers c.outbox = [] := by
  unfold Nsp.numbers
  rw [List.filterMap_eq_nil_iff]
  exact fun f member => (unused.outbox f member).1

theorem Unused.sentTo : c.sentTo = 0 := by
  unfold Connection.sentTo
  rw [unused.numbers]
  rfl

theorem Unused.front : c.front = 1 := by
  unfold Connection.front
  rw [unused.queued, unused.txq]
  rfl

theorem Unused.sending : c.Sending := by
  constructor
  case toQueue =>
    constructor
    case nextExpect => rw [unused.nextExpect, unused.rcvd]
    case nextSend => rw [unused.nextSend, unused.queued]
    case nextSegnum =>
      rw [unused.nextSegnum, unused.queued]
      decide
    case fits => rw [unused.txq]; exact Nat.zero_le _
    case txq => rw [unused.txq]; trivial
    case outbox =>
      intro f member
      rw [unused.stream, unused.rcvd]
      exact (unused.outbox f member).2
    case inOrder => rw [unused.numbers]; trivial
    case reached => rw [unused.front, unused.sentTo]
    case ahead =>
      rw [unused.front, unused.sentTo]
      omega
  case queued => rw [unused.queued, unused.stream]; rfl

theorem Unused.taken : c.Taken [] 0 := by
  have none (key : Nat) : c.ooo.lookup key = none := by
    rw [unused.ooo]
    exact AList.lookup_empty key
  constructor
  · constructor
    case expects => rw [unused.nextExpect, unused.rcvd]
    case reached => rw [unused.rcvd]
    case assembled => rw [unused.assembled, unused.rcvd]; rfl
    case held =>
      intro key segment found
      rw [none key] at found
      cases found
  · exact none _

end

theorem OneWay.start (sender : c.Unused) (receiver : d.Unused)
    (qmax : c.qmax ≤ 2047) : OneWay c d where
  sending := sender.sending
  span := max_le (by decide) qmax
  acked := by rw [sender.front, receiver.rcvd]
  taken := by
    rw [sender.stream, sender.sentTo]
    exact receiver.taken

end Connection

/-! ## One end in its node -/

namespace World

open Connection

variable {τ : Type*} {sc : SessionControl τ} {w : World τ} {link : Ptr} {input : Input τ}

/-- What the network brings to a link comes from its far end. -/
def Network (link : Ptr) (far : Connection) (w : World τ) :
    Input τ → Prop
  | .deliver src packet =>
    w.recipient src packet = some link → Brings far (w.links link) packet
  | _ => True

/-- What a step makes of a link that has been opened, if what arrives there may
be processed. -/
theorem changes_step {heeds : Heeds} (known : Known w)
    (present : link < w.allocated) (opened : (w.links link).Opened)
    (heeded : ∀ src packet, input = .deliver src packet →
      w.recipient src packet = some link → (w.links link).state = .run →
        Heeded heeds (w.links link) packet) :
    ReflTransGen (Change heeds (fun _ _ => True) w.config) (w.links link)
        ((w.step sc input).links link) ∧
      Known (w.step sc input) ∧ link < (w.step sc input).allocated := by
  have free : CallsOk (fun _ => True) (w.step sc input) := fun _ _ => trivial
  have attentive : w.AttentiveEach sc (Function.update (fun _ => .all) link heeds) input := by
    cases input with
    | deliver src packet =>
      intro other found
      by_cases same : other = link
      · subst same
        rw [Function.update_self]
        refine ⟨heeded src packet rfl found, ?_, ?_⟩
        · intro state
          simp [Opened, state] at opened
        · rintro (state | state) <;> simp [Opened, state] at opened
      · rw [Function.update_of_ne same]
        exact ⟨fun _ => heeded_all _ packet, fun _ => heeded_all _ packet,
          fun _ => taught_all packet⟩
    | _ => trivial
  have tracks : Tracks (Function.update (fun _ => .all) link heeds)
      (fun _ _ => True) w (w.step sc input) := tracks_step within_all known attentive free
  have changes := tracks.old link present
  rw [Function.update_self] at changes
  exact ⟨changes, tracks.known known, present.trans_le tracks.allocated⟩

theorem receive_dataSeg (running : (w.links link).state = .run) (segment : DataSeg) :
    w.receive sc link (.dataSeg segment) =
      (w.modify link Connection.touch).handleData sc link segment := by
  simp only [receive, dispatch, running, stateFunction, run]

theorem step_deliver {src : Nodeid} {packet : Packet} (found : w.recipient src packet = some link) :
    w.step sc (.deliver src packet) = w.receive sc link packet :=
  deliver_of_recipient found

variable {far : Connection}

theorem taken_arrival (present : link < w.allocated) (running : (w.links link).state = .run)
    (oneWay : OneWay far (w.links link)) {segment : DataSeg}
    (brings : Brings far (w.links link) (.dataSeg segment)) :
    ((w.receive sc link (.dataSeg segment)).links link).Taken far.stream far.sentTo := by
  rcases brings with ⟨f, member, same, recent⟩ | ⟨_, _, other, _⟩
  · have sound := oneWay.sending.outbox f member
    unfold Frame.Sound at sound
    unfold Frame.Recent at recent
    rw [same] at sound recent
    obtain ⟨_, packet, segnum, piece, _⟩ := sound.packet
    rw [same] at packet
    cases packet
    have sent : f.number ≤ far.sentTo := by
      refine le_highest_of_mem (List.mem_filterMap.mpr ⟨f, member, ?_⟩)
      simp [Frame.dataNumber, same]
    have touched : (w.modify link Connection.touch).links link = (w.links link).touch := by simp
    have still := receiving_touch (w.links link)
    have taken := oneWay.taken.receiving still
    have near := oneWay.near
    rw [receive_dataSeg running]
    refine (taken_handleData (by exact present) (touched.symm ▸ taken) ?_ segnum sent ?_ piece).1
    · rw [touched, still.rcvd]
      exact near
    · rw [touched, still.rcvd]
      exact recent.1
  · cases other

theorem silent_step {stream : List Piece} {top : Nat} (known : Known w)
    (present : link < w.allocated) (running : (w.links link).state = .run)
    (taken : (w.links link).Taken stream top)
    (other : ¬ ∃ src segment, input = .deliver src (.dataSeg segment) ∧
      w.recipient src (.dataSeg segment) = some link) :
    ((w.step sc input).links link).Taken stream top ∧
      (w.links link).rcvd ≤ ((w.step sc input).links link).rcvd := by
  have heeded : ∀ src packet, input = .deliver src packet →
      w.recipient src packet = some link → (w.links link).state = .run →
        Heeded silentHeeds (w.links link) packet := by
    rintro src packet rfl found -
    cases packet with
    | dataSeg segment => exact absurd ⟨src, segment, rfl, found⟩ other
    | _ => trivial
  obtain ⟨changes, _⟩ := @changes_step τ sc w link input silentHeeds known
    present (.inl running) heeded
  have onward : Onward none (w.links link) ((w.step sc input).links link) :=
    onward_changes (.inl running) (fun _ _ _ _ _ bounded => nomatch bounded) changes
  exact ⟨taken.changes (.inl running) id changes, onward.rcvd⟩

section

variable (known : Known w) (present : link < w.allocated) (running : (w.links link).state = .run)

include known present running

theorem taken_step (oneWay : OneWay far (w.links link)) (network : w.Network link far input) :
    ((w.step sc input).links link).Taken far.stream far.sentTo := by
  by_cases arrives : ∃ src segment, input = .deliver src (.dataSeg segment) ∧
      w.recipient src (.dataSeg segment) = some link
  · obtain ⟨src, segment, rfl, found⟩ := arrives
    rw [step_deliver found]
    exact taken_arrival present running oneWay (network found)
  · exact (silent_step known present running oneWay.taken arrives).1

/-- What the far end sent changes a link in run state only by honest
acknowledgements. -/
theorem changes_network (back : OneWay far (w.links link)) (network : w.Network link far input) :
    ReflTransGen (Change (honestHeeds (far.rcvd + 1)) (fun _ _ => True)
        w.config) (w.links link) ((w.step sc input).links link) ∧
      Known (w.step sc input) ∧ link < (w.step sc input).allocated := by
  refine changes_step known present (.inl running) ?_
  rintro src packet rfl found -
  exact (network found).heeded back.sending.outbox

theorem oneWay_step (out : OneWay (w.links link) far) (back : OneWay far (w.links link))
    (network : w.Network link far input) (stays : ((w.step sc input).links link).state = .run)
    (counts : ((w.step sc input).links link).Counts) :
    OneWay ((w.step sc input).links link) far ∧ OneWay far ((w.step sc input).links link) ∧
      Known (w.step sc input) ∧ link < (w.step sc input).allocated := by
  obtain ⟨changes, known', present'⟩ := @changes_network τ sc w link input far
    known present running back network
  have onward : Onward (some (far.rcvd + 1)) (w.links link) ((w.step sc input).links link) :=
    onward_changes (.inl running) (fun _ _ _ => id) changes
  refine ⟨out.sender stays counts onward, ?_, known', present'⟩
  exact back.receiver onward.rcvd (taken_step known present running back network)

end

end World

/-! ## Both ends -/

/-- Two nodes with a link between them. -/
structure Pair (τ σ : Type*) where
  left : World τ
  right : World σ

inductive Pair.Input (τ σ : Type*) where
  | left (input : World.Input τ)
  | right (input : World.Input σ)

namespace Pair

open Connection

variable {τ σ : Type*} (near : SessionControl τ) (far : SessionControl σ)

def step (pair : Pair τ σ) : Input τ σ → Pair τ σ
  | .left input => { pair with left := pair.left.step near input }
  | .right input => { pair with right := pair.right.step far input }

variable (a b : Ptr)

def here (pair : Pair τ σ) : Connection := pair.left.links a

def there (pair : Pair τ σ) : Connection := pair.right.links b

/-- The network joins the two ends, and the step closes neither. -/
def Joins (pair : Pair τ σ) (input : Input τ σ) : Prop :=
  match input with
  | .left input => pair.left.Network a (pair.there b) input ∧
      ((pair.left.step near input).links a).state = .run
  | .right input => pair.right.Network b (pair.here a) input ∧
      ((pair.right.step far input).links b).state = .run

/-- After the step the segments queued in the life of each end leave room for
a window in the absolute segment numbers. -/
def Room (pair : Pair τ σ) (input : Input τ σ) : Prop :=
  ((pair.step near far input).here a).Counts ∧ ((pair.step near far input).there b).Counts

/-- The two ends are in run state and each takes what the other sends. -/
structure Joined (pair : Pair τ σ) : Prop where
  knownLeft : World.Known pair.left
  knownRight : World.Known pair.right
  presentLeft : a < pair.left.allocated
  presentRight : b < pair.right.allocated
  runningLeft : (pair.here a).state = .run
  runningRight : (pair.there b).state = .run
  out : OneWay (pair.here a) (pair.there b)
  back : OneWay (pair.there b) (pair.here a)

/-- Two ends that have just come to run state, with a window that is less
than half the number space. -/
structure Begins (pair : Pair τ σ) : Prop where
  knownLeft : World.Known pair.left
  knownRight : World.Known pair.right
  presentLeft : a < pair.left.allocated
  presentRight : b < pair.right.allocated
  unusedLeft : (pair.here a).Unused
  unusedRight : (pair.there b).Unused
  qmaxLeft : (pair.here a).qmax ≤ 2047
  qmaxRight : (pair.there b).qmax ≤ 2047

variable {near far a b} {pair : Pair τ σ}

theorem Begins.joined (begins : pair.Begins a b) : pair.Joined a b :=
  { begins with
    runningLeft := begins.unusedLeft.running
    runningRight := begins.unusedRight.running
    out := .start begins.unusedLeft begins.unusedRight begins.qmaxLeft
    back := .start begins.unusedRight begins.unusedLeft begins.qmaxRight }

theorem Joined.step (joined : pair.Joined a b) {input : Input τ σ}
    (joins : pair.Joins near far a b input) (room : pair.Room near far a b input) :
    (pair.step near far input).Joined a b := by
  cases input with
  | left input =>
    obtain ⟨network, stays⟩ := joins
    obtain ⟨out, back, known, present⟩ := World.oneWay_step joined.knownLeft
      joined.presentLeft joined.runningLeft joined.out joined.back network stays room.1
    exact { joined with
      knownLeft := known
      presentLeft := present
      runningLeft := stays
      out := out
      back := back }
  | right input =>
    obtain ⟨network, stays⟩ := joins
    obtain ⟨back, out, known, present⟩ := World.oneWay_step
      joined.knownRight joined.presentRight joined.runningRight joined.back
      joined.out network stays room.2
    exact { joined with
      knownRight := known
      presentRight := present
      runningRight := stays
      out := out
      back := back }

/-- Over a network that loses, repeats and reorders packets each end hands up
a beginning of what was submitted at the other, as long as the absolute
segment numbers do not wrap. -/
theorem messages_in_order (begins : pair.Begins a b) {inputs : List (Input τ σ)}
    (joins : Run.Guarded (step near far) (Joins near far a b) pair inputs)
    (room : Run.Guarded (step near far) (Room near far a b) pair inputs) :
    let final := inputs.foldl (step near far) pair
    (final.there b).messages <+: (final.here a).submitted ∧
      (final.here a).messages <+: (final.there b).submitted := by
  intro final
  have both := joins.and room
  have joined : final.Joined a b :=
    both.invariant (fun _ _ joined good => joined.step good.1 good.2) begins.joined
  exact ⟨joined.out.delivered, joined.back.delivered⟩

end Pair

end Decnet.Nsp
