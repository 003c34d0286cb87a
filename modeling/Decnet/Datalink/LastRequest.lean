import Decnet.Datalink.Reconnect

/-!
# The last request of a datalink's owner

The owner of a point to point datalink opens, closes and restarts it by work
items, in one queue with the items of the receive thread and of the timer and
with those that the datalink queues for itself.  A datalink that has come to
rest in `s0` should have been closed last, and a datalink that was closed last
should not open a connection again.  Both fail: a Start that is handled while
the datalink shuts down is dropped, and what the datalink has queued for itself
behind a Stop opens it again.
-/

namespace Decnet.Ptp

open Datalink List

inductive Request where
  | start | stop | restart
  deriving DecidableEq, Repr

def Request.item {ρ : Type*} : Request → Item ρ
  | .start => .start
  | .stop => .stop
  | .restart => .restart

def Item.opens {ρ : Type*} : Item ρ → Bool
  | .start => true
  | .reconnect _ => true
  | .restart => true
  | _ => false

def Item.isStop {ρ : Type*} : Item ρ → Bool
  | .stop => true
  | _ => false

def Item.isExit {ρ : Type*} : Item ρ → Bool
  | .threadExit => true
  | _ => false

/-- The datalink has a connection or is going to have one. -/
def LinkState.isOpen : LinkState → Bool
  | .connecting => true
  | .running => true
  | .reconnecting => true
  | _ => false

variable {π ρ : Type*}

namespace Datalink

variable {d d' : Datalink π ρ} {added rest : List (Item ρ)} {prompt : Bool}

/-! ## What is wanted -/

/-- The datalink is open with no Stop to come, or an item that opens it is
queued and no Stop behind it. -/
def Wants (d : Datalink π ρ) : Prop :=
  (d.state.isOpen = true ∧ ∀ item ∈ d.queue, item.isStop = false) ∨
    ∃ before item after, d.queue = before ++ item :: after ∧
      item.opens = true ∧ ∀ later ∈ after, later.isStop = false

/-- The datalink is closed or shuts down, and nothing that is queued opens
it. -/
structure Closed (d : Datalink π ρ) : Prop where
  state : d.state = .s0 ∧ d.thread = .absent ∨ d.state = .shutdown
  queue : ∀ item ∈ d.queue, item.opens = false ∧ item.isStop = false

/-- The exit of the thread is queued exactly once, from when the thread is over
until it is joined. -/
def Exits (d : Datalink π ρ) : Prop :=
  d.queue.countP Item.isExit = if d.thread = .exited then 1 else 0

theorem Wants.append (wants : Wants d) (state : d'.state = d.state)
    (queue : d'.queue = d.queue ++ added)
    (goesOn : ∀ item ∈ added, item.isStop = false) : Wants d' := by
  rcases wants with ⟨isOpen, none⟩ | ⟨before, item, after, eq, opens, none⟩
  · refine .inl ⟨state ▸ isOpen, ?_⟩
    rw [queue]
    exact forall_mem_append.mpr ⟨none, goesOn⟩
  · refine .inr ⟨before, item, after ++ added, ?_, opens, ?_⟩
    · rw [queue, eq, append_assoc]
      rfl
    · exact forall_mem_append.mpr ⟨none, goesOn⟩

theorem wants_of_last {before : List (Item ρ)} {item : Item ρ} (queue : d.queue = before ++ [item])
    (opens : item.opens = true) : Wants d :=
  .inr ⟨before, item, [], queue, opens, nofun⟩

theorem Closed.append (closed : Closed d)
    (state : d'.state = d.state) (thread : d.thread = .absent → d'.thread = .absent)
    (queue : d'.queue = d.queue ++ added)
    (harmless : ∀ item ∈ added, item.opens = false ∧ item.isStop = false) : Closed d' where
  state := by
    rw [state]
    exact closed.state.imp_left fun halted => ⟨halted.1, thread halted.2⟩
  queue := by
    rw [queue]
    exact forall_mem_append.mpr ⟨closed.queue, harmless⟩

theorem Exits.append (exits : Exits d) (thread : d'.thread = .exited ↔ d.thread = .exited)
    (queue : d'.queue = d.queue ++ added)
    (none : ∀ item ∈ added, item.isExit = false) : Exits d' := by
  have zero : added.countP Item.isExit = 0 :=
    countP_eq_zero.mpr fun item member => by simp [none item member]
  unfold Exits
  rw [queue, countP_append, zero, Nat.add_zero, exits]
  simp only [thread]

/-! ## Items off the queue -/

/-- What an item adds to the queue is a Start or a request to reconnect. -/
def Adds (rest : List (Item ρ)) (d : Datalink π ρ) : Prop :=
  ∃ added, d.queue = rest ++ added ∧ ∀ item ∈ added, item.isStop = false ∧ item.isExit = false

theorem adds_nothing (same : d.queue = rest) : Adds rest d :=
  ⟨[], by rw [same, append_nil], nofun⟩

theorem adds_one {item : Item ρ} (more : d.queue = rest ++ [item]) (goesOn : item.isStop = false)
    (other : item.isExit = false) : Adds rest d := by
  refine ⟨[item], more, ?_⟩
  intro added member
  cases mem_singleton.mp member
  exact ⟨goesOn, other⟩

theorem Reopens.adds (reopens : Reopens prompt d d') : Adds d.queue d' := by
  cases reopens with
  | goesOn state waits same => exact adds_nothing same
  | opens state more => exact adds_one more rfl rfl

theorem Passes.adds (passes : Passes d d') : Adds d.queue d' := by
  cases passes with
  | stays _ same | runs _ _ same => exact adds_nothing same
  | asks _ _ more | opens _ _ more => exact adds_one more rfl rfl

theorem Handled.adds {item : Item ρ} (handled : Handled d item d') : Adds d.queue d' := by
  cases handled with
  | start _ _ same | stop _ _ same | finished _ _ _ same =>
    exact adds_nothing same
  | reconnect _ reopens | restart reopens | exited _ reopens =>
    exact reopens.adds
  | passes _ _ passes => exact passes.adds

theorem Reopens.wants (reopens : Reopens prompt d d')
    (none : ∀ item ∈ d.queue, item.isStop = false) : Wants d' := by
  cases reopens with
  | goesOn state waits same =>
    refine .inl ⟨?_, same ▸ none⟩
    rcases state with state | state <;> rw [state] <;> rfl
  | opens state more => exact wants_of_last more rfl

theorem Passes.wants (passes : Passes d d') (isOpen : d.state.isOpen = true)
    (none : ∀ item ∈ d.queue, item.isStop = false) : Wants d' := by
  cases passes with
  | stays state same => exact .inl ⟨state ▸ isOpen, same ▸ none⟩
  | runs before state same =>
    exact .inl ⟨by rw [state]; rfl, same ▸ none⟩
  | asks before state more => exact wants_of_last more rfl
  | opens before state more => exact wants_of_last more rfl

theorem Handled.wants_of_isOpen {item : Item ρ} (handled : Handled d item d')
    (isOpen : d.state.isOpen = true) (goesOn : item.isStop = false)
    (none : ∀ item ∈ d.queue, item.isStop = false) : Wants d' := by
  cases handled with
  | start state thread same =>
    have begun : d.state ≠ .s0 := by
      intro halted
      rw [halted] at isOpen
      cases isOpen
    refine .inl ⟨?_, same ▸ none⟩
    rw [state, if_neg begun]
    exact isOpen
  | stop => cases goesOn
  | reconnect _ reopens | restart reopens | exited _ reopens =>
    exact reopens.wants none
  | finished shutdown =>
    rw [shutdown] at isOpen
    cases isOpen
  | passes _ _ passes => exact passes.wants isOpen none

/-- The item that is to open the datalink is handled, and not by a datalink
that shuts down unless another one follows. -/
theorem Handled.wants_of_opens {item : Item ρ} (handled : Handled d item d')
    (opens : item.opens = true) (none : ∀ item ∈ d.queue, item.isStop = false)
    (heeded : item = .start → d.state = .shutdown →
      ∃ later ∈ d.queue, later.opens = true) : Wants d' := by
  cases handled with
  | start state thread same =>
    by_cases shutdown : d.state = .shutdown
    · obtain ⟨later, member, again⟩ := heeded rfl shutdown
      obtain ⟨before, after, eq⟩ := append_of_mem member
      refine .inr ⟨before, later, after, same.trans eq, again, ?_⟩
      intro item behind
      apply none
      rw [eq]
      exact mem_append_right _ (mem_cons_of_mem _ behind)
    · refine .inl ⟨?_, same ▸ none⟩
      rw [state]
      cases begun : d.state with
      | s0 => rfl
      | shutdown => exact absurd begun shutdown
      | connecting | running | reconnecting => rfl
  | reconnect _ reopens | restart reopens => exact reopens.wants none
  | stop | finished | exited => cases opens
  | passes item other =>
    have request : item.isRequest = true := by
      cases item <;> first | rfl | cases opens
    rw [other.1] at request
    cases request

theorem Wants.work (wants : Wants d) (kind : Kind π ρ)
    (stale : Bool) {item : Item ρ} (queue : d.queue = item :: rest)
    (heeded : item = .start → d.state = .shutdown →
      ∃ later ∈ rest, later.opens = true) : Wants (d.work kind stale) := by
  have handled := handled_work kind stale queue
  rcases wants with ⟨isOpen, none⟩ | ⟨before, opening, after, eq, opens, none⟩
  · rw [queue, forall_mem_cons] at none
    exact handled.wants_of_isOpen isOpen none.1 none.2
  · cases before with
    | nil =>
      cases queue.symm.trans eq
      exact handled.wants_of_opens opens none heeded
    | cons first before =>
      cases queue.symm.trans eq
      obtain ⟨added, more, harmless⟩ := handled.adds
      refine .inr ⟨before, opening, after ++ added, ?_, opens, ?_⟩
      · exact more.trans (append_assoc before (opening :: after) added)
      · exact forall_mem_append.mpr ⟨none, fun item member => (harmless item member).1⟩

/-- Only the exit of the thread changes whether the thread is over, and it is
joined then. -/
theorem Handled.thread {item : Item ρ} (handled : Handled d item d') :
    if item.isExit then d'.thread = .absent
      else d'.thread = .exited ↔ d.thread = .exited := by
  cases handled with
  | start state thread =>
    rcases thread with same | ⟨absent, trying⟩
    · rw [same]
      exact Iff.rfl
    · rw [absent, trying]
      exact iff_of_false nofun nofun
  | stop _ same | reconnect _ _ same | restart _ same =>
    rw [same]
    exact Iff.rfl
  | finished _ _ gone | exited _ _ gone => exact gone
  | passes item other _ same =>
    have stays : item.isExit = false := by
      cases item <;> first | rfl | exact absurd rfl other.2
    rw [stays, same]
    exact Iff.rfl

theorem Exits.work (exits : Exits d) (kind : Kind π ρ) (stale : Bool) {item : Item ρ}
    (queue : d.queue = item :: rest) : Exits (d.work kind stale) := by
  have handled := handled_work kind stale queue
  obtain ⟨added, more, harmless⟩ := handled.adds
  have thread := handled.thread
  have count : (d.work kind stale).queue.countP Item.isExit = rest.countP Item.isExit := by
    have zero : added.countP Item.isExit = 0 :=
      countP_eq_zero.mpr fun other member => by
        simp [(harmless other member).2]
    rw [more, countP_append, zero, Nat.add_zero]
  unfold Exits at exits ⊢
  rw [queue, countP_cons] at exits
  rw [count]
  cases exit : item.isExit with
  | false =>
    rw [exit] at exits thread
    have same : (d.work kind stale).thread = .exited ↔ d.thread = .exited := thread
    simpa [same] using exits
  | true =>
    -- the thread is joined, and its exit was the only one queued
    rw [exit] at exits thread
    have gone : (d.work kind stale).thread = .absent := thread
    rw [gone]
    by_cases isOver : d.thread = .exited
    · rw [if_pos isOver] at exits
      exact Nat.succ.inj exits
    · rw [if_neg isOver] at exits
      exact absurd exits (Nat.succ_ne_zero _)

theorem Passes.closed (passes : Passes d d')
    (thread : d'.thread = d.thread) (closed : Closed d) : Closed d' := by
  have idle : d.state ≠ .connecting ∧ d.state ≠ .reconnecting := by
    rcases closed.state with ⟨state, -⟩ | state
    · rw [state]
      exact ⟨nofun, nofun⟩
    · rw [state]
      exact ⟨nofun, nofun⟩
  cases passes with
  | stays state same =>
    exact closed.append state thread.trans (same.trans (append_nil _).symm) nofun
  | runs before => exact absurd before idle.1
  | asks before => exact absurd before idle.1
  | opens before => exact absurd before idle.2

theorem Closed.work (closed : Closed d) (exits : Exits d)
    (kind : Kind π ρ) (stale : Bool) : Closed (d.work kind stale) := by
  cases queue : d.queue with
  | nil =>
    unfold Datalink.work
    rw [queue]
    exact closed
  | cons item rest =>
    have handled := handled_work kind stale queue
    have harmless := closed.queue
    rw [queue, forall_mem_cons] at harmless
    obtain ⟨⟨shut, goesOn⟩, later⟩ := harmless
    cases handled with
    | start | reconnect | restart => cases shut
    | stop => cases goesOn
    | passes _ _ passes thread =>
      exact passes.closed thread ⟨closed.state, later⟩
    | finished _ halted gone same =>
      exact ⟨.inl ⟨halted, gone⟩, same ▸ later⟩
    | exited awake =>
      -- the exit is queued, so there was a thread to shut down
      rcases closed.state with ⟨-, absent⟩ | shutdown
      · unfold Exits at exits
        rw [queue, absent] at exits
        simp [Item.isExit] at exits
      · exact absurd shutdown awake

theorem closed_work_stop (kind : Kind π ρ) (stale : Bool) (queue : d.queue = .stop :: rest)
    (harmless : ∀ item ∈ rest, item.opens = false ∧ item.isStop = false) :
    Closed (d.work kind stale) := by
  have handled := handled_work kind stale queue
  cases handled with
  | stop state thread same =>
    refine ⟨?_, same ▸ harmless⟩
    by_cases absent : d.thread = .absent
    · exact .inl ⟨state.trans (if_pos absent), thread.trans absent⟩
    · exact .inr (state.trans (if_neg absent))
  | passes _ other => cases other.1

end Datalink

/-- A datalink with its owner's last request, and whether a connection was
opened after the owner's last request, a close, had been handled. -/
structure Tracked (π ρ : Type*) where
  link : Datalink π ρ
  last : Option Request
  reopened : Bool

/-- What can happen: beside the steps of the datalink, requests of its owner,
requests to reconnect that it makes itself, and that it sets its timer while it
connects. -/
inductive Event (ρ : Type*) where
  | request (request : Request)
  | reconnect (now : Bool)
  | connectTimer (seconds : Nat)
  | send (payload : Ddcmp.Bytes)
  | threadConnects
  | threadReceives (packet : ρ)
  | threadExits | expire
  | dispatch (stale : Bool)
  deriving DecidableEq, Repr

namespace Tracked

def create (protocol : π) : Tracked π ρ := ⟨.create protocol, none, false⟩

/-- The owner's last request was a close, and it has been handled. -/
def Shut (t : Tracked π ρ) : Prop :=
  t.last = some .stop ∧ ∀ item ∈ t.link.queue, item.isStop = false

instance (t : Tracked π ρ) : Decidable t.Shut :=
  inferInstanceAs (Decidable (_ ∧ _))

def opening (t : Tracked π ρ) : Bool :=
  match t.link.state, t.link.queue with
  | .s0, .start :: _ => true
  | _, _ => false

def step (kind : Kind π ρ) (t : Tracked π ρ) : Event ρ → Tracked π ρ
  | .request request =>
    { t with link := t.link.addWork request.item, last := some request }
  | .reconnect now => { t with link := t.link.addWork (.reconnect now) }
  | .connectTimer seconds =>
    if t.link.state = .connecting then
      { t with link := { t.link with timer := some seconds } }
    else t
  | .send payload => { t with link := t.link.step kind (.send payload) }
  | .threadConnects => { t with link := t.link.step kind .threadConnects }
  | .threadReceives packet =>
    { t with link := t.link.step kind (.threadReceives packet) }
  | .threadExits => { t with link := t.link.step kind .threadExits }
  | .expire => { t with link := t.link.step kind .expire }
  | .dispatch stale =>
    { t with
      link := t.link.step kind (.dispatch stale)
      reopened := t.reopened || (decide t.Shut && t.opening) }

/-- Nothing is queued, no receive thread runs and no timer is pending. -/
def Quiescent (t : Tracked π ρ) : Prop :=
  t.link.queue = [] ∧ t.link.thread ≠ .trying ∧ t.link.thread ≠ .receiving ∧ t.link.timer = none

/-- At rest the datalink is halted only if it was closed last or never asked
for anything, and after a close it has not opened a connection again. -/
def LastWins (t : Tracked π ρ) : Prop :=
  (t.Quiescent → t.link.state = .s0 → t.last = none ∨ t.last = some .stop) ∧ t.reopened = false

/-- What the items may do: a Start is not handled while the datalink shuts down
if it was the last to open it and the owner has not closed it since; nothing
that opens the datalink stands behind the Stop of the owner's last request; and
the datalink does not ask to be reconnected after that Stop. -/
def Heeds (t : Tracked π ρ) : Event ρ → Prop
  | .dispatch _ =>
    match t.link.queue with
    | .start :: rest =>
      t.link.state = .shutdown → t.last ≠ some .stop → ∃ later ∈ rest, later.opens = true
    | .stop :: rest =>
      t.last = some .stop → (∀ item ∈ rest, item.isStop = false) → ∀ item ∈ rest, item.opens = false
    | _ => True
  | .reconnect _ => ¬ t.Shut
  | _ => True

instance (t : Tracked π ρ) : DecidablePred t.Heeds := by
  intro event
  cases event with
  | dispatch stale =>
    unfold Heeds
    dsimp only
    split <;> infer_instance
  | reconnect now => exact inferInstanceAs (Decidable (¬ t.Shut))
  | _ => exact .isTrue trivial

structure Sound (t : Tracked π ρ) : Prop where
  exits : t.link.Exits
  wanted : ∀ request, t.last = some request → request ≠ .stop → t.link.Wants
  closed : t.Shut → t.link.Closed
  quiet : t.reopened = false

variable {t : Tracked π ρ}

section

variable (sound : t.Sound)

include sound

theorem Sound.grow {d : Datalink π ρ} {added : List (Item ρ)} (state : d.state = t.link.state)
    (thread : t.link.thread = .absent → d.thread = .absent)
    (queue : d.queue = t.link.queue ++ added) (exits : d.Exits)
    (harmless : ∀ item ∈ added, item.opens = false ∧ item.isStop = false) :
    Sound { t with link := d } where
  exits := exits
  wanted request last other :=
    (sound.wanted request last other).append state queue fun item member => (harmless item member).2
  closed shut := by
    refine (sound.closed ⟨shut.1, ?_⟩).append state thread queue harmless
    intro item member
    apply shut.2
    rw [queue]
    exact mem_append_left _ member
  quiet := sound.quiet

theorem Sound.request (request : Request) :
    Sound { t with
      link := t.link.addWork request.item, last := some request } where
  exits := by
    refine sound.exits.append Iff.rfl rfl ?_
    intro item member
    cases mem_singleton.mp member
    cases request <;> rfl
  wanted asked last other := by
    refine wants_of_last rfl ?_
    cases last
    cases request with
    | start => rfl
    | stop => exact absurd rfl other
    | restart => rfl
  closed shut := by
    -- the Stop is still queued
    cases shut.1
    have handled := shut.2 .stop (mem_append_right _ mem_cons_self)
    cases handled
  quiet := sound.quiet

theorem Sound.reconnect (now : Bool) (asks : ¬ t.Shut) :
    Sound { t with link := t.link.addWork (.reconnect now) } where
  exits := by
    refine sound.exits.append Iff.rfl rfl ?_
    intro item member
    cases mem_singleton.mp member
    rfl
  wanted request last other := by
    refine (sound.wanted request last other).append rfl rfl ?_
    intro item member
    cases mem_singleton.mp member
    rfl
  closed shut :=
    absurd ⟨shut.1, fun item member => shut.2 item (mem_append_left _ member)⟩ asks
  quiet := sound.quiet

theorem Sound.threads (kind : Kind π ρ) :
    Sound { t with link := t.link.step kind .threadConnects } ∧
      Sound { t with link := t.link.step kind .threadExits } ∧ ∀ packet, Sound
        { t with link := t.link.step kind (.threadReceives packet) } := by
  have one {item : Item ρ} (harmless : item.opens = false ∧
      item.isStop = false) : ∀ other ∈ [item], other.opens = false ∧ other.isStop = false := by
    intro other member
    cases mem_singleton.mp member
    exact harmless
  refine ⟨?_, ?_, fun packet => ?_⟩
  · simp only [Datalink.step, Datalink.threadConnects]
    split
    case isTrue trying =>
      refine sound.grow rfl ?_ rfl ?_ (one ⟨rfl, rfl⟩)
      · intro absent
        rw [trying.1] at absent
        cases absent
      · refine sound.exits.append ?_ rfl ?_
        · rw [trying.1]
          change Thread.receiving = .exited ↔ _
          decide
        · intro item member
          cases mem_singleton.mp member
          rfl
    case isFalse => exact sound
  · simp only [Datalink.step, Datalink.threadExits]
    split
    case isTrue alive =>
      have going : t.link.thread ≠ .exited ∧ t.link.thread ≠ .absent := by
        rcases alive with trying | receiving
        · rw [trying]
          decide
        · rw [receiving]
          decide
      refine sound.grow rfl ?_ rfl ?_ (one ⟨rfl, rfl⟩)
      · exact fun absent => absurd absent going.2
      · have none := sound.exits
        rw [Exits, if_neg going.1] at none
        change (t.link.queue ++ [Item.threadExit]).countP Item.isExit = 1
        rw [countP_append, none]
        rfl
    case isFalse => exact sound
  · simp only [Datalink.step, Datalink.threadReceives]
    split
    · refine sound.grow rfl id rfl ?_ (one ⟨rfl, rfl⟩)
      refine sound.exits.append Iff.rfl rfl ?_
      intro item member
      cases mem_singleton.mp member
      rfl
    · exact sound

theorem Sound.expire (kind : Kind π ρ) : Sound { t with link := t.link.step kind .expire } := by
  simp only [Datalink.step]
  split
  · have queue : (addWork .timeout
        { t.link with timer := none }).queue = t.link.queue ++ [.timeout] := rfl
    refine sound.grow rfl id queue ?_ ?_
    · refine sound.exits.append Iff.rfl queue ?_
      intro item member
      cases mem_singleton.mp member
      rfl
    · intro item member
      cases mem_singleton.mp member
      exact ⟨rfl, rfl⟩
  · exact sound

theorem Sound.not_opening (shut : t.Shut) : t.opening = false := by
  have closed := sound.closed shut
  unfold opening
  split
  case h_1 rest _ queue =>
    have harmless := closed.queue .start (queue ▸ mem_cons_self)
    cases harmless.1
  case h_2 => rfl

theorem Sound.dispatch (kind : Kind π ρ) (stale : Bool) (heeds : t.Heeds (.dispatch stale)) :
    Sound (t.step kind (.dispatch stale)) := by
  cases queue : t.link.queue with
  | nil =>
    have same : t.link.step kind (.dispatch stale) = t.link := by
      simp only [Datalink.step, Datalink.work]
      rw [queue]
    have none : t.opening = false := by
      unfold opening
      split <;> simp_all
    simp only [step]
    rw [same, none, Bool.and_false, Bool.or_false]
    exact sound
  | cons item rest =>
    obtain ⟨added, more, harmless⟩ := (handled_work kind stale queue).adds
    have start : item = .start → t.link.state = .shutdown →
        t.last ≠ some .stop → ∃ later ∈ rest, later.opens = true := by
      intro first
      subst first
      unfold Heeds at heeds
      rw [queue] at heeds
      exact heeds
    refine ⟨sound.exits.work kind stale queue, ?_, ?_, ?_⟩
    · intro request last other
      refine (sound.wanted request last other).work kind stale queue ?_
      intro first shutdown
      refine start first shutdown fun same => ?_
      exact other (Option.some.inj (last.symm.trans same))
    · rintro ⟨last, none⟩
      have behind : ∀ other ∈ rest, other.isStop = false := by
        intro other member
        apply none
        change other ∈ (t.link.work kind stale).queue
        rw [more]
        exact mem_append_left _ member
      cases stop : item.isStop with
      | false =>
        refine (sound.closed ⟨last, ?_⟩).work sound.exits kind stale
        rw [queue]
        exact forall_mem_cons.mpr ⟨stop, behind⟩
      | true =>
        cases item with
        | stop =>
          unfold Heeds at heeds
          rw [queue] at heeds
          exact closed_work_stop kind stale queue fun other member =>
              ⟨heeds last behind other member, behind other member⟩
        | start | reconnect | restart | connected | threadExit | received
        | timeout => cases stop
    · change (t.reopened || (decide t.Shut && t.opening)) = false
      rw [sound.quiet, Bool.false_or]
      by_cases shut : t.Shut
      · rw [sound.not_opening shut, Bool.and_false]
      · rw [decide_eq_false shut, Bool.false_and]

theorem Sound.step (kind : Kind π ρ) (event : Event ρ) (heeds : t.Heeds event) :
    Sound (t.step kind event) := by
  cases event with
  | request request => exact sound.request request
  | reconnect now => exact sound.reconnect now heeds
  | connectTimer seconds =>
    simp only [Tracked.step]
    split
    · exact ⟨sound.exits, sound.wanted, fun shut =>
        ⟨(sound.closed shut).state, (sound.closed shut).queue⟩, sound.quiet⟩
    · exact sound
  | send payload =>
    have frame := call_frame t.link (kind.send payload)
    have queue := frame.2.2.1.trans (append_nil _).symm
    refine sound.grow frame.1 ?_ queue ?_ nofun
    · exact fun absent => frame.2.1.trans absent
    · refine sound.exits.append ?_ queue nofun
      exact iff_of_eq (congrArg (· = Thread.exited) frame.2.1)
  | threadConnects => exact (sound.threads kind).1
  | threadReceives packet => exact (sound.threads kind).2.2 packet
  | threadExits => exact (sound.threads kind).2.1
  | expire => exact sound.expire kind
  | dispatch stale => exact sound.dispatch kind stale heeds

end

theorem sound_create (protocol : π) : (create protocol : Tracked π ρ).Sound where
  exits := rfl
  wanted _ last := nomatch last
  closed shut := nomatch shut.1
  quiet := rfl

theorem Sound.lastWins (sound : t.Sound) : t.LastWins := by
  refine ⟨fun quiescent halted => ?_, sound.quiet⟩
  cases last : t.last with
  | none => exact .inl rfl
  | some request =>
    by_cases stop : request = .stop
    · exact .inr (congrArg some stop)
    · rcases sound.wanted request last stop with
        ⟨isOpen, -⟩ | ⟨before, item, after, queue, -⟩
      · rw [halted] at isOpen
        cases isOpen
      · rw [quiescent.1] at queue
        cases before <;> cases queue

/-- In every run in which every event is heeded, the owner's last request
wins. -/
theorem last_request_wins (kind : Kind π ρ) (protocol : π) (events : List (Event ρ))
    (heeded : Run.Guarded (step kind) Heeds (create protocol) events) :
    LastWins (events.foldl (step kind) (create protocol)) := by
  have sound : Sound (events.foldl (step kind) (create protocol)) :=
    heeded.invariant (fun _ event sound heeds => sound.step kind event heeds)
      (sound_create protocol)
  exact sound.lastWins

end Tracked

/-! ## Multinet -/

/-- The class `Multinet`: a connection is the circuit coming up, and packets are
passed on. -/
def multinet : Kind Unit Ddcmp.Bytes where
  connected inner := { inner with reports := inner.reports ++ [.up] }
  running _ inner := inner
  send _ inner := inner
  restart := none
  timeout := none

abbrev TrackedMultinet := Tracked Unit Ddcmp.Bytes

/-- A circuit that is opened, connects and is closed. -/
def closedOnce : List (Event Ddcmp.Bytes) :=
  [.request .start, .dispatch false, .threadConnects, .dispatch false,
    .request .stop, .dispatch false, .threadExits, .dispatch false]

theorem last_request_wins_closedOnce :
    (closedOnce.foldl (Tracked.step multinet) (.create () : TrackedMultinet)).link.state = .s0 ∧
      (closedOnce.foldl (Tracked.step multinet) (.create () : TrackedMultinet)).LastWins :=
  ⟨by decide +kernel, Tracked.last_request_wins multinet () closedOnce (by decide +kernel)⟩

/-- The circuit is opened again while it shuts down. -/
def openedEarly : List (Event Ddcmp.Bytes) :=
  [.request .start, .dispatch false, .request .stop, .dispatch false,
    .request .start, .dispatch false, .threadExits, .dispatch false]

/-- The circuit is closed when the exit of the thread of a restart is queued. -/
def closedLate : List (Event Ddcmp.Bytes) :=
  [.request .start, .dispatch false, .request .restart, .dispatch false,
    .threadExits, .request .stop, .dispatch false, .dispatch false, .dispatch false]

/-- In the first case the circuit is at rest in `s0` although it was opened
last; in the second it connects although it was closed last. -/
theorem last_request_lost :
    ((openedEarly.foldl (Tracked.step multinet) (.create () : TrackedMultinet)).link.state = .s0 ∧
      (openedEarly.foldl (Tracked.step multinet)
        (.create () : TrackedMultinet)).last = some .start ∧
      ¬ (openedEarly.foldl (Tracked.step multinet) (.create () : TrackedMultinet)).LastWins) ∧
    (closedLate.foldl (Tracked.step multinet)
        (.create () : TrackedMultinet)).link.state = .connecting ∧
      (closedLate.foldl (Tracked.step multinet) (.create () : TrackedMultinet)).last = some .stop ∧
      ¬ (closedLate.foldl (Tracked.step multinet) (.create () : TrackedMultinet)).LastWins := by
  refine ⟨⟨by decide +kernel, by decide +kernel, ?_⟩, by decide +kernel, by decide +kernel, ?_⟩
  · rintro ⟨resting, -⟩
    have wrong := resting ⟨by decide +kernel, by decide +kernel, by decide +kernel,
        by decide +kernel⟩ (by decide +kernel)
    revert wrong
    decide +kernel
  · rintro ⟨-, quiet⟩
    revert quiet
    decide +kernel

end Decnet.Ptp
