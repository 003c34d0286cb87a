import Decnet.Nsp.Finality
import Decnet.Nsp.Sending
import Decnet.Session.Live

/-!
# Objects that are programs

The class `ProcessApplication`: session control starts a program for each
connection to its object and passes on what happens to the link, and a thread
reads the requests that the program writes to its standard output and queues
them for the node thread, which acts on them.

What the callbacks change is determined by what session control has been told
about the link.  When the output ends nothing happens at all, so the link is
released only if the program has asked for it.
-/

namespace Decnet.Nsp

namespace Connection

open Relation

/-- The far end has been sent a disconnect initiate, which rejects a link that
was never accepted and disconnects any other, or session control has been told
that the link is gone. -/
def Dismissed (c : Connection) : Prop :=
  (∃ f ∈ c.outbox, f.closing = true) ∨ ∃ upcall ∈ c.events, upcall.terminal = true

/-- No link is over without a word, and one that session control has been told
is gone is closed. -/
structure Accounted (c : Connection) : Prop where
  gone : c.Over → c.Dismissed
  closed : (∃ upcall ∈ c.events, upcall.terminal = true) → c.state = .cl

variable {heeds : Heeds} {permits : Permits} {config : NspConfig}
  {ok : Call → Prop} {c c' : Connection}

section

variable (accounted : c.Accounted)

include accounted

theorem Accounted.congr (state : c'.state = c.state)
    (events : c'.events = c.events) (outbox : c.Over → c.outbox <+: c'.outbox) : c'.Accounted := by
  constructor
  · intro gone
    have before : c.Over := by
      unfold Over at gone ⊢
      rwa [← state]
    exact (accounted.gone before).imp (fun ⟨f, member, closing⟩ =>
        ⟨f, (outbox before).subset member, closing⟩)
      (fun told => events ▸ told)
  · rw [events, state]
    exact accounted.closed

theorem Accounted.alive (alive : c.state ≠ .cl) (events : c'.events = c.events)
    (onward : ¬ c'.Over) : c'.Accounted := by
  refine ⟨fun gone => absurd gone onward, fun told => ?_⟩
  exact absurd (accounted.closed (events ▸ told)) alive

theorem Accounted.called (call : Call) : (World.called config call c).Accounted := by
  have closing (reason : Nat) (data : Bytes) (rest : Connection)
      (sent : rest.outbox = (c.send (c.discInit reason data)).outbox) : rest.Dismissed := by
    refine .inl ⟨⟨c.discInit reason data, 0, c.rcvd⟩, ?_, rfl⟩
    rw [sent]
    exact List.mem_append_right _ (List.mem_singleton_self _)
  obtain ⟨c', same, outcome⟩ := World.called_outcome config call c
  rw [same]
  cases outcome with
  | ignored => exact accounted
  | unconfirmed _ _ _ waiting | accepted _ _ _ _ waiting =>
    refine accounted.alive (by simp [waiting]) rfl ?_
    simp [Over, send]
  | rejected link reason data =>
    exact ⟨fun _ => closing reason data _ rfl, fun _ => rfl⟩
  | left link reason data alive =>
    refine ⟨fun _ => closing reason data _ rfl, fun told => ?_⟩
    exact absurd (accounted.closed told) alive
  | sent link data running =>
    have kept := kept_sendData data c
    refine accounted.congr kept.state kept.events ?_
    simp [Over, running]
  | interrupted link data message entry running =>
    refine accounted.congr rfl rfl ?_
    simp

theorem Accounted.calls (calls : Called config ok c c') : c'.Accounted :=
  calls.keeps accounted fun _ call _ still => still.called call

theorem Accounted.note {upcall : Upcall} (passing : upcall.terminal = false) :
    (c.noteEvent upcall).Accounted := by
  constructor
  · intro gone
    exact (accounted.gone gone).imp id fun ⟨known, member, terminal⟩ =>
      ⟨known, List.mem_append_left _ member, terminal⟩
  · rintro ⟨known, member, terminal⟩
    rcases List.mem_append.mp member with before | now
    · exact accounted.closed ⟨known, before, terminal⟩
    · rw [List.mem_singleton.mp now, passing] at terminal
      cases terminal

end

theorem accounted_of_told {upcall : Upcall} (member : upcall ∈ c.events)
    (terminal : upcall.terminal = true) (closed : c.state = .cl) : c.Accounted :=
  ⟨fun _ => .inr ⟨upcall, member, terminal⟩, fun _ => closed⟩

theorem accounted_change (change : Change .all permits config c c')
    (accounted : c.Accounted) : c'.Accounted := by
  have noted {before inner : Connection} {upcall : Upcall} {ok : Call → Prop}
      (calls : Called config ok (before.noteEvent upcall) inner) : upcall ∈ inner.events := by
    rw [calls_events calls]
    exact List.mem_append_right _ (List.mem_singleton_self _)
  cases change with
  | op _ op =>
    rcases Connection.steady_op op with steady | ⟨opening, steady, rfl⟩ | ⟨confirming, steady, rfl⟩
    · refine accounted.congr steady.state steady.events fun gone => ?_
      have ran : Ran none c c' := ran_op (.inr gone) (fun _ _ _ _ limit => nomatch limit) op
      exact ran.outbox
    · exact accounted.alive (by simp [opening]) steady.events (by simp [Over, withState])
    · exact accounted.alive (by simp [confirming]) steady.events (by simp [Over, withState])
  | call call => exact accounted.called call
  | inform _ upcall midway _ calls =>
    refine (accounted.note ?_).calls calls
    cases upcall <;> simp_all [Upcall.midway, Upcall.terminal]
  | confirmed inner message opening calls =>
    have learned := (steady_confirm config message c).events
    have answered : ((c.confirm config message).withState .run).Accounted :=
      accounted.alive (by rcases opening with state | state <;> simp [state])
        learned (by simp [Over, withState])
    have told : (((c.confirm config message).withState .run).noteEvent
        (.connectConfirmed message.dataCtl)).Accounted := answered.note rfl
    have same := calls_events calls
    exact told.alive (by simp [noteEvent, withState]) same (by simp [Over, withState])
  | refused inner reason data opening calls =>
    have told : Upcall.connectRejected reason data ∈ inner.events := noted calls
    exact accounted_of_told told rfl rfl
  | ended inner prepare reason data expiry live calls =>
    have told : Upcall.disconnected reason data ∈ inner.events := noted calls
    exact accounted_of_told told rfl rfl
  | lapsed link waiting kind =>
    have stopped : c.stopTimer.Accounted := accounted.congr rfl rfl fun _ => List.prefix_rfl
    exact stopped.called _

theorem accounted_begun (begun : Begun permits config c) : c.Accounted := by
  have fresh {d : Connection} (silent : d.events = []) (opening : ¬ d.Over) : d.Accounted := by
    refine ⟨fun gone => absurd gone opening, ?_⟩
    simp [silent]
  cases begun with
  | outbound addr dest payload =>
    exact fresh rfl (by simp [Over, startOutbound, send])
  | inbound addr src message c calls =>
    have announced := announced_connectReceived config message (create config addr src)
    have received := fresh announced.events (by simp [Over, announced.state])
    exact (received.note rfl).calls calls

theorem over_changes (changes : ReflTransGen (Change .all permits config) c c')
    (gone : c.Over) : c'.Over := by
  have onward : Onward none c c' :=
    onward_changes (.inr gone) (fun _ _ _ _ _ limit => nomatch limit) changes
  refine onward.opened.resolve_left fun running => ?_
  have before := onward.running running
  rcases gone with state | state <;> simp [state] at before

end Connection

end Decnet.Nsp

namespace Decnet.Session

open Decnet.Nsp Relation

/-! ## The program's side -/

/-- The member `type` of a request. -/
inductive RequestType where
  | missing | accept | reject | data | disconnect | abort | interrupt | unknown
  deriving DecidableEq, Repr

/-- A request of the program, with the default reason 0. -/
structure ProcessRequest where
  type : RequestType
  data : Bytes
  reason : Nat
  deriving DecidableEq, Repr

/-- A line of the program's standard output. -/
inductive Line where
  | empty | unparsable
  | request (request : ProcessRequest)
  deriving DecidableEq, Repr

/-- A `ProcessApplication`: whether its program was started, whether `conn_` is
set, and whether session control has retired the conversation. -/
structure ProcessApplication where
  (started conn retired : Bool)
  deriving DecidableEq, Repr

namespace ProcessApplication

/-- The callbacks, for a program that can be started or not. -/
def notified (spawns : Bool) (app : ProcessApplication) (upcall : Upcall) : ProcessApplication :=
  if app.retired then
    app
  else
    match upcall with
    | .connectReceived _ => { app with started := spawns, conn := true }
    | .connectRejected _ _ => { app with conn := false, retired := true }
    | .disconnected _ _ => { app with conn := false, retired := true }
    | _ => { app with conn := true }

def after (spawns : Bool) (events : List Upcall) : ProcessApplication :=
  events.foldl (notified spawns) ⟨false, false, false⟩

theorem conn_or_terminal (spawns : Bool) (events : List Upcall)
    (app : ProcessApplication) (kept : app.retired = false) (told : events = [] → app.conn = true) :
    (events.foldl (notified spawns) app).conn = true ∨
      ∃ upcall ∈ events, upcall.terminal = true := by
  induction events generalizing app with
  | nil => exact .inl (told rfl)
  | cons upcall events ih =>
    by_cases terminal : upcall.terminal = true
    · exact .inr ⟨upcall, List.mem_cons_self, terminal⟩
    · have next : (app.notified spawns upcall).retired = false ∧
          (app.notified spawns upcall).conn = true := by
        cases upcall <;> simp_all [notified, Upcall.terminal]
      exact (ih _ next.1 fun _ => next.2).imp id
        fun ⟨known, member, ends⟩ => ⟨known, .tail _ member, ends⟩

end ProcessApplication

/-- The applications of the node: a program that cannot be started makes its
object unknown. -/
def processes (spawns : Ptr → Bool) : Applications Unit :=
  .scripted fun link event =>
    match event with
    | .connectReceived _ => if spawns link then [] else [.reject link noObj []]
    | _ => []

/-- The node with the output of its programs: those whose output has ended, and
the requests read that wait for the node thread. -/
structure ProcessNode where
  world : SessionWorld Unit
  ended : List Ptr
  work : List (Ptr × ProcessRequest)

inductive ProcessInput where
  | session (input : Input Unit)
  | read (link : Ptr) (line : Line)
  | finish (link : Ptr)
  | handle

namespace ProcessNode

variable (spawns : Ptr → Bool)

def application (link : Ptr) (node : ProcessNode) : ProcessApplication :=
  .after (spawns link) (node.world.links link).events

/-- `handle`, for a connection that the application has. -/
def act (link : Ptr) (request : ProcessRequest) (w : SessionWorld Unit) : SessionWorld Unit :=
  match request.type with
  | .missing => w
  | .accept => Session.request w (.accept link request.data 0)
  | .reject => Session.request w (.reject link request.reason request.data)
  | .data => Session.request w (.sendData link request.data)
  | .disconnect => Session.request w (.disconnect link 0 request.data)
  | .abort => Session.request w (.disconnect link 0 request.data)
  | .interrupt => Session.request w (.interrupt link request.data)
  | .unknown => w

def handle (node : ProcessNode) : ProcessNode :=
  match node.work with
  | [] => node
  | (link, request) :: rest =>
    if (node.application spawns link).conn then
      { node with work := rest, world := act link request node.world }
    else
      { node with work := rest }

/-- `read_stdout` has read a line. -/
def read (link : Ptr) (line : Line) (node : ProcessNode) : ProcessNode :=
  match line with
  | .empty => node
  | .unparsable => node
  | .request request => { node with work := node.work ++ [(link, request)] }

/-- Only the output of a program that was started and has not ended can be
read. -/
def reading (link : Ptr) (node : ProcessNode) : Bool :=
  (node.application spawns link).started && link ∉ node.ended

def step (node : ProcessNode) : ProcessInput → ProcessNode
  | .session input =>
    { node with
      world := Session.step (processes spawns) node.world input }
  | .read link line =>
    if node.reading spawns link then node.read link line else node
  | .finish link =>
    if node.reading spawns link then { node with ended := link :: node.ended } else node
  | .handle => node.handle spawns

def start (config : NspConfig) (ids : List Nat) (objects : List Object) : ProcessNode :=
  ⟨Session.start config ids objects (), [], []⟩

end ProcessNode

/-! ## What a step does to the links -/

section Links

variable {α : Type*} {w w' : SessionWorld α}

abbrev Follows : SessionWorld α → SessionWorld α → Prop :=
  World.Tracks (fun _ => .all) (fun _ _ => True)

theorem Follows.gone (follows : Follows w w') {link : Ptr}
    (old : link < w.allocated) (gone : (w.links link).Over) : (w'.links link).Over :=
  Connection.over_changes (follows.old link old) gone

theorem Follows.told (follows : Follows w w') {link : Ptr}
    (old : link < w.allocated) (told : (w.links link).events ≠ []) :
    (w'.links link).events ≠ [] := by
  obtain ⟨upcall, member⟩ := List.exists_mem_of_ne_nil _ told
  have changes := follows.old link old
  generalize w'.links link = final at changes
  suffices kept : upcall ∈ final.events from List.ne_nil_of_mem kept
  induction changes with
  | refl => exact member
  | tail _ last ih => exact Connection.told_change last ih

theorem Follows.accounted (follows : Follows w w')
    (accounted : ∀ link < w.allocated, (w.links link).Accounted) :
    ∀ link < w'.allocated, (w'.links link).Accounted := by
  intro link present
  have kept {c c' : Connection} (begun : c.Accounted) (changes : ReflTransGen
        (Connection.Change .all (fun _ _ => True) w.config) c c') : c'.Accounted := by
    induction changes with
    | refl => exact begun
    | tail _ last ih => exact Connection.accounted_change last ih
  by_cases old : link < w.allocated
  · exact kept (accounted link old) (follows.old link old)
  · obtain ⟨c, begun, changes⟩ := follows.new link (not_lt.mp old) present
    exact kept (Connection.accounted_begun begun) changes

theorem callNsp_over {call : Call} {link : Ptr} (old : link < w.allocated)
    (returns : (w.links link).callReturns call = true)
    (ends : call.ends link = true) (target : call.target = some link) :
    ((callNsp call w).links link).Over := by
  have reachable : World.Reachable call w := by
    intro other about
    rw [target] at about
    exact Option.some.inj about ▸ old
  have same : (callNsp call w).links link = World.called w.config call (w.links link) := by
    rw [callNsp, note_of_reachable reachable, World.perform_of_reachable]
    · refine (World.act_links _ call ?_).trans (if_pos target)
      exact old
    · exact reachable
  rw [same]
  exact Connection.called_over w.config returns ends

end Links

namespace ProcessRequest

/-- Requests that end the link, with session data that a disconnect initiate
can carry. -/
def Parts (request : ProcessRequest) : Prop :=
  (request.type = .reject ∨ request.type = .disconnect ∨
    request.type = .abort) ∧ request.data.length ≤ maxImage

instance (request : ProcessRequest) : Decidable request.Parts :=
  inferInstanceAs (Decidable (_ ∧ _))

end ProcessRequest

namespace ProcessNode

variable {spawns : Ptr → Bool} {node : ProcessNode} {link : Ptr}

/-- The link is over, or a request that ends it waits to be handled. -/
def Parting (link : Ptr) (node : ProcessNode) : Prop :=
  (node.world.links link).Over ∨ ∃ item ∈ node.work, item.1 = link ∧ item.2.Parts

/-- The output of a program ends only after the program has let go of its
link. -/
def Leaves (node : ProcessNode) : ProcessInput → Prop
  | .finish link => node.Parting link
  | _ => True

structure Sound (node : ProcessNode) : Prop where
  known : World.Known node.world
  accounted : ∀ link < node.world.allocated, (node.world.links link).Accounted
  ended : ∀ link ∈ node.ended, link < node.world.allocated ∧
    (node.world.links link).events ≠ [] ∧ node.Parting link

theorem follows_act (known : World.Known node.world) (request : ProcessRequest) :
    Follows node.world (act link request node.world) := by
  have requested (asked : Request) : Follows node.world (Session.request node.world asked) := by
    obtain ⟨inner, _, same⟩ := acts_inner (processes fun _ => true) (kept_acts.request _ asked)
    exact same ▸ World.tracks_always known inner
  unfold act
  split
  · exact .refl _
  · exact requested _
  · exact requested _
  · exact requested _
  · exact requested _
  · exact requested _
  · exact requested _
  · exact .refl _

theorem act_over {w : SessionWorld Unit} {request : ProcessRequest}
    (old : link < w.allocated) (parts : request.Parts) :
    ((act link request w).links link).Over := by
  obtain ⟨kind, short⟩ := parts
  have left : (w.links link).disconnectReturns request.data = true := by
    simp [Connection.disconnectReturns, short]
  unfold act
  rcases kind with kind | kind | kind
  · rw [kind]
    refine callNsp_over old ?_ ?_ rfl
    · simpa [Connection.callReturns, World.rejectReturns] using short
    · simp [Call.ends]
  · rw [kind]
    exact callNsp_over old left (by simp [Call.ends]) rfl
  · rw [kind]
    exact callNsp_over old left (by simp [Call.ends]) rfl

theorem Sound.next {world : SessionWorld Unit}
    {work : List (Ptr × ProcessRequest)} (sound : node.Sound) (follows : Follows node.world world)
    (kept : ∀ link ∈ node.ended, ∀ item ∈ node.work, item.1 = link →
      item.2.Parts → item ∈ work ∨ (world.links link).Over) : Sound ⟨world, node.ended, work⟩ := by
  refine ⟨follows.known sound.known, follows.accounted sound.accounted, ?_⟩
  intro link ended
  obtain ⟨old, told, parting⟩ := sound.ended link ended
  refine ⟨old.trans_le follows.allocated, follows.told old told, ?_⟩
  rcases parting with gone | ⟨item, member, about, parts⟩
  · exact .inl (follows.gone old gone)
  · rcases kept link ended item member about parts with still | gone
    · exact .inr ⟨item, still, about, parts⟩
    · exact .inl gone

theorem Sound.handle (sound : node.Sound) : (node.handle spawns).Sound := by
  unfold ProcessNode.handle
  split
  · exact sound
  · rename_i link request rest waiting
    have head {item : Ptr × ProcessRequest} (member : item ∈ node.work) :
        item = (link, request) ∨ item ∈ rest := by
      rw [waiting] at member
      exact List.mem_cons.mp member
    split
    · refine sound.next (follows_act sound.known request) ?_
      intro other ended item member about parts
      rcases head member with rfl | still
      · subst about
        exact .inr (act_over (sound.ended _ ended).1 parts)
      · exact .inl still
    · rename_i gone
      refine sound.next (.refl _) ?_
      intro other ended item member about parts
      rcases head member with rfl | still
      · -- The application has lost its connection, so the link is closed.
        subst about
        obtain ⟨old, told, _⟩ := sound.ended _ ended
        have conn := ProcessApplication.conn_or_terminal (spawns link)
          (node.world.links link).events ⟨false, false, false⟩ rfl
          (fun silent => absurd silent told)
        exact .inr (.inr ((sound.accounted _ old).closed (conn.resolve_left gone)))
      · exact .inl still

theorem Sound.step (sound : node.Sound) {input : ProcessInput}
    (leaves : node.Leaves input) : (node.step spawns input).Sound := by
  cases input with
  | session input =>
    refine sound.next ?_ fun _ _ item member _ _ => .inl member
    obtain ⟨inner, same, _⟩ := step_inner _ node.world input
    exact same ▸ World.tracks_always sound.known inner
  | read link line =>
    simp only [ProcessNode.step]
    split
    · cases line with
      | empty | unparsable => exact sound
      | request request =>
        exact sound.next (.refl _) fun _ _ item member _ _ => .inl (List.mem_append_left _ member)
    · exact sound
  | finish link =>
    simp only [ProcessNode.step]
    split
    · rename_i reading
      have started := (Bool.and_eq_true_iff.mp reading).1
      have told : (node.world.links link).events ≠ [] := by
        intro silent
        rw [application, silent] at started
        cases started
      have old : link < node.world.allocated := by
        by_contra unborn
        exact told (by rw [sound.known.unborn link (not_lt.mp unborn)]; rfl)
      refine ⟨sound.known, sound.accounted, ?_⟩
      intro other member
      rcases List.mem_cons.mp member with rfl | before
      · exact ⟨old, told, leaves⟩
      · exact sound.ended other before
    · exact sound
  | handle => exact sound.handle

/-- In every run in which each program, when its output ends, has let go of its
link or has asked to: once all its requests have been handled the link is
disconnecting or closed, and the far end or session control knows. -/
theorem ended_program_releases_link (spawns : Ptr → Bool)
    (config : NspConfig) (ids : List Nat) (objects : List Object) (inputs : List ProcessInput)
    (leaves : Run.Guarded (ProcessNode.step spawns) Leaves
      (start config ids objects) inputs) (link : Ptr) :
    let node := inputs.foldl (ProcessNode.step spawns) (start config ids objects)
    link ∈ node.ended → (∀ item ∈ node.work, item.1 ≠ link) →
      (node.world.links link).Over ∧ (node.world.links link).Dismissed := by
  intro node ended handled
  have sound : node.Sound := by
    refine leaves.invariant (fun _ _ sound leaves => sound.step leaves)
      ⟨World.known_start config ids _, ?_, ?_⟩
    · exact fun other present => absurd present (Nat.not_lt_zero other)
    · exact fun other member => nomatch member
  obtain ⟨old, _, parting⟩ := sound.ended link ended
  have gone := parting.resolve_right fun ⟨item, member, about, _⟩ => handled item member about
  exact ⟨gone, (sound.accounted link old).gone gone⟩

end ProcessNode

def served (inputs : List ProcessInput) : ProcessNode :=
  inputs.foldl (ProcessNode.step fun _ => true) (.start World.smallNsp [1] file17)

def answering (type : RequestType) : List ProcessInput :=
  [.session connectTo17, .read 0 (.request ⟨type, [], 34⟩), .finish 0, .handle]

theorem ended_program_releases_link_rejecting :
    ((served (answering .reject)).world.links 0).Over ∧
      ((served (answering .reject)).world.links 0).Dismissed := by
  have waits : (served ((answering .reject).take 2)).Parting 0 := by
    refine .inr ⟨(0, ⟨.reject, [], 34⟩), ?_, rfl, ?_⟩
    · decide +kernel
    · decide
  refine ProcessNode.ended_program_releases_link (fun _ => true)
    World.smallNsp [1] file17 (answering .reject) ?_ 0 ?_ ?_
  · exact ⟨trivial, trivial, waits, trivial, trivial⟩
  · decide +kernel
  · decide +kernel

/-- The programs whose output has ended, the requests that wait and the state
of the link. -/
def leftBy (inputs : List ProcessInput) : List Ptr × List (Ptr × ProcessRequest) × ConnState :=
  let node := served inputs
  (node.ended, node.work, (node.world.links 0).state)

/-- A program that exits at once leaves its link waiting for an answer, and one
that accepts and then exits leaves it confirmed and, after the first packet,
running. -/
theorem ended_program_holds_link :
    leftBy [.session connectTo17, .finish 0] = ([0], [], .cr) ∧
      leftBy (answering .accept) = ([0], [], .cc) ∧ leftBy (answering .accept ++
          [.session (.deliver 1025 (.ackData ⟨1, 7, none, none⟩))]) = ([0], [], .run) := by
  refine ⟨?_, ?_, ?_⟩
  · decide +kernel
  · decide +kernel
  · decide +kernel

end Decnet.Session
