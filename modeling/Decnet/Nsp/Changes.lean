import Decnet.Nsp.Ledger

/-!
# The life of a link

`Change` says what can happen to a link between two inputs, without the rest of
NSP: its operations, the calls of session control, and notifications with the
calls made inside them.  Every step of NSP changes each link only in these ways
and creates links in two ways, so a property that they keep holds of every link
in every run.
-/

namespace Decnet.Nsp

open Relation Connection

/-- A condition on the calls that session control makes on a link while it is
told something about that link. -/
abbrev Permits := Upcall → Call → Prop

namespace Connection

def Called (config : NspConfig) (ok : Call → Prop) : Connection → Connection → Prop :=
  ReflTransGen fun c c' => ∃ call, ok call ∧ c' = World.called config call c

@[elab_as_elim]
theorem Called.keeps {config : NspConfig} {ok : Call → Prop}
    {property : Connection → Prop} {c c' : Connection}
    (calls : Called config ok c c') (start : property c) (kept : ∀ c call, ok call → property c →
      property (World.called config call c)) : property c' := by
  induction calls with
  | refl => exact start
  | tail _ last ih =>
    obtain ⟨call, permitted, rfl⟩ := last
    exact kept _ call permitted ih

inductive Change (heeds : Heeds) (permits : Permits) (config : NspConfig) :
    Connection → Connection → Prop where
  | op (c c' : Connection) (op : Op heeds c c') : Change heeds permits config c c'
  | call (c : Connection) (call : Call) : Change heeds permits config c (World.called config call c)
  | inform (c c' : Connection) (upcall : Upcall)
      (midway : upcall.midway = true) (heard : heeds.Hears upcall)
      (calls : Called config (permits upcall) (c.noteEvent upcall) c') :
      Change heeds permits config c c'
  | confirmed (c c' : Connection) (message : ConnConf) (opening : c.state = .ci ∨ c.state = .cd)
      (calls : Called config (permits (.connectConfirmed message.dataCtl))
        (((c.confirm config message).withState .run).noteEvent
          (.connectConfirmed message.dataCtl)) c') :
      Change heeds permits config c (c'.withState .run)
  | refused (c c' : Connection) (reason : Nat) (data : Bytes)
      (opening : c.state = .ci ∨ c.state = .cd)
      (calls : Called config (permits (.connectRejected reason data))
        (c.noteEvent (.connectRejected reason data)) c') :
      Change heeds permits config c (c'.clearQueues.noteClosing.withState .cl)
  | ended (c c' : Connection) (prepare : Connection → Connection)
      (reason : Nat) (data : Bytes) (expiry : Expiry prepare)
      (live : (c.state ≠ .s0 ∧ c.state ≠ .cr ∧ c.state ≠ .cl) ∨ c.txq ≠ [])
      (calls : Called config (permits (.disconnected reason data))
        ((prepare c).clearQueues.noteEvent (.disconnected reason data)) c') :
      Change heeds permits config c (c'.noteClosing.withState .cl)
  | lapsed (c : Connection) (link : Ptr) (waiting : c.state = .cr)
      (kind : c.timerIsRetransmit = false) :
      Change heeds permits config c (World.called config (.reject link discObjFail []) c.stopTimer)

/-- A link when it has just been created: by a call of session control, or by a
connect initiate of which session control has been told. -/
inductive Begun (permits : Permits) (config : NspConfig) : Connection → Prop where
  | outbound (addr : Nat) (dest : Nodeid) (payload : Bytes) :
      Begun permits config ((create config addr dest).startOutbound config payload)
  | inbound (addr : Nat) (src : Nodeid) (message : ConnInit) (c : Connection)
      (calls : Called config (permits (.connectReceived message.payload))
        (((create config addr src).connectReceived config message).noteEvent
          (.connectReceived message.payload)) c) : Begun permits config c

section Closed

variable {heeds : Heeds} {permits : Permits} {config : NspConfig} {c c' : Connection}

/-- What every part of a change keeps. -/
@[elab_as_elim]
theorem Change.keeps {property : Connection → Prop}
    (change : Change heeds permits config c c') (start : property c)
    (op : ∀ c c', Op heeds c c' → property c → property c')
    (called : ∀ call c, property c → property (World.called config call c))
    (told : ∀ upcall c, heeds.Hears upcall → property c → property (c.noteEvent upcall))
    (confirm : ∀ message c, property c → property (c.confirm config message))
    (expiry : ∀ prepare c, Expiry prepare → property c → property (prepare c))
    (state : ∀ state c, property c → property (c.withState state))
    (cleared : ∀ c, property c → property c.clearQueues)
    (closing : ∀ c, property c → property c.noteClosing) : property c' := by
  have calls {ok : Call → Prop} {d d' : Connection}
      (calls : Called config ok d d') (before : property d) : property d' :=
    calls.keeps before fun c call _ => called call c
  cases change with
  | op _ other => exact op _ _ other start
  | call call => exact called call c start
  | inform _ upcall _ heard made => exact calls made (told _ c heard start)
  | confirmed inner message _ made =>
    have entered := state .run _ (confirm message c start)
    exact state .run inner (calls made (told _ _ trivial entered))
  | refused inner reason data _ made =>
    have after := calls made (told _ c trivial start)
    exact state .cl _ (closing _ (cleared inner after))
  | ended inner prepare reason data expires _ made =>
    have emptied := cleared _ (expiry prepare c expires start)
    exact state .cl _ (closing inner (calls made (told _ _ trivial emptied)))
  | lapsed link _ _ => exact called _ _ (expiry _ c .expired start)

theorem closed_called (closed : c.state = .cl) (call : Call) :
    (World.called config call c).state = .cl := by
  obtain ⟨c', same, outcome⟩ := World.called_outcome config call c
  rw [same]
  cases outcome with
  | ignored | interrupted => exact closed
  | unconfirmed _ _ _ waiting | accepted _ _ _ _ waiting =>
    rw [closed] at waiting
    cases waiting
  | rejected => rfl
  | left _ _ _ alive => exact absurd closed alive
  | sent link data => exact (kept_sendData data c).state.trans closed

theorem closed_change (change : Change heeds permits config c c')
    (closed : c.state = .cl) : c'.state = .cl := by
  cases change with
  | op _ op =>
    rcases steady_op op with steady | ⟨state, _⟩ | ⟨state, _⟩
    · exact steady.state.trans closed
    · simp [closed] at state
    · simp [closed] at state
  | call call => exact closed_called closed call
  | inform _ upcall _ _ calls => exact calls.keeps closed fun _ call _ still => closed_called still call
  | confirmed _ message opening => simp [closed] at opening
  | refused | ended => rfl
  | lapsed link waiting => simp [closed] at waiting

theorem closed_changes (changes : ReflTransGen (Change heeds permits config) c c')
    (closed : c.state = .cl) : c'.state = .cl := by
  induction changes with
  | refl => exact closed
  | tail _ last ih => exact closed_change last ih

end Closed

end Connection

namespace World

variable {τ : Type*} {sc : SessionControl τ} {heeds : Ptr → Heeds}
  {permits : Permits} {ok : CallRecord → Prop}

def Within (permits : Permits) (ok : CallRecord → Prop) : Prop :=
  ∀ record, ok record → ∀ link upcall, record.inside = some (link, upcall) →
    record.call.target = some link → permits upcall record.call

theorem within_all : Within (fun _ _ => True) ok :=
  fun _ _ _ _ _ _ => trivial

/-- Each link of the first world has changed into that of the second, and the
links that are new have begun in between. -/
structure Tracks (heeds : Ptr → Heeds) (permits : Permits) (w w' : World τ) : Prop where
  config : w'.config = w.config
  allocated : w.allocated ≤ w'.allocated
  known : Known w → Known w'
  old : ∀ link, link < w.allocated → ReflTransGen (Change (heeds link) permits w.config)
      (w.links link) (w'.links link)
  new : ∀ link, w.allocated ≤ link → link < w'.allocated →
    ∃ c, Begun permits w.config c ∧
      ReflTransGen (Change (heeds link) permits w.config) c (w'.links link)

theorem Tracks.refl (w : World τ) : Tracks heeds permits w w where
  config := rfl
  allocated := le_rfl
  known := id
  old := fun _ _ => .refl
  new := fun _ low high => absurd high (Nat.not_lt.2 low)

variable {w w' : World τ} {link : Ptr} {call : Call} {upcall : Upcall}
  {lapses : Prop} {packet : Packet} {src : Nodeid} {inputs : List (Input τ)}
  {config : NspConfig} {ids : List Nat} {kept : Connection → Prop} {session : τ}

/-- The account that a link has changed from what it was, or has begun since
then. -/
def Since (heeds : Ptr → Heeds) (permits : Permits) (w : World τ)
    (link : Ptr) (c : Connection) : Prop :=
  ∃ begun, ReflTransGen (Change (heeds link) permits w.config) begun c ∧
    ((link < w.allocated ∧ begun = w.links link) ∨
      (w.allocated ≤ link ∧ Begun permits w.config begun))

theorem Since.change {c c' : Connection} (since : Since heeds permits w link c)
    (change : Change (heeds link) permits w.config c c') : Since heeds permits w link c' :=
  since.imp fun _ ⟨changes, origin⟩ => ⟨changes.tail change, origin⟩

/-- While session control is told something, the link changes by calls that may
be made inside the notification, after which it is as it may be. -/
def changes (heeds : Ptr → Heeds) (within : Within permits ok)
    (w : World τ) : Ledger heeds ok True w.config w.allocated where
  own link _ := Since heeds permits w link
  told upcall link _ c := ∃ before, Called w.config (permits upcall) before c ∧
      ∀ c', Called w.config (permits upcall) before c' →
        Since heeds permits w link (upcall.finish c')
  outbound beyond addr dest payload := ⟨_, .refl, .inr ⟨beyond, .outbound addr dest payload⟩⟩
  inbound beyond addr src message :=
    ⟨_, .refl, fun _ calls => ⟨_, .refl, .inr ⟨beyond, .inbound addr src message _ calls⟩⟩⟩
  op own op := own.change (.op _ _ op)
  call own _ _ := own.change (.call _ _)
  inside := fun ⟨before, calls, after⟩ noted permitted inside =>
    ⟨before, calls.tail ⟨_, within _ permitted _ _ inside noted.target, rfl⟩, after⟩
  inform := by
    intro link upcall _ c own midway heard
    refine ⟨_, .refl, fun c' calls => ?_⟩
    have passing : upcall.finish = id := by
      cases upcall <;> first | rfl | cases midway
    rw [passing]
    exact own.change (.inform _ _ upcall midway heard calls)
  confirmed own opening := ⟨_, .refl, fun c' calls => own.change (.confirmed _ c' _ opening calls)⟩
  refused own opening := ⟨_, .refl, fun c' calls => own.change (.refused _ c' _ _ opening calls)⟩
  ended own expiry live :=
    ⟨_, .refl, fun c' calls => own.change (.ended _ c' _ _ _ expiry live calls)⟩
  finished := fun ⟨_, calls, after⟩ => after _ calls
  lapsed own _ waiting kind := own.change (.lapsed _ _ waiting kind)

theorem called_tell (old : link < w.allocated) (upcall : Upcall) :
    Called w.config (fun _ => True) ((w.links link).noteEvent upcall)
      ((w.tell sc link upcall).links link) := by
  have free : CallsOk (fun _ => True) (w.tell sc link upcall) := fun _ _ => trivial
  have told := tell_invariant (fun w' => w'.config = w.config ∧
    link < w'.allocated ∧ Called w.config (fun _ => True)
      ((w.links link).noteEvent upcall) (w'.links link)) free ?_ ?_ ?_ ?_
  · exact told.2.2
  · refine ⟨rfl, old, ?_⟩
    simp only [entered, modify_links, Function.update_self]
    exact .refl
  · exact fun _ _ kept => kept
  · rintro w' call ⟨config, old, calls⟩ _ _ _
    refine ⟨(execute_config _ call).trans config,
      old.trans_le (execute_allocated_le (w'.logged call) call), ?_⟩
    rw [act_links w' call old, config]
    split
    · exact calls.tail ⟨call, trivial, rfl⟩
    · exact calls
  · exact fun _ kept => kept

theorem tracks_run (within : Within permits ok) (known : Known w)
    (guarded : Run.Guarded (step sc) (AttentiveEach sc heeds) w inputs)
    (condition : CallsOk ok (inputs.foldl (step sc) w)) :
    Tracks heeds permits w (inputs.foldl (step sc) w) := by
  have begun : Meets w.config w.allocated w.calls.length (changes heeds within w).own w := by
    refine ⟨rfl, le_rfl, le_rfl, known, fun _ _ => by simp [log], ?_⟩
    exact fun link old => ⟨_, .refl, .inl ⟨old, rfl⟩⟩
  have meets := begun.run
    (guarded.mono fun _ _ attentive => ⟨attentive, fun _ => trivial⟩) condition
  refine ⟨meets.same, meets.grown, fun _ => meets.known, ?_, ?_⟩
  · intro link old
    obtain ⟨_, changed, ⟨_, rfl⟩ | ⟨beyond, _⟩⟩ := meets.links link (old.trans_le meets.grown)
    · exact changed
    · exact absurd old (Nat.not_lt.mpr beyond)
  · intro link beyond high
    obtain ⟨c, changed, ⟨old, _⟩ | ⟨_, begun⟩⟩ := meets.links link high
    · exact absurd old (Nat.not_lt.mpr beyond)
    · exact ⟨c, begun, changed⟩

theorem tracks_step (within : Within permits ok) {input : Input τ} (known : Known w)
    (attentive : w.AttentiveEach sc heeds input) (condition : CallsOk ok (w.step sc input)) :
    Tracks heeds permits w (w.step sc input) := by
  have once : Run.Guarded (step sc) (AttentiveEach sc heeds) w [input] := ⟨attentive, trivial⟩
  exact tracks_run within known once condition

theorem tracks_always (known : Known w) (inputs : List (Input τ)) :
    Tracks (fun _ => .all) (fun _ _ => True) w (inputs.foldl (step sc) w) := by
  have free : CallsOk (fun _ => True) (inputs.foldl (step sc) w) := fun _ _ => trivial
  exact tracks_run within_all known (Run.Guarded.of_forall attentive_all w inputs) free

/-- A property that links have when they begin, and that every change keeps,
holds of every link in every run. -/
theorem links_invariant {heeds : Heeds} (within : Within permits ok)
    (guarded : Run.Guarded (step sc) (Attentive sc heeds) (start config ids session) inputs)
    (condition : CallsOk ok (reach sc config ids session inputs))
    (begun : ∀ c, Begun permits config c → kept c)
    (change : ∀ c c', Change heeds permits config c c' → kept c → kept c')
    (old : link < (reach sc config ids session inputs).allocated) :
    kept ((reach sc config ids session inputs).links link) := by
  have tracks : Tracks (fun _ => heeds) permits (start config ids session)
      (reach sc config ids session inputs) :=
    tracks_run within (known_start config ids session) guarded condition
  obtain ⟨c, started, changes⟩ := tracks.new link (Nat.zero_le _) old
  have initial := begun c started
  generalize (reach sc config ids session inputs).links link = final at changes
  induction changes with
  | refl => exact initial
  | tail _ last ih => exact change _ _ last ih

theorem links_permitted (within : Within permits ok)
    (condition : CallsOk ok (reach sc config ids session inputs))
    (begun : ∀ c, Begun permits config c → kept c)
    (change : ∀ c c', Change .all permits config c c' → kept c → kept c')
    (old : link < (reach sc config ids session inputs).allocated) :
    kept ((reach sc config ids session inputs).links link) := by
  have guarded : Run.Guarded (step sc) (Attentive sc .all) (start config ids session) inputs :=
    Run.Guarded.of_forall attentive_all _ inputs
  exact links_invariant within guarded condition begun change old

end World

end Decnet.Nsp
