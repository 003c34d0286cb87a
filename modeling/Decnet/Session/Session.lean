import Decnet.Nsp.World
import Decnet.Session.Packets

/-!
# Session control

The class `Session`: the object database, the table of live conversations and
the answers to the notifications of NSP.  Applications are a parameter, in the
way session control is one for NSP: each call into an application is an
arbitrary change of the applications' own state mixed with requests on their
connections and new outbound connects.

The member `made` of the state is history: the calls of NSP that applications
have caused.
-/

namespace Decnet.Session

open Decnet.Nsp

/-- An object and whether it has a factory for applications. -/
structure Object where
  number : UInt8
  name : Bytes
  hasFactory : Bool
  deriving DecidableEq, Repr

/-- `toupper` on a byte, in the C locale. -/
def toUpper (byte : UInt8) : UInt8 :=
  if 97 ≤ byte ∧ byte ≤ 122 then byte - 32 else byte

structure State (α : Type*) where
  objects : List Object
  live : AList (fun _ : Ptr => ConnectData)
  finished : List (Ptr × Nat)
  apps : α
  made : List CallRecord

inductive Event where
  | connectReceived (data : Bytes)
  | dataReceived (data : Bytes)
  | interruptReceived (data : Bytes)
  | runState
  | disconnected (reason : Nat)
  deriving DecidableEq, Repr

inductive Request where
  | accept (link : Ptr) (data : Bytes) (fcopt : Nat)
  | reject (link : Ptr) (reason : Nat) (data : Bytes)
  | sendData (link : Ptr) (data : Bytes)
  | disconnect (link : Ptr) (reason : Nat) (data : Bytes)
  | interrupt (link : Ptr) (data : Bytes)
  | connect (dest : Nodeid) (message : ConnectData)
  deriving DecidableEq, Repr

variable {α : Type*}

abbrev SessionWorld (α : Type*) := World (State α)

def update (change : State α → State α) (w : SessionWorld α) : SessionWorld α :=
  { w with session := change w.session }

def findByNumber (number : UInt8) (state : State α) : Option Object :=
  state.objects.find? (fun object => object.number = number)

/-- Object names are kept in upper case. -/
def findByName (name : Bytes) (state : State α) : Option Object :=
  state.objects.find? (fun object => object.name = name.map toUpper)

def findObject (dstname : EndUser) (state : State α) : Option Object :=
  if dstname.fmt = .byNumber ∧ dstname.num ≠ 0 then
    findByNumber dstname.num state
  else if !dstname.name.isEmpty then
    findByName dstname.name state
  else
    none

def finishedGrace : Nat := 60

def sweepFinished (now : Nat) (state : State α) : State α :=
  { state with
    finished := state.finished.filter (fun entry => now - entry.2 < finishedGrace) }

def retire (link : Ptr) (w : SessionWorld α) : SessionWorld α :=
  if link ∈ w.session.live then
    update (fun state =>
      let state := sweepFinished w.now state
      { state with
        finished := state.finished ++ [(link, w.now)]
        live := state.live.erase link }) w
  else
    w

def startLive (link : Ptr) (message : ConnectData) (w : SessionWorld α) : SessionWorld α :=
  update (fun state => { state with live := state.live.insert link message }) w

/-! ## Requests of applications -/

def note (call : Call) (w : SessionWorld α) : SessionWorld α :=
  if ∀ link ∈ call.target, link < w.allocated then
    update (fun state => { state with made := state.made ++ [w.record call] }) w
  else
    w

def callNsp (call : Call) (w : SessionWorld α) : SessionWorld α :=
  (note call w).perform call

def connect (dest : Nodeid) (message : ConnectData) (w : SessionWorld α) : SessionWorld α :=
  if !message.dstname.valid || !message.srcname.valid then
    w
  else
    match encodeMessage message with
    | none => w
    | some payload =>
      match (w.connect dest payload).1 with
      | none => callNsp (.connect dest payload) w
      | some link =>
        startLive link message (callNsp (.connect dest payload) w)

def request (w : SessionWorld α) : Request → SessionWorld α
  | .accept link data fcopt => callNsp (.accept link data fcopt) w
  | .reject link reason data => callNsp (.reject link reason data) w
  | .sendData link data => callNsp (.sendData link data) w
  | .disconnect link reason data => callNsp (.disconnect link reason data) w
  | .interrupt link data => callNsp (.sendInterrupt link data) w
  | .connect dest message => connect dest message w

/-- One thing that applications can do.  Objects come and go with them. -/
inductive Acts : SessionWorld α → SessionWorld α → Prop where
  | think (w : SessionWorld α) (apps : α) :
      Acts w (update (fun state => { state with apps := apps }) w)
  | register (w : SessionWorld α) (objects : List Object) :
      Acts w (update (fun state => { state with objects := objects }) w)
  | request (w : SessionWorld α) (request : Request) : Acts w (Session.request w request)

/-- The applications: whether an object's factory makes one, and what they do
when they are told something about a link. -/
structure Applications (α : Type*) where
  make : α → Object → Bool
  react : Ptr → Event → SessionWorld α → SessionWorld α
  acts : ∀ link event w, Relation.ReflTransGen Acts w (react link event w)

/-- Applications that answer each event with fixed requests. -/
def Applications.scripted (script : Ptr → Event → List Request) : Applications Unit where
  make _ _ := true
  react link event w := (script link event).foldl Session.request w
  acts link event w := by
    induction script link event generalizing w with
    | nil => exact .refl
    | cons request requests ih => exact .head (.request w request) (ih _)

/-! ## Notifications of NSP -/

section Notifications

variable (apps : Applications α)

/-- Find the object that is asked for and start a conversation with it. -/
def connectReceived (link : Ptr) (payload : Bytes) (w : SessionWorld α) : SessionWorld α :=
  match parseMessage payload with
  | none => w.perform (.reject link badFmt [])
  | some message =>
    match findObject message.dstname w.session with
    | none => w.perform (.reject link noObj [])
    | some object =>
      if !object.hasFactory then
        w.perform (.reject link noObj [])
      else if !apps.make w.session.apps object then
        w.perform (.reject link objFail [])
      else
        apps.react link (.connectReceived message.connectdata) (startLive link message w)

def passOn (link : Ptr) (event : Event) (w : SessionWorld α) : SessionWorld α :=
  if link ∈ w.session.live then apps.react link event w else w

/-- Tell the application that the link is gone, and retire the
conversation. -/
def passOnEnd (link : Ptr) (reason : Nat) (w : SessionWorld α) : SessionWorld α :=
  if link ∈ w.session.live then retire link (apps.react link (.disconnected reason) w) else w

def notify (link : Ptr) (upcall : Upcall) (w : SessionWorld α) : SessionWorld α :=
  match upcall with
  | .connectReceived payload => connectReceived apps link payload w
  | .connectConfirmed data => passOn apps link (.connectReceived data) w
  | .connectRejected reason _ => passOnEnd apps link reason w
  | .dataReceived data => passOn apps link (.dataReceived data) w
  | .interruptReceived data => passOn apps link (.interruptReceived data) w
  | .runState => passOn apps link .runState w
  | .disconnected reason _ => passOnEnd apps link reason w

/-- A relation that every part of an answer to NSP keeps; `fresh` is what is
known of a link that session control is asked about. -/
structure Kept (fresh : Ptr → SessionWorld α → Prop)
    (R : SessionWorld α → SessionWorld α → Prop) : Prop where
  refl : ∀ w, R w w
  trans : ∀ {w w' w''}, R w w' → R w' w'' → R w w''
  thinks : ∀ w apps, R w (update (fun state => { state with apps := apps }) w)
  registers : ∀ w objects, R w (update (fun state => { state with objects := objects }) w)
  calls : ∀ w call, R w (callNsp call w)
  connects : ∀ {w dest payload link}, (w.connect dest payload).1 = some link →
    ∀ message, R w (startLive link message (callNsp (.connect dest payload) w))
  refuses : ∀ {w link}, fresh link w → ∀ reason, R w (w.perform (.reject link reason []))
  begins : ∀ {w link}, fresh link w → ∀ message, R w (startLive link message w)
  ends : ∀ w link, R w (retire link w)

namespace Kept

open Relation

variable {fresh : Ptr → SessionWorld α → Prop}
  {R : SessionWorld α → SessionWorld α → Prop} (kept : Kept fresh R)

include kept

theorem request (w : SessionWorld α) (request : Request) : R w (Session.request w request) := by
  cases request with
  | connect dest message =>
    simp only [Session.request, connect]
    split
    · exact kept.refl w
    · split
      · exact kept.refl w
      · split
        · exact kept.calls w _
        · rename_i returned
          exact kept.connects returned message
  | accept | reject | sendData | disconnect | interrupt =>
    exact kept.calls w _

theorem acts {w w' : SessionWorld α} (acts : ReflTransGen Acts w w') : R w w' := by
  induction acts with
  | refl => exact kept.refl w
  | tail _ last before =>
    refine kept.trans before ?_
    cases last with
    | think next => exact kept.thinks _ next
    | register objects => exact kept.registers _ objects
    | request request => exact kept.request _ request

theorem notify (link : Ptr) (upcall : Upcall) {w : SessionWorld α}
    (asked : ∀ payload, upcall = .connectReceived payload → fresh link w) :
    R w (notify apps link upcall w) := by
  have passOn (event : Event) : R w (passOn apps link event w) := by
    unfold Session.passOn
    split
    · exact kept.acts (apps.acts link event w)
    · exact kept.refl w
  have passOnEnd (reason : Nat) : R w (passOnEnd apps link reason w) := by
    unfold Session.passOnEnd
    split
    · exact kept.trans (kept.acts (apps.acts link _ w)) (kept.ends _ link)
    · exact kept.refl w
  cases upcall with
  | connectReceived payload =>
    have new := asked payload rfl
    simp only [Session.notify, connectReceived]
    split
    · exact kept.refuses new _
    · split
      · exact kept.refuses new _
      · split
        · exact kept.refuses new _
        · split
          · exact kept.refuses new _
          · exact kept.trans (kept.begins new _) (kept.acts (apps.acts link _ _))
  | connectRejected reason | disconnected reason => exact passOnEnd reason
  | connectConfirmed | dataReceived | interruptReceived | runState =>
    exact passOn _

end Kept

open Relation

theorem acts_update (change : State α → State α) (w : SessionWorld α) :
    ReflTransGen World.Acts w (update change w) :=
  .single (.think w _)

theorem acts_callNsp (w : SessionWorld α) (call : Call) :
    ReflTransGen World.Acts w (callNsp call w) := by
  refine .tail ?_ (.call _ call)
  unfold note
  split
  · exact acts_update _ w
  · exact .refl

theorem kept_acts : Kept (fun _ _ => True) (ReflTransGen (@World.Acts (State α))) where
  refl _ := .refl
  trans := .trans
  thinks w _ := acts_update _ w
  registers w _ := acts_update _ w
  calls := acts_callNsp
  connects _ _ := (acts_callNsp _ _).trans (acts_update _ _)
  refuses _ _ := .single (.call _ _)
  begins _ _ := acts_update _ _
  ends w link := by
    unfold retire
    split
    · exact acts_update _ _
    · exact .refl

/-- Session control as NSP sees it. -/
def control : SessionControl (State α) where
  notify := notify apps
  acts link upcall _ := kept_acts.notify apps link upcall fun _ _ => trivial

inductive Input (α : Type*) where
  | deliver (src : Nodeid) (packet : Packet)
  | expire (link : Ptr)
  | expireAck (link : Ptr)
  | elapse (seconds : Nat)
  | request (request : Request)
  | think (apps : α)
  | register (objects : List Object)

def step (w : SessionWorld α) : Input α → SessionWorld α
  | .deliver src packet => w.deliver (control apps) src packet
  | .expire link => w.expire (control apps) link
  | .expireAck link => w.expireAck link
  | .elapse seconds => { w with now := w.now + seconds }
  | .request request => Session.request w request
  | .think next => update (fun state => { state with apps := next }) w
  | .register objects => update (fun state => { state with objects := objects }) w

/-- Session control without conversations, over NSP as it starts. -/
def start (config : NspConfig) (ids : List Nat) (objects : List Object)
    (initial : α) : SessionWorld α :=
  World.start config ids
    { objects := objects
      live := ∅
      finished := []
      apps := initial
      made := [] }

def reach (config : NspConfig) (ids : List Nat) (objects : List Object)
    (initial : α) (inputs : List (Input α)) : SessionWorld α :=
  inputs.foldl (step apps) (start config ids objects initial)

end Notifications

end Decnet.Session
