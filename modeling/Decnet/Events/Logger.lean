import Decnet.Nsp.World

/-!
# Events and their sinks

An event record with its parameters, and what `EventLogger::logevent` does with
it.  A local sink writes it down; a remote sink queues it and sends it over a
logical link of its own, which it opens when there is none.

The time of an event is left out, and so are the retry timer of a remote sink
and what the sinks write.
-/

namespace Decnet.Events

open Nsp

/-- The exception of values that do not fit, with its text. -/
structure FieldOverflow where
  what : String
  deriving DecidableEq, Repr

structure NiceNode where
  id : Nodeid
  name : Bytes
  deriving DecidableEq, Repr

/-- The kinds of `nice::Value` that event 3.0 is made of. -/
inductive Value where
  | du (value bytes : Nat)
  | ai (text : Bytes)
  | hi (image : Bytes)
  | cm (items : List Value)
  deriving Repr

namespace Value

def makeAi (text : Bytes) : Except FieldOverflow Value :=
  if text.length > 255 then throw ⟨"NICE ASCII image longer than 255 bytes"⟩ else pure (.ai text)

def makeHi (image : Bytes) : Except FieldOverflow Value :=
  if image.length > 255 then throw ⟨"NICE hex image longer than 255 bytes"⟩ else pure (.hi image)

def makeCm (items : List Value) : Except FieldOverflow Value :=
  if items.length > 15 then throw ⟨"NICE coded multiple longer than 15 items"⟩ else pure (.cm items)

end Value

/-- A node as a parameter: the address and, if known, the name. -/
def nodeValue (node : NiceNode) : Except FieldOverflow Value :=
  if node.name.isEmpty then
    Value.makeCm [.du node.id 2]
  else do
    let name ← Value.makeAi node.name
    Value.makeCm [.du node.id 2, name]

structure EventId where
  (cls code : Nat)
  deriving DecidableEq, Repr

structure Event where
  id : EventId
  (console file monitor : Bool)
  source : NiceNode
  params : List (Nat × Value)

/-- The constructor, for an event about no entity. -/
def Event.make (id : EventId) : Event :=
  { id := id
    console := true
    file := true
    monitor := true
    source := ⟨0, []⟩
    params := [] }

def Event.param (number : Nat) (value : Value) (event : Event) : Event :=
  { event with
    params := event.params.filter (fun entry => entry.1 ≠ number) ++ [(number, value)] }

/-- The node database as the code looks at it: names by address, and addresses
by name. -/
structure NodeDb where
  name : Nodeid → Bytes
  find : Bytes → Option Nodeid

def NodeDb.nicenode (db : NodeDb) (id : Nodeid) : NiceNode :=
  ⟨id, db.name id⟩

/-! ## Sinks -/

def queueLimit : Nat := 50

/-- A remote sink, with the link of its session connection.  `connectMessage`
is the session control connect message, if it can be encoded. -/
structure RemoteSink where
  filters : Nat → EventId → Bool
  queue : List Event
  conn : Option Ptr
  (connecting stopped : Bool)
  node : Bytes
  connectMessage : Option Bytes

inductive Sink where
  | onSite
  | remote (sink : RemoteSink)

variable {τ : Type*} (wire : Event → Bytes) (db : NodeDb)

def sendQueued (link : Ptr) :
    List Event → World τ → List Event × World τ
  | [], w => ([], w)
  | event :: queue, w =>
    if (w.links link).running then
      sendQueued link queue (w.perform (.sendData link (wire event)))
    else
      (event :: queue, w)

namespace RemoteSink

def sendEvents (sink : RemoteSink) (w : World τ) : RemoteSink × World τ :=
  if sink.stopped then
    (sink, w)
  else
    match sink.conn with
    | some link =>
      let (queue, w) := sendQueued wire link sink.queue w
      ({ sink with queue := queue }, w)
    | none =>
      if sink.connecting || sink.node.isEmpty then
        (sink, w)
      else
        match db.find sink.node with
        | none => ({ sink with node := [] }, w)
        | some dest =>
          match sink.connectMessage with
          | none => (sink, w)
          | some message =>
            if w.freeIds.isEmpty then
              (sink, w)
            else
              ({ sink with connecting := true }, w.perform (.connect dest message))

def sinkmask (sink : RemoteSink) (event : Event) : Nat :=
  (sink.filters 0 event.id).toNat + 2 * (sink.filters 1 event.id).toNat +
    4 * (sink.filters 2 event.id).toNat

/-- A full queue ends in an "events lost" record. -/
def writeEvent (event : Event) (mask : Nat) (sink : RemoteSink)
    (w : World τ) : RemoteSink × World τ :=
  let copy :=
    { event with
      console := mask.testBit 0
      file := mask.testBit 1
      monitor := mask.testBit 2 }
  if sink.queue.length ≥ queueLimit then
    if (sink.queue.getLast?.map Event.id) = some ⟨0, 0⟩ then
      (sink, w)
    else
      let lost := { Event.make ⟨0, 0⟩ with source := copy.source }
      ({ sink with queue := sink.queue.dropLast ++ [lost] }, w)
  else
    sendEvents wire db { sink with queue := sink.queue ++ [copy] } w

end RemoteSink

def Sink.logEvent (event : Event) (sink : Sink) (w : World τ) : Sink × World τ :=
  match sink with
  | .onSite => (.onSite, w)
  | .remote sink =>
    let mask := sink.sinkmask event
    if mask = 0 then
      (.remote sink, w)
    else
      let (sink, w) := sink.writeEvent wire db event mask w
      (.remote sink, w)

/-- `EventLogger::logevent`: every sink in turn. -/
def logEvent (event : Event) : List Sink → World τ → List Sink × World τ
  | [], w => ([], w)
  | sink :: sinks, w =>
    let (sink, w) := sink.logEvent wire db event w
    let (sinks, w) := logEvent event sinks w
    (sink :: sinks, w)

end Decnet.Events
