import Decnet.Routing.Router

/-!
# The update process

Each circuit has one for the level 1 table and, in a level 2 router, one for
the area table.  It remembers which destinations have to be advertised and
turns them into routing messages when its timer runs out.
-/

namespace Decnet.Routing

inductive Level where
  | one | two
  deriving DecidableEq

structure Update where
  level : Level
  /-- The number of destinations, `srm_.size ()`. -/
  size : Nat
  srm : Nat → Bool
  (anySrm holdoff running lastComplete : Bool)

namespace Update

def new (level : Level) (maxnodes : Nat) : Update where
  level := level
  size := match level with
    | .one => maxnodes + 1
    | .two => 64
  srm := fun _ => false
  anySrm := false
  holdoff := false
  running := false
  lastComplete := false

def start (u : Update) : Update := { u with running := true }

def stop (u : Update) : Update := { u with running := false }

/-- Mark the destinations from `first` to `last`; `wants` is what the circuit
answers to `wants_updates`. -/
def setSrm (wants : Bool) (first last : Nat) (u : Update) : Update :=
  if !wants then u
  else
    { u with
      srm := fun i => u.srm i || decide (first ≤ i ∧ i ≤ min last (u.size - 1))
      anySrm := true
      holdoff := u.holdoff || u.running }

/-! ## Building messages -/

/-- The locals of `build`. -/
structure Builder where
  messages : List (List RouteSegment)
  segments : List RouteSegment
  seg : RouteSegment
  haveSeg : Bool
  (words previd : Nat)

namespace Builder

def empty : Builder := ⟨[], [], ⟨0, []⟩, false, 0, 0⟩

def flushSegment (b : Builder) : Builder :=
  { b with
    segments := if b.haveSeg && !b.seg.entries.isEmpty
      then b.segments ++ [b.seg] else b.segments
    haveSeg := false
    seg := ⟨0, []⟩ }

def flushMessage (b : Builder) : Builder :=
  let b := b.flushSegment
  { b with
    messages := if b.segments.isEmpty then b.messages
      else b.messages ++ [b.segments]
    segments := []
    words := 0 }

/-- One destination to advertise.  A gap starts a new segment, a full message
a new message. -/
def add (room : Nat) (entryFor : Nat → Nat) (b : Builder) (i : Nat) : Builder :=
  let b := if b.haveSeg && i != b.previd + 1 then b.flushSegment else b
  let b := if b.haveSeg then b
    else { b with
      seg := { b.seg with startid := i }, haveSeg := true, words := b.words + 2 }
  let b := { b with
    seg := { b.seg with entries := b.seg.entries ++ [entryFor i] }
    words := b.words + 1
    previd := i }
  if room ≤ b.words * 2 then b.flushMessage else b

end Builder

/-- Level 1 advertises node numbers from zero; there is no area zero. -/
def lowid (u : Update) : Nat :=
  match u.level with
  | .one => 0
  | .two => 1

def room (blksize : Nat) : Nat := if 16 < blksize then blksize - 16 else 64

def build (complete : Bool) (blksize : Nat) (srcnode : Nodeid)
    (entryFor : Nat → Nat) (u : Update) : List RoutingMessage :=
  let ids := (List.range' u.lowid (u.size - u.lowid)).filter fun i => complete || u.srm i
  let b := (ids.foldl (Builder.add (room blksize) entryFor) Builder.empty).flushMessage
  b.messages.map fun segments =>
    match u.level with
    | .one => .l1Routing srcnode segments
    | .two => .l2Routing srcnode segments

/-- A triggered update carries what changed, a periodic one everything. -/
def sendNow (blksize : Nat) (srcnode : Nodeid) (entryFor : Nat → Nat)
    (u : Update) : Update × List RoutingMessage :=
  ({ u with srm := fun _ => false, anySrm := false, lastComplete := !u.anySrm },
    u.build (!u.anySrm) blksize srcnode entryFor)

def timeout (wants : Bool) (blksize : Nat) (srcnode : Nodeid)
    (entryFor : Nat → Nat) (u : Update) : Update × List RoutingMessage :=
  let u := { u with holdoff := false }
  if !u.running then (u, [])
  else if !wants then (u, [])
  else u.sendNow blksize srcnode entryFor

end Update

end Decnet.Routing
