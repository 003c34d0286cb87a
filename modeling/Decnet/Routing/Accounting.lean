import Decnet.Routing.Forward

/-!
# Every packet is accounted for

`L1Router::forward` with what it counts and logs.  A packet is handed to its
next hop and no loss is counted, or it is handed to none and one loss is
counted and logged.  It is turned round at most once.
-/

namespace Decnet.Routing

/-- The number of the event, in class 4. -/
def Loss.code : Loss → Nat
  | .aged => 0
  | .unreachable => 1
  | .outOfRange => 2

/-- The counters of a circuit that `forward` raises. -/
structure Crossings where
  (origSent transRecv transSent : UInt64)

/-- An event names the circuit that the packet arrived on, and shows the header
of the packet. -/
structure LossEvent where
  code : Nat
  circuit : Option Nat
  header : DataPacket

/-- What `forward` changes in the router and its circuits, with the packets that
were handed to a neighbour or, for `none`, to the self adjacency. -/
structure Books where
  (agedLoss unreachLoss oorLoss transitSent : UInt64)
  counters : Nat → Crossings
  events : List LossEvent
  handed : List (Option Neighbour × DataPacket)

namespace Books

variable {books : Books}

def raise (circuit : Nat) (change : Crossings → Crossings) (books : Books) : Books :=
  { books with
    counters := Function.update books.counters circuit (change (books.counters circuit)) }

def cross (n : Neighbour) (packet : DataPacket) (books : Books) : Books :=
  let books := { books with transitSent := books.transitSent + 1 }
  match packet.src with
  | none =>
    books.raise n.circuit.name fun c => { c with origSent := c.origSent + 1 }
  | some arrival =>
    (books.raise arrival fun c => { c with transRecv := c.transRecv + 1 }).raise n.circuit.name
      fun c => { c with transSent := c.transSent + 1 }

def hand (next : Option Neighbour) (packet : DataPacket) (books : Books) : Books :=
  { books with handed := books.handed ++ [(next, packet)] }

def lose (loss : Loss) (packet : DataPacket) (books : Books) : Books :=
  let books := match loss with
    | .aged => { books with agedLoss := books.agedLoss + 1 }
    | .outOfRange => { books with oorLoss := books.oorLoss + 1 }
    | .unreachable => { books with unreachLoss := books.unreachLoss + 1 }
  { books with events := books.events ++ [⟨loss.code, packet.src, packet⟩] }

def settle (fate : Fate) (books : Books) : Books :=
  match fate with
  | .sent n packet => (books.cross n packet).hand (some n) packet
  | .delivered packet => books.hand none packet
  | .lost loss packet => books.lose loss packet

def losses (books : Books) : Loss → UInt64
  | .aged => books.agedLoss
  | .outOfRange => books.oorLoss
  | .unreachable => books.unreachLoss

theorem cross_keeps (n : Neighbour) (packet : DataPacket) :
    (books.cross n packet).handed = books.handed ∧ (books.cross n packet).losses = books.losses ∧
      (books.cross n packet).events = books.events := by
  unfold cross
  cases packet.src with
  | none => exact ⟨rfl, rfl, rfl⟩
  | some arrival => exact ⟨rfl, rfl, rfl⟩

end Books

namespace Forwarder

/-- `L1Router::forward`.  A packet on its way back is not turned round, so the
recursion ends. -/
def forwardPacket (f : Forwarder) (packet : DataPacket) (books : Books) : Books :=
  match f.attempt packet with
  | .ok fate => books.settle fate
  | .error loss =>
    if packet.rqr ∧ ¬ packet.rts then
      f.forwardPacket (turnedRound packet) books
    else books.lose loss packet
termination_by (!packet.rts).toNat
decreasing_by simp_all [turnedRound]

def NextHop (f : Forwarder) (dest : Nodeid) : Option Neighbour → Prop
  | some n => f.router.findOadj dest = (some (.neighbour n), false)
  | none => ∃ address id, f.router.findOadj dest = (some (.self address id), false)

/-- A packet as it goes on or is dropped: for the same nodes, or turned round if
it asked for that and was not on its way back. -/
structure Becomes (packet out : DataPacket) : Prop where
  payload : out.payload = packet.payload
  src : out.src = packet.src
  ends : (out.dstnode = packet.dstnode ∧ out.srcnode = packet.srcnode ∧ out.rts = packet.rts) ∨
    (out.dstnode = packet.srcnode ∧ out.srcnode = packet.dstnode ∧
      out.rts = true ∧ packet.rqr = true ∧ packet.rts = false)

/-- What became of a packet: it was handed on and nothing was lost, or it was
lost and not handed on. -/
def Accounted (f : Forwarder) (packet : DataPacket) (before after : Books) : Prop :=
  ∃ out, Becomes packet out ∧ ((∃ next, f.NextHop out.dstnode next ∧
        after.handed = before.handed ++ [(next, out)] ∧
        after.losses = before.losses ∧ after.events = before.events) ∨
      ∃ loss, after.handed = before.handed ∧ after.losses =
          Function.update before.losses loss (before.losses loss + 1) ∧
        after.events = before.events ++ [⟨loss.code, packet.src, out⟩])

variable {f : Forwarder} {packet : DataPacket} {books : Books}

theorem Becomes.visited (visit : UInt8) : Becomes packet { packet with visit := visit } :=
  ⟨rfl, rfl, .inl ⟨rfl, rfl, rfl⟩⟩

theorem accounted_attempt {fate : Fate} (tried : f.attempt packet = .ok fate) :
    f.Accounted packet books (books.settle fate) := by
  unfold attempt at tried
  split at tried
  · cases tried
  · cases tried
  case h_3 address id found =>
    cases tried
    refine ⟨packet, .visited packet.visit, .inl ⟨none, ⟨_, _, found⟩, ?_⟩⟩
    exact ⟨rfl, rfl, rfl⟩
  case h_4 n found =>
    split at tried
    · cases tried
      obtain ⟨handed, losses, events⟩ := @Books.cross_keeps books n
        { packet with visit := packet.visit + 1 }
      refine ⟨{ packet with visit := packet.visit + 1 }, .visited _,
        .inl ⟨some n, found, ?_, losses, events⟩⟩
      rw [← handed]
      rfl
    · cases tried

theorem accounted_lose (loss : Loss) : f.Accounted packet books (books.lose loss packet) := by
  refine ⟨packet, .visited packet.visit, .inr ⟨loss, ?_, ?_, ?_⟩⟩
  · cases loss <;> rfl
  · funext kind
    cases loss <;> cases kind <;> rfl
  · cases loss <;> rfl

/-- Whatever the tables of the router, a packet is handed once to its next hop
or counted as one loss, whose event is logged, and it is turned round at most
once and only if it may be. -/
theorem forwardPacket_accounted (f : Forwarder) (packet : DataPacket) (books : Books) :
    f.Accounted packet books (f.forwardPacket packet books) := by
  fun_induction forwardPacket f packet books with
  | case1 packet fate tried => exact accounted_attempt tried
  | case2 packet loss tried turns ih =>
    obtain ⟨out, becomes, outcome⟩ := ih
    refine ⟨out, ⟨becomes.payload, becomes.src, .inr ?_⟩, outcome⟩
    -- The packet has been turned round, so it is not turned round again.
    rcases becomes.ends with ⟨dst, src, rts⟩ | ⟨_, _, _, _, again⟩
    · exact ⟨dst, src, rts, turns.1, by simpa using turns.2⟩
    · cases again
  | case3 packet loss tried stays => exact accounted_lose loss

theorem forwardPacket_eq (f : Forwarder) (packet : DataPacket) (books : Books) :
    f.forwardPacket packet books = books.settle (f.forward packet) := by
  rw [forwardPacket, forward]
  cases f.attempt packet with
  | ok fate => rfl
  | error loss =>
    dsimp only
    by_cases turns : packet.rqr = true ∧ ¬ packet.rts = true
    · rw [if_pos turns, if_pos turns, forwardPacket]
      cases f.attempt (turnedRound packet) with
      | ok fate => rfl
      | error loss => rfl
    · rw [if_neg turns, if_neg turns]
      rfl

end Forwarder

end Decnet.Routing
