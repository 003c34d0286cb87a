import Mathlib.Algebra.Order.Ring.Nat
import Mathlib.Data.List.Basic

/-!
# Node addresses, circuits, adjacencies and routing messages

What the routing tables are made from: the neighbours a router has on its
circuits and the entries their routing messages carry.
-/

namespace Decnet.Routing

/-- Infinity in the five bits of a hop count and the ten of a cost. -/
abbrev INFHOPS : Nat := 31

abbrev INFCOST : Nat := 1023

/-- A node address: six bits of area, ten of node number. -/
structure Nodeid where
  value : Nat
  fits : value < 65536
  deriving DecidableEq

instance neZero_area : NeZero 64 := ⟨by decide⟩
instance neZero_tid : NeZero 1024 := ⟨by decide⟩
instance neZero_unsigned : NeZero (2 ^ 32) := ⟨by decide⟩

namespace Nodeid

theorem zero_fits : 0 < 65536 := by decide

def area (id : Nodeid) : Nat := id.value / 1024

def tid (id : Nodeid) : Nat := id.value % 1024

def make (area : Fin 64) (tid : Fin 1024) : Nodeid where
  value := area * 1024 + tid
  fits := by omega

theorem value_injective : Function.Injective value := by
  rintro ⟨value, fits⟩ ⟨value', fits'⟩ same
  cases same
  rfl

end Nodeid

inductive Ntype where
  | phase2 | l2router | l1router | endnode | unknown
  deriving DecidableEq

def Ntype.isRouter : Ntype → Bool
  | .l1router | .l2router => true
  | _ => false

/-- What the router knows of a circuit.  The cost is an `unsigned`; the
circuits' constructors replace a configured zero by 4. -/
structure Circuit where
  name : Nat
  broadcast : Bool
  cost : Nat
  positive : 0 < cost
  fits : cost < 2 ^ 32
  deriving DecidableEq

def Circuit.new (name : Nat) (broadcast : Bool) (configured : Fin (2 ^ 32)) : Circuit where
  name := name
  broadcast := broadcast
  cost := if configured.val = 0 then 4 else configured
  positive := by split <;> omega
  fits := by split <;> omega

/-- An `Adjacency` object of a circuit: its address in memory, by which the
columns of a table are ordered, and what was learned when it was made. -/
structure Neighbour where
  address : Nat
  nodeid : Nodeid
  ntype : Ntype
  circuit : Circuit
  deriving DecidableEq

/-- `Circuit::cost ()` as an adjacency calls it.  `LanCircuit` has a `cost_`
of its own, so that this one keeps its initial value there. -/
def Circuit.baseCost (c : Circuit) : Nat := if c.broadcast then 4 else c.cost

def Neighbour.circuitCost (n : Neighbour) : Nat := n.circuit.baseCost

theorem Circuit.baseCost_pos (c : Circuit) : 0 < c.baseCost := by
  unfold baseCost
  split
  · decide
  · exact c.positive

theorem Circuit.baseCost_lt {c : Circuit} (small : c.cost < 2 ^ 16) : c.baseCost < 2 ^ 16 := by
  unfold baseCost
  split
  · decide
  · exact small

inductive Adjacency where
  | self (address : Nat) (nodeid : Nodeid)
  | neighbour (n : Neighbour)
  deriving DecidableEq

namespace Adjacency

def address : Adjacency → Nat
  | self address _ => address
  | neighbour n => n.address

def nodeid : Adjacency → Nodeid
  | self _ nodeid => nodeid
  | neighbour n => n.nodeid

def isSelf : Adjacency → Bool
  | self .. => true
  | neighbour _ => false

end Adjacency

/-! ## Routing messages -/

/-- An entry of a routing message packs hops and cost into 16 bits. -/
def routeEntry (hops cost : Nat) : Nat := (hops * 1024 + cost % 1024) % 65536

def entryHops (entry : Nat) : Nat := entry / 1024

def entryCost (entry : Nat) : Nat := entry % 1024

/-- Entries for consecutive destinations from `startid`. -/
structure RouteSegment where
  startid : Nat
  entries : List Nat
  deriving DecidableEq

structure RouteUpdate where
  (id hops cost : Nat)
  deriving DecidableEq

inductive RoutingMessage where
  | l1Routing (srcnode : Nodeid) (segments : List RouteSegment)
  | l2Routing (srcnode : Nodeid) (segments : List RouteSegment)
  | phaseIIIRouting (srcnode : Nodeid) (entries : List Nat)
  deriving DecidableEq

namespace RoutingMessage

def srcnode : RoutingMessage → Nodeid
  | l1Routing srcnode _ => srcnode
  | l2Routing srcnode _ => srcnode
  | phaseIIIRouting srcnode _ => srcnode

/-- The updates of a run of entries from destination `id` on.  The sum of the
two costs is taken in an `unsigned`. -/
def entryUpdates (circuitCost : Nat) : Nat → List Nat → List RouteUpdate
  | _, [] => []
  | id, e :: entries =>
    ⟨id, entryHops e + 1, (entryCost e + circuitCost) % 2 ^ 32⟩ ::
      entryUpdates circuitCost (id + 1) entries

def segmentUpdates (circuitCost : Nat) (segments : List RouteSegment) : List RouteUpdate :=
  segments.flatMap fun s => entryUpdates circuitCost s.startid s.entries

def updates (circuitCost : Nat) : RoutingMessage → List RouteUpdate
  | l1Routing _ segments => segmentUpdates circuitCost segments
  | l2Routing _ segments => segmentUpdates circuitCost segments
  | phaseIIIRouting _ entries => entryUpdates circuitCost 1 entries

def isL2 : RoutingMessage → Bool
  | l2Routing .. => true
  | _ => false

variable {u : RouteUpdate}

theorem mem_entryUpdates {circuitCost id : Nat} {entries : List Nat}
    (member : u ∈ entryUpdates circuitCost id entries) :
    ∃ e ∈ entries, u.hops = entryHops e + 1 ∧ u.cost = (entryCost e + circuitCost) % 2 ^ 32 := by
  induction entries generalizing id with
  | nil => cases member
  | cons e entries ih =>
    rcases List.mem_cons.1 member with rfl | rest
    · exact ⟨e, List.mem_cons_self, rfl, rfl⟩
    · obtain ⟨e', member', updated⟩ := ih rest
      exact ⟨e', List.mem_cons_of_mem _ member', updated⟩

section

variable {circuitCost : Nat} {msg : RoutingMessage} (member : u ∈ msg.updates circuitCost)

include member

theorem mem_updates :
    ∃ e, u.hops = entryHops e + 1 ∧ u.cost = (entryCost e + circuitCost) % 2 ^ 32 := by
  have segment {segments : List RouteSegment} (member : u ∈ segmentUpdates circuitCost segments) :
      ∃ e, u.hops = entryHops e + 1 ∧ u.cost = (entryCost e + circuitCost) % 2 ^ 32 := by
    obtain ⟨s, _, inSegment⟩ := List.mem_flatMap.1 member
    obtain ⟨e, _, updated⟩ := mem_entryUpdates inSegment
    exact ⟨e, updated⟩
  cases msg with
  | l1Routing | l2Routing => exact segment member
  | phaseIIIRouting _ entries =>
    obtain ⟨e, _, updated⟩ := mem_entryUpdates member
    exact ⟨e, updated⟩

/-- As long as the sum does not wrap, every update is at least as costly as
the circuit. -/
theorem cost_le_of_mem_updates (noWrap : circuitCost + 1023 < 2 ^ 32) : circuitCost ≤ u.cost := by
  obtain ⟨e, _, cost⟩ := mem_updates member
  have small : entryCost e < 1024 := Nat.mod_lt _ (by omega)
  omega

end

end RoutingMessage

end Decnet.Routing
