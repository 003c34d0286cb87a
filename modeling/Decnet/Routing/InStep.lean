import Decnet.Lib.Replica
import Decnet.Routing.Hearing
import Decnet.Routing.Posting

/-!
# The update process keeps a neighbour in step

Two routers are joined by a circuit that delivers in order and loses nothing.
Seen from one of them to the other, each destination is a cell that is copied:
the table of the sender holds the value, the flag of the update process is the
mark, the messages on the circuit are the queue, and the column of the receiver
holds the copy, one hop and the cost of the circuit further away.
-/

namespace Decnet.Routing

namespace RoutingNode

def arrival (name : Nat) (msg : RoutingMessage) (src address : Nat) (s : RoutingNode) : Input :=
  match s.circuits name with
  | .ptp _ => .ptp name (.received (some (.routing msg)) address)
  | .lan _ => .lan name (.received (.routing msg) src address)

end RoutingNode

def AnyCircuit.Hears (n : Neighbour) : AnyCircuit → Prop
  | ptp c => c.state = .running ∧ c.adj = some n
  | lan c => ∃ a, c.find n.nodeid = some a ∧ a.state = .up ∧ a.adj = some n

instance (n : Neighbour) : ∀ c : AnyCircuit, Decidable (c.Hears n)
  | .ptp _ => inferInstanceAs (Decidable (_ ∧ _))
  | .lan c => inferInstanceAs (Decidable (∃ a ∈ c.find n.nodeid, a.state = .up ∧ a.adj = some n))

namespace RoutingNode

theorem calls_arrival {name : Nat} {n : Neighbour} {s : RoutingNode}
    (hears : (s.circuits name).Hears n) {msg : RoutingMessage}
    (source : msg.srcnode = n.nodeid) (src address : Nat) :
    s.calls (s.arrival name msg src address) = [.message msg n] := by
  unfold arrival
  split
  case h_1 c kind =>
    rw [kind] at hears
    simp only [calls, kind, PtpCircuit.dispatch, hears.1, PtpCircuit.running, hears.2]
    rfl
  case h_2 c kind =>
    rw [kind] at hears
    obtain ⟨a, found, isUp, adj⟩ := hears
    simp only [calls, kind, LanCircuit.dispatch, LanCircuit.routingMessage,
      source, found, isUp, adj]
    rfl

end RoutingNode

/-! ## Both ends -/

/-- What is joined: the name of the circuit at either end, the address of the
receiver and the adjacency the receiver has for the sender. -/
structure LinkEnds where
  (out into : Nat)
  id : Nodeid
  peer : Neighbour

/-- Two routers and what one of them has put on the circuit for the other. -/
structure Joined where
  sender : RoutingNode
  wire : List RoutingMessage
  receiver : RoutingNode

namespace Joined

inductive Input where
  | sender (input : RoutingNode.Input)
  | receiver (input : RoutingNode.Input)
  | deliver (src address : Nat)
  deriving DecidableEq

def step (ends : LinkEnds) (s : Joined) : Input → Joined
  | .sender input =>
    { s with
      sender := s.sender.step input
      wire := s.wire ++ RoutingNode.posted ends.out s.sender (s.sender.step input) }
  | .receiver input => { s with receiver := s.receiver.step input }
  | .deliver src address =>
    match s.wire with
    | [] => s
    | msg :: rest =>
      { s with
        wire := rest
        receiver := s.receiver.step (s.receiver.arrival ends.into msg src address) }

def run (ends : LinkEnds) (s : Joined) (inputs : List Input) : Joined :=
  inputs.foldl (step ends) s

/-- The adjacency is up at the end that does something, and nothing else takes
the place of what the circuit delivers. -/
def Holds (ends : LinkEnds) (s : Joined) : Input → Prop
  | .sender _ => (s.sender.circuits ends.out).Up ends.id
  | .receiver input => ∀ made ∈ s.receiver.calls input, made.adj ≠ ends.peer
  | .deliver .. => (s.receiver.circuits ends.into).Hears ends.peer

instance (ends : LinkEnds) (s : Joined) : ∀ input, Decidable (s.Holds ends input)
  | .sender _ => inferInstanceAs (Decidable (AnyCircuit.Up _ _))
  | .receiver _ => inferInstanceAs (Decidable (∀ made ∈ _, _))
  | .deliver .. => inferInstanceAs (Decidable (AnyCircuit.Hears _ _))

/-- The value of the sender as the receiver should have it. -/
def expected (ends : LinkEnds) (value : Nat × Nat) : Nat × Nat :=
  (min (value.1 + 1) INFHOPS, min (value.2 + ends.peer.circuit.cost) INFCOST)

/-- The destination is marked, or its value is the last thing on the circuit
about it, or the receiver has it. -/
def InStep (ends : LinkEnds) (s : Joined) (d : Nat) : Prop :=
  (s.sender.updates ends.out).srm d = true ∨ (told d s.wire).getLast? = some (s.sender.value d) ∨
    s.receiver.router.base.hears ends.peer d = some (expected ends (s.sender.value d))

/-- The adjacency has come up at both ends: the sender has marked everything,
and the receiver has made a column. -/
structure Begins (ends : LinkEnds) (s : Joined) : Prop where
  reached : ∃ area config selfAddress circuits history,
    s.sender = (RoutingNode.start area config selfAddress circuits).run history
  marked : ∀ d ≤ s.sender.router.base.maxnodes, (s.sender.updates ends.out).srm d = true
  empty : s.wire = []
  size : s.receiver.router.base.maxnodes = s.sender.router.base.maxnodes
  source : ends.peer.nodeid = s.sender.router.base.nodeid
  column : (s.receiver.router.base.heard ends.peer).isSome

/-! ## One destination as a cell -/

def image (ends : LinkEnds) (value : Nat × Nat) : Option (Nat × Nat) :=
  some (further ends.peer.circuit.cost value)

def cell (ends : LinkEnds) (s : Joined) (d : Nat) : Replica (Nat × Nat) (Option (Nat × Nat)) where
  current := s.sender.value d
  marked := (s.sender.updates ends.out).srm d = true
  flight := told d s.wire
  copy := s.receiver.router.base.hears ends.peer d

/-- What holds throughout; `last` is the highest destination. -/
structure Tracks (ends : LinkEnds) (last : Nat) (s : Joined) : Prop where
  regular : RoutingNode.Regular ends.out s.sender
  size : s.sender.router.base.maxnodes = last
  size' : s.receiver.router.base.maxnodes = last
  source : ends.peer.nodeid = s.sender.router.base.nodeid
  sources : ∀ msg ∈ s.wire, msg.srcnode = ends.peer.nodeid
  column : (s.receiver.router.base.heard ends.peer).isSome
  cells : ∀ d ≤ last, (cell ends s d).InStep (image ends)

variable {ends : LinkEnds} {last : Nat} {s : Joined}

theorem Begins.tracks (begins : Begins ends s) : Tracks ends s.sender.router.base.maxnodes s := by
  obtain ⟨area, config, selfAddress, circuits, history, reached⟩ := begins.reached
  refine ⟨?_, rfl, begins.size, begins.source, ?_, begins.column, ?_⟩
  · rw [reached]
    exact .run area config selfAddress circuits ends.out history
  · rw [begins.empty]
    exact nofun
  · exact fun d inside => .inl (begins.marked d inside)

section

variable (tracks : Tracks ends last s)

include tracks

theorem Tracks.sender (input : RoutingNode.Input) (up : (s.sender.circuits ends.out).Up ends.id) :
    Tracks ends last (s.step ends (.sender input)) := by
  have router := s.sender.announces_step input
  constructor
  case regular => exact tracks.regular.step input
  case size => exact router.maxnodes.trans tracks.size
  case size' => exact tracks.size'
  case source => exact tracks.source.trans router.nodeid.symm
  case sources =>
    intro msg member
    rcases List.mem_append.mp member with old | new
    · exact tracks.sources msg old
    · exact (RoutingNode.posted_srcnode up new).trans tracks.source.symm
  case column => exact tracks.column
  case cells =>
    intro d inside
    have inside' : d ≤ s.sender.router.base.maxnodes := by
      rw [tracks.size]
      exact inside
    refine (tracks.cells d inside).step ?_
    unfold cell step
    rw [told_append]
    rcases tracks.regular.step_told up input inside' with
      ⟨marks, nothing⟩ | ⟨present, served, same⟩
    · rw [nothing, List.append_nil]
      refine .change (marks.grows.srm d) ?_
      have room : d < (s.sender.updates ends.out).size := by
        rw [tracks.regular.size]
        omega
      by_cases same : (s.sender.step input).value d = s.sender.value d
      · exact .inl same
      · exact .inr (marks.changed d room same)
    · rw [same]
      exact .send _ present served

theorem Tracks.receiver {input : RoutingNode.Input}
    (others : ∀ made ∈ s.receiver.calls input, made.adj ≠ ends.peer) :
    Tracks ends last (s.step ends (.receiver input)) := by
  have same : (s.receiver.step input).router.base.heard ends.peer =
      s.receiver.router.base.heard ends.peer := by
    unfold RoutingNode.router
    rw [RoutingNode.step_layer]
    exact Layer.heard_run_of_ne others
  constructor
  case regular => exact tracks.regular
  case size => exact tracks.size
  case size' =>
    exact (s.receiver.announces_step input).maxnodes.trans tracks.size'
  case source => exact tracks.source
  case sources => exact tracks.sources
  case column =>
    change ((s.receiver.step input).router.base.heard ends.peer).isSome = true
    rw [same]
    exact tracks.column
  case cells =>
    intro d inside
    have copy : (s.receiver.step input).router.base.hears ends.peer d =
        s.receiver.router.base.hears ends.peer d := by
      unfold L1Router.hears
      rw [same]
    unfold cell step
    rw [copy]
    exact tracks.cells d inside

theorem Tracks.deliver (src address : Nat)
    (hears : (s.receiver.circuits ends.into).Hears ends.peer) :
    Tracks ends last (s.step ends (.deliver src address)) := by
  unfold step
  dsimp only
  split
  case h_1 => exact tracks
  case h_2 msg rest onWire =>
    have source := tracks.sources msg (onWire ▸ List.mem_cons_self)
    have layer : (s.receiver.step (s.receiver.arrival ends.into msg src
        address)).layer = s.receiver.layer.step (.message msg ends.peer) := by
      rw [RoutingNode.step_layer, RoutingNode.calls_arrival hears source src address]
      rfl
    have copied {d : Nat} (inside : d ≤ s.receiver.router.base.maxnodes) :
        (s.receiver.step (s.receiver.arrival ends.into msg src
          address)).router.base.hears ends.peer d =
        (s.receiver.router.base.hears ends.peer d).map fun old =>
          ((told d [msg]).getLast?.map (further ends.peer.circuit.cost)).getD old := by
      unfold RoutingNode.router
      rw [layer]
      exact Layer.hears_message msg inside
    constructor
    case regular => exact tracks.regular
    case size => exact tracks.size
    case size' =>
      exact (s.receiver.announces_step _).maxnodes.trans tracks.size'
    case source => exact tracks.source
    case sources =>
      exact fun later member => tracks.sources later (onWire ▸ List.mem_cons_of_mem _ member)
    case column =>
      have zero := congrArg Option.isSome (copied (Nat.zero_le _))
      simpa [L1Router.hears, tracks.column] using zero
    case cells =>
      intro d inside
      refine (tracks.cells d inside).step ?_
      have order : told d s.wire = told d [msg] ++ told d rest := by
        rw [onWire]
        exact told_append d [msg] rest
      obtain ⟨col, column⟩ := Option.isSome_iff_exists.mp tracks.column
      have old : s.receiver.router.base.hears ends.peer d = some (col.hops d, col.cost d) := by
        simp [L1Router.hears, column]
      have copy : (s.receiver.step (s.receiver.arrival ends.into msg src
            address)).router.base.hears ends.peer d =
          ((told d [msg]).getLast?.map (image ends)).getD
            (s.receiver.router.base.hears ends.peer d) := by
        rw [copied (tracks.size' ▸ inside), old]
        cases (told d [msg]).getLast? with
        | none | some => rfl
      unfold cell
      rw [copy]
      exact .deliver (told d [msg]) (told d rest) order

theorem Tracks.step {input : Input} (holds : s.Holds ends input) :
    Tracks ends last (s.step ends input) := by
  cases input with
  | sender input => exact tracks.sender input holds
  | receiver input => exact tracks.receiver holds
  | deliver src address => exact tracks.deliver src address holds

end

/-- A sum that does not wrap is the sum. -/
theorem further_eq_expected (small : ends.peer.circuit.cost + 1023 < 2 ^ 32)
    {value : Nat × Nat} (fits : value.2 ≤ INFCOST) :
    further ends.peer.circuit.cost value = expected ends value := by
  have ten : value.2 ≤ 1023 := fits
  unfold further expected
  rw [Nat.mod_eq_of_lt (by omega)]

theorem Tracks.inStep (tracks : Tracks ends last s)
    (small : ends.peer.circuit.cost + 1023 < 2 ^ 32) {d : Nat}
    (inside : d ≤ last) : s.InStep ends d := by
  rcases tracks.cells d inside with marked | last | ⟨_, copy⟩
  · exact .inl marked
  · exact .inr (.inl last)
  · refine .inr (.inr (copy.trans (congrArg some ?_)))
    exact further_eq_expected small (tracks.regular.legal.cost d)

/-- As long as the adjacency is up at both ends, the neighbour is in step: each
destination is marked, or its present value is under way behind every other, or
has arrived. -/
theorem neighbour_in_step (ends : LinkEnds) (s : Joined) (inputs : List Input)
    (begins : Begins ends s) (small : ends.peer.circuit.cost + 1023 < 2 ^ 32)
    (guarded : Run.Guarded (step ends) (Holds ends) s inputs) :
    ∀ d ≤ s.sender.router.base.maxnodes, (s.run ends inputs).InStep ends d := by
  have tracks : Tracks ends s.sender.router.base.maxnodes (s.run ends inputs) :=
    guarded.invariant (fun _ _ tracks holds => tracks.step holds) begins.tracks
  intro d inside
  exact tracks.inStep small inside

/-! ## A pair of routers -/

/-- A router that has come up to the neighbour `id` on a point to point
circuit of the given cost. -/
def exampleNode (own id : Nodeid) (cost : Fin (2 ^ 32)) : RoutingNode :=
  (RoutingNode.start false { Layer.exampleConfig with id := own } 7
    fun _ => ⟨false, cost, [], [], true⟩).run [.ptp 0 .start, .ptp 0 (.dlStatus true),
      .ptp 0 (.received (some (.init ⟨id, .l1router, false, false, 576⟩)) 100)]

def exampleEnds (cost : Fin (2 ^ 32)) : LinkEnds where
  out := 0
  into := 0
  id := .make 1 2
  peer := ⟨100, .make 1 1, .l1router, .new 0 false cost⟩

def exampleSender : RoutingNode := exampleNode (.make 1 1) (.make 1 2) 4

def exampleJoined (cost : Fin (2 ^ 32)) : Joined where
  sender := exampleSender
  wire := []
  receiver := exampleNode (.make 1 2) (.make 1 1) cost

/-- The sender's timer runs out and its message arrives. -/
def exampleInputs : List Input :=
  [.sender (.updateTimeout 0 .one), .receiver (.ptp 0 .timeout), .deliver 0 0]

theorem example_begins {cost : Fin (2 ^ 32)}
    (joined : (exampleJoined cost).receiver.router.base.maxnodes = 4 ∧
      ((exampleJoined cost).receiver.router.base.heard (exampleEnds cost).peer).isSome) :
    Begins (exampleEnds cost) (exampleJoined cost) := by
  have size : exampleSender.router.base.maxnodes = 4 := by decide +kernel
  have source : .make 1 1 = exampleSender.router.base.nodeid := by
    decide +kernel
  have marked : ∀ d ≤ exampleSender.router.base.maxnodes,
      (exampleSender.updates 0).srm d = true := by
    decide +kernel
  exact ⟨⟨_, _, _, _, _, rfl⟩, marked, rfl, joined.1.trans size.symm, source, joined.2⟩

theorem neighbour_in_step_pair :
    ((exampleJoined 4).run (exampleEnds 4) exampleInputs).InStep (exampleEnds 4) 3 :=
  neighbour_in_step (exampleEnds 4) (exampleJoined 4) exampleInputs
    (example_begins (by decide +kernel)) (by decide) (by decide +kernel) 3 (by decide +kernel)

/-- At a cost of `2 ^ 32 - 1` the sum wraps: what the sender cannot reach gets
a cost below infinity. -/
theorem costly_circuit_out_of_step :
    Begins (exampleEnds 4294967295) (exampleJoined 4294967295) ∧
      Run.Guarded (step (exampleEnds 4294967295))
        (Holds (exampleEnds 4294967295)) (exampleJoined 4294967295) exampleInputs ∧
      ¬ ((exampleJoined 4294967295).run (exampleEnds 4294967295)
        exampleInputs).InStep (exampleEnds 4294967295) 3 :=
  ⟨example_begins (by decide +kernel), by decide +kernel, by
    unfold InStep
    decide +kernel⟩

end Joined

end Decnet.Routing
