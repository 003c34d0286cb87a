import Decnet.Routing.Dropping
import Decnet.Session.Retiring

/-!
# Expiries and the objects they refer to

A `Timeout` in the work queue holds a plain pointer to its timer, so the object
that the timer belongs to must live until the item has been dispatched.
Circuits, datalinks and the other parts of a node live as long as the node does.
Links, and the conversations that terminal gates belong to, are kept for a while
after they were closed.  An adjacency is freed when its circuit drops it.
-/

namespace Decnet

open Routing Expiry Nodeid

/-- The owner of what is kept on a shelf.  Any timer of it may be armed, also
after it was taken out of use. -/
noncomputable def shelfOwner (κ ν ρ : Type) [DecidableEq κ] (grace : Nat) : Owner where
  State := Shelf κ ν
  Input := Shelf.Op κ ν
  Timer := ν × ρ
  step now s op := s.step grace now op
  present s timer := s.Holds timer.1
  armed s timer := @decide (s.Holds timer.1) (Classical.dec _)
  discards now s op timer := s.Frees grace now timer.1 op
  present_of_armed {_ _} armed := @of_decide_eq_true _ (Classical.dec _) armed
  kept {_ _ _ _} present keeps := present.step keeps

/-- A link has its own timer and one for delayed acknowledgements. -/
inductive LinkTimer where
  | own | ack

/-- The parts that live as long as the node: datalinks, the update processes,
MOP, the event sinks, the idle timer and the name learner. -/
def permanentOwner : Owner where
  State := Unit
  Input := Unit
  Timer := Nat
  step _ _ _ := ()
  present _ _ := True
  armed _ _ := true
  discards _ _ _ _ := False
  present_of_armed {_ _} _ := trivial
  kept {_ _ _ _} _ _ := trivial

structure OwnersConfig where
  ptp : Nat → PtpConfig
  lan : Nat → LanConfig
  nsp : Nsp.NspConfig

/-- The owners of timers in a node; those it does not have never act. -/
inductive TimerPart where
  | permanent
  | ptp (index : Nat)
  | lan (index : Nat)
  | endnode (index : Nat)
  | links | conversations
  deriving DecidableEq

noncomputable def owner (cfg : OwnersConfig) : TimerPart → Owner
  | .permanent => permanentOwner
  | .ptp index => ptpOwner (cfg.ptp index)
  | .lan index => lanOwner (cfg.lan index)
  | .endnode index => endnodeOwner (cfg.lan index)
  | .links => shelfOwner Nat Nsp.Ptr LinkTimer cfg.nsp.closedGrace
  | .conversations => shelfOwner Nsp.Ptr Nsp.Ptr Unit Session.finishedGrace

/-- A node that has been constructed. -/
noncomputable def newNode (cfg : OwnersConfig) : World (owner cfg) where
  now := 0
  parts
    | .permanent => ()
    | .ptp index => LivePtp.new (cfg.ptp index)
    | .lan _ => RoutingLanCircuit.new
    | .endnode _ => EndnodeLanCircuit.new
    | .links => (Shelf.empty : Shelf Nat Nsp.Ptr)
    | .conversations => (Shelf.empty : Shelf Nsp.Ptr Nsp.Ptr)
  queue := []

noncomputable def runNode (cfg : OwnersConfig)
    (events : List (Event (owner cfg))) : World (owner cfg) :=
  events.foldl World.step (newNode cfg)

/-- In every run in which no part frees an object while an expiry of one of its
timers is in the queue, every expiry in the queue refers to a timer that
exists. -/
theorem expiries_refer_to_timers (cfg : OwnersConfig) (events : List (Event (owner cfg)))
    (guarded : Run.Guarded World.step World.Heeds (newNode cfg)
      events) : (runNode cfg events).Valid :=
  (World.valid_of_empty rfl).run guarded

/-- Circuits of router 1.1 and of endnode 1.9. -/
def smallNode : OwnersConfig where
  ptp _ := { LivePtp.verifiedConfig with expectVerify := [] }
  lan _ := .new ⟨make 1 9, .endnode, 1023, 63⟩ (.new 0 true 4) 10 0
  nsp := ⟨4095, 20, 5, 4, 60⟩

/-- A point to point circuit is started and comes up with router 1.2. -/
def ptpComesUp : List (Event (owner smallNode)) :=
  let works : List TimedWork := [⟨.start, 0⟩, ⟨.dlStatus true, 0⟩,
    ⟨.received (some (.init ⟨make 1 2, .l1router, false, false, 576⟩)) 1, 60⟩]
  works.map fun item => .acts (.ptp 0) item

def routerHeard (id : Routing.Nodeid) (address : Nat) : Event (owner smallNode) :=
  .acts (.endnode 0) ((.routerHello ⟨id, false, 64, 15, []⟩ id.value address, fun _ => true) :
      LanEvent × Outside)

/-- A timer expires while a work item is waiting, which is then taken off the
queue. -/
def expiresBehind (i : TimerPart) (timer : (owner smallNode i).Timer) :
    List (Event (owner smallNode)) :=
  [.posts, .expires i timer, .takes]

/-- The listen timer of an adjacency expires while a hello of the neighbour is
waiting. -/
theorem expiries_refer_to_timers_hello :
    (runNode smallNode (ptpComesUp ++ expiresBehind (.ptp 0) (.adjacency (make 1 2) 1) ++
        [.acts (.ptp 0) (⟨.received (some (.hello (make 1 2) true)) 2,
          0⟩ : TimedWork)])).Valid := by
  apply expiries_refer_to_timers
  refine ⟨nofun, nofun, nofun, trivial, trivial, trivial, ?_, trivial⟩
  rintro timer _ ⟨_, notRunning | leaves⟩
  · exact notRunning rfl
  · rcases leaves with notIt | invalid
    · exact absurd notIt (by decide +kernel)
    · cases invalid

/-- The listen timer of an adjacency expires while a work item is waiting that
makes the circuit drop the adjacency: a loss of the datalink, and the hello of
another router. -/
theorem expiry_outlives_adjacency :
    ¬ (runNode smallNode (ptpComesUp ++ expiresBehind (.ptp 0) (.adjacency (make 1 2) 1) ++
        [.acts (.ptp 0) (⟨.dlStatus false, 0⟩ : TimedWork)])).Valid ∧
      ¬ (runNode smallNode ([routerHeard (make 1 2) 1] ++
        expiresBehind (.endnode 0) (.adjacency (make 1 2) 1) ++
        [routerHeard (make 1 3) 2])).Valid := by
  constructor
  · intro valid
    obtain ⟨n, has, _⟩ := valid (.ptp 0) (.adjacency (make 1 2) 1) (.head [])
    cases has
  · intro valid
    obtain ⟨b, n, isKnown, _⟩ := valid (.endnode 0) (.adjacency (make 1 2) 1) (.head [])
    cases isKnown

end Decnet
