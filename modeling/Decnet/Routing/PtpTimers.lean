import Decnet.Common.TimerUser
import Decnet.Routing.LanTimers

/-!
# The timers of point to point circuits and of the update process

A point to point circuit runs one timer of its hello interval, for the startup
and for its hellos, and its adjacency a listen timer for which the neighbour's
init message gives the interval.  The update process runs one timer for its
periodic and its triggered updates.
-/

namespace Decnet.Routing

open TimerWheel

/-! ## Point to point circuits -/

structure PtpConfig where
  parent : Parent
  circuit : Circuit
  t3 : Nat
  (verify expectVerify : List UInt8)
  startWorks : Bool

/-- A circuit, and what its adjacency takes for the neighbour's hello timer. -/
structure TimedPtp where
  circuit : PtpCircuit
  base : Nat

/-- A work item; with an init message comes the hello timer it announces. -/
structure TimedWork where
  work : PtpWork
  timer : Nat

namespace TimedPtp

def new (cfg : PtpConfig) : TimedPtp where
  circuit := .new cfg.circuit cfg.verify cfg.expectVerify cfg.startWorks
  base := 0

/-- The init message that an item brings, if the circuit goes by it. -/
def accepted (cfg : PtpConfig) (c : TimedPtp) : PtpWork → Option PtpInit
  | .received (some (.init init)) _ =>
    if c.circuit.state = .routingInit ∧ PtpCircuit.acceptable cfg.parent init then some init
    else none
  | _ => none

def step (cfg : PtpConfig) (c : TimedPtp) (item : TimedWork) : TimedPtp where
  circuit := (c.circuit.dispatch cfg.parent item.work).1
  base :=
    if (c.accepted cfg item.work).isSome then
      if item.timer = 0 then cfg.t3 else item.timer
    else c.base

/-- The hello timer, in milliseconds. -/
def hello (cfg : PtpConfig) : Option Nat := some (cfg.t3 * 1000)

/-- The listen timer, if there is an adjacency. -/
def listen (c : TimedPtp) : List (Option Nat) :=
  c.circuit.adj.toList.map fun _ => some (c.base * 2100)

/-- `up ()`. -/
def upAsks (cfg : PtpConfig) (c : TimedPtp) : List (Option Nat) :=
  c.listen ++ [hello cfg]

def asks (cfg : PtpConfig) (c : TimedPtp) (item : TimedWork) : List (Option Nat) :=
  match c.circuit.state, item.work with
  | .datalinkStart, .dlStatus true => [hello cfg]
  | .routingInit, .received (some (.init init)) address =>
    if PtpCircuit.acceptable cfg.parent init then
      if c.circuit.requestVerify then [hello cfg]
      else upAsks cfg ⟨c.circuit.learn init address,
          if item.timer = 0 then cfg.t3 else item.timer⟩
    else []
  | .routingVerify, .received (some (.verify srcnode fcnval)) _ =>
    if !c.circuit.checkSrc srcnode then []
    else if fcnval != c.circuit.expectVerify then []
    else upAsks cfg c
  | .running, .timeout => [hello cfg]
  -- Anything received shows that the neighbour is alive.
  | .running, .received (some _) _ => c.listen
  | _, _ => []

def machine (cfg : PtpConfig) : Component :=
  user (new cfg) (step cfg) (asks cfg)

def Spanned (c : TimedPtp) : Prop := Spans (c.base * 2100)

variable {c : TimedPtp}

theorem listen_served (spanned : c.Spanned) : ∀ interval ∈ c.listen, ¬ Refuses interval := by
  intro interval asked
  obtain ⟨_, _, rfl⟩ := List.mem_map.mp asked
  exact not_refuses spanned

theorem upAsks_served {cfg : PtpConfig} (hello : Spans (cfg.t3 * 1000)) (spanned : c.Spanned) :
    ∀ interval ∈ upAsks cfg c, ¬ Refuses interval := by
  intro interval asked
  rcases List.mem_append.mp asked with listens | isHello
  · exact listen_served spanned interval listens
  · exact singleton_served hello interval isHello

theorem asks_served {cfg : PtpConfig} {item : TimedWork}
    (hello : Spans (cfg.t3 * 1000)) (spanned : c.Spanned) (fits : Announceable cfg.t3 item.timer) :
    ∀ interval ∈ asks cfg c item, ¬ Refuses interval := by
  have ownHello : ∀ interval ∈ [TimedPtp.hello cfg], ¬ Refuses interval := singleton_served hello
  unfold asks
  split
  · exact ownHello
  · split
    · split
      · exact ownHello
      · exact upAsks_served hello fits
    · nofun
  · split
    · nofun
    · split
      · nofun
      · exact upAsks_served hello spanned
  · exact ownHello
  · exact listen_served spanned
  · nofun

theorem copes (cfg : PtpConfig) (hello : Spans (cfg.t3 * 1000)) :
    (machine cfg).Copes (fun item => Announceable cfg.t3 item.timer) Spanned := by
  apply user_copes
  · exact (by decide : Spans (0 * 2100))
  · intro c item spanned fits
    unfold Spanned step
    split
    · exact fits
    · exact spanned
  · exact fun c item spanned fits => asks_served hello spanned fits

end TimedPtp

/-! ## The update process -/

/-- What happens to an update process.  With a timeout comes the time since
the last full update, in milliseconds. -/
inductive UpdateInput where
  | start | stop
  | setSrm (wants : Bool) (first last : Nat)
  | timeout (wants : Bool) (since blksize : Nat) (srcnode : Nodeid) (entryFor : Nat → Nat)

namespace Update

/-- The least time between two updates, in milliseconds. -/
def T2 : Nat := 1000

def handle (u : Update) : UpdateInput → Update
  | .start => u.start
  | .stop => u.stop
  | .setSrm wants first last => u.setSrm wants first last
  | .timeout wants _ blksize srcnode entryFor =>
    (u.timeout wants blksize srcnode entryFor).1

def asks (t1 : Nat) (u : Update) : UpdateInput → List (Option Nat)
  | .start => [some (t1 * 1000)]
  | .stop => []
  | .setSrm wants _ _ =>
    if wants ∧ ¬ u.holdoff ∧ u.running then [some T2] else []
  | .timeout wants since _ _ _ =>
    if ¬ u.running then []
    else if ¬ wants then [some (t1 * 1000)]
    else if u.anySrm then [some (min since (t1 * 1000))]
    else [some (t1 * 1000)]

def machine (level : Level) (maxnodes t1 : Nat) : Component :=
  user (new level maxnodes) handle (asks t1)

theorem copes (level : Level) (maxnodes : Nat) {t1 : Nat} (spans : Spans (t1 * 1000)) :
    (machine level maxnodes t1).Copes (fun _ => True) (fun _ => True) := by
  apply user_copes trivial (fun _ _ _ _ => trivial)
  intro u input _ _
  cases input with
  | start => exact singleton_served spans
  | stop => nofun
  | setSrm wants first last =>
    simp only [asks]
    split
    · exact singleton_served (by decide : Spans T2)
    · nofun
  | timeout wants since blksize srcnode entryFor =>
    simp only [asks]
    split
    · nofun
    · split
      · exact singleton_served spans
      · split
        · exact singleton_served (lt_of_le_of_lt (min_le_right _ _) spans)
        · exact singleton_served spans

end Update

end Decnet.Routing
