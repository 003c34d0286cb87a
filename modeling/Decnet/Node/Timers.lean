import Decnet.Datalink.Holdoffs
import Decnet.Nsp.RoundTrip
import Decnet.Routing.PtpTimers

/-!
# The timer wheel of a node

The circuits, update processes, links and datalinks of a node share one wheel.
In every run the wheel has room for what they ask, if the configured intervals
are at most an hour and no neighbour announces a hello timer that is longer
than the wheel is for its listen interval.
-/

namespace Decnet

open Routing TimerWheel Family

/-- The `circuit` line of the configuration, as far as it reaches a timer. -/
structure CircuitLine where
  circuit : Circuit
  t3 : Fin (2 ^ 32)
  priority : Fin (2 ^ 32)
  (verify expectVerify : List UInt8)
  startWorks : Bool

/-- The `routing` and `nsp` lines. -/
structure NodeConfig where
  parent : Parent
  t1 : Fin (2 ^ 32)
  bct1 : Fin (2 ^ 32)
  nsp : Nsp.DelayConfig

inductive Part where
  | routingLan (line : CircuitLine)
  | endnodeLan (line : CircuitLine)
  | ptp (line : CircuitLine)
  | update (level : Level) (broadcast : Bool)
  | nsp | datalink

namespace NodeConfig

def lan (cfg : NodeConfig) (line : CircuitLine) : LanConfig :=
  .new cfg.parent line.circuit line.t3 line.priority

def ptp (cfg : NodeConfig) (line : CircuitLine) : PtpConfig where
  parent := cfg.parent
  circuit := line.circuit
  t3 := if line.t3 = 0 then 60 else line.t3
  verify := line.verify
  expectVerify := line.expectVerify
  startWorks := line.startWorks

def updateT1 (cfg : NodeConfig) (broadcast : Bool) : Nat :=
  if broadcast then if cfg.bct1 = 0 then 10 else cfg.bct1
  else if cfg.t1 = 0 then 600 else cfg.t1

def machine (cfg : NodeConfig) : Part → Component
  | .routingLan line => RoutingLanCircuit.machine (cfg.lan line)
  | .endnodeLan line => EndnodeLanCircuit.machine (cfg.lan line)
  | .ptp line => TimedPtp.machine (cfg.ptp line)
  | .update level broadcast =>
    Update.machine level cfg.parent.maxnodes (cfg.updateT1 broadcast)
  | .nsp => Nsp.Delays.machine cfg.nsp
  | .datalink => Ptp.Holdoffs.machine

/-- The hello timer that an input brings can be listened to. -/
def Fits (cfg : NodeConfig) : (part : Part) → (cfg.machine part).Input → Prop
  | .routingLan line, input => input.1.Announces (cfg.lan line).t3
  | .endnodeLan line, input => input.1.Announces (cfg.lan line).t3
  | .ptp line, item => Announceable (cfg.ptp line).t3 item.timer
  | .update .., _ => True
  | .nsp, _ => True
  | .datalink, _ => True

/-- The intervals of the configuration are at most an hour. -/
structure Moderate (cfg : NodeConfig) : Prop where
  t1 : cfg.t1.val ≤ 3600
  bct1 : cfg.bct1.val ≤ 3600
  delayFactor : cfg.nsp.delayFactor ≠ none

end NodeConfig

def Part.Moderate : Part → Prop
  | .routingLan line => line.t3.val ≤ 3600
  | .endnodeLan line => line.t3.val ≤ 3600
  | .ptp line => line.t3.val ≤ 3600
  | _ => True

namespace NodeConfig

variable {cfg : NodeConfig}

theorem spans_lan {line : CircuitLine} (hour : line.t3.val ≤ 3600) :
    Spans ((cfg.lan line).t3 * 1000) := by
  apply spans_seconds
  unfold lan LanConfig.new
  dsimp only
  split <;> omega

theorem spans_ptp {line : CircuitLine} (hour : line.t3.val ≤ 3600) :
    Spans ((cfg.ptp line).t3 * 1000) := by
  apply spans_seconds
  unfold ptp
  dsimp only
  split <;> omega

theorem spans_updateT1 (moderate : cfg.Moderate) (broadcast : Bool) :
    Spans (cfg.updateT1 broadcast * 1000) := by
  have t1 := moderate.t1
  have bct1 := moderate.bct1
  apply spans_seconds
  unfold updateT1
  split <;> split <;> omega

def Invariant (cfg : NodeConfig) :
    (part : Part) → (cfg.machine part).State → Prop
  | .routingLan _ => RoutingLanCircuit.Spanned
  | .endnodeLan _ => EndnodeLanCircuit.Spanned
  | .ptp _ => TimedPtp.Spanned
  | .update .. => fun _ => True
  | .nsp => Nsp.Delays.Capped
  | .datalink => Ptp.Holdoffs.AllBrief

theorem copes (accepted : cfg.nsp.Accepted) (moderate : cfg.Moderate)
    {part : Part} (partModerate : part.Moderate) :
    (cfg.machine part).Copes (cfg.Fits part) (cfg.Invariant part) := by
  cases part with
  | routingLan line => exact RoutingLanCircuit.copes _ (spans_lan partModerate)
  | endnodeLan line => exact EndnodeLanCircuit.copes _ (spans_lan partModerate)
  | ptp line => exact TimedPtp.copes _ (spans_ptp partModerate)
  | update level broadcast =>
    exact Update.copes _ _ (spans_updateT1 moderate broadcast)
  | nsp => exact Nsp.Delays.copes accepted moderate.delayFactor
  | datalink => exact Ptp.Holdoffs.copes

/-- The wheel refuses nothing in any run of any node whose configured
intervals are at most an hour, while the hello timers that neighbours announce
fit. -/
theorem timers_start (cfg : NodeConfig) (parts : Nat → Part)
    (accepted : cfg.nsp.Accepted) (moderate : cfg.Moderate)
    (partsModerate : ∀ k, (parts k).Moderate)
    (work : List (Input fun k => cfg.machine (parts k)))
    (fits : ∀ item ∈ work, cfg.Fits (parts item.1) item.2) :
    Run.Guarded (step fun k => cfg.machine (parts k)) (fun state item =>
        ¬ refused (fun k => cfg.machine (parts k)) state item)
      (initial fun k => cfg.machine (parts k)) work :=
  served (fun k => copes accepted moderate (partsModerate k)) work fits

/-! ## Router 1.1 -/

/-- The configuration of a router without options. -/
def plain : NodeConfig where
  parent := ⟨Nodeid.make 1 1, .l1router, 1023, 63⟩
  t1 := 0
  bct1 := 0
  nsp := ⟨3, some 2, some 1, some 1⟩

def plainLine : CircuitLine := ⟨Circuit.new 0 true 4, 0, 0, [], [], true⟩

def plainParts (_ : Nat) : Part := .routingLan plainLine

def plainHello (timer : Nat) : Input fun k => plain.machine (plainParts k) :=
  ⟨0, .event (.routerHello ⟨Nodeid.make 1 2, false, 64, timer, [Nodeid.make 1 1]⟩ 2 1),
    fun _ => true⟩

/-- A neighbour with the usual hello timer is brought up. -/
theorem timers_start_plain :
    Run.Guarded (step fun k => plain.machine (plainParts k)) (fun state item =>
        ¬ refused (fun k => plain.machine (plainParts k)) state item)
      (initial fun k => plain.machine (plainParts k))
      [plainHello 15] := by
  apply timers_start plain plainParts (by constructor <;> norm_num [plain, Nsp.Passes])
    (by constructor <;> simp [plain])
  · exact fun _ => (by decide : (0 : Nat) ≤ 3600)
  · intro item member
    rw [List.mem_singleton.mp member]
    exact (by decide : Spans (15 * 2100))

/-- One that announces a timer of 2000 seconds is not: its listen timer cannot
be started. -/
theorem long_timer_refused :
    ¬ Run.Guarded (step fun k => plain.machine (plainParts k)) (fun state item =>
        ¬ refused (fun k => plain.machine (plainParts k)) state item)
      (initial fun k => plain.machine (plainParts k))
      [plainHello 2000] := by
  rintro ⟨served, _⟩
  apply served
  refine ⟨"timeout 4200000ms exceeds the timer wheel span", ?_⟩
  decide +kernel

end NodeConfig

end Decnet
