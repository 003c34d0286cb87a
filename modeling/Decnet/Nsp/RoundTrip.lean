import Decnet.Common.TimerUser
import Decnet.Routing.Adjacency

/-!
# Round trip estimates and the timers of links

NSP keeps an estimate of the round trip to each node and derives from it how
long it waits for an acknowledgement.  The other intervals of a link are fixed.
A `double` is a rational number; one that the configuration gives may also be
not a number, which no check refuses.
-/

namespace Decnet.Nsp

open Routing TimerWheel

/-- The `nsp` line of the configuration, as far as it reaches a timer. -/
structure DelayConfig where
  weight : Nat
  delayFactor : Option ℚ
  minDelay : Option ℚ
  lanMinDelay : Option ℚ

/-- Both comparisons of a check fail for what is not a number. -/
def Passes (low high : ℚ) : Option ℚ → Prop
  | some value => ¬ (value < low ∨ high < value)
  | none => True

structure DelayConfig.Accepted (cfg : DelayConfig) : Prop where
  weight : 1 ≤ cfg.weight ∧ cfg.weight ≤ 255
  delayFactor : Passes 1 (1594 / 100) cfg.delayFactor
  minDelay : Passes (1 / 100) 60 cfg.minDelay
  lanMinDelay : Passes (1 / 100) 60 cfg.lanMinDelay

/-- The least a measurement counts as; `lan` says whether the node is a
neighbour on a broadcast circuit. -/
def DelayConfig.floor (cfg : DelayConfig) (lan : Bool) : Option ℚ :=
  if lan then cfg.lanMinDelay else cfg.minDelay

/-- The estimate after a measurement of `delta`; an estimate of zero is none. -/
def updateDelay (cfg : DelayConfig) (lan : Bool) (delta delay : ℚ) : ℚ :=
  let delta := match cfg.floor lan with
    | some floor => if delta < floor then floor else delta
    | none => delta
  let delay :=
    if 0 < delay then delay + (delta - delay) / (cfg.weight + 1) else delta
  if 5 < delay then 5 else delay

/-- How long an acknowledgement is waited for, in seconds. -/
def acktimeout (cfg : DelayConfig) (delay : ℚ) : Option ℚ :=
  if delay ≤ 0 then some 2 else cfg.delayFactor.map (delay * ·)

/-- The loop of the exponential backoff, with the rounds that are left. -/
def doubled : Nat → ℚ → ℚ
  | 0, t => t
  | rounds + 1, t => if t < 30 then doubled rounds (t * 2) else t

/-- The interval of a retransmission.  No comparison holds of what is not a
number. -/
def backedOff (retries : Nat) (t : Option ℚ) : Option ℚ :=
  t.map fun t =>
    if 30 < doubled (retries - 1) t then 30 else doubled (retries - 1) t

/-- The calls of `arm_timer` and the delayed acknowledgement. -/
inductive Arm where
  /-- A connect, an accept, new segments or progress. -/
  | acknowledgement (dest : Routing.Nodeid)
  | retransmission (dest : Routing.Nodeid) (retries : Nat)
  /-- Waiting for session control or a disconnect confirm. -/
  | connection | inactivity | holdoff

inductive DelayInput where
  | measured (dest : Routing.Nodeid) (lan : Bool) (delta : ℚ)
  | arm (arm : Arm)

abbrev Delays := Routing.Nodeid → ℚ

namespace Delays

def none : Delays := fun _ => 0

def step (cfg : DelayConfig) (delays : Delays) : DelayInput → Delays
  | .measured dest lan delta =>
    Function.update delays dest (updateDelay cfg lan delta (delays dest))
  | .arm _ => delays

def interval (cfg : DelayConfig) (delays : Delays) : Arm → Option ℚ
  | .acknowledgement dest => acktimeout cfg (delays dest)
  | .retransmission dest retries =>
    backedOff retries (acktimeout cfg (delays dest))
  | .connection => some 30
  | .inactivity => some 300
  | .holdoff => some (1 / 10)

def asks (cfg : DelayConfig) (delays : Delays) :
    DelayInput → List (Option Nat)
  | .measured .. => []
  | .arm arm => [milliseconds (delays.interval cfg arm)]

def machine (cfg : DelayConfig) : Component := user none (step cfg) (asks cfg)

def Capped (delays : Delays) : Prop := ∀ dest, delays dest ≤ 5

theorem updateDelay_le (cfg : DelayConfig) (lan : Bool) (delta delay : ℚ) :
    updateDelay cfg lan delta delay ≤ 5 := by
  have cut (value : ℚ) : (if 5 < value then 5 else value) ≤ 5 := by
    split
    case isTrue => exact le_rfl
    case isFalse below => exact not_lt.mp below
  exact cut _

variable {cfg : DelayConfig}

theorem Capped.step {delays : Delays} (capped : delays.Capped) (input : DelayInput) :
    (delays.step cfg input).Capped := by
  cases input with
  | measured dest lan delta =>
    intro other
    simp only [Delays.step]
    by_cases here : other = dest
    · subst here
      rw [Function.update_self]
      exact updateDelay_le ..
    · rw [Function.update_of_ne here]
      exact capped other
  | arm arm => exact capped

/-- With a factor that passes its check and is a number, the wait for an
acknowledgement is under a minute and a half. -/
theorem acktimeout_le (accepted : cfg.Accepted)
    (isNumber : cfg.delayFactor ≠ Option.none) {delay : ℚ} (capped : delay ≤ 5) :
    ∃ seconds, acktimeout cfg delay = some seconds ∧ seconds ≤ 80 := by
  unfold acktimeout
  split
  case isTrue => exact ⟨2, rfl, by norm_num⟩
  case isFalse positive =>
    obtain ⟨factor, given⟩ := Option.ne_none_iff_exists'.mp isNumber
    have passes := accepted.delayFactor
    rw [given] at passes
    obtain ⟨atLeast, atMost⟩ := not_or.mp passes
    refine ⟨delay * factor, by rw [given]; rfl, ?_⟩
    calc delay * factor ≤ 5 * (1594 / 100) := by
          apply mul_le_mul capped (not_lt.mp atMost)
          · linarith
          · norm_num
      _ ≤ 80 := by norm_num

theorem interval_le {delays : Delays}
    (accepted : cfg.Accepted) (isNumber : cfg.delayFactor ≠ Option.none)
    (capped : delays.Capped) (arm : Arm) :
    ∃ seconds, delays.interval cfg arm = some seconds ∧ seconds ≤ 3600 := by
  unfold interval
  cases arm with
  | acknowledgement dest =>
    obtain ⟨seconds, same, bound⟩ := acktimeout_le accepted isNumber (capped dest)
    exact ⟨seconds, same, by linarith⟩
  | retransmission dest retries =>
    obtain ⟨seconds, same, _⟩ := acktimeout_le accepted isNumber (capped dest)
    simp only [same, backedOff, Option.map_some]
    refine ⟨_, rfl, ?_⟩
    split
    case isTrue => norm_num
    case isFalse below => exact (not_lt.mp below).trans (by norm_num)
  | connection => exact ⟨30, rfl, by norm_num⟩
  | inactivity => exact ⟨300, rfl, by norm_num⟩
  | holdoff => exact ⟨1 / 10, rfl, by norm_num⟩

theorem copes (accepted : cfg.Accepted) (isNumber : cfg.delayFactor ≠ Option.none) :
    (machine cfg).Copes (fun _ => True) Capped := by
  apply user_copes
  · intro dest
    exact (by norm_num : (0 : ℚ) ≤ 5)
  · exact fun delays input capped _ => capped.step input
  · intro delays input capped _
    cases input with
    | measured dest lan delta => nofun
    | arm arm =>
      obtain ⟨seconds, same, bound⟩ := interval_le accepted isNumber capped arm
      simp only [asks, same]
      exact singleton_served (spans_floor bound)

end Delays

end Decnet.Nsp
