import Decnet.Common.Backoff
import Decnet.Common.TimerUser

/-!
# The timers of datalinks

Every interval that a datalink asks for comes from a backoff: the holdoff of a
restart, the time a connection is given, and in DDCMP the time a reply and a
startup message are waited for.
-/

namespace Decnet.Ptp

open TimerWheel

structure Jitter where
  factor : ℚ
  atLeast : 9 / 10 ≤ factor
  atMost : factor ≤ 1

def jittered (seconds : Nat) (jitter : Jitter) : ℚ :=
  if 2 < seconds then seconds * jitter.factor else seconds

theorem jittered_le (seconds : Nat) (jitter : Jitter) : jittered seconds jitter ≤ seconds := by
  unfold jittered
  split
  · exact mul_le_of_le_one_right (Nat.cast_nonneg seconds) jitter.atMost
  · exact le_rfl

structure Holdoffs where
  (restartTimer connTimer acktmr stacktmr : Backoff)

inductive HoldoffInput where
  /-- `PtpDatalink::reconnecting` holds off. -/
  | reconnecting (jitter : Jitter)
  /-- `ConnectMultinet::connect` or `ListenMultinet::connect`. -/
  | connect (jitter : Jitter)
  /-- The DDCMP engine sends something that is to be acknowledged. -/
  | awaitReply
  /-- The DDCMP engine sends a startup message. -/
  | awaitStartup | resetRestart | resetReply | resetStartup

namespace Holdoffs

def new : Holdoffs := ⟨.new 2 120, .new 5 120, .new 1 60, .new 3 120⟩

def step (h : Holdoffs) : HoldoffInput → Holdoffs
  | .reconnecting _ => { h with restartTimer := h.restartTimer.next.2 }
  | .connect _ => { h with connTimer := h.connTimer.next.2 }
  | .awaitReply => { h with acktmr := h.acktmr.next.2 }
  | .awaitStartup => { h with stacktmr := h.stacktmr.next.2 }
  | .resetRestart => { h with restartTimer := h.restartTimer.reset }
  | .resetReply => { h with acktmr := h.acktmr.reset }
  | .resetStartup => { h with stacktmr := h.stacktmr.reset }

def asks (h : Holdoffs) : HoldoffInput → List (Option Nat)
  | .reconnecting jitter =>
    [milliseconds (some (jittered h.restartTimer.next.1 jitter))]
  | .connect jitter =>
    [milliseconds (some (jittered h.connTimer.next.1 jitter))]
  | .awaitReply => [some (h.acktmr.next.1 * 1000)]
  | .awaitStartup => [some (h.stacktmr.next.1 * 1000)]
  | _ => []

def machine : Component := user new step asks

structure Brief (backoff : Backoff) : Prop where
  bounded : backoff.Bounded
  high : backoff.high ≤ 120

variable {backoff : Backoff}

section

variable (brief : Brief backoff)

include brief

theorem Brief.next : Brief backoff.next.2 :=
  ⟨brief.bounded.next, brief.high⟩

theorem Brief.reset : Brief backoff.reset :=
  ⟨brief.bounded.reset, brief.high⟩

theorem Brief.le : backoff.next.1 ≤ 120 :=
  brief.bounded.below.trans brief.high

theorem Brief.spans : Spans (backoff.next.1 * 1000) :=
  spans_seconds (brief.le.trans (by norm_num))

theorem Brief.spans_jittered (jitter : Jitter) :
    Spans ⌊jittered backoff.next.1 jitter * 1000⌋₊ := by
  apply spans_floor
  calc jittered backoff.next.1 jitter ≤ backoff.next.1 := jittered_le ..
    _ ≤ 120 := by exact_mod_cast brief.le
    _ ≤ 3600 := by norm_num

end

structure AllBrief (h : Holdoffs) : Prop where
  restartTimer : Brief h.restartTimer
  connTimer : Brief h.connTimer
  acktmr : Brief h.acktmr
  stacktmr : Brief h.stacktmr

theorem allBrief_new : AllBrief new := by
  constructor
  case restartTimer => exact ⟨Backoff.bounded_new (by decide) (by decide), le_rfl⟩
  case connTimer => exact ⟨Backoff.bounded_new (by decide) (by decide), le_rfl⟩
  case acktmr => exact ⟨Backoff.bounded_new (by decide) (by decide), by decide⟩
  case stacktmr => exact ⟨Backoff.bounded_new (by decide) (by decide), le_rfl⟩

theorem AllBrief.step {h : Holdoffs} (brief : AllBrief h)
    (input : HoldoffInput) : AllBrief (h.step input) := by
  cases input with
  | reconnecting jitter => exact { brief with restartTimer := brief.restartTimer.next }
  | connect jitter => exact { brief with connTimer := brief.connTimer.next }
  | awaitReply => exact { brief with acktmr := brief.acktmr.next }
  | awaitStartup => exact { brief with stacktmr := brief.stacktmr.next }
  | resetRestart => exact { brief with restartTimer := brief.restartTimer.reset }
  | resetReply => exact { brief with acktmr := brief.acktmr.reset }
  | resetStartup => exact { brief with stacktmr := brief.stacktmr.reset }

theorem copes : machine.Copes (fun _ => True) AllBrief := by
  apply user_copes allBrief_new
  · exact fun h input brief _ => brief.step input
  · intro h input brief _
    cases input with
    | reconnecting jitter =>
      exact singleton_served (brief.restartTimer.spans_jittered jitter)
    | connect jitter =>
      exact singleton_served (brief.connTimer.spans_jittered jitter)
    | awaitReply => exact singleton_served brief.acktmr.spans
    | awaitStartup => exact singleton_served brief.stacktmr.spans
    | resetRestart | resetReply | resetStartup => nofun

end Holdoffs

end Decnet.Ptp
