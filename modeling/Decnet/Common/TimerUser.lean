import Decnet.Common.TimerWheel
import Decnet.Lib.Family
import Mathlib.Data.Rat.Floor

/-!
# What uses the timer wheel

A part of the node as a machine that asks the wheel for intervals.  What
happens after the wheel has refused one is not followed.
-/

namespace Decnet.TimerWheel

/-- The interval of a `double` of seconds, in milliseconds.  `none` is not a
number. -/
def milliseconds (seconds : Option ℚ) : Option Nat :=
  seconds.map fun seconds => ⌊seconds * 1000⌋₊

/-- The wheel refuses the interval.  What is not a number converts to the least
`long long`, and its ticks to a count that no wheel has. -/
def Refuses : Option Nat → Prop
  | some ms => ∃ e, start ms = .error e
  | none => True

theorem not_refuses {ms : Nat} (spans : Spans ms) : ¬ Refuses (some ms) := by
  rintro ⟨e, refused⟩
  rw [start_of_spans spans] at refused
  cases refused

theorem singleton_served {ms : Nat} (spans : Spans ms) :
    ∀ interval ∈ [some ms], ¬ Refuses interval := by
  intro interval asked
  rw [List.mem_singleton.mp asked]
  exact not_refuses spans

theorem spans_seconds {seconds : Nat} (hour : seconds ≤ 3600) : Spans (seconds * 1000) := by
  unfold Spans
  omega

theorem spans_floor {seconds : ℚ} (hour : seconds ≤ 3600) : Spans ⌊seconds * 1000⌋₊ := by
  have least : (⌊seconds * 1000⌋₊ : ℚ) ≤ 3600000 := by
    by_cases negative : seconds * 1000 < 0
    · rw [Nat.floor_of_nonpos negative.le]
      norm_num
    · calc (⌊seconds * 1000⌋₊ : ℚ) ≤ seconds * 1000 :=
            Nat.floor_le (not_lt.mp negative)
        _ ≤ 3600000 := by linarith
  have bound : ⌊seconds * 1000⌋₊ ≤ 3600000 := by exact_mod_cast least
  unfold Spans
  omega

variable {σ ι : Type}

def user (initial : σ) (step : σ → ι → σ) (asks : σ → ι → List (Option Nat)) : Component where
  State := σ
  Input := ι
  initial := initial
  step := step
  refused state input := ∃ interval ∈ asks state input, Refuses interval

theorem user_copes {initial : σ} {step : σ → ι → σ}
    {asks : σ → ι → List (Option Nat)} {ok : ι → Prop} {invariant : σ → Prop}
    (holds : invariant initial) (kept : ∀ state input, invariant state → ok input →
      invariant (step state input)) (served : ∀ state input, invariant state → ok input →
      ∀ interval ∈ asks state input, ¬ Refuses interval) :
    (user initial step asks).Copes ok invariant := by
  constructor
  case initial => exact holds
  case kept => exact kept
  case served =>
    rintro state input holds good ⟨interval, asked, refused⟩
    exact served state input holds good interval asked refused

end Decnet.TimerWheel
