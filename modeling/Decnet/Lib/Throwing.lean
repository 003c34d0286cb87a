import Mathlib.Init

/-!
# Computations that may throw

`EStateM ε σ α` is a computation on a state `σ` that returns an `α` or throws
an `ε`, and keeps in both cases what it has done to the state.  A program that
calls code it does not control is of this kind: the caller's state is what it
was when the exception passed through.

`after` is the state that a run leaves behind, and `Keeps` an invariant that
holds however the run ends.
-/

namespace Decnet.Throwing

variable {ε σ α β : Type}

/-- The state after a run, whether it returned or threw. -/
def after : EStateM.Result ε σ α → σ
  | .ok _ state => state
  | .error _ state => state

theorem bind_apply (x : EStateM ε σ α) (f : α → EStateM ε σ β) (state : σ) :
    (x >>= f) state =
      match x state with
      | .ok value next => f value next
      | .error exception next => .error exception next :=
  rfl

variable {exception : ε} {f : α → EStateM ε σ β} {x : EStateM ε σ α}

/-- A sequence that throws does so in one of its parts. -/
theorem bind_error {state final : σ} (thrown : (x >>= f) state = .error exception final) :
    x state = .error exception final ∨ ∃ value next, x state = .ok value next ∧
        f value next = .error exception final := by
  rw [bind_apply] at thrown
  split at thrown
  · rename_i value next returned
    exact .inr ⟨value, next, returned, thrown⟩
  · rename_i cause next raised
    rw [raised]
    exact .inl (by cases thrown; rfl)

/-- When the first part returns, the second goes on from there. -/
theorem bind_ok {state next : σ} {value : α} (returned : x state = .ok value next) :
    (x >>= f) state = f value next := by
  rw [bind_apply, returned]

theorem get_bind_apply (f : σ → EStateM ε σ β) (state : σ) : (get >>= f) state = f state state :=
  rfl

theorem modify_apply (change : σ → σ) (state : σ) :
    (modify change : EStateM ε σ PUnit) state = .ok ⟨⟩ (change state) :=
  rfl

/-- However the computation ends, it keeps the property. -/
def Keeps (property : σ → Prop) (x : EStateM ε σ α) : Prop :=
  ∀ state, property state → property (after (x state))

variable {property : σ → Prop}

theorem keeps_pure (value : α) : Keeps property (pure value : EStateM ε σ α) :=
  fun _ holds => holds

theorem keeps_throw (exception : ε) : Keeps property (throw exception : EStateM ε σ α) :=
  fun _ holds => holds

theorem keeps_modify {change : σ → σ} (kept : ∀ state, property state → property (change state)) :
    Keeps property (modify change : EStateM ε σ PUnit) :=
  kept

theorem Keeps.bind (first : Keeps property x) (second : ∀ value, Keeps property (f value)) :
    Keeps property (x >>= f) := by
  intro state holds
  have middle := first state holds
  rw [bind_apply]
  cases outcome : x state with
  | ok value next =>
    rw [outcome] at middle
    exact second value next middle
  | error exception next =>
    rw [outcome] at middle
    exact middle

/-- Reading the state first changes nothing. -/
theorem Keeps.get_bind {f : σ → EStateM ε σ β}
    (kept : ∀ state, Keeps property (f state)) : Keeps property (get >>= f) :=
  fun state holds => kept state state holds

/-! ## What a run may throw -/

/-- The exception a run ended with. -/
def thrown : EStateM.Result ε σ α → Option ε
  | .ok _ _ => none
  | .error exception _ => some exception

/-- From a state with the property the computation keeps it, and what it throws
is allowed. -/
def Admits (property : σ → Prop) (allowed : ε → Prop) (x : EStateM ε σ α) : Prop :=
  ∀ state, property state →
    match x state with
    | .ok _ next => property next
    | .error exception next => allowed exception ∧ property next

variable {allowed : ε → Prop}

theorem admits_pure (value : α) : Admits property allowed (pure value : EStateM ε σ α) :=
  fun _ holds => holds

theorem admits_throw (isAllowed : allowed exception) :
    Admits property allowed (throw exception : EStateM ε σ α) :=
  fun _ holds => ⟨isAllowed, holds⟩

theorem admits_modify {change : σ → σ} (kept : ∀ state, property state → property (change state)) :
    Admits property allowed (modify change : EStateM ε σ PUnit) :=
  kept

theorem Admits.bind (first : Admits property allowed x)
    (second : ∀ value, Admits property allowed (f value)) : Admits property allowed (x >>= f) := by
  intro state holds
  have middle := first state holds
  rw [bind_apply]
  cases outcome : x state with
  | ok value next =>
    rw [outcome] at middle
    exact second value next middle
  | error exception next =>
    rw [outcome] at middle
    exact middle

/-- What is read from the state has its property. -/
theorem Admits.get_bind {f : σ → EStateM ε σ β}
    (admits : ∀ state, property state → Admits property allowed (f state)) :
    Admits property allowed (get >>= f) :=
  fun state holds => admits state holds state holds

theorem Admits.keeps
    (admits : Admits property allowed x) : Keeps property x := by
  intro state holds
  have ended := admits state holds
  cases outcome : x state with
  | ok value next =>
    rw [outcome] at ended
    exact ended
  | error exception next =>
    rw [outcome] at ended
    exact ended.2

theorem Admits.thrown_ne {state : σ} (admits : Admits property allowed x) (holds : property state)
    (forbidden : ¬ allowed exception) : thrown (x state) ≠ some exception := by
  intro raised
  have ended := admits state holds
  cases outcome : x state with
  | ok value next =>
    rw [outcome] at raised
    cases raised
  | error exception' next =>
    rw [outcome] at raised ended
    cases raised
    exact forbidden ended.1

/-! ## What a run ends with -/

/-- The run returns a value and leaves a state as `good` says, or throws and
leaves a state as `bad` says. -/
def Ends (x : EStateM ε σ α) (state : σ) (good : α → σ → Prop) (bad : σ → Prop) : Prop :=
  match x state with
  | .ok value next => good value next
  | .error _ next => bad next

variable {good : α → σ → Prop} {bad : σ → Prop} {state : σ}

@[simp] theorem ends_pure (value : α) :
    Ends (pure value : EStateM ε σ α) state good bad ↔ good value state :=
  Iff.rfl

@[simp] theorem ends_throw (exception : ε) :
    Ends (throw exception : EStateM ε σ α) state good bad ↔ bad state :=
  Iff.rfl

@[simp] theorem ends_get {good : σ → σ → Prop} :
    Ends (get : EStateM ε σ σ) state good bad ↔ good state state :=
  Iff.rfl

@[simp] theorem ends_modify (change : σ → σ) {good : PUnit → σ → Prop} :
    Ends (modify change : EStateM ε σ PUnit) state good bad ↔ good ⟨⟩ (change state) :=
  Iff.rfl

@[simp] theorem ends_bind {good : β → σ → Prop} :
    Ends (x >>= f) state good bad ↔
      Ends x state (fun value next => Ends (f value) next good bad) bad := by
  unfold Ends
  rw [bind_apply]
  cases x state <;> rfl

@[simp] theorem ends_ite {p : Prop} [Decidable p] {y : EStateM ε σ α} :
    Ends (if p then x else y) state good bad ↔
      if p then Ends x state good bad else Ends y state good bad := by
  split <;> rfl

theorem Ends.imp {good' : α → σ → Prop} {bad' : σ → Prop} (ends : Ends x state good bad)
    (returned : ∀ value next, good value next → good' value next)
    (thrown : ∀ next, bad next → bad' next) : Ends x state good' bad' := by
  unfold Ends at *
  split <;> rename_i outcome <;> rw [outcome] at ends
  · exact returned _ _ ends
  · exact thrown _ ends

theorem Ends.mono {holds holds' : σ → Prop} (ends : Ends x state (fun _ => holds) holds)
    (implied : ∀ next, holds next → holds' next) : Ends x state (fun _ => holds') holds' :=
  ends.imp (fun _ => implied) implied

theorem Ends.seq {mid : α → σ → Prop} {good : β → σ → Prop} (first : Ends x state mid bad)
    (second : ∀ value next, mid value next → Ends (f value) next good bad) :
    Ends (x >>= f) state good bad :=
  ends_bind.mpr (first.imp second fun _ thrown => thrown)

theorem ends_forM {run : α → EStateM ε σ PUnit} {list : List α} {invariant : σ → Prop}
    (kept : ∀ item ∈ list, ∀ state, invariant state →
      Ends (run item) state (fun _ => invariant) bad) (holds : invariant state) :
    Ends (list.forM run) state (fun _ => invariant) bad := by
  induction list generalizing state with
  | nil => exact holds
  | cons item list ih =>
    obtain ⟨first, rest⟩ := List.forall_mem_cons.mp kept
    exact .seq (first state holds) fun _ _ holds => ih rest holds

theorem Ends.and {good' : α → σ → Prop} {bad' : σ → Prop} (first : Ends x state good bad)
    (second : Ends x state good' bad') :
    Ends x state (fun value next => good value next ∧ good' value next)
      (fun next => bad next ∧ bad' next) := by
  unfold Ends at *
  split <;> rename_i outcome <;> rw [outcome] at first second
  · exact ⟨first, second⟩
  · exact ⟨first, second⟩

theorem after_iff_ends (x : EStateM ε σ α) (state : σ) :
    property (after (x state)) ↔ Ends x state (fun _ next => property next) property := by
  unfold Ends
  cases x state <;> rfl

theorem Ends.after {good : σ → Prop} (ends : Ends x state (fun _ => good) bad) :
    good (after (x state)) ∨ bad (after (x state)) := by
  unfold Ends at ends
  split at ends <;> rename_i outcome <;> rw [outcome]
  · exact .inl ends
  · exact .inr ends

theorem Keeps.ends (keeps : Keeps property x) (holds : property state) :
    Ends x state (fun _ next => property next) property :=
  (after_iff_ends x state).mp (keeps state holds)

/-! ## Working on a part of the state -/

variable {τ : Type}

def zoom (part : σ → τ) (replace : τ → σ → σ) (x : EStateM ε τ α) :
    EStateM ε σ α := fun state =>
  match x (part state) with
  | .ok value inner => .ok value (replace inner state)
  | .error exception inner => .error exception (replace inner state)

section

variable {part : σ → τ} {replace : τ → σ → σ} {x : EStateM ε τ α}

@[simp] theorem ends_zoom :
    Ends (zoom part replace x) state good bad ↔
      Ends x (part state) (fun value inner => good value (replace inner state))
        (fun inner => bad (replace inner state)) := by
  unfold Ends zoom
  cases x (part state) <;> rfl

theorem Admits.zoom {property : τ → Prop} {allowed : ε → Prop}
    (replaced : ∀ inner state, part (replace inner state) = inner)
    (admits : Admits property allowed x) :
    Admits (fun state => property (part state)) allowed (zoom part replace x) := by
  intro state holds
  have ended := admits (part state) holds
  unfold Throwing.zoom
  cases outcome : x (part state) with
  | ok value inner =>
    rw [outcome] at ended
    change property (part (replace inner state))
    rw [replaced]
    exact ended
  | error exception inner =>
    rw [outcome] at ended
    change allowed exception ∧ property (part (replace inner state))
    rw [replaced]
    exact ended

end

end Decnet.Throwing
