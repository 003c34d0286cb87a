import Decnet.Lib.Run

/-!
# Expiries in a work queue

Several owners of timers share a queue of work items.  An armed timer may
expire at any time; its expiry is queued and refers to the timer until the item
is taken off the queue.  In between its owner may take steps, and a step may
discard timers.  If no step discards a timer whose expiry is queued, every
expiry in the queue refers to a timer that exists.
-/

namespace Decnet.Expiry

/-- A part of a program that owns timers.  `present` says which timers exist and
`armed` which may expire; `discards` covers every step that may end the
existence of a timer.  Steps may depend on the time. -/
structure Owner where
  (State Input Timer : Type)
  step : Nat → State → Input → State
  present : State → Timer → Prop
  armed : State → Timer → Bool
  discards : Nat → State → Input → Timer → Prop
  present_of_armed : ∀ {state timer}, armed state timer = true → present state timer
  kept : ∀ {now state input timer}, present state timer →
    ¬ discards now state input timer → present (step now state input) timer

variable {ι : Type} [DecidableEq ι] {owner : ι → Owner}

/-- A queued expiry, with its owner. -/
abbrev Pending (owner : ι → Owner) := Σ i, (owner i).Timer

/-- `none` is a work item that is no expiry. -/
structure World (owner : ι → Owner) where
  now : Nat
  parts : ∀ i, (owner i).State
  queue : List (Option (Pending owner))

/-- Time passes, a work item is posted, a timer expires, the first item is taken
off the queue, or an owner takes a step. -/
inductive Event (owner : ι → Owner) where
  | passes (time : Nat)
  | posts
  | expires (i : ι) (timer : (owner i).Timer)
  | takes
  | acts (i : ι) (input : (owner i).Input)

namespace World

def step (w : World owner) : Event owner → World owner
  | .passes time => { w with now := w.now + time }
  | .posts => { w with queue := w.queue ++ [none] }
  | .expires i timer =>
    if (owner i).armed (w.parts i) timer then
      { w with queue := w.queue ++ [some ⟨i, timer⟩] }
    else w
  | .takes => { w with queue := w.queue.tail }
  | .acts i input =>
    { w with
      parts := Function.update w.parts i ((owner i).step w.now (w.parts i) input) }

/-- Every expiry in the queue refers to a timer that exists. -/
def Valid (w : World owner) : Prop :=
  ∀ i timer, some ⟨i, timer⟩ ∈ w.queue → (owner i).present (w.parts i) timer

/-- A step discards no timer whose expiry is queued. -/
def Heeds (w : World owner) : Event owner → Prop
  | .acts i input => ∀ timer, some ⟨i, timer⟩ ∈ w.queue →
      ¬ (owner i).discards w.now (w.parts i) input timer
  | _ => True

variable {w : World owner}

omit [DecidableEq ι] in
theorem valid_of_empty (empty : w.queue = []) : w.Valid := by
  intro i timer member
  rw [empty] at member
  cases member

theorem Valid.acts (valid : w.Valid) {i : ι}
    {input : (owner i).Input} (heeds : w.Heeds (.acts i input)) :
    (w.step (.acts i input)).Valid := by
  intro j timer member
  have present := valid j timer member
  change (owner j).present (Function.update w.parts i _ j) timer
  by_cases here : j = i
  · subst here
    rw [Function.update_self]
    exact (owner j).kept present (heeds timer member)
  · rw [Function.update_of_ne here]
    exact present

theorem Valid.step (valid : w.Valid) (event : Event owner)
    (heeds : w.Heeds event) : (w.step event).Valid := by
  cases event with
  | passes time => exact valid
  | posts =>
    intro i timer member
    rcases List.mem_append.mp member with before | added
    · exact valid i timer before
    · cases List.mem_singleton.mp added
  | expires i timer =>
    simp only [World.step]
    split
    case isTrue armed =>
      intro j other member
      rcases List.mem_append.mp member with before | added
      · exact valid j other before
      · cases List.mem_singleton.mp added
        exact (owner i).present_of_armed armed
    case isFalse => exact valid
  | takes =>
    intro i timer member
    exact valid i timer (List.mem_of_mem_tail member)
  | acts i input => exact valid.acts heeds

/-- In every run in which each step heeds the queue, the queue stays valid. -/
theorem Valid.run (valid : w.Valid) {events : List (Event owner)}
    (guarded : Run.Guarded World.step Heeds w events) : (events.foldl World.step w).Valid :=
  guarded.invariant (fun _ event valid heeds => valid.step event heeds) valid

end World

end Decnet.Expiry
