import Decnet.Common.TimerWheel
import Mathlib.Data.List.Induction
import Mathlib.Data.List.Nodup
import Mathlib.Order.Nat

/-!
# Expiry and delivery of timers

The wheel's thread decides which timers have expired and the node's thread
delivers the expiries, so a timer can be stopped or started again between the
two.  `Wheel` has the slots, the revision counts, what the wheel's thread is at
and the work queue.  Beside them it keeps a history that the source does not
have: which start of each timer is the latest, how many ticks there have been,
and the calls of timeout functions.

The steps are as small as the source's critical sections.  Within one tick the
wheel's thread takes one timer off the slot at a time and adds the work item
after it has let go of the lock; anything may happen in between.
-/

namespace Decnet.TimerWheel

open Function List

variable {α : Type} [DecidableEq α]

/-- A start of some timer: its number among all starts, and the tick it is due
on, counted from the wheel's first. -/
structure Start where
  (serial due : Nat)
  deriving DecidableEq, Repr

/-- The order in which starts are to be delivered: by tick and, on one tick, as
they were made. -/
def Start.Before (first second : Start) : Prop :=
  first.due < second.due ∨ first.due = second.due ∧ first.serial < second.serial

/-- A timer linked into a slot, and the start that linked it. -/
structure Entry (α : Type) where
  timer : α
  start : Start

/-- A work item, with the start that has run out and the tick on which it was
taken off the wheel. -/
structure Timeout (α : Type) where
  timer : α
  revcount : BitVec 32
  start : Start
  clock : Nat

/-- A call of a timeout function: the item that led to it, and the timer's
latest start at that time unless it had been stopped. -/
structure Call (α : Type) where
  item : Timeout α
  latest : Option Start

structure Wheel (α : Type) where
  pos : Nat
  slots : Nat → List (Entry α)
  revcount : α → BitVec 32
  ticking : Bool
  taken : Option (Timeout α)
  work : List (Timeout α)
  -- the history
  (clock started : Nat)
  latest : α → Option Start
  unlinks : α → Nat
  calls : List (Call α)

namespace Wheel

def empty : Wheel α where
  pos := 0
  slots _ := []
  revcount _ := 0
  ticking := false
  taken := none
  work := []
  clock := 0
  started := 0
  latest _ := none
  unlinks _ := 0
  calls := []

/-- Linking a timer counts at the head of the slot, so a timer's own revision
count is that of its unlinks. -/
def unlink (w : Wheel α) (t : α) : Wheel α :=
  { w with
    slots := fun slot => (w.slots slot).filter (·.timer ≠ t)
    revcount := Function.update w.revcount t (w.revcount t + 1)
    unlinks := Function.update w.unlinks t (w.unlinks t + 1) }

def addBefore (w : Wheel α) (slot : Nat) (entry : Entry α) : Wheel α :=
  { w with
    slots := Function.update w.slots slot (w.slots slot ++ [entry])
    started := w.started + 1
    latest := Function.update w.latest entry.timer (some entry.start) }

def ticksFor (tick ms : Nat) : Nat := if ms / tick = 0 then 1 else ms / tick

def start (tick size : Nat) (w : Wheel α) (t : α) (ms : Nat) : Except OverflowError (Wheel α) :=
  if size ≤ ticksFor tick ms then
    throw ⟨s!"timeout {ms}ms exceeds the timer wheel span"⟩
  else
    pure ((w.unlink t).addBefore ((w.pos + ticksFor tick ms) % size)
      ⟨t, w.started, w.clock + ticksFor tick ms⟩)

def stop (w : Wheel α) (t : α) : Wheel α :=
  { w.unlink t with latest := Function.update w.latest t none }

/-- The first critical section of a tick. -/
def advance (size : Nat) (w : Wheel α) : Wheel α :=
  if w.ticking then w else
    { w with
      pos := (w.pos + 1) % size
      clock := w.clock + 1
      ticking := true }

/-- One turn of the tick's loop, up to where the lock is let go. -/
def expire (w : Wheel α) : Wheel α :=
  if w.ticking ∧ w.taken.isNone then
    match w.slots w.pos with
    | [] => { w with ticking := false }
    | entry :: _ =>
      { w.unlink entry.timer with
        taken := some ⟨entry.timer, (w.unlink entry.timer).revcount entry.timer,
            entry.start, w.clock⟩ }
  else w

def addWork (w : Wheel α) : Wheel α :=
  { w with work := w.work ++ w.taken.toList, taken := none }

def dispatch (w : Wheel α) : Wheel α :=
  match w.work with
  | [] => w
  | item :: work =>
    if w.revcount item.timer ≠ item.revcount then { w with work := work }
    else
      { w with
        work := work
        calls := w.calls ++ [⟨item, w.latest item.timer⟩] }

inductive Op (α : Type) where
  | start (t : α) (ms : Nat)
  | stop (t : α)
  | advance | expire | addWork | dispatch

/-- A start that the wheel refuses changes nothing. -/
def step (tick size : Nat) (w : Wheel α) : Op α → Wheel α
  | .start t ms =>
    match w.start tick size t ms with
    | .ok next => next
    | .error _ => w
  | .stop t => w.stop t
  | .advance => w.advance size
  | .expire => w.expire
  | .addWork => w.addWork
  | .dispatch => w.dispatch

def run (tick size : Nat) (ops : List (Op α)) : Wheel α :=
  ops.foldl (step tick size) empty

/-- Taken off the wheel and not dispatched yet. -/
def outstanding (w : Wheel α) : List (Timeout α) :=
  w.work ++ w.taken.toList

/-- The starts whose timers have been taken off the wheel by a tick, but for
those whose item has been dropped. -/
def delivered (w : Wheel α) : List Start :=
  w.calls.map (·.item.start) ++ w.outstanding.map (·.start)

/-- The items of a timer are all from before its latest unlink, and it is in no
slot. -/
structure Loose (w : Wheel α) (t : α) : Prop where
  slots : ∀ slot, ∀ entry ∈ w.slots slot, entry.timer ≠ t
  items : ∀ item ∈ w.outstanding, item.timer = t →
    ∃ count < w.unlinks t, item.revcount = BitVec.ofNat 32 count

structure Orderly (size : Nat) (w : Wheel α) : Prop where
  place : w.pos = w.clock % size
  latest : ∀ slot, ∀ entry ∈ w.slots slot, w.latest entry.timer = some entry.start
  slot : ∀ slot, ∀ entry ∈ w.slots slot, entry.start.due % size = slot
  ahead : ∀ slot, ∀ entry ∈ w.slots slot,
    w.clock ≤ entry.start.due ∧ entry.start.due < w.clock + size ∧
      (entry.start.due = w.clock → w.ticking = true)
  inOrder : ∀ slot, (w.slots slot).Pairwise
    fun first second => first.start.serial < second.start.serial
  numbered : ∀ t start, w.latest t = some start → start.serial < w.started
  revcount : ∀ t, w.revcount t = BitVec.ofNat 32 (w.unlinks t)
  taken : ∀ item, w.taken = some item → w.ticking = true ∧ item.clock = w.clock
  items : ∀ item ∈ w.outstanding, ∃ count ≤ w.unlinks item.timer,
    item.revcount = BitVec.ofNat 32 count ∧
      (count = w.unlinks item.timer → w.latest item.timer = some item.start)
  onTime : ∀ item ∈ w.outstanding, item.clock = item.start.due
  calls : ∀ call ∈ w.calls, call.latest = some call.item.start ∧
      call.item.clock = call.item.start.due
  delivered : w.delivered.Pairwise Start.Before
  past : ∀ start ∈ w.delivered, start.serial < w.started ∧ start.due ≤ w.clock ∧
      (start.due = w.clock → ∀ entry ∈ w.slots w.pos, start.serial < entry.start.serial)

/-- The start that is the timer's latest is still on the wheel, on its way to
be dispatched, or has been dispatched. -/
def Accounted (w : Wheel α) (t : α) : Prop :=
  ∀ start, w.latest t = some start → (∃ slot, ⟨t, start⟩ ∈ w.slots slot) ∨
      (∃ item ∈ w.outstanding, item.timer = t ∧ item.start = start ∧ item.revcount = w.revcount t) ∨
      ∃ call ∈ w.calls, call.item.timer = t ∧ call.item.start = start

variable {entry : Entry α} {t u : α} {ms tick : Nat} {next : Wheel α}

theorem mem_unlink {w : Wheel α} {slot : Nat} :
    entry ∈ (w.unlink t).slots slot ↔ entry ∈ w.slots slot ∧ entry.timer ≠ t := by
  simp [unlink]

theorem unlinks_unlink_self (w : Wheel α) (t : α) : (w.unlink t).unlinks t = w.unlinks t + 1 :=
  update_self ..

theorem unlinks_unlink_of_ne (w : Wheel α) (other : u ≠ t) : (w.unlink t).unlinks u = w.unlinks u :=
  update_of_ne other ..

theorem revcount_unlink_of_ne (w : Wheel α) (other : u ≠ t) :
    (w.unlink t).revcount u = w.revcount u :=
  update_of_ne other ..

theorem unlinks_le_unlink (w : Wheel α) (t u : α) : w.unlinks u ≤ (w.unlink t).unlinks u := by
  by_cases same : u = t
  · subst same
    rw [unlinks_unlink_self]
    exact Nat.le_succ _
  · exact (unlinks_unlink_of_ne w same).symm.le

theorem slots_addBefore (w : Wheel α) (place slot : Nat) (entry : Entry α) :
    (w.addBefore place entry).slots slot =
      if slot = place then w.slots slot ++ [entry] else w.slots slot := by
  simp only [addBefore, update_apply]
  split
  case isTrue same => rw [same]
  case isFalse => rfl

theorem mem_addBefore {w : Wheel α} {place slot : Nat} {new : Entry α} :
    entry ∈ (w.addBefore place new).slots slot ↔
      entry ∈ w.slots slot ∨ slot = place ∧ entry = new := by
  rw [slots_addBefore]
  split <;> simp [*]

variable {size : Nat} {w : Wheel α}

theorem Orderly.unlink (orderly : Orderly size w) (t : α) : Orderly size (w.unlink t) where
  __ := orderly
  latest slot entry member := orderly.latest slot entry (mem_unlink.mp member).1
  slot slot entry member := orderly.slot slot entry (mem_unlink.mp member).1
  ahead slot entry member := orderly.ahead slot entry (mem_unlink.mp member).1
  inOrder slot := (orderly.inOrder slot).filter _
  revcount u := by
    by_cases same : u = t
    · subst same
      rw [unlinks_unlink_self, BitVec.ofNat_add, ← orderly.revcount]
      exact update_self ..
    · rw [unlinks_unlink_of_ne w same, revcount_unlink_of_ne w same]
      exact orderly.revcount u
  items item member := by
    obtain ⟨count, bound, eq, current⟩ := orderly.items item member
    have grown := w.unlinks_le_unlink t item.timer
    exact ⟨count, by omega, eq, fun same => current (by omega)⟩
  past start member := by
    obtain ⟨numbered, due, earlier⟩ := orderly.past start member
    refine ⟨numbered, due, fun now entry here => ?_⟩
    exact earlier now entry (mem_unlink.mp here).1

theorem Orderly.loose_unlink (orderly : Orderly size w) (t : α) : Loose (w.unlink t) t where
  slots _ _ member := (mem_unlink.mp member).2
  items item member same := by
    obtain ⟨count, bound, eq, -⟩ := orderly.items item member
    subst same
    refine ⟨count, ?_, eq⟩
    rw [unlinks_unlink_self]
    exact Nat.lt_succ_of_le bound

theorem accounted_unlink (accounted : Accounted w u)
    (other : u ≠ t) : Accounted (w.unlink t) u := by
  intro start latest
  rcases accounted start latest with ⟨slot, member⟩ | queued | called
  · exact .inl ⟨slot, mem_unlink.mpr ⟨member, other⟩⟩
  · obtain ⟨item, member, timer, eq, current⟩ := queued
    refine .inr (.inl ⟨item, member, timer, eq, ?_⟩)
    rw [revcount_unlink_of_ne w other]
    exact current
  · exact .inr (.inr called)

theorem Orderly.relate (orderly : Orderly size w) (loose : Loose w t)
    {latest : Option Start} {started : Nat} (grown : w.started ≤ started)
    (numbered : ∀ start, latest = some start → start.serial < started) :
    Orderly size { w with latest := update w.latest t latest, started } where
  __ := orderly
  latest slot entry member := by
    refine (update_of_ne ?_ ..).trans (orderly.latest slot entry member)
    exact loose.slots slot entry member
  numbered u start eq := by
    by_cases same : u = t
    · subst same
      refine numbered start (Eq.trans ?_ eq)
      exact (update_self u latest w.latest).symm
    · have kept : w.latest u = some start := (update_of_ne same ..).symm.trans eq
      exact (orderly.numbered u start kept).trans_le grown
  items item member := by
    by_cases same : item.timer = t
    · obtain ⟨count, bound, eq⟩ := loose.items item member same
      rw [← same] at bound
      exact ⟨count, bound.le, eq, fun current => absurd current bound.ne⟩
    · obtain ⟨count, bound, eq, current⟩ := orderly.items item member
      exact ⟨count, bound, eq, fun current' => (update_of_ne same ..).trans (current current')⟩
  past start member := by
    obtain ⟨serial, rest⟩ := orderly.past start member
    exact ⟨serial.trans_le grown, rest⟩

theorem Orderly.stop (orderly : Orderly size w) (t : α) : Orderly size (w.stop t) :=
  (orderly.unlink t).relate (orderly.loose_unlink t) le_rfl (fun _ eq => nomatch eq)

theorem Orderly.addBefore {ticks : Nat} (orderly : Orderly size w)
    (loose : Loose w t) (positive : 0 < ticks) (span : ticks < size) :
    Orderly size (w.addBefore ((w.pos + ticks) % size) ⟨t, w.started, w.clock + ticks⟩) := by
  have related := orderly.relate loose (Nat.le_succ w.started)
    (fun start (eq : some (Start.mk w.started (w.clock + ticks)) = _) => by
      cases eq
      exact Nat.lt_succ_self _)
  exact
    { related with
      latest := by
        intro slot entry member
        rcases mem_addBefore.mp member with old | ⟨-, new⟩
        · exact related.latest slot entry old
        · subst new
          exact update_self ..
      slot := by
        intro slot entry member
        rcases mem_addBefore.mp member with old | ⟨here, new⟩
        · exact orderly.slot slot entry old
        · subst new here
          rw [orderly.place, Nat.mod_add_mod]
      ahead := by
        intro slot entry member
        rcases mem_addBefore.mp member with old | ⟨-, new⟩
        · exact orderly.ahead slot entry old
        · subst new
          refine ⟨Nat.le_add_right .., Nat.add_lt_add_left span _, ?_⟩
          intro now
          have : w.clock + ticks = w.clock := now
          omega
      inOrder := by
        intro slot
        rw [slots_addBefore]
        split
        · refine pairwise_append.mpr ⟨orderly.inOrder slot, pairwise_singleton .., ?_⟩
          intro old member new singleton
          cases mem_singleton.mp singleton
          exact orderly.numbered old.timer old.start (orderly.latest slot old member)
        · exact orderly.inOrder slot
      past := by
        intro start member
        obtain ⟨serial, due, earlier⟩ := orderly.past start member
        refine ⟨serial.trans (Nat.lt_succ_self _), due, ?_⟩
        intro now entry here
        rcases mem_addBefore.mp here with old | ⟨-, new⟩
        · exact earlier now entry old
        · subst new
          exact serial }

theorem ticksFor_eq_max (tick ms : Nat) : ticksFor tick ms = max 1 (ms / tick) := by
  unfold ticksFor
  generalize ms / tick = quotient
  split <;> omega

theorem start_eq_ok (started : w.start tick size t ms = .ok next) :
    ticksFor tick ms < size ∧ next = (w.unlink t).addBefore ((w.pos + ticksFor tick ms) % size)
        ⟨t, w.started, w.clock + ticksFor tick ms⟩ := by
  unfold start at started
  split at started
  case isTrue => cases started
  case isFalse span =>
    cases started
    exact ⟨Nat.not_le.mp span, rfl⟩

theorem Orderly.start (orderly : Orderly size w)
    (started : w.start tick size t ms = .ok next) : Orderly size next := by
  obtain ⟨span, rfl⟩ := start_eq_ok started
  have positive : 0 < ticksFor tick ms := by
    rw [ticksFor_eq_max]
    exact Nat.lt_of_lt_of_le Nat.one_pos (Nat.le_max_left ..)
  exact (orderly.unlink t).addBefore (orderly.loose_unlink t) positive span

omit [DecidableEq α] in
theorem Orderly.advance (orderly : Orderly size w) : Orderly size (w.advance size) := by
  unfold Wheel.advance
  split
  case isTrue => exact orderly
  case isFalse waiting =>
    have later : ∀ slot, ∀ entry ∈ w.slots slot, w.clock + 1 ≤ entry.start.due := by
      intro slot entry member
      obtain ⟨due, -, now⟩ := orderly.ahead slot entry member
      exact Nat.lt_of_le_of_ne due fun eq => waiting (now eq.symm)
    exact
      { orderly with
        place := by
          rw [orderly.place, Nat.mod_add_mod]
        ahead := by
          intro slot entry member
          obtain ⟨-, bound, -⟩ := orderly.ahead slot entry member
          refine ⟨later slot entry member, ?_, fun _ => rfl⟩
          change entry.start.due < w.clock + 1 + size
          omega
        taken := by
          intro item eq
          exact absurd (orderly.taken item eq).1 waiting
        past := by
          intro start member
          obtain ⟨serial, due, -⟩ := orderly.past start member
          refine ⟨serial, Nat.le_succ_of_le due, fun now => ?_⟩
          change start.due = w.clock + 1 at now
          omega }

omit [DecidableEq α] in
/-- The slot under the hand has the timers due on this tick, and no others. -/
theorem Orderly.due_eq (orderly : Orderly size w)
    (member : entry ∈ w.slots w.pos) : entry.start.due = w.clock := by
  have place := orderly.slot w.pos entry member
  obtain ⟨low, high, -⟩ := orderly.ahead w.pos entry member
  rw [orderly.place] at place
  have same : (entry.start.due - w.clock) % size = 0 := Nat.sub_mod_eq_zero_of_mod_eq place
  rw [Nat.mod_eq_of_lt (by omega)] at same
  omega

omit [DecidableEq α] in
theorem Orderly.idle (orderly : Orderly size w) (free : w.taken = none)
    (drained : w.slots w.pos = []) : Orderly size { w with ticking := false } :=
  { orderly with
    ahead := by
      intro slot entry member
      obtain ⟨low, high, -⟩ := orderly.ahead slot entry member
      refine ⟨low, high, fun now => ?_⟩
      have here : slot = w.pos := by
        rw [← orderly.slot slot entry member, orderly.place]
        exact congrArg (· % size) now
      rw [here, drained] at member
      exact absurd member not_mem_nil
    taken := by
      intro item eq
      exact absurd (free.symm.trans eq) (Option.some_ne_none _).symm }

omit [DecidableEq α] in
theorem outstanding_taken (free : w.taken = none) (item : Timeout α) :
    { w with taken := some item }.outstanding = w.outstanding ++ [item] := by
  simp [outstanding, free]

omit [DecidableEq α] in
theorem delivered_taken (free : w.taken = none) (item : Timeout α) :
    { w with taken := some item }.delivered = w.delivered ++ [item.start] := by
  unfold delivered
  rw [outstanding_taken free, map_append, append_assoc]
  rfl

theorem Orderly.take (orderly : Orderly size w) (ticking : w.ticking = true)
    (free : w.taken = none) {entries : List (Entry α)} (slot : w.slots w.pos = entry :: entries) :
    Orderly size
      { w.unlink entry.timer with
        taken := some ⟨entry.timer, (w.unlink entry.timer).revcount entry.timer,
            entry.start, w.clock⟩ } := by
  have member : entry ∈ w.slots w.pos := slot ▸ mem_cons_self
  have now : entry.start.due = w.clock := orderly.due_eq member
  have unlinked := orderly.unlink entry.timer
  have first := orderly.inOrder w.pos
  rw [slot, pairwise_cons] at first
  have known := orderly.latest w.pos entry member
  -- what is delivered before this entry was due earlier or stood before it
  have before : ∀ start ∈ w.delivered, start.Before entry.start := by
    intro start delivered
    obtain ⟨-, due, earlier⟩ := orderly.past start delivered
    rcases Nat.lt_or_eq_of_le due with less | same
    · exact .inl (less.trans_eq now.symm)
    · exact .inr ⟨same.trans now.symm, earlier same entry member⟩
  exact
    { unlinked with
      taken := by
        intro item eq
        cases eq
        exact ⟨ticking, rfl⟩
      items := by
        intro item outstanding
        rw [outstanding_taken (w := w.unlink _) free] at outstanding
        rcases mem_append.mp outstanding with old | new
        · exact unlinked.items item old
        · cases mem_singleton.mp new
          exact ⟨_, le_rfl, unlinked.revcount entry.timer, fun _ => known⟩
      onTime := by
        intro item outstanding
        rw [outstanding_taken (w := w.unlink _) free] at outstanding
        rcases mem_append.mp outstanding with old | new
        · exact unlinked.onTime item old
        · cases mem_singleton.mp new
          exact now.symm
      delivered := by
        rw [delivered_taken (w := w.unlink _) free]
        refine pairwise_append.mpr ⟨orderly.delivered, pairwise_singleton .., ?_⟩
        intro start delivered new singleton
        cases mem_singleton.mp singleton
        exact before start delivered
      past := by
        intro start delivered
        rw [delivered_taken (w := w.unlink _) free] at delivered
        rcases mem_append.mp delivered with old | new
        · exact unlinked.past start old
        · cases mem_singleton.mp new
          refine ⟨orderly.numbered _ _ known, now.le, fun _ other here => ?_⟩
          obtain ⟨there, different⟩ := mem_unlink.mp here
          have listed : other ∈ entry :: entries := slot ▸ there
          rcases mem_cons.mp listed with same | later
          · exact absurd (congrArg Entry.timer same) different
          · exact first.1 other later }

theorem Orderly.expire (orderly : Orderly size w) : Orderly size w.expire := by
  unfold Wheel.expire
  split
  case isFalse => exact orderly
  case isTrue busy =>
    have free := Option.isNone_iff_eq_none.mp busy.2
    split
    case h_1 drained => exact orderly.idle free drained
    case h_2 entry entries slot => exact orderly.take busy.1 free slot

omit [DecidableEq α] in
theorem outstanding_addWork (w : Wheel α) : w.addWork.outstanding = w.outstanding := by
  simp [outstanding, addWork]

omit [DecidableEq α] in
theorem Orderly.addWork (orderly : Orderly size w) : Orderly size w.addWork := by
  have same := w.outstanding_addWork
  have delivered : w.addWork.delivered = w.delivered := by
    unfold Wheel.delivered
    rw [same]
    rfl
  exact
    { orderly with
      taken := fun _ eq => nomatch eq
      items := fun item member => orderly.items item (same ▸ member)
      onTime := fun item member => orderly.onTime item (same ▸ member)
      delivered := delivered ▸ orderly.delivered
      past := fun start member => orderly.past start (delivered ▸ member) }

omit [DecidableEq α] in
/-- As long as no count has gone round, an item has its timer's revision count
only if the timer has not been unlinked since. -/
theorem Orderly.current (orderly : Orderly size w) {item : Timeout α}
    (member : item ∈ w.outstanding) (bounded : w.unlinks item.timer < 2 ^ 32)
    (same : w.revcount item.timer = item.revcount) : w.latest item.timer = some item.start := by
  obtain ⟨count, bound, eq, current⟩ := orderly.items item member
  apply current
  rw [orderly.revcount, eq] at same
  have values := congrArg BitVec.toNat same
  rw [BitVec.toNat_ofNat, BitVec.toNat_ofNat, Nat.mod_eq_of_lt bounded,
    Nat.mod_eq_of_lt (bound.trans_lt bounded)] at values
  exact values.symm

omit [DecidableEq α] in
theorem dispatch_nil (queue : w.work = []) : w.dispatch = w := by
  simp [dispatch, queue]

omit [DecidableEq α] in
theorem dispatch_cons {item : Timeout α} {work : List (Timeout α)} (queue : w.work = item :: work) :
    w.dispatch =
      { w with
        work := work
        calls := w.calls ++
          if w.revcount item.timer = item.revcount
          then [⟨item, w.latest item.timer⟩] else [] } := by
  by_cases same : w.revcount item.timer = item.revcount <;> simp [dispatch, queue, same]

omit [DecidableEq α] in
theorem outstanding_cons {item : Timeout α} {work : List (Timeout α)}
    (queue : w.work = item :: work) : w.outstanding = item :: (work ++ w.taken.toList) := by
  simp [outstanding, queue]

omit [DecidableEq α] in
theorem Orderly.dispatch (orderly : Orderly size w)
    (bounded : ∀ t, w.unlinks t < 2 ^ 32) : Orderly size w.dispatch := by
  cases queue : w.work with
  | nil =>
    rw [dispatch_nil queue]
    exact orderly
  | cons item work =>
    have whole := outstanding_cons queue
    have later : ∀ other ∈ work ++ w.taken.toList, other ∈ w.outstanding := by
      intro other member
      rw [whole]
      exact mem_cons_of_mem item member
    have rest : w.dispatch.delivered.Sublist w.delivered := by
      rw [dispatch_cons queue]
      simp only [Wheel.delivered, outstanding, queue]
      split <;> simp
    rw [dispatch_cons queue] at rest ⊢
    exact
      { orderly with
        items := fun other member => orderly.items other (later other member)
        onTime := fun other member => orderly.onTime other (later other member)
        calls := by
          intro call member
          rcases mem_append.mp member with old | new
          · exact orderly.calls call old
          · split at new
            · rename_i same
              cases mem_singleton.mp new
              have first : item ∈ w.outstanding := whole ▸ mem_cons_self
              exact ⟨orderly.current first (bounded _) same, orderly.onTime item first⟩
            · cases new
        delivered := orderly.delivered.sublist rest
        past := fun start member => orderly.past start (rest.subset member) }

theorem accounted_start (accounted : ∀ u, Accounted w u)
    (started : w.start tick size t ms = .ok next) (u : α) : Accounted next u := by
  obtain ⟨-, rfl⟩ := start_eq_ok started
  by_cases same : u = t
  · subst same
    intro start latest
    rw [show start = ⟨w.started, w.clock + ticksFor tick ms⟩ from
      Option.some.inj (latest.symm.trans (update_self ..))]
    exact .inl ⟨_, mem_addBefore.mpr (.inr ⟨rfl, rfl⟩)⟩
  · intro start latest
    have kept : w.latest u = some start := (update_of_ne same ..).symm.trans latest
    rcases accounted_unlink (accounted u) same start kept with
      ⟨slot, member⟩ | rest
    · exact .inl ⟨slot, mem_addBefore.mpr (.inl member)⟩
    · exact .inr rest

theorem accounted_stop (accounted : ∀ u, Accounted w u) (t u : α) : Accounted (w.stop t) u := by
  intro start latest
  by_cases same : u = t
  · subst same
    have gone : (w.stop u).latest u = none := update_self ..
    exact absurd (gone.symm.trans latest) (Option.some_ne_none _).symm
  · have kept : w.latest u = some start := (update_of_ne same ..).symm.trans latest
    exact accounted_unlink (accounted u) same start kept

theorem accounted_expire (orderly : Orderly size w)
    (accounted : ∀ u, Accounted w u) (u : α) : Accounted w.expire u := by
  unfold expire
  split
  case isFalse => exact accounted u
  case isTrue busy =>
    have free := Option.isNone_iff_eq_none.mp busy.2
    split
    case h_1 => exact accounted u
    case h_2 entry entries slot =>
      intro start latest
      have member : entry ∈ w.slots w.pos := slot ▸ mem_cons_self
      by_cases same : u = entry.timer
      · subst same
        have known := orderly.latest w.pos entry member
        cases Option.some.inj (known.symm.trans latest)
        refine .inr (.inl ⟨_, mem_append_right _ mem_cons_self, ?_⟩)
        exact ⟨rfl, rfl, rfl⟩
      · rcases accounted_unlink (accounted u) same start latest with
          linked | ⟨item, old, rest⟩ | called
        · exact .inl linked
        · refine .inr (.inl ⟨item, ?_, rest⟩)
          rw [outstanding_taken (w := w.unlink _) free]
          exact mem_append_left _ old
        · exact .inr (.inr called)

omit [DecidableEq α] in
omit [DecidableEq α] in
theorem accounted_dispatch (accounted : Accounted w u) : Accounted w.dispatch u := by
  cases queue : w.work with
  | nil =>
    rw [dispatch_nil queue]
    exact accounted
  | cons item work =>
    rw [dispatch_cons queue]
    intro start latest
    rcases accounted start latest with linked | queued | called
    · exact .inl linked
    · obtain ⟨other, member, timer, eq, count⟩ := queued
      rw [outstanding_cons queue] at member
      rcases mem_cons.mp member with rfl | rest
      · -- an item that is still due to its timer is not dropped
        subst timer
        rw [if_pos count.symm]
        exact .inr (.inr ⟨_, mem_append_right _ mem_cons_self, rfl, eq⟩)
      · exact .inr (.inl ⟨other, rest, timer, eq, count⟩)
    · obtain ⟨call, member, rest⟩ := called
      exact .inr (.inr ⟨call, mem_append_left _ member, rest⟩)

theorem unlinks_le_step (tick size : Nat) (w : Wheel α) (op : Op α) (t : α) :
    w.unlinks t ≤ (w.step tick size op).unlinks t := by
  cases op with
  | start u ms =>
    simp only [step]
    split
    case h_1 next started =>
      obtain ⟨-, rfl⟩ := start_eq_ok started
      exact w.unlinks_le_unlink u t
    case h_2 => exact le_rfl
  | stop u => exact w.unlinks_le_unlink u t
  | advance =>
    simp only [step, advance]
    split <;> exact le_rfl
  | expire =>
    simp only [step, expire]
    split
    · split
      · exact le_rfl
      · exact w.unlinks_le_unlink _ t
    · exact le_rfl
  | addWork => exact le_rfl
  | dispatch =>
    simp only [step, dispatch]
    split
    · exact le_rfl
    · split <;> exact le_rfl

theorem Orderly.step (orderly : Orderly size w) (bounded : ∀ t, w.unlinks t < 2 ^ 32) (op : Op α) :
    Orderly size (w.step tick size op) := by
  cases op with
  | start t ms =>
    simp only [Wheel.step]
    split
    case h_1 next started => exact orderly.start started
    case h_2 => exact orderly
  | stop t => exact orderly.stop t
  | advance => exact orderly.advance
  | expire => exact orderly.expire
  | addWork => exact orderly.addWork
  | dispatch => exact orderly.dispatch bounded

theorem accounted_step (orderly : Orderly size w)
    (accounted : ∀ u, Accounted w u) (op : Op α) (u : α) : Accounted (w.step tick size op) u := by
  cases op with
  | start t ms =>
    simp only [step]
    split
    case h_1 next started => exact accounted_start accounted started u
    case h_2 => exact accounted u
  | stop t => exact accounted_stop accounted t u
  | advance =>
    simp only [step, advance]
    split <;> exact accounted u
  | expire => exact accounted_expire orderly accounted u
  | addWork =>
    intro start latest
    rw [step, outstanding_addWork]
    exact accounted u start latest
  | dispatch => exact accounted_dispatch (accounted u)

omit [DecidableEq α] in
theorem orderly_empty (size : Nat) : Orderly size (empty : Wheel α) where
  place := (Nat.zero_mod size).symm
  latest _ _ member := absurd member not_mem_nil
  slot _ _ member := absurd member not_mem_nil
  ahead _ _ member := absurd member not_mem_nil
  inOrder _ := .nil
  numbered _ _ eq := nomatch eq
  revcount _ := rfl
  taken _ eq := nomatch eq
  items _ member := absurd member not_mem_nil
  onTime _ member := absurd member not_mem_nil
  calls _ member := absurd member not_mem_nil
  delivered := .nil
  past _ member := absurd member not_mem_nil

theorem run_append_singleton (tick size : Nat) (ops : List (Op α)) (op : Op α) :
    run tick size (ops ++ [op]) = (run tick size ops).step tick size op :=
  foldl_append ..

theorem orderly_run (tick size : Nat) (ops : List (Op α))
    (bounded : ∀ t, (run tick size ops).unlinks t < 2 ^ 32) :
    Orderly size (run tick size ops) ∧ ∀ t, Accounted (run tick size ops) t := by
  induction ops using reverseRecOn with
  | nil => exact ⟨orderly_empty size, fun _ _ eq => nomatch eq⟩
  | append_singleton ops op induction =>
    rw [run_append_singleton] at bounded ⊢
    have earlier : ∀ t, (run tick size ops).unlinks t < 2 ^ 32 :=
      fun t => (unlinks_le_step tick size _ op t).trans_lt (bounded t)
    obtain ⟨orderly, accounted⟩ := induction earlier
    exact ⟨orderly.step earlier op, accounted_step orderly accounted op⟩

omit [DecidableEq α] in
theorem called_of_past (orderly : Orderly size w) {start : Start}
    (accounted : Accounted w t) (latest : w.latest t = some start)
    (elapsed : start.due < w.clock ∨ start.due = w.clock ∧ w.ticking = false)
    (drained : ∀ item ∈ w.work, item.timer ≠ t) :
    ∃ call ∈ w.calls, call.item.timer = t ∧ call.item.start = start := by
  rcases accounted start latest with ⟨slot, member⟩ | queued | called
  · obtain ⟨due, -, now⟩ := orderly.ahead slot _ member
    rcases elapsed with less | ⟨eq, idle⟩
    · exact absurd less (Nat.not_lt.mpr due)
    · exact absurd ((now eq).symm.trans idle) Bool.noConfusion
  · obtain ⟨item, member, timer, eq, -⟩ := queued
    rcases mem_append.mp member with waiting | held
    · exact absurd timer (drained item waiting)
    · have held : w.taken = some item := Option.mem_toList.mp held
      obtain ⟨ticking, clock⟩ := orderly.taken item held
      have due := orderly.onTime item member
      rw [eq, clock] at due
      rcases elapsed with less | ⟨-, idle⟩
      · exact absurd due less.ne'
      · exact absurd (ticking.symm.trans idle) Bool.noConfusion
  · exact called

omit [DecidableEq α] in
theorem Orderly.calls_inOrder (orderly : Orderly size w) :
    (w.calls.map (·.item.start)).Pairwise Start.Before :=
  (pairwise_append.mp orderly.delivered).1

omit [DecidableEq α] in
theorem Orderly.calls_nodup (orderly : Orderly size w) :
    (w.calls.map fun call => (call.item.timer, call.item.start)).Nodup := by
  have starts : (w.calls.map (·.item.start)).Nodup := by
    refine orderly.calls_inOrder.imp fun before same => ?_
    subst same
    rcases before with less | ⟨-, less⟩
    · exact Nat.lt_irrefl _ less
    · exact Nat.lt_irrefl _ less
  apply Nodup.of_map Prod.snd
  rw [map_map]
  exact starts

/-- A start that the wheel takes is due `max 1 (interval / tick)` ticks later.
Every timeout function that has run did so for the start that was its timer's
latest, with no stop since, and which was taken off the wheel on the tick it
was due.  They ran in the order of the ticks, and on one tick in the order of
the starts.  A start that has been left alone has had its function run exactly
once, as soon as its tick is over and the queue has no item for the timer. -/
theorem timeouts_run_once_in_order (tick size : Nat) (ops : List (Op α))
    (bounded : ∀ t, (run tick size ops).unlinks t < 2 ^ 32) :
    (∀ t ms next, (run tick size ops).start tick size t ms = .ok next →
        next.latest t = some ⟨(run tick size ops).started,
          (run tick size ops).clock + max 1 (ms / tick)⟩) ∧ (∀ call ∈ (run tick size ops).calls,
        call.latest = some call.item.start ∧ call.item.clock = call.item.start.due) ∧
      ((run tick size ops).calls.map (·.item.start)).Pairwise Start.Before ∧
      ∀ t start, (run tick size ops).latest t = some start →
        (start.due < (run tick size ops).clock ∨ start.due = (run tick size ops).clock ∧
            (run tick size ops).ticking = false) →
        (∀ item ∈ (run tick size ops).work, item.timer ≠ t) →
        ((run tick size ops).calls.map fun call =>
          (call.item.timer, call.item.start)).count (t, start) = 1 := by
  obtain ⟨orderly, accounted⟩ := orderly_run tick size ops bounded
  refine ⟨?_, orderly.calls, orderly.calls_inOrder, ?_⟩
  · intro t ms next started
    obtain ⟨-, rfl⟩ := start_eq_ok started
    rw [← ticksFor_eq_max]
    exact update_self ..
  · intro t start latest elapsed drained
    apply count_eq_one_of_mem orderly.calls_nodup
    obtain ⟨call, member, timer, eq⟩ := called_of_past orderly (accounted t) latest elapsed drained
    refine mem_map.mpr ⟨call, member, ?_⟩
    rw [timer, eq]

/-- Two timers for the second tick, of which the first is started again after
it has expired; the wheel has eight slots of 100 ms. -/
def restarted : Wheel Bool :=
  run 100 8 [.start true 250, .start false 200, .advance, .expire, .advance, .expire,
      .addWork, .expire, .start true 100, .addWork, .expire, .dispatch,
      .dispatch, .advance, .expire, .addWork, .expire, .dispatch]

theorem timeouts_run_once_in_order_restarted :
    (∀ t, restarted.unlinks t < 2 ^ 32) ∧ (restarted.calls.map fun call =>
        (call.item.timer, call.item.start)).count (false, ⟨1, 2⟩) = 1 ∧
      (restarted.calls.map fun call =>
        (call.item.timer, call.item.start)).count (true, ⟨2, 3⟩) = 1 := by
  have bounded : ∀ t, restarted.unlinks t < 2 ^ 32 := by decide +kernel
  have once := (timeouts_run_once_in_order 100 8 _ bounded).2.2.2
  refine ⟨bounded, ?_, ?_⟩
  · exact once false ⟨1, 2⟩ (by decide +kernel) (by decide +kernel) (by decide +kernel)
  · exact once true ⟨2, 3⟩ (by decide +kernel) (by decide +kernel) (by decide +kernel)

end Wheel

end Decnet.TimerWheel
