import Decnet.Common.TimerWheel
import Decnet.Lib.Run
import Decnet.Lib.Throwing
import Mathlib.Order.Interval.Finset.Nat

/-!
# Requests of a MOP circuit

A circuit asks other stations who they are, for their counters or to loop a
message, and makes delayed calls.  A request waits under a receipt number until
an answer carries that number, its time has passed or the circuit stops.  One
timer serves all of them.  A completion function may make further requests.
-/

namespace Decnet.Mop

open Throwing TimerWheel List

inductive Kind where
  | sysId | counters | loop | later
  deriving DecidableEq, Repr

/-- A call of `request_id`, `request_counters`, `loop` or `after`.  Times are in
nanoseconds. -/
structure Call where
  elapsed : Nat
  kind : Kind
  timeout : Int
  deriving DecidableEq, Repr

structure Answer where
  kind : Kind
  receipt : Nat
  deriving DecidableEq, Repr

/-- A waiting request.  The serial number says which call made it. -/
structure Pending where
  serial : Nat
  kind : Kind
  deadline : Int
  deriving DecidableEq, Repr

/-- The timer on the wheel; `due` when its expiry is queued. -/
inductive Timer where
  | idle
  | running (ticks : Nat)
  | due
  deriving DecidableEq, Repr

/-- The circuit, with the calls of completion functions so far and the largest
number of requests that waited when a receipt number was sought. -/
structure MopCircuit where
  clock : Int := 0
  receipt : Nat := 0
  pending : List (Nat × Pending) := []
  timer : Timer := .idle
  made : Nat := 0
  calls : List (Nat × Option Answer) := []
  peak : Nat := 0
  deriving DecidableEq, Repr

inductive Halt where
  | overflow (error : OverflowError)
  | spins
  deriving DecidableEq, Repr

abbrev CircuitM := EStateM Halt MopCircuit

namespace MopCircuit

def elapse (elapsed : Nat) : CircuitM Unit :=
  modify fun c => { c with clock := c.clock + elapsed }

/-- The first number after the last one that is neither 0 nor in use. -/
def nextFree (inUse : List Nat) : Nat → Nat → Option Nat
  | 0, _ => none
  | fuel + 1, last =>
    let next := (last + 1) % 65536
    if next = 0 ∨ next ∈ inUse then nextFree inUse fuel next else some next

/-- When every number is taken the search has no end. -/
def nextReceipt : CircuitM Nat := do
  let c ← get
  modify fun c => { c with peak := max c.peak c.pending.length }
  match nextFree (c.pending.map (·.1)) 65536 c.receipt with
  | some receipt =>
    modify fun c => { c with receipt }
    return receipt
  | none => throw .spins

/-- The wheel is asked for the time to the first deadline, and for a tick at
least. -/
def rearm : CircuitM Unit := do
  let c ← get
  match c.pending with
  | [] => modify fun c => { c with timer := .idle }
  | (_, p) :: rest =>
    let first := rest.foldl (fun first entry => min first entry.2.deadline) p.deadline
    match start ((max (first - c.clock) 100000000).toNat / 1000000) with
    | .ok ticks => modify fun c => { c with timer := .running ticks }
    | .error error => throw (.overflow error)

def store (receipt : Nat) (p : Pending) (pending : List (Nat × Pending)) : List (Nat × Pending) :=
  (pending.filter (·.1 ≠ receipt)).orderedInsert (·.1 ≤ ·.1) (receipt, p)

def waitFor (receipt : Nat) (timeout : Int) (kind : Kind) : CircuitM Unit := do
  modify fun c => { c with
    pending := store receipt ⟨c.made, kind, c.clock + timeout⟩ c.pending
    made := c.made + 1 }
  rearm

/-- The four calls differ in the kind, and in the message sent last. -/
def request (call : Call) : CircuitM Unit := do
  elapse call.elapsed
  let receipt ← nextReceipt
  waitFor receipt call.timeout call.kind

def take (receipt : Nat) (kind : Kind) : CircuitM (Option Nat) := do
  let c ← get
  match c.pending.find? (·.1 = receipt) with
  | some entry =>
    if entry.2.kind = kind then
      modify fun c => { c with pending := c.pending.erase entry }
      rearm
      return some entry.2.serial
    else return none
  | none => return none

abbrev React := Nat → Option Answer → List Call

variable (react : React)

def complete (serial : Nat) (answer : Option Answer) : CircuitM Unit := do
  modify fun c => { c with calls := c.calls ++ [(serial, answer)] }
  (react serial answer).forM request

/-- A delayed call is not made. -/
def noAnswer (p : Pending) : CircuitM Unit :=
  if p.kind = .later then pure () else complete react p.serial none

def stop : CircuitM Unit := do
  let c ← get
  modify fun c => { c with timer := .idle, pending := [] }
  c.pending.forM fun entry => noAnswer react entry.2

def timeout : CircuitM Unit := do
  let c ← get
  let expired := c.pending.filter (·.2.deadline ≤ c.clock)
  modify fun c => { c with
    pending := c.pending.filter fun entry => !(entry.2.deadline ≤ c.clock) }
  rearm
  expired.forM fun entry => complete react entry.2.serial none

def answer (a : Answer) : CircuitM Unit := do
  match ← take a.receipt a.kind with
  | some serial => complete react serial (some a)
  | none => pure ()

end MopCircuit

/-- A message as `MopPacketBase::parse_frame` gives it. -/
inductive MopPacket where
  | sysId (receipt : Nat)
  | requestId (receipt : Nat)
  | requestCounters (receipt : Nat)
  | counters (receipt : Nat)
  | console
  deriving DecidableEq, Repr

/-- `SysIdHandler::dispatch`: what it hands on to the circuit. -/
def MopPacket.answer : MopPacket → Option Answer
  | .sysId receipt => if receipt = 0 then none else some ⟨.sysId, receipt⟩
  | .counters receipt => some ⟨.counters, receipt⟩
  | .requestId _ | .requestCounters _ | .console => none

def word : List UInt8 → Option Nat
  | low :: high :: _ => some (low.toNat + 256 * high.toNat)
  | _ => none

/-- `LoopHandler::dispatch`: a reply that is well formed. -/
def loopAnswer (frame : List UInt8) : Option Answer := do
  let skip ← word frame
  if skip % 2 = 1 ∨ frame.length < skip + 4 then none
  else
    let rest := frame.drop (2 + skip)
    if (← word rest) = 1 then
      let receipt ← word (rest.drop 2)
      return ⟨.loop, receipt⟩
    else none

inductive Message where
  | mop (packet : Option MopPacket)
  | loop (frame : List UInt8)
  deriving DecidableEq, Repr

def Message.answer : Message → Option Answer
  | .mop packet => packet.bind MopPacket.answer
  | .loop frame => loopAnswer frame

inductive Event where
  | call (call : Call)
  | received (message : Message)
  | tick | expiry | stop
  deriving DecidableEq, Repr

structure Input where
  elapsed : Nat
  event : Event
  deriving DecidableEq, Repr

namespace MopCircuit

section Machine

variable (react : React)

/-- An expiry of which the timer has since been started or stopped is stale. -/
def dispatch : Event → CircuitM Unit
  | .call call => request call
  | .tick => modify fun c =>
    { c with timer := if c.timer = .idle then .idle else .due }
  | .expiry => do
      let c ← get
      if c.timer = .due then
        modify fun c => { c with timer := .idle }
        timeout react
      else pure ()
  | .stop => stop react
  | .received message =>
    match message.answer with
    | some a => answer react a
    | none => pure ()

def step (c : MopCircuit) (input : Input) : MopCircuit :=
  after ((do elapse input.elapsed; dispatch react input.event) c)

end Machine

abbrev serials (c : MopCircuit) : List Nat := c.pending.map (·.2.serial)

abbrev called (c : MopCircuit) : List Nat := c.calls.map (·.1)

def hour : Int := 3600000000000

/-- Of the requests made each waits, has had its completion function called or
is owed the call.  Those of `aim` no longer wait, and what they were answered
is `known`. -/
structure Sound (known : Nat → Answer → Prop) (aim owed : List Nat) (c : MopCircuit) : Prop where
  once : (c.serials ++ c.called ++ owed).Perm (List.range c.made)
  distinct : (c.pending.map (·.1)).Nodup
  nonzero : ∀ entry ∈ c.pending, entry.1 ≠ 0
  near : ∀ entry ∈ c.pending, entry.2.deadline ≤ c.clock + hour
  armed : c.pending ≠ [] → c.timer ≠ .idle
  settled : ∀ serial ∈ aim, serial ∈ c.called ∨ serial ∈ owed
  answered : ∀ serial a, (serial, some a) ∈ c.calls → known serial a

abbrev Crowded (c : MopCircuit) : Prop := 65535 ≤ c.peak

/-! ## Receipt numbers -/

theorem nextFree_eq_none {inUse : List Nat} {fuel last : Nat}
    (none : nextFree inUse fuel last = none) (ahead : Nat)
    (within : ahead < fuel) (nonzero : (last + ahead + 1) % 65536 ≠ 0) :
    (last + ahead + 1) % 65536 ∈ inUse := by
  induction fuel generalizing last ahead with
  | zero => exact absurd within (Nat.not_lt_zero _)
  | succ fuel ih =>
    rw [nextFree] at none
    split at none
    case isFalse => cases none
    case isTrue taken =>
      cases ahead with
      | zero => exact taken.resolve_left nonzero
      | succ ahead =>
        have shift : ((last + 1) % 65536 + ahead + 1) % 65536 =
            (last + (ahead + 1) + 1) % 65536 := by omega
        rw [← shift] at nonzero ⊢
        exact ih none ahead (Nat.lt_of_succ_lt_succ within) nonzero

theorem nextFree_eq_some {inUse : List Nat} {fuel last receipt : Nat}
    (found : nextFree inUse fuel last = some receipt) : receipt ≠ 0 ∧ receipt ∉ inUse := by
  induction fuel generalizing last with
  | zero => cases found
  | succ fuel ih =>
    rw [nextFree] at found
    split at found
    case isTrue => exact ih found
    case isFalse free =>
      cases found
      exact not_or.mp free

theorem le_length_of_nextFree {inUse : List Nat} {last : Nat}
    (none : nextFree inUse 65536 last = none) : 65535 ≤ inUse.length := by
  have all : Finset.Ioo 0 65536 ⊆ inUse.toFinset := by
    intro receipt inside
    obtain ⟨positive, below⟩ := Finset.mem_Ioo.mp inside
    -- How far the receipt number is ahead of the last one.
    obtain ⟨ahead, within, same⟩ : ∃ ahead < 65536, (last + ahead + 1) % 65536 = receipt :=
      ⟨(receipt + 65535 - last % 65536) % 65536, by omega, by omega⟩
    rw [mem_toFinset, ← same]
    exact nextFree_eq_none none ahead within (by omega)
  calc 65535 = (Finset.Ioo 0 65536).card := by rw [Nat.card_Ioo]
    _ ≤ inUse.toFinset.card := Finset.card_le_card all
    _ ≤ inUse.length := inUse.toFinset_card_le

variable {c : MopCircuit} {known : Nat → Answer → Prop} {aim owed : List Nat} {react : React}

theorem nextReceipt_ends (c : MopCircuit) :
    Ends nextReceipt c (fun receipt next => receipt ≠ 0 ∧ receipt ∉ c.pending.map (·.1) ∧
        ∃ last peak, next = { c with receipt := last, peak := peak }) Crowded := by
  simp only [nextReceipt, ends_bind, ends_get]
  cases found : nextFree (c.pending.map (·.1)) 65536 c.receipt with
  | some receipt =>
    obtain ⟨nonzero, free⟩ := nextFree_eq_some found
    exact ⟨nonzero, free, _, _, rfl⟩
  | none =>
    have crowded := le_length_of_nextFree found
    rw [length_map] at crowded
    exact Nat.le_trans crowded (Nat.le_max_right _ _)

/-! ## The timer -/

theorem foldl_min_le (first : Int) (entries : List (Nat × Pending)) :
    entries.foldl (fun first entry => min first entry.2.deadline) first ≤ first := by
  induction entries generalizing first with
  | nil => exact Int.le_refl _
  | cons entry entries ih =>
    exact Int.le_trans (ih _) (Int.min_le_left _ _)

theorem rearm_ends (sound : Sound known aim owed { c with timer := .due }) :
    Ends rearm c (fun _ => Sound known aim owed) Crowded := by
  simp only [rearm, ends_bind, ends_get]
  cases waiting : c.pending with
  | nil => exact { sound with armed := fun some => absurd waiting some }
  | cons entry rest =>
    have first := foldl_min_le entry.2.deadline rest
    have near := sound.near entry (by simp [waiting])
    have spans : Spans ((max (rest.foldl
        (fun first entry => min first entry.2.deadline) entry.2.deadline -
          c.clock) 100000000).toNat / 1000000) := by
      simp only [hour] at near
      unfold Spans
      omega
    simp only [start_of_spans spans]
    exact { sound with armed := by intro _ same; cases same }

theorem Sound.later (sound : Sound known aim owed c) (elapsed : Nat) :
    Sound known aim owed { c with clock := c.clock + elapsed } :=
  { sound with
    near := by
      intro entry member
      have near := sound.near entry member
      change entry.2.deadline ≤ c.clock + elapsed + hour
      omega }

theorem store_perm {receipt : Nat} {pending : List (Nat × Pending)}
    (free : receipt ∉ pending.map (·.1)) (p : Pending) :
    (store receipt p pending).Perm ((receipt, p) :: pending) := by
  have same : pending.filter (·.1 ≠ receipt) = pending := by
    rw [filter_eq_self]
    intro entry member
    simp only [decide_eq_true_eq]
    rintro rfl
    exact free (mem_map_of_mem member)
  unfold store
  rw [same]
  exact perm_orderedInsert _ _ _

theorem Sound.enter (sound : Sound known aim owed c) {receipt : Nat}
    {timeout : Int} (nonzero : receipt ≠ 0)
    (free : receipt ∉ c.pending.map (·.1)) (brief : timeout ≤ hour) (kind : Kind) :
    Sound known aim owed { c with
      pending := store receipt ⟨c.made, kind, c.clock + timeout⟩ c.pending
      made := c.made + 1, timer := .due } := by
  have entered := store_perm free ⟨c.made, kind, c.clock + timeout⟩
  have old : ∀ {property : Nat × Pending → Prop},
      property (receipt, ⟨c.made, kind, c.clock + timeout⟩) →
      (∀ entry ∈ c.pending, property entry) →
      ∀ entry ∈ store receipt ⟨c.made, kind, c.clock + timeout⟩ c.pending,
        property entry := fun new old entry member =>
    forall_mem_cons.mpr ⟨new, old⟩ entry (entered.mem_iff.mp member)
  refine { sound with
    once := ?_, distinct := ?_, armed := ?_
    nonzero := old nonzero sound.nonzero
    near := old (Int.add_le_add_left brief c.clock) sound.near }
  · have serials := (entered.map (·.2.serial)).append_right (c.called ++ owed)
    have once := sound.once.append_right [c.made]
    rw [← range_succ, append_assoc c.serials] at once
    rw [append_assoc]
    exact serials.trans ((perm_append_singleton _ _).symm.trans once)
  · rw [(entered.map _).nodup_iff]
    exact nodup_cons.mpr ⟨free, sound.distinct⟩
  · intro _ same
    cases same

theorem request_ends {call : Call} (brief : call.timeout ≤ hour) (sound : Sound known aim owed c) :
    Ends (request call) c (fun _ => Sound known aim owed) Crowded := by
  simp only [request, elapse, ends_bind, ends_modify]
  refine (nextReceipt_ends _).imp ?_ fun _ crowded => crowded
  rintro receipt _ ⟨nonzero, free, last, peak, rfl⟩
  apply rearm_ends
  have later : Sound known aim owed
      { c with clock := c.clock + call.elapsed, receipt := last, peak } :=
    { sound.later call.elapsed with }
  exact later.enter nonzero free brief call.kind

def Brief (react : React) : Prop :=
  ∀ serial answer, ∀ call ∈ react serial answer, call.timeout ≤ hour

theorem complete_ends (brief : Brief react) {serial : Nat}
    {answer : Option Answer} (knows : ∀ a, answer = some a → known serial a)
    (sound : Sound known aim (serial :: owed) c) :
    Ends (complete react serial answer) c (fun _ => Sound known aim owed) Crowded := by
  refine ends_forM (fun call member _ => request_ends (brief serial answer call member)) ?_
  refine { sound with once := ?_, settled := ?_, answered := ?_ }
  · simpa [called] using sound.once
  · intro other member
    simpa [or_assoc, eq_comm] using sound.settled other member
  · intro other a member
    rcases mem_append.mp member with earlier | now
    · exact sound.answered other a earlier
    · cases mem_singleton.mp now
      exact knows a rfl

theorem Sound.part (sound : Sound known aim [] c)
    {gone rest : List (Nat × Pending)} (parts : c.pending.Perm (gone ++ rest)) :
    Sound known (gone.map (·.2.serial)) (gone.map (·.2.serial))
      { c with pending := rest, timer := .due } := by
  have kept : ∀ entry ∈ rest, entry ∈ c.pending := fun entry member =>
    parts.mem_iff.mpr (mem_append_right _ member)
  refine { sound with
    once := ?_, distinct := ?_, armed := ?_
    nonzero := fun entry old => sound.nonzero entry (kept entry old)
    near := fun entry old => sound.near entry (kept entry old)
    settled := fun _ member => .inr member }
  · have once := sound.once
    rw [append_nil] at once
    refine .trans (.trans ?_ ((parts.map (·.2.serial)).append_right c.called).symm) once
    rw [map_append, append_assoc (gone.map _)]
    exact perm_append_comm
  · have distinct := (parts.map (·.1)).nodup_iff.mp sound.distinct
    rw [map_append] at distinct
    exact distinct.of_append_right
  · intro _ same
    cases same

theorem completeAll_ends (brief : Brief react)
    {run : Nat × Pending → CircuitM Unit} {entries : List (Nat × Pending)}
    (runs : ∀ entry ∈ entries, run entry = complete react entry.2.serial none)
    (sound : Sound known aim (entries.map (·.2.serial)) c) :
    Ends (entries.forM run) c (fun _ => Sound known aim []) Crowded := by
  induction entries generalizing c with
  | nil => exact sound
  | cons entry entries ih =>
    obtain ⟨first, rest⟩ := forall_mem_cons.mp runs
    refine .seq ?_ fun _ next sound => ih rest sound
    rw [first]
    exact complete_ends brief (fun _ none => nomatch none) sound

def ended (c : MopCircuit) (input : Input) : List Nat :=
  match input.event with
  | .stop => c.serials
  | .expiry =>
    if c.timer = .due then
      (c.pending.filter (·.2.deadline ≤ c.clock + input.elapsed)).map (·.2.serial)
    else []
  | _ => []

/-- The input brings the answer while the request waits under its number. -/
def AnsweredBy (c : MopCircuit) (input : Input) (serial : Nat) (a : Answer) : Prop :=
  ∃ message, input.event = .received message ∧ message.answer = some a ∧ ∃ entry ∈ c.pending,
      entry.1 = a.receipt ∧ entry.2.kind = a.kind ∧ entry.2.serial = serial

/-- No more than an hour is asked for, and the circuit does not stop before a
delayed call. -/
def Heeded (c : MopCircuit) (input : Input) : Prop :=
  match input.event with
  | .call call => call.timeout ≤ hour
  | .stop => ∀ entry ∈ c.pending, entry.2.kind ≠ .later
  | _ => True

section

variable (brief : Brief react) (sound : Sound known [] [] c)

include brief sound

theorem timeout_ends : Ends (timeout react) { c with timer := .idle }
      (fun _ => Sound known ((c.pending.filter (·.2.deadline ≤ c.clock)).map
        (·.2.serial)) []) Crowded := by
  have parts := filter_append_perm (·.2.deadline ≤ c.clock) c.pending
  have taken : Ends rearm { c with
      pending := c.pending.filter fun entry => !(entry.2.deadline ≤ c.clock)
      timer := .idle } _ _ := rearm_ends (sound.part parts.symm)
  simp only [timeout, ends_bind]
  refine taken.imp (fun _ _ sound => ?_) fun _ crowded => crowded
  exact completeAll_ends brief (fun _ _ => rfl) sound

theorem stop_ends (calls : ∀ entry ∈ c.pending, entry.2.kind ≠ .later) :
    Ends (stop react) c (fun _ => Sound known c.serials []) Crowded := by
  have parts : c.pending.Perm (c.pending ++ []) := by rw [append_nil]
  have owing : Sound known c.serials c.serials { c with pending := [], timer := .idle } :=
    { sound.part parts with armed := fun some => absurd rfl some }
  exact completeAll_ends brief (fun entry member => if_neg (calls entry member)) owing

theorem answer_ends {a : Answer} (knows : ∀ entry ∈ c.pending, entry.1 = a.receipt →
      entry.2.kind = a.kind → known entry.2.serial a) :
    Ends (answer react a) c (fun _ => Sound known [] []) Crowded := by
  simp only [answer, take, ends_bind, ends_get]
  cases found : c.pending.find? (·.1 = a.receipt) with
  | none => exact sound
  | some entry =>
    have member := mem_of_find?_eq_some found
    have receipt : entry.1 = a.receipt := by
      simpa using find?_some found
    simp only [ends_ite, ends_bind]
    split
    case isFalse => exact sound
    case isTrue kind =>
      have taken : Ends rearm { c with pending := c.pending.erase entry } _ _ :=
        rearm_ends (sound.part (show c.pending.Perm ([entry] ++ c.pending.erase entry) from
            perm_cons_erase member))
      refine taken.imp ?_ fun _ crowded => crowded
      intro _ next sound
      refine complete_ends brief ?_ { sound with
        settled := fun _ member => absurd member not_mem_nil }
      intro _ same
      cases same
      exact knows entry member receipt kind

theorem sound_step {input : Input} (heeded : Heeded c input)
    (room : ¬ Crowded (step react c input)) :
    Sound (fun serial a => known serial a ∨ AnsweredBy c input serial a)
      (ended c input) [] (step react c input) := by
  obtain ⟨elapsed, event⟩ := input
  have later : Sound (fun serial a => known serial a ∨ AnsweredBy c ⟨elapsed, event⟩ serial a) [] []
      { c with clock := c.clock + elapsed } :=
    { sound.later elapsed with
      answered := fun serial a member => .inl (sound.answered serial a member) }
  suffices ends : Ends (dispatch react event)
      { c with clock := c.clock + elapsed } (fun _ => Sound _ _ _) Crowded by
    exact ends.after.resolve_right room
  cases event with
  | call call => exact request_ends heeded later
  | received message =>
    simp only [dispatch]
    cases brings : message.answer with
    | none => exact later
    | some a =>
      exact answer_ends brief later fun entry member receipt kind =>
        .inr ⟨message, rfl, brings, entry, member, receipt, kind, rfl⟩
  | tick =>
    refine { later with armed := ?_ }
    intro some idle
    simp [sound.armed some] at idle
  | expiry =>
    simp only [dispatch, ends_bind, ends_get, ended]
    split
    case isTrue => exact timeout_ends brief later
    case isFalse => exact later
  | stop => exact stop_ends brief later heeded

end

/-- Every input is heeded, and a receipt number is never sought in vain. -/
def Proper (react : React) (c : MopCircuit) (input : Input) : Prop :=
  Heeded c input ∧ ¬ Crowded (step react c input)

/-- In every run with brief requests each request made waits or has had its
completion function called once, no two wait under one receipt number or under
0, and the timer is armed while one waits.  A further step ends those whose
time has come, and answers only what waits for the answer. -/
theorem requests_complete_once {react : React} (brief : Brief react) {inputs : List Input}
    (proper : Run.Guarded (step react) (Proper react) {} inputs)
    {c : MopCircuit} (reached : c = inputs.foldl (step react) {}) :
    (c.serials ++ c.called).Perm (List.range c.made) ∧
      (c.pending.map (·.1)).Nodup ∧ 0 ∉ c.pending.map (·.1) ∧ (c.pending ≠ [] → c.timer ≠ .idle) ∧
      ∀ input, Proper react c input →
        (∀ serial ∈ c.ended input, serial ∈ (step react c input).called) ∧
        ∀ serial a, (serial, some a) ∈ (step react c input).calls →
          (serial, some a) ∈ c.calls ∨ c.AnsweredBy input serial a := by
  have sound : Sound (fun _ _ => True) [] [] c := by
    rw [reached]
    refine proper.invariant (fun c input sound ok => ?_) ?_
    · exact { sound_step brief sound ok.1 ok.2 with
        settled := fun _ member => absurd member not_mem_nil
        answered := fun _ _ _ => trivial }
    · constructor <;> simp
  refine ⟨by simpa using sound.once, sound.distinct, ?_, sound.armed, ?_⟩
  · intro zero
    obtain ⟨entry, member, same⟩ := mem_map.mp zero
    exact sound.nonzero entry member same
  · intro input ok
    have now : Sound (fun serial a => (serial, some a) ∈ c.calls) [] [] c :=
      { sound with answered := fun _ _ member => member }
    have next := sound_step brief now ok.1 ok.2
    refine ⟨fun serial member => ?_, next.answered⟩
    exact (next.settled serial member).resolve_right not_mem_nil

/-- A station is asked who it is and answers; then a delayed call is asked
for. -/
def asking : List Input :=
  [⟨0, .call ⟨0, .sysId, 3000000000⟩⟩, ⟨1000000, .received (.mop (some (.sysId 1)))⟩]

def delays : React := fun serial _ =>
  if serial = 0 then [⟨0, .later, 1000000000⟩] else []

theorem requests_complete_once_asking :
    let c := asking.foldl (step delays) {}
    c.serials = [1] ∧ c.calls = [(0, some ⟨.sysId, 1⟩)] ∧
      (c.serials ++ c.called).Perm (List.range c.made) := by
  have brief : Brief delays := by
    intro serial answer call member
    unfold delays at member
    split at member
    · cases mem_singleton.mp member
      decide
    · cases member
  have asked : Proper delays {} ⟨0, .call ⟨0, .sysId, 3000000000⟩⟩ :=
    ⟨by change (3000000000 : Int) ≤ 3600000000000; decide, by decide⟩
  have proper : Run.Guarded (step delays) (Proper delays) {} asking :=
    ⟨asked, ⟨trivial, by decide⟩, trivial⟩
  exact ⟨by decide, by decide, (requests_complete_once brief proper rfl).1⟩

/-- A request for more than an hour waits beside another one, which is answered
in time. -/
def outlasting : List Input :=
  [⟨0, .call ⟨0, .sysId, 5000000000⟩⟩, ⟨0, .call ⟨0, .counters, 4000000000000⟩⟩,
    ⟨1000000000, .received (.mop (some (.sysId 1)))⟩, ⟨4000000000, .tick⟩, ⟨0, .expiry⟩]

theorem long_request_loses_answer :
    let c := outlasting.foldl (step fun _ _ => []) {}
    c.made = 2 ∧ c.called = [] ∧ c.serials = [1] ∧ c.timer = .idle := by
  decide

end MopCircuit

end Decnet.Mop
