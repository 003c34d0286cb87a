import Decnet.Routing.PtpTimers

/-!
# How a point to point circuit comes up

`PtpCircuit` with the adjacencies that its router knows to be up.  A circuit
tells its router about an adjacency in `Adjacency::up`, which marks it as up
first and then starts its listen timer; when the wheel refuses the interval,
the exception ends the work item between the two.  The node's main loop catches
it and goes on with the next item.
-/

namespace Decnet.Routing

open Throwing PtpCircuit TimerWheel

/-- `isUp` is `up_` of the adjacency, and `base` its hello timer.  `registered`
are the adjacencies for which the router was called with `adj_up` and not with
`adj_down` since. -/
structure LivePtp where
  circuit : PtpCircuit
  base : Nat
  isUp : Bool
  registered : List Neighbour

abbrev PtpM := EStateM TimerWheel.OverflowError LivePtp

namespace LivePtp

def new (cfg : PtpConfig) : LivePtp where
  circuit := .new cfg.circuit cfg.verify cfg.expectVerify cfg.startWorks
  base := 0
  isUp := false
  registered := []

def state (c : LivePtp) : PtpState := c.circuit.state

def enter (state : PtpState) (c : LivePtp) : LivePtp :=
  { c with circuit := { c.circuit with state := state } }

def tell (registered : List Neighbour) : Layer.Input → List Neighbour
  | .up n => registered ++ [n]
  | .down n => registered.erase n
  | .message _ _ => registered

/-- What an item does that starts no timer.  `up_` goes with the adjacency. -/
def follow (cfg : PtpConfig) (work : PtpWork) (c : LivePtp) : LivePtp :=
  let handled := c.circuit.dispatch cfg.parent work
  { c with
    circuit := handled.1
    isUp := c.isUp && handled.1.adj.isSome
    registered := handled.2.foldl (fun r call => tell r call.2) c.registered }

def greet (c : LivePtp) : LivePtp :=
  { c with circuit := c.circuit.clearNeighbour.call .sendInit, isUp := false }

def learn (cfg : PtpConfig) (init : PtpInit) (address timer : Nat) (c : LivePtp) : LivePtp :=
  { c with
    circuit := c.circuit.learn init address
    base := if timer = 0 then cfg.t3 else timer
    isUp := false }

def startTimer (ms : Nat) : PtpM Unit :=
  match TimerWheel.start ms with
  | .ok _ => pure ()
  | .error e => throw e

/-- `Adjacency::up`. -/
def adjUp : PtpM Unit := do
  let c ← get
  if c.isUp ∨ c.circuit.adj = none then pure ()
  else do
    modify fun c => { c with isUp := true }
    startTimer (c.base * 2100)
    modify fun c => { c with registered := c.registered ++ c.circuit.adj.toList }

/-- `PtpCircuit::up`, and the state after it. -/
def up (cfg : PtpConfig) : PtpM Unit := do
  adjUp
  startTimer (cfg.t3 * 1000)
  modify (enter .running)

def dispatch (cfg : PtpConfig) (item : TimedWork) : PtpM Unit := do
  let c ← get
  match c.state, item.work with
  | .datalinkStart, .dlStatus true => do
      modify greet
      startTimer (cfg.t3 * 1000)
      modify (enter .routingInit)
  | .routingInit, .received (some (.init init)) address =>
    if PtpCircuit.acceptable cfg.parent init then do
      modify (learn cfg init address item.timer)
      if c.circuit.requestVerify then do
        startTimer (cfg.t3 * 1000)
        modify (enter .routingVerify)
      else up cfg
    else modify (follow cfg item.work)
  | .routingVerify, .received (some (.verify srcnode fcnval)) _ =>
    if c.circuit.checkSrc srcnode ∧ fcnval = c.circuit.expectVerify then
      up cfg
    else modify (follow cfg item.work)
  | .running, .timeout => do
      modify (follow cfg item.work)
      startTimer (cfg.t3 * 1000)
  -- Anything received counts as the neighbour being alive.
  | .running, .received (some _) _ => do
      if c.circuit.adj = none then pure () else startTimer (c.base * 2100)
      modify (follow cfg item.work)
  | _, _ => modify (follow cfg item.work)

def step (cfg : PtpConfig) (c : LivePtp) (item : TimedWork) : LivePtp :=
  after (dispatch cfg item c)

def run (cfg : PtpConfig) (items : List TimedWork) : LivePtp :=
  items.foldl (step cfg) (new cfg)

/-! ## What one item does -/

variable {cfg : PtpConfig} {c : LivePtp} {good : Unit → LivePtp → Prop} {bad : LivePtp → Prop}

@[simp] theorem ends_startTimer (ms : Nat) :
    Ends (startTimer ms) c good bad ↔
      if Spans ms then good () c else bad c := by
  unfold startTimer
  by_cases spans : Spans ms
  · rw [start_of_spans spans, if_pos spans]
    rfl
  · rw [start_of_not_spans spans, if_neg spans]
    rfl

theorem learn_expect (init : PtpInit) (address : Nat) (p : PtpCircuit) :
    (p.learn init address).expectVerify = p.expectVerify := by
  unfold PtpCircuit.learn
  split <;> rfl

theorem dispatch_circuit (cfg : PtpConfig) (item : TimedWork) (c : LivePtp) :
    Ends (dispatch cfg item) c
      (fun _ c' => c'.circuit = (c.circuit.dispatch cfg.parent item.work).1) (fun _ => True) := by
  have comesUp (c' : LivePtp) : Ends (up cfg) c'
      (fun _ c'' => c''.circuit = c'.circuit.up.1) (fun _ => True) := by
    simp only [up, adjUp, ends_bind, ends_get, ends_ite, ends_modify,
      ends_pure, ends_startTimer]
    split_ifs <;> rfl
  unfold dispatch
  rw [ends_bind, ends_get]
  split
  case h_1 state work =>
    change c.circuit.state = _ at state
    simp only [ends_bind, ends_startTimer, if_true_right, work, PtpCircuit.dispatch, state]
    exact fun _ => rfl
  case h_2 init address state work =>
    change c.circuit.state = _ at state
    split
    case isTrue acceptable =>
      have handled : c.circuit.dispatch cfg.parent item.work =
          if c.circuit.requestVerify then
            ({ c.circuit.learn init address with state := .routingVerify }, [])
          else (c.circuit.learn init address).up := by
        simp [work, PtpCircuit.dispatch, state, PtpCircuit.routingInit, acceptable,
          PtpCircuit.requestVerify, learn_expect]
      rw [handled]
      split
      · simp only [ends_bind, ends_startTimer, if_true_right]
        exact fun _ => rfl
      · exact comesUp _
    case isFalse => rfl
  case h_3 srcnode fcnval address state work =>
    change c.circuit.state = _ at state
    split
    case isTrue verified =>
      have handled : c.circuit.dispatch cfg.parent item.work = c.circuit.up := by
        simp [work, PtpCircuit.dispatch, state, PtpCircuit.routingVerify, verified]
      rw [handled]
      exact comesUp c
    case isFalse => rfl
  case h_4 =>
    simp only [ends_bind, ends_startTimer, if_true_right]
    exact fun _ => rfl
  case h_5 =>
    simp only [ends_bind, ends_startTimer, ends_ite]
    split_ifs <;> rfl
  case h_6 => rfl

/-- The circuit is past the report of its datalink. -/
def Past (c : LivePtp) : Prop :=
  c.state ≠ .halted ∧ c.state ≠ .datalinkStart

/-- The circuit has an adjacency that it has checked. -/
def Met (c : LivePtp) : Prop :=
  c.state = .routingVerify ∨ c.state = .running

structure Sound (cfg : PtpConfig) (c : LivePtp) : Prop where
  expect : c.circuit.expectVerify = cfg.expectVerify
  hello : c.Past → TimerWheel.Spans (cfg.t3 * 1000)
  adj : c.Met → c.circuit.adj.isSome = true
  listen : c.Met → TimerWheel.Spans (c.base * 2100)
  isUp : c.isUp = true ↔ c.state = .running
  registered : c.registered =
    if c.state = .running then c.circuit.adj.toList else []

theorem sound_new (cfg : PtpConfig) : Sound cfg (new cfg) where
  expect := rfl
  hello past := absurd rfl past.1
  adj met := by rcases met with state | state <;> cases state
  listen met := by rcases met with state | state <;> cases state
  isUp := ⟨nofun, nofun⟩
  registered := rfl

/-- The init message that an item brings, if the circuit goes by it. -/
def accepted (cfg : PtpConfig) (c : LivePtp) : PtpWork → Option PtpInit
  | .received (some (.init init)) _ =>
    if c.state = .routingInit ∧ PtpCircuit.acceptable cfg.parent init
    then some init else none
  | _ => none

/-- The listen interval that an accepted init message brings fits the wheel. -/
def Fits (cfg : PtpConfig) (c : LivePtp) (item : TimedWork) : Prop :=
  (c.accepted cfg item.work).isSome = true → Announceable cfg.t3 item.timer

/-- What an item can do to the circuit. -/
inductive Outcome (cfg : PtpConfig) (c : LivePtp) (item : TimedWork) (c' : LivePtp) : Prop where
  /-- The circuit starts over, or is halted. -/
  | lost (state : ¬ c'.Past)
  | stays (state : c'.state = c.state) (info : c'.circuit.info = c.circuit.info)
      (noDown : c.Past → item.work ≠ .dlStatus false) (noInit : c.accepted cfg item.work = none)
  | reported (was : c.state = .datalinkStart)
      (work : item.work = .dlStatus true) (state : c'.state = .routingInit)
  | greeted (init : PtpInit) (accepted : c.accepted cfg item.work = some init)
      (verify : cfg.expectVerify ≠ []) (state : c'.state = .routingVerify) (info : c'.circuit.info =
        ⟨init.srcnode, init.ntype, min init.blksize MTU, 4⟩)
  | admitted (init : PtpInit) (accepted : c.accepted cfg item.work = some init)
      (verify : cfg.expectVerify = []) (state : c'.state = .running)
  | verified (was : c.state = .routingVerify) (srcnode : Nodeid) (address : Nat)
      (work : item.work = .received (some (.verify srcnode cfg.expectVerify)) address)
      (source : c.circuit.checkSrc srcnode = true) (state : c'.state = .running)

/-! ### Items that start no timer -/

variable {calls : RouterCalls PtpCircuit} {p : PtpCircuit} {work : PtpWork}
  {item : TimedWork} {init : PtpInit} {history : List TimedWork}

theorem follow_eq (handled : c.circuit.dispatch cfg.parent work = (p, calls)) :
    follow cfg work c =
      { c with
        circuit := p
        isUp := c.isUp && p.adj.isSome
        registered :=
          calls.foldl (fun r call => tell r call.2) c.registered } := by
  unfold follow
  rw [handled]

/-- Both parts of what is to be known of an item. -/
def Good (cfg : PtpConfig) (c : LivePtp) (item : TimedWork) (c' : LivePtp) : Prop :=
  Sound cfg c' ∧ Outcome cfg c item c'

theorem good_of_lost {c' : LivePtp} (expect : c'.circuit.expectVerify = cfg.expectVerify)
    (state : ¬ c'.Past) (isUp : c'.isUp = false)
    (registered : c'.registered = []) : Good cfg c item c' := by
  have notRunning : c'.state ≠ .running := by
    intro running
    exact state (by simp [Past, running])
  have notMet : ¬ c'.Met := by
    rintro (verifying | running)
    · exact state (by simp [Past, verifying])
    · exact notRunning running
  refine ⟨?_, .lost state⟩
  exact {
    expect := expect
    hello := fun past => absurd past state
    adj := fun met => absurd met notMet
    listen := fun met => absurd met notMet
    isUp := iff_of_false (by simp [isUp]) notRunning
    registered := by rw [registered, if_neg notRunning] }

section

variable (sound : Sound cfg c)

include sound

/-- A circuit that gives up its neighbour tells the router. -/
theorem Sound.lose (handled : c.circuit.dispatch cfg.parent item.work = (p, calls))
    (expect : p.expectVerify = c.circuit.expectVerify)
    (state : p.state = .datalinkStart ∨ p.state = .halted)
    (told : calls = if c.state = .running then c.circuit.downCalls else [])
    (gone : c.state = .running → p.adj = none) : Good cfg c item (follow cfg item.work c) := by
  rw [follow_eq handled]
  apply good_of_lost
  · exact expect.trans sound.expect
  · rcases state with starts | halts
    · exact fun past => past.2 starts
    · exact fun past => past.1 halts
  · by_cases running : c.state = .running
    · simp [gone running]
    · have down : c.isUp = false := Bool.eq_false_iff.mpr (mt sound.isUp.mp running)
      simp [down]
  · change calls.foldl (fun r call => tell r call.2) c.registered = []
    rw [told, sound.registered]
    split
    case isTrue =>
      unfold downCalls
      cases c.circuit.adj with
      | none => rfl
      | some n => simp [tell]
    case isFalse => rfl

theorem Sound.stay (handled : c.circuit.dispatch cfg.parent item.work = (p, calls))
    (same : p = { c.circuit with port := p.port })
    (quiet : ∀ r, calls.foldl (fun r call => tell r call.2) r = r)
    (noDown : c.Past → item.work ≠ .dlStatus false) (noInit : c.accepted cfg item.work = none) :
    Good cfg c item (follow cfg item.work c) := by
  have unchanged : follow cfg item.work c = { c with circuit := p } := by
    rw [follow_eq handled, quiet]
    have flag : (c.isUp && p.adj.isSome) = c.isUp := by
      cases isUp : c.isUp with
      | false => rfl
      | true =>
        rw [same]
        exact sound.adj (.inr (sound.isUp.mp isUp))
    rw [flag]
  rw [unchanged, same]
  exact ⟨{ sound with }, .stays rfl rfl noDown noInit⟩

theorem Sound.ignore (handled : c.circuit.dispatch cfg.parent item.work = (c.circuit, []))
    (noDown : c.Past → item.work ≠ .dlStatus false) (noInit : c.accepted cfg item.work = none) :
    Good cfg c item (follow cfg item.work c) :=
  sound.stay handled rfl (fun _ => rfl) noDown noInit

theorem Sound.restart (handled : c.circuit.dispatch cfg.parent item.work = c.circuit.restart) :
    Good cfg c item (follow cfg item.work c) :=
  sound.lose handled rfl (.inl rfl) rfl fun _ => rfl

theorem Sound.halt (notRunning : c.state ≠ .running)
    (handled : c.circuit.dispatch cfg.parent item.work = (c.circuit.halt, [])) :
    Good cfg c item (follow cfg item.work c) :=
  sound.lose handled rfl (.inr rfl) (if_neg notRunning).symm
    fun running => absurd running notRunning

end

theorem accepted_eq_none (state : c.state ≠ .routingInit) : c.accepted cfg work = none := by
  unfold accepted
  split
  · exact if_neg fun both => state both.1
  · rfl

section

variable (sound : Sound cfg c)

include sound

/-- An item that makes a circuit which is not running restart, halt or stay as it
is. -/
theorem Sound.settle (notRunning : c.state ≠ .running) (noInit : c.accepted cfg item.work = none)
    (result : c.circuit.dispatch cfg.parent item.work = c.circuit.restart ∨
      c.circuit.dispatch cfg.parent item.work = (c.circuit.halt, []) ∨
      c.circuit.dispatch cfg.parent item.work = (c.circuit, []) ∧
        (c.Past → item.work ≠ .dlStatus false)) : Good cfg c item (follow cfg item.work c) := by
  rcases result with restarts | halts | ⟨ignored, noDown⟩
  · exact sound.restart restarts
  · exact sound.halt notRunning halts
  · exact sound.ignore ignored noDown noInit

section

variable (item : TimedWork)

theorem Sound.follow_halted (state : c.circuit.state = .halted) :
    Good cfg c item (follow cfg item.work c) := by
  have notRunning : c.state ≠ .running := by simp [LivePtp.state, state]
  have noInit : c.accepted cfg item.work = none := accepted_eq_none (by simp [LivePtp.state, state])
  have noDown : c.Past → item.work ≠ .dlStatus false := fun past => absurd state past.1
  obtain ⟨work, timer⟩ := item
  have handled : c.circuit.dispatch cfg.parent work = c.circuit.halted work := by
    simp [PtpCircuit.dispatch, state]
  cases work with
  | start | timeout =>
    exact sound.lose handled rfl (.inl rfl) (if_neg notRunning).symm fun _ => rfl
  | _ => exact sound.ignore handled noDown noInit

theorem Sound.follow_datalinkStart (state : c.circuit.state = .datalinkStart)
    (notUp : item.work ≠ .dlStatus true) : Good cfg c item (follow cfg item.work c) := by
  have notRunning : c.state ≠ .running := by simp [LivePtp.state, state]
  refine sound.settle notRunning (accepted_eq_none (by simp [LivePtp.state, state])) ?_
  have noDown : c.Past → item.work ≠ .dlStatus false := fun past => absurd state past.2
  simp only [PtpCircuit.dispatch, state, PtpCircuit.datalinkStart]
  split <;> simp_all

theorem Sound.follow_routingInit (state : c.circuit.state = .routingInit)
    (noInit : c.accepted cfg item.work = none) : Good cfg c item (follow cfg item.work c) := by
  refine sound.settle (by simp [LivePtp.state, state]) noInit ?_
  simp only [PtpCircuit.dispatch, state, PtpCircuit.routingInit]
  split <;> simp_all [accepted, LivePtp.state]

theorem Sound.follow_routingVerify (state : c.circuit.state = .routingVerify)
    (refused : ∀ srcnode fcnval address,
      item.work = .received (some (.verify srcnode fcnval)) address →
      ¬ (c.circuit.checkSrc srcnode = true ∧ fcnval = c.circuit.expectVerify)) :
    Good cfg c item (follow cfg item.work c) := by
  have notRunning : c.state ≠ .running := by simp [LivePtp.state, state]
  refine sound.settle notRunning (accepted_eq_none (by simp [LivePtp.state, state])) ?_
  simp only [PtpCircuit.dispatch, state, PtpCircuit.routingVerify]
  split
  case h_5 srcnode fcnval address work =>
    have unlike := refused srcnode fcnval address work
    cases source : c.circuit.checkSrc srcnode <;> simp_all
  all_goals simp_all

theorem Sound.follow_running (state : c.circuit.state = .running) :
    Good cfg c item (follow cfg item.work c) := by
  have running : c.state = .running := state
  have noInit : c.accepted cfg item.work = none := accepted_eq_none (by simp [running])
  obtain ⟨work, timer⟩ := item
  have handled : c.circuit.dispatch cfg.parent work = c.circuit.running work := by
    simp [PtpCircuit.dispatch, state]
  cases work with
  | timeout =>
    exact sound.stay handled rfl (fun _ => rfl) (fun _ => nofun) noInit
  | down => exact sound.restart handled
  | stop =>
    exact sound.lose handled rfl (.inr rfl) (if_pos running).symm fun _ => rfl
  | listenTimeout =>
    exact sound.lose handled rfl (.inl rfl) (if_pos running).symm fun _ => rfl
  | start => exact sound.ignore handled nofun noInit
  | dlStatus isUp =>
    cases isUp with
    | true => exact sound.ignore handled nofun noInit
    | false => exact sound.restart handled
  | received packet address =>
    match packet with
    | some (.hello srcnode valid) | some (.verify srcnode fcnval) =>
      rw [PtpCircuit.running] at handled
      split_ifs at handled
      all_goals first
        | exact sound.restart handled
        | exact sound.ignore handled nofun noInit
    | some (.routing message) =>
      have quiet (r : List Neighbour) :
          (c.circuit.adj.toList.map fun n =>
            (c.circuit, Layer.Input.message message n)).foldl
            (fun r call => tell r call.2) r = r := by
        cases c.circuit.adj <;> rfl
      exact sound.stay handled rfl quiet (fun _ => nofun) noInit
    | some (.init _) | some .init3 | some .data | some .other | none =>
      exact sound.ignore handled nofun noInit

end

end

/-! ### Items that start timers -/

theorem Sound.up_ends (expect : c.circuit.expectVerify = cfg.expectVerify)
    (hello : Spans (cfg.t3 * 1000)) (adj : c.circuit.adj.isSome = true)
    (listen : Spans (c.base * 2100)) (notUp : c.isUp = false) (registered : c.registered = []) :
    Ends (up cfg) c (fun _ c' => Sound cfg c' ∧ c'.state = .running) (fun _ => False) := by
  have comesUp : ¬ (c.isUp = true ∨ c.circuit.adj = none) := by
    rw [notUp]
    rintro (isUp | missing)
    · cases isUp
    · rw [missing] at adj
      cases adj
  simp only [up, adjUp, ends_bind, ends_get,
    ends_startTimer, if_neg comesUp, if_pos listen, if_pos hello]
  refine ⟨?_, rfl⟩
  exact {
    expect := expect
    hello := fun _ => hello
    adj := fun _ => adj
    listen := fun _ => listen
    isUp := iff_of_true rfl rfl
    registered := by
      change c.registered ++ c.circuit.adj.toList = c.circuit.adj.toList
      rw [registered, List.nil_append] }

section

variable (sound : Sound cfg c)

include sound

theorem Sound.reported (state : c.state = .datalinkStart)
    (work : item.work = .dlStatus true) (spans : Spans (cfg.t3 * 1000)) :
    Good cfg c item (enter .routingInit c.greet) := by
  have notRunning : c.state ≠ .running := by simp [state]
  have registered : c.registered = [] := by
    rw [sound.registered, if_neg notRunning]
  refine ⟨?_, .reported state work rfl⟩
  exact {
    expect := sound.expect
    hello := fun _ => spans
    adj := by rintro (⟨⟨⟩⟩ | ⟨⟨⟩⟩)
    listen := by rintro (⟨⟨⟩⟩ | ⟨⟨⟩⟩)
    isUp := ⟨nofun, nofun⟩
    registered := registered }

/-- The wheel has no room for the hello timer: the circuit stays where it
was. -/
theorem Sound.unreported (state : c.state = .datalinkStart) : Good cfg c item c.greet := by
  have notRunning : c.state ≠ .running := by simp [state]
  apply good_of_lost
  · exact sound.expect
  · exact fun past => past.2 state
  · rfl
  · change c.registered = []
    rw [sound.registered, if_neg notRunning]

/-- An acceptable init message is the last word or calls for a
verification. -/
theorem Sound.init_ends {address : Nat} (state : c.state = .routingInit)
    (accepted : c.accepted cfg item.work = some init) (listen : Announceable cfg.t3 item.timer) :
    Ends (do
        modify (learn cfg init address item.timer)
        if c.circuit.requestVerify then do
          startTimer (cfg.t3 * 1000)
          modify (enter .routingVerify)
        else up cfg) c (fun _ => Good cfg c item) (Good cfg c item) := by
  have hello : Spans (cfg.t3 * 1000) := sound.hello (by simp [Past, state])
  have registered : c.registered = [] := by
    rw [sound.registered, if_neg (by simp [state])]
  have expect : (learn cfg init address item.timer c).circuit.expectVerify = cfg.expectVerify :=
    (learn_expect init address c.circuit).trans sound.expect
  rw [ends_bind, ends_modify]
  split
  case isTrue verify =>
    simp only [ends_bind, ends_startTimer, if_pos hello]
    refine ⟨?_, .greeted init accepted ?_ rfl ?_⟩
    · exact {
        expect := expect
        hello := fun _ => hello
        adj := fun _ => rfl
        listen := fun _ => listen
        isUp := iff_of_false Bool.false_ne_true PtpState.noConfusion
        registered := registered }
    · intro none
      rw [requestVerify, sound.expect, none] at verify
      cases verify
    · simp only [enter, learn, PtpCircuit.learn]
      split <;> rfl
  case isFalse noVerify =>
    have none : cfg.expectVerify = [] := by
      rw [requestVerify, sound.expect] at noVerify
      simpa using noVerify
    apply Ends.imp (Sound.up_ends expect hello rfl listen rfl registered)
    · exact fun _ c' both => ⟨both.1, .admitted init accepted none both.2⟩
    · exact fun _ => False.elim

/-- One item, whether or not the wheel serves it. -/
theorem Sound.dispatch_ends (fits : Fits cfg c item) :
    Ends (dispatch cfg item) c (fun _ => Good cfg c item) (Good cfg c item) := by
  unfold dispatch
  rw [ends_bind, ends_get]
  split
  case h_1 state work =>
    simp only [ends_bind, ends_startTimer]
    split
    case isTrue spans => exact sound.reported state work spans
    case isFalse => exact sound.unreported state
  case h_2 init address state work =>
    split
    case isTrue acceptable =>
      have accepted : c.accepted cfg item.work = some init := by
        simp [LivePtp.accepted, work, state, acceptable]
      exact sound.init_ends state accepted (fits (by simp [accepted]))
    case isFalse refused =>
      apply sound.follow_routingInit item state
      simp [LivePtp.accepted, work, refused]
  case h_3 srcnode fcnval address state work =>
    split
    case isTrue matches' =>
      have met : c.Met := .inl state
      have notRunning : c.state ≠ .running := by simp [state]
      apply Ends.imp (Sound.up_ends sound.expect
        (sound.hello (by simp [Past, state])) (sound.adj met) (sound.listen met)
        (Bool.eq_false_iff.mpr (mt sound.isUp.mp notRunning))
        (by rw [sound.registered, if_neg notRunning]))
      · intro _ c' both
        refine ⟨both.1, .verified state srcnode address ?_ matches'.1 both.2⟩
        rw [work, matches'.2, sound.expect]
      · exact fun _ => False.elim
    case isFalse refused =>
      apply sound.follow_routingVerify item state
      intro srcnode' fcnval' address' same
      cases work.symm.trans same
      exact refused
  case h_4 state work =>
    have running := sound.follow_running item state
    simp only [ends_bind, ends_startTimer]
    split <;> exact running
  case h_5 packet address state work =>
    have running := sound.follow_running item state
    have met : c.Met := .inr state
    have known : c.circuit.adj ≠ none := by
      intro missing
      have has := sound.adj met
      rw [missing] at has
      cases has
    simp only [ends_bind, ends_startTimer, if_neg known, if_pos (sound.listen met)]
    exact running
  case h_6 noReport noInit noVerify noTimeout noPacket =>
    cases state : c.circuit.state with
    | halted => exact sound.follow_halted item state
    | datalinkStart => exact sound.follow_datalinkStart item state (noReport state)
    | routingInit =>
      apply sound.follow_routingInit item state
      unfold LivePtp.accepted
      split
      · rename_i init address work
        exact absurd work (noInit init address state)
      · rfl
    | routingVerify =>
      apply sound.follow_routingVerify item state
      intro srcnode fcnval address work
      exact absurd work (noVerify srcnode fcnval address state)
    | running => exact sound.follow_running item state

theorem Sound.step (fits : Fits cfg c item) : Good cfg c item (step cfg c item) :=
  (after_iff_ends (dispatch cfg item) c).mpr (sound.dispatch_ends fits)

end

theorem run_concat (cfg : PtpConfig) (history : List TimedWork) (item : TimedWork) :
    run cfg (history ++ [item]) = step cfg (run cfg history) item := by
  rw [run, List.foldl_append]
  rfl

/-- Until the wheel refuses a timer, the circuit is what it is without timers. -/
theorem run_circuit (cfg : PtpConfig) (items : List TimedWork) :
    (run cfg items).circuit = items.foldl
        (fun p item => (p.dispatch cfg.parent item.work).1) (new cfg).circuit ∨
      ∃ past item, past ++ [item] <+: items ∧
        ∃ e c, dispatch cfg item (run cfg past) = .error e c := by
  induction items using List.reverseRecOn with
  | nil => exact .inl rfl
  | append_singleton items item induction =>
    rcases induction with same | ⟨past, bad, early, thrown⟩
    · have handled := dispatch_circuit cfg item (run cfg items)
      rw [same, Ends] at handled
      rw [run_concat, List.foldl_append, step]
      cases returned : dispatch cfg item (run cfg items) with
      | ok _ c =>
        rw [returned] at handled
        exact .inl handled
      | error e c => exact .inr ⟨items, item, List.prefix_rfl, e, c, returned⟩
    · exact .inr ⟨past, bad, early.trans (List.prefix_append ..), thrown⟩

/-- The item is no report that the datalink is down, makes the circuit neither
restart nor halt, and is no init message that it accepts. -/
def Peaceful (cfg : PtpConfig) (c : LivePtp) (item : TimedWork) : Prop :=
  item.work ≠ .dlStatus false ∧ (step cfg c item).Past ∧ c.accepted cfg item.work = none

/-- The circuit waited for its datalink and it was reported up, with nothing but
peaceful items since. -/
def Reported (cfg : PtpConfig) (history : List TimedWork) : Prop :=
  ∃ before up between, history = before ++ [up] ++ between ∧
    (run cfg before).state = .datalinkStart ∧ up.work = .dlStatus true ∧
    Run.Guarded (step cfg) (Peaceful cfg) (run cfg (before ++ [up])) between

/-- After such a report an init message was accepted, with nothing but peaceful
items since. -/
def Greeted (cfg : PtpConfig) (init : PtpInit) (history : List TimedWork) : Prop :=
  ∃ past item waiting, history = past ++ [item] ++ waiting ∧
    Reported cfg past ∧ (run cfg past).accepted cfg item.work = some init ∧
    Run.Guarded (step cfg) (Peaceful cfg) (run cfg (past ++ [item])) waiting

/-- The history ends with an init message that is accepted after such a report
or, when a verification is required, with one from the node whose init message
was accepted, with the configured value. -/
def Admitted (cfg : PtpConfig) (history : List TimedWork) : Prop :=
  ∃ init past item, history = past ++ [item] ∧
    if cfg.expectVerify = [] then
      Reported cfg past ∧ (run cfg past).accepted cfg item.work = some init
    else
      Greeted cfg init past ∧ ∃ address, item.work =
        .received (some (.verify init.srcnode cfg.expectVerify)) address

theorem guarded_concat {ok : LivePtp → TimedWork → Prop} {past items : List TimedWork}
    (guarded : Run.Guarded (step cfg) ok (run cfg past) items)
    (next : ok (run cfg (past ++ items)) item) :
    Run.Guarded (step cfg) ok (run cfg past) (items ++ [item]) := by
  rw [Run.guarded_append]
  refine ⟨guarded, ?_, trivial⟩
  rw [run, List.foldl_append] at next
  exact next

theorem Reported.concat (reported : Reported cfg history)
    (peaceful : Peaceful cfg (run cfg history) item) : Reported cfg (history ++ [item]) := by
  obtain ⟨before, up, between, rfl, state, work, guarded⟩ := reported
  exact ⟨before, up, between ++ [item], List.append_assoc .., state, work,
    guarded_concat guarded peaceful⟩

theorem Greeted.concat (greeted : Greeted cfg init history)
    (peaceful : Peaceful cfg (run cfg history) item) : Greeted cfg init (history ++ [item]) := by
  obtain ⟨past, greeting, waiting, rfl, reported, accepted, guarded⟩ := greeted
  exact ⟨past, greeting, waiting ++ [item], List.append_assoc .., reported,
    accepted, guarded_concat guarded peaceful⟩

/-- What the state of a circuit tells of its history. -/
structure Traced (cfg : PtpConfig) (history : List TimedWork) : Prop where
  sound : Sound cfg (run cfg history)
  reported : (run cfg history).state = .routingInit → Reported cfg history
  greeted : (run cfg history).state = .routingVerify → ∃ init,
    Greeted cfg init history ∧ cfg.expectVerify ≠ [] ∧ (run cfg history).circuit.info =
        ⟨init.srcnode, init.ntype, min init.blksize MTU, 4⟩

theorem accepted_state
    (accepted : c.accepted cfg work = some init) : c.state = .routingInit := by
  by_contra state
  rw [accepted_eq_none state] at accepted
  cases accepted

theorem Traced.concat (traced : Traced cfg history) (fits : Fits cfg (run cfg history) item) :
    Traced cfg (history ++ [item]) := by
  obtain ⟨sound, outcome⟩ := traced.sound.step fits
  rw [← run_concat] at sound outcome
  refine ⟨sound, ?_, ?_⟩
  · intro state
    have past : (run cfg (history ++ [item])).Past := by simp [Past, state]
    cases outcome with
    | lost notPast => exact absurd past notPast
    | stays same info noDown noInit =>
      have was := same.symm.trans state
      exact (traced.reported was).concat
        ⟨noDown (by simp [Past, was]), run_concat cfg _ _ ▸ past, noInit⟩
    | reported was work now =>
      exact ⟨history, item, [], (List.append_nil _).symm, was, work, trivial⟩
    | greeted _ _ _ now | admitted _ _ _ now | verified _ _ _ _ _ now =>
      cases now.symm.trans state
  · intro state
    have past : (run cfg (history ++ [item])).Past := by simp [Past, state]
    cases outcome with
    | lost notPast => exact absurd past notPast
    | stays same info noDown noInit =>
      have was := same.symm.trans state
      obtain ⟨init, greeted, required, known⟩ := traced.greeted was
      exact ⟨init, greeted.concat ⟨noDown (by simp [Past, was]),
        run_concat cfg _ _ ▸ past, noInit⟩, required, info.trans known⟩
    | greeted init accepted verify now info =>
      exact ⟨init, ⟨history, item, [], (List.append_nil _).symm,
        traced.reported (accepted_state accepted), accepted, trivial⟩, verify, info⟩
    | reported _ _ now | admitted _ _ _ now | verified _ _ _ _ _ now =>
      cases now.symm.trans state

theorem traced_of_guarded (guarded : Run.Guarded (step cfg) (Fits cfg) (new cfg) history) :
    Traced cfg history := by
  induction history using List.reverseRecOn with
  | nil => exact ⟨sound_new cfg, nofun, nofun⟩
  | append_singleton history item induction =>
    rw [Run.guarded_append] at guarded
    exact (induction guarded.1).concat guarded.2.1

theorem Traced.admitted (traced : Traced cfg history) (fits : Fits cfg (run cfg history) item)
    (wasNot : (run cfg history).state ≠ .running)
    (running : (run cfg (history ++ [item])).state = .running) :
    Admitted cfg (history ++ [item]) := by
  obtain ⟨_, outcome⟩ := traced.sound.step fits
  rw [← run_concat] at outcome
  cases outcome with
  | lost notPast => exact absurd (by simp [Past, running]) notPast
  | stays same info noDown noInit =>
    exact absurd (same.symm.trans running) wasNot
  | reported _ _ now | greeted _ _ _ now => cases now.symm.trans running
  | admitted init accepted verify now =>
    refine ⟨init, history, item, rfl, ?_⟩
    rw [if_pos verify]
    exact ⟨traced.reported (accepted_state accepted), accepted⟩
  | verified was srcnode address work source now =>
    obtain ⟨init, greeted, required, known⟩ := traced.greeted was
    have same : srcnode = init.srcnode := by
      rw [checkSrc, known] at source
      simpa using source
    refine ⟨init, history, item, rfl, ?_⟩
    rw [if_neg required]
    exact ⟨greeted, address, same ▸ work⟩

/-- In every run in which the listen intervals that neighbours ask for fit the
wheel, a circuit has an adjacency registered exactly while it is running, and
then one, its own; and it comes up only through a report that its datalink is
up, an acceptable init message and the verification that is required of that
node. -/
theorem registered_iff_running (cfg : PtpConfig) (history : List TimedWork)
    (guarded : Run.Guarded (step cfg) (Fits cfg) (new cfg) history) :
    ((run cfg history).state = .running → ∃ n, (run cfg history).registered = [n] ∧
        (run cfg history).circuit.adj = some n) ∧ ((run cfg history).state ≠ .running →
      (run cfg history).registered = []) ∧ ∀ past item, history = past ++ [item] →
      (run cfg past).state ≠ .running →
      (run cfg history).state = .running → Admitted cfg history := by
  have sound := (traced_of_guarded guarded).sound
  refine ⟨fun running => ?_, fun notRunning => ?_, ?_⟩
  · have registered := sound.registered
    rw [if_pos running] at registered
    obtain ⟨n, has⟩ := Option.isSome_iff_exists.mp (sound.adj (.inr running))
    exact ⟨n, by rw [registered, has]; rfl, has⟩
  · rw [sound.registered, if_neg notRunning]
  · rintro past item rfl wasNot running
    rw [Run.guarded_append] at guarded
    exact (traced_of_guarded guarded.1).admitted guarded.2.1 wasNot running

/-- Router 1.1, with a neighbour that is to send the value 7. -/
def verifiedConfig : PtpConfig where
  parent := ⟨Nodeid.make 1 1, .l1router, 1023, 63⟩
  circuit := Circuit.new 0 false 4
  t3 := 60
  verify := []
  expectVerify := [7]
  startWorks := true

/-- The circuit is started, its datalink comes up and router 1.2 sends an init
message with the given timer and then its verification, as often as given. -/
def verifiedWork (timer times : Nat) : List TimedWork :=
  [⟨.start, 0⟩, ⟨.dlStatus true, 0⟩,
    ⟨.received (some (.init ⟨Nodeid.make 1 2, .l1router, false, false, 576⟩)) 1, timer⟩] ++
    List.replicate times ⟨.received (some (.verify (Nodeid.make 1 2) [7])) 2, 0⟩

theorem registered_iff_running_verified :
    (run verifiedConfig (verifiedWork 60 1)).state = .running ∧
      (∃ n, (run verifiedConfig (verifiedWork 60 1)).registered = [n]) ∧
      Admitted verifiedConfig (verifiedWork 60 1) := by
  have running : (run verifiedConfig (verifiedWork 60 1)).state = .running := by
    decide +kernel
  have guarded : Run.Guarded (step verifiedConfig) (Fits verifiedConfig)
      (new verifiedConfig) (verifiedWork 60 1) := by
    refine ⟨nofun, nofun, fun _ => ?_, nofun, trivial⟩
    change Spans (60 * 2100)
    decide
  have result := registered_iff_running verifiedConfig (verifiedWork 60 1) guarded
  obtain ⟨n, registered, _⟩ := result.1 running
  exact ⟨running, ⟨n, registered⟩, result.2.2 (verifiedWork 60 0) _ rfl (by decide +kernel) running⟩

/-- The neighbour announces a hello timer of 2000 seconds, for which the wheel
has no room.  Its verification ends with an exception; when it is repeated, the
circuit runs and the router does not know of the adjacency. -/
theorem running_unregistered :
    (run verifiedConfig (verifiedWork 2000 2)).state = .running ∧
      (run verifiedConfig (verifiedWork 2000 2)).registered = [] := by
  decide +kernel

end LivePtp

end Decnet.Routing
