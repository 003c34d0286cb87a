import Decnet.Nsp.Ledger

/-!
# One terminal notification for each link

A link ends for session control with `connect_rejected` or `disconnected`.
NSP must give at most one of them for each link, and exactly one once it has
closed the link for any reason but session control's own `reject`.

Each way in which NSP closes a link on its own account gives one notification,
so the number of times a link is closed is the number of rejects and of
terminal notifications together.  Two things in the code break this: the
connect timer of a link in state `cr` closes it without a word, and data that
session control sends while it is told that the link is gone goes onto the
transmit queue of a closed link, which is given up later with a second
notification.
-/

namespace Decnet.Nsp

open World CallRecord Connection

def Upcall.terminal : Upcall → Bool
  | .connectRejected _ _ => true
  | .disconnected _ _ => true
  | _ => false

def Call.rejects (link : Ptr) : Call → Bool
  | .reject target _ _ => target = link
  | _ => false

def Call.sends (link : Ptr) : Call → Bool
  | .sendData target _ => target = link
  | _ => false

/-- Session control sends nothing on a link in run state while it is told that
the link is gone. -/
def CallRecord.Silent (record : CallRecord) : Prop :=
  ∀ link reason data, record.inside = some (link, .disconnected reason data) →
    record.call.sends link = true → record.running = false

namespace Connection

def terminals (c : Connection) : Nat :=
  c.events.countP Upcall.terminal

/-- What closes a link has happened to it so many times. -/
structure Single (times : Nat) (c : Connection) : Prop where
  once : times ≤ 1
  isOver : times = 1 → c.state = .cl
  idle : c.state = .cl ∨ c.state = .cr → c.txq = []

/-- A link and the number of times session control has rejected it. -/
structure Settled (rejections : Nat) (c : Connection) : Prop extends Single c.terminals c where
  count : c.closings = rejections + c.terminals
  shut : c.state = .cl → 0 < c.closings

/-- A link that is being closed: session control has been told, the rest is
still to be done. -/
structure Parting (rejections : Nat) (c : Connection) : Prop where
  count : c.closings = rejections
  once : c.terminals = 1
  decided : c.state ≠ .cr
  idle : c.txq = []

/-- A link whose connect was refused, before it is closed. -/
structure Refused (rejections : Nat) (c : Connection) : Prop where
  count : c.closings = rejections
  once : c.terminals = 1

end Connection

def CallRecord.rejecting (record : CallRecord) (link : Ptr) : Nat :=
  if record.returned && record.call.rejects link then 1 else 0

def rejectedIn (link : Ptr) (log : List CallRecord) : Nat :=
  log.countP fun record => record.returned && record.call.rejects link

theorem rejectedIn_append (link : Ptr) (log : List CallRecord) (record : CallRecord) :
    rejectedIn link (log ++ [record]) = rejectedIn link log + record.rejecting link := by
  simp [rejectedIn, rejecting]

namespace Connection

variable {c c' : Connection} {rejections : Nat} {link : Ptr}
  {record : CallRecord} {config : NspConfig} {upcall : Upcall}

theorem terminals_congr (events : c'.events = c.events) : c'.terminals = c.terminals := by
  simp only [terminals, events]

theorem terminals_noteEvent (c : Connection) (upcall : Upcall) :
    (c.noteEvent upcall).terminals = c.terminals + if upcall.terminal then 1 else 0 := by
  simp [terminals, noteEvent]

theorem Single.eq_zero {times : Nat} (single : Single times c)
    (alive : c.state ≠ .cl) : times = 0 := by
  have once := single.once
  by_contra told
  exact alive (single.isOver (by omega))

theorem Single.alive {times : Nat} (single : Single times c)
    (live : (c.state ≠ .s0 ∧ c.state ≠ .cr ∧ c.state ≠ .cl) ∨ c.txq ≠ []) :
    c.state ≠ .cl ∧ c.state ≠ .cr := by
  rcases live with state | queue
  · exact ⟨state.2.2, state.2.1⟩
  · exact ⟨fun closed => queue (single.idle (.inl closed)),
      fun waiting => queue (single.idle (.inr waiting))⟩

/-- The link stays in its state, and its queue empty where it has to be, or
goes from one that is not closed to one that is neither closed nor waits for a
decision. -/
def Goes (c c' : Connection) : Prop :=
  (c'.state = c.state ∧ (c.state ≠ .run → c.txq = [] → c'.txq = [])) ∨
    (c.state ≠ .cl ∧ c'.state ≠ .cl ∧ c'.state ≠ .cr)

theorem Steady.goes (steady : Steady c c') : Goes c c' :=
  .inl ⟨steady.state, fun _ => steady.txq⟩

theorem Single.goes {times : Nat} (single : Single times c)
    (goes : Goes c c') : Single times c' := by
  refine ⟨single.once, ?_, ?_⟩
  · intro happened
    have closed := single.isOver happened
    rcases goes with ⟨same, _⟩ | ⟨alive, _⟩
    · exact same.trans closed
    · exact absurd closed alive
  · intro isOver
    rcases goes with ⟨same, queue⟩ | ⟨_, alive, decided⟩
    · rw [same] at isOver
      refine queue ?_ (single.idle isOver)
      rcases isOver with state | state <;> simp [state]
    · exact absurd isOver (by simp [alive, decided])

theorem Settled.goes (settled : Settled rejections c) (goes : Goes c c')
    (closings : c'.closings = c.closings) (events : c'.events = c.events) :
    Settled rejections c' := by
  have terminals := terminals_congr events
  refine ⟨terminals ▸ settled.toSingle.goes goes, ?_, ?_⟩
  · rw [closings, terminals]
    exact settled.count
  · intro closed
    rcases goes with ⟨same, _⟩ | ⟨_, alive, _⟩
    · exact closings ▸ settled.shut (same.symm.trans closed)
    · exact absurd closed alive

theorem goes_op {heeds : Heeds} (op : Op heeds c c') :
    Goes c c' ∧ c'.closings = c.closings ∧ c'.events = c.events := by
  rcases steady_op op with steady | ⟨opening, steady, rfl⟩ | ⟨confirming, steady, rfl⟩
  · exact ⟨steady.goes, steady.closings, steady.events⟩
  · exact ⟨.inr (by simp [opening, withState]), steady.closings, steady.events⟩
  · exact ⟨.inr (by simp [confirming, withState]), steady.closings, steady.events⟩

theorem Settled.note (settled : Settled rejections c) (passing : upcall.terminal = false) :
    Settled rejections (c.noteEvent upcall) := by
  have terminals : (c.noteEvent upcall).terminals = c.terminals := by
    simp [terminals_noteEvent, passing]
  refine ⟨⟨terminals.trans_le settled.once, ?_, settled.idle⟩, ?_, settled.shut⟩
  · rw [terminals]
    exact settled.isOver
  · rw [terminals]
    exact settled.count

theorem Noted.counts (noted : c.Noted link record) (config : NspConfig) :
    (called config record.call c).closings = c.closings + record.rejecting link ∧
      (called config record.call c).terminals = c.terminals := by
  refine ⟨?_, terminals_congr (called_events config record.call c)⟩
  obtain ⟨call, inside, returned, isOpen, running⟩ := record
  obtain ⟨target, returns, _⟩ := noted
  obtain ⟨c', same, outcome⟩ := called_outcome config call c
  rw [same]
  cases outcome with
  | ignored _ spared =>
    cases call with
    | reject other reason data =>
      simp_all [callReturns, rejecting]
    | _ => simp [rejecting, Call.rejects]
  | rejected other reason data done =>
    have here : other = link := by simpa [Call.target] using target
    simp [rejecting, Call.rejects, here,
      show returned = true from returns.trans done, withState, noteClosing,
      clearQueues, stopAckHoldoff, send]
  | sent other data =>
    have kept := (kept_sendData data c).closings
    simp [rejecting, Call.rejects, kept]
  | _ => simp [rejecting, Call.rejects, send]

theorem goes_called (noted : c.Noted link record) (config : NspConfig) :
    Goes c (called config record.call c) ∧ record.rejecting link = 0 ∨
      (called config record.call c).state = .cl ∧ (called config record.call c).txq = [] ∧
        record.rejecting link = 1 := by
  obtain ⟨closings, _⟩ := noted.counts config
  obtain ⟨c', same, outcome⟩ := called_outcome config record.call c
  rw [same] at closings ⊢
  generalize record.call = call at outcome
  cases outcome with
  | ignored | interrupted =>
    exact .inl ⟨.inl ⟨rfl, fun _ => id⟩, Nat.left_eq_add.mp closings⟩
  | unconfirmed _ _ _ waiting | accepted _ _ _ _ waiting =>
    refine .inl ⟨.inr ?_, Nat.left_eq_add.mp closings⟩
    exact ⟨by simp [waiting], by simp [send], by simp [send]⟩
  | rejected =>
    exact .inr ⟨rfl, rfl, (Nat.add_left_cancel closings).symm⟩
  | left _ _ _ alive =>
    exact .inl ⟨.inr ⟨alive, by simp, by simp⟩, Nat.left_eq_add.mp closings⟩
  | sent _ data running =>
    have kept := kept_sendData data c
    exact .inl ⟨.inl ⟨kept.state, fun idle => absurd running idle⟩,
      Nat.left_eq_add.mp (kept.closings.symm.trans closings)⟩

theorem Settled.called (settled : Settled rejections c) (noted : c.Noted link record) :
    (called config record.call c).Settled (rejections + record.rejecting link) := by
  obtain ⟨closings, terminals⟩ := noted.counts config
  rcases goes_called noted config with ⟨goes, none⟩ | ⟨state, txq, one⟩
  · rw [none] at closings ⊢
    exact settled.goes goes closings (called_events config record.call c)
  · have count := settled.count
    refine ⟨⟨terminals.trans_le settled.once, fun _ => state, fun _ => txq⟩, ?_, fun _ => ?_⟩
    · omega
    · omega

/-- A decided link with an empty queue stays so unless data is sent on it while
it runs. -/
theorem quiet_called (config : NspConfig) {call : Call} (target : call.target = some link)
    (silent : call.sends link = true → c.state ≠ .run) (decided : c.state ≠ .cr)
    (idle : c.txq = []) :
    (called config call c).state ≠ .cr ∧ (called config call c).txq = [] := by
  obtain ⟨c', same, outcome⟩ := called_outcome config call c
  rw [same]
  cases outcome with
  | ignored | interrupted => exact ⟨decided, idle⟩
  | unconfirmed _ _ _ waiting | accepted _ _ _ _ waiting =>
    exact absurd waiting decided
  | rejected => exact ⟨ConnState.noConfusion, rfl⟩
  | left => exact ⟨ConnState.noConfusion, idle⟩
  | sent other data running =>
    have same : other = link := by simpa [Call.target] using target
    exact absurd running (silent (by simp [Call.sends, same]))

def Telling (c : Connection) (rejections : Nat) : Upcall → Prop
  | .disconnected _ _ => c.Parting rejections
  | .connectRejected _ _ => c.Refused rejections
  | .connectConfirmed _ => c.Settled rejections ∧ c.terminals = 0
  | _ => c.Settled rejections

theorem Telling.called (telling : c.Telling rejections upcall)
    (noted : c.Noted link record) (silent : record.Silent)
    (inside : record.inside = some (link, upcall)) :
    (called config record.call c).Telling (rejections + record.rejecting link) upcall := by
  obtain ⟨closings, terminals⟩ := noted.counts config
  cases upcall with
  | disconnected reason data =>
    obtain ⟨decided, idle⟩ := quiet_called config noted.target (fun sends running => by
        have resting := silent link reason data inside sends
        simp [noted.running.mpr running] at resting)
      telling.decided telling.idle
    exact ⟨closings.trans (congrArg (· + _) telling.count),
      terminals.trans telling.once, decided, idle⟩
  | connectRejected =>
    exact ⟨closings.trans (congrArg (· + _) telling.count), terminals.trans telling.once⟩
  | connectConfirmed =>
    exact ⟨telling.1.called noted, terminals.trans telling.2⟩
  | connectReceived | dataReceived | interruptReceived | runState =>
    exact Settled.called telling noted

theorem Refused.close (refused : c.Refused rejections) (idle : c.txq = []) :
    (c.noteClosing.withState .cl).Settled rejections := by
  refine ⟨⟨refused.once.le, fun _ => rfl, fun _ => idle⟩, ?_, fun _ => Nat.succ_pos _⟩
  have once : (c.noteClosing.withState .cl).terminals = 1 := refused.once
  rw [once]
  exact congrArg (· + 1) refused.count

theorem Telling.finish (telling : c.Telling rejections upcall) :
    (upcall.finish c).Settled rejections := by
  cases upcall with
  | disconnected =>
    have refused : c.Refused rejections := ⟨telling.count, telling.once⟩
    exact refused.close telling.idle
  | connectRejected =>
    have cleared : c.clearQueues.Refused rejections := ⟨telling.count, telling.once⟩
    exact cleared.close rfl
  | connectConfirmed =>
    obtain ⟨settled, untold⟩ := telling
    refine ⟨⟨settled.once, ?_, ?_⟩, settled.count, nofun⟩
    · exact fun told => nomatch untold.symm.trans told
    · rintro (state | state) <;> cases state
  | connectReceived | dataReceived | interruptReceived | runState =>
    exact telling

end Connection

/-- Every link is settled when session control has not been told of its end,
and at most the closing is left to do when it has. -/
def settling (config : NspConfig) : Ledger (fun _ => .all) CallRecord.Silent False config 0 where
  own link log c := c.Settled (rejectedIn link log)
  told upcall link log c := c.Telling (rejectedIn link log) upcall
  outbound _ addr dest payload := by
    refine ⟨⟨Nat.zero_le _, nofun, ?_⟩, rfl, nofun⟩
    rintro (state | state) <;> cases state
  inbound _ addr src message := by
    have announced := announced_connectReceived config message
      (create config addr src)
    have terminals := terminals_congr announced.events
    refine Settled.note ⟨⟨?_, ?_, ?_⟩, ?_, ?_⟩ rfl
    · exact terminals.trans_le (Nat.zero_le 1)
    · exact fun told => nomatch terminals.symm.trans told
    · exact fun _ => announced.txq rfl
    · rw [announced.closings, terminals]
      rfl
    · simp [announced.state]
  op settled op := by
    obtain ⟨goes, closings, events⟩ := goes_op op
    exact settled.goes goes closings events
  call settled noted _ := by
    rw [rejectedIn_append]
    exact settled.called noted
  inside telling noted silent inside := by
    rw [rejectedIn_append]
    exact telling.called noted silent inside
  inform := by
    intro link upcall log c settled midway _
    cases upcall <;> first | exact settled.note rfl | cases midway
  confirmed := by
    intro link log c message settled opening
    have alive : c.state ≠ .cl := by
      rcases opening with state | state <;> simp [state]
    have steady := steady_confirm config message c
    have running : ((c.confirm config message).withState .run).Settled _ :=
      settled.goes (.inr (by simp [alive, withState])) steady.closings steady.events
    refine ⟨running.note rfl, ?_⟩
    rw [terminals_noteEvent]
    exact running.eq_zero (by simp [withState])
  refused := by
    intro link log c reason data settled opening
    have untold := settled.eq_zero (by rcases opening with state | state <;> simp [state])
    refine ⟨?_, ?_⟩
    · exact settled.count.trans (by rw [untold, Nat.add_zero])
    · rw [terminals_noteEvent, untold]
      rfl
  ended := by
    intro link log c prepare reason data settled expiry live
    have steady := steady_expiry expiry c
    have state := steady.state
    have ready := settled.goes steady.goes steady.closings steady.events
    have alive := settled.alive live
    have untold := ready.eq_zero (state ▸ alive.1)
    refine ⟨?_, ?_, ?_, rfl⟩
    · exact ready.count.trans (by rw [untold, Nat.add_zero])
    · rw [terminals_noteEvent]
      exact congrArg (· + 1) untold
    · exact fun waiting => alive.2 (state.symm.trans waiting)
  finished telling := telling.finish
  lapsed _ never := never.elim

namespace World

variable {τ : Type*} {sc : SessionControl τ}

def rejections (w : World τ) (link : Ptr) : Nat :=
  w.calls.countP (fun record => record.returned && record.call.rejects link)

theorem rejectedIn_log (w : World τ) (link : Ptr) :
    rejectedIn link (w.log 0 link) = w.rejections link := by
  rw [rejectedIn, log, List.countP_filter]
  refine List.countP_congr fun record _ => ?_
  cases record.call <;> simp [Call.rejects, Call.target]

section

variable (config : NspConfig) (ids : List Nat) (session : τ) (inputs : List (Input τ)) (link : Ptr)
  (present : link < (reach sc config ids session inputs).allocated)
  (punctual : Run.Guarded (step sc)
    (fun w input => ¬ w.connectExpires input) (start config ids session) inputs)
  (silent : CallsOk CallRecord.Silent (reach sc config ids session inputs))

include present punctual silent

theorem settled_reach :
    ((reach sc config ids session inputs).links link).Settled
      ((reach sc config ids session inputs).rejections link) := by
  rw [← rejectedIn_log]
  exact ((meets_start (settling config) ids session).run
    (punctual.mono fun _ _ never => ⟨attentive_all _ _, never⟩) silent).links link present

/-- In every run in which no connect timer runs out in state `cr` and session
control sends nothing on a running link while it is told that it is gone: each
link gets at most one terminal notification, and exactly one once it was closed
otherwise than by session control's own reject. -/
theorem one_terminal_notification :
    ((reach sc config ids session inputs).links link).terminals ≤ 1 ∧
      ((reach sc config ids session inputs).rejections link <
          ((reach sc config ids session inputs).links link).closings →
        ((reach sc config ids session inputs).links link).terminals = 1) ∧
      (((reach sc config ids session inputs).links link).state = .cl →
        (reach sc config ids session inputs).rejections link = 0 →
          ((reach sc config ids session inputs).links link).terminals = 1) := by
  have settled := settled_reach config ids session inputs link present punctual silent
  have count := settled.count
  have once := settled.once
  refine ⟨once, ?_, ?_⟩
  · intro more
    omega
  · intro closed unrejected
    have closings := settled.shut closed
    omega

end

/-- A connect from node 1.1, and a disconnect of the link it opens. -/
def connectFrom : Input Unit :=
  .deliver 1025 (.connInit ⟨0, 7, svcNone, 2, 500, []⟩)

def disconnectFrom : Input Unit :=
  .deliver 1025 (.discInit ⟨1, 7, 0, []⟩)

def accepting : SessionControl Unit :=
  .scripted fun link upcall =>
    match upcall with
    | .connectReceived _ => [.accept link [] svcNone]
    | _ => []

def smallNsp : NspConfig := ⟨1, 20, 1, 4, 60⟩

theorem one_terminal_notification_disconnect :
    ((reach accepting smallNsp [1] () [connectFrom, disconnectFrom]).links 0).terminals = 1 := by
  have punctual : Run.Guarded (step accepting)
      (fun w input => ¬ w.connectExpires input) (start smallNsp [1] ())
      [connectFrom, disconnectFrom] := by
    simp [connectFrom, disconnectFrom, connectExpires]
  have silent : CallsOk Silent (reach accepting smallNsp [1] () [connectFrom, disconnectFrom]) := by
    intro record member
    have accepts : record.call = .accept 0 [] svcNone := by
      revert record
      decide +kernel
    intro link reason data _ sends
    simp [accepts, Call.sends] at sends
  exact (one_terminal_notification smallNsp [1] ()
    [connectFrom, disconnectFrom] 0 (by decide +kernel) punctual silent).2.2
    (by decide +kernel) (by decide +kernel)

/-- Session control that accepts every connect and sends a last message when it
is told that a link is gone. -/
def sendingLate : SessionControl Unit :=
  .scripted fun link upcall =>
    match upcall with
    | .connectReceived _ => [.accept link [] svcNone]
    | .disconnected _ _ => [.sendData link [0]]
    | _ => []

/-- A link whose connect timer runs out is closed without a notification, and
one on which a message was sent too late gets two. -/
theorem terminal_notification_missing_or_doubled :
    InitIds smallNsp.maxconns [1] ∧ (((reach (.scripted fun _ _ => []) smallNsp [1] ()
          [connectFrom, .expire 0]).links 0).state = .cl ∧
        (reach (.scripted fun _ _ => []) smallNsp [1] ()
          [connectFrom, .expire 0]).rejections 0 = 0 ∧
        ((reach (.scripted fun _ _ => []) smallNsp [1] ()
          [connectFrom, .expire 0]).links 0).terminals = 0) ∧ ((reach sendingLate smallNsp [1] ()
        [connectFrom, .deliver 1025 (.ackData ⟨1, 7, none, none⟩),
          disconnectFrom, .expire 0, .expire 0]).links 0).terminals = 2 := by
  refine ⟨⟨fun _ => 0, fun _ => Nat.zero_le _, by decide⟩, ⟨?_, ?_, ?_⟩, ?_⟩
  · decide +kernel
  · decide +kernel
  · decide +kernel
  · decide +kernel

end World

end Decnet.Nsp
