import Decnet.Datalink.Ptp

/-!
# Reopening a DDCMP circuit

When the receive thread of a datalink has exited, `PtpDatalink` either queues a
Start at once or arms its timer and queues the Start when the timer runs out.
The class `Ddcmp` gives the expiry of the same timer to its engine instead, so
that the second way is a dead end: the datalink stays in `reconnecting` until
its owner asks for something.
-/

namespace Decnet.Ptp

open Datalink

open Decnet.Ddcmp (Report)

namespace Datalink

variable {π ρ : Type*}

section Frames

variable (d : Datalink π ρ)

theorem report_frame (report : Report) :
    (d.report report).state = d.state ∧ (d.report report).thread = d.thread ∧
      (d.report report).queue = d.queue ∧ (d.report report).restartNow = d.restartNow ∧
      (d.report report).timer = d.timer := by
  unfold Datalink.report
  split
  · exact ⟨rfl, rfl, rfl, rfl, rfl⟩
  · exact ⟨rfl, rfl, rfl, rfl, rfl⟩

theorem call_frame (action : Inner π → Inner π) :
    (d.call action).state = d.state ∧ (d.call action).thread = d.thread ∧
      (d.call action).queue = d.queue ∧ (d.call action).restartNow = d.restartNow := by
  have reported (reports : List Report) (d : Datalink π ρ) :
      (reports.foldl (fun d entry => d.report entry) d).state = d.state ∧
        (reports.foldl (fun d entry => d.report entry) d).thread = d.thread ∧
        (reports.foldl (fun d entry => d.report entry) d).queue = d.queue ∧
        (reports.foldl (fun d entry => d.report entry) d).restartNow = d.restartNow := by
    induction reports generalizing d with
    | nil => exact ⟨rfl, rfl, rfl, rfl⟩
    | cons report reports ih =>
      obtain ⟨state, thread, queue, now, _⟩ := report_frame d report
      obtain ⟨state', thread', queue', now'⟩ := ih (d.report report)
      exact ⟨state'.trans state, thread'.trans thread, queue'.trans queue, now'.trans now⟩
  exact reported _ _

@[simp] theorem reportDown_state : d.reportDown.state = d.state :=
  (report_frame d .down).1

@[simp] theorem reportDown_thread : d.reportDown.thread = d.thread :=
  (report_frame d .down).2.1

@[simp] theorem reportDown_queue : d.reportDown.queue = d.queue :=
  (report_frame d .down).2.2.1

@[simp] theorem reportDown_restartNow : d.reportDown.restartNow = d.restartNow :=
  (report_frame d .down).2.2.2.1

@[simp] theorem call_state (action : Inner π → Inner π) : (d.call action).state = d.state :=
  (call_frame d action).1

@[simp] theorem call_thread (action : Inner π → Inner π) : (d.call action).thread = d.thread :=
  (call_frame d action).2.1

@[simp] theorem call_queue (action : Inner π → Inner π) : (d.call action).queue = d.queue :=
  (call_frame d action).2.2.1

end Frames

/-- The circuit waits for nothing that would reopen it: no thread is there to
exit, no Start or Reconnect is queued, and the timer that runs queues none when
it runs out. -/
structure Stuck (kind : Kind π ρ) (d : Datalink π ρ) : Prop where
  state : d.state = .reconnecting
  thread : d.thread = .absent
  queue : ∀ item ∈ d.queue, item ≠ .start ∧ ∀ now, item ≠ .reconnect now
  timer : d.timer.isSome = true
  expiry : (d.timeout kind).state ≠ .s0 ∨ .start ∉ (d.timeout kind).queue

/-! ## Runs without a holdoff -/

/-- While the datalink is reconnecting its thread is there, and the exit of a
thread that is over is queued. -/
structure Retrying (d : Datalink π ρ) : Prop where
  waiting : d.state = .reconnecting → d.thread ≠ .absent
  exiting : d.thread = .exited → .threadExit ∈ d.queue

/-- The datalink retries at once: it handles the exit of its thread when it has
been told so, and a request without a thread only if it says so. -/
def PromptItem (d : Datalink π ρ) : Item ρ → Prop
  | .threadExit => d.state = .shutdown ∨ d.restartNow = true
  | .reconnect now => now = true ∨ d.thread ≠ .absent
  | _ => True

def Prompt (d : Datalink π ρ) : Input ρ → Prop
  | .dispatch _ => ∀ item ∈ d.queue.head?, d.PromptItem item
  | _ => True

instance (d : Datalink π ρ) : DecidablePred d.PromptItem := by
  intro item
  cases item <;> unfold PromptItem <;> infer_instance

instance (d : Datalink π ρ) : DecidablePred d.Prompt := by
  intro input
  cases input <;> unfold Prompt <;> infer_instance

variable {d : Datalink π ρ}


/-! ### What an item does to the state, the thread and the queue -/

variable {d' : Datalink π ρ}

theorem handleStop_frame (d : Datalink π ρ) :
    d.handleStop.2.queue = d.queue ∧ d.handleStop.2.thread = d.thread ∧
      d.handleStop.1 = if d.thread = .absent then .s0 else .shutdown := by
  simp only [handleStop, joinable, stopThread]
  by_cases absent : d.thread = .absent <;> simp

theorem startThread_frame (d : Datalink π ρ) :
    d.startThread.queue = d.queue ∧ (d.startThread.thread = d.thread ∨
        d.thread = .absent ∧ d.startThread.thread = .trying) := by
  unfold startThread
  split
  · exact ⟨rfl, .inl rfl⟩
  case isFalse gone => exact ⟨rfl, .inr ⟨by simpa [joinable] using gone, rfl⟩⟩

/-- The datalink goes on to reconnect, or queues a Start at once.  If it is
prompt it reconnects only while its thread is there. -/
inductive Reopens (prompt : Bool) (d d' : Datalink π ρ) : Prop where
  | goesOn (state : d'.state = .reconnecting ∨ d'.state = .running)
      (waits : prompt = true → d'.state = .reconnecting → d'.thread ≠ .absent)
      (queue : d'.queue = d.queue)
  | opens (state : d'.state = .s0) (queue : d'.queue = d.queue ++ [.start])

theorem reopens_retry (state : d.state = .reconnecting) :
    Reopens d.restartNow d (setState d.retry) ∧ (setState d.retry).thread = d.thread := by
  unfold retry
  split
  · exact ⟨.opens rfl rfl, rfl⟩
  case isFalse later =>
    exact ⟨.goesOn (.inl state) (fun now => absurd now later) rfl, rfl⟩

theorem reopens_handleReconnect (now : Bool) (d : Datalink π ρ) :
    Reopens (now || d.joinable) d (setState (d.handleReconnect now)) ∧
      (setState (d.handleReconnect now)).thread = d.thread := by
  obtain ⟨queue, thread, -⟩ := d.handleStop_frame
  have same : { d.handleStop.2 with restartNow := now }.joinable = d.joinable := by
    simp [joinable, thread]
  unfold handleReconnect
  dsimp only
  split
  case isTrue present =>
    have there : d.handleStop.2.thread ≠ .absent := of_decide_eq_true present
    exact ⟨.goesOn (.inl rfl) (fun _ _ => there) queue, thread⟩
  case isFalse gone =>
    have absent : d.joinable = false := by
      rw [← same]
      exact Bool.eq_false_iff.mpr gone
    obtain ⟨reopens, kept⟩ := reopens_retry
      (d := { d.handleStop.2 with restartNow := now }.withState .reconnecting) rfl
    refine ⟨?_, kept.trans thread⟩
    rw [absent, Bool.or_false]
    cases reopens with
    | goesOn state waits same =>
      exact .goesOn state waits (same.trans queue)
    | opens state more =>
      exact .opens state (more.trans (congrArg (· ++ _) queue))

theorem reopens_restart (kind : Kind π ρ) (d : Datalink π ρ) :
    Reopens true d (d.dispatch kind .restart) ∧ (d.dispatch kind .restart).thread = d.thread := by
  have base (same : d.dispatch kind .restart = setState (d.handleReconnect true)) :
      Reopens true d (d.dispatch kind .restart) ∧ (d.dispatch kind .restart).thread = d.thread := by
    rw [same]
    exact reopens_handleReconnect true d
  cases own : kind.restart with
  | none => exact base (by simp [dispatch, validateKind, own, validate])
  | some action =>
    by_cases running : d.state = .running
    · have protocol : d.dispatch kind .restart = d.call action := by
        simp [dispatch, validateKind, own, running]
      have still : (d.call action).state = .running := (call_state d action).trans running
      rw [protocol]
      refine ⟨.goesOn (.inr still) ?_ (call_queue d action), call_thread d action⟩
      rw [still]
      exact fun _ => nofun
    · exact base (by simp [dispatch, validateKind, own, running, validate])

/-- An item that is neither a request nor the exit of the thread. -/
inductive Passes (d d' : Datalink π ρ) : Prop where
  | stays (state : d'.state = d.state) (queue : d'.queue = d.queue)
  | runs (before : d.state = .connecting) (state : d'.state = .running) (queue : d'.queue = d.queue)
  | asks (before : d.state = .connecting) (state : d'.state = .connecting)
      (queue : d'.queue = d.queue ++ [.reconnect true])
  | opens (before : d.state = .reconnecting) (state : d'.state = .s0)
      (queue : d'.queue = d.queue ++ [.start])

theorem passes_call (d : Datalink π ρ) (action : Inner π → Inner π) :
    Passes d (d.call action) ∧ (d.call action).thread = d.thread :=
  ⟨.stays (call_state d action) (call_queue d action), call_thread d action⟩

theorem passes_stateFunction (kind : Kind π ρ) {item : Item ρ}
    (other : item.isRequest = false ∧ item ≠ .threadExit) (d : Datalink π ρ) :
    Passes d (setState (d.stateFunction kind item)) ∧
      (setState (d.stateFunction kind item)).thread = d.thread := by
  unfold stateFunction
  cases state : d.state with
  | s0 | shutdown =>
    cases item with
    | start => cases other.1
    | threadExit => exact absurd rfl other.2
    | _ => exact ⟨.stays rfl rfl, rfl⟩
  | connecting =>
    cases item with
    | connected =>
      exact ⟨.runs state rfl (call_queue d kind.connected), call_thread d kind.connected⟩
    | timeout => exact ⟨.asks state state rfl, rfl⟩
    | _ => exact ⟨.stays rfl rfl, rfl⟩
  | running =>
    cases item with
    | received packet => exact passes_call d (kind.running packet)
    | _ => exact ⟨.stays rfl rfl, rfl⟩
  | reconnecting =>
    cases item with
    | timeout => exact ⟨.opens state rfl rfl, rfl⟩
    | threadExit => exact absurd rfl other.2
    | reconnect => cases other.1
    | _ => exact ⟨.stays rfl rfl, rfl⟩

def joined (d : Datalink π ρ) : Datalink π ρ :=
  (if d.state = .shutdown then d else d.withState .reconnecting).joinThread.reportDown

theorem joined_frame (d : Datalink π ρ) :
    d.joined.thread = .absent ∧ d.joined.restartNow = d.restartNow ∧
      d.joined.queue = d.queue ∧ d.joined.state =
        if d.state = .shutdown then .shutdown else .reconnecting := by
  simp only [joined, reportDown_thread, reportDown_restartNow, reportDown_queue, reportDown_state]
  split
  case isTrue shutdown => exact ⟨rfl, rfl, rfl, shutdown⟩
  case isFalse => exact ⟨rfl, rfl, rfl, rfl⟩

/-- What the node's thread does with an item. -/
inductive Handled (d : Datalink π ρ) : Item ρ → Datalink π ρ → Prop where
  | start {d' : Datalink π ρ} (state : d'.state = if d.state = .s0 then .connecting else d.state)
      (thread : d'.thread = d.thread ∨ d.thread = .absent ∧ d'.thread = .trying)
      (queue : d'.queue = d.queue) : Handled d .start d'
  | stop {d' : Datalink π ρ} (state : d'.state = if d.thread = .absent then .s0 else .shutdown)
      (thread : d'.thread = d.thread) (queue : d'.queue = d.queue) : Handled d .stop d'
  | reconnect {d' : Datalink π ρ} (now : Bool) (reopens : Reopens (now || d.joinable) d d')
      (thread : d'.thread = d.thread) : Handled d (.reconnect now) d'
  | restart {d' : Datalink π ρ} (reopens : Reopens true d d')
      (thread : d'.thread = d.thread) : Handled d .restart d'
  | finished {d' : Datalink π ρ} (shutdown : d.state = .shutdown)
      (state : d'.state = .s0) (thread : d'.thread = .absent)
      (queue : d'.queue = d.queue) : Handled d .threadExit d'
  | exited {d' : Datalink π ρ} (awake : d.state ≠ .shutdown)
      (reopens : Reopens d.restartNow d d') (thread : d'.thread = .absent) :
      Handled d .threadExit d'
  | passes {d' : Datalink π ρ} (item : Item ρ) (other : item.isRequest = false ∧ item ≠ .threadExit)
      (passes : Passes d d') (thread : d'.thread = d.thread) : Handled d item d'

section

variable (kind : Kind π ρ) (d : Datalink π ρ)

theorem handled_start : Handled d .start (d.dispatch kind .start) := by
  change Handled d .start (setState (d.stateFunction kind .start))
  unfold stateFunction
  cases state : d.state with
  | s0 =>
    refine .start ?_ d.startThread_frame.2 d.startThread_frame.1
    rw [state]
    rfl
  | connecting | running | reconnecting | shutdown =>
    refine .start ?_ (.inl rfl) rfl
    rw [state]
    exact state

theorem handled_threadExit : Handled d .threadExit (d.dispatch kind .threadExit) := by
  obtain ⟨thread, now, queue, state⟩ := d.joined_frame
  change Handled d .threadExit (setState (d.joined.stateFunction kind .threadExit))
  unfold stateFunction
  by_cases shutdown : d.state = .shutdown
  · rw [if_pos shutdown] at state
    rw [state]
    exact .finished shutdown rfl ((reportDown_thread _).trans thread)
      ((reportDown_queue _).trans queue)
  · rw [if_neg shutdown] at state
    rw [state]
    obtain ⟨reopens, same⟩ := reopens_retry state
    rw [now] at reopens
    refine .exited shutdown ?_ (same.trans thread)
    cases reopens with
    | goesOn state waits same => exact .goesOn state waits (same.trans queue)
    | opens state more =>
      exact .opens state (more.trans (congrArg (· ++ _) queue))

theorem handled_timeout : Handled d .timeout (d.timeout kind) := by
  have seen : Passes d (d.timeout kind) ∧ (d.timeout kind).thread = d.thread := by
    unfold timeout
    split
    case h_1 =>
      have other : (Item.timeout : Item ρ).isRequest = false ∧
          (Item.timeout : Item ρ) ≠ .threadExit := ⟨rfl, nofun⟩
      exact passes_stateFunction kind other d
    case h_2 action _ => exact passes_call d action
  exact .passes .timeout ⟨rfl, nofun⟩ seen.1 seen.2

end

theorem handled_work (kind : Kind π ρ) (stale : Bool) {item : Item ρ}
    {rest : List (Item ρ)} (queue : d.queue = item :: rest) :
    Handled { d with queue := rest } item (d.work kind stale) := by
  have seen (item : Item ρ) (other : item.isRequest = false ∧
      item ≠ .threadExit) : Handled { d with queue := rest } item
        (setState ({ d with queue := rest }.stateFunction kind item)) :=
    have passed := passes_stateFunction kind other { d with queue := rest }
    .passes item other passed.1 passed.2
  unfold work
  rw [queue]
  cases item with
  | start => exact handled_start kind _
  | stop =>
    obtain ⟨same, thread, state⟩ := handleStop_frame { d with queue := rest }
    exact .stop state thread same
  | reconnect now =>
    obtain ⟨reopens, thread⟩ := reopens_handleReconnect now { d with queue := rest }
    exact .reconnect now reopens thread
  | restart =>
    obtain ⟨reopens, thread⟩ := reopens_restart kind { d with queue := rest }
    exact .restart reopens thread
  | connected => exact seen .connected ⟨rfl, nofun⟩
  | received packet => exact seen (.received packet) ⟨rfl, nofun⟩
  | threadExit => exact handled_threadExit kind _
  | timeout =>
    dsimp only
    split
    · exact .passes .timeout ⟨rfl, nofun⟩ (.stays rfl rfl) rfl
    · exact handled_timeout kind _

theorem Retrying.mono (retrying : Retrying d)
    (state : d'.state = .reconnecting → d.state = .reconnecting) (thread : d'.thread = d.thread)
    (queue : ∀ item ∈ d.queue, item ∈ d'.queue) : Retrying d' where
  waiting reconnecting := thread ▸ retrying.waiting (state reconnecting)
  exiting exited := queue _ (retrying.exiting (thread ▸ exited))

theorem Retrying.addWork (retrying : Retrying d) (item : Item ρ) : Retrying (d.addWork item) :=
  retrying.mono id rfl (fun _ member => List.mem_append_left _ member)

theorem Reopens.retrying (reopens : Reopens true d d')
    (exiting : d'.thread = .exited → .threadExit ∈ d.queue) : Retrying d' := by
  cases reopens with
  | goesOn state waits same => exact ⟨waits rfl, same ▸ exiting⟩
  | opens state more =>
    refine ⟨fun reconnecting => ?_, fun exited => ?_⟩
    · rw [state] at reconnecting
      cases reconnecting
    · rw [more]
      exact List.mem_append_left _ (exiting exited)

theorem Passes.retrying (passes : Passes d d') (thread : d'.thread = d.thread)
    (retrying : Retrying d) : Retrying d' := by
  have settled {state : LinkState} (now : d'.state = state)
      (other : state ≠ .reconnecting) (reconnecting : d'.state = .reconnecting) :
      d.state = .reconnecting := absurd (now.symm.trans reconnecting) other
  cases passes with
  | stays state queue => exact retrying.mono (state ▸ id) thread (by simp [queue])
  | runs _ state queue =>
    exact retrying.mono (settled state nofun) thread (by simp [queue])
  | asks _ state queue | opens _ state queue =>
    exact retrying.mono (settled state nofun) thread
      fun _ member => queue ▸ List.mem_append_left _ member

theorem Handled.retrying {item : Item ρ} (handled : Handled d item d')
    (waiting : d.state = .reconnecting → d.thread ≠ .absent)
    (exiting : item ≠ .threadExit → d.thread = .exited → .threadExit ∈ d.queue)
    (prompt : d.PromptItem item) : Retrying d' := by
  cases handled with
  | start state thread queue =>
    rcases thread with same | ⟨absent, trying⟩
    · refine Retrying.mono ⟨waiting, exiting nofun⟩ ?_ same (by simp [queue])
      rw [state]
      split
      · exact nofun
      · exact id
    · refine ⟨fun _ => ?_, fun exited => ?_⟩
      · rw [trying]
        exact nofun
      · cases trying.symm.trans exited
  | stop state thread queue =>
    refine Retrying.mono ⟨waiting, exiting nofun⟩ ?_ thread (by simp [queue])
    rw [state]
    split <;> exact nofun
  | reconnect now reopens thread =>
    have asked : (now || d.joinable) = true := by
      simpa [joinable, PromptItem] using prompt
    rw [asked] at reopens
    exact reopens.retrying fun exited => exiting nofun (thread ▸ exited)
  | restart reopens thread =>
    exact reopens.retrying fun exited => exiting nofun (thread ▸ exited)
  | finished shutdown state thread queue =>
    refine ⟨fun reconnecting => ?_, fun exited => ?_⟩
    · cases state.symm.trans reconnecting
    · cases thread.symm.trans exited
  | exited awake reopens thread =>
    have now : d.restartNow = true := prompt.resolve_left awake
    rw [now] at reopens
    exact reopens.retrying fun exited => nomatch thread.symm.trans exited
  | passes _ other passes thread =>
    exact passes.retrying thread ⟨waiting, exiting other.2⟩

theorem Retrying.work (retrying : Retrying d)
    (kind : Kind π ρ) (stale : Bool) (prompt : Prompt d (.dispatch stale)) :
    Retrying (d.work kind stale) := by
  cases queue : d.queue with
  | nil =>
    simp only [Datalink.work, queue]
    exact retrying
  | cons item rest =>
    have first : d.PromptItem item := by
      apply prompt
      rw [queue]
      rfl
    refine (handled_work kind stale queue).retrying retrying.waiting ?_ ?_
    · intro other exited
      have queued := retrying.exiting exited
      rw [queue] at queued
      exact (List.mem_cons.mp queued).resolve_left (Ne.symm other)
    · cases item <;> exact first

theorem retrying_step (kind : Kind π ρ) (d : Datalink π ρ) (input : Input ρ)
    (retrying : Retrying d) (prompt : Prompt d input) : Retrying (d.step kind input) := by
  cases input with
  | request item =>
    simp only [step]
    split
    · exact retrying.addWork item
    · exact retrying
  | send payload =>
    obtain ⟨passes, thread⟩ := passes_call d (kind.send payload)
    exact passes.retrying thread retrying
  | threadConnects =>
    simp only [step, threadConnects]
    split
    · exact ⟨fun _ thread => (by cases thread), fun exited => (by cases exited)⟩
    · exact retrying
  | threadReceives packet =>
    simp only [step, threadReceives]
    split
    · exact retrying.addWork _
    · exact retrying
  | threadExits =>
    simp only [step, threadExits]
    split
    · refine ⟨fun _ thread => (by cases thread), fun _ => ?_⟩
      exact List.mem_append_right _ (List.mem_singleton_self _)
    · exact retrying
  | expire =>
    simp only [step]
    split
    · exact retrying.mono id rfl (fun _ member => List.mem_append_left _ member)
    · exact retrying
  | dispatch stale => exact retrying.work kind stale prompt

end Datalink

open Datalink

/-- In every run of a DDCMP circuit in which the exit of the thread is handled
only after a request to retry at once, and no other request to reconnect is
handled without a thread: the circuit is never stuck, and while it is
reconnecting its thread is still there or has its exit queued. -/
theorem ddcmp_never_stuck (inputs : List (Input DdcmpPacket))
    (prompt : Run.Guarded (step ddcmp) Prompt newDdcmp inputs) :
    ¬ Stuck ddcmp (inputs.foldl (step ddcmp) newDdcmp) ∧
      ((inputs.foldl (step ddcmp) newDdcmp).state = .reconnecting →
        (inputs.foldl (step ddcmp) newDdcmp).thread = .trying ∨
          (inputs.foldl (step ddcmp) newDdcmp).thread = .receiving ∨
          .threadExit ∈ (inputs.foldl (step ddcmp) newDdcmp).queue) := by
  have begun : Retrying newDdcmp :=
    ⟨fun reconnecting => (by cases reconnecting), fun exited => (by cases exited)⟩
  have retrying : Retrying (inputs.foldl (step ddcmp) newDdcmp) :=
    prompt.invariant (retrying_step ddcmp) begun
  constructor
  · intro stuck
    exact retrying.waiting stuck.state stuck.thread
  · intro reconnecting
    have present := retrying.waiting reconnecting
    cases thread : (inputs.foldl (step ddcmp) newDdcmp).thread with
    | absent => exact absurd thread present
    | trying => exact .inl rfl
    | receiving => exact .inr (.inl rfl)
    | exited => exact .inr (.inr (retrying.exiting thread))

/-- A circuit whose owner asks for a restart while it connects. -/
def restartedEarly : List (Input DdcmpPacket) :=
  [.request .start, .dispatch false, .request .restart, .dispatch false, .threadExits]

theorem ddcmp_never_stuck_restarted :
    (restartedEarly.foldl (step ddcmp) newDdcmp).state = .reconnecting ∧
      ¬ Stuck ddcmp (restartedEarly.foldl (step ddcmp) newDdcmp) :=
  ⟨by decide +kernel, (ddcmp_never_stuck restartedEarly (by decide +kernel)).1⟩

/-- A circuit that cannot connect, until its thread has exited. -/
def connectFails : List (Input DdcmpPacket) :=
  [.request .start, .dispatch false, .threadExits, .dispatch false]

/-- The same circuit when its holdoff is over. -/
def holdoffOver : List (Input DdcmpPacket) :=
  connectFails ++ [.expire, .dispatch false]

/-- The first failure to connect leaves the circuit stuck: when the holdoff is
over it is still reconnecting, with nothing queued, no thread and no timer. -/
theorem ddcmp_stuck_after_failure :
    Stuck ddcmp (connectFails.foldl (step ddcmp) newDdcmp) ∧
      (holdoffOver.foldl (step ddcmp) newDdcmp).state = .reconnecting ∧
      (holdoffOver.foldl (step ddcmp) newDdcmp).thread = .absent ∧
      (holdoffOver.foldl (step ddcmp) newDdcmp).timer = none ∧
      (holdoffOver.foldl (step ddcmp) newDdcmp).queue = [] := by
  refine ⟨⟨?_, ?_, ?_, ?_, .inl ?_⟩, ?_, ?_, ?_, ?_⟩
  · decide +kernel
  · decide +kernel
  · decide +kernel
  · decide +kernel
  · decide +kernel
  · decide +kernel
  · decide +kernel
  · decide +kernel
  · decide +kernel

end Decnet.Ptp
