import Decnet.Nsp.Turns

/-!
# The calls of session control

The calls that session control makes are recorded in the order in which they
are made.  A condition on every recorded call is the form in which a result
says what it expects of session control; this module says what each call does
to the links, and gives the induction rule for one notification.
-/

namespace Decnet.Nsp

open Connection Function

namespace World

open Relation

variable {τ : Type*} {sc : SessionControl τ}

def CallsOk (ok : CallRecord → Prop) (w : World τ) : Prop :=
  ∀ record ∈ w.calls, ok record

def logged (call : Call) (w : World τ) : World τ :=
  { w with calls := w.calls ++ [w.record call] }

def Reachable (call : Call) (w : World τ) : Prop :=
  ∀ link ∈ call.target, link < w.allocated

section

variable (call : Call)

section

variable (w : World τ)

@[simp] theorem logged_links : (w.logged call).links = w.links :=
  rfl

@[simp] theorem logged_byAddr : (w.logged call).byAddr = w.byAddr :=
  rfl

@[simp] theorem logged_freeIds : (w.logged call).freeIds = w.freeIds :=
  rfl

@[simp] theorem logged_config : (w.logged call).config = w.config :=
  rfl

@[simp] theorem logged_allocated : (w.logged call).allocated = w.allocated :=
  rfl

@[simp] theorem logged_inside : (w.logged call).inside = w.inside :=
  rfl

@[simp] theorem logged_calls : (w.logged call).calls = w.calls ++ [w.record call] :=
  rfl

end

end

variable {call : Call} {w w' : World τ} {link : Ptr} {ok : CallRecord → Prop}

theorem perform_of_reachable (reachable : Reachable call w) :
    w.perform call = (w.logged call).execute call :=
  if_pos reachable

theorem perform_of_not_reachable
    (unreachable : ¬ Reachable call w) : w.perform call = w :=
  if_neg unreachable

section

variable (w : World τ)

@[simp] theorem reject_calls (link : Ptr) (reason : Nat) (data : Bytes) :
    (w.reject link reason data).calls = w.calls := by
  simp only [reject]
  split
  · rfl
  · simp [setState, closeQuietly]

@[simp] theorem reject_inside (link : Ptr) (reason : Nat) (data : Bytes) :
    (w.reject link reason data).inside = w.inside := by
  simp only [reject]
  split
  · rfl
  · simp [setState, closeQuietly]

@[simp] theorem connect_calls (dest : Nodeid) (payload : Bytes) :
    (w.connect dest payload).2.calls = w.calls := by
  simp only [connect, getId]
  cases w.freeIds <;> rfl

@[simp] theorem connect_inside (dest : Nodeid) (payload : Bytes) :
    (w.connect dest payload).2.inside = w.inside := by
  simp only [connect, getId]
  cases w.freeIds <;> rfl

@[simp] theorem execute_calls (call : Call) : (w.execute call).calls = w.calls := by
  cases call <;> simp [execute]

@[simp] theorem execute_inside (call : Call) : (w.execute call).inside = w.inside := by
  cases call <;> simp [execute]

end

theorem getId_some {rest : World τ} {addr : Nat} (taken : w.getId = some (addr, rest)) :
    w.freeIds = addr :: rest.freeIds ∧ rest = { w with freeIds := rest.freeIds } := by
  cases ids : w.freeIds with
  | nil => simp [getId, ids] at taken
  | cons first others =>
    simp only [getId, ids] at taken
    obtain ⟨rfl, rfl⟩ := taken
    exact ⟨rfl, rfl⟩

def inbound (addr : Nat) (src : Nodeid) (message : ConnInit) (w : World τ) : World τ :=
  (w.newInbound addr src message.srcaddr).modify w.allocated
    (Connection.connectReceived w.config message)

/-! ## What a call does to the links -/

def called (config : NspConfig) (call : Call) (c : Connection) : Connection :=
  match call with
  | .connect _ _ => c
  | .accept _ data fcopt => c.accept config data fcopt
  | .reject _ reason data =>
    if rejectReturns data then
      (c.send (c.discInit reason data)).clearQueues.noteClosing.withState .cl
    else
      c
  | .disconnect _ reason data => c.disconnect reason data
  | .sendData _ data => c.sendData data
  | .sendInterrupt _ data => (c.sendInterrupt data).2

inductive Outcome (c : Connection) : Call → Connection → Prop where
  | ignored (call : Call) (spared : ∀ link reason data,
      call = .reject link reason data → rejectReturns data = false) : Outcome c call c
  | unconfirmed (link : Ptr) (data : Bytes) (fcopt : Nat) (waiting : c.state = .cr) :
      Outcome c (.accept link data fcopt) { c with state := .cc }
  | accepted (link : Ptr) (data : Bytes) (fcopt : Nat) (message : ConnConf)
      (waiting : c.state = .cr) :
      Outcome c (.accept link data fcopt) (Connection.send (.connConf message)
          { c with
            state := .cc
            txq := c.txq ++ [Connection.connectEntry ⟨.connConf message, 0, c.rcvd⟩ false]
            retries := 0
            timerIsRetransmit := true
            timer := true })
  | rejected (link : Ptr) (reason : Nat) (data : Bytes) (returns : rejectReturns data = true) :
      Outcome c (.reject link reason data)
        ((c.send (c.discInit reason data)).clearQueues.noteClosing.withState .cl)
  | left (link : Ptr) (reason : Nat) (data : Bytes) (alive : c.state ≠ .cl) :
      Outcome c (.disconnect link reason data)
        { c.send (c.discInit reason data) with
          state := .di, timerIsRetransmit := false, timer := true }
  | sent (link : Ptr) (data : Bytes) (running : c.state = .run) :
      Outcome c (.sendData link data) (c.sendData data)
  | interrupted (link : Ptr) (data : Bytes) (message : IntMsg)
      (entry : TxEntry) (running : c.state = .run) :
      Outcome c (.sendInterrupt link data)
        { c with
          intTxq := c.intTxq ++ [entry]
          outbox := c.outbox ++ [⟨.intMsg message, 0, c.rcvd⟩]
          intNextSend := c.intNextSend.succ
          intNextMsg := (c.intNextMsg + 1) % 2 ^ 32 }

theorem called_outcome (config : NspConfig) (call : Call) (c : Connection) :
    ∃ c', called config call c = c' ∧ Outcome c call c' := by
  refine ⟨_, rfl, ?_⟩
  cases call with
  | connect dest payload => exact .ignored _ nofun
  | accept link data fcopt =>
    simp only [called, accept]
    split
    · exact .ignored _ nofun
    · rename_i waiting
      have waiting := not_not.mp waiting
      split
      · exact .unconfirmed link data fcopt waiting
      · exact .accepted link data fcopt _ waiting
  | reject link reason data =>
    simp only [called]
    split
    · rename_i returns
      exact .rejected link reason data returns
    · rename_i returns
      refine .ignored _ ?_
      simpa using returns
  | disconnect link reason data =>
    simp only [called, disconnect]
    split
    · exact .ignored _ nofun
    · rename_i alive
      split
      · exact .ignored _ nofun
      · refine .left link reason data ?_
        simpa [isClosed] using alive
  | sendData link data =>
    by_cases running : c.state = .run
    · exact .sent link data running
    · rw [called, sendData_of_not_run data c running]
      exact .ignored _ nofun
  | sendInterrupt link data =>
    have spared : ∀ link' reason data', Call.sendInterrupt link data = .reject link' reason data' →
        rejectReturns data' = false := by
      rintro _ _ _ ⟨⟩
    simp only [called, sendInterrupt]
    split
    · exact .ignored _ spared
    · rename_i running
      have running : c.state = .run := by
        simpa [Connection.running] using running
      split
      · exact .ignored _ spared
      · split
        · exact .ignored _ spared
        · exact .interrupted link data _ _ running

theorem called_events (config : NspConfig) (call : Call) (c : Connection) :
    (called config call c).events = c.events := by
  obtain ⟨c', same, outcome⟩ := called_outcome config call c
  rw [same]
  cases outcome with
  | sent link data => exact (kept_sendData data c).events
  | _ => rfl

section

variable (w : World τ)

theorem reject_links (link : Ptr) (reason : Nat) (data : Bytes) :
    (w.reject link reason data).links = update w.links link
        (called w.config (.reject link reason data) (w.links link)) := by
  unfold reject called
  cases returns : rejectReturns data with
  | false => simp [returns]
  | true => simp [returns, setState, closeQuietly]

theorem reject_allocated (link : Ptr) (reason : Nat) (data : Bytes) :
    (w.reject link reason data).allocated = w.allocated := by
  unfold reject
  cases rejectReturns data with
  | false => rfl
  | true => simp [setState, closeQuietly]

theorem connect_links (dest : Nodeid) (payload : Bytes) :
    w.connect dest payload = (none, w) ∨
      ∃ addr, (w.connect dest payload).2.allocated = w.allocated + 1 ∧
        (w.connect dest payload).2.links = update w.links w.allocated
            ((create w.config addr dest).startOutbound w.config payload) := by
  unfold connect getId
  cases ids : w.freeIds with
  | nil => exact .inl rfl
  | cons addr rest =>
    exact .inr ⟨addr, rfl, by simp [newLink]⟩

theorem execute_allocated_le (call : Call) : w.allocated ≤ (w.execute call).allocated := by
  cases call with
  | connect dest payload =>
    simp only [execute, connect, getId]
    cases w.freeIds with
    | nil => exact le_rfl
    | cons addr rest => exact Nat.le_succ _
  | accept link data fcopt => exact le_rfl
  | reject link reason data =>
    exact (reject_allocated w link reason data).ge
  | disconnect | sendData | sendInterrupt => exact le_rfl

/-- A link that exists changes only by a call that is about it. -/
theorem execute_links (call : Call) (old : link < w.allocated) :
    (w.execute call).links link =
      if call.target = some link then
        called w.config call (w.links link)
      else
        w.links link := by
  have updated (target : Ptr) (change : Connection → Connection) :
      update w.links target (change (w.links target)) link =
        if some target = some link then
          change (w.links link)
        else
          w.links link := by
    by_cases same : link = target
    · subst same
      simp
    · simp [update_of_ne same, Ne.symm same]
  cases call with
  | connect dest payload =>
    rcases connect_links w dest payload with unchanged | ⟨addr, _, created⟩
    · simp [execute, unchanged, Call.target]
    · have different : link ≠ w.allocated := Nat.ne_of_lt old
      simp [execute, created, Call.target, update_of_ne different]
  | accept target data fcopt =>
    exact updated target (accept w.config data fcopt)
  | reject target reason data =>
    simp only [execute, reject_links]
    exact updated target (called w.config (.reject target reason data))
  | disconnect target reason data =>
    exact updated target (disconnect reason data)
  | sendData target data =>
    exact updated target (sendData data)
  | sendInterrupt target data =>
    exact updated target (fun c => (c.sendInterrupt data).2)

theorem execute_links_new (call : Call) (new : w.allocated ≤ link)
    (old : link < (w.execute call).allocated) :
    ∃ addr dest payload, (w.execute call).links link =
      (create w.config addr dest).startOutbound w.config payload := by
  cases call with
  | connect dest payload =>
    rcases connect_links w dest payload with unchanged | ⟨addr, grown, created⟩
    · simp only [execute, unchanged] at old
      exact absurd old (Nat.not_lt.mpr new)
    · have bound : link < w.allocated + 1 := lt_of_lt_of_eq old grown
      have same : link = w.allocated := Nat.le_antisymm (Nat.lt_succ_iff.mp bound) new
      subst same
      exact ⟨addr, dest, payload, by simp [execute, created]⟩
  | accept target data fcopt => exact absurd old (Nat.not_lt.mpr new)
  | reject target reason data =>
    simp only [execute, reject_allocated] at old
    exact absurd old (Nat.not_lt.mpr new)
  | disconnect | sendData | sendInterrupt =>
    exact absurd old (Nat.not_lt.mpr new)

theorem act_links (call : Call) (old : link < w.allocated) :
    ((w.logged call).execute call).links link =
      if call.target = some link then
        called w.config call (w.links link)
      else
        w.links link :=
  execute_links (w.logged call) call old

theorem act_links_new (call : Call) (new : w.allocated ≤ link)
    (old : link < ((w.logged call).execute call).allocated) :
    ∃ addr dest payload, ((w.logged call).execute call).links link =
      (create w.config addr dest).startOutbound w.config payload :=
  execute_links_new (w.logged call) call new old

theorem perform_calls (call : Call) : w.calls <+: (w.perform call).calls := by
  by_cases reachable : Reachable call w
  · rw [perform_of_reachable reachable]
    simp
  · simp only [perform_of_not_reachable reachable, List.prefix_refl]

end

theorem CallsOk.before (condition : CallsOk ok w') (earlier : w.calls <+: w'.calls) :
    CallsOk ok w :=
  fun record member => condition record (earlier.subset member)

/-- The state in which session control starts to handle a notification. -/
def entered (link : Ptr) (upcall : Upcall) (w : World τ) : World τ :=
  { w.modify link (Connection.noteEvent upcall) with
    inside := some (link, upcall) }

/-- What holds when a notification starts and is kept by every permitted call
holds when it is over. -/
theorem tell_invariant (kept : World τ → Prop) {upcall : Upcall}
    (condition : CallsOk ok (w.tell sc link upcall)) (begun : kept (w.entered link upcall))
    (think : ∀ w next, kept w → kept { w with session := next })
    (act : ∀ w call, kept w → w.inside = some (link, upcall) →
      Reachable call w → ok (w.record call) → kept ((w.logged call).execute call))
    (finish : ∀ w, kept w → kept { w with inside := none }) : kept (w.tell sc link upcall) := by
  have acted : ∀ w', ReflTransGen Acts (w.entered link upcall) w' →
      CallsOk ok w' → kept w' ∧ w'.inside = some (link, upcall) := by
    intro w' acts
    induction acts with
    | refl => exact fun _ => ⟨begun, rfl⟩
    | @tail middle final _ last ih =>
      intro permitted
      cases last with
      | think next =>
        obtain ⟨holds, inside⟩ := ih permitted
        exact ⟨think middle next holds, inside⟩
      | call call =>
        obtain ⟨holds, inside⟩ := ih (permitted.before (perform_calls middle call))
        by_cases reachable : Reachable call middle
        · rw [perform_of_reachable reachable] at permitted ⊢
          refine ⟨act middle call holds inside reachable ?_, ?_⟩
          · exact permitted _ (by simp)
          · simpa using inside
        · rw [perform_of_not_reachable reachable]
          exact ⟨holds, inside⟩
  exact finish _ (acted _ (sc.acts link upcall _) condition).1

theorem execute_config (w : World τ) (call : Call) : (w.execute call).config = w.config := by
  cases call with
  | connect dest payload =>
    simp only [execute, connect, getId]
    cases w.freeIds <;> rfl
  | accept link data fcopt => rfl
  | reject link reason data =>
    simp only [execute, reject]
    split
    · rfl
    · simp [setState, closeQuietly]
  | disconnect | sendData | sendInterrupt => rfl

/-! ## Requests are all or nothing -/

/-- A request that ends the opening of a link or the link itself. -/
inductive Request where
  | accept (data : Bytes) (fcopt : Nat)
  | reject (reason : Nat) (data : Bytes)
  | disconnect (reason : Nat) (data : Bytes)

def Request.on (link : Ptr) : Request → Call
  | .accept data fcopt => .accept link data fcopt
  | .reject reason data => .reject link reason data
  | .disconnect reason data => .disconnect link reason data

/-- All that a request does: its message is sent, the state changes, the queue
and the timer are set. -/
def Request.Done (config : NspConfig) (c c' : Connection) : Request → Prop
  | .accept data fcopt =>
    let frame : Frame := ⟨.connConf ⟨c.dstaddr, c.srcaddr, fcopt,
      config.nspVersion, mss, data⟩, 0, c.rcvd⟩
    c'.outbox = c.outbox ++ [frame] ∧ c'.state = .cc ∧
      c'.txq = c.txq ++ [Connection.connectEntry frame false] ∧
      c'.timerIsRetransmit = true ∧ c'.timer = true
  | .reject reason data =>
    c'.outbox = c.outbox ++ [⟨c.discInit reason data, 0, c.rcvd⟩] ∧
      c'.state = .cl ∧ c'.txq = [] ∧ c'.intTxq = [] ∧ c'.timer = false
  | .disconnect reason data =>
    c'.outbox = c.outbox ++ [⟨c.discInit reason data, 0, c.rcvd⟩] ∧
      c'.state = .di ∧ c'.timerIsRetransmit = false ∧ c'.timer = true

def Request.Moot (c : Connection) : Request → Prop
  | .accept _ _ => c.state ≠ .cr
  | .reject _ _ => False
  | .disconnect _ _ => c.state = .cl

/-- The request returns, and is done unless it is moot, or it throws and NSP
is as it was. -/
structure Request.Atomic (w : World τ) (link : Ptr) (request : Request) : Prop where
  returns : w.callReturns (request.on link) = true → request.Done w.config (w.links link)
        ((w.execute (request.on link)).links link) ∨
      request.Moot (w.links link) ∧ w.execute (request.on link) = w
  throws : w.callReturns (request.on link) = false → w.execute (request.on link) = w

/-- A request is all or nothing unless it accepts a waiting connect with a
confirm that cannot be encoded. -/
theorem request_atomic_iff (w : World τ) (link : Ptr) (request : Request) :
    request.Atomic w link ↔ ∀ data fcopt, request = .accept data fcopt →
        (w.links link).state = .cr → data.length ≤ maxImage ∧ fcopt < 4 := by
  cases request with
  | accept data fcopt =>
    have accepted : (w.execute (.accept link data fcopt)).links link =
        (w.links link).accept w.config data fcopt := by simp [execute]
    by_cases waiting : (w.links link).state = .cr
    · by_cases fits : data.length ≤ maxImage ∧ fcopt < 4
      · have encoded : w.callReturns (.accept link data fcopt) = true := by
          simp [callReturns, acceptReturns, fits]
        refine iff_of_true ⟨fun returns => .inl ?_, fun throws => ?_⟩ ?_
        · rw [Request.on, accepted]
          simp [Request.Done, accept, waiting, acceptReturns, fits, send]
        · exact absurd encoded (by simpa [Request.on] using throws)
        · rintro _ _ ⟨⟩ _
          exact fits
      · have thrown : (w.links link).acceptReturns data fcopt = false := by
          simp only [acceptReturns, waiting, ne_eq, not_true, false_or, fits, decide_false]
        refine iff_of_false ?_ fun all => fits (all data fcopt rfl waiting)
        -- The link has left the state in which it can be answered.
        intro atomic
        have state := congrArg (fun w => (w.links link).state) (atomic.throws thrown)
        rw [Request.on, accepted] at state
        simp [accept, waiting, thrown] at state
    · have moot : w.execute (.accept link data fcopt) = w := by
        simp [execute, modify, accept, waiting]
      refine iff_of_true ⟨fun _ => .inr ⟨waiting, moot⟩, fun _ => moot⟩ ?_
      rintro _ _ ⟨⟩ state
      exact absurd state waiting
  | reject reason data =>
    refine iff_of_true ⟨fun returns => .inl ?_, fun throws => ?_⟩ nofun
    · have encoded : rejectReturns data = true := returns
      rw [Request.on, execute, reject_links]
      simp [Request.Done, called, encoded, clearQueues, send, noteClosing, withState,
        stopAckHoldoff]
    · have thrown : rejectReturns data = false := throws
      simp [Request.on, execute, reject, thrown]
  | disconnect reason data =>
    refine iff_of_true ⟨fun returns => ?_, fun throws => ?_⟩ nofun
    · have encoded : (w.links link).disconnectReturns data = true := returns
      by_cases closed : (w.links link).state = .cl
      · refine .inr ⟨closed, ?_⟩
        simp [Request.on, execute, modify, disconnect, isClosed, closed]
      · left
        simp [Request.on, execute, Request.Done, disconnect, isClosed, closed, encoded, send]
    · have thrown : (w.links link).disconnectReturns data = false := throws
      simp [Request.on, execute, modify, disconnect, thrown]

/-- A connect accepted with seventeen bytes: the link waits for the far end to
answer a confirm that was neither sent nor queued, and cannot be accepted
again. -/
theorem long_accept_strands :
    let sc : SessionControl Unit := .scripted fun _ _ => []
    let w := reach sc ⟨1, 20, 1, 4, 60⟩ [1] ()
      [.deliver 1025 (.connInit ⟨0, 7, svcNone, 2, 500, []⟩)]
    let long : Call := .accept 0 (List.replicate 17 0) svcNone
    InitIds 1 [1] ∧ (w.links 0).state = .cr ∧ w.callReturns long = false ∧
      ((w.execute long).links 0).state = .cc ∧ ((w.execute long).links 0).txq = [] ∧
      ((w.execute long).links 0).outbox = (w.links 0).outbox ∧
      (((w.execute long).execute (.accept 0 [] svcNone)).links 0).outbox = (w.links 0).outbox := by
  refine ⟨⟨fun _ => 0, fun _ => Nat.zero_le _, by decide⟩, ?_⟩
  decide +kernel

end World

end Decnet.Nsp
