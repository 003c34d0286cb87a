import Decnet.Nsp.LinkSteps

/-!
# What a step of NSP can do to a link

Whatever a packet or a timer of a link does is a sequence of turns: the link is
replaced by one with the same past, session control is told something about it,
or it is closed.  A statement about the world that does not depend on the order
in which NSP does things is proved once for each turn.
-/

namespace Decnet.Nsp

open Relation Connection

namespace Connection

/-- A change after which the link is still the same: it learns the address of
its far end only while it is being opened, and is not opened again. -/
structure Passes (learns : Nat → Prop) (c c' : Connection) : Prop where
  srcaddr : c'.srcaddr = c.srcaddr
  dest : c'.dest = c.dest
  events : c'.events = c.events
  closings : c'.closings = c.closings
  opening : c'.state = .ci ∨ c'.state = .cd → c.state = .ci ∨ c.state = .cd
  dstaddr : c'.dstaddr = c.dstaddr ∨ (c.state = .ci ∨ c.state = .cd) ∧ learns c'.dstaddr

variable {c c' : Connection} {learns : Nat → Prop} {heeds : Heeds}

theorem Kept.passes (kept : Kept c c') (dstaddr : c'.dstaddr = c.dstaddr ∨
      (c.state = .ci ∨ c.state = .cd) ∧ learns c'.dstaddr) : Passes learns c c' :=
  ⟨kept.srcaddr, kept.dest, kept.events, kept.closings, fun state => kept.state ▸ state, dstaddr⟩

theorem Passes.refl (c : Connection) : Passes learns c c :=
  (Kept.refl c).passes (.inl rfl)

theorem Passes.restate (passes : Passes learns c c') {state : ConnState}
    (onward : state ≠ .ci ∧ state ≠ .cd) : Passes learns c (c'.withState state) :=
  { passes with
    opening := by
      rintro (opening | opening)
      · exact absurd opening onward.1
      · exact absurd opening onward.2 }

theorem Passes.clearQueues (passes : Passes learns c c') : Passes learns c c'.clearQueues :=
  { passes with }

theorem Sends.dstaddr (sends : Sends c c') : c'.dstaddr = c.dstaddr := by
  obtain ⟨half, rfl, _⟩ := sends
  rfl

/-- Only a link that is being opened learns the address of its far end. -/
theorem dstaddr_op (op : Op heeds c c') :
    c'.dstaddr = c.dstaddr ∨ (c.state = .ci ∨ c.state = .cd) ∧ heeds.learns c'.dstaddr := by
  cases does_op op with
  | routeAck ack onData _ => exact .inl (sends_routeAck ack onData c).dstaddr
  | applyCredit message =>
    obtain ⟨granted, sends⟩ := sends_applyCredit message c
    exact .inl sends.dstaddr
  | confirmReject message opening learned => exact .inr ⟨opening, learned⟩
  | connectAcked | accepted =>
    exact .inl (sends_processAck (Mod.wrap 0) c).dstaddr
  | receives | stopTimer | resend => exact .inl rfl

theorem dstaddr_queueSegments (ps : List Piece) (c : Connection) :
    (ps.foldl queueSegment c).dstaddr = c.dstaddr := by
  induction ps generalizing c with
  | nil => rfl
  | cons piece ps ih => exact (ih _).trans rfl

theorem dstaddr_sendData (data : Bytes) (c : Connection) :
    (c.sendData data).dstaddr = c.dstaddr := by
  unfold sendData
  split
  · rfl
  · rw [sendSegments, (sends_sendBlocked _).dstaddr, dstaddr_queueSegments]

theorem dstaddr_confirm (config : NspConfig) (message : ConnConf)
    (c : Connection) : (c.confirm config message).dstaddr = message.srcaddr := by
  have answered (c : Connection) : c.sendAck.dstaddr = c.dstaddr := rfl
  unfold confirm
  dsimp only
  split
  · rw [answered, (sends_processAck _ _).dstaddr]
    rfl
  · rw [(sends_processAck _ _).dstaddr]
    rfl

theorem steady_op (op : Op heeds c c') :
    c.Steady c' ∨ (c.state = .ci ∧ c.Steady c.connectAcked ∧ c' = c.connectAcked.withState .cd) ∨
      (c.state = .cc ∧ c.Steady (c.processAck (Mod.wrap 0)) ∧
        c' = (c.processAck (Mod.wrap 0)).withState .run) := by
  cases does_op op with
  | receives => exact .inl ⟨⟨rfl, rfl, rfl, rfl, rfl⟩, id⟩
  | routeAck ack onData _ => exact .inl (sends_routeAck ack onData c).steady
  | applyCredit message => exact .inl (steady_applyCredit message c)
  | confirmReject message _ _ => exact .inl (steady_confirmReject message c)
  | connectAcked opening =>
    exact .inr (.inl ⟨opening, steady_connectAcked c, rfl⟩)
  | accepted confirming =>
    exact .inr (.inr ⟨confirming, (sends_processAck _ c).steady, rfl⟩)
  | stopTimer => exact .inl (steady_stopTimer c)
  | resend retries =>
    exact .inl (((steady_stopTimer c).trans
      (steady_setRetries retries _)).trans (sends_resend _).steady)

theorem steady_expiry {prepare : Connection → Connection}
    (expiry : Expiry prepare) (c : Connection) : c.Steady (prepare c) := by
  cases expiry with
  | none => exact .refl c
  | expired => exact steady_stopTimer c
  | exhausted retries =>
    exact (steady_stopTimer c).trans (steady_setRetries retries _)

theorem passes_op (op : Op heeds c c') : Passes heeds.learns c c' := by
  have dstaddr := dstaddr_op op
  rcases steady_op op with steady | ⟨opening, steady, rfl⟩ | ⟨_, steady, rfl⟩
  · exact steady.toKept.passes dstaddr
  · exact { steady.toKept.passes dstaddr with opening := fun _ => .inl opening }
  · exact (steady.toKept.passes dstaddr).restate (by simp)

theorem passes_confirm (config : NspConfig) {message : ConnConf}
    (opening : c.state = .ci ∨ c.state = .cd) (learned : learns message.srcaddr) :
    Passes learns c (c.confirm config message) :=
  (steady_confirm config message c).toKept.passes
    (.inr ⟨opening, dstaddr_confirm config message c ▸ learned⟩)

theorem passes_expiry {prepare : Connection → Connection}
    (expiry : Expiry prepare) (c : Connection) : Passes learns c (prepare c) :=
  (steady_expiry expiry c).toKept.passes (by cases expiry <;> exact .inl rfl)

end Connection

namespace World

variable {τ : Type*} (sc : SessionControl τ)

def connectExpires (w : World τ) : Input τ → Prop
  | .expire link =>
    (w.links link).timer = true ∧ (w.links link).state = .cr ∧
      (w.links link).timerIsRetransmit = false
  | _ => False

def actsOutside : Input τ → Prop
  | .act _ => True
  | .think _ => True
  | _ => False

inductive Turn (learns : Nat → Prop) (link : Ptr) : World τ → World τ → Prop where
  | put (w : World τ) (c : Connection) (passes : (w.links link).Passes learns c) :
      Turn learns link w (w.put link c)
  | tell (w : World τ) (upcall : Upcall) (later : ∀ payload, upcall ≠ .connectReceived payload) :
      Turn learns link w (w.tell sc link upcall)
  | close (w : World τ) : Turn learns link w ((w.closeConnection link).setState link .cl)

abbrev Turns (learns : Nat → Prop) (link : Ptr) : World τ → World τ → Prop :=
  ReflTransGen (Turn sc learns link)

variable {sc} {learns : Nat → Prop} {heeds : Heeds} {lapses : Prop} {link : Ptr} {w w' : World τ}

theorem reject_eq {reason : Nat} {data : Bytes} (returns : rejectReturns data = true) :
    w.reject link reason data = ((w.put link ((w.links link).send
        ((w.links link).discInit reason data)).clearQueues).closeConnection
          link).setState link .cl := by
  simp [reject, returns, closeQuietly, modify_eq_put]

theorem turn_running (w : World τ) : Turn sc learns link w (w.setState link .run) :=
  .put w _ ((Passes.refl _).restate (by simp))

theorem turn_cleared (w : World τ) : Turn sc learns link w (w.modify link clearQueues) :=
  .put w _ (Passes.refl _).clearQueues

theorem turns_reject (w : World τ) {reason : Nat} {data : Bytes}
    (returns : rejectReturns data = true) : Turns sc learns link w (w.reject link reason data) := by
  have passes : (w.links link).Passes learns
      ((w.links link).send ((w.links link).discInit reason data)) :=
    (steady_send _ _).toKept.passes (.inl rfl)
  rw [reject_eq returns]
  exact .tail (.single (.put w _ passes.clearQueues)) (.close _)

theorem turns_linkStep (step : LinkStep sc heeds lapses link w w') :
    Turns sc heeds.learns link w w' := by
  cases step with
  | op c op => exact .single (.put w c (passes_op op))
  | inform upcall midway _ =>
    refine .single (.tell w upcall ?_)
    rintro payload rfl
    cases midway
  | confirmed message opening learned =>
    refine .tail (.tail (.tail (.single (.put w _ ?_)) (turn_running _))
      (.tell _ _ (by simp))) (turn_running _)
    exact passes_confirm w.config opening learned
  | refused reason data opening =>
    exact .tail (.tail (.single (.tell w _ (by simp))) (turn_cleared _)) (.close _)
  | ended prepare reason data expiry live =>
    refine .tail (.tail (.tail (.single (.put w _ ?_)) (turn_cleared _))
      (.tell _ _ (by simp))) (.close _)
    exact passes_expiry expiry (w.links link)
  | lapsed due waiting kind =>
    have stopped : Turns sc heeds.learns link w (w.modify link stopTimer) :=
      .single (.put w _ (passes_expiry .expired (w.links link)))
    exact stopped.trans (turns_reject _ rfl)

theorem turns_linkSteps (steps : LinkSteps sc heeds lapses link w w') :
    Turns sc heeds.learns link w w' := by
  induction steps with
  | refl => exact .refl
  | tail _ last ih => exact ih.trans (turns_linkStep last)

end World

end Decnet.Nsp
