import Decnet.Nsp.Calls

/-!
# Runs of NSP

Every step of NSP is a sequence of a few alterations of the links and the
tables, and `Stepped` says what kinds of step there are.  What every alteration
keeps holds in every run.
-/

namespace Decnet.Nsp

open Function Connection List

namespace World

open Relation

variable {τ : Type*} {sc : SessionControl τ} {call : Call} {w w' : World τ} {link : Ptr}

/-! ## Alterations -/

theorem passes_called {learns : Nat → Prop} (config : NspConfig) (c : Connection)
    (spared : ∀ link reason data, call = .reject link reason data →
      rejectReturns data = false) : c.Passes learns (called config call c) := by
  obtain ⟨c', same, outcome⟩ := called_outcome config call c
  rw [same]
  cases outcome with
  | ignored => exact .refl c
  | unconfirmed | accepted | left =>
    exact ⟨rfl, rfl, rfl, rfl, by simp [send], .inl rfl⟩
  | rejected link reason data returns =>
    exact absurd returns (by simp [spared link reason data rfl])
  | sent link data =>
    exact (kept_sendData data c).passes (.inl (dstaddr_sendData data c))
  | interrupted => exact ⟨rfl, rfl, rfl, rfl, id, .inl rfl⟩

/-- One alteration; `learns` says which link may learn which address of its far
end. -/
inductive Alter (learns : Ptr → Nat → Prop) : World τ → World τ → Prop where
  | put (w : World τ) (link : Ptr) (c : Connection) (old : link < w.allocated)
      (passes : (w.links link).Passes (learns link) c) : Alter learns w (w.put link c)
  | event (w : World τ) (link : Ptr) (upcall : Upcall) (old : link < w.allocated)
      (later : ∀ payload, upcall ≠ .connectReceived payload) :
      Alter learns w (w.modify link (Connection.noteEvent upcall))
  | note (w : World τ) (now : Nat) (sent : List (Nodeid × Packet))
      (session : τ) (inside : Option (Ptr × Upcall)) (calls : List CallRecord)
      (grown : w.calls <+: calls) :
      Alter learns w { w with
        now := now, sent := sent, session := session, inside := inside
        calls := calls }
  | close (w : World τ) (link : Ptr) (old : link < w.allocated) :
      Alter learns w ((w.closeConnection link).setState link .cl)
  | outbound (w : World τ) (addr : Nat) (rest : List Nat) (dest : Nodeid)
      (payload : Bytes) (ids : w.freeIds = addr :: rest) :
      Alter learns w (({ w with freeIds := rest }.newLink addr dest).modify
        w.allocated (Connection.startOutbound w.config payload))

abbrev Alters (learns : Ptr → Nat → Prop) : World τ → World τ → Prop :=
  ReflTransGen (Alter learns)

variable {learns : Ptr → Nat → Prop} {upcall : Upcall}

theorem alters_act (reachable : Reachable call w) :
    Alters learns w ((w.logged call).execute call) := by
  have logged : Alter learns w (w.logged call) :=
    .note w w.now w.sent w.session w.inside _ (prefix_append _ _)
  have changed {link : Ptr} (old : link < w.allocated)
      (spared : ∀ link reason data, call = .reject link reason data → rejectReturns data = false) :
      Alters learns w ((w.logged call).put link (called w.config call (w.links link))) :=
    .tail (.single logged) (.put _ link _ old (passes_called _ _ spared))
  cases call with
  | connect dest payload =>
    cases ids : w.freeIds with
    | nil =>
      have full : (w.logged (.connect dest payload)).execute
          (.connect dest payload) = w.logged (.connect dest payload) := by
        simp [execute, connect, getId, ids]
      rw [full]
      exact .single logged
    | cons addr rest =>
      have result : (w.logged (.connect dest payload)).execute (.connect dest payload) =
            ({ w.logged (.connect dest payload) with
              freeIds := rest }.newLink addr dest).modify w.allocated
                (startOutbound w.config payload) := by
        simp [execute, connect, getId, ids]
      rw [result]
      exact .tail (.single logged) (.outbound _ addr rest dest payload ids)
  | reject link reason data =>
    cases returns : rejectReturns data with
    | false =>
      have thrown : (w.logged (.reject link reason data)).execute (.reject link reason data) =
            w.logged (.reject link reason data) := by
        simp [execute, reject, returns]
      rw [thrown]
      exact .single logged
    | true =>
      have passes : (w.links link).Passes (learns link)
          ((w.links link).send ((w.links link).discInit reason data)) :=
        (steady_send _ _).toKept.passes (.inl rfl)
      rw [execute, reject_eq returns]
      exact .tail (.tail (.single logged) (.put _ link _ (reachable link rfl) passes.clearQueues))
          (.close _ link (reachable link rfl))
  | accept link | disconnect link | sendData link | sendInterrupt link =>
    exact changed (reachable link rfl) (by rintro _ _ _ ⟨⟩)

theorem alters_acts (acts : ReflTransGen Acts w w') : Alters learns w w' := by
  induction acts with
  | refl => exact .refl
  | @tail middle final _ last ih =>
    cases last with
    | think next =>
      exact ih.tail (.note _ _ _ next _ _ prefix_rfl)
    | call call =>
      by_cases reachable : Reachable call middle
      · rw [perform_of_reachable reachable]
        exact ih.trans (alters_act reachable)
      · rw [perform_of_not_reachable reachable]
        exact ih

theorem alters_told (w : World τ) (link : Ptr) (upcall : Upcall) :
    Alters learns (w.entered link upcall) (w.tell sc link upcall) :=
  (alters_acts (sc.acts link upcall (w.entered link upcall))).tail
    (.note _ _ _ _ none _ prefix_rfl)

theorem alters_turn (old : link < w.allocated)
    (turn : Turn sc (learns link) link w w') : Alters learns w w' := by
  cases turn with
  | put c passes => exact .single (.put w link c old passes)
  | tell upcall later =>
    exact ((ReflTransGen.single (.event w link upcall old later)).tail
      (.note _ _ _ _ (some (link, upcall)) _ prefix_rfl)).trans (alters_told w link upcall)
  | close => exact .single (.close w link old)

structure Lasting (w w' : World τ) : Prop where
  config : w'.config = w.config
  allocated : w.allocated ≤ w'.allocated
  calls : w.calls <+: w'.calls
  links : ∀ link < w.allocated, (w'.links link).dest = (w.links link).dest ∧
    (w.links link).closings ≤ (w'.links link).closings

theorem Lasting.refl (w : World τ) : Lasting w w :=
  ⟨rfl, le_rfl, prefix_rfl, fun _ _ => ⟨rfl, le_rfl⟩⟩

theorem Lasting.trans {w'' : World τ} (first : Lasting w w')
    (second : Lasting w' w'') : Lasting w w'' := by
  refine ⟨second.config.trans first.config,
    first.allocated.trans second.allocated, first.calls.trans second.calls, fun link old => ?_⟩
  obtain ⟨dest, closings⟩ := first.links link old
  obtain ⟨later, more⟩ := second.links link (old.trans_le first.allocated)
  exact ⟨later.trans dest, closings.trans more⟩

theorem Lasting.update {c : Connection} (config : w'.config = w.config)
    (allocated : w.allocated ≤ w'.allocated) (calls : w.calls <+: w'.calls)
    (links : w'.links = update w.links link c)
    (self : link < w.allocated → c.dest = (w.links link).dest ∧
      (w.links link).closings ≤ c.closings) : Lasting w w' := by
  refine ⟨config, allocated, calls, fun other old => ?_⟩
  rw [links]
  by_cases here : other = link
  · subst here
    rw [update_self]
    exact self old
  · rw [update_of_ne here]
    exact ⟨rfl, le_rfl⟩

theorem Alter.onward (alter : Alter learns w w') : Lasting w w' := by
  cases alter with
  | put link c old passes =>
    exact .update rfl le_rfl prefix_rfl rfl fun _ => ⟨passes.dest, passes.closings.ge⟩
  | event link upcall old =>
    exact .update rfl le_rfl prefix_rfl rfl fun _ => ⟨rfl, le_rfl⟩
  | note now sent session inside calls grown =>
    exact ⟨rfl, le_rfl, grown, fun _ _ => ⟨rfl, le_rfl⟩⟩
  | close link old =>
    refine .update (by simp [setState]) (by simp [setState])
      (by simp [setState]) (c := (w.links link).noteClosing.withState .cl)
      (by simp [setState]) fun _ => ⟨rfl, Nat.le_succ _⟩
  | outbound addr rest dest payload ids =>
    refine .update rfl (Nat.le_succ _) prefix_rfl
      (by simp [newLink]; rfl) fun beyond => absurd beyond (lt_irrefl _)

theorem Alters.onward (alters : Alters learns w w') : Lasting w w' := by
  induction alters with
  | refl => exact .refl w
  | tail _ last ih => exact ih.trans last.onward

theorem allocated_tell (w : World τ) (link : Ptr) (upcall : Upcall) :
    w.allocated ≤ (w.tell sc link upcall).allocated :=
  (@alters_told τ sc (fun _ _ => False) w link upcall).onward.allocated


/-! ## The tables -/

/-- The tables only hold links that exist, those of addresses only open ones
under their own, and links that do not exist yet are as they were made. -/
structure Known (w : World τ) : Prop where
  byAddr : ∀ addr link, w.byAddr.lookup addr = some link →
    link < w.allocated ∧ (w.links link).srcaddr = addr ∧ (w.links link).closings = 0
  byRemote : ∀ key link, w.byRemote.lookup key = some link → link < w.allocated
  unborn : ∀ link, w.allocated ≤ link → w.links link = Connection.create w.config 0 0

theorem lookup_erase_some {α β : Type*} [DecidableEq α]
    {table : AList fun _ : α => β} {key other : α} {value : β}
    (found : (table.erase key).lookup other = some value) : table.lookup other = some value := by
  by_cases same : other = key
  · subst same
    rw [AList.lookup_erase] at found
    cases found
  · rw [AList.lookup_erase_ne same] at found
    exact found

theorem closeConnection_byRemote (w : World τ) (link : Ptr) :
    (w.closeConnection link).byRemote =
      w.byRemote.erase ((w.links link).dest, (w.links link).dstaddr) := by
  simp only [closeConnection]
  split <;> rfl

theorem Known.update (known : Known w) {c : Connection}
    (config : w'.config = w.config) (allocated : w'.allocated = w.allocated)
    (byAddr : ∀ addr other, w'.byAddr.lookup addr = some other → w.byAddr.lookup addr = some other)
    (byRemote : ∀ key other, w'.byRemote.lookup key = some other →
      w.byRemote.lookup key = some other) (links : w'.links = update w.links link c)
    (old : link < w.allocated) (self : ∀ addr, w'.byAddr.lookup addr = some link →
      c.srcaddr = (w.links link).srcaddr ∧ c.closings = (w.links link).closings) : Known w' := by
  refine ⟨?_, ?_, ?_⟩
  · intro addr other held
    have entry := known.byAddr addr other (byAddr addr other held)
    rw [allocated, links]
    by_cases here : other = link
    · subst here
      rw [update_self, (self addr held).1, (self addr held).2]
      exact entry
    · rw [update_of_ne here]
      exact entry
  · exact fun key other held => allocated ▸ known.byRemote key other (byRemote key other held)
  · intro other beyond
    rw [allocated] at beyond
    rw [links, config, update_of_ne (Nat.ne_of_gt (Nat.lt_of_lt_of_le old beyond))]
    exact known.unborn other beyond

theorem Known.born (known : Known w) {addr : Nat} {c : Connection}
    (config : w'.config = w.config) (allocated : w'.allocated = w.allocated + 1)
    (byAddr : w'.byAddr = w.byAddr.insert addr w.allocated)
    (byRemote : ∀ key link, w'.byRemote.lookup key = some link →
      w.byRemote.lookup key = some link ∨ link = w.allocated)
    (links : w'.links = Function.update w.links w.allocated c)
    (srcaddr : c.srcaddr = addr) (closings : c.closings = 0) : Known w' := by
  refine ⟨?_, ?_, ?_⟩
  · intro other link held
    rw [byAddr] at held
    rw [allocated, links]
    by_cases same : other = addr
    · subst same
      rw [AList.lookup_insert] at held
      cases held
      rw [update_self]
      exact ⟨Nat.lt_succ_self _, srcaddr, closings⟩
    · rw [AList.lookup_insert_ne same] at held
      obtain ⟨old, entry⟩ := known.byAddr other link held
      rw [update_of_ne (Nat.ne_of_lt old)]
      exact ⟨Nat.lt_succ_of_lt old, entry⟩
  · intro key link held
    rw [allocated]
    rcases byRemote key link held with earlier | rfl
    · exact Nat.lt_succ_of_lt (known.byRemote key link earlier)
    · exact Nat.lt_succ_self _
  · intro link beyond
    rw [allocated] at beyond
    have later : w.allocated < link := beyond
    rw [links, config, update_of_ne (Nat.ne_of_gt later)]
    exact known.unborn link (Nat.le_of_lt later)

theorem close_tables (w : World τ) (link : Ptr) :
    ((w.closeConnection link).setState link .cl).byAddr = w.byAddr.erase (w.links link).srcaddr ∧
      ((w.closeConnection link).setState link .cl).links =
        update w.links link ((w.links link).noteClosing.withState .cl) := by
  simp [setState]

theorem Known.alter (known : Known w) (alter : Alter learns w w') : Known w' := by
  cases alter with
  | put link c old passes =>
    exact known.update rfl rfl (fun _ _ => id) (fun _ _ => id) rfl old
      fun _ _ => ⟨passes.srcaddr, passes.closings⟩
  | event link upcall old =>
    exact known.update rfl rfl (fun _ _ => id) (fun _ _ => id) rfl old fun _ _ => ⟨rfl, rfl⟩
  | note => exact { known with }
  | close link old =>
    obtain ⟨byAddr, links⟩ := close_tables w link
    refine known.update (by simp [setState]) (by simp [setState]) ?_ ?_ links old ?_
    · intro addr other held
      rw [byAddr] at held
      exact lookup_erase_some held
    · intro key other held
      change (w.closeConnection link).byRemote.lookup key = _ at held
      rw [closeConnection_byRemote] at held
      exact lookup_erase_some held
    · intro addr held
      rw [byAddr] at held
      obtain ⟨_, rfl, _⟩ := known.byAddr addr link (lookup_erase_some held)
      rw [AList.lookup_erase] at held
      cases held
  | outbound addr rest dest payload ids =>
    exact known.born rfl rfl rfl (fun _ _ => .inl) (by simp [newLink]; rfl) rfl rfl

theorem Known.alters (known : Known w) (alters : Alters learns w w') : Known w' := by
  induction alters with
  | refl => exact known
  | tail _ last ih => exact ih.alter last

theorem known_start (config : NspConfig) (ids : List Nat) (session : τ) :
    Known (start config ids session) where
  byAddr := fun _ _ held => by cases held
  byRemote := fun _ _ held => by cases held
  unborn := fun _ _ => rfl

/-- A link that a connect initiate opens, when session control is about to be
told of it. -/
structure Received (addr : Nat) (src : Nodeid) (message : ConnInit) (w w' : World τ) : Prop where
  config : w'.config = w.config
  ids : w.freeIds = addr :: w'.freeIds
  byAddr : w'.byAddr = w.byAddr.insert addr w.allocated
  byRemote : w'.byRemote = w.byRemote.insert (src, message.srcaddr) w.allocated
  allocated : w'.allocated = w.allocated + 1
  links : w'.links = Function.update w.links w.allocated
    (((Connection.create w.config addr src).connectReceived w.config
      message).noteEvent (.connectReceived message.payload))
  calls : w'.calls = w.calls
  session : w'.session = w.session
  inside : w'.inside = some (w.allocated, .connectReceived message.payload)
  now : w'.now = w.now
  closed : w'.closed = w.closed

theorem received_of {rest : World τ} {addr : Nat} (src : Nodeid)
    (message : ConnInit) (taken : w.getId = some (addr, rest)) :
    rest.allocated = w.allocated ∧ Received addr src message w
      ((rest.inbound addr src message).entered rest.allocated
        (.connectReceived message.payload)) := by
  obtain ⟨ids, same⟩ := getId_some taken
  rw [same]
  refine ⟨rfl, rfl, ids, rfl, rfl, rfl, ?_, rfl, rfl, rfl, rfl, rfl⟩
  simp [entered, inbound, newInbound, newLink]

section

variable {addr : Nat} {src : Nodeid} {message : ConnInit}
  (received : Received addr src message w w')

include received

theorem Received.known (known : Known w) : Known w' := by
  have announced := announced_connectReceived w.config message (create w.config addr src)
  refine known.born received.config received.allocated received.byAddr ?_
    received.links announced.srcaddr announced.closings
  intro key link held
  rw [received.byRemote] at held
  by_cases here : key = (src, message.srcaddr)
  · rw [here, AList.lookup_insert] at held
    exact .inr (Option.some.inj held).symm
  · rw [AList.lookup_insert_ne here] at held
    exact .inl held

theorem Received.onward : Lasting w w' :=
  .update received.config (received.allocated ▸ Nat.le_succ _)
    (received.calls ▸ prefix_rfl) received.links fun beyond => absurd beyond (lt_irrefl _)

end

/-! ## Steps -/

variable {packet : Packet} {src : Nodeid}

def recipient (src : Nodeid) (packet : Packet) (w : World τ) : Option Ptr :=
  match packet with
  | .connInit message => w.byRemote.lookup (src, message.srcaddr)
  | packet => w.byAddr.lookup packet.linkAddress

/-- What arrives in one step may be processed by the link where it arrives. -/
def AttentiveEach (sc : SessionControl τ) (heeds : Ptr → Heeds) (w : World τ)
    (input : Input τ) : Prop :=
  match input with
  | .deliver src packet => ∀ link, w.recipient src packet = some link →
      ((w.links link).state = .run → Heeded (heeds link) (w.links link) packet) ∧
        ((w.links link).state = .cc →
          Heeded (heeds link) ((w.accepted sc link).links link) packet) ∧
        ((w.links link).state = .ci ∨ (w.links link).state = .cd → Taught (heeds link) packet)
  | _ => True

def Attentive (sc : SessionControl τ) (heeds : Heeds) (w : World τ) (input : Input τ) : Prop :=
  w.AttentiveEach sc (fun _ => heeds) input

theorem attentive_all (w : World τ) (input : Input τ) : w.Attentive sc .all input := by
  cases input with
  | deliver src packet =>
    intro link _
    exact ⟨fun _ => heeded_all _ packet, fun _ => heeded_all _ packet, fun _ => taught_all packet⟩
  | _ => trivial

theorem deliver_of_recipient (found : w.recipient src packet = some link) :
    w.deliver sc src packet = w.receive sc link packet := by
  cases packet with
  | connInit message =>
    change w.byRemote.lookup (src, message.srcaddr) = some link at found
    simp only [deliver, deliverConnInit, found]
  | _ =>
    simp only [recipient] at found
    simp only [deliver, found]

theorem deliver_of_no_recipient (unknown : w.recipient src packet = none) :
    w.deliver sc src packet = w ∨ (∃ sent, w.deliver sc src packet = { w with sent := sent }) ∨
      ∃ message addr rest, packet = .connInit message ∧
        w.getId = some (addr, rest) ∧ w.deliver sc src packet =
          (rest.newInbound addr src message.srcaddr).startInbound sc rest.allocated message := by
  cases packet with
  | connInit message =>
    change w.byRemote.lookup (src, message.srcaddr) = none at unknown
    simp only [deliver, deliverConnInit, unknown]
    cases taken : w.getId with
    | none => exact .inr (.inl ⟨_, rfl⟩)
    | some found =>
      obtain ⟨addr, rest⟩ := found
      exact .inr (.inr ⟨message, addr, rest, rfl, rfl, rfl⟩)
  | _ =>
    simp only [recipient] at unknown
    exact .inl (by simp only [deliver, unknown])

theorem Known.recipient (known : Known w)
    (found : w.recipient src packet = some link) : link < w.allocated := by
  cases packet with
  | connInit message => exact known.byRemote _ link found
  | _ => exact (known.byAddr _ link found).1

/-- What one input does: session control acts, a packet or a timer of a link
is handled, or a link is opened. -/
inductive Stepped (sc : SessionControl τ) (heeds : Ptr → Heeds)
    (lapses outside : Prop) (w : World τ) (input : Input τ) : World τ → Prop where
  | act (call : Call) (permitted : outside) (reachable : Reachable call w) :
      Stepped sc heeds lapses outside w input ((w.logged call).execute call)
  | think (next : τ) (permitted : outside) :
      Stepped sc heeds lapses outside w input { w with session := next }
  | note (now : Nat) (sent : List (Nodeid × Packet)) :
      Stepped sc heeds lapses outside w input { w with now := now, sent := sent }
  | handled (link : Ptr) (w' : World τ) (old : link < w.allocated)
      (steps : LinkSteps sc (heeds link) lapses link w w') :
      Stepped sc heeds lapses outside w input w'
  | opened (src : Nodeid) (message : ConnInit) (addr : Nat) (rest : World τ)
      (arrived : input = .deliver src (.connInit message)) (taken : w.getId = some (addr, rest))
      (unknown : w.byRemote.lookup (src, message.srcaddr) = none) :
      Stepped sc heeds lapses outside w input
        ((rest.newInbound addr src message.srcaddr).startInbound sc rest.allocated message)

variable {heeds : Ptr → Heeds} {lapses outside : Prop} {input : Input τ}

/-- What arrives may be processed, and a connect timer may run out only if
links may lapse. -/
theorem stepped (known : Known w) (attentive : w.AttentiveEach sc heeds input)
    (overdue : w.connectExpires input → lapses) (acting : actsOutside input → outside) :
    Stepped sc heeds lapses outside w input (w.step sc input) := by
  have idle {link : Ptr} (unborn : ¬ link < w.allocated) :
      (w.links link).timer = false ∧ (w.links link).ackTimer = false := by
    rw [known.unborn link (Nat.le_of_not_lt unborn)]
    exact ⟨rfl, rfl⟩
  have ignored : Stepped sc heeds lapses outside w input w := .note w.now w.sent
  cases input with
  | act call =>
    by_cases reachable : Reachable call w
    · simp only [step, perform_of_reachable reachable]
      exact .act call (acting trivial) reachable
    · simp only [step, perform_of_not_reachable reachable]
      exact ignored
  | think next => exact .think next (acting trivial)
  | elapse seconds => exact .note _ w.sent
  | deliver src packet =>
    simp only [step]
    cases found : w.recipient src packet with
    | some link =>
      obtain ⟨running, confirming, opening⟩ := attentive link found
      rw [deliver_of_recipient found]
      exact .handled link _ (known.recipient found)
        (linkSteps_receive w packet running confirming opening)
    | none =>
      rcases deliver_of_no_recipient found with same | ⟨sent, same⟩ |
        ⟨message, addr, rest, rfl, taken, same⟩
      · rw [same]
        exact ignored
      · rw [same]
        exact .note w.now sent
      · rw [same]
        exact .opened src message addr rest rfl taken found
  | expire link =>
    by_cases old : link < w.allocated
    · exact .handled link _ old (linkSteps_expire w
        fun armed waiting kind => overdue ⟨armed, waiting, kind⟩)
    · have same : w.step sc (.expire link) = w := by
        simp [step, expire, idle old]
      rw [same]
      exact ignored
  | expireAck link =>
    by_cases old : link < w.allocated
    · exact .handled link _ old (linkSteps_expireAck w)
    · have same : w.step sc (.expireAck link) = w := by
        simp [step, expireAck, idle old]
      rw [same]
      exact ignored

theorem stepped_all (known : Known w) (input : Input τ) :
    Stepped sc (fun _ => .all) (w.connectExpires input) (actsOutside input) w
      input (w.step sc input) :=
  stepped known (attentive_all w input) id id

theorem alters_linkSteps (old : link < w.allocated)
    (steps : LinkSteps sc (heeds link) lapses link w w') :
    Alters (fun link => (heeds link).learns) w w' := by
  have turns := turns_linkSteps steps
  clear steps
  induction turns with
  | refl => exact .refl
  | tail _ last ih =>
    exact ih.trans (alters_turn (old.trans_le ih.onward.allocated) last)

/-- Every step is a sequence of alterations, but for the link that a connect
initiate opens before them. -/
theorem Stepped.alters (stepped : Stepped sc heeds lapses outside w input w') :
    Alters (fun link => (heeds link).learns) w w' ∨
      ∃ src message addr middle, input = .deliver src (.connInit message) ∧
        w.byRemote.lookup (src, message.srcaddr) = none ∧ Received addr src message w middle ∧
        Alters (fun link => (heeds link).learns) middle w' := by
  cases stepped with
  | act call _ reachable => exact .inl (alters_act reachable)
  | think next =>
    exact .inl (.single (.note w _ _ next _ _ prefix_rfl))
  | note now sent =>
    exact .inl (.single (.note w now sent _ _ _ prefix_rfl))
  | handled link _ old steps => exact .inl (alters_linkSteps old steps)
  | opened src message addr rest arrived taken unknown =>
    obtain ⟨_, received⟩ := received_of src message taken
    exact .inr ⟨src, message, addr, _, arrived, unknown, received, alters_told _ rest.allocated _⟩

theorem Stepped.known (stepped : Stepped sc heeds lapses outside w input w')
    (known : Known w) : Known w' ∧ Lasting w w' := by
  rcases stepped.alters with alters | ⟨_, _, _, _, _, _, received, alters⟩
  · exact ⟨known.alters alters, alters.onward⟩
  · exact ⟨(received.known known).alters alters, received.onward.trans alters.onward⟩

theorem known_run (known : Known w) (inputs : List (Input τ)) :
    Known (inputs.foldl (step sc) w) ∧ Lasting w (inputs.foldl (step sc) w) := by
  induction inputs generalizing w with
  | nil => exact ⟨known, .refl w⟩
  | cons input inputs ih =>
    obtain ⟨later, onward⟩ := (@stepped_all τ sc w known input).known known
    exact ⟨(ih later).1, onward.trans (ih later).2⟩

theorem known_reach (config : NspConfig) (ids : List Nat) (session : τ)
    (inputs : List (Input τ)) : Known (reach sc config ids session inputs) :=
  (known_run (known_start config ids session) inputs).1

theorem reach_config (config : NspConfig) (ids : List Nat) (session : τ) (inputs : List (Input τ)) :
    (reach sc config ids session inputs).config = config :=
  (@known_run τ sc _ (known_start config ids session) inputs).2.config

end World

end Decnet.Nsp
