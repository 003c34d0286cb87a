import Decnet.Nsp.Addresses
import Decnet.Session.Session

/-!
# The conversations of session control and the links of NSP

Session control forgets a conversation when NSP tells it that the link was
rejected or is gone, and NSP tells it so before it closes the link.  Two ways
of closing a link do not: `reject`, which session control uses only before it
has a conversation but which applications may call on theirs, and the connect
timer of a link that no application has decided about.  In runs without either
every conversation is about an open link.
-/

namespace Decnet.Nsp.World

variable {τ : Type*}

@[simp] theorem closeConnection_session (w : World τ) (link : Ptr) :
    (w.closeConnection link).session = w.session := by
  simp only [closeConnection]
  split <;> rfl

@[simp] theorem execute_session (w : World τ) (call : Call) :
    (w.execute call).session = w.session := by
  cases call with
  | connect dest payload =>
    simp only [execute, connect, getId]
    cases w.freeIds <;> rfl
  | reject link reason data =>
    simp only [execute, reject]
    split
    · rfl
    · simp [setState, closeQuietly]
  | accept | disconnect | sendData | sendInterrupt => rfl

end Decnet.Nsp.World

namespace Decnet.Nsp

/-- An application rejects no link, and sends nothing on a link in run state
while it is told that the link is gone. -/
structure CallRecord.Polite (record : CallRecord) : Prop where
  rejectsNone : ∀ link, record.returned = true → record.call.rejects link = false
  silent : record.Silent

theorem CallRecord.Polite.proper {record : CallRecord}
    (polite : record.Polite) : record.Proper where
  rejectsOpen link returned rejects := by
    rw [polite.rejectsNone link returned] at rejects
    cases rejects
  notConfirming link _ _ returned := polite.rejectsNone link returned
  notEnding link _ _ _ returned := polite.rejectsNone link returned
  silent := polite.silent

end Decnet.Nsp

namespace Decnet.Session

open Decnet.Nsp Decnet.Nsp.World Relation Connection List

variable {α : Type*} {apps : Applications α}

/-- The calls that applications have caused meet a condition. -/
def MadeOk (ok : CallRecord → Prop) (w : SessionWorld α) : Prop :=
  ∀ record ∈ w.session.made, ok record

/-- No conversation is about a link that session control has been told is gone
or has rejected itself, but for the links that `apart` names. -/
structure Agree (apart : Ptr → Prop) (w : SessionWorld α) : Prop where
  logged : ∀ record ∈ w.calls, record ∈ w.session.made ∨ record.Proper
  named : ∀ record ∈ w.calls, ∀ link, record.call.rejects link = true → link < w.allocated
  live : ∀ link ∈ w.session.live, link < w.allocated ∧ (¬ apart link →
    (w.links link).terminals = 0 ∧ ∀ record ∈ w.calls,
      record.call.rejects link = true → record ∈ w.session.made)

variable {w w' : SessionWorld α} {link : Ptr} {call : Call} {apart : Ptr → Prop}

theorem Agree.update (agree : Agree apart w) (change : State α → State α)
    (made : ∀ record ∈ w.session.made, record ∈ (change w.session).made)
    (live : ∀ link ∈ (change w.session).live, link ∈ w.session.live) :
    Agree apart (update change w) where
  logged record member := (agree.logged record member).imp_left (made record)
  named := agree.named
  live link member := by
    obtain ⟨old, kept⟩ := agree.live link (live link member)
    refine ⟨old, fun within => ⟨(kept within).1, ?_⟩⟩
    exact fun record known rejects => made record ((kept within).2 record known rejects)

theorem Agree.insert (agree : Agree apart w) (message : ConnectData)
    (old : link < w.allocated) (untold : (w.links link).terminals = 0)
    (unrejected : ∀ record ∈ w.calls, record.call.rejects link = false) :
    Agree apart (startLive link message w) where
  __ := agree
  live other member := by
    rcases (AList.mem_insert _).mp member with same | earlier
    · subst same
      refine ⟨old, fun _ => ⟨untold, fun record known rejects => ?_⟩⟩
      rw [unrejected record known] at rejects
      cases rejects
    · exact agree.live other earlier

theorem Agree.execute (agree : Agree apart w) (reachable : Reachable call w)
    (noted : w.record call ∈ w.session.made ∨ (w.record call).Proper)
    (spared : ∀ link ∈ w.session.live, call.rejects link = true → w.record call ∈ w.session.made) :
    Agree apart ((w.logged call).execute call) := by
  have grown := execute_allocated_le (w.logged call) call
  refine ⟨?_, ?_, ?_⟩
  · intro record member
    rw [execute_session]
    rw [execute_calls] at member
    rcases mem_append.mp member with earlier | last
    · exact agree.logged record earlier
    · cases mem_singleton.mp last
      exact noted
  · intro record member link rejects
    rw [execute_calls] at member
    refine lt_of_lt_of_le ?_ grown
    rcases mem_append.mp member with earlier | last
    · exact agree.named record earlier link rejects
    · cases mem_singleton.mp last
      cases call with
      | reject target reason data =>
        have same : target = link := by
          simpa [record, Call.rejects] using rejects
        exact same ▸ reachable target rfl
      | _ => cases rejects
  · intro link member
    rw [execute_session] at member ⊢
    obtain ⟨old, kept⟩ := agree.live link member
    refine ⟨old.trans_le grown, fun within => ?_⟩
    obtain ⟨untold, unrejected⟩ := kept within
    constructor
    · rw [act_links w call old]
      split
      · exact (terminals_congr (called_events w.config call (w.links link))).trans untold
      · exact untold
    · intro record known rejects
      rw [execute_calls] at known
      rcases mem_append.mp known with earlier | last
      · exact unrejected record earlier rejects
      · cases mem_singleton.mp last
        exact spared link member rejects

theorem note_of_reachable (reachable : Reachable call w) :
    note call w = update (fun state =>
      { state with made := state.made ++ [w.record call] }) w :=
  if_pos reachable

theorem agree_callNsp (w : SessionWorld α) (call : Call)
    (agree : Agree apart w) : Agree apart (callNsp call w) := by
  by_cases reachable : Reachable call w
  · have noted := note_of_reachable reachable
    have member : (note call w).record call ∈ (note call w).session.made := by
      rw [noted]
      exact mem_append_right _ (mem_singleton_self _)
    have before : Agree apart (note call w) := by
      rw [noted]
      refine agree.update _ ?_ (fun _ member => member)
      exact fun record member => mem_append_left _ member
    have still : Reachable call (note call w) := by
      rw [noted]
      exact reachable
    rw [callNsp, perform_of_reachable still]
    exact before.execute still (.inl member) fun _ _ _ => member
  · have same : note call w = w := if_neg reachable
    rw [callNsp, same, perform_of_not_reachable reachable]
    exact agree

theorem agree_connects {dest : Nodeid} {payload : Bytes}
    (returned : (w.connect dest payload).1 = some link)
    (message : ConnectData) (agree : Agree apart w) :
    Agree apart (startLive link message (callNsp (.connect dest payload) w)) := by
  have called := agree_callNsp w (.connect dest payload) agree
  have reachable : Reachable (.connect dest payload) w := nofun
  have noted := note_of_reachable reachable
  have same : callNsp (.connect dest payload) w = ((note (.connect dest payload) w).logged
        (.connect dest payload)).execute (.connect dest payload) := by
    exact perform_of_reachable nofun
  have calls : (callNsp (.connect dest payload) w).calls =
      w.calls ++ [w.record (.connect dest payload)] := by
    rw [same, execute_calls]
    rfl
  cases ids : w.freeIds with
  | nil => simp [World.connect, getId, ids] at returned
  | cons addr rest =>
    have here : link = w.allocated := by
      simpa [World.connect, getId, ids, eq_comm] using returned
    subst here
    have links : (callNsp (.connect dest payload) w).allocated =
        w.allocated + 1 ∧ (callNsp (.connect dest payload) w).links
          w.allocated = (create w.config addr dest).startOutbound w.config payload := by
      rw [same, noted]
      simp [execute, World.connect, getId, ids, newLink, Session.update]
    refine called.insert message (links.1 ▸ Nat.lt_succ_self _) (links.2 ▸ rfl) ?_
    intro record member
    rw [calls] at member
    rcases mem_append.mp member with earlier | last
    · by_contra rejects
      exact lt_irrefl _ (agree.named record earlier w.allocated (by simpa using rejects))
    · cases mem_singleton.mp last
      rfl

/-- A link that session control is asked about. -/
structure Fresh (link : Ptr) (w : SessionWorld α) : Prop where
  new : link ∉ w.session.live
  old : link < w.allocated
  isOpen : w.IsOpen link
  untold : (w.links link).terminals = 0
  unrejected : ∀ record ∈ w.calls, record.call.rejects link = false
  inside : ∃ payload, w.inside = some (link, .connectReceived payload)

/-- Session control's own rejects are of the link that it is asked about, which
is open and about which it has no conversation yet. -/
theorem Fresh.refuse (fresh : Fresh link w) (reason : Nat)
    (agree : Agree apart w) : Agree apart (w.perform (.reject link reason [])) := by
  obtain ⟨payload, inside⟩ := fresh.inside
  have reachable : Reachable (.reject link reason []) w := by
    rintro other ⟨⟩
    exact fresh.old
  rw [perform_of_reachable reachable]
  refine agree.execute reachable (.inr ⟨?_, ?_, ?_, ?_⟩) ?_
  · intro other _ _
    simp [record, Call.target, fresh.isOpen]
  · intro other data confirming
    simp [record, inside] at confirming
  · intro other upcall ending terminal
    have same : some (link, Upcall.connectReceived payload) =
        some (other, upcall) := inside.symm.trans ending
    cases same
    cases terminal
  · intro other late data ending
    simp [record, inside] at ending
  · intro other member rejects
    have same : link = other := by simpa [Call.rejects] using rejects
    exact absurd (same ▸ member) fresh.new

theorem kept_agree (apart : Ptr → Prop) :
    Kept Fresh fun w w' : SessionWorld α => Agree apart w → Agree apart w' where
  refl _ := id
  trans first second := second ∘ first
  thinks w _ agree := agree.update _ (fun _ => id) fun _ => id
  registers w _ agree := agree.update _ (fun _ => id) fun _ => id
  calls := agree_callNsp
  connects := agree_connects
  refuses := Fresh.refuse
  begins fresh message agree := agree.insert message fresh.old fresh.untold fresh.unrejected
  ends w link agree := by
    unfold retire
    split
    · refine agree.update _ (fun _ member => member) ?_
      exact fun other member => ((AList.mem_erase).mp member).2
    · exact agree

/-! ## Notifications -/

theorem not_mem_retire (w : SessionWorld α) (link : Ptr) : link ∉ (retire link w).session.live := by
  unfold retire
  split
  · exact fun member => ((AList.mem_erase).mp member).1 rfl
  · assumption

theorem not_live_told (w : SessionWorld α) (link : Ptr) {upcall : Upcall}
    (terminal : upcall.terminal = true) :
    link ∉ (w.tell (control apps) link upcall).session.live := by
  have isOver (reason : Nat) (w : SessionWorld α) :
      link ∉ (passOnEnd apps link reason w).session.live := by
    unfold passOnEnd
    split
    · exact not_mem_retire _ link
    · assumption
  cases upcall with
  | connectRejected reason data => exact isOver reason _
  | disconnected reason data => exact isOver reason _
  | connectReceived | connectConfirmed | dataReceived | interruptReceived
  | runState => cases terminal

theorem Agree.put (agree : Agree apart w) {c : Connection}
    (terminals : c.terminals = (w.links link).terminals ∨ apart link) :
    Agree apart (w.put link c) where
  __ := agree
  live other member := by
    obtain ⟨old, kept⟩ := agree.live other member
    refine ⟨old, fun within => ⟨?_, (kept within).2⟩⟩
    by_cases here : other = link
    · subst here
      rw [put_links_self]
      exact (terminals.resolve_right within).trans (kept within).1
    · simpa [World.put, here] using (kept within).1

theorem Agree.mono {wider : Ptr → Prop} (agree : Agree apart w)
    (implied : ∀ link ∈ w.session.live, apart link → wider link) : Agree wider w :=
  { agree with
    live := fun link member =>
      ⟨(agree.live link member).1, fun within =>
        (agree.live link member).2 fun named => within (implied link member named)⟩ }

/-- The connect timer of a link that no application has decided about runs
out. -/
def connectExpires (w : SessionWorld α) : Input α → Prop
  | .expire link =>
    (w.links link).timer = true ∧ (w.links link).state = .cr ∧
      (w.links link).timerIsRetransmit = false
  | _ => False

/-- The link whose end session control is told of. -/
def Leaving (upcall : Upcall) (link other : Ptr) : Prop :=
  upcall.terminal = true ∧ other = link

theorem agree_tell {upcall : Upcall} (later : ∀ payload, upcall ≠ .connectReceived payload)
    (agree : Agree (fun _ => False) w) :
    Agree (fun _ => False) (w.tell (control apps) link upcall) := by
  have wider : Agree (Leaving upcall link) w := agree.mono fun _ _ => False.elim
  have noted : Agree (Leaving upcall link) (w.modify link (noteEvent upcall)) := by
    refine wider.put ?_
    rw [terminals_noteEvent]
    cases terminal : upcall.terminal with
    | true => exact .inr ⟨terminal, rfl⟩
    | false => exact .inl rfl
  have begun : Agree (Leaving upcall link) (w.entered link upcall) := { noted with }
  have told := (kept_agree _).notify apps link upcall
    (fun payload same => absurd same (later payload)) begun
  have ended : Agree (Leaving upcall link) (w.tell (control apps) link upcall) := { told with }
  refine ended.mono ?_
  rintro _ member ⟨terminal, rfl⟩
  exact not_live_told w _ terminal member

/-! ## What NSP does -/

theorem agree_turn {learns : Nat → Prop} (turn : Turn (control apps) learns link w w')
    (agree : Agree (fun _ => False) w) : Agree (fun _ => False) w' := by
  cases turn with
  | put c passes =>
    exact agree.put (.inl (terminals_congr passes.events))
  | tell upcall later => exact agree_tell later agree
  | close =>
    have noted : Agree (fun _ => False)
        (w.modify link noteClosing) := agree.put (.inl rfl)
    refine Agree.put ⟨?_, ?_, ?_⟩ (.inl rfl)
    · simpa using noted.logged
    · simpa using noted.named
    · simpa using noted.live

theorem Fresh.received {addr : Nat} {src : Nodeid} {message : ConnInit}
    (received : Received addr src message w w') (agree : Agree apart w) :
    Fresh w.allocated w' ∧ Agree apart w' := by
  have announced := announced_connectReceived w.config message
    (create w.config addr src)
  have link : w'.links w.allocated = _ := received.links ▸ Function.update_self ..
  refine ⟨⟨?_, ?_, ?_, ?_, ?_, ⟨_, received.inside⟩⟩, ⟨?_, ?_, ?_⟩⟩
  · rw [received.session]
    exact fun member => lt_irrefl _ (agree.live _ member).1
  · rw [received.allocated]
    exact Nat.lt_succ_self _
  · have srcaddr : (w'.links w.allocated).srcaddr = addr := by
      rw [link]
      exact announced.srcaddr
    unfold World.IsOpen
    rw [srcaddr, received.byAddr, AList.lookup_insert]
  · rw [link, terminals_noteEvent]
    exact terminals_congr announced.events
  · intro record member
    rw [received.calls] at member
    by_contra rejects
    exact lt_irrefl _ (agree.named record member w.allocated (by simpa using rejects))
  · rw [received.calls, received.session]
    exact agree.logged
  · rw [received.calls, received.allocated]
    exact fun record member link rejects =>
      Nat.lt_succ_of_lt (agree.named record member link rejects)
  · rw [received.calls, received.session, received.allocated]
    intro link member
    obtain ⟨old, kept⟩ := agree.live link member
    rw [received.links, Function.update_of_ne (Nat.ne_of_lt old)]
    exact ⟨Nat.lt_succ_of_lt old, kept⟩

theorem agree_stepped {heeds : Ptr → Heeds} {lapses : Prop} {input : World.Input (State α)}
    (stepped : Stepped (control apps) heeds lapses False w input w')
    (agree : Agree (fun _ => False) w) : Agree (fun _ => False) w' := by
  cases stepped with
  | act _ permitted | think _ permitted => exact permitted.elim
  | note => exact { agree with }
  | handled link _ old steps =>
    have turns := turns_linkSteps steps
    clear steps
    induction turns with
    | refl => exact agree
    | tail _ last ih => exact agree_turn last ih
  | opened src message addr rest _ taken _ =>
    obtain ⟨allocated, received⟩ := received_of src message taken
    obtain ⟨fresh, begun⟩ := Fresh.received received agree
    rw [← allocated] at fresh
    have told := (kept_agree _).notify apps rest.allocated
      (.connectReceived message.payload) (fun _ _ => fresh) begun
    exact { told with }

/-- What applications do is what session control does to NSP. -/
theorem acts_inner (apps : Applications α) (acts : ReflTransGen World.Acts w w') :
    ∃ inner : List (World.Input (State α)), (∀ input ∈ inner, actsOutside input) ∧
        inner.foldl (World.step (control apps)) w = w' := by
  induction acts with
  | refl => exact ⟨[], nofun, rfl⟩
  | @tail middle final _ last ih =>
    obtain ⟨inner, outside, same⟩ := ih
    have one : ∃ input, actsOutside input ∧ World.step (control apps) middle input = final := by
      cases last with
      | think next => exact ⟨.think next, trivial, rfl⟩
      | call call => exact ⟨.act call, trivial, rfl⟩
    obtain ⟨input, acting, rfl⟩ := one
    refine ⟨inner ++ [input], ?_, by rw [foldl_append, same]; rfl⟩
    intro other member
    rcases mem_append.mp member with earlier | last
    · exact outside other earlier
    · exact mem_singleton.mp last ▸ acting

/-- A step of session control over NSP is a run of NSP. -/
theorem step_inner (apps : Applications α) (w : SessionWorld α) (input : Input α) : ∃ inner,
      inner.foldl (World.step (control apps)) w = step apps w input ∧
      (¬ connectExpires w input → Run.Guarded (World.step (control apps))
        (fun w input => ¬ w.connectExpires input) w inner) := by
  have acted {w' : SessionWorld α} (acts : ReflTransGen World.Acts w w') :
      ∃ inner, inner.foldl (World.step (control apps)) w = w' ∧
        (¬ connectExpires w input → Run.Guarded (World.step (control apps))
          (fun w input => ¬ w.connectExpires input) w inner) := by
    obtain ⟨inner, outside, same⟩ := acts_inner apps acts
    refine ⟨inner, same, fun _ => ?_⟩
    have quiet : Run.Guarded (World.step (control apps))
        (fun _ input => actsOutside input) w inner := (Run.guarded_const _ _ _ _).mpr outside
    refine quiet.mono fun _ input acting => ?_
    cases input <;> first | exact id | cases acting
  cases input with
  | deliver src packet =>
    exact ⟨[.deliver src packet], rfl, fun _ => ⟨id, trivial⟩⟩
  | expire link => exact ⟨[.expire link], rfl, fun patient => ⟨patient, trivial⟩⟩
  | expireAck link => exact ⟨[.expireAck link], rfl, fun _ => ⟨id, trivial⟩⟩
  | elapse seconds => exact ⟨[.elapse seconds], rfl, fun _ => ⟨id, trivial⟩⟩
  | request request => exact acted (kept_acts.request w request)
  | think next => exact acted (kept_acts.thinks w next)
  | register objects => exact acted (kept_acts.registers w objects)

theorem run_inner (apps : Applications α) (w : SessionWorld α) (inputs : List (Input α)) : ∃ inner,
      inner.foldl (World.step (control apps)) w = inputs.foldl (step apps) w ∧
      (Run.Guarded (step apps) (fun w input => ¬ connectExpires w input) w inputs →
        Run.Guarded (World.step (control apps))
          (fun w input => ¬ w.connectExpires input) w inner) := by
  induction inputs generalizing w with
  | nil => exact ⟨[], rfl, fun _ => trivial⟩
  | cons input inputs ih =>
    obtain ⟨first, same, patient⟩ := step_inner apps w input
    obtain ⟨others, further, later⟩ := ih (step apps w input)
    refine ⟨first ++ others, ?_, fun guarded => ?_⟩
    · rw [foldl_append, same, further]
      rfl
    · rw [Run.guarded_append, same]
      exact ⟨patient guarded.1, later guarded.2⟩

theorem Kept.step {fresh : Ptr → SessionWorld α → Prop}
    {R : SessionWorld α → SessionWorld α → Prop} (kept : Kept fresh R) (known : Known w)
    (input : Input α) (inside : ∀ {inner w'}, Stepped (control apps) (fun _ => .all)
      (w.connectExpires inner) False w inner w' → R w w') : R w (step apps w input) := by
  have inner (inner : World.Input (State α)) (quiet : ¬ actsOutside inner) :
      R w (World.step (control apps) w inner) :=
    inside (stepped known (attentive_all w inner) id quiet)
  cases input with
  | deliver src packet => exact inner (.deliver src packet) id
  | expire link => exact inner (.expire link) id
  | expireAck link => exact inner (.expireAck link) id
  | elapse seconds => exact inner (.elapse seconds) id
  | request request => exact kept.request w request
  | think next => exact kept.thinks w next
  | register objects => exact kept.registers w objects

theorem agree_run {inputs : List (Input α)} (known : Known w) (agree : Agree (fun _ => False) w) :
    Agree (fun _ => False) (inputs.foldl (step apps) w) := by
  induction inputs generalizing w with
  | nil => exact agree
  | cons input inputs ih =>
    refine ih ?_ ((kept_agree _).step known input agree_stepped agree)
    obtain ⟨inner, same, _⟩ := step_inner apps w input
    rw [← same]
    exact (known_run known inner).1

/-- In every run of session control over NSP with `maxconns + 1` a divisor of
65536, in which no connect timer runs out undecided, no application rejects a
link and none sends on a link in run state while it is told that the link is
gone: each conversation is about a link that NSP holds open. -/
theorem live_links_open (config : NspConfig) (ids : List Nat)
    (objects : List Object) (initial : α) (inputs : List (Input α))
    (divides : config.maxconns + 1 ∣ 65536) (drawn : InitIds config.maxconns ids)
    (patient : Run.Guarded (step apps) (fun w input => ¬ connectExpires w input)
      (start config ids objects initial) inputs) (polite : MadeOk CallRecord.Polite
      (reach apps config ids objects initial inputs)) :
    ∀ link ∈ (reach apps config ids objects initial inputs).session.live,
      (reach apps config ids objects initial inputs).IsOpen link := by
  have agree : Agree (fun _ => False) (reach apps config ids objects initial inputs) := by
    refine agree_run (known_start config ids _) ⟨nofun, nofun, ?_⟩
    exact fun link member => absurd member (AList.notMem_empty link)
  obtain ⟨inner, same, later⟩ := run_inner apps (start config ids objects initial) inputs
  have inside : reach apps config ids objects initial inputs =
      World.reach (control apps) config ids _ inner := same.symm
  have proper : CallsOk CallRecord.Proper (reach apps config ids objects initial inputs) := by
    intro record member
    rcases agree.logged record member with made | proper
    · exact (polite record made).proper
    · exact proper
  intro link member
  obtain ⟨old, kept⟩ := agree.live link member
  obtain ⟨untold, unrejected⟩ := kept id
  have rejections : (reach apps config ids objects initial inputs).rejections link = 0 := by
    refine countP_eq_zero.mpr fun record known => ?_
    rw [Bool.and_eq_true]
    rintro ⟨returned, rejects⟩
    have spared := (polite record (unrejected record known rejects)).rejectsNone link returned
    rw [rejects] at spared
    cases spared
  rw [inside] at proper old untold rejections ⊢
  have settled := settled_reach config ids _ inner link old (later patient)
    fun record known => (proper record known).silent
  have closings := settled.count
  rw [untold, rejections] at closings
  exact (tables_reach config ids _ inner divides drawn proper).opened link old closings

def connectTo17 : Input Unit :=
  .deliver 1025 (.connInit ⟨0, 7, svcNone, 2, 500, [0, 17, 0, 1, 0]⟩)

def file17 : List Object := [⟨17, [], true⟩]

def acceptor : Applications Unit :=
  .scripted fun link event =>
    match event with
    | .connectReceived _ => [.accept link [] svcNone]
    | _ => []

theorem live_links_open_accepted :
    0 ∈ (reach acceptor smallNsp [1] file17 () [connectTo17]).session.live ∧
      (reach acceptor smallNsp [1] file17 () [connectTo17]).IsOpen 0 := by
  have present : 0 ∈ (reach acceptor smallNsp [1] file17 () [connectTo17]).session.live := by
    decide +kernel
  have polite : MadeOk CallRecord.Polite (reach acceptor smallNsp [1] file17 () [connectTo17]) := by
    intro record member
    cases mem_singleton.mp member
    refine ⟨fun _ _ => rfl, ?_⟩
    intro link reason data ending
    cases ending
  refine ⟨present, live_links_open smallNsp [1] file17 () [connectTo17]
    (by decide) ⟨fun _ => 0, fun _ => Nat.zero_le _, by decide⟩ ?_ polite 0 present⟩
  exact ⟨id, trivial⟩

/-- An application that rejects a connection it has accepted keeps a
conversation about a closed link, and so does one that leaves the decision to
the connect timer. -/
theorem live_link_closed :
    InitIds smallNsp.maxconns [1] ∧ (0 ∈ (reach acceptor smallNsp [1] file17 ()
          [connectTo17, .request (.reject 0 0 [])]).session.live ∧
        ¬ (reach acceptor smallNsp [1] file17 ()
          [connectTo17, .request (.reject 0 0 [])]).IsOpen 0) ∧
      (0 ∈ (reach (.scripted fun _ _ => []) smallNsp [1] file17 ()
          [connectTo17, .expire 0]).session.live ∧
        ¬ (reach (.scripted fun _ _ => []) smallNsp [1] file17 ()
          [connectTo17, .expire 0]).IsOpen 0) := by
  refine ⟨⟨fun _ => 0, fun _ => Nat.zero_le _, by decide⟩, ⟨?_, ?_⟩, ?_, ?_⟩
  · decide +kernel
  · decide +kernel
  · decide +kernel
  · decide +kernel

end Decnet.Session
