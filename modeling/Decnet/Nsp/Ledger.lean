import Decnet.Nsp.Runs

/-!
# Accounts of links

A property of a link may also speak about the calls that session control has
made about it.  `Ledger` collects what such a property has to respect: what a
packet or a timer does to the link, the calls, and each notification with the
calls made inside it and what NSP does to the link before and after.  A
property that does holds of every link in every run.
-/

namespace Decnet.Nsp

open Relation Function Connection

namespace Connection

def callReturns (c : Connection) : Call → Bool
  | .accept _ data fcopt => c.acceptReturns data fcopt
  | .reject _ _ data => World.rejectReturns data
  | .disconnect _ _ data => c.disconnectReturns data
  | _ => true

structure Noted (c : Connection) (link : Ptr) (record : CallRecord) : Prop where
  target : record.call.target = some link
  returned : record.returned = c.callReturns record.call
  running : record.running = true ↔ c.state = .run
  isOpen : record.isOpen = true → c.closings = 0

end Connection

/-- What NSP does to a link after session control has been told about it. -/
def Upcall.finish : Upcall → Connection → Connection
  | .connectConfirmed _ => Connection.withState .run
  | .connectRejected _ _ => fun c => c.clearQueues.noteClosing.withState .cl
  | .disconnected _ _ => fun c => c.noteClosing.withState .cl
  | _ => id

abbrev Account := Ptr → List CallRecord → Connection → Prop

/-- An account of links, and what takes its place while session control is told
something about the link.  Links from `base` on are new. -/
structure Ledger (heeds : Ptr → Heeds) (ok : CallRecord → Prop)
    (lapses : Prop) (config : NspConfig) (base : Nat) where
  own : Account
  told : Upcall → Account
  outbound : ∀ {link}, base ≤ link → ∀ addr dest payload,
    own link [] ((Connection.create config addr dest).startOutbound config payload)
  inbound : ∀ {link}, base ≤ link → ∀ addr src message,
    told (.connectReceived message.payload) link []
      (((Connection.create config addr src).connectReceived config
        message).noteEvent (.connectReceived message.payload))
  op : ∀ {link log c c'}, own link log c → Connection.Op (heeds link) c c' → own link log c'
  call : ∀ {link log c record}, own link log c → c.Noted link record → ok record →
      own link (log ++ [record]) (World.called config record.call c)
  inside : ∀ {link upcall log c record}, told upcall link log c →
    c.Noted link record → ok record → record.inside = some (link, upcall) →
      told upcall link (log ++ [record]) (World.called config record.call c)
  inform : ∀ {link upcall log c}, own link log c → upcall.midway = true →
    (heeds link).Hears upcall → told upcall link log (c.noteEvent upcall)
  confirmed : ∀ {link log c message}, own link log c → (c.state = .ci ∨ c.state = .cd) →
      told (.connectConfirmed message.dataCtl) link log
        (((c.confirm config message).withState .run).noteEvent (.connectConfirmed message.dataCtl))
  refused : ∀ {link log c reason data}, own link log c → (c.state = .ci ∨ c.state = .cd) →
      told (.connectRejected reason data) link log (c.noteEvent (.connectRejected reason data))
  ended : ∀ {link log c prepare reason data}, own link log c → Connection.Expiry prepare →
    ((c.state ≠ .s0 ∧ c.state ≠ .cr ∧ c.state ≠ .cl) ∨ c.txq ≠ []) →
      told (.disconnected reason data) link log
        ((prepare c).clearQueues.noteEvent (.disconnected reason data))
  finished : ∀ {link upcall log c}, told upcall link log c → own link log (upcall.finish c)
  lapsed : ∀ {link log c}, own link log c → lapses → c.state = .cr → c.timerIsRetransmit = false →
      own link log (World.called config (.reject link discObjFail []) c.stopTimer)

namespace World

variable {τ : Type*} {sc : SessionControl τ} {w w' : World τ} {link : Ptr}
  {call : Call} {upcall : Upcall} {lapses : Prop}

/-! ## Keeping accounts -/

/-- The calls about a link since there were `since` of them. -/
def log (since : Nat) (w : World τ) (link : Ptr) : List CallRecord :=
  (w.calls.drop since).filter fun record => record.call.target = some link

/-- Each link meets its account. -/
structure Meets (config : NspConfig) (base since : Nat) (account : Account)
    (w : World τ) : Prop where
  same : w.config = config
  grown : base ≤ w.allocated
  counted : since ≤ w.calls.length
  known : Known w
  fresh : ∀ link, w.allocated ≤ link → w.log since link = []
  links : ∀ link < w.allocated, account link (w.log since link) (w.links link)

variable {config : NspConfig} {base since : Nat} {account next : Account}

theorem Meets.update (meets : Meets config base since account w)
    {c : Connection} (calls : w'.calls = w.calls)
    (same : w'.config = w.config) (allocated : w'.allocated = w.allocated)
    (known : Known w') (links : w'.links = update w.links link c)
    (others : ∀ other, other ≠ link → next other = account other)
    (self : account link (w.log since link) (w.links link) →
      next link (w.log since link) c) : Meets config base since next w' := by
  have log (other : Ptr) : w'.log since other = w.log since other := by
    simp only [World.log, calls]
  refine ⟨same.trans meets.same, allocated ▸ meets.grown, calls ▸ meets.counted, known, ?_, ?_⟩
  · intro other beyond
    rw [allocated] at beyond
    exact (log other).trans (meets.fresh other beyond)
  · intro other old
    rw [allocated] at old
    rw [log, links]
    by_cases here : other = link
    · subst here
      rw [update_self]
      exact self (meets.links other old)
    · rw [update_of_ne here, others other here]
      exact meets.links other old

theorem log_logged (short : since ≤ w.calls.length) (call : Call) (link : Ptr) :
    (w.logged call).log since link =
      w.log since link ++ if call.target = some link then [w.record call]
        else [] := by
  by_cases target : call.target = some link
  · simp [log, List.drop_append_of_le_length short, record, target]
  · simp [log, List.drop_append_of_le_length short, record, target]

theorem Known.noted (known : Known w) (target : call.target = some link) :
    (w.links link).Noted link (w.record call) := by
  refine ⟨target, ?_, ?_, ?_⟩
  · cases call <;> cases target <;> rfl
  · simp [record, target]
  · intro isOpen
    have held : w.IsOpen link := by simpa [record, target] using isOpen
    exact (known.byAddr _ link held).2.2

theorem Known.act (known : Known w) (reachable : Reachable call w) :
    Known ((w.logged call).execute call) :=
  known.alters (@alters_act τ call w (fun _ _ => False) reachable)

theorem Meets.act (meets : Meets config base since account w) (reachable : Reachable call w)
    (noted : ∀ link, call.target = some link → account link (w.log since link) (w.links link) →
        account link (w.log since link ++ [w.record call]) (called config call (w.links link)))
    (born : ∀ link, w.allocated ≤ link → ∀ addr dest payload,
      account link [] ((create config addr dest).startOutbound config payload)) :
    Meets config base since account ((w.logged call).execute call) := by
  have grown := execute_allocated_le (w.logged call) call
  have log (link : Ptr) : ((w.logged call).execute call).log since link =
      w.log since link ++ if call.target = some link then [w.record call]
        else [] := by
    rw [← log_logged meets.counted]
    simp only [World.log, execute_calls]
  have untouched (link : Ptr) (beyond : w.allocated ≤ link) :
      ((w.logged call).execute call).log since link = [] := by
    have other : call.target ≠ some link :=
      fun target => Nat.not_lt.mpr beyond (reachable link target)
    rw [log, if_neg other, meets.fresh link beyond, List.append_nil]
  refine ⟨(execute_config _ call).trans meets.same, meets.grown.trans grown,
    ?_, meets.known.act reachable, ?_, ?_⟩
  · rw [execute_calls]
    exact meets.counted.trans (List.prefix_append _ _).length_le
  · exact fun link beyond => untouched link (grown.trans beyond)
  · intro link present
    by_cases old : link < w.allocated
    · rw [log, act_links w call old, meets.same]
      by_cases target : call.target = some link
      · rw [if_pos target, if_pos target]
        exact noted link target (meets.links link old)
      · rw [if_neg target, if_neg target, List.append_nil]
        exact meets.links link old
    · have beyond := Nat.le_of_not_lt old
      obtain ⟨addr, dest, payload, created⟩ := act_links_new w call beyond present
      rw [untouched link beyond, created, meets.same]
      exact born link beyond addr dest payload

/-! ## Notifications -/

section Told

variable {heeds : Ptr → Heeds} {ok : CallRecord → Prop}
  (ledger : Ledger heeds ok lapses config base)

abbrev during (link : Ptr) (upcall : Upcall) : Account :=
  Function.update ledger.own link (ledger.told upcall link)

variable {ledger}

theorem Meets.tell (meets : Meets config base since (during ledger link upcall)
      (w.entered link upcall)) (old : link < w.allocated)
    (condition : CallsOk ok (w.tell sc link upcall)) :
    Meets config base since (during ledger link upcall) (w.tell sc link upcall) := by
  have told := tell_invariant (fun w => link < w.allocated ∧
    Meets config base since (during ledger link upcall) w) condition ⟨old, meets⟩ ?_ ?_ ?_
  · exact told.2
  · exact fun _ _ ⟨old, meets⟩ => ⟨old, { meets with known := { meets.known with } }⟩
  · rintro w call ⟨old, meets⟩ inside reachable permitted
    refine ⟨old.trans_le (execute_allocated_le (w.logged call) call), meets.act reachable ?_ ?_⟩
    · intro other target
      have noted := meets.known.noted target
      by_cases here : other = link
      · subst here
        simp only [update_self]
        exact fun self => ledger.inside self noted permitted inside
      · simp only [update_of_ne here]
        exact fun self => ledger.call self noted permitted
    · intro other beyond
      have different : other ≠ link := (old.trans_le beyond).ne'
      simp only [update_of_ne different]
      exact ledger.outbound (meets.grown.trans beyond)
  · exact fun _ ⟨old, meets⟩ => ⟨old, { meets with known := { meets.known with } }⟩

theorem Meets.finish (meets : Meets config base since (during ledger link upcall) w)
    (calls : w'.calls = w.calls) (same : w'.config = w.config)
    (allocated : w'.allocated = w.allocated) (known : Known w')
    (links : w'.links =
      Function.update w.links link (upcall.finish (w.links link))) :
    Meets config base since ledger.own w' := by
  refine meets.update calls same allocated known links
    (fun other here => (Function.update_of_ne here _ _).symm) ?_
  simp only [Function.update_self]
  exact ledger.finished

section

variable (meets : Meets config base since ledger.own w)

include meets

/-- A notification with what NSP does to the link before and after it. -/
theorem Meets.inform {c : Connection} (old : link < w.allocated)
    (passes : (w.links link).Passes (heeds link).learns c)
    (later : ∀ payload, upcall ≠ .connectReceived payload)
    (begun : ledger.own link (w.log since link) (w.links link) →
      ledger.told upcall link (w.log since link) (c.noteEvent upcall))
    (condition : CallsOk ok ((w.put link c).tell sc link upcall)) :
    Meets config base since (during ledger link upcall) ((w.put link c).tell sc link upcall) := by
  have alters : Alters (fun link => (heeds link).learns) w ((w.put link c).entered link upcall) :=
    .tail (.tail (.single (.put w link c old passes)) (.event _ link upcall old later))
        (.note _ _ _ _ (some (link, upcall)) _ List.prefix_rfl)
  refine Meets.tell (w := w.put link c) ?_ old condition
  refine meets.update rfl rfl rfl (meets.known.alters alters) (c := c.noteEvent upcall) ?_
    (fun other here => update_of_ne here _ _) ?_
  · simp [entered, put]
  · simp only [update_self]
    exact begun

/-! ## Steps -/

theorem Meets.linkStep (old : link < w.allocated) (condition : CallsOk ok w')
    (step : LinkStep sc (heeds link) lapses link w w') : Meets config base since ledger.own w' := by
  have known : Known w' := meets.known.alters (alters_linkSteps old (.single step))
  cases step with
  | op c op =>
    exact meets.update rfl rfl rfl known rfl (fun _ _ => rfl) fun own => ledger.op own op
  | inform upcall midway heard =>
    have passing : upcall.finish = id := by
      cases upcall <;> first | rfl | cases midway
    have later (payload : Bytes) : upcall ≠ .connectReceived payload := by
      rintro rfl
      cases midway
    have same := w.put_self link
    rw [← same] at condition known ⊢
    have told := meets.inform old (.refl _) later
      (fun own => ledger.inform own midway heard) condition
    refine told.finish rfl rfl rfl known ?_
    rw [passing]
    exact (Function.update_eq_self link _).symm
  | confirmed message opening learned =>
    have same : (w.modify link (confirm w.config message)).setState link .run =
          w.put link (((w.links link).confirm config message).withState .run) := by
      simp [setState, modify_eq_put, meets.same]
    rw [same] at condition known ⊢
    have passes : (w.links link).Passes (heeds link).learns
        (((w.links link).confirm config message).withState .run) :=
      (passes_confirm config opening learned).restate (by simp)
    have told := meets.inform old passes (by simp)
      (fun own => ledger.confirmed own opening) condition
    exact told.finish rfl rfl rfl known rfl
  | refused reason data opening =>
    have earlier : CallsOk ok ((w.put link (w.links link)).tell sc link
        (.connectRejected reason data)) := condition.before (by simp [setState, closeQuietly])
    have told := meets.inform old (.refl _) (by simp)
      (fun own => ledger.refused own opening) earlier
    refine told.finish ?_ ?_ ?_ known ?_
    · simp [setState, closeQuietly]
    · simp [setState, closeQuietly]
    · simp [setState, closeQuietly]
    · simp [setState, closeQuietly, Upcall.finish]
  | ended prepare reason data expiry live =>
    have same : (w.modify link prepare).modify link clearQueues =
        w.put link (prepare (w.links link)).clearQueues := by
      simp [modify_eq_put]
    simp only [close, same] at condition known ⊢
    have earlier : CallsOk ok ((w.put link (prepare (w.links link)).clearQueues).tell sc link
          (.disconnected reason data)) := condition.before (by simp [setState])
    have told := meets.inform old (passes_expiry expiry (w.links link)).clearQueues (by simp)
      (fun own => ledger.ended own expiry live) earlier
    refine told.finish ?_ ?_ ?_ known ?_
    · simp [setState]
    · simp [setState]
    · simp [setState]
    · simp [setState, Upcall.finish]
  | lapsed due waiting kind =>
    refine meets.update (reject_calls _ link _ _) (execute_config _ (.reject link discObjFail []))
      (reject_allocated _ link _ _) known (by rw [reject_links]; simp; rfl) (fun _ _ => rfl) ?_
    intro own
    have lapsed := ledger.lapsed own due waiting kind
    simpa [meets.same] using lapsed

theorem Meets.linkSteps (old : link < w.allocated) (condition : CallsOk ok w')
    (steps : LinkSteps sc (heeds link) lapses link w w') :
    Meets config base since ledger.own w' := by
  induction steps with
  | refl => exact meets
  | tail earlier last ih =>
    have still := old.trans_le (alters_linkSteps old earlier).onward.allocated
    have onward := (alters_linkSteps still (.single last)).onward
    exact (ih (condition.before onward.calls)).linkStep still condition last

theorem Meets.inbound {rest : World τ} {addr : Nat} (src : Nodeid)
    (message : ConnInit) (taken : w.getId = some (addr, rest))
    (condition : CallsOk ok ((rest.newInbound addr src
      message.srcaddr).startInbound sc rest.allocated message)) :
    Meets config base since ledger.own ((rest.newInbound addr src message.srcaddr).startInbound sc
        rest.allocated message) := by
  obtain ⟨allocated, received⟩ := received_of src message taken
  have fresh : rest.allocated < (rest.inbound addr src message).allocated := Nat.lt_succ_self _
  have begun : Meets config base since
      (during ledger rest.allocated (.connectReceived message.payload))
      ((rest.inbound addr src message).entered rest.allocated
        (.connectReceived message.payload)) := by
    generalize (rest.inbound addr src message).entered rest.allocated _ = middle at received
    have log (link : Ptr) : middle.log since link = w.log since link := by
      simp only [World.log, received.calls]
    rw [allocated]
    refine ⟨received.config.trans meets.same, meets.grown.trans received.onward.allocated,
      received.calls ▸ meets.counted, received.known meets.known, ?_, ?_⟩
    · intro link beyond
      exact (log link).trans (meets.fresh link (received.onward.allocated.trans beyond))
    · intro link present
      rw [received.allocated] at present
      rw [log, received.links]
      by_cases here : link = w.allocated
      · subst here
        rw [meets.fresh _ le_rfl, meets.same]
        simp only [update_self]
        exact ledger.inbound meets.grown addr src message
      · rw [update_of_ne here]
        simp only [update_of_ne here]
        exact meets.links link (Nat.lt_of_le_of_ne (Nat.lt_succ_iff.mp present) here)
  have told := begun.tell fresh condition
  exact told.finish rfl rfl rfl told.known (update_eq_self rest.allocated _).symm

theorem Meets.step {input : Input τ} {outside : Prop}
    (stepped : Stepped sc heeds lapses outside w input w')
    (condition : CallsOk ok w') : Meets config base since ledger.own w' := by
  cases stepped with
  | act call _ reachable =>
    have permitted : ok (w.record call) := condition _ (by simp)
    refine meets.act reachable ?_ ?_
    · exact fun link target own => ledger.call own (meets.known.noted target) permitted
    · exact fun link beyond => ledger.outbound (meets.grown.trans beyond)
  | think | note => exact { meets with known := { meets.known with } }
  | handled link _ old steps => exact meets.linkSteps old condition steps
  | opened src message addr rest _ taken _ =>
    exact meets.inbound src message taken condition

theorem Meets.run {inputs : List (Input τ)} (guarded : Run.Guarded (World.step sc)
      (fun w input => w.AttentiveEach sc heeds input ∧ (w.connectExpires input → lapses)) w inputs)
    (condition : CallsOk ok (inputs.foldl (World.step sc) w)) :
    Meets config base since ledger.own (inputs.foldl (World.step sc) w) := by
  induction inputs generalizing w with
  | nil => exact meets
  | cons input inputs ih =>
    obtain ⟨attentive, overdue⟩ := guarded.1
    have stepped : Stepped sc heeds lapses True w input (w.step sc input) :=
      stepped meets.known attentive overdue fun _ => trivial
    have later := (stepped.known meets.known).1
    have here : CallsOk ok (w.step sc input) :=
      condition.before (@known_run τ sc _ later inputs).2.calls
    exact ih (meets.step stepped here) guarded.2 condition

end

theorem meets_start (ledger : Ledger heeds ok lapses config 0) (ids : List Nat) (session : τ) :
    Meets config 0 0 ledger.own (start config ids session) :=
  ⟨rfl, le_rfl, le_rfl, known_start config ids session, fun _ _ => rfl,
    fun link present => absurd present (Nat.not_lt_zero link)⟩

end Told

end World

end Decnet.Nsp
