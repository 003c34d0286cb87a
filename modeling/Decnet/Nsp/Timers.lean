import Decnet.Nsp.Pacing

/-!
# The timer of a running link

One timer serves both for retransmission and for proving that the link is still
there.  While data is in flight on a link in run state it is armed for
retransmission.  Interrupts are never resent, and once everything in flight is
acknowledged the timer is stopped and not armed again.
-/

namespace Decnet.Nsp

open Relation Connection World List ConnState

namespace Connection

/-- While data is in flight the retransmit timer is armed. -/
def Watched (c : Connection) : Prop :=
  c.inFlight ≠ 0 → c.timer = true ∧ c.timerIsRetransmit = true

/-- The timer is armed, for retransmission just when data is in flight. -/
structure Ticking (c : Connection) : Prop where
  armed : c.timer = true
  kind : c.timerIsRetransmit = true ↔ c.inFlight ≠ 0

/-- The timer is armed for retransmission of something in flight, or it is as
it was or armed, with something in flight just when there was before. -/
def Carries (c c' : Connection) : Prop :=
  (c'.timer = true ∧ c'.timerIsRetransmit = true ∧ c'.inFlight ≠ 0) ∨
    ((c.timer = true → c'.timer = true) ∧ c'.timerIsRetransmit = c.timerIsRetransmit ∧
      (c'.inFlight = 0 ↔ c.inFlight = 0))

section Timers

variable {config : NspConfig} {c c' : Connection}

theorem Watched.carries (watched : c.Watched) (carries : Carries c c') : c'.Watched := by
  intro flying
  rcases carries with ⟨armed, kind, _⟩ | ⟨armed, kind, same⟩
  · exact ⟨armed, kind⟩
  · obtain ⟨timer, retransmits⟩ := watched fun none => flying (same.2 none)
    exact ⟨armed timer, kind.trans retransmits⟩

theorem Ticking.carries (ticking : c.Ticking) (carries : Carries c c') : c'.Ticking := by
  rcases carries with ⟨armed, kind, flying⟩ | ⟨armed, kind, same⟩
  · exact ⟨armed, iff_of_true kind flying⟩
  · refine ⟨armed ticking.armed, ?_⟩
    rw [kind, ticking.kind, Ne, Ne, same]

theorem carries_same (timer : c'.timer = c.timer)
    (kind : c'.timerIsRetransmit = c.timerIsRetransmit) (txq : c'.txq = c.txq) : Carries c c' := by
  refine .inr ⟨fun armed => timer.trans armed, kind, ?_⟩
  rw [inFlight, inFlight, txq]

theorem Carries.trans {c'' : Connection} (first : Carries c c')
    (second : Carries c' c'') : Carries c c'' := by
  rcases second with done | ⟨armed, kind, same⟩
  · exact .inl done
  · rcases first with ⟨armed', kind', flying⟩ | ⟨armed', kind', same'⟩
    · exact .inl ⟨armed armed', kind.trans kind', fun none => flying (same.1 none)⟩
    · exact .inr ⟨fun timer => armed (armed' timer), kind.trans kind', same.trans same'⟩

/-! ## Operations -/

theorem sendBlockedLoop_silent (timing : Bool) (queue : List TxEntry)
    (silent : (c.sendBlockedLoop timing queue).2 = []) :
    (c.sendBlockedLoop timing queue).1 = queue := by
  induction queue generalizing timing with
  | nil => rfl
  | cons e rest ih =>
    rw [sendBlockedLoop] at silent ⊢
    split at silent
    · rename_i isSent
      rw [if_pos isSent]
      exact congrArg (e :: ·) (ih timing silent)
    · rename_i notSent
      rw [if_neg notSent]
      split at silent
      · cases silent
      · rename_i blocked
        rw [if_neg blocked]

theorem sendBlockedLoop_flying (timing : Bool) (queue : List TxEntry)
    (sends : (c.sendBlockedLoop timing queue).2 ≠ []) :
    ∃ e ∈ (c.sendBlockedLoop timing queue).1, e.sent = true := by
  induction queue generalizing timing with
  | nil => exact absurd rfl sends
  | cons e rest ih =>
    rw [sendBlockedLoop] at sends ⊢
    split at sends
    · rename_i isSent
      rw [if_pos isSent]
      exact ⟨e, mem_cons_self, isSent⟩
    · rename_i notSent
      rw [if_neg notSent]
      split at sends
      · rename_i allowed
        rw [if_pos allowed]
        exact ⟨_, mem_cons_self, rfl⟩
      · exact absurd rfl sends

theorem inFlight_ne_zero (flying : ∃ e ∈ c.txq, e.sent = true) : c.inFlight ≠ 0 :=
  Nat.ne_of_gt (countP_pos_iff.2 flying)

theorem carries_sendBlocked (c : Connection) : Carries c c.sendBlocked := by
  have silent := @sendBlockedLoop_silent c (c.txq.any fun entry => entry.timed) c.txq
  have flying := @sendBlockedLoop_flying c (c.txq.any fun entry => entry.timed) c.txq
  unfold sendBlocked
  dsimp only
  split
  · rename_i none
    exact carries_same rfl rfl (silent (isEmpty_iff.1 none))
  · rename_i some
    refine .inl ⟨rfl, rfl, inFlight_ne_zero (flying ?_)⟩
    simpa using some

theorem dropWhile_eq_self_of_untaken {take : TxEntry → Bool}
    {queue : List TxEntry} (untaken : queue.takeWhile take = []) :
    queue.dropWhile take = queue := by
  have parts := takeWhile_append_dropWhile (p := take) (l := queue)
  rw [untaken] at parts
  exact parts

theorem processAck_timing (num : Seq) (c : Connection) :
    ∃ popped : Connection, c.processAck num = popped.sendBlocked ∧
      popped.txq = c.txq.dropWhile (acknowledges num) ∧
      (popped.timer = true ∧ popped.timerIsRetransmit = true ∧ popped.inFlight ≠ 0 ∨
        popped.inFlight = 0 ∧ c.txq.takeWhile (acknowledges num) ≠ [] ∨
        c.txq.takeWhile (acknowledges num) = [] ∧ popped.timerIsRetransmit = c.timerIsRetransmit ∧
          (c.timerIsRetransmit = false ∨ c.txq ≠ [] → popped.timer = c.timer)) := by
  unfold processAck
  dsimp only
  split
  · rename_i progress
    have taken : c.txq.takeWhile (acknowledges num) ≠ [] := by
      simpa using progress
    split
    · rename_i flying
      exact ⟨_, rfl, rfl, .inl ⟨rfl, rfl, Nat.ne_of_gt flying⟩⟩
    · rename_i landed
      have none := Nat.eq_zero_of_not_pos landed
      split
      · exact ⟨_, rfl, rfl, .inr (.inl ⟨none, taken⟩)⟩
      · exact ⟨_, rfl, rfl, .inr (.inl ⟨none, taken⟩)⟩
  · rename_i idle
    have untaken : c.txq.takeWhile (acknowledges num) = [] := by
      simpa using idle
    have whole := dropWhile_eq_self_of_untaken untaken
    split
    · rename_i stopped
      refine ⟨_, rfl, rfl, .inr (.inr ⟨untaken, rfl, ?_⟩)⟩
      intro busy
      rw [whole] at stopped
      simp only [Bool.and_eq_true, List.isEmpty_iff] at stopped
      rcases busy with other | queued
      · rw [stopped.2] at other
        cases other
      · exact absurd stopped.1 queued
    · exact ⟨_, rfl, rfl, .inr (.inr ⟨untaken, rfl, fun _ => rfl⟩)⟩

theorem Watched.processAck (watched : c.Watched) (num : Seq) : (c.processAck num).Watched := by
  obtain ⟨popped, same, queue, timing⟩ := processAck_timing num c
  rw [same]
  refine Watched.carries ?_ (carries_sendBlocked popped)
  intro flying
  rcases timing with ⟨armed, kind, _⟩ | ⟨landed, _⟩ | ⟨untaken, kind, timer⟩
  · exact ⟨armed, kind⟩
  · exact absurd landed flying
  · rw [dropWhile_eq_self_of_untaken untaken] at queue
    rw [inFlight, queue] at flying
    obtain ⟨armed, retransmits⟩ := watched flying
    have queued : c.txq ≠ [] := by
      intro empty
      simp [empty] at flying
    exact ⟨(timer (.inr queued)).trans armed, kind.trans retransmits⟩

def SparedBy (c : Connection) (num : Seq) : Prop :=
  c.inFlight = 0 ∨ ∃ e ∈ c.txq, e.sent = true ∧ num.less e.seq = true

theorem Ticking.processAck (ticking : c.Ticking) {num : Seq}
    (spared : c.SparedBy num) : (c.processAck num).Ticking := by
  obtain ⟨popped, same, queue, timing⟩ := processAck_timing num c
  rw [same]
  refine Ticking.carries ?_ (carries_sendBlocked popped)
  have untouched (untaken : c.txq.takeWhile (acknowledges num) = []) :
      popped.inFlight = c.inFlight := by
    rw [dropWhile_eq_self_of_untaken untaken] at queue
    rw [inFlight, inFlight, queue]
  rcases spared with none | ⟨e, present, isSent, uncovered⟩
  · have untaken : c.txq.takeWhile (acknowledges num) = [] := by
      rw [takeWhile_eq_nil_iff]
      intro inside acked
      have first := get_mem c.txq ⟨0, inside⟩
      have unsent := countP_eq_zero.1 none _ first
      simp [acknowledges] at acked
      exact unsent acked.1
    have kind : c.timerIsRetransmit = false := by
      rw [← Bool.not_eq_true, ticking.kind]
      exact fun flying => flying none
    rcases timing with ⟨_, _, flying⟩ | ⟨_, taken⟩ | ⟨_, same, timer⟩
    · rw [untouched untaken] at flying
      exact absurd none flying
    · exact absurd untaken taken
    · refine ⟨(timer (.inl kind)).trans ticking.armed, ?_⟩
      rw [same, untouched untaken]
      exact ticking.kind
  · have remains : e ∈ popped.txq := by
      rw [queue]
      have member := present
      rw [← takeWhile_append_dropWhile (p := acknowledges num) (l := c.txq)] at member
      rcases mem_append.1 member with taken | left
      · have acked := mem_takeWhile_imp taken
        simp [acknowledges, uncovered] at acked
      · exact left
    have flying := inFlight_ne_zero ⟨e, remains, isSent⟩
    rcases timing with ⟨armed, kind, _⟩ | ⟨landed, _⟩ | ⟨untaken, same, timer⟩
    · exact ⟨armed, iff_of_true kind flying⟩
    · exact absurd landed flying
    · refine ⟨(timer (.inr (ne_nil_of_mem present))).trans ticking.armed, ?_⟩
      rw [same, untouched untaken]
      exact ticking.kind

theorem Watched.processNak (watched : c.Watched) (lined : c.Lined) : c.processNak.Watched := by
  rcases processNak_cases c with same | ⟨_, _, _, same⟩
  · rw [same]
    exact watched
  · rw [same]
    refine Watched.carries ?_ (carries_sendBlocked _)
    intro flying
    obtain ⟨e, member, isSent⟩ := countP_pos_iff.1 (Nat.pos_of_ne_zero flying)
    obtain ⟨old, present, rfl⟩ := mem_map.1 member
    obtain ⟨_, _, _, slot⟩ := lined.slots.mem present
    cases sent : old.sent <;> simp [unsend, sent, slot.isData] at isSent

theorem Watched.routeAck (watched : c.Watched) (lined : c.Lined)
    (ack : Option AckNum) (onData : Bool) : (c.routeAck ack onData).Watched := by
  generalize after : c.routeAck ack onData = c'
  cases after ▸ routed ack onData c with
  | none => exact watched
  | other => exact watched.carries (carries_same rfl rfl rfl)
  | data field => exact watched.processAck field.num
  | nak field =>
    exact (watched.processAck field.num).processNak (lined.processAck field.num)

/-- What an arriving acknowledgement field must be like for the timer to stay
armed: it is not a negative one for data, and it does not cover everything that
is in flight. -/
def Spares (c : Connection) (ack : Option AckNum) (onData : Bool) : Prop :=
  ∀ field, ack = some field → (if field.isCross then !onData else onData) = true →
      field.isNak = false ∧ c.SparedBy field.num

theorem Ticking.routeAck (ticking : c.Ticking) {ack : Option AckNum}
    {onData : Bool} (spares : c.Spares ack onData) : (c.routeAck ack onData).Ticking := by
  generalize after : c.routeAck ack onData = c'
  cases after ▸ routed ack onData c with
  | none => exact ticking
  | other => exact ticking.carries (carries_same rfl rfl rfl)
  | data field present forData =>
    exact ticking.processAck (spares field present forData).2
  | nak field present forData negative =>
    rw [(spares field present forData).1] at negative
    cases negative

theorem carries_applyCredit (message : LinkSvcMsg) (c : Connection) :
    Carries c (c.applyCredit message) := by
  obtain ⟨granted, same⟩ := applyCredit_cases message c
  have given : Carries c (c.withCredit granted) := carries_same rfl rfl rfl
  rcases same with same | same
  · exact same ▸ given
  · exact same ▸ given.trans (carries_sendBlocked _)

theorem resendQueue_flying {queue : List TxEntry} (flying : ∃ e ∈ queue, e.sent = true) :
    ∃ e ∈ (resendQueue queue).1, e.sent = true := by
  induction queue with
  | nil => exact flying
  | cons first rest ih =>
    rw [resendQueue]
    split
    · rename_i isSent
      exact ⟨_, mem_cons_self, isSent⟩
    · rename_i notSent
      obtain ⟨e, member, isSent⟩ := flying
      rcases mem_cons.1 member with rfl | later
      · exact absurd isSent notSent
      · obtain ⟨x, present, sent⟩ := ih ⟨e, later, isSent⟩
        exact ⟨x, mem_cons_of_mem _ present, sent⟩

theorem carries_resend (retries : Nat) (flying : c.inFlight ≠ 0) :
    Carries c (c.stopTimer.setRetries retries).resend := by
  refine .inl ⟨rfl, rfl, inFlight_ne_zero ?_⟩
  exact resendQueue_flying (countP_pos_iff.1 (Nat.pos_of_ne_zero flying))

variable {heeds : Heeds} {ok : Call → Prop}

theorem carries_op (op : Op heeds c c') (running : c.state = .run) :
    Carries c c' ∨ c.timerIsRetransmit = true ∧ c.inFlight = 0 ∧ c' = c.stopTimer ∨
      ∃ ack onData, heeds.ack c ack onData ∧ c' = c.routeAck ack onData := by
  cases does_op op with
  | receives half timer =>
    refine .inl (.inr ⟨?_, rfl, Iff.rfl⟩)
    intro armed
    exact timer.elim (fun same => same.trans armed) id
  | routeAck ack onData heeded =>
    exact .inr (.inr ⟨ack, onData, heeded, rfl⟩)
  | applyCredit message => exact .inl (carries_applyCredit message c)
  | confirmReject => exact .inl (carries_same rfl rfl rfl)
  | connectAcked opening =>
    rw [running] at opening
    cases opening
  | accepted confirming =>
    rw [running] at confirming
    cases confirming
  | stopTimer idle =>
    rw [running] at idle
    rcases idle with other | other | ⟨kind, none⟩
    · cases other
    · cases other
    · exact .inr (.inl ⟨kind, none, rfl⟩)
  | resend retries _ flying => exact .inl (carries_resend retries flying)

/-! ## Entering run state -/

theorem Shape.processAck_zero_txq (shape : c.Shape) (early : c.Early) :
    (c.processAck (Mod.wrap 0)).txq = [] := by
  obtain ⟨popped, same, queue, _⟩ := processAck_timing (Mod.wrap 0) c
  rw [shape.dropWhile_zero early] at queue
  rw [same]
  exact (sends_sendBlocked popped).steady.txq queue

theorem Shape.confirm_txq (shape : c.Shape) (early : c.Early)
    (config : NspConfig) (message : ConnConf) : (c.confirm config message).txq = [] := by
  obtain ⟨learned, aside, _, same⟩ := confirm_eq config message c
  have acked := (shape.aside aside).processAck_zero_txq (early.aside aside)
  rcases same with same | same
  · rw [same]
    exact acked
  · rw [same]
    exact (aside_sendAck _).txq.trans acked

theorem inFlight_of_empty (empty : c.txq = []) : c.inFlight = 0 := by
  rw [inFlight, empty]
  rfl

theorem Shape.confirm_ticking (shape : c.Shape) (early : c.Early) (config : NspConfig)
    (message : ConnConf) : (((c.confirm config message).withState .run).noteEvent
      (.connectConfirmed message.dataCtl)).Ticking := by
  refine ⟨rfl, iff_of_false Bool.false_ne_true fun flying => flying ?_⟩
  exact inFlight_of_empty (shape.confirm_txq early config message)

theorem Ticking.watched (ticking : c.Ticking) : c.Watched :=
  fun flying => ⟨ticking.armed, ticking.kind.2 flying⟩

/-! ## Calls -/

theorem carries_queueSegments (ps : List Piece) (c : Connection) :
    Carries c (ps.foldl queueSegment c) := by
  induction ps generalizing c with
  | nil => exact carries_same rfl rfl rfl
  | cons piece ps ih =>
    refine Carries.trans ?_ (ih _)
    refine .inr ⟨id, rfl, ?_⟩
    simp [inFlight, queueSegment]

theorem carries_sendData (data : Bytes) (c : Connection) : Carries c (c.sendData data) := by
  unfold sendData
  split
  · exact carries_same rfl rfl rfl
  · have noted : Carries c { c with submitted := c.submitted ++ [data] } := carries_same rfl rfl rfl
    exact (noted.trans (carries_queueSegments _ _)).trans (carries_sendBlocked _)

theorem carries_called (call : Call) (running : (called config call c).state = .run) :
    c.state = .run ∧ Carries c (called config call c) := by
  obtain ⟨c', same, outcome⟩ := called_outcome config call c
  rw [same] at running ⊢
  cases outcome with
  | ignored => exact ⟨running, carries_same rfl rfl rfl⟩
  | unconfirmed | accepted | rejected | left => cases running
  | sent link data inRun => exact ⟨inRun, carries_sendData data c⟩
  | interrupted _ _ _ _ inRun => exact ⟨inRun, carries_same rfl rfl rfl⟩

theorem carries_calls (calls : Called config ok c c')
    (running : c'.state = .run) : c.state = .run ∧ Carries c c' := by
  induction calls with
  | refl => exact ⟨running, carries_same rfl rfl rfl⟩
  | tail _ last ih =>
    obtain ⟨call, _, rfl⟩ := last
    obtain ⟨before, carries⟩ := carries_called call running
    obtain ⟨earlier, carried⟩ := ih before
    exact ⟨earlier, carried.trans carries⟩

theorem carries_noteEvent (upcall : Upcall) (c : Connection) : Carries c (c.noteEvent upcall) :=
  carries_same rfl rfl rfl

theorem carries_withState (next : ConnState) (c : Connection) : Carries c (c.withState next) :=
  carries_same rfl rfl rfl

/-! ## Data in flight is watched -/

/-- Session control does not disconnect a link while it is told that the link
is confirmed. -/
def ConfirmedStays : Permits := fun upcall call =>
  ∀ data, upcall = .connectConfirmed data →
    ∀ link reason payload, call ≠ .disconnect link reason payload

theorem Watched.called {call : Call} (watched : c.Watched) (decided : c.state ≠ .cr)
    (stays : ∀ link reason payload, call ≠ .disconnect link reason payload) :
    (called config call c).Watched := by
  obtain ⟨c', same, outcome⟩ := called_outcome config call c
  rw [same]
  cases outcome with
  | ignored => exact watched
  | unconfirmed _ _ _ waiting | accepted _ _ _ _ waiting =>
    exact absurd waiting decided
  | rejected => exact fun flying => absurd (inFlight_of_empty rfl) flying
  | left link reason data => exact absurd rfl (stays link reason data)
  | sent link data => exact watched.carries (carries_sendData data c)
  | interrupted => exact watched.carries (carries_same rfl rfl rfl)

theorem Watched.calls (watched : c.Watched)
    (decided : c.state ≠ .cr) (calls : Called config ok c c') (stays : ∀ call, ok call →
      ∀ link reason payload, call ≠ .disconnect link reason payload) :
    c'.Watched ∧ c'.state ≠ .cr := by
  refine calls.keeps ⟨watched, decided⟩ ?_
  rintro c call permitted ⟨still, undecided⟩
  exact ⟨still.called undecided (stays call permitted), called_decided undecided config call⟩

/-- In run state data in flight is watched. -/
structure Attended (c : Connection) : Prop where
  shape : c.Shape
  watched : c.state = .run → c.Watched

theorem Attended.op (attended : c.Attended)
    (op : Op heeds c c') (running : c'.state = .run) : c'.Watched := by
  rcases steady_op op with steady | ⟨_, _, rfl⟩ | ⟨accepting, _, rfl⟩
  · have state : c.state = .run := steady.state.symm.trans running
    have watched := attended.watched state
    rcases carries_op op state with carries | ⟨_, none, rfl⟩ | ⟨ack, onData, _, rfl⟩
    · exact watched.carries carries
    · exact fun flying => absurd none flying
    · have lined := attended.shape.resolve_right fun opening => opening.not_run state
      exact watched.routeAck lined ack onData
  · cases running
  · have early : c.Early := by simp [Early, accepting]
    have none := inFlight_of_empty (attended.shape.processAck_zero_txq early)
    exact Watched.carries (fun flying => absurd none flying) (carries_withState .run _)

theorem Attended.change (attended : c.Attended)
    (change : Change heeds ConfirmedStays config c c') : c'.Attended := by
  refine ⟨(attended.shape.orderly_change change).1, ?_⟩
  intro running
  cases change with
  | op _ op => exact attended.op op running
  | call call =>
    obtain ⟨state, carries⟩ := carries_called call running
    exact (attended.watched state).carries carries
  | inform _ upcall _ _ calls =>
    obtain ⟨state, carries⟩ := carries_calls calls running
    exact (attended.watched state).carries ((carries_noteEvent upcall c).trans carries)
  | confirmed inner message opening calls =>
    have told := attended.shape.confirm_ticking (early_of_opening opening) config message
    obtain ⟨after, _⟩ := told.watched.calls noConfusion calls
      fun call permitted => permitted _ rfl
    exact after.carries (carries_withState .run inner)
  | refused | ended | lapsed => cases running

theorem attended_begun (begun : Begun ConfirmedStays config c) : c.Attended := by
  refine ⟨(disciplined_begun begun).shape, ?_⟩
  intro running
  cases begun with
  | outbound addr dest payload => cases running
  | inbound addr src message _ calls =>
    obtain ⟨state, _⟩ := carries_calls calls running
    cases state

/-! ## What an expiry resends -/

def oldestUnacked (c : Connection) : List Frame :=
  ((c.txq.find? fun e => e.sent).toList ++ c.intTxq.head?.toList).map TxEntry.frame

theorem find_sent_of_landed (landed : c.inFlight = 0) : (c.txq.find? fun e => e.sent) = none := by
  rw [find?_eq_none]
  exact countP_eq_zero.1 landed

/-! ## The timer of an outbound link -/

def Inbound (c : Connection) : Prop :=
  ∃ payload, Upcall.connectReceived payload ∈ c.events

/-- Session control does not end a link while it is told that the link is
confirmed. -/
def ConfirmedLives : Permits := fun upcall call =>
  ∀ data, upcall = .connectConfirmed data →
    ∀ link reason payload, call ≠ .disconnect link reason payload ∧
      call ≠ .reject link reason payload

theorem calls_events (calls : Called config ok c c') : c'.events = c.events :=
  calls.keeps rfl fun _ call _ so => (called_events config call _).trans so

theorem told_change {permits : Permits} {known : Upcall}
    (change : Change heeds permits config c c') (member : known ∈ c.events) :
    known ∈ c'.events := by
  refine change.keeps member ?_ ?_ ?_ ?_ ?_ ?_ ?_ ?_
  · intro c c' op told
    rcases steady_op op with steady | ⟨_, steady, rfl⟩ | ⟨_, steady, rfl⟩
    · exact steady.events.symm ▸ told
    · exact steady.events.symm ▸ told
    · exact steady.events.symm ▸ told
  · exact fun call c told => (called_events config call c).symm ▸ told
  · exact fun upcall c _ told => mem_append_left _ told
  · exact fun message c told => (steady_confirm config message c).events.symm ▸ told
  · intro prepare c expiry told
    cases expiry <;> exact told
  · exact fun _ _ told => told
  · exact fun _ told => told
  · exact fun _ told => told

theorem Inbound.change {permits : Permits}
    (inbound : c.Inbound) (change : Change heeds permits config c c') : c'.Inbound :=
  inbound.imp fun _ member => told_change change member

/-- A call leaves the state alone, ends the link, or answers a connect. -/
theorem called_state (config : NspConfig) (call : Call) (c : Connection) :
    (called config call c).state = c.state ∨ (called config call c).state = .cl ∧
        (∃ link reason data, call = .reject link reason data) ∨ (called config call c).state = .di ∧
        (∃ link reason data, call = .disconnect link reason data) ∨ c.state = .cr := by
  obtain ⟨c', same, outcome⟩ := called_outcome config call c
  rw [same]
  cases outcome with
  | ignored | interrupted => exact .inl rfl
  | unconfirmed _ _ _ waiting | accepted _ _ _ _ waiting =>
    exact .inr (.inr (.inr waiting))
  | rejected link reason data =>
    exact .inr (.inl ⟨rfl, link, reason, data, rfl⟩)
  | left link reason data =>
    exact .inr (.inr (.inl ⟨rfl, link, reason, data, rfl⟩))
  | sent link data => exact .inl (kept_sendData data c).state

/-- An outbound link: its timer is right whenever it runs. -/
structure Outward (c : Connection) : Prop where
  decided : c.state ≠ .cr
  accepted : c.state ≠ .cc
  ticking : c.state = .run → c.Ticking

/-- The acknowledgement fields that an outbound link may process. -/
def OutboundSpared : Heeds :=
  ⟨fun c ack onData => c.Inbound ∨ c.Spares ack onData, True, True, fun _ => True⟩

theorem Outward.called (outward : c.Outward) (call : Call) :
    (World.called config call c).Outward := by
  have ticking (running : (World.called config call c).state = .run) :
      (World.called config call c).Ticking := by
    obtain ⟨state, carries⟩ := carries_called call running
    exact (outward.ticking state).carries carries
  rcases called_state config call c with same | ⟨gone, _⟩ | ⟨left, _⟩ | waiting
  · exact ⟨same ▸ outward.decided, same ▸ outward.accepted, ticking⟩
  · refine ⟨?_, ?_, ticking⟩ <;> rw [gone] <;> exact noConfusion
  · refine ⟨?_, ?_, ticking⟩ <;> rw [left] <;> exact noConfusion
  · exact absurd waiting outward.decided

theorem Outward.calls (outward : c.Outward) (calls : Called config ok c c') : c'.Outward :=
  calls.keeps outward fun _ call _ still => still.called call

theorem Ticking.calls (ticking : c.Ticking)
    (running : c.state = .run) (calls : Called config ok c c')
    (lives : ∀ call, ok call → ∀ link reason payload, call ≠ .disconnect link reason payload ∧
        call ≠ .reject link reason payload) : c'.Ticking ∧ c'.state = .run := by
  refine calls.keeps ⟨ticking, running⟩ ?_
  rintro c call permitted ⟨still, state⟩
  have after : (called config call c).state = .run := by
    rcases called_state config call c with same |
      ⟨_, link, reason, data, ends⟩ | ⟨_, link, reason, data, ends⟩ | waiting
    · exact same.trans state
    · exact absurd ends (lives call permitted link reason data).2
    · exact absurd ends (lives call permitted link reason data).1
    · rw [state] at waiting
      cases waiting
  exact ⟨still.carries (carries_called call after).2, after⟩

theorem Outward.op (outward : c.Outward) (outbound : ¬ c.Inbound)
    (op : Op OutboundSpared c c') : c'.Outward := by
  rcases steady_op op with steady | ⟨_, _, rfl⟩ | ⟨accepting, _⟩
  · refine ⟨steady.state ▸ outward.decided, steady.state ▸ outward.accepted, ?_⟩
    intro running
    have state : c.state = .run := steady.state.symm.trans running
    have ticking := outward.ticking state
    rcases carries_op op state with carries | ⟨kind, none, _⟩ | ⟨ack, onData, heeded, rfl⟩
    · exact ticking.carries carries
    · exact absurd none (ticking.kind.1 kind)
    · exact ticking.routeAck (heeded.resolve_left outbound)
  · exact ⟨noConfusion, noConfusion, fun running => by cases running⟩
  · exact absurd accepting outward.accepted

theorem Outward.change (outward : c.Outward) (outbound : ¬ c.Inbound) (shape : c.Shape)
    (change : Change OutboundSpared ConfirmedLives config c c') : c'.Outward := by
  have closed (inner : Connection) : (inner.withState .cl).Outward :=
    ⟨noConfusion, noConfusion, fun running => by cases running⟩
  cases change with
  | op _ op => exact outward.op outbound op
  | call call => exact outward.called call
  | inform _ upcall _ _ calls =>
    have told : (c.noteEvent upcall).Outward :=
      ⟨outward.decided, outward.accepted, fun running =>
        (outward.ticking running).carries (carries_noteEvent upcall c)⟩
    exact told.calls calls
  | confirmed inner message opening calls =>
    have told := shape.confirm_ticking (early_of_opening opening) config message
    obtain ⟨after, _⟩ := told.calls rfl calls fun call permitted => permitted _ rfl
    exact ⟨noConfusion, noConfusion,
      fun _ => after.carries (carries_withState .run inner)⟩
  | refused | ended | lapsed => exact closed _

/-- The timer of a link, if it is an outbound one. -/
structure Clocked (c : Connection) : Prop where
  shape : c.Shape
  timing : c.Inbound ∨ c.Outward

theorem Clocked.change (clocked : c.Clocked)
    (change : Change OutboundSpared ConfirmedLives config c c') : c'.Clocked := by
  refine ⟨(clocked.shape.orderly_change change).1, ?_⟩
  by_cases inbound : c.Inbound
  · exact .inl (inbound.change change)
  · have outward := clocked.timing.resolve_left inbound
    exact .inr (outward.change inbound clocked.shape change)

theorem clocked_begun (begun : Begun ConfirmedLives config c) : c.Clocked := by
  refine ⟨(disciplined_begun begun).shape, ?_⟩
  cases begun with
  | outbound addr dest payload =>
    exact .inr ⟨noConfusion, noConfusion, fun running => by cases running⟩
  | inbound addr src message _ calls =>
    refine .inl ⟨message.payload, ?_⟩
    rw [calls_events calls]
    exact mem_append_right _ (mem_singleton.2 rfl)

end Timers

end Connection

/-- Session control does not disconnect a link while it is told that the link
is confirmed. -/
def CallRecord.ConfirmedStays (record : CallRecord) : Prop :=
  ∀ link data reason payload, record.inside = some (link, .connectConfirmed data) →
      record.call ≠ .disconnect link reason payload

/-- Session control does not end a link while it is told that the link is
confirmed. -/
def CallRecord.ConfirmedLives (record : CallRecord) : Prop :=
  ∀ link data reason payload, record.inside = some (link, .connectConfirmed data) →
      record.call ≠ .disconnect link reason payload ∧ record.call ≠ .reject link reason payload

namespace World

variable {τ : Type*} {sc : SessionControl τ}

theorem within_confirmedStays : Within ConfirmedStays CallRecord.ConfirmedStays := by
  intro record stays link upcall inside target data told other reason payload call
  rw [call] at target
  cases target
  exact stays link data reason payload (told ▸ inside) call

/-- If a link has sent anything that is not acknowledged, its retransmit timer
is armed and the expiry sends the oldest such message of each subchannel. -/
def WillResend (sc : SessionControl τ) (w : World τ) (link : Ptr) : Prop :=
  (w.links link).oldestUnacked ≠ [] →
    (w.links link).timer = true ∧ (w.links link).timerIsRetransmit = true ∧
      ∃ frames, ((w.expire sc link).links link).outbox = (w.links link).outbox ++ frames ∧
        (w.links link).oldestUnacked.Subperm frames

/-- The expiry of the retransmit timer, below the retry limit, sends the oldest
data message again and no interrupt. -/
theorem expire_outbox (w : World τ) (link : Ptr) (armed : (w.links link).timer = true)
    (kind : (w.links link).timerIsRetransmit = true)
    (below : ((w.links link).retries + 1) % 2 ^ 32 ≤ w.config.retransmits) :
    ((w.expire sc link).links link).outbox = (w.links link).outbox ++
      ((w.links link).txq.find? fun e => e.sent).toList.map TxEntry.frame := by
  have kept : ((w.links link).stopTimer.timerIsRetransmit) = true := kind
  have spent : ¬ ((w.links link).stopTimer.retries + 1) % 2 ^ 32 >
      w.config.retransmits := Nat.not_lt.2 below
  have flying : (w.links link).stopTimer.inFlight = (w.links link).inFlight := rfl
  rw [expire, if_pos armed, timeout, modify_links, Function.update_self, if_pos kept, retransmit]
  simp only [modify_links, Function.update_self, flying]
  split
  · rename_i landed
    rw [find_sent_of_landed landed]
    simp [stopTimer]
  · rw [modify_config, modify_config, if_neg spent]
    simp [resend, setRetries, stopTimer, resendQueue_frames]

/-- In every run in which session control disconnects no link while it is told
that it is confirmed, a running link below its retry limit resends everything
that is not acknowledged just when no interrupt is. -/
theorem unacked_resent_iff (config : NspConfig) (ids : List Nat)
    (session : τ) (inputs : List (Input τ)) (link : Ptr)
    (old : link < (reach sc config ids session inputs).allocated)
    (stays : CallsOk CallRecord.ConfirmedStays (reach sc config ids session inputs))
    (running : ((reach sc config ids session inputs).links link).state = .run)
    (below : (((reach sc config ids session inputs).links link).retries + 1) %
      2 ^ 32 ≤ config.retransmits) :
    WillResend sc (reach sc config ids session inputs) link ↔
      ((reach sc config ids session inputs).links link).intTxq = [] := by
  have attended : ((reach sc config ids session inputs).links link).Attended := by
    refine links_permitted within_confirmedStays stays ?_ ?_ old
    · exact fun _ begun => attended_begun begun
    · exact fun _ _ change attended => attended.change change
  have watched := attended.watched running
  have same : (reach sc config ids session inputs).config = config :=
    reach_config config ids session inputs
  rw [← congrArg NspConfig.retransmits same] at below
  generalize reach sc config ids session inputs = w at *
  have resent (armed : (w.links link).timer = true)
      (kind : (w.links link).timerIsRetransmit = true) :=
    @expire_outbox τ sc w link armed kind below
  constructor
  · intro will
    by_contra pending
    obtain ⟨first, others, queue⟩ := exists_cons_of_ne_nil pending
    have unacked : (w.links link).oldestUnacked ≠ [] := by
      simp [oldestUnacked, queue]
    obtain ⟨armed, kind, frames, outbox, covers⟩ := will unacked
    rw [resent armed kind] at outbox
    rw [← append_cancel_left outbox] at covers
    have long := covers.length_le
    simp only [oldestUnacked, queue, head?_cons,
      Option.toList_some, map_append, length_append, map_cons, length_cons] at long
    omega
  · intro acked unacked
    have single : (w.links link).oldestUnacked =
        ((w.links link).txq.find? fun e => e.sent).toList.map TxEntry.frame := by
      simp [oldestUnacked, acked]
    have flying : (w.links link).inFlight ≠ 0 := by
      intro landed
      rw [single, find_sent_of_landed landed] at unacked
      exact unacked rfl
    obtain ⟨armed, kind⟩ := watched flying
    exact ⟨armed, kind, _, resent armed kind, by rw [single]⟩

def sending : List (Input Unit) :=
  [.act (.connect 1025 []), .deliver 1025 (.connConf ⟨1, 7, svcNone, 2, 500, []⟩),
    .act (.sendData 0 [5, 6])]

theorem unacked_resent_sending :
    ((reach (.scripted fun _ _ => []) ⟨1, 20, 1, 4, 60⟩ [1] ()
        sending).links 0).oldestUnacked ≠ [] ∧ WillResend (.scripted fun _ _ => [])
        (reach (.scripted fun _ _ => []) ⟨1, 20, 1, 4, 60⟩ [1] () sending) 0 := by
  refine ⟨by decide +kernel, ?_⟩
  refine (unacked_resent_iff ⟨1, 20, 1, 4, 60⟩ [1] () sending 0
    (by decide +kernel) ?_ (by decide +kernel) (by decide +kernel)).2 (by decide +kernel)
  have outside : ∀ record ∈ (reach (.scripted fun _ _ => [])
      ⟨1, 20, 1, 4, 60⟩ [1] () sending).calls, record.inside = none := by
    decide +kernel
  intro record member link data reason payload inside
  rw [outside record member] at inside
  cases inside

/-- An interrupt that is not acknowledged is not resent: only the inactivity
timer is armed. -/
theorem interrupt_not_resent :
    let w := reach (.scripted fun _ _ => []) ⟨1, 20, 1, 4, 60⟩ [1] () [.act (.connect 1025 []),
        .deliver 1025 (.connConf ⟨1, 7, svcNone, 2, 500, []⟩), .act (.sendInterrupt 0 [9])]
    InitIds 1 [1] ∧ (w.links 0).state = .run ∧ (w.links 0).intTxq ≠ [] ∧
      ¬ WillResend (.scripted fun _ _ => []) w 0 := by
  intro w
  refine ⟨⟨fun _ => 0, fun _ => Nat.zero_le _, by decide⟩, by decide +kernel, by decide +kernel, ?_⟩
  intro will
  have unacked : (w.links 0).oldestUnacked ≠ [] := by decide +kernel
  have other : (w.links 0).timerIsRetransmit = false := by decide +kernel
  rw [(will unacked).2.1] at other
  cases other

theorem within_confirmedLives : Within ConfirmedLives CallRecord.ConfirmedLives := by
  intro record lives link upcall inside target data told other reason payload
  have told := fun reason payload => lives link data reason payload (told ▸ inside)
  constructor
  · intro call
    rw [call] at target
    cases target
    exact (told reason payload).1 call
  · intro call
    rw [call] at target
    cases target
    exact (told reason payload).2 call

/-- In every run in which session control ends no link while it is told that it
is confirmed, and no outbound link gets a negative acknowledgement or one for
all that it has in flight: an outbound link that runs has its timer armed, for
retransmission just when data is in flight. -/
theorem outbound_timer_armed (config : NspConfig) (ids : List Nat)
    (session : τ) (inputs : List (Input τ)) (link : Ptr)
    (old : link < (reach sc config ids session inputs).allocated)
    (lives : CallsOk CallRecord.ConfirmedLives (reach sc config ids session inputs))
    (spared : Run.Guarded (step sc) (Attentive sc Connection.OutboundSpared)
      (start config ids session) inputs)
    (outbound : ¬ ((reach sc config ids session inputs).links link).Inbound)
    (running : ((reach sc config ids session inputs).links link).state = .run) :
    ((reach sc config ids session inputs).links link).timer = true ∧
      (((reach sc config ids session inputs).links link).timerIsRetransmit = true ↔
        ((reach sc config ids session inputs).links link).inFlight ≠ 0) := by
  have clocked : ((reach sc config ids session inputs).links link).Clocked := by
    refine links_invariant within_confirmedLives spared lives ?_ ?_ old
    · exact fun _ begun => clocked_begun begun
    · exact fun _ _ change clocked => clocked.change change
  have outward := clocked.timing.resolve_left outbound
  have ticking := outward.ticking running
  exact ⟨ticking.armed, ticking.kind⟩

def halfAcked : List (Input Unit) :=
  [.act (.connect 1025 []), .deliver 1025 (.connConf ⟨1, 7, svcNone, 2, 500, []⟩),
    .act (.sendData 0 [5, 6]), .act (.sendData 0 [7]),
    .deliver 1025 (.ackData ⟨1, 7, some ⟨Mod.wrap 1, .ackq⟩, none⟩)]

theorem outbound_timer_armed_halfAcked :
    ((reach (.scripted fun _ _ => []) ⟨1, 20, 1, 4, 60⟩ [1] () halfAcked).links 0).timer = true ∧
      (((reach (.scripted fun _ _ => []) ⟨1, 20, 1, 4, 60⟩ [1] ()
          halfAcked).links 0).timerIsRetransmit = true ↔
        ((reach (.scripted fun _ _ => []) ⟨1, 20, 1, 4, 60⟩ [1] ()
          halfAcked).links 0).inFlight ≠ 0) := by
  have outside : ∀ record ∈ (reach (.scripted fun _ _ => [])
      ⟨1, 20, 1, 4, 60⟩ [1] () halfAcked).calls, record.inside = none := by
    decide +kernel
  have silent : ((reach (.scripted fun _ _ => []) ⟨1, 20, 1, 4, 60⟩ [1] ()
      halfAcked).links 0).events = [.connectConfirmed []] := by
    decide +kernel
  refine outbound_timer_armed ⟨1, 20, 1, 4, 60⟩ [1] () halfAcked 0
    (by decide +kernel) ?_ ?_ ?_ (by decide +kernel)
  · intro record member link data reason payload inside
    rw [outside record member] at inside
    cases inside
  · refine ⟨trivial, ?_, trivial, trivial, ?_, trivial⟩
    · intro link found
      cases found
      exact ⟨fun running => absurd running (by decide +kernel),
        fun accepting => absurd accepting (by decide +kernel), fun _ _ _ => trivial⟩
    · intro link found
      cases found
      refine ⟨fun _ => ⟨.inr ?_, .inr fun field absent => by cases absent⟩,
        fun accepting => absurd accepting (by decide +kernel), fun _ _ _ => trivial⟩
      intro field same _
      cases same
      exact ⟨rfl, .inr (by decide +kernel)⟩
  · rintro ⟨payload, told⟩
    rw [silent] at told
    simp at told

/-- An inbound link runs with no timer armed from the start, and an outbound
one does once its first message is acknowledged. -/
theorem running_link_without_timer :
    let inbound := reach (.scripted fun link upcall =>
        if upcall = .connectReceived [] then [.accept link [] svcNone] else [])
      ⟨1, 20, 1, 4, 60⟩ [1] ()
      [.deliver 1025 (.connInit ⟨0, 7, svcNone, 2, 500, []⟩),
        .deliver 1025 (.ackData ⟨1, 7, none, none⟩)]
    let outbound := reach (.scripted fun _ _ => []) ⟨1, 20, 1, 4, 60⟩ [1] ()
      [.act (.connect 1025 []), .deliver 1025 (.connConf ⟨1, 7, svcNone, 2, 500, []⟩),
        .act (.sendData 0 [5, 6]), .deliver 1025 (.ackData ⟨1, 7, some ⟨Mod.wrap 1, .ackq⟩, none⟩)]
    InitIds 1 [1] ∧ ((inbound.links 0).state = .run ∧ (inbound.links 0).cphase > 2 ∧
        (inbound.links 0).timer = false) ∧
      (outbound.links 0).state = .run ∧ (outbound.links 0).cphase > 2 ∧
        (outbound.links 0).inFlight = 0 ∧ (outbound.links 0).timer = false := by
  refine ⟨⟨fun _ => 0, fun _ => Nat.zero_le _, by decide⟩, ⟨?_, ?_, ?_⟩,
    ?_, ?_, ?_, ?_⟩ <;> decide +kernel

end World

end Decnet.Nsp
