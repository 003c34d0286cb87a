import Decnet.Nsp.Changes

/-!
# A link that was closed stays closed

Session control ends a link with `disconnect` or `reject`.  After that the link
must not run again, and once NSP has closed a link it must stay closed.  The
code keeps this unless session control ends a link while it handles that link's
own `connect_confirmed`: the state function `cd` then installs the run state
after the notification has returned.
-/

namespace Decnet.Nsp

open World Connection

def Call.ends (link : Ptr) : Call → Bool
  | .reject target _ _ => target = link
  | .disconnect target _ _ => target = link
  | _ => false

/-- Session control does not end a link from inside its own
`connect_confirmed`. -/
def CallRecord.Patient (record : CallRecord) : Prop :=
  ∀ link data, record.inside = some (link, .connectConfirmed data) →
    record.returned = true → record.call.ends link = false

namespace Connection

def Over (c : Connection) : Prop :=
  c.state = .di ∨ c.state = .cl

variable {c c' : Connection} {config : NspConfig} {link : Ptr} {record : CallRecord} {call : Call}

theorem called_over (config : NspConfig)
    (returns : c.callReturns call = true) (ends : call.ends link = true) :
    (called config call c).Over := by
  cases call with
  | reject target reason data =>
    have returned : rejectReturns data = true := returns
    exact .inr (by simp [called, returned, withState])
  | disconnect target reason data =>
    by_cases closed : c.isClosed = true
    · have state : c.state = .cl := by simpa [isClosed] using closed
      exact .inr (by simpa [called, disconnect, closed] using state)
    · have returned : c.disconnectReturns data = true := returns
      exact .inl (by simp [called, disconnect, closed, returned])
  | connect | accept | sendData | sendInterrupt => simp [Call.ends] at ends

theorem Over.called (gone : c.Over) (config : NspConfig) (call : Call) :
    (called config call c).Over := by
  obtain ⟨c', same, outcome⟩ := called_outcome config call c
  rw [same]
  cases outcome with
  | ignored | interrupted => exact gone
  | unconfirmed _ _ _ waiting | accepted _ _ _ _ waiting =>
    rcases gone with state | state <;> simp [state] at waiting
  | rejected => exact .inr rfl
  | left => exact .inl rfl
  | sent link data =>
    unfold Over
    rw [(kept_sendData data c).state]
    exact gone

theorem called_closings (config : NspConfig) (target : call.target = some link) :
    (called config call c).closings = c.closings ∨
      (c.callReturns call = true ∧ call.ends link = true ∧ (called config call c).state = .cl) := by
  obtain ⟨c', same, outcome⟩ := called_outcome config call c
  rw [same]
  cases outcome with
  | rejected other reason data returns =>
    refine .inr ⟨returns, ?_, rfl⟩
    simpa [Call.ends, Call.target] using target
  | sent other data => exact .inl (kept_sendData data _).closings
  | _ => exact .inl rfl

end Connection

/-- A call that ends the link has been made and has returned. -/
def EndedIn (link : Ptr) (log : List CallRecord) : Prop :=
  ∃ record ∈ log, record.returned = true ∧ record.call.ends link = true

/-- A link that was ended is over, and one that NSP closed is closed. -/
structure Final (link : Ptr) (log : List CallRecord) (c : Connection) : Prop where
  ended : EndedIn link log → c.Over
  closed : 0 < c.closings → c.state = .cl

namespace Final

variable {link : Ptr} {log : List CallRecord} {c c' : Connection}
  {record : CallRecord} {config : NspConfig}

theorem endedIn_append : EndedIn link (log ++ [record]) ↔ EndedIn link log ∨
      (record.returned = true ∧ record.call.ends link = true) := by
  simp [EndedIn]

theorem congr (final : Final link log c) (state : c'.state = c.state)
    (closings : c'.closings = c.closings) : Final link log c' := by
  constructor
  · intro ended
    unfold Over
    rw [state]
    exact final.ended ended
  · rw [state, closings]
    exact final.closed

theorem called (final : Final link log c) (noted : c.Noted link record) :
    Final link (log ++ [record]) (called config record.call c) := by
  constructor
  · intro ended
    rcases endedIn_append.mp ended with before | ⟨returned, ends⟩
    · exact (final.ended before).called config record.call
    · exact called_over config (noted.returned ▸ returned) ends
  · intro closings
    rcases called_closings config noted.target with same | ⟨_, _, closed⟩
    · rw [same] at closings
      exact closed_called (final.closed closings) record.call
    · exact closed

theorem unended (final : Final link log c) (alive : ¬ c.Over) :
    ¬ EndedIn link log ∧ c.closings = 0 := by
  refine ⟨fun ended => alive (final.ended ended), ?_⟩
  by_contra closings
  exact alive (.inr (final.closed (Nat.pos_of_ne_zero closings)))

theorem restate (fresh : ¬ EndedIn link log ∧ c.closings = 0) : Final link log c :=
  ⟨fun ended => absurd ended fresh.1, fun closings => absurd fresh.2 (Nat.ne_of_gt closings)⟩

theorem of_closed (closed : c.state = .cl) : Final link log c :=
  ⟨fun _ => .inr closed, fun _ => closed⟩

end Final

/-- A link is not ended by the permitted calls inside its own
`connect_confirmed`, so it may go on running after them. -/
def finality (config : NspConfig) : Ledger (fun _ => .all) CallRecord.Patient True config 0 where
  own := Final
  told
    | .connectConfirmed _, link, log, c =>
      ¬ EndedIn link log ∧ c.closings = 0
    | _, link, log, c => Final link log c
  outbound _ _ _ _ := .restate ⟨by simp [EndedIn], rfl⟩
  inbound _ addr src message := by
    have announced := announced_connectReceived config message
      (create config addr src)
    exact .restate ⟨by simp [EndedIn], announced.closings⟩
  op := by
    intro link log c c' final op
    have fresh (alive : ¬ c.Over) := final.unended alive
    rcases steady_op op with steady | ⟨opening, steady, rfl⟩ | ⟨confirming, steady, rfl⟩
    · exact final.congr steady.state steady.closings
    · obtain ⟨unended, closings⟩ := fresh (by simp [Over, opening])
      exact .restate ⟨unended, steady.closings.trans closings⟩
    · obtain ⟨unended, closings⟩ := fresh (by simp [Over, confirming])
      exact .restate ⟨unended, steady.closings.trans closings⟩
  call final noted _ := final.called noted
  inside := by
    intro link upcall log c record telling noted patient inside
    cases upcall with
    | connectConfirmed data =>
      obtain ⟨fresh, closings⟩ := telling
      have harmless := patient link data inside
      refine ⟨fun ended => ?_, ?_⟩
      · rcases Final.endedIn_append.mp ended with before | ⟨returned, ends⟩
        · exact fresh before
        · simp [harmless returned] at ends
      · rcases called_closings config noted.target with same | ⟨returns, ends, _⟩
        · exact same.trans closings
        · simp [harmless (noted.returned.trans returns)] at ends
    | _ => exact Final.called telling noted
  inform := by
    intro link upcall log c final midway _
    cases upcall <;> first | exact final.congr rfl rfl | cases midway
  confirmed := by
    intro link log c message final opening
    obtain ⟨fresh, closings⟩ := final.unended (by
      rcases opening with state | state <;> simp [Over, state])
    exact ⟨fresh, (closings_confirmed config message _ c).trans closings⟩
  refused final _ := final.congr rfl rfl
  ended := by
    intro link log c prepare reason data final expiry _
    have steady := steady_expiry expiry c
    exact final.congr steady.state steady.closings
  finished := by
    intro link upcall log c telling
    cases upcall with
    | connectConfirmed => exact .restate telling
    | connectRejected | disconnected => exact .of_closed rfl
    | connectReceived | dataReceived | interruptReceived | runState =>
      exact telling
  lapsed _ _ _ _ := .of_closed rfl

namespace World

variable {τ : Type*} {sc : SessionControl τ} {w : World τ} {link : Ptr}

def Ended (w : World τ) (link : Ptr) : Prop :=
  ∃ record ∈ w.calls, record.returned = true ∧ record.call.ends link = true

theorem Ended.log (ended : w.Ended link) : EndedIn link (w.log 0 link) := by
  obtain ⟨record, member, returned, ends⟩ := ended
  refine ⟨record, List.mem_filter.mpr ⟨member, ?_⟩, returned, ends⟩
  cases call : record.call <;> simp_all [Call.ends, Call.target]

private theorem final_reach (config : NspConfig) (ids : List Nat) (session : τ)
    (inputs : List (Input τ)) (patient : CallsOk CallRecord.Patient
      (reach sc config ids session inputs))
    (present : link < (reach sc config ids session inputs).allocated) :
    Final link ((reach sc config ids session inputs).log 0 link)
      ((reach sc config ids session inputs).links link) := by
  have begun := meets_start (finality config) ids session
  exact (begun.run (.of_forall (fun _ _ =>
    ⟨attentive_all _ _, fun _ => trivial⟩) _ inputs) patient).links link present

/-- In every run in which session control does not end a link from inside that
link's `connect_confirmed`: once a link was ended it never runs again, and once
it was closed it stays closed. -/
theorem ended_link_never_runs (config : NspConfig) (ids : List Nat)
    (session : τ) (earlier later : List (Input τ)) (link : Ptr)
    (present : link < (reach sc config ids session earlier).allocated)
    (patient : CallsOk CallRecord.Patient (reach sc config ids session (earlier ++ later))) :
    ((reach sc config ids session earlier).Ended link →
      ((reach sc config ids session (earlier ++ later)).links link).state ≠ .run) ∧
    (((reach sc config ids session earlier).links link).state = .cl ∨
        0 < ((reach sc config ids session earlier).links link).closings →
      ((reach sc config ids session (earlier ++ later)).links link).state = .cl) := by
  have split : reach sc config ids session (earlier ++ later) =
      later.foldl (step sc) (reach sc config ids session earlier) := List.foldl_append
  have calls : (reach sc config ids session earlier).calls <+:
      (reach sc config ids session (earlier ++ later)).calls := by
    rw [split]
    exact (known_run (known_reach config ids session earlier) later).2.calls
  have tracks : Tracks (fun _ => .all) (fun _ _ => True) (reach sc config ids session earlier)
      (reach sc config ids session (earlier ++ later)) := by
    rw [split]
    exact tracks_always (known_reach config ids session earlier) later
  have before := final_reach config ids session earlier (patient.before calls) present
  have after := final_reach config ids session (earlier ++ later) patient
    (present.trans_le tracks.allocated)
  constructor
  · rintro ⟨record, member, returned, ends⟩
    have ended : (reach sc config ids session (earlier ++ later)).Ended link :=
      ⟨record, calls.subset member, returned, ends⟩
    rcases after.ended ended.log with state | state <;> simp [state]
  · intro closed
    exact closed_changes (tracks.old link present) (closed.elim id before.closed)

def confirmedConnect : List (Input Unit) :=
  [.act (.connect 1025 []), .deliver 1025 (.connConf ⟨1, 7, svcNone, 2, 500, []⟩)]

def oneLink : NspConfig := ⟨1, 20, 5, 4, 60⟩

def disconnectLater : List (Input Unit) :=
  confirmedConnect ++ [.act (.disconnect 0 0 [])]

theorem ended_link_never_runs_disconnect :
    ((reach (.scripted fun _ _ => []) oneLink [1] () (disconnectLater ++
        [.deliver 1025 (.ackData ⟨1, 7, none, none⟩)])).links 0).state ≠ .run := by
  have patient : CallsOk CallRecord.Patient (reach (.scripted fun _ _ => []) oneLink [1] ()
        (disconnectLater ++ [.deliver 1025 (.ackData ⟨1, 7, none, none⟩)])) := by
    intro record member
    have outside : record.inside = none := by
      revert record
      decide +kernel
    intro link data inside
    simp [outside] at inside
  have ended : (reach (.scripted fun _ _ => []) oneLink [1] () disconnectLater).Ended 0 :=
    ⟨⟨.disconnect 0 0 [], none, true, true, true⟩, by decide +kernel, rfl, rfl⟩
  exact (ended_link_never_runs oneLink [1] () disconnectLater _ 0
    (by decide +kernel) patient).1 ended

/-- Session control that disconnects as soon as a connect is confirmed. -/
def disconnectWhenConfirmed : SessionControl Unit :=
  .scripted fun link upcall =>
    match upcall with
    | .connectConfirmed _ => [.disconnect link 0 []]
    | _ => []

theorem disconnected_link_runs :
    InitIds oneLink.maxconns [1] ∧
      (reach disconnectWhenConfirmed oneLink [1] () confirmedConnect).Ended 0 ∧
      ((reach disconnectWhenConfirmed oneLink [1] () confirmedConnect).links 0).state = .run := by
  refine ⟨⟨fun _ => 0, fun _ => Nat.zero_le _, by decide⟩, ?_, ?_⟩
  · exact ⟨⟨.disconnect 0 0 [], some (0, .connectConfirmed []), true, true, true⟩,
      by decide, rfl, rfl⟩
  · rfl

end World

end Decnet.Nsp
