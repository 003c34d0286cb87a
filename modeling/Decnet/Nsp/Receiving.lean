import Decnet.Nsp.Changes
import Decnet.Nsp.Segmentation

/-!
# The receiving half of a link

What a link has taken from the data subchannel: how many segments, which
messages it has handed up, the message it is putting together and the segments
it holds.  Only data segments change this; the rest of NSP and the calls of
session control leave it alone, except that closing a link drops what it holds.
-/

namespace Decnet.Nsp

open Relation

def Upcall.message : Upcall → Option Bytes
  | .dataReceived data => some data
  | _ => none

def DataSeg.piece (segment : DataSeg) : Connection.Piece :=
  ⟨segment.bom, segment.eom, segment.payload⟩

namespace Connection

def messages (c : Connection) : List Bytes :=
  c.events.filterMap Upcall.message

def assembled (c : Connection) : Assembly :=
  ⟨c.messages, c.assembling, c.assembly⟩

/-- The receiving half is the same, but may hold fewer segments. -/
structure Receiving (c c' : Connection) : Prop where
  nextExpect : c'.nextExpect = c.nextExpect
  rcvd : c'.rcvd = c.rcvd
  assembly : c'.assembly = c.assembly
  assembling : c'.assembling = c.assembling
  events : c'.events = c.events
  held : ∀ number segment, c'.ooo.lookup number = some segment → c.ooo.lookup number = some segment

namespace Receiving

variable {c c' : Connection}

theorem refl (c : Connection) : Receiving c c :=
  ⟨rfl, rfl, rfl, rfl, rfl, fun _ _ => id⟩

theorem trans {c'' : Connection} (first : Receiving c c')
    (second : Receiving c' c'') : Receiving c c'' where
  nextExpect := second.nextExpect.trans first.nextExpect
  rcvd := second.rcvd.trans first.rcvd
  assembly := second.assembly.trans first.assembly
  assembling := second.assembling.trans first.assembling
  events := second.events.trans first.events
  held := fun number segment found => first.held number segment (second.held number segment found)

theorem messages (same : Receiving c c') : c'.messages = c.messages :=
  congrArg (List.filterMap Upcall.message) same.events

theorem assembled (same : Receiving c c') : c'.assembled = c.assembled := by
  unfold Connection.assembled
  rw [same.messages, same.assembling, same.assembly]

end Receiving

variable {c c' : Connection}

theorem receiving_touch (c : Connection) : Receiving c c.touch := by
  unfold touch
  split
  · exact ⟨rfl, rfl, rfl, rfl, rfl, fun _ _ => id⟩
  · exact .refl c

theorem Sends.receiving (sends : Sends c c') : Receiving c c' := by
  obtain ⟨half, rfl, _⟩ := sends
  exact ⟨rfl, rfl, rfl, rfl, rfl, fun _ _ => id⟩

theorem receiving_applyCredit (message : LinkSvcMsg) (c : Connection) :
    Receiving c (c.applyCredit message) := by
  obtain ⟨granted, sends⟩ := sends_applyCredit message c
  have given : Receiving c (c.withCredit granted) := ⟨rfl, rfl, rfl, rfl, rfl, fun _ _ => id⟩
  exact given.trans sends.receiving

theorem receiving_queueSegments (c : Connection) (pieces : List Piece) :
    Receiving c (pieces.foldl queueSegment c) := by
  induction pieces generalizing c with
  | nil => exact .refl c
  | cons piece pieces ih =>
    have queued : Receiving c (c.queueSegment piece) := ⟨rfl, rfl, rfl, rfl, rfl, fun _ _ => id⟩
    exact queued.trans (ih _)

theorem receiving_sendData (data : Bytes) (c : Connection) : Receiving c (c.sendData data) := by
  unfold sendData
  split
  · exact .refl c
  · have noted : Receiving c { c with submitted := c.submitted ++ [data] } :=
      ⟨rfl, rfl, rfl, rfl, rfl, fun _ _ => id⟩
    exact noted.trans ((receiving_queueSegments _ _).trans (sends_sendBlocked _).receiving)

theorem receiving_send (packet : Packet) (c : Connection) : Receiving c (c.send packet) :=
  ⟨rfl, rfl, rfl, rfl, rfl, fun _ _ => id⟩

theorem receiving_clearQueues (c : Connection) : Receiving c c.clearQueues := by
  refine ⟨rfl, rfl, rfl, rfl, rfl, ?_⟩
  intro number segment found
  simp [clearQueues] at found

theorem receiving_rejected (reason : Nat) (data : Bytes) (c : Connection) :
    Receiving c ((c.send (c.discInit reason data)).clearQueues.noteClosing.withState .cl) := by
  have cleared := (receiving_send (c.discInit reason data) c).trans (receiving_clearQueues _)
  generalize (c.send (c.discInit reason data)).clearQueues = dropped at *
  exact cleared.trans ⟨rfl, rfl, rfl, rfl, rfl, fun _ _ => id⟩

theorem receiving_called (config : NspConfig) (call : Call) (c : Connection) :
    Receiving c (World.called config call c) := by
  obtain ⟨c', same, outcome⟩ := World.called_outcome config call c
  rw [same]
  cases outcome with
  | rejected link reason data => exact receiving_rejected reason data c
  | sent link data => exact receiving_sendData data c
  | _ => exact ⟨rfl, rfl, rfl, rfl, rfl, fun _ _ => id⟩

theorem receiving_calls {config : NspConfig} {ok : Call → Prop}
    (calls : Called config ok c c') : Receiving c c' :=
  calls.keeps (.refl c) fun _ call _ so => so.trans (receiving_called config call _)

/-! ## Taking a segment -/

theorem take_of_completes {segment : DataSeg} (complete : c.completes segment = true) :
    c.assembled.take segment.piece = ⟨c.messages ++ [(c.assemble segment).assembly], false, []⟩ ∧
      (c.assemble segment).assembling = false ∧ Receiving
        { c with
          assembling := false
          assembly := (c.assemble segment).assembly }
        (c.assemble segment) := by
  unfold completes at complete
  rw [Bool.and_eq_true] at complete
  obtain ⟨begun, last⟩ := complete
  cases first : segment.bom with
  | true =>
    simp [Assembly.take, assembled, DataSeg.piece, assemble, first, last]
    exact ⟨rfl, rfl, rfl, rfl, rfl, fun _ _ => id⟩
  | false =>
    have going : c.assembling = true := by simpa [first] using begun
    simp [Assembly.take, assembled, DataSeg.piece, assemble, first, last, going]
    exact ⟨rfl, rfl, rfl, rfl, rfl, fun _ _ => id⟩

theorem take_of_not_completes {segment : DataSeg} (partly : c.completes segment = false) :
    (c.assemble segment).assembled = c.assembled.take segment.piece := by
  unfold completes at partly
  cases first : segment.bom with
  | true =>
    have more : segment.eom = false := by simpa [first] using partly
    simp [Assembly.take, assembled, DataSeg.piece, assemble, messages, first, more]
  | false =>
    cases going : c.assembling with
    | false =>
      simp [Assembly.take, assembled, DataSeg.piece, assemble, first, going]
    | true =>
      have more : segment.eom = false := by
        simpa [going] using partly
      simp [Assembly.take, assembled, DataSeg.piece, assemble, messages, first, going, more]

/-- One segment has been taken and not yet counted. -/
structure Took (segment : DataSeg) (c c' : Connection) : Prop where
  nextExpect : c'.nextExpect = c.nextExpect
  rcvd : c'.rcvd = c.rcvd
  assembled : c'.assembled = c.assembled.take segment.piece
  held : ∀ number other, c'.ooo.lookup number = some other → c.ooo.lookup number = some other

theorem took_assemble {segment : DataSeg} (partly : c.completes segment = false) :
    Took segment c (c.assemble segment) := by
  refine ⟨?_, ?_, take_of_not_completes partly, ?_⟩
  all_goals
    unfold assemble
    dsimp only
    split
  all_goals
    split
  all_goals
    first | rfl | exact fun _ _ => id

end Connection

namespace World

open Connection

variable {τ : Type*} {sc : SessionControl τ}

section

variable {w : World τ} {link : Ptr} (old : link < w.allocated)

include old

/-- While session control handles a notification the receiving half of the
link stays as it is. -/
theorem receiving_tell (upcall : Upcall) :
    Receiving ((w.links link).noteEvent upcall) ((w.tell sc link upcall).links link) ∧
      w.allocated ≤ (w.tell sc link upcall).allocated :=
  ⟨receiving_calls (called_tell old upcall), allocated_tell w link upcall⟩

theorem took_told {segment : DataSeg} (complete : (w.links link).completes segment = true) :
    let w₁ := w.modify link (Connection.assemble segment)
    Took segment (w.links link) ((w₁.tell sc link (.dataReceived (w₁.links link).assembly)).links
        link).clearAssembly := by
  intro w₁
  have now : w₁.links link = (w.links link).assemble segment := by
    simp [w₁]
  obtain ⟨taken, ended, same⟩ := take_of_completes complete
  obtain ⟨told, _⟩ := @receiving_tell τ sc w₁ link old (.dataReceived (w₁.links link).assembly)
  rw [now] at told ⊢
  generalize ((w₁.tell sc link _).links link) = final at told ⊢
  constructor
  case nextExpect => exact told.nextExpect.trans same.nextExpect
  case rcvd => exact told.rcvd.trans same.rcvd
  case assembled =>
    have handed : final.messages = (w.links link).messages ++
        [((w.links link).assemble segment).assembly] := by
      have kept := same.messages
      rw [told.messages]
      simp only [messages, noteEvent, List.filterMap_append] at kept ⊢
      rw [kept]
      rfl
    have stopped : final.assembling = false := told.assembling.trans ended
    rw [taken]
    simp only [Connection.assembled, messages, clearAssembly] at handed ⊢
    rw [handed, stopped]
  case held =>
    intro number other found
    exact same.held number other (told.held number other found)

theorem took_acceptSegment (segment : DataSeg) :
    Took segment (w.links link) ((w.acceptSegment sc link segment).links link) ∧
      w.allocated ≤ (w.acceptSegment sc link segment).allocated := by
  unfold acceptSegment
  dsimp only
  split
  · rename_i complete
    have told := @took_told τ sc w link old segment complete
    refine ⟨?_, (@receiving_tell τ sc (w.modify link _) link old _).2⟩
    simpa using told
  · rename_i partly
    simpa using took_assemble (Bool.eq_false_iff.mpr partly)

end

end World

end Decnet.Nsp
