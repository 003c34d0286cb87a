import Decnet.Nsp.Receiving
import Decnet.Nsp.Sending

/-!
# Taking a stream

What the receiving half of a link holds of a stream of segments of which the
first `top` have been sent: it has put together the segments it counts, and
what it holds ahead of its turn are later segments of the same stream, each
under its own number.  A copy of any segment that is not too old keeps it so.
-/

namespace Decnet.Nsp

open Relation Connection AList

namespace Connection

/-- What a link has taken of a stream, and what it holds. -/
structure Taking (stream : List Piece) (top : Nat) (c : Connection) : Prop where
  expects : c.nextExpect = Mod.wrap (c.rcvd + 1)
  reached : c.rcvd ≤ top
  assembled : c.assembled = reassemble stream c.rcvd
  held : ∀ key segment, c.ooo.lookup key = some segment →
    ∃ number, c.rcvd < number ∧ number ≤ top ∧ key = number % 4096 ∧
      stream[number - 1]? = some segment.piece

def Drained (c : Connection) : Prop :=
  c.ooo.lookup c.nextExpect.value = none

variable {stream longer : List Piece} {top more : Nat} {c c' : Connection}

theorem Taking.receiving (taking : c.Taking stream top)
    (same : Receiving c c') : c'.Taking stream top where
  expects := by
    rw [same.nextExpect, same.rcvd]
    exact taking.expects
  reached := same.rcvd ▸ taking.reached
  assembled := by
    rw [same.assembled, same.rcvd]
    exact taking.assembled
  held := by
    intro key segment found
    rw [same.rcvd]
    exact taking.held key segment (same.held key segment found)

theorem lookup_none_of_held {old new : AList fun _ : Nat => DataSeg}
    (held : ∀ key segment, new.lookup key = some segment →
      old.lookup key = some segment) {key : Nat}
    (absent : old.lookup key = none) : new.lookup key = none := by
  cases found : new.lookup key with
  | none => rfl
  | some segment =>
    rw [held key segment found] at absent
    cases absent

theorem Drained.receiving (drained : c.Drained) (same : Receiving c c') : c'.Drained := by
  unfold Drained
  rw [same.nextExpect]
  exact lookup_none_of_held same.held drained

section

variable (taking : c.Taking stream top)

include taking

theorem Taking.mono (grown : stream <+: longer) (further : top ≤ more)
    (inside : top ≤ stream.length) : c.Taking longer more where
  expects := taking.expects
  reached := taking.reached.trans further
  assembled := by
    rw [ reassemble_prefix grown (taking.reached.trans inside)]
    exact taking.assembled
  held := by
    intro key segment found
    obtain ⟨number, low, high, named, piece⟩ := taking.held key segment found
    refine ⟨number, low, high.trans further, named, ?_⟩
    obtain ⟨rest, rfl⟩ := grown
    rw [List.getElem?_append_left (by omega)]
    exact piece

theorem Taking.noteEvent {upcall : Upcall} (silent : upcall.message = none) :
    (c.noteEvent upcall).Taking stream top := by
  have same : (c.noteEvent upcall).assembled = c.assembled := by
    unfold Connection.assembled messages Connection.noteEvent
    simp [silent]
  exact { taking with assembled := same.trans taking.assembled }

theorem Taking.number_of_next (near : top < c.rcvd + 2048) {segment : DataSeg}
    (found : c.ooo.lookup c.nextExpect.value = some segment) :
    c.rcvd < top ∧ stream[c.rcvd]? = some segment.piece := by
  obtain ⟨number, low, high, named, piece⟩ := taking.held _ _ found
  have wraps : (Mod.wrap (c.rcvd + 1) : Seq) = Mod.wrap number := by
    rw [Mod.wrap_eq_wrap_iff, ← named, taking.expects]
    rfl
  have next := (Mod.wrap_inj 4096 (by omega) (by omega)).mp wraps
  subst next
  exact ⟨high, piece⟩

theorem Taking.took (drained : c.Drained) {segment : DataSeg}
    (below : c.rcvd < top) (piece : stream[c.rcvd]? = some segment.piece)
    (took : Took segment c c') : c'.advance.Taking stream top where
  expects := by
    show c'.nextExpect.succ = Mod.wrap (c'.rcvd + 1 + 1)
    rw [took.nextExpect, took.rcvd, taking.expects, Mod.succ_wrap]
  reached := by
    show c'.rcvd + 1 ≤ top
    rw [took.rcvd]
    exact below
  assembled := by
    show c'.assembled = reassemble stream (c'.rcvd + 1)
    rw [took.assembled, took.rcvd, taking.assembled, reassemble_succ piece]
  held := by
    intro key other found
    have before := took.held key other found
    obtain ⟨number, low, high, named, same⟩ := taking.held key other before
    refine ⟨number, ?_, high, named, same⟩
    show c'.rcvd + 1 < number
    rw [took.rcvd]
    -- The number just taken is not held.
    refine Nat.lt_of_le_of_ne low ?_
    intro next
    have here : c.nextExpect.value = key := by
      rw [named, taking.expects, ← next]
      rfl
    unfold Drained at drained
    rw [here, before] at drained
    cases drained

/-! ## Holding and releasing -/

theorem Taking.hold {segment : DataSeg} {number : Nat}
    (numbered : segment.segnum = Mod.wrap number) (ahead : c.rcvd + 1 < number)
    (sent : number ≤ top) (piece : stream[number - 1]? = some segment.piece) :
    (c.hold segment).Taking stream top := by
  unfold Connection.hold
  split
  · split
    · exact taking
    · refine { taking with held := ?_ }
      intro key other found
      by_cases same : key = segment.segnum.value
      · subst same
        rw [lookup_insert] at found
        cases found
        refine ⟨number, Nat.lt_of_succ_lt ahead, sent, ?_, piece⟩
        rw [numbered]
        rfl
      · change (c.ooo.insert segment.segnum.value segment).lookup _ = _ at found
        rw [lookup_insert_ne same] at found
        exact taking.held key other found
  · exact taking

end

theorem Drained.hold (drained : c.Drained) {segment : DataSeg}
    (other : segment.segnum ≠ c.nextExpect) : (c.hold segment).Drained := by
  unfold Connection.hold
  split
  · split
    · exact drained
    · show (c.ooo.insert segment.segnum.value segment).lookup _ = none
      have different : c.nextExpect.value ≠ segment.segnum.value :=
        fun same => other (Mod.ext same.symm)
      rw [lookup_insert_ne different]
      exact drained
  · exact drained

theorem rcvd_hold (segment : DataSeg) (c : Connection) : (c.hold segment).rcvd = c.rcvd := by
  unfold hold
  split
  · split <;> rfl
  · rfl

theorem Taking.release (taking : c.Taking stream top) : c.release.Taking stream top :=
  { taking with
    held := fun key segment found => taking.held key segment (World.lookup_erase_some found) }

theorem drained_release (c : Connection) : c.release.Drained :=
  lookup_erase c.nextExpect.value c.ooo

theorem keys_length_le {old new : AList fun _ : Nat => DataSeg}
    (held : ∀ key segment, new.lookup key = some segment →
      old.lookup key = some segment) : new.keys.length ≤ old.keys.length := by
  have among : new.keys ⊆ old.keys := by
    intro key member
    obtain ⟨segment, found⟩ := Option.isSome_iff_exists.mp (lookup_isSome.mpr (mem_keys.mpr member))
    exact mem_keys.mp (lookup_isSome.mp
      (Option.isSome_iff_exists.mpr ⟨segment, held key segment found⟩))
  exact (List.subperm_of_subset new.nodupKeys among).length_le

theorem keys_length_release {segment : DataSeg}
    (found : c.ooo.lookup c.nextExpect.value = some segment) :
    c.release.ooo.keys.length + 1 = c.ooo.keys.length := by
  have member : c.nextExpect.value ∈ c.ooo.keys :=
    mem_keys.mp (lookup_isSome.mp (Option.isSome_iff_exists.mpr ⟨segment, found⟩))
  have positive := List.length_pos_of_mem member
  show (c.ooo.erase c.nextExpect.value).keys.length + 1 = _
  rw [keys_erase, List.length_erase_of_mem member]
  omega

/-! ## What carries no segment -/

theorem receiving_sendAck (c : Connection) : Receiving c c.sendAck :=
  ⟨rfl, rfl, rfl, rfl, rfl, fun _ _ => id⟩

theorem receiving_stopTimer (c : Connection) : Receiving c c.stopTimer :=
  ⟨rfl, rfl, rfl, rfl, rfl, fun _ _ => id⟩

theorem receiving_op {heeds : Heeds} (opened : c.Opened)
    (silent : ¬ heeds.data) (op : Op heeds c c') : Receiving c c' := by
  cases does_op op with
  | receives half _ _ data =>
    obtain ⟨inbox, rest⟩ := half
    cases data.resolve_left silent
    exact ⟨rfl, rfl, rfl, rfl, rfl, fun _ _ => id⟩
  | routeAck ack onData _ => exact (sends_routeAck ack onData c).receiving
  | applyCredit message => exact receiving_applyCredit message c
  | confirmReject _ opening => exact (opened.not_opening opening).elim
  | connectAcked state | accepted state => simp [Opened, state] at opened
  | stopTimer | resend => exact ⟨rfl, rfl, rfl, rfl, rfl, fun _ _ => id⟩

def Taken (stream : List Piece) (top : Nat) (c : Connection) : Prop :=
  c.Taking stream top ∧ c.Drained

section

variable (taken : c.Taken stream top)

include taken

theorem Taken.receiving (same : Receiving c c') : c'.Taken stream top :=
  ⟨taken.1.receiving same, taken.2.receiving same⟩

theorem Taken.told {upcall : Upcall} (silent : upcall.message = none)
    {config : NspConfig} {ok : Call → Prop}
    (calls : Called config ok (c.noteEvent upcall) c') : c'.Taken stream top :=
  Taken.receiving ⟨taken.1.noteEvent silent, taken.2⟩ (receiving_calls calls)

section

variable {heeds : Heeds} {permits : Permits} {config : NspConfig} (opened : c.Opened)
  (silent : ¬ heeds.data)

include opened silent

theorem Taken.change (change : Change heeds permits config c c') : c'.Taken stream top := by
  cases change with
  | op _ op => exact taken.receiving (receiving_op opened silent op)
  | call call => exact taken.receiving (receiving_called config call c)
  | inform _ upcall midway heard calls =>
    refine taken.told ?_ calls
    cases upcall with
    | dataReceived data => exact absurd heard silent
    | _ => rfl
  | confirmed _ _ opening | refused _ _ _ opening =>
    exact (opened.not_opening opening).elim
  | ended final prepare reason data expiry _ calls =>
    have prepared : Receiving c (prepare c) := by
      cases expiry with
      | none => exact .refl c
      | expired => exact receiving_stopTimer c
      | exhausted retries =>
        exact (receiving_stopTimer c).trans ⟨rfl, rfl, rfl, rfl, rfl, fun _ _ => id⟩
    have cleared := (taken.receiving prepared).receiving (receiving_clearQueues _)
    exact (cleared.told rfl calls).receiving ⟨rfl, rfl, rfl, rfl, rfl, fun _ _ => id⟩
  | lapsed link waiting _ => simp [Opened, waiting] at opened

theorem Taken.changes (changes : ReflTransGen (Change heeds permits config) c c') :
    c'.Taken stream top := by
  have kept : c'.Taken stream top ∧ c'.Opened := by
    induction changes with
    | refl => exact ⟨taken, opened⟩
    | tail _ last ih =>
      have onward : Onward none _ _ :=
        onward_change ih.2 (fun _ _ _ _ _ bounded => nomatch bounded) last
      exact ⟨ih.1.change ih.2 silent last, onward.opened⟩
  exact kept.1

end

end

end Connection

namespace World

open Connection

variable {τ : Type*} {sc : SessionControl τ} {stream : List Piece} {top : Nat}

theorem taking_accepted {w : World τ} {link : Ptr} (old : link < w.allocated)
    (taking : (w.links link).Taking stream top)
    (drained : (w.links link).Drained) {segment : DataSeg} (below : (w.links link).rcvd < top)
    (piece : stream[(w.links link).rcvd]? = some segment.piece) :
    let w' := (w.acceptSegment sc link segment).modify link advance
    (w'.links link).Taking stream top ∧ (w'.links link).rcvd = (w.links link).rcvd + 1 ∧
      (w'.links link).ooo.keys.length ≤ (w.links link).ooo.keys.length ∧ link < w'.allocated := by
  intro w'
  obtain ⟨took, allocated⟩ := @took_acceptSegment τ sc w link old segment
  have now : w'.links link = ((w.acceptSegment sc link segment).links link).advance := by
    simp [w']
  rw [now]
  refine ⟨taking.took drained below piece took, ?_, ?_, ?_⟩
  · exact congrArg (· + 1) took.rcvd
  · exact keys_length_le took.held
  · exact old.trans_le allocated

theorem taken_drain {link : Ptr} (rounds : Nat) {w : World τ}
    (old : link < w.allocated) (taking : (w.links link).Taking stream top)
    (near : top < (w.links link).rcvd + 2048) (enough : (w.links link).ooo.keys.length ≤ rounds) :
    ((w.drain sc link rounds).links link).Taken stream top ∧
      (w.links link).rcvd ≤ ((w.drain sc link rounds).links link).rcvd := by
  induction rounds generalizing w with
  | zero =>
    have none : (w.links link).ooo.keys = [] := List.length_eq_zero_iff.mp (Nat.le_zero.mp enough)
    have absent : (w.links link).nextExpect.value ∉ (w.links link).ooo := by
      rw [mem_keys, none]
      exact List.not_mem_nil
    exact ⟨⟨taking, lookup_eq_none.mpr absent⟩, Nat.le_refl _⟩
  | succ rounds ih =>
    simp only [drain]
    cases found : (w.links link).ooo.lookup (w.links link).nextExpect.value with
    | none => exact ⟨⟨taking, found⟩, Nat.le_refl _⟩
    | some held =>
      dsimp only
      obtain ⟨below, piece⟩ := taking.number_of_next near found
      have released : (w.modify link release).links link = (w.links link).release := by simp
      have fewer := keys_length_release found
      have next := @taking_accepted τ sc stream top (w.modify link release) link old
        (released ▸ taking.release) (released ▸ drained_release _) held
        (released ▸ below) (released ▸ piece)
      obtain ⟨taking', rcvd, keys, old'⟩ := next
      rw [released] at rcvd keys
      have counted : (w.links link).release.rcvd = (w.links link).rcvd := rfl
      obtain ⟨taken, further⟩ := ih old' taking' (by omega) (by omega)
      exact ⟨taken, by omega⟩

section

variable {w : World τ} {link : Ptr} (old : link < w.allocated)
  (taken : (w.links link).Taken stream top) (near : top < (w.links link).rcvd + 2048)
  {segment : DataSeg}

include old taken near

theorem taken_inTurn (sent : (w.links link).rcvd + 1 ≤ top)
    (piece : stream[(w.links link).rcvd]? = some segment.piece) :
    let w₁ := (w.acceptSegment sc link segment).modify link advance
    let w₂ := w₁.drain sc link (w₁.links link).ooo.keys.length
    (w₂.links link).Taken stream top ∧ (w.links link).rcvd + 1 ≤ (w₂.links link).rcvd := by
  intro w₁ w₂
  obtain ⟨taking, counted, _, present⟩ := @taking_accepted τ sc stream top w
    link old taken.1 taken.2 segment sent piece
  have counted : (w₁.links link).rcvd = (w.links link).rcvd + 1 := counted
  obtain ⟨drained, further⟩ := @taken_drain τ sc stream top link
    ((w₁.links link).ooo.keys.length) w₁ present taking (by omega) (Nat.le_refl _)
  exact ⟨drained, counted ▸ further⟩

theorem taken_handleData {number : Nat} (numbered : segment.segnum = Mod.wrap number)
    (sent : number ≤ top) (fresh : (w.links link).rcvd + 1 < number + 2048)
    (piece : stream[number - 1]? = some segment.piece) :
    ((w.handleData sc link segment).links link).Taken stream top ∧ (w.links link).rcvd ≤
        ((w.handleData sc link segment).links link).rcvd ∧ (number = (w.links link).rcvd + 1 →
        number ≤ ((w.handleData sc link segment).links link).rcvd) := by
  have same : Receiving (w.links link) (((w.links link).routeAck segment.acknum true).routeAck
        segment.acknum2 true) :=
    (sends_routeAck _ _ _).receiving.trans (sends_routeAck _ _ _).receiving
  have now : ((w.modify link (routeAck segment.acknum true)).modify
      link (routeAck segment.acknum2 true)).links link =
      ((w.links link).routeAck segment.acknum true).routeAck segment.acknum2 true := by simp
  have old' : link < ((w.modify link (routeAck segment.acknum true)).modify link
      (routeAck segment.acknum2 true)).allocated := old
  rw [← now] at same
  have acked := taken.receiving same
  have rcvd := same.rcvd
  unfold handleData
  dsimp only
  generalize (w.modify link (routeAck segment.acknum true)).modify
    link (routeAck segment.acknum2 true) = w' at *
  have expects := acked.1.expects
  split
  case isTrue less =>
    have told : (w'.modify link sendAck).links link = (w'.links link).sendAck := by simp
    rw [told]
    refine ⟨acked.receiving (receiving_sendAck _), rcvd.ge, ?_⟩
    intro next
    rw [numbered, expects, Mod.not_less_wrap (by omega) (by omega)] at less
    cases less
  case isFalse notLess =>
    split
    case isTrue other =>
      have told : (w'.modify link (fun c => (c.hold segment).sendAck)).links link =
          ((w'.links link).hold segment).sendAck := by simp
      have late : ¬ number < (w.links link).rcvd + 1 := by
        intro early
        apply notLess
        rw [numbered, expects, rcvd]
        exact Mod.less_wrap early (by omega)
      have different : number ≠ (w.links link).rcvd + 1 := by
        rintro rfl
        apply other
        rw [numbered, expects, rcvd]
      have ahead : (w'.links link).rcvd + 1 < number := by omega
      have held : ((w'.links link).hold segment).Taken stream top :=
        ⟨acked.1.hold numbered ahead sent piece, acked.2.hold other⟩
      rw [told]
      refine ⟨held.receiving (receiving_sendAck _), ?_, ?_⟩
      · exact ((rcvd_hold segment _).trans rcvd).ge
      · exact fun next => absurd next different
    case isFalse inTurn =>
      have next : number = (w'.links link).rcvd + 1 := by
        have wraps : (Mod.wrap number : Seq) = Mod.wrap ((w'.links link).rcvd + 1) := by
          rw [← numbered, ← expects]
          exact not_not.mp inTurn
        rcases Nat.le_total number ((w'.links link).rcvd + 1) with
          low | high
        · exact (Mod.wrap_inj 4096 low (by omega)).mp wraps
        · exact ((Mod.wrap_inj 4096 high (by omega)).mp wraps.symm).symm
      subst next
      obtain ⟨drained, reached⟩ := @taken_inTurn τ sc stream top w' link
        old' acked (by omega) segment sent piece
      generalize ((w'.acceptSegment sc link segment).modify link
        advance).drain sc link _ = final at drained reached ⊢
      split
      · have told : (final.modify link delayAck).links link =
            (final.links link).delayAck := by simp
        rw [told]
        refine ⟨drained.receiving
          ⟨rfl, rfl, rfl, rfl, rfl, fun _ _ => id⟩, ?_, fun _ => reached⟩
        exact rcvd ▸ Nat.le_of_succ_le reached
      · have told : (final.modify link sendAck).links link =
            (final.links link).sendAck := by simp
        rw [told]
        refine ⟨drained.receiving (receiving_sendAck _), ?_, fun _ => reached⟩
        exact rcvd ▸ Nat.le_of_succ_le reached

end

end World

end Decnet.Nsp
