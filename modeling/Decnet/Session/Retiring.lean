import Decnet.Lib.Shelf
import Decnet.Session.Live

/-!
# Closed links and finished conversations

NSP moves links from `by_addr_` to `closed_`, and session control moves
conversations from `live_` to `finished_`.  Whatever a node does to these is a
sequence of operations of a shelf, so nothing is freed before its time.
-/

namespace Decnet.Nsp.World

open Relation Function

variable {τ : Type*} {sc : SessionControl τ}

/-- The time, the open links by their addresses and the closed ones. -/
def linkShelf (w : World τ) : Nat × Shelf Nat Ptr :=
  (w.now, ⟨fun addr => w.byAddr.lookup addr, w.closed⟩)

/-- From one state to the other the links are moved as on a shelf. -/
def Housed (w w' : World τ) : Prop :=
  w'.config = w.config ∧ Shelf.Reaches w.config.closedGrace w.linkShelf w'.linkShelf

variable {w w' : World τ}

theorem Housed.refl (w : World τ) : Housed w w := ⟨rfl, .refl⟩

theorem Housed.trans {middle : World τ} (first : Housed w middle)
    (second : Housed middle w') : Housed w w' := by
  refine ⟨second.1.trans first.1, first.2.trans ?_⟩
  rw [← first.1]
  exact second.2

section

variable {β ν : Type} (seen : Nat → Option β → Option ν) (table : AList fun _ : Nat => β) (key : Nat)

theorem seen_insert (item : β) : (fun other => seen other ((table.insert key item).lookup other)) =
    update (fun other => seen other (table.lookup other)) key (seen key (some item)) :=
  eq_update_iff.mpr ⟨congrArg _ (AList.lookup_insert _),
    fun _ differ => congrArg _ (AList.lookup_insert_ne differ)⟩

theorem seen_erase : (fun other => seen other ((table.erase key).lookup other)) =
    update (fun other => seen other (table.lookup other)) key (seen key none) :=
  eq_update_iff.mpr ⟨congrArg _ (AList.lookup_erase ..),
    fun _ differ => congrArg _ (AList.lookup_erase_ne differ)⟩

end

section

variable (w : World τ)

theorem housed_newLink (addr : Nat) (dest : Nodeid) : Housed w (w.newLink addr dest) := by
  refine ⟨rfl, .single ?_⟩
  have entered : (w.newLink addr dest).linkShelf = (w.now,
      w.linkShelf.2.step w.config.closedGrace w.now (.enter addr w.allocated)) :=
    congrArg (fun live => (w.now, Shelf.mk live w.closed)) (seen_insert (fun _ => id) w.byAddr ..)
  rw [entered]
  exact .op ..

theorem linkShelf_closeConnection (link : Ptr) :
    (w.closeConnection link).linkShelf = (w.now, (w.linkShelf.2.step w.config.closedGrace
      w.now .sweep).step w.config.closedGrace w.now (.retire (w.links link).srcaddr)) := by
  unfold closeConnection
  dsimp only
  split
  case h_1 absent =>
    change w.byAddr.lookup _ = none at absent
    simp only [Shelf.step, linkShelf, absent]
    rfl
  case h_2 held found =>
    change w.byAddr.lookup _ = some held at found
    simp only [Shelf.step, linkShelf, found]
    exact congrArg (fun live => (w.now, Shelf.mk live _)) (seen_erase (fun _ => id) w.byAddr _)

theorem housed_closeConnection (link : Ptr) : Housed w (w.closeConnection link) := by
  refine ⟨closeConnection_config w link, ?_⟩
  rw [linkShelf_closeConnection]
  exact Shelf.reaches_retire ..

theorem housed_execute (call : Call) :
    Housed w (w.execute call) ∧ (w.execute call).now = w.now := by
  cases call with
  | connect dest payload =>
    simp only [execute, connect, getId]
    cases w.freeIds with
    | nil => exact ⟨.refl w, rfl⟩
    | cons addr rest => exact ⟨housed_newLink { w with freeIds := rest } addr dest, rfl⟩
  | reject link reason data =>
    simp only [execute, reject]
    split
    · exact ⟨.refl w, rfl⟩
    · exact ⟨housed_closeConnection _ link, congrArg Prod.fst (linkShelf_closeConnection _ link)⟩
  | accept | disconnect | sendData | sendInterrupt => exact ⟨.refl w, rfl⟩

end

theorem housed_acts (acts : ReflTransGen Acts w w') : Housed w w' := by
  induction acts with
  | refl => exact .refl w
  | tail _ act before =>
    refine before.trans ?_
    cases act with
    | think => exact .refl _
    | call call =>
      unfold perform
      split
      · exact (housed_execute _ call).1
      · exact .refl _

/-- Turns of links, new links and the clock keep the relation. -/
structure Lasts (sc : SessionControl τ) (R : World τ → World τ → Prop) : Prop where
  trans {w w' w'' : World τ} : R w w' → R w' w'' → R w w''
  note (w : World τ) (sent : List (Nodeid × Packet)) (seconds : Nat) :
    R w { w with sent := sent, now := w.now + seconds }
  put (w : World τ) (link : Ptr) (c : Connection) : R w (w.put link c)
  tell (w : World τ) (link : Ptr) (upcall : Upcall) : R w (w.tell sc link upcall)
  close (w : World τ) (link : Ptr) : R w ((w.closeConnection link).setState link .cl)
  opens (w : World τ) (ids : List Nat) (addr : Nat) (src : Nodeid) (message : ConnInit) :
    R w ({ w with freeIds := ids }.inbound addr src message)

variable {R : World τ → World τ → Prop}

theorem Lasts.linkSteps {link : Ptr} (lasts : Lasts sc R)
    (steps : LinkSteps sc .all True link w w') : R w w' := by
  have turns := turns_linkSteps steps
  clear steps
  induction turns with
  | refl => exact lasts.note w w.sent 0
  | tail _ turn before =>
    refine lasts.trans before ?_
    cases turn with
    | put c _ => exact lasts.put _ link c
    | tell upcall _ => exact lasts.tell _ link upcall
    | close => exact lasts.close _ link

theorem Lasts.step (lasts : Lasts sc R) (w : World τ) (input : Input τ)
    (alone : ¬ actsOutside input) : R w (w.step sc input) := by
  cases input with
  | act | think => exact absurd trivial alone
  | elapse seconds => exact lasts.note w w.sent seconds
  | expire link => exact lasts.linkSteps (linkSteps_expire w fun _ _ _ => trivial)
  | expireAck link => exact lasts.linkSteps (linkSteps_expireAck w)
  | deliver src packet =>
    simp only [World.step]
    cases found : w.recipient src packet with
    | some link =>
      obtain ⟨running, confirming, opening⟩ := attentive_all w (.deliver src packet) link found
      rw [deliver_of_recipient found]
      exact lasts.linkSteps (linkSteps_receive w packet running confirming opening)
    | none =>
      rcases deliver_of_no_recipient found with same | ⟨sent, same⟩ |
        ⟨message, addr, rest, _, taken, same⟩ <;> rw [same]
      · exact lasts.note w w.sent 0
      · exact lasts.note w sent 0
      · obtain ⟨_, opened⟩ := getId_some taken
        rw [opened]
        exact lasts.trans (lasts.opens w rest.freeIds addr src message) (lasts.tell _ _ _)

theorem lasts_housed : Lasts sc (@Housed τ) where
  trans := .trans
  note w _ seconds := ⟨rfl, .single (.time w.now seconds _)⟩
  put w _ _ := .refl w
  tell w link upcall := (housed_acts (sc.acts link upcall (w.entered link upcall)) :)
  close := housed_closeConnection
  opens w ids addr src _ := housed_newLink { w with freeIds := ids } addr src

theorem housed_run (w : World τ) (inputs : List (Input τ)) :
    Housed w (inputs.foldl (step sc) w) := by
  induction inputs generalizing w with
  | nil => exact .refl w
  | cons input inputs induction =>
    refine Housed.trans ?_ (induction _)
    cases input with
    | act call => exact housed_acts (.single (.call w call))
    | think next => exact housed_acts (.single (.think w next))
    | _ => exact lasts_housed.step w _ id

/-- A closed link stays on the shelf for its grace period. -/
theorem closed_links_kept (config : NspConfig) (ids : List Nat) (session : τ)
    (earlier later : List (Input τ)) :
    let after := reach sc config ids session (earlier ++ later)
    ∀ entry ∈ (reach sc config ids session earlier).closed,
      entry ∈ after.closed ∨ config.closedGrace ≤ after.now - entry.2 := by
  intro after entry member
  have housed := @housed_run τ sc (reach sc config ids session earlier) later
  rw [reach, ← List.foldl_append] at housed
  rw [← @reach_config τ sc config ids session earlier]
  exact housed.2.retired member

end Decnet.Nsp.World

namespace Decnet.Session

open Decnet.Nsp Decnet.Nsp.World

variable {α : Type*} {apps : Applications α}

def talkShelf (w : SessionWorld α) : Nat × Shelf Ptr Ptr :=
  (w.now, ⟨fun link => (w.session.live.lookup link).map fun _ => link, w.session.finished⟩)

abbrev Talks (w w' : SessionWorld α) : Prop :=
  Shelf.Reaches finishedGrace (talkShelf w) (talkShelf w')

theorem Talks.of_eq {w w' : SessionWorld α} (same : talkShelf w' = talkShelf w) : Talks w w' := by
  rw [Talks, same]

section

variable (w : SessionWorld α)

theorem talks_startLive (link : Ptr) (message : ConnectData) :
    Talks w (startLive link message w) := by
  have entered : talkShelf (startLive link message w) =
      (w.now, (talkShelf w).2.step finishedGrace w.now (.enter link link)) :=
    congrArg (fun live => (w.now, Shelf.mk live w.session.finished))
      (seen_insert (fun link => Option.map fun _ => link) w.session.live link message)
  refine .single ?_
  rw [entered]
  exact .op ..

theorem talks_retire (link : Ptr) : Talks w (retire link w) := by
  unfold retire
  split
  case isFalse => exact .of_eq rfl
  case isTrue isLive =>
    obtain ⟨message, found⟩ := Option.isSome_iff_exists.mp (AList.lookup_isSome.mpr isLive)
    have retired := Shelf.reaches_retire finishedGrace w.now (talkShelf w).2 link
    have erased := seen_erase (fun link => Option.map fun _ => link) w.session.live link
    simp only [Shelf.step, talkShelf, found, Option.map_some, Option.map_none] at retired erased
    rw [← erased] at retired
    exact retired

theorem talkShelf_perform (call : Call) : talkShelf (w.perform call) = talkShelf w := by
  by_cases reachable : Reachable call w
  · rw [perform_of_reachable reachable, talkShelf, (housed_execute _ call).2, execute_session]
    rfl
  · rw [perform_of_not_reachable reachable]

theorem talkShelf_callNsp (call : Call) : talkShelf (callNsp call w) = talkShelf w := by
  rw [callNsp, talkShelf_perform]
  unfold note
  split <;> rfl

end

theorem kept_talks : Kept (fun _ _ => True) (@Talks α) where
  refl _ := .of_eq rfl
  trans := .trans
  thinks _ _ := .of_eq rfl
  registers _ _ := .of_eq rfl
  calls w call := .of_eq (talkShelf_callNsp w call)
  connects _ _ := .trans (Talks.of_eq (talkShelf_callNsp _ _)) (talks_startLive _ _ _)
  refuses _ _ := .of_eq (talkShelf_perform _ _)
  begins _ _ := talks_startLive _ _ _
  ends := talks_retire

theorem lasts_talks : Lasts (control apps) (@Talks α) where
  trans := .trans
  note w _ seconds := .single (.time w.now seconds _)
  put _ _ _ := .of_eq rfl
  tell w link upcall :=
    @Kept.notify α apps _ _ kept_talks link upcall (w.entered link upcall) fun _ _ => trivial
  close w link := by
    apply Talks.of_eq
    change talkShelf (w.closeConnection link) = _
    rw [talkShelf, closeConnection_session]
    exact congrArg (·, _) (congrArg Prod.fst (linkShelf_closeConnection w link))
  opens _ _ _ _ _ := .of_eq rfl

theorem talks_run (w : SessionWorld α) (inputs : List (Input α)) :
    Talks w (inputs.foldl (step apps) w) := by
  induction inputs generalizing w with
  | nil => exact .of_eq rfl
  | cons input inputs induction =>
    refine .trans ?_ (induction _)
    cases input with
    | deliver src packet => exact lasts_talks.step w (.deliver src packet) id
    | expire link => exact lasts_talks.step w (.expire link) id
    | expireAck link => exact (@lasts_talks α apps).step w (.expireAck link) id
    | elapse seconds => exact .single (.time w.now seconds _)
    | request request => exact kept_talks.request w request
    | think next => exact kept_talks.thinks w next
    | register objects => exact kept_talks.registers w objects

/-- A finished conversation stays on the shelf for its grace period. -/
theorem finished_conversations_kept (config : NspConfig) (ids : List Nat)
    (objects : List Object) (initial : α) (earlier later : List (Input α)) :
    let after := reach apps config ids objects initial (earlier ++ later)
    ∀ entry ∈ (reach apps config ids objects initial earlier).session.finished,
      entry ∈ after.session.finished ∨ finishedGrace ≤ after.now - entry.2 := by
  intro after entry member
  have talks := @talks_run α apps (reach apps config ids objects initial earlier) later
  rw [reach, ← List.foldl_append] at talks
  exact talks.retired member

end Decnet.Session
