import Decnet.Nsp.Addresses
import Decnet.Nsp.Timers

/-!
# The table of links by their far ends

NSP finds the link for a repeated connect initiate by the node and the link
address it came from.  Only links that the far end asked for are entered, but
closing any link removes the entry under its far end's address.  So an inbound
link is lost from the table when an outbound one with the same far end closes.
-/

namespace Decnet.Nsp

open Relation Function Connection AList

namespace Connection

def farEnd (c : Connection) : Nat × Nat :=
  (c.dest, c.dstaddr)

end Connection

namespace World

variable {τ : Type*} {sc : SessionControl τ}

/-- The table holds exactly the open links that the far end asked for, and no
other open link has a far end under which one of them is held. -/
structure Filed (w : World τ) : Prop where
  owned : ∀ key link, w.byRemote.lookup key = some link →
    w.IsOpen link ∧ (w.links link).Inbound ∧ (w.links link).farEnd = key ∧ key.2 ≠ 0
  filed : ∀ link, w.IsOpen link → (w.links link).Inbound →
    w.byRemote.lookup (w.links link).farEnd = some link
  apart : ∀ link, w.IsOpen link → ¬ (w.links link).Inbound →
    w.byRemote.lookup (w.links link).farEnd = none
  outbound : ∀ link, (w.links link).state = .ci ∨ (w.links link).state = .cd →
    ¬ (w.links link).Inbound

/-- No address that a link may learn is that of the far end of a link that is
held under it. -/
def Reserved (learns : Ptr → Nat → Prop) (w : World τ) : Prop :=
  ∀ link addr, learns link addr → link < w.allocated ∧
    w.byRemote.lookup ((w.links link).dest, addr) = none

section Filed

variable {w w' : World τ} {link : Ptr} {c : Connection} {learns : Ptr → Nat → Prop}

/-- What `Filed` says of one link. -/
structure FiledAt (w : World τ) (link : Ptr) : Prop where
  owned : ∀ key, w.byRemote.lookup key = some link →
    w.IsOpen link ∧ (w.links link).Inbound ∧ (w.links link).farEnd = key ∧ key.2 ≠ 0
  filed : w.IsOpen link → (w.links link).Inbound →
    w.byRemote.lookup (w.links link).farEnd = some link
  apart : w.IsOpen link → ¬ (w.links link).Inbound → w.byRemote.lookup (w.links link).farEnd = none
  outbound : (w.links link).state = .ci ∨ (w.links link).state = .cd → ¬ (w.links link).Inbound

theorem Filed.elsewhere (filed : Filed w) (link : Ptr)
    (there : ∀ other, other ≠ link → w'.links other = w.links other)
    (opened : ∀ other, other ≠ link → (w'.IsOpen other ↔ w.IsOpen other))
    (held : ∀ key other, other ≠ link → (w'.byRemote.lookup key = some other ↔
        w.byRemote.lookup key = some other))
    (free : ∀ other, w.IsOpen other → ¬ (w.links other).Inbound →
      w'.byRemote.lookup (w.links other).farEnd ≠ some link)
    (own : w'.FiledAt link) : Filed w' := by
  constructor
  case owned =>
    intro key other found
    by_cases same : other = link
    · exact same ▸ own.owned key (same ▸ found)
    · rw [opened other same, there other same]
      exact filed.owned key other ((held key other same).1 found)
  case filed =>
    intro other isOpen asked
    by_cases same : other = link
    · exact same ▸ own.filed (same ▸ isOpen) (same ▸ asked)
    · rw [opened other same] at isOpen
      rw [there other same] at asked ⊢
      exact (held _ other same).2 (filed.filed other isOpen asked)
  case apart =>
    intro other isOpen asked
    by_cases same : other = link
    · exact same ▸ own.apart (same ▸ isOpen) (same ▸ asked)
    · rw [opened other same] at isOpen
      rw [there other same] at asked ⊢
      rw [Option.eq_none_iff_forall_ne_some]
      intro holder found
      by_cases isLink : holder = link
      · exact free other isOpen asked (isLink ▸ found)
      · have absent := filed.apart other isOpen asked
        rw [(held _ holder isLink).1 found] at absent
        cases absent
  case outbound =>
    intro other state
    by_cases same : other = link
    · exact same ▸ own.outbound (same ▸ state)
    · rw [there other same] at state ⊢
      exact filed.outbound other state

theorem Filed.update (filed : Filed w) (byAddr : w'.byAddr = w.byAddr)
    (byRemote : w'.byRemote = w.byRemote) (links : w'.links = update w.links link c)
    (srcaddr : c.srcaddr = (w.links link).srcaddr) (inbound : c.Inbound ↔ (w.links link).Inbound)
    (farEnd : c.farEnd = (w.links link).farEnd ∨
      ¬ (w.links link).Inbound ∧ w.byRemote.lookup c.farEnd = none)
    (opening : c.state = .ci ∨ c.state = .cd → ¬ (w.links link).Inbound) : Filed w' := by
  have opened := isOpen_update byAddr links srcaddr
  have here : w'.links link = c := by rw [links, update_self]
  have kept (asked : (w.links link).Inbound) : c.farEnd = (w.links link).farEnd :=
    farEnd.resolve_right fun changed => changed.1 asked
  refine filed.elsewhere link (fun other different => ?_)
    (fun other _ => opened other) (fun key other _ => by rw [byRemote])
    (fun other isOpen asked found => ?_) ⟨?_, ?_, ?_, ?_⟩
  · rw [links, update_of_ne different]
  · rw [byRemote, filed.apart other isOpen asked] at found
    cases found
  · intro key found
    rw [byRemote] at found
    obtain ⟨isOpen, asked, far, positive⟩ := filed.owned key link found
    rw [opened, here, inbound]
    exact ⟨isOpen, asked, (kept asked).trans far, positive⟩
  · rw [opened, here, inbound, byRemote]
    intro isOpen asked
    rw [kept asked]
    exact filed.filed link isOpen asked
  · rw [opened, here, inbound, byRemote]
    intro isOpen asked
    rcases farEnd with same | ⟨_, absent⟩
    · rw [same]
      exact filed.apart link isOpen asked
    · exact absent
  · rw [here, inbound]
    exact opening

theorem Filed.close (filed : Filed w) (isOpen : w.IsOpen link) :
    Filed ((w.closeConnection link).setState link .cl) := by
  obtain ⟨byAddr, links⟩ := close_tables w link
  have byRemote : ((w.closeConnection link).setState link .cl).byRemote =
      w.byRemote.erase (w.links link).farEnd := closeConnection_byRemote w link
  generalize (w.closeConnection link).setState link .cl = w' at *
  have there (other : Ptr) (different : other ≠ link) : w'.links other = w.links other := by
    rw [links, Function.update_of_ne different]
  have shut : ¬ w'.IsOpen link := by
    have gone := @AList.lookup_erase _ _ _ (w.links link).srcaddr w.byAddr
    rw [IsOpen, byAddr, links, Function.update_self]
    intro held
    cases gone.symm.trans held
  refine filed.elsewhere link there (fun other different => ?_)
    (fun key other different => ?_) (fun other otherOpen asked found => ?_)
    ⟨fun key found => ?_, fun still => absurd still shut, fun still => absurd still shut, ?_⟩
  · rw [IsOpen, byAddr, there other different]
    refine ⟨lookup_erase_some, fun otherOpen => ?_⟩
    rw [lookup_erase_ne (Tables.srcaddr_ne isOpen otherOpen different)]
    exact otherOpen
  · rw [byRemote]
    refine ⟨lookup_erase_some, fun held => ?_⟩
    rw [lookup_erase_ne, held]
    rintro rfl
    by_cases asked : (w.links link).Inbound
    · rw [filed.filed link isOpen asked] at held
      exact different (Option.some.inj held).symm
    · rw [filed.apart link isOpen asked] at held
      cases held
  · rw [byRemote] at found
    have absent := filed.apart other otherOpen asked
    rw [lookup_erase_some found] at absent
    cases absent
  · rw [byRemote] at found
    obtain ⟨_, _, rfl, _⟩ := filed.owned key link (lookup_erase_some found)
    rw [lookup_erase] at found
    cases found
  · rw [links, Function.update_self]
    rintro (state | state) <;> cases state

variable {addr : Nat} {upcall : Upcall} {rest : List Nat}

section Born

variable (filed : Filed w) (known : Known w) (tables : Tables w) (ids : w.freeIds = addr :: rest)
  (byAddr : w'.byAddr = w.byAddr.insert addr w.allocated)
  (links : w'.links = Function.update w.links w.allocated c)

include filed known

theorem Filed.fresh (key : Nat × Nat) : w.byRemote.lookup key ≠ some w.allocated := by
  intro found
  obtain ⟨isOpen, _⟩ := filed.owned key _ found
  exact Nat.lt_irrefl _ (known.byAddr _ _ isOpen).1

include tables ids byAddr links

theorem Filed.bornOutbound (byRemote : w'.byRemote = w.byRemote)
    (unknown : c.dstaddr = 0) (asked : ¬ c.Inbound) : Filed w' := by
  have here : w'.links w.allocated = c := by rw [links, update_self]
  refine filed.elsewhere w.allocated (fun other different => ?_)
    (fun _ => isOpen_born_iff tables ids byAddr links) (fun key other _ => by rw [byRemote])
    (fun other _ _ => byRemote ▸ filed.fresh known _) ⟨fun key found => ?_, ?_, ?_, ?_⟩
  · rw [links, update_of_ne different]
  · exact absurd (byRemote ▸ found) (filed.fresh known key)
  · exact fun _ otherwise => absurd (here ▸ otherwise) asked
  · intro _ _
    rw [byRemote, here, Option.eq_none_iff_forall_ne_some]
    intro holder found
    exact (filed.owned _ holder found).2.2.2 unknown
  · exact fun _ => here ▸ asked

/-- A link that the far end asks for, from an address that no open link of ours
has for its far end. -/
theorem Filed.bornInbound (byRemote : w'.byRemote = w.byRemote.insert c.farEnd w.allocated)
    (srcaddr : c.srcaddr = addr) (asked : c.Inbound) (valid : c.dstaddr ≠ 0)
    (waiting : c.state = .cr) (absent : w.byRemote.lookup c.farEnd = none)
    (distinct : ∀ other, w.IsOpen other → ¬ (w.links other).Inbound →
      (w.links other).farEnd ≠ c.farEnd) : Filed w' := by
  have here : w'.links w.allocated = c := by rw [links, update_self]
  refine filed.elsewhere w.allocated (fun other different => ?_)
    (fun _ => isOpen_born_iff tables ids byAddr links)
    (fun key other different => ?_) (fun other isOpen outbound => ?_)
    ⟨fun key found => ?_, ?_, ?_, ?_⟩
  · rw [links, update_of_ne different]
  · rw [byRemote]
    by_cases same : key = c.farEnd
    · rw [same, lookup_insert, absent]
      exact iff_of_false (fun found => different (Option.some.inj found).symm) nofun
    · rw [lookup_insert_ne same]
  · rw [byRemote, lookup_insert_ne (distinct other isOpen outbound)]
    exact filed.fresh known _
  · rw [byRemote] at found
    by_cases same : key = c.farEnd
    · rw [IsOpen, here, byAddr, srcaddr, lookup_insert, same]
      exact ⟨rfl, asked, rfl, valid⟩
    · rw [lookup_insert_ne same] at found
      exact absurd found (filed.fresh known key)
  · intro _ _
    rw [byRemote, here, lookup_insert]
  · exact fun _ otherwise => absurd (here ▸ asked) otherwise
  · rw [here, waiting]
    rintro (state | state) <;> cases state

end Born

/-! ## Alterations -/

theorem inbound_noteEvent (other : ∀ payload, upcall ≠ .connectReceived payload) :
    (c.noteEvent upcall).Inbound ↔ c.Inbound := by
  constructor
  · rintro ⟨payload, told⟩
    rcases List.mem_append.1 told with earlier | last
    · exact ⟨payload, earlier⟩
    · exact absurd (List.mem_singleton.1 last).symm (other payload)
  · rintro ⟨payload, told⟩
    exact ⟨payload, List.mem_append_left _ told⟩

theorem Filed.alter (filed : Filed w) (known : Known w) (tables : Tables w)
    (reserved : Reserved learns w) (alter : Alter learns w w')
    (once : ClosedOnce w') : Filed w' := by
  cases alter with
  | put link c old passes =>
    refine filed.update rfl rfl rfl passes.srcaddr ?_ ?_ ?_
    · rw [Inbound, Inbound, passes.events]
    · rcases passes.dstaddr with same | ⟨opening, learned⟩
      · exact .inl (Prod.ext passes.dest same)
      · refine .inr ⟨filed.outbound link opening, ?_⟩
        rw [farEnd, passes.dest]
        exact (reserved link _ learned).2
    · exact fun state => filed.outbound link (passes.opening state)
  | event link upcall old later =>
    exact filed.update rfl rfl rfl rfl (inbound_noteEvent later) (.inl rfl) (filed.outbound link)
  | note => exact { filed with }
  | close link old => exact filed.close (tables.isOpen_of_close old once)
  | outbound addr rest dest payload ids =>
    refine filed.bornOutbound known tables ids rfl (by simp [newLink]; rfl) rfl rfl ?_
    rintro ⟨payload, told⟩
    cases told

theorem Reserved.alter (reserved : Reserved learns w)
    (alter : Alter learns w w') : Reserved learns w' := by
  intro link addr learned
  obtain ⟨old, absent⟩ := reserved link addr learned
  refine ⟨old.trans_le alter.onward.allocated, ?_⟩
  rw [(alter.onward.links link old).1]
  cases alter with
  | close other _ =>
    rw [Option.eq_none_iff_forall_ne_some]
    intro held found
    change (w.closeConnection other).byRemote.lookup _ = _ at found
    rw [closeConnection_byRemote] at found
    rw [lookup_erase_some found] at absent
    cases absent
  | _ => exact absent

/-- What holds of the tables in every state. -/
structure Shelved (w : World τ) : Prop where
  known : Known w
  tables : Tables w
  filed : Filed w

theorem Shelved.alters (shelved : Shelved w) (reserved : Reserved learns w)
    (alters : Alters learns w w') (once : ClosedOnce w') : Shelved w' := by
  have both : Shelved w' ∧ Reserved learns w' := by
    induction alters with
    | refl => exact ⟨shelved, reserved⟩
    | tail _ last ih =>
      obtain ⟨before, reserved⟩ := ih (last.onward.closedOnce once)
      refine ⟨⟨before.known.alter last, before.tables.alter last once, ?_⟩, reserved.alter last⟩
      exact before.filed.alter before.known before.tables reserved last once
  exact both.1

/-- Far ends keep their links apart: a connect initiate has a source address,
and not the one of the far end of an open outbound link to its node; and an
outbound link is not told an address from which an inbound link to the same
node is open. -/
def Distinct (w : World τ) (input : Input τ) : Prop :=
  match input with
  | .deliver src packet =>
    (∀ message, packet = .connInit message → message.srcaddr ≠ 0 ∧
      ∀ other, w.IsOpen other → ¬ (w.links other).Inbound →
        (w.links other).farEnd ≠ (src, message.srcaddr)) ∧
    ∀ link addr, w.recipient src packet = some link →
      (w.links link).state = .ci ∨ (w.links link).state = .cd → teaches packet = some addr →
      ∀ other, w.IsOpen other → (w.links other).Inbound →
        (w.links other).farEnd ≠ ((w.links link).dest, addr)
  | _ => True

theorem Filed.absent (filed : Filed w) {key : Nat × Nat}
    (elsewhere : ∀ other, w.IsOpen other → (w.links other).Inbound →
      (w.links other).farEnd ≠ key) : w.byRemote.lookup key = none := by
  rw [Option.eq_none_iff_forall_ne_some]
  intro held found
  obtain ⟨isOpen, asked, far, _⟩ := filed.owned key held found
  exact elsewhere held isOpen asked far

/-- The link that a packet is for may learn the address that it tells. -/
def heedsFor (w : World τ) (input : Input τ) (link : Ptr) : Heeds :=
  ⟨fun _ _ _ => True, True, True, fun addr => ∃ src packet,
    input = .deliver src packet ∧ w.recipient src packet = some link ∧
      ((w.links link).state = .ci ∨ (w.links link).state = .cd) ∧ teaches packet = some addr⟩

theorem attentive_heedsFor (w : World τ) (input : Input τ) :
    w.AttentiveEach sc (w.heedsFor input) input := by
  cases input with
  | deliver src packet =>
    intro link found
    have heeded (c : Connection) : Heeded (w.heedsFor (.deliver src packet) link) c packet :=
      heeded_of_all (fun _ _ _ => trivial) trivial trivial c packet
    exact ⟨fun _ => heeded _, fun _ => heeded _, fun opening addr taught =>
      ⟨src, packet, rfl, found, opening, taught⟩⟩
  | _ => trivial

theorem Filed.received {src : Nodeid} {message : ConnInit}
    (filed : Filed w) (known : Known w) (tables : Tables w)
    (received : Received addr src message w w')
    (unknown : w.byRemote.lookup (src, message.srcaddr) = none) (valid : message.srcaddr ≠ 0)
    (distinct : ∀ other, w.IsOpen other → ¬ (w.links other).Inbound →
      (w.links other).farEnd ≠ (src, message.srcaddr)) : Filed w' := by
  have announced := announced_connectReceived w.config message (create w.config addr src)
  have farEnd : ((create w.config addr src).connectReceived
      w.config message).farEnd = (src, message.srcaddr) := by
    unfold connectReceived sendAckConn
    dsimp only
    split <;> rfl
  refine filed.bornInbound known tables received.ids received.byAddr
    received.links ?_ announced.srcaddr ⟨message.payload, ?_⟩ ?_ announced.state ?_ ?_
  · exact received.byRemote.trans (by rw [← farEnd]; rfl)
  · exact List.mem_append_right _ List.mem_cons_self
  · exact fun zero => valid ((congrArg Prod.snd farEnd).symm.trans zero)
  · exact (congrArg w.byRemote.lookup farEnd).trans unknown
  · exact fun other isOpen asked equal => distinct other isOpen asked (equal.trans farEnd)

theorem shelved_step {input : Input τ} (shelved : Shelved w)
    (distinct : w.Distinct input) (once : ClosedOnce (w.step sc input)) :
    Shelved (w.step sc input) := by
  have stepped : Stepped sc (w.heedsFor input) True True w input (w.step sc input) :=
    stepped shelved.known (attentive_heedsFor w input) (fun _ => trivial) fun _ => trivial
  rcases stepped.alters with alters | ⟨src, message, addr, middle, rfl, unknown, received, alters⟩
  · refine shelved.alters ?_ alters once
    rintro link addr ⟨src, packet, rfl, found, opening, taught⟩
    exact ⟨shelved.known.recipient found, shelved.filed.absent
      (distinct.2 link addr found opening taught)⟩
  · obtain ⟨valid, apart⟩ := distinct.1 message rfl
    have begun : Shelved middle :=
      ⟨received.known shelved.known, shelved.tables.received received,
        shelved.filed.received shelved.known shelved.tables received unknown valid apart⟩
    refine begun.alters ?_ alters once
    rintro link addr ⟨_, _, same, found, _, _⟩
    cases same
    rw [recipient, unknown] at found
    cases found

theorem shelved_run {inputs : List (Input τ)} (shelved : Shelved w)
    (distinct : Run.Guarded (step sc) Distinct w inputs)
    (once : ClosedOnce (inputs.foldl (step sc) w)) : Shelved (inputs.foldl (step sc) w) := by
  induction inputs generalizing w with
  | nil => exact shelved
  | cons input inputs ih =>
    have later := ((@stepped_all τ sc w shelved.known input).known shelved.known).1
    have here := (@known_run τ sc _ later inputs).2.closedOnce once
    exact ih (shelved_step shelved distinct.1 here) distinct.2 once

theorem receive_connInit_allocated (w : World τ) (link : Ptr) (message : ConnInit) :
    (w.receive sc link (.connInit message)).allocated = w.allocated := by
  cases state : (w.links link).state <;>
    simp [receive, dispatch, stateFunction, state, ci, cd, cr, cc, run, di, confirmsAccept]

/-- In every state of a run in which addresses of ours are not shared, session
control rejects links properly and far ends keep their links apart: what the
table of far ends holds is open and has that far end, the table of addresses
holds each link under its own address, and a link that a far end asked for is
found again when the connect initiate is repeated, so that no second one is
opened. -/
theorem link_tables_consistent (config : NspConfig) (ids : List Nat)
    (session : τ) (inputs : List (Input τ)) (divides : config.maxconns + 1 ∣ 65536)
    (initial : InitIds config.maxconns ids)
    (proper : CallsOk CallRecord.Proper (reach sc config ids session inputs))
    (distinct : Run.Guarded (step sc) Distinct (start config ids session) inputs) :
    (∀ key link, (reach sc config ids session inputs).byRemote.lookup key = some link →
        (∃ addr, (reach sc config ids session inputs).byAddr.lookup addr = some link) ∧
        ((reach sc config ids session inputs).links link).farEnd = key) ∧ (∀ addr link,
      (reach sc config ids session inputs).byAddr.lookup addr = some link →
        ((reach sc config ids session inputs).links link).srcaddr = addr) ∧ ∀ addr link,
      (reach sc config ids session inputs).byAddr.lookup addr = some link →
      ((reach sc config ids session inputs).links link).Inbound →
        (reach sc config ids session inputs).byRemote.lookup
          ((reach sc config ids session inputs).links link).farEnd = some link ∧
        ∀ message : ConnInit, message.srcaddr =
            ((reach sc config ids session inputs).links link).dstaddr →
          ((reach sc config ids session inputs).deliver sc
            ((reach sc config ids session inputs).links link).dest (.connInit message)).allocated =
              (reach sc config ids session inputs).allocated := by
  have begun : Shelved (start config ids session) := by
    refine ⟨known_start config ids session, tables_start divides initial, ?_, ?_, ?_, ?_⟩
    · exact fun _ _ held => by cases held
    · exact fun _ isOpen => by cases isOpen
    · exact fun _ isOpen => by cases isOpen
    · rintro link (state | state) <;> cases state
  have shelved : Shelved (reach sc config ids session inputs) :=
    shelved_run begun distinct (closedOnce_reach config ids session inputs proper)
  generalize reach sc config ids session inputs = w at *
  refine ⟨?_, ?_, ?_⟩
  · intro key link held
    obtain ⟨isOpen, _, far, _⟩ := shelved.filed.owned key link held
    exact ⟨⟨_, isOpen⟩, far⟩
  · exact fun addr link held => (shelved.known.byAddr addr link held).2.1
  · intro addr link held asked
    have isOpen : w.IsOpen link := by
      rw [IsOpen, (shelved.known.byAddr addr link held).2.1]
      exact held
    have filed := shelved.filed.filed link isOpen asked
    refine ⟨filed, ?_⟩
    intro message again
    have found : w.recipient (w.links link).dest (.connInit message) = some link := by
      rw [recipient, again]
      exact filed
    rw [deliver_of_recipient found]
    exact receive_connInit_allocated w link message

end Filed

def connectTwice : List (Input Unit) :=
  [.deliver 1025 (.connInit ⟨0, 7, svcNone, 2, 500, []⟩),
    .deliver 1025 (.connInit ⟨0, 7, svcNone, 2, 500, []⟩)]

theorem link_tables_consistent_connectTwice :
    (reach (.scripted fun _ _ => []) ⟨3, 20, 1, 4, 60⟩ [1, 2, 3] ()
      connectTwice).byRemote.lookup (1025, 7) = some 0 := by
  let w := reach (.scripted fun _ _ => []) ⟨3, 20, 1, 4, 60⟩ [1, 2, 3] () connectTwice
  have silent : w.calls = [] := by decide +kernel
  have held : w.byAddr.lookup 1 = some 0 := by decide +kernel
  have asked : (w.links 0).events = [.connectReceived []] := by decide +kernel
  have far : (w.links 0).farEnd = (1025, 7) := by decide +kernel
  have consistent := link_tables_consistent ⟨3, 20, 1, 4, 60⟩ [1, 2, 3] ()
    connectTwice (by decide) ⟨fun _ => 0, fun _ => Nat.zero_le _, by decide⟩
    (silent ▸ List.forall_mem_nil _) ⟨⟨?_, ?_⟩, ⟨?_, ?_⟩, trivial⟩
  · rw [← far]
    exact (consistent.2.2 1 0 held ⟨[], by rw [asked]; exact List.mem_cons_self⟩).1
  · intro message same
    cases same
    exact ⟨by decide, fun other isOpen => by cases isOpen⟩
  · intro link addr found
    cases found
  · intro message same
    cases same
    refine ⟨by decide, fun other isOpen outbound => absurd ?_ outbound⟩
    let before := reach (.scripted fun _ _ => []) ⟨3, 20, 1, 4, 60⟩ [1, 2, 3]
      () (connectTwice.take 1)
    have known : Known before := known_reach _ _ _ _
    have first : other = 0 := by
      have bound := (known.byAddr _ other isOpen).1
      exact Nat.lt_one_iff.1 bound
    have told : (before.links 0).events = [.connectReceived []] := by
      decide +kernel
    rw [first]
    exact ⟨[], told ▸ List.mem_cons_self⟩
  · intro link addr found _ taught
    cases taught

/-- An outbound link and an inbound one to the same far end: when the first is
disconnected, the second is still open but no longer found, and the connect
initiate opens another. -/
theorem inbound_link_not_found :
    let w := reach (.scripted fun _ _ => []) ⟨3, 20, 1, 4, 60⟩ [1, 2, 3] ()
      [.act (.connect 1025 []), .deliver 1025 (.connConf ⟨1, 7, svcNone, 2, 500, []⟩),
        .deliver 1025 (.connInit ⟨0, 7, svcNone, 2, 500, []⟩),
        .deliver 1025 (.discInit ⟨1, 7, 0, []⟩)]
    InitIds 3 [1, 2, 3] ∧ w.byAddr.lookup 2 = some 1 ∧ (w.links 1).events = [.connectReceived []] ∧
      (w.links 1).farEnd = (1025, 7) ∧ w.byRemote.lookup (1025, 7) = none ∧
      (w.deliver (.scripted fun _ _ => []) 1025 (.connInit ⟨0, 7, svcNone, 2, 500, []⟩)).allocated =
          w.allocated + 1 := by
  refine ⟨⟨fun _ => 0, fun _ => Nat.zero_le _, by decide⟩, ?_, ?_, ?_, ?_, ?_⟩ <;> decide +kernel

end World

end Decnet.Nsp
