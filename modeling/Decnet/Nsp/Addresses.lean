import Decnet.Nsp.Terminal

/-!
# Link addresses

`init_ids` makes one address for each residue `1 .. maxconns` modulo
`maxconns + 1`, and a returned address keeps its residue: its high part is
incremented and the sum is cut to 16 bits, which keeps the residue when
`maxconns + 1` divides 65536.  As long as each link returns its address exactly
once, the free addresses and those of the open links together have each residue
once.

A link returns its address whenever it is closed, so the argument needs that a
link that has left the table of open links is never closed again.
-/

namespace Decnet.Nsp

open Function AList Connection CallRecord

/-- Session control rejects a link only while NSP holds it open, and neither
rejects it while it handles the link's confirmation or its end, nor sends on it
in run state while it is told that the link is gone. -/
structure CallRecord.Proper (record : CallRecord) : Prop where
  rejectsOpen : ∀ link, record.returned = true →
    record.call.rejects link = true → record.isOpen = true
  notConfirming : ∀ link data, record.inside = some (link, .connectConfirmed data) →
      record.returned = true → record.call.rejects link = false
  notEnding : ∀ link upcall, record.inside = some (link, upcall) →
    upcall.terminal = true → record.returned = true → record.call.rejects link = false
  silent : record.Silent

/-- Addresses with the residues `1 .. n` modulo `n + 1`, each once. -/
structure Residues (n : Nat) (ids : List Nat) : Prop where
  residues : (ids.map (· % (n + 1))).Perm (List.range' 1 n)
  bound : ∀ id ∈ ids, id < 65536

namespace Residues

variable {n : Nat} {ids : List Nat}

theorem perm {ids' : List Nat} (pool : Residues n ids) (same : ids.Perm ids') : Residues n ids' :=
  ⟨(same.map _).symm.trans pool.residues, fun id member => pool.bound id (same.mem_iff.mpr member)⟩

theorem length (pool : Residues n ids) : ids.length = n := by
  simpa using pool.residues.length_eq

theorem nodup (pool : Residues n ids) : ids.Nodup :=
  List.Nodup.of_map _ (pool.residues.nodup_iff.mpr List.nodup_range')

theorem pos (pool : Residues n ids) {id : Nat} (member : id ∈ ids) : 0 < id := by
  have residue : id % (n + 1) ∈ List.range' 1 n :=
    pool.residues.mem_iff.mp (List.mem_map_of_mem member)
  have positive := (List.mem_range'_1.mp residue).1
  exact Nat.lt_of_lt_of_le positive (Nat.mod_le id (n + 1))

theorem recycle (divides : n + 1 ∣ 65536) {id : Nat} {rest : List Nat}
    (pool : Residues n (id :: rest)) : Residues n ((id + n + 1) % 65536 :: rest) := by
  refine ⟨?_, ?_⟩
  · have residue : (id + n + 1) % 65536 % (n + 1) = id % (n + 1) := by
      rw [Nat.mod_mod_of_dvd _ divides, Nat.add_assoc, Nat.add_mod_right]
    have residues := pool.residues
    rw [List.map_cons] at residues ⊢
    rw [residue]
    exact residues
  · intro other member
    rcases List.mem_cons.mp member with same | member
    · rw [same]
      exact Nat.mod_lt _ (by decide)
    · exact pool.bound other (List.mem_cons_of_mem _ member)

end Residues

/-- Every outcome of `init_ids` has each residue once. -/
theorem World.InitIds.residues {maxconns : Nat} {ids : List Nat}
    (divides : maxconns + 1 ∣ 65536) (initial : World.InitIds maxconns ids) :
    Residues maxconns ids := by
  obtain ⟨draw, _, shuffled⟩ := initial
  have small : maxconns + 1 < 2 ^ 32 :=
    Nat.lt_of_le_of_lt (Nat.le_of_dvd (by decide) divides) (by decide)
  refine Residues.perm ⟨?_, ?_⟩ shuffled.symm
  · have residues : (World.initIds maxconns draw).map (· % (maxconns + 1)) =
        List.range' 1 maxconns := by
      rw [World.initIds, List.map_map, List.range'_eq_map_range]
      apply List.map_congr_left
      intro i member
      have bound : i < maxconns := List.mem_range.mp member
      simp only [comp, Nat.mod_eq_of_lt small]
      rw [Nat.mod_mod_of_dvd _ divides, Nat.add_mul_mod_self_right,
        Nat.mod_eq_of_lt (by omega), Nat.add_comm]
    rw [residues]
  · intro id member
    obtain ⟨i, _, rfl⟩ := List.mem_map.mp member
    exact Nat.mod_lt _ (by decide)

theorem Connection.Single.called {c : Connection} {link : Ptr}
    {record : CallRecord} {config : NspConfig}
    (single : c.Single c.closings) (noted : c.Noted link record) (proper : record.Proper) :
    (World.called config record.call c).Single (World.called config record.call c).closings := by
  obtain ⟨closings, _⟩ := noted.counts config
  rw [closings]
  rcases goes_called noted config with ⟨goes, none⟩ | ⟨state, txq, one⟩
  · rw [none]
    exact single.goes goes
  · refine ⟨?_, fun _ => state, fun _ => txq⟩
    have rejected : record.returned = true ∧ record.call.rejects link = true := by
      simpa [rejecting] using one
    rw [one, noted.isOpen (proper.rejectsOpen link rejected.1 rejected.2)]

namespace World

variable {τ : Type*} {sc : SessionControl τ}

def addresses (w : World τ) : List Nat :=
  w.freeIds ++ w.byAddr.keys

structure Tables (w : World τ) : Prop where
  divides : w.config.maxconns + 1 ∣ 65536
  pool : Residues w.config.maxconns w.addresses
  opened : ∀ link < w.allocated, (w.links link).closings = 0 → w.IsOpen link

variable {addr : Nat} {rest : List Nat} {w w' : World τ} {link : Ptr}
  {c : Connection} {learns : Ptr → Nat → Prop}

theorem Tables.unused (tables : Tables w) (ids : w.freeIds = addr :: rest) : addr ∉ w.byAddr := by
  have nodup := tables.pool.nodup
  rw [addresses, ids] at nodup
  intro member
  exact (List.nodup_cons.mp nodup).1 (List.mem_append_right _ (mem_keys.mp member))

theorem Tables.srcaddr_ne {other : Ptr} (isOpen : w.IsOpen link) (otherOpen : w.IsOpen other)
    (different : other ≠ link) : (w.links other).srcaddr ≠ (w.links link).srcaddr := by
  intro same
  unfold IsOpen at isOpen otherOpen
  rw [same, isOpen] at otherOpen
  exact different (Option.some.inj otherOpen).symm

theorem isOpen_update (byAddr : w'.byAddr = w.byAddr) (links : w'.links = update w.links link c)
    (srcaddr : c.srcaddr = (w.links link).srcaddr) (other : Ptr) :
    w'.IsOpen other ↔ w.IsOpen other := by
  unfold IsOpen
  rw [byAddr, links]
  by_cases same : other = link
  · subst same
    rw [update_self, srcaddr]
  · rw [update_of_ne same]

theorem isOpen_born_iff (tables : Tables w) (ids : w.freeIds = addr :: rest)
    (byAddr : w'.byAddr = w.byAddr.insert addr w.allocated)
    (links : w'.links = update w.links w.allocated c)
    {other : Ptr} (different : other ≠ w.allocated) : w'.IsOpen other ↔ w.IsOpen other := by
  rw [IsOpen, IsOpen, byAddr, links, update_of_ne different]
  by_cases same : (w.links other).srcaddr = addr
  · have unused := tables.unused ids
    rw [same, lookup_insert, lookup_eq_none.2 unused]
    refine iff_of_false ?_ nofun
    exact fun taken => different (Option.some.inj taken).symm
  · rw [lookup_insert_ne same]

theorem Tables.update (tables : Tables w) (config : w'.config = w.config)
    (freeIds : w'.freeIds = w.freeIds) (byAddr : w'.byAddr = w.byAddr)
    (allocated : w'.allocated = w.allocated) (links : w'.links = update w.links link c)
    (srcaddr : c.srcaddr = (w.links link).srcaddr)
    (closings : c.closings = (w.links link).closings) : Tables w' := by
  refine ⟨by rw [config]; exact tables.divides, ?_, ?_⟩
  · rw [config, addresses, freeIds, byAddr]
    exact tables.pool
  · intro other old unclosed
    rw [allocated] at old
    rw [isOpen_update byAddr links srcaddr]
    refine tables.opened other old ?_
    rw [links] at unclosed
    by_cases same : other = link
    · subst same
      rw [update_self, closings] at unclosed
      exact unclosed
    · rw [update_of_ne same] at unclosed
      exact unclosed

theorem Tables.close (tables : Tables w) (isOpen : w.IsOpen link) :
    Tables ((w.closeConnection link).setState link .cl) := by
  have config : ((w.closeConnection link).setState link .cl).config = w.config := by simp [setState]
  obtain ⟨byAddr, links⟩ := close_tables w link
  have member : (w.links link).srcaddr ∈ w.byAddr.keys := by
    apply lookup_isSome.mp
    rw [show w.byAddr.lookup (w.links link).srcaddr = some link from isOpen]
    rfl
  refine ⟨by rw [config]; exact tables.divides, ?_, ?_⟩
  · have before : Residues w.config.maxconns ((w.links link).srcaddr ::
        (w.freeIds ++ w.byAddr.keys.erase (w.links link).srcaddr)) := by
      refine tables.pool.perm ?_
      refine (List.Perm.append_left w.freeIds (List.perm_cons_erase member)).trans ?_
      exact List.perm_middle
    have after := before.recycle tables.divides
    rw [config, addresses, byAddr, keys_erase]
    refine after.perm ?_
    simp only [setState, modify_freeIds, closeConnection_freeIds, List.append_assoc]
    exact List.perm_middle.symm
  · intro other old unclosed
    have different : other ≠ link := by
      rintro rfl
      rw [links, Function.update_self] at unclosed
      cases unclosed
    rw [links, Function.update_of_ne different] at unclosed
    have otherOpen := tables.opened other (by simpa [setState] using old) unclosed
    unfold IsOpen
    rw [byAddr, links, Function.update_of_ne different,
      lookup_erase_ne (Tables.srcaddr_ne isOpen otherOpen different)]
    exact otherOpen

theorem Tables.born (tables : Tables w)
    (ids : w.freeIds = addr :: rest) (config : w'.config = w.config) (freeIds : w'.freeIds = rest)
    (byAddr : w'.byAddr = w.byAddr.insert addr w.allocated)
    (allocated : w'.allocated = w.allocated + 1)
    (links : w'.links = Function.update w.links w.allocated c)
    (srcaddr : c.srcaddr = addr) : Tables w' := by
  refine ⟨by rw [config]; exact tables.divides, ?_, ?_⟩
  · have before : Residues w.config.maxconns (addr :: (rest ++ w.byAddr.keys)) := by
      have pool := tables.pool
      rw [addresses, ids] at pool
      exact pool
    rw [config, addresses, freeIds, byAddr, keys_insert, List.erase_of_not_mem (tables.unused ids)]
    exact before.perm List.perm_middle.symm
  · intro other present unclosed
    rw [allocated] at present
    by_cases same : other = w.allocated
    · subst same
      unfold IsOpen
      rw [byAddr, links, update_self, srcaddr, lookup_insert]
    · rw [links, update_of_ne same] at unclosed
      rw [isOpen_born_iff tables ids byAddr links same]
      exact tables.opened other (Nat.lt_of_le_of_ne (Nat.lt_succ_iff.mp present) same) unclosed

def ClosedOnce (w : World τ) : Prop :=
  ∀ link < w.allocated, (w.links link).closings ≤ 1

theorem Lasting.closedOnce (onward : Lasting w w') (once : ClosedOnce w') : ClosedOnce w :=
  fun link old => (onward.links link old).2.trans (once link (old.trans_le onward.allocated))

theorem Tables.isOpen_of_close (tables : Tables w) (old : link < w.allocated)
    (once : ClosedOnce ((w.closeConnection link).setState link .cl)) : w.IsOpen link := by
  have after := once link (by simpa [setState] using old)
  have noted : (w.links link).closings + 1 ≤ 1 := by
    simpa [setState, withState, noteClosing] using after
  exact tables.opened link old (Nat.le_zero.mp (Nat.le_of_succ_le_succ noted))

theorem Tables.alter (tables : Tables w) (alter : Alter learns w w')
    (once : ClosedOnce w') : Tables w' := by
  cases alter with
  | put link c old passes =>
    exact tables.update rfl rfl rfl rfl rfl passes.srcaddr passes.closings
  | event link upcall old =>
    exact tables.update rfl rfl rfl rfl rfl rfl rfl
  | note => exact { tables with }
  | close link old => exact tables.close (tables.isOpen_of_close old once)
  | outbound addr rest dest payload ids =>
    exact tables.born ids rfl rfl rfl rfl (by simp [newLink]; rfl) rfl

theorem Tables.received {src : Nodeid} {message : ConnInit}
    (tables : Tables w) (received : Received addr src message w w') : Tables w' := by
  have announced := announced_connectReceived w.config message
    (create w.config addr src)
  exact tables.born received.ids received.config rfl received.byAddr
    received.allocated received.links announced.srcaddr

theorem Tables.alters (tables : Tables w) (alters : Alters learns w w')
    (once : ClosedOnce w') : Tables w' := by
  induction alters with
  | refl => exact tables
  | tail _ last ih => exact (ih (last.onward.closedOnce once)).alter last once

theorem tables_run {inputs : List (Input τ)} (known : Known w)
    (tables : Tables w) (once : ClosedOnce (inputs.foldl (step sc) w)) :
    Tables (inputs.foldl (step sc) w) := by
  induction inputs generalizing w with
  | nil => exact tables
  | cons input inputs ih =>
    have stepped := @stepped_all τ sc w known input
    have later := (stepped.known known).1
    have here := (@known_run τ sc _ later inputs).2.closedOnce once
    refine ih later ?_ once
    rcases stepped.alters with alters | ⟨_, _, _, _, _, _, received, alters⟩
    · exact tables.alters alters here
    · exact (tables.received received).alters alters here

/-! ## Closing once -/

/-- A link that session control rejects properly is closed once. -/
def closing (config : NspConfig) : Ledger (fun _ => .all) Proper True config 0 where
  own _ _ c := c.Single c.closings
  told upcall _ _ c :=
    match upcall with
    | .disconnected _ _ => c.closings = 0 ∧ c.state ≠ .cr ∧ c.txq = []
    | .connectRejected _ _ | .connectConfirmed _ => c.closings = 0
    | _ => c.Single c.closings
  outbound _ addr dest payload := ⟨Nat.zero_le _, nofun, by rintro (state | state) <;> cases state⟩
  inbound _ addr src message := by
    have announced := announced_connectReceived config message
      (create config addr src)
    refine ⟨announced.closings.trans_le (Nat.zero_le 1), ?_, fun _ => announced.txq rfl⟩
    exact fun closed => nomatch announced.closings.symm.trans closed
  op single op := by
    obtain ⟨goes, closings, _⟩ := goes_op op
    exact closings ▸ single.goes goes
  call single noted proper := single.called noted proper
  inside := by
    intro link upcall log c record told noted proper inside
    obtain ⟨closings, _⟩ := noted.counts config
    have spared (unrejected : record.returned = true →
        record.call.rejects link = false) (none : c.closings = 0) :
        (called config record.call c).closings = 0 := by
      have zero : record.rejecting link = 0 := by
        simpa [rejecting] using unrejected
      rw [closings, none, zero]
    cases upcall with
    | disconnected reason data =>
      obtain ⟨none, decided, idle⟩ := told
      refine ⟨spared (proper.notEnding link _ inside rfl) none, ?_⟩
      refine quiet_called config noted.target ?_ decided idle
      intro sends running
      have resting := proper.silent link reason data inside sends
      simp [noted.running.mpr running] at resting
    | connectRejected =>
      exact spared (proper.notEnding link _ inside rfl) told
    | connectConfirmed =>
      exact spared (proper.notConfirming link _ inside) told
    | connectReceived | dataReceived | interruptReceived | runState =>
      exact Single.called told noted proper
  inform := by
    intro link upcall log c single midway _
    have noted : (c.noteEvent upcall).Single c.closings := { single with }
    cases upcall <;> first | exact noted | cases midway
  confirmed := by
    intro link log c message single opening
    refine (closings_confirmed config message _ c).trans (single.eq_zero ?_)
    rcases opening with state | state <;> simp [state]
  refused := by
    intro link log c reason data single opening
    refine single.eq_zero ?_
    rcases opening with state | state <;> simp [state]
  ended := by
    intro link log c prepare reason data single expiry live
    have steady := steady_expiry expiry c
    have alive := single.alive live
    refine ⟨steady.closings.trans (single.eq_zero alive.1), ?_, rfl⟩
    exact fun waiting => alive.2 (steady.state.symm.trans waiting)
  finished := by
    intro link upcall log c told
    cases upcall with
    | disconnected =>
      obtain ⟨none, _, idle⟩ := told
      exact ⟨(congrArg (· + 1) none).le, fun _ => rfl, fun _ => idle⟩
    | connectRejected =>
      exact ⟨(congrArg (· + 1) told).le, fun _ => rfl, fun _ => rfl⟩
    | connectConfirmed =>
      have none : c.closings = 0 := told
      refine ⟨none.trans_le (Nat.zero_le 1), ?_, ?_⟩
      · exact fun closed => nomatch none.symm.trans closed
      · rintro (state | state) <;> cases state
    | connectReceived | dataReceived | interruptReceived | runState =>
      exact told
  lapsed := by
    intro link log c single _ waiting _
    have none := single.eq_zero (by simp [waiting])
    exact ⟨(congrArg (· + 1) none).le, fun _ => rfl, fun _ => rfl⟩

theorem closedOnce_reach (config : NspConfig) (ids : List Nat) (session : τ)
    (inputs : List (Input τ)) (proper : CallsOk Proper
      (reach sc config ids session inputs)) : ClosedOnce (reach sc config ids session inputs) := by
  have guarded : Run.Guarded (step sc) (fun w input =>
      w.AttentiveEach sc (fun _ => .all) input ∧
        (w.connectExpires input → True)) (start config ids session) inputs :=
    .of_forall (fun w input => ⟨attentive_all w input, fun _ => trivial⟩) _ _
  have meets := (meets_start (closing config) ids session).run guarded proper
  exact fun link present => (meets.links link present).once

theorem tables_start {config : NspConfig} {ids : List Nat} {session : τ}
    (divides : config.maxconns + 1 ∣ 65536) (initial : InitIds config.maxconns ids) :
    Tables (start config ids session) := by
  refine ⟨divides, ?_, ?_⟩
  · have pool := initial.residues divides
    simpa [addresses, start] using pool
  · exact fun link present => absurd present (Nat.not_lt_zero link)

theorem tables_reach (config : NspConfig) (ids : List Nat) (session : τ)
    (inputs : List (Input τ)) (divides : config.maxconns + 1 ∣ 65536)
    (initial : InitIds config.maxconns ids) (proper : CallsOk Proper
      (reach sc config ids session inputs)) : Tables (reach sc config ids session inputs) :=
  tables_run (known_start config ids session) (tables_start divides initial)
    (closedOnce_reach config ids session inputs proper)

/-- In every run of NSP with `maxconns + 1` a divisor of 65536 in which session
control rejects links properly: the free addresses and those of the open links
are `maxconns` distinct non-zero 16 bit values, the address of an open link is
the one it is found under, and the next address handed out is not in use. -/
theorem link_addresses_unique (config : NspConfig) (ids : List Nat)
    (session : τ) (inputs : List (Input τ)) (divides : config.maxconns + 1 ∣ 65536)
    (initial : InitIds config.maxconns ids) (proper : CallsOk Proper
      (reach sc config ids session inputs)) :
    (reach sc config ids session inputs).addresses.length = config.maxconns ∧
      (reach sc config ids session inputs).addresses.Nodup ∧
      (∀ id ∈ (reach sc config ids session inputs).addresses, 0 < id ∧ id < 65536) ∧ (∀ addr link,
        (reach sc config ids session inputs).byAddr.lookup addr = some link →
          ((reach sc config ids session inputs).links link).srcaddr = addr) ∧ ∀ addr rest,
        (reach sc config ids session inputs).getId = some (addr, rest) →
          addr ∉ (reach sc config ids session inputs).byAddr := by
  have known : Known (reach sc config ids session inputs) := known_reach config ids session inputs
  have tables := tables_reach config ids session inputs divides initial proper
  have limit : (reach sc config ids session inputs).config.maxconns = config.maxconns := by
    rw [reach_config]
  have pool := tables.pool
  refine ⟨?_, pool.nodup, ?_, ?_, ?_⟩
  · rw [← limit]
    exact pool.length
  · exact fun id member => ⟨pool.pos member, pool.bound id member⟩
  · exact fun addr link held => (known.byAddr addr link held).2.1
  · exact fun addr rest taken => tables.unused (getId_some taken).1

/-- A link that is accepted and then rejected, and the next one. -/
def rejectOnce : List (Input Unit) :=
  [connectFrom, .act (.reject 0 0 []), connectFrom]

theorem link_addresses_unique_reject :
    (reach accepting smallNsp [1] () rejectOnce).addresses.Nodup := by
  have log : (reach accepting smallNsp [1] () rejectOnce).calls =
      [⟨.accept 0 [] svcNone, some (0, .connectReceived []), true, true, false⟩,
        ⟨.reject 0 0 [], none, true, true, false⟩,
        ⟨.accept 1 [] svcNone, some (1, .connectReceived []), true, true, false⟩] := by
    decide +kernel
  have proper : CallsOk Proper (reach accepting smallNsp [1] () rejectOnce) := by
    intro record member
    rw [log] at member
    have isOpen : record.isOpen = true := by
      revert member record
      decide
    have outside : record.call.rejects 0 = false ∨ record.inside = none := by
      revert member record
      decide
    have onlyFirst : ∀ link, record.call.rejects link = true → link = 0 := by
      simp only [List.mem_cons, List.not_mem_nil, or_false] at member
      rcases member with rfl | rfl | rfl <;> simp_all [Call.rejects]
    have harmless (link : Ptr) (upcall : Upcall) (inside : record.inside = some (link, upcall)) :
        record.call.rejects link = false := by
      by_contra rejects
      have first := onlyFirst link (by simpa using rejects)
      subst first
      rcases outside with spared | outside
      · exact rejects spared
      · simp [outside] at inside
    refine ⟨fun _ _ _ => isOpen, ?_, ?_, ?_⟩
    · exact fun link data inside _ => harmless link _ inside
    · exact fun link upcall inside _ _ => harmless link upcall inside
    · intro link reason data inside sends
      simp only [List.mem_cons, List.not_mem_nil, or_false] at member
      rcases member with rfl | rfl | rfl <;> simp [Call.sends] at sends
  exact (link_addresses_unique smallNsp [1] () rejectOnce (by decide)
    ⟨fun _ => 0, fun _ => Nat.zero_le _, by decide⟩ proper).2.1

def twoLinks : NspConfig := ⟨2, 20, 5, 4, 60⟩

/-- With room for two links the draw for the first can make the address zero;
with room for one, a second reject returns its address twice. -/
theorem link_address_zero_or_doubled :
    (InitIds twoLinks.maxconns [0, 2] ∧ 0 ∈ (reach accepting twoLinks [0, 2] () []).addresses) ∧
    (InitIds smallNsp.maxconns [1] ∧ ¬ (reach accepting smallNsp [1] ()
        [connectFrom, .act (.reject 0 0 []), .act (.reject 0 0 [])]).addresses.Nodup) := by
  refine ⟨⟨⟨fun i => if i = 1 then 21845 else 0, ?_, by decide⟩, by decide⟩,
    ⟨fun _ => 0, fun _ => Nat.zero_le _, by decide⟩, by decide +kernel⟩
  intro i
  dsimp only
  split
  · decide
  · exact Nat.zero_le _

end World

end Decnet.Nsp
