import Decnet.Nsp.Handshake

/-!
# Packets from other nodes

A packet is given to a link by its destination link address alone.  Neither the
node it came from nor the source link address in it is compared with the far
end of the link, so any node can end any link that is not waiting for session
control's decision.
-/

namespace Decnet.Nsp

open Relation

/-- The source link address, which all packets but one have. -/
def Packet.sourceAddress : Packet → Option Nat
  | .ackData header => some header.srcaddr
  | .ackOther header => some header.srcaddr
  | .ackConn _ => none
  | .dataSeg segment => some segment.srcaddr
  | .intMsg message => some message.srcaddr
  | .linkSvc message => some message.srcaddr
  | .connInit message => some message.srcaddr
  | .connConf message => some message.srcaddr
  | .discConf message => some message.srcaddr
  | .discInit message => some message.srcaddr

/-- A packet that is not from the far end of a link: from another node or, once
the address of the far end is known, from another address. -/
def Connection.Foreign (c : Connection) (src : Nodeid) (packet : Packet) : Prop :=
  (∀ message, packet ≠ .connInit message) ∧ (src ≠ c.dest ∨ c.dstaddr ≠ 0 ∧
      ∃ addr, packet.sourceAddress = some addr ∧ addr ≠ c.dstaddr)

/-- Session control does nothing to a link while it is told about another. -/
def SessionControl.LeavesAlone {τ : Type*} (sc : SessionControl τ) (link : Ptr) : Prop :=
  ∀ other upcall w, other ≠ link → (sc.notify other upcall w).links link = w.links link

namespace World

variable {τ : Type*} {sc : SessionControl τ} {link other : Ptr}

section

variable (leaves : sc.LeavesAlone link)

include leaves

theorem tell_others (different : other ≠ link) (w : World τ) (upcall : Upcall) :
    (w.tell sc other upcall).links link = w.links link := by
  refine (leaves other upcall _ different).trans ?_
  exact Function.update_of_ne different.symm _ _

/-- What a packet or a timer does to one link leaves the others alone. -/
theorem linkStep_others {heeds : Heeds} {lapses : Prop} {w w' : World τ}
    (different : other ≠ link) (step : LinkStep sc heeds lapses other w w') :
    w'.links link = w.links link := by
  have apart := different.symm
  cases step with
  | op c op => exact Function.update_of_ne apart _ _
  | inform upcall midway _ => exact tell_others leaves different w upcall
  | confirmed message opening _ =>
    simp [setState, apart, tell_others leaves different]
  | refused reason data opening =>
    simp [setState, closeQuietly, apart, tell_others leaves different]
  | ended prepare reason data expiry live =>
    simp [setState, close, apart, tell_others leaves different]
  | lapsed due waiting kind =>
    rw [reject_links, Function.update_of_ne apart]
    exact Function.update_of_ne apart _ _

theorem linkSteps_others {heeds : Heeds} {lapses : Prop} {w w' : World τ}
    (different : other ≠ link) (steps : LinkSteps sc heeds lapses other w w') :
    w'.links link = w.links link := by
  induction steps with
  | refl => rfl
  | tail _ last ih => exact (linkStep_others leaves different last).trans ih

theorem receive_others (different : other ≠ link) (w : World τ) (packet : Packet) :
    (w.receive sc other packet).links link = w.links link := by
  have steps : LinkSteps sc .all False other w (w.receive sc other packet) :=
    linkSteps_receive w packet (fun _ => heeded_all _ packet)
      (fun _ => heeded_all _ packet) (fun _ => taught_all packet)
  exact linkSteps_others leaves different steps

end

theorem receive_waiting (w : World τ) (link : Ptr) (packet : Packet)
    (connects : ∀ message, packet ≠ .connInit message)
    (state : (w.links link).state = .s0 ∨ (w.links link).state = .cr ∨
      (w.links link).state = .cl) : w.receive sc link packet = w := by
  rcases state with state | state | state
  · simp [receive, dispatch, stateFunction, state]
  · cases packet with
    | connInit message => exact absurd rfl (connects message)
    | _ => simp [receive, dispatch, stateFunction, state, cr]
  · simp [receive, dispatch, stateFunction, state]

/-- A link in the table is left alone by all packets from elsewhere just when
it waits for session control's decision, or has not begun or is over. -/
theorem foreign_harmless_iff (config : NspConfig) (ids : List Nat)
    (session : τ) (inputs : List (Input τ)) (addr : Nat) (link : Ptr)
    (held : (reach sc config ids session inputs).byAddr.lookup addr = some link)
    (leaves : sc.LeavesAlone link) :
    (∀ src packet, ((reach sc config ids session inputs).links link).Foreign src packet →
          ((reach sc config ids session inputs).deliver sc src packet).links
            link = (reach sc config ids session inputs).links link) ↔
      ((reach sc config ids session inputs).links link).state = .s0 ∨
        ((reach sc config ids session inputs).links link).state = .cr ∨
        ((reach sc config ids session inputs).links link).state = .cl := by
  have known : Known (reach sc config ids session inputs) := known_reach config ids session inputs
  generalize reach sc config ids session inputs = w at *
  have old := (known.byAddr addr link held).1
  constructor
  · intro harmless
    -- A disconnect initiate from the next node number.
    let message : DiscInit := ⟨addr, (w.links link).dstaddr, 0, []⟩
    have foreign : (w.links link).Foreign ((w.links link).dest + 1) (.discInit message) :=
      ⟨fun _ => Packet.noConfusion, .inl (Nat.succ_ne_self _)⟩
    have unchanged := harmless _ _ foreign
    have given : w.deliver sc ((w.links link).dest + 1) (.discInit message) =
        w.receive sc link (.discInit message) := deliver_of_recipient held
    rw [given] at unchanged
    have closed (state : (w.links link).Confirming ∨
        (w.links link).state = .di) : (w.links link).state = .cl := by
      rw [← unchanged]
      rcases state with confirming | leaving
      · obtain ⟨_, _, parted⟩ := @receive_discInit_confirmed τ sc w link old message confirming
        exact parted.state
      · exact (receive_discInit_crossing w old message leaving).state
    cases state : (w.links link).state with
    | s0 => exact .inl rfl
    | cr => exact .inr (.inl rfl)
    | cl => exact .inr (.inr rfl)
    | ci => exact .inr (.inr (state ▸ closed (.inl (.inl state))))
    | cd => exact .inr (.inr (state ▸ closed (.inl (.inr (.inl state)))))
    | cc =>
      exact .inr (.inr (state ▸ closed (.inl (.inr (.inr (.inl state))))))
    | run =>
      exact .inr (.inr (state ▸ closed (.inl (.inr (.inr (.inr state))))))
    | di => exact .inr (.inr (state ▸ closed (.inr state)))
  · intro state src packet foreign
    cases found : w.recipient src packet with
    | none =>
      rcases deliver_of_no_recipient found with same | ⟨sent, same⟩ | ⟨message, _, _, rfl, _⟩
      · rw [same]
      · rw [same]
      · exact absurd rfl (foreign.1 message)
    | some target =>
      rw [deliver_of_recipient found]
      by_cases same : target = link
      · subst same
        rw [receive_waiting w target packet foreign.1 state]
      · exact receive_others leaves same w packet

/-- An inbound link that waits for an answer is left alone by a third node. -/
theorem foreign_harmless_waiting :
    let sc : SessionControl Unit := .scripted fun _ _ => []
    let w := reach sc ⟨1, 20, 1, 4, 60⟩ [1] ()
      [.deliver 1025 (.connInit ⟨0, 7, svcNone, 2, 500, []⟩)]
    (w.links 0).Foreign 1026 (.discInit ⟨1, 7, 0, []⟩) ∧
      (w.deliver sc 1026 (.discInit ⟨1, 7, 0, []⟩)).links 0 = w.links 0 := by
  intro sc w
  have foreign : (w.links 0).Foreign 1026 (.discInit ⟨1, 7, 0, []⟩) :=
    ⟨fun _ => Packet.noConfusion, .inl (by decide +kernel)⟩
  refine ⟨foreign, ?_⟩
  exact (foreign_harmless_iff ⟨1, 20, 1, 4, 60⟩ [1] () _ 1 0
    (by decide +kernel) fun _ _ _ _ => rfl).2 (.inr (.inl (by decide +kernel))) 1026 _ foreign

/-- A third node ends a running link between two others: session control is
told that it is gone. -/
theorem third_node_disconnects :
    let sc : SessionControl Unit := .scripted fun _ _ => []
    let w := reach sc ⟨1, 20, 1, 4, 60⟩ [1] () [.act (.connect 1025 []),
        .deliver 1025 (.connConf ⟨1, 7, svcNone, 2, 500, []⟩)]
    InitIds 1 [1] ∧ w.byAddr.lookup 1 = some 0 ∧ (w.links 0).state = .run ∧
      (w.links 0).Foreign 1026 (.discInit ⟨1, 9, 0, []⟩) ∧
      ((w.deliver sc 1026 (.discInit ⟨1, 9, 0, []⟩)).links 0).state = .cl ∧
      ((w.deliver sc 1026 (.discInit ⟨1, 9, 0, []⟩)).links 0).events =
        (w.links 0).events ++ [.disconnected 0 []] := by
  refine ⟨⟨fun _ => 0, fun _ => Nat.zero_le _, by decide⟩, by decide +kernel, by decide +kernel,
    ⟨fun _ => Packet.noConfusion, .inl (by decide +kernel)⟩, by decide +kernel, by decide +kernel⟩

end World

end Decnet.Nsp
