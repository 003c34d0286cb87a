import Decnet.Routing.LanSteps

/-!
# What the operations of a broadcast circuit keep

A property of the entries for the neighbours is kept by every operation of a
broadcast circuit if it survives the few ways in which they write an entry.
`Upkeep` is such a property, with one of the hello timer and the exceptions
that may cut an operation short.
-/

namespace Decnet.Routing

open Throwing RoutingLanCircuit LanStation Admits TimerWheel

/-- `fresh` is what an adjacency made for a new neighbour has to satisfy. -/
structure Upkeep where
  entry : LanEntry → Prop
  fresh : Listener → Prop
  hello : Bool → Prop
  allowed : Thrown → Prop

/-- The ways in which an entry is written, and what may be thrown. -/
structure Upkeep.Lawful (u : Upkeep) : Prop where
  benign : ∀ e, e.Benign → u.allowed e
  refused : ∀ a l, u.entry a → a.adj = some l → ¬ TimerWheel.Spans l.t4 →
    ∀ what, u.allowed (.overflowError what)
  unheard : u.entry .new
  noted : ∀ a macaddr prio ntype, u.entry a → u.entry { a with macaddr, prio, ntype }
  promoted : ∀ a, u.entry a → u.entry { a with state := .up }
  made : ∀ a l, u.entry a → u.fresh l → u.entry { a with adj := some (a.adj.getD l) }
  timed : ∀ a l l', u.entry a → a.adj = some l → l'.base = l.base →
    (l'.armed = true → l.armed = true ∨ TimerWheel.Spans l.t4) →
    (l'.up = true → l.up = true ∨ a.state = .up) → u.entry { a with adj := some l' }

namespace Upkeep

structure Holds (u : Upkeep) (s : LanStation) : Prop where
  hello : u.hello s.helloArmed
  entries : ∀ id a, s.adjacencies.find id = some a → u.entry a

variable {u : Upkeep} {s : LanStation} {id : Nodeid} {a : LanEntry}
  {l : Listener} {α : Type} {out : Outside}

theorem Holds.put (holds : u.Holds s) (entry : u.entry a) : u.Holds (s.put id a) where
  hello := holds.hello
  entries := by
    intro other b found
    by_cases here : other = id
    · subst here
      rw [put, Table.find_put_self] at found
      cases found
      exact entry
    · rw [LanStation.put, Table.find_put_of_ne Nodeid.value_injective here] at found
      exact holds.entries other b found

theorem Holds.erase (holds : u.Holds s) (id : Nodeid) :
    u.Holds { s with adjacencies := s.adjacencies.erase id } where
  hello := holds.hello
  entries := by
    intro other b found
    by_cases here : other = id
    · subst here
      rw [Table.find_erase_self] at found
      cases found
    · rw [Table.find_erase_of_ne here] at found
      exact holds.entries other b found

theorem Holds.entry (holds : u.Holds s) (lawful : u.Lawful) (id : Nodeid) :
    u.entry ((s.adjacencies.find id).getD .new) := by
  cases found : s.adjacencies.find id with
  | none => exact lawful.unheard
  | some a => exact holds.entries id a found

/-! ## The station -/

abbrev Serves (u : Upkeep) (x : StationM α) : Prop :=
  Admits u.Holds u.allowed x

theorem serves_store {f : LanEntry → StationM α} (entry : u.entry a)
    (rest : u.Serves (f a)) : u.Serves (store id a >>= f) :=
  (admits_modify fun _ holds => holds.put entry).bind fun _ => rest

theorem serves_startTimer {ms : Nat} {f : Unit → StationM α} (refused : ¬ Spans ms →
      ∀ what, u.allowed (.overflowError what))
    (rest : Spans ms → u.Serves (f ())) : u.Serves (startTimer ms >>= f) := by
  unfold startTimer
  by_cases spans : Spans ms
  · rw [start_of_spans spans]
    exact rest spans
  · rw [start_of_not_spans spans]
    exact fun _ holds => ⟨refused spans _, holds⟩

/-- A circuit keeps what its station keeps. -/
abbrev LanServes (u : Upkeep) (x : RoutingLanM Unit) : Prop :=
  Admits (fun c => u.Holds c.station) u.allowed x

abbrev EndnodeServes (u : Upkeep) (x : EndnodeLanM Unit) : Prop :=
  Admits (fun c => u.Holds c.station) u.allowed x

theorem lanServes_base {x : StationM Unit} (serves : u.Serves x) : u.LanServes (base x) :=
  zoom (fun _ _ => rfl) serves

theorem endnodeServes_base {x : StationM Unit} (serves : u.Serves x) :
    u.EndnodeServes (EndnodeLanCircuit.base x) :=
  zoom (fun _ _ => rfl) serves

def Hears (u : Upkeep) (cfg : LanConfig) : LanEvent → Prop
  | .routerHello rh _ address => ∀ ntype,
      u.fresh (LanStation.listener cfg rh.id ntype rh.timer address)
  | .endnodeHello eh _ address => ∀ ntype,
      u.fresh (LanStation.listener cfg eh.id ntype eh.timer address)
  | _ => True

namespace Lawful

variable (lawful : u.Lawful)

include lawful

theorem callOutside (call : Call) : u.Serves (callOutside out call) := by
  unfold LanStation.callOutside
  split
  · exact admits_pure _
  · exact admits_throw (lawful.benign _ trivial)

theorem callRouter (call : Call) (input : Layer.Input) : u.Serves (callRouter out call input) := by
  apply Admits.bind
  · exact admits_modify fun _ holds => { holds with }
  · exact fun _ => lawful.callOutside call

theorem alive {f : LanEntry → StationM α} (entry : u.entry a)
    (has : a.adj = some l) (rest : ∀ a', u.entry a' → u.Serves (f a')) :
    u.Serves (alive id a l >>= f) := by
  unfold LanStation.alive
  rw [bind_assoc]
  apply serves_startTimer (lawful.refused a l entry has)
  intro spans
  have renewed := lawful.timed a l { l with armed := true } entry has rfl (fun _ => .inr spans) .inl
  exact serves_store renewed (rest _ renewed)

theorem up (entry : u.entry a) (has : a.adj = some l)
    (state : a.state = .up) : u.Serves (up out id a l) := by
  unfold LanStation.up
  split
  · exact admits_pure _
  · apply serves_store
    · exact lawful.timed a l _ entry has rfl .inl fun _ => .inr state
    · apply serves_startTimer (lawful.refused a l entry has)
      intro spans
      apply serves_store
      · exact lawful.timed a l _ entry has rfl (fun _ => .inr spans) fun _ => .inr state
      · exact lawful.callRouter _ _

theorem down (entry : u.entry a) (has : a.adj = some l) : u.Serves (down out id a l) := by
  unfold LanStation.down
  split
  · apply serves_store
    · exact lawful.timed a l _ entry has rfl nofun nofun
    · exact lawful.callRouter _ _
  · exact admits_pure _

theorem adjacencyUp (entry : u.entry a) (fresh : u.fresh l) :
    u.Serves (adjacencyUp out id a l) := by
  have promoted := lawful.promoted _ (lawful.made a l entry fresh)
  apply serves_store promoted
  apply (lawful.up promoted rfl rfl).bind
  exact fun _ => lawful.callOutside _

theorem adjacencyDown (id : Nodeid) : u.Serves (adjacencyDown out id) := by
  unfold LanStation.adjacencyDown LanStation.reportDown
  apply get_bind
  intro s holds
  split
  case h_1 => exact admits_pure _
  case h_2 a found =>
    apply Admits.bind
    · split
      case h_1 l has _ =>
        apply (lawful.callOutside _).bind
        exact fun _ => lawful.down (holds.entries id a found) has
      case h_2 => exact admits_pure _
    · exact fun _ => admits_modify fun _ holds => holds.erase id

theorem expire (entry : u.entry a) (has : a.adj = some l) : u.Serves (expire out id a l) := by
  have stopped := lawful.timed a l { l with armed := false } entry has rfl nofun .inl
  exact serves_store stopped (lawful.down stopped rfl)

variable {cfg : LanConfig} {src address : Nat}

theorem apart {x : RoutingLanM Unit}
    (aside : ∀ t armed calls, Aside t armed calls x) : u.LanServes x := by
  intro c holds
  have ended := aside _ _ _ c ⟨rfl, rfl, rfl⟩
  have same {c' : RoutingLanCircuit} (apart : Apart
      c.station.adjacencies c.station.helloArmed c.station.calls c') : u.Holds c'.station :=
    ⟨apart.2.1 ▸ holds.hello, apart.1 ▸ holds.entries⟩
  cases outcome : x c with
  | ok value c' =>
    rw [outcome] at ended
    exact same ended
  | error e c' =>
    rw [outcome] at ended
    exact ⟨lawful.benign e ended.1, same ended.2⟩

theorem routingMessage (message : RoutingMessage) : u.Serves (routingMessage out message) := by
  apply get_bind
  intro s holds
  split
  case h_1 => exact admits_pure _
  case h_2 a l isUp =>
    obtain ⟨found, has⟩ := upEntry_found isUp
    exact lawful.alive (holds.entries _ a found) has fun _ _ => lawful.callRouter _ _

theorem data (srcnode : Nodeid) (src : Nat) : u.Serves (data srcnode src) := by
  apply get_bind
  intro s holds
  split
  case h_1 => exact admits_pure _
  case h_2 a l isUp =>
    obtain ⟨found, has⟩ := upEntry_found isUp
    split
    · exact lawful.alive (holds.entries _ a found) has fun _ _ => admits_pure _
    · exact admits_pure _

section

variable (always : ∀ armed, u.hello armed)
  (refused : ¬ Spans (cfg.t3 * 1000) → ∀ what, u.allowed (.overflowError what))

include always refused

theorem announce : u.LanServes (announce cfg) := by
  apply (lawful.apart fun _ _ _ => sendHello_apart).bind
  intro _
  apply Admits.bind
  · apply lanServes_base
    rw [← bind_pure (startTimer _)]
    exact serves_startTimer refused fun _ => admits_pure _
  · exact fun _ => lanServes_base (admits_modify fun _ holds => ⟨always _, holds.entries⟩)

theorem helloTimeout : u.LanServes (helloTimeout cfg) := by
  apply Admits.bind
  · exact lanServes_base (admits_modify fun _ holds => ⟨always _, holds.entries⟩)
  · exact fun _ => lawful.announce always refused

end

section Hellos

variable (reports : ∀ a time, u.entry a → u.entry { a with listenTime := time })

include reports

theorem endnodeHello {eh : EndnodeHello} (hears : u.Hears cfg (.endnodeHello eh src address)) :
    u.Serves (endnodeHello cfg out eh src address) := by
  unfold RoutingLanCircuit.endnodeHello
  split
  case isFalse => exact admits_pure _
  case isTrue =>
    apply get_bind
    intro s holds
    have entry := holds.entry lawful eh.id
    dsimp only
    split
    · split
      case h_1 => exact admits_pure _
      case h_2 l has => exact lawful.alive entry has fun _ _ => admits_pure _
    · have noted := lawful.noted _ src ((s.adjacencies.find eh.id).getD .new).prio .endnode
        (reports _ (eh.timer * 31) entry)
      exact lawful.adjacencyUp noted (hears _)

theorem routerHello {rh : RouterHello} (hears : u.Hears cfg (.routerHello rh src address)) :
    u.LanServes (routerHello cfg out rh src address) := by
  unfold RoutingLanCircuit.routerHello
  split
  case isFalse => exact admits_pure _
  case isTrue =>
    apply get_bind
    intro c holds
    have noted := lawful.noted _ src rh.prio (ntypeOf rh)
      (reports _ (rh.timer * 31) (holds.entry lawful rh.id))
    have heard : u.entry (heardRouter cfg rh src address _) :=
      lawful.made _ _ noted (hears (ntypeOf rh))
    apply Admits.bind
    · apply lanServes_base
      apply serves_store heard
      apply lawful.alive heard rfl
      intro a entry
      unfold confirm
      split
      · exact lawful.adjacencyUp entry (hears _)
      · exact admits_pure _
    · exact fun _ => lawful.apart fun _ _ _ => calcDr_apart

/-- Every work item of a router, the hello timer's apart. -/
theorem dispatch {event : LanEvent} (hears : u.Hears cfg event) (hello : event = .helloTimeout →
      u.LanServes (RoutingLanCircuit.helloTimeout cfg)) : u.LanServes (dispatch cfg out event) := by
  cases event with
  | routerHello rh src address => exact lawful.routerHello reports hears
  | endnodeHello eh src address =>
    exact lanServes_base (lawful.endnodeHello reports hears)
  | routing message => exact lanServes_base (lawful.routingMessage message)
  | data srcnode src => exact lanServes_base (lawful.data srcnode src)
  | listenTimeout id =>
    apply get_bind
    intro c holds
    split
    case h_1 a found =>
      split
      case h_1 l has =>
        split
        · apply Admits.bind
          · exact lanServes_base (lawful.expire (holds.entries id a found) has)
          · intro _
            apply get_bind
            intro c holds
            split
            · exact admits_pure _
            · apply (lanServes_base (lawful.adjacencyDown id)).bind
              exact fun _ => lawful.apart fun _ _ _ => renewElection_apart id _
        · exact admits_pure _
      case h_2 => exact admits_pure _
    case h_2 => exact admits_pure _
  | helloTimeout =>
    apply get_bind
    intro c holds
    split
    · exact hello rfl
    · exact admits_pure _
  | drTimeout =>
    apply get_bind
    intro c holds
    split
    · exact lawful.apart fun _ _ _ => becomeDr_apart
    · exact admits_pure _

end Hellos

theorem endnodeRouterHello {rh : RouterHello} (hears : u.Hears cfg (.routerHello rh src address)) :
    u.EndnodeServes (EndnodeLanCircuit.routerHello cfg out rh src address) := by
  apply get_bind
  intro c holds
  split
  · exact admits_pure _
  split
  · apply endnodeServes_base
    apply get_bind
    intro s holds
    split
    case h_1 => exact admits_pure _
    case h_2 a found =>
      split
      case h_1 => exact admits_pure _
      case h_2 l has =>
        exact lawful.alive (holds.entries _ a found) has fun _ _ => admits_pure _
  · apply Admits.bind
    · apply get_bind
      intro c holds
      split
      · exact admits_pure _
      · exact endnodeServes_base (lawful.adjacencyDown _)
    intro _
    apply Admits.bind
    · exact admits_modify fun _ holds => holds
    intro _
    apply endnodeServes_base
    apply get_bind
    intro s holds
    have entry := holds.entry lawful rh.id
    have noted := lawful.noted _ src ((s.adjacencies.find rh.id).getD .new).prio
      ((s.adjacencies.find rh.id).getD .new).ntype entry
    exact serves_store noted (lawful.adjacencyUp noted (hears _))

theorem endnodeDispatch {event : LanEvent} (hears : u.Hears cfg event) :
    u.EndnodeServes (EndnodeLanCircuit.dispatch cfg out event) := by
  unfold EndnodeLanCircuit.dispatch
  split
  case h_1 rh src address => exact lawful.endnodeRouterHello hears
  case h_2 id =>
    apply get_bind
    intro c holds
    split
    case h_1 a found =>
      split
      case h_1 l has =>
        split
        · apply (endnodeServes_base (lawful.expire (holds.entries id a found) has)).bind
          intro _
          apply Admits.bind
          · apply admits_modify
            intro c holds
            split <;> exact holds
          · exact fun _ => endnodeServes_base (lawful.adjacencyDown id)
        · exact admits_pure _
      case h_2 => exact admits_pure _
    case h_2 => exact admits_pure _
  case h_3 => exact admits_pure _

end Lawful

end Upkeep

end Decnet.Routing
