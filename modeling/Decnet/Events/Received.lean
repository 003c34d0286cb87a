import Decnet.Events.Logger

/-!
# Event filters and received events

The filters that a logging configuration gives the local sinks, and what
`EventLogger::logremoteevent` does with a record from another node.
-/

namespace Decnet.Events

open List

/-- `known_events`: for each class its codes, from the first to the last. -/
def knownEvents : List EventId :=
  [(0, 0, 9), (2, 0, 1), (3, 0, 2), (4, 0, 19), (5, 0, 18), (6, 0, 5), (33, 0, 0), (34, 0, 1),
    (64, 1, 2), (93, 0, 0), (94, 0, 0), (128, 1, 4), (353, 5, 5), (353, 20, 20)].flatMap
    fun (cls, first, last) => (range' first (last + 1 - first)).map (EventId.mk cls)

def filterable (id : EventId) : Bool :=
  id ∈ knownEvents ∧ (id.cls < 31 ∨ 480 ≤ id.cls)

inductive SinkType where
  | console | file | monitor
  deriving DecidableEq

/-- The events a filter selects.  A configuration gives no entities. -/
abbrev EventFilter := EventId → Bool

def EventFilter.setFilter (filter : EventFilter) (events : EventId → Bool) : EventFilter :=
  fun id => filter id || events id && filterable id

/-- A `logging` line; `events` is what `parse_events` makes of its list. -/
structure LoggingConfig where
  type : SinkType
  sinkNode : Bytes
  events : Option (EventId → Bool)

/-- The filters of the local sinks that there are. -/
abbrev LocalSinks := SinkType → Option EventFilter

def LocalSinks.configure (sinks : LocalSinks) (c : LoggingConfig) : LocalSinks :=
  if c.sinkNode ≠ [] then sinks
  else
    let filter := (sinks c.type).getD fun _ => false
    Function.update sinks c.type <| some <|
      match c.events with
      | some events => filter.setFilter events
      | none => if c.type = .console then filter.setFilter fun _ => true else filter

/-- The constructor of `EventLogger`. -/
def localSinks (lines : List LoggingConfig) : LocalSinks :=
  if lines = [] then
    Function.update (fun _ => none) .console
      (some (EventFilter.setFilter (fun _ => false) fun _ => true))
  else lines.foldl .configure fun _ => none

def Event.wants (event : Event) : SinkType → Bool
  | .console => event.console
  | .file => event.file
  | .monitor => event.monitor

/-- The sink of a type is offered the event if there is one and it is named. -/
def LocalSinks.offer (sinks : LocalSinks) (event : Event) (type : SinkType) : List SinkType :=
  match sinks type with
  | none => []
  | some filter => if event.wants type then if filter event.id then [type] else [] else []

/-- The sinks that are given the event, in turn. -/
def LocalSinks.logRemoteEvent (sinks : LocalSinks) (event : Event) : List SinkType :=
  [.console, .file, .monitor].flatMap (sinks.offer event)

/-- Each sink that the record names is given it once, and no other is. -/
def LocalSinks.Delivers (sinks : LocalSinks) (event : Event) : Prop :=
  ∀ type, (sinks.logRemoteEvent event).count type =
    if (sinks type).isSome ∧ event.wants type then 1 else 0

theorem LocalSinks.offer_eq (sinks : LocalSinks) (event : Event) (type : SinkType) :
    sinks.offer event type =
      if ∃ filter ∈ sinks type, event.wants type ∧ filter event.id then [type] else [] := by
  rw [offer]
  cases sinks type with
  | none => simp
  | some filter => cases event.wants type <;> simp

theorem LocalSinks.count_logRemoteEvent (sinks : LocalSinks) (event : Event) (type : SinkType) :
    (sinks.logRemoteEvent event).count type =
      if ∃ filter ∈ sinks type, event.wants type ∧ filter event.id then 1 else 0 := by
  simp only [logRemoteEvent, offer_eq, flatMap_cons]
  cases type <;> split_ifs <;> rfl

theorem received_delivered_iff (lines : List LoggingConfig) (event : Event) :
    (localSinks lines).Delivers event ↔
      ∀ type, ∀ filter ∈ localSinks lines type, event.wants type → filter event.id := by
  refine forall_congr' fun type => ?_
  rw [LocalSinks.count_logRemoteEvent]
  cases localSinks lines type with
  | none => simp
  | some filter => cases event.wants type <;> simp

theorem received_class_lost :
    ¬ (localSinks []).Delivers (Event.make ⟨34, 0⟩) := by
  intro delivers
  exact absurd (delivers .console) (by decide)

end Decnet.Events
