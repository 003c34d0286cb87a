import Decnet.Lib.Run
import Decnet.Routing.Adjacency
import Mathlib.Data.List.Induction

/-!
# The node name database

A node keeps its node database in two maps: the entries under their addresses,
and pointers to them under their names.  The node lines of the configuration
are entered first, those of cached lists among them.  Later a fetched list may
rename entries, a name may be learned for an entry that has none, and entries
without a name are added for the addresses that are talked to.

An entry is an object: entering an address again replaces the object, and a
pointer to the old one then points to nothing.  `serial` tells the objects
apart.
-/

namespace Decnet.Names

open Routing Function List Nodeid

/-- A node name; the empty one stands for none. -/
abbrev Name := List Char

/-- Six letters and digits at most, of which one is a letter. -/
def nodename (s : Name) : Option Name :=
  if s.all (fun c => c.isAlpha || c.isDigit) ∧ s.any (·.isAlpha) ∧ s.length ≤ 6 then
    some (s.map Char.toUpper)
  else none

/-- A `node` line.  `fromSource` is set for the lines of a cached list. -/
structure NodeLine where
  id : Routing.Nodeid
  name : Name
  fromSource : Bool
  deriving DecidableEq

/-- The operator has given the address a name. -/
def NodeLine.Operator (line : NodeLine) : Prop :=
  line.fromSource = false ∧ line.name ≠ []

instance (line : NodeLine) : Decidable line.Operator :=
  inferInstanceAs (Decidable (_ ∧ _))

structure Nodeinfo where
  id : Routing.Nodeid
  name : Name
  serial : Nat
  deriving DecidableEq

structure Pointer where
  id : Routing.Nodeid
  serial : Nat
  deriving DecidableEq

structure Database where
  byId : Routing.Nodeid → Option Nodeinfo
  byName : Name → Option Pointer
  configNamed : List Routing.Nodeid
  made : Nat

namespace Database

def empty : Database := ⟨fun _ => none, fun _ => none, [], 0⟩

/-- The entry a pointer points to, unless it has been replaced. -/
def deref (db : Database) (p : Pointer) : Option Nodeinfo :=
  (db.byId p.id).filter (·.serial = p.serial)

def lookUp (db : Database) (name : Name) : Option Nodeinfo :=
  (db.byName name).bind db.deref

def addNode (db : Database) (id : Routing.Nodeid) (name : Name) : Database :=
  { db with
    byId := Function.update db.byId id (some ⟨id, name, db.made⟩)
    byName :=
      if name = [] then db.byName
      else Function.update db.byName name (some ⟨id, db.made⟩)
    made := db.made + 1 }

/-- An address without an entry is given one that has no name, if `add` is
set. -/
def findNode (db : Database) (id : Routing.Nodeid) (add : Bool) : Database × Option Nodeinfo :=
  match db.byId id with
  | some info => (db, some info)
  | none =>
    if add then (db.addNode id [], (db.addNode id []).byId id)
    else (db, none)

/-- The old name is erased without asking whose it is. -/
def rename (db : Database) (info : Nodeinfo) (name : Name) : Database :=
  let erased :=
    if info.name = [] then db.byName
    else Function.update db.byName info.name none
  { db with
    byId := Function.update db.byId info.id (some { info with name })
    byName := Function.update erased name (some ⟨info.id, info.serial⟩) }

def setNodeName (db : Database) (id : Routing.Nodeid) (name : Name) : Database × Bool :=
  if name = [] then (db, false)
  else if id ∈ db.configNamed then (db, false)
  else
    match db.findNode id true with
    | (db, none) => (db, false)
    | (db, some info) =>
      if info.name = name then (db, false) else (db.rename info name, true)

/-- A learned name fills a gap only. -/
def learnNodeName (own : Routing.Nodeid) (db : Database)
    (id : Routing.Nodeid) (name : Name) : Database × Bool :=
  match nodename name with
  | none => (db, false)
  | some n =>
    if id = own then (db, false)
    else if (db.findNode id false).2.any (·.name ≠ []) then (db, false)
    else if (db.byName n).isSome then (db, false)
    else db.setNodeName id n

/-- The constructor enters the lines in order. -/
def addLine (db : Database) (line : NodeLine) : Database :=
  let added := db.addNode line.id line.name
  if line.Operator then
    { added with configNamed := line.id :: added.configNamed }
  else added

def load (lines : List NodeLine) : Database := lines.foldl addLine empty

/-- What the node's thread does with the database later.  The work item of a
fetched list has one `setNodeName` for each of its lines. -/
inductive Call where
  | setNodeName (id : Routing.Nodeid) (name : Name)
  | learnNodeName (id : Routing.Nodeid) (name : Name)
  | findNode (id : Routing.Nodeid) (add : Bool)

def step (own : Routing.Nodeid) (db : Database) : Call → Database
  | .setNodeName id name => (db.setNodeName id name).1
  | .learnNodeName id name => (db.learnNodeName own id name).1
  | .findNode id add => (db.findNode id add).1

/-- Both maps under their own keys: entries have the address they stand under,
and no pointer stands under the empty name. -/
structure Keyed (db : Database) : Prop where
  ids : ∀ id info, db.byId id = some info → info.id = id
  nameless : db.byName [] = none

def nameOf (db : Database) (id : Routing.Nodeid) : Name :=
  (db.byId id).elim [] (·.name)

def Renames (db : Database) (id : Routing.Nodeid) (name : Name) : Prop :=
  name ≠ [] ∧ id ∉ db.configNamed ∧ db.nameOf id ≠ name

variable {db after : Database} {id : Routing.Nodeid} {name : Name} {serial : Nat} {info : Nodeinfo}

theorem deref_eq_some {p : Pointer} :
    db.deref p = some info ↔ db.byId p.id = some info ∧ info.serial = p.serial := by
  simp [deref]

theorem lookUp_eq_some :
    db.lookUp name = some info ↔ ∃ p, db.byName name = some p ∧ db.byId p.id = some info ∧
        info.serial = p.serial := by
  simp only [lookUp, Option.bind_eq_some_iff, deref_eq_some]

theorem setNodeName_of_not_renames
    (same : ¬ db.Renames id name) : (db.setNodeName id name).1 = db := by
  unfold setNodeName
  split
  case isTrue => rfl
  case isFalse named =>
    split
    case isTrue => rfl
    case isFalse free =>
      have kept : db.nameOf id = name := by
        by_contra differs
        exact same ⟨named, free, differs⟩
      cases entry : db.byId id with
      | none =>
        rw [nameOf, entry] at kept
        exact absurd kept.symm named
      | some info =>
        rw [nameOf, entry] at kept
        simp only [findNode, entry]
        exact congrArg Prod.fst (if_pos kept)

/-- What a rename leaves: the entry is the one that stood there, or a new one,
under the new name. -/
structure Renamed (db : Database) (id : Routing.Nodeid) (name : Name) (serial : Nat)
    (after : Database) : Prop where
  object : ∀ info, db.byId id = some info → info.serial = serial
  entry : after.byId id = some ⟨id, name, serial⟩
  elsewhere : ∀ other, other ≠ id → after.byId other = db.byId other
  given : after.byName name = some ⟨id, serial⟩
  erased : db.nameOf id ≠ [] → after.byName (db.nameOf id) = none
  others : ∀ other, other ≠ name → other ≠ db.nameOf id → after.byName other = db.byName other
  nameless : after.byName [] = db.byName []
  configNamed : after.configNamed = db.configNamed

theorem rename_renamed (entry : db.byId info.id = some info) (named : name ≠ [])
    (differs : info.name ≠ name) : Renamed db info.id name info.serial (db.rename info name) := by
  have current : db.nameOf info.id = info.name := by
    rw [nameOf, entry]
    rfl
  constructor
  case object =>
    intro other eq
    rw [entry] at eq
    cases eq
    rfl
  case entry => exact update_self ..
  case elsewhere =>
    intro other away
    exact update_of_ne away ..
  case given => exact update_self ..
  case erased =>
    intro old
    rw [current] at old ⊢
    simp [rename, old, differs]
  case others =>
    intro other new old
    rw [current] at old
    by_cases empty : info.name = []
    · simp [rename, empty, new]
    · simp [rename, empty, new, old]
  case nameless =>
    by_cases empty : info.name = []
    · simp [rename, empty, named.symm]
    · simp [rename, empty, named.symm]
  case configNamed => rfl

theorem setNodeName_of_renames (keyed : Keyed db) (renames : db.Renames id name) :
    ∃ serial, Renamed db id name serial (db.setNodeName id name).1 := by
  obtain ⟨named, free, differs⟩ := renames
  unfold setNodeName
  rw [if_neg named, if_neg free]
  cases entry : db.byId id with
  | some info =>
    rw [nameOf, entry] at differs
    have own := keyed.ids id info entry
    subst own
    simp only [findNode, entry]
    rw [if_neg (by exact differs)]
    exact ⟨info.serial, rename_renamed entry named differs⟩
  | none =>
    -- the entry is made without a name, and then renamed
    have made : (db.addNode id []).byId id = some ⟨id, [], db.made⟩ := update_self ..
    have renamed := @rename_renamed _ name ⟨id, [], db.made⟩ made named named.symm
    have unnamed : db.nameOf id = [] := by
      rw [nameOf, entry]
      rfl
    simp only [findNode, entry, if_pos, made]
    rw [if_neg named.symm]
    refine ⟨db.made, ?_⟩
    constructor
    case object => rw [entry]; exact nofun
    case entry => exact renamed.entry
    case elsewhere =>
      intro other away
      rw [renamed.elsewhere other away]
      exact update_of_ne away ..
    case given => exact renamed.given
    case erased =>
      intro old
      exact absurd unnamed old
    case others =>
      intro other new old
      rw [renamed.others other new (by rwa [nameOf, made, ← unnamed])]
      rfl
    case nameless => exact renamed.nameless
    case configNamed => rfl

def Sole (db : Database) (id : Routing.Nodeid) (name : Name) : Prop :=
  ∀ other info, db.byId other = some info → info.name = name → other = id

structure Consistent (db : Database) : Prop where
  live : ∀ name p, db.byName name = some p → ∃ info, db.deref p = some info ∧ info.name = name
  found : ∀ id info, db.byId id = some info → info.name ≠ [] →
    db.Sole id info.name → db.lookUp info.name = some info

/-- The name that is taken away is borne by exactly one other entry. -/
def TakesShared (db : Database) (id : Routing.Nodeid) (name : Name) : Prop :=
  db.Renames id name ∧ db.nameOf id ≠ [] ∧ ∃ other info, other ≠ id ∧ db.byId other = some info ∧
      info.name = db.nameOf id ∧ ∀ third entry, third ≠ id → db.byId third = some entry →
        entry.name = db.nameOf id → third = other

theorem nameOf_of_entry (entry : db.byId id = some info) : db.nameOf id = info.name := by
  rw [nameOf, entry]
  rfl

theorem Keyed.renamed (keyed : Keyed db)
    (renamed : Renamed db id name serial after) : Keyed after where
  ids other info entry := by
    by_cases same : other = id
    · subst same
      rw [renamed.entry] at entry
      cases entry
      rfl
    · rw [renamed.elsewhere other same] at entry
      exact keyed.ids other info entry
  nameless := renamed.nameless.trans keyed.nameless

/-- The entry that keeps the name is no longer found under it. -/
theorem not_consistent_of_takesShared (renamed : Renamed db id name serial after)
    (shared : db.TakesShared id name) : ¬ Consistent after := by
  obtain ⟨⟨-, -, differs⟩, old, other, info, away, entry, same, only⟩ := shared
  intro consistent
  have kept : after.byId other = some info := by
    rw [renamed.elsewhere other away]
    exact entry
  have sole : after.Sole other info.name := by
    intro third entry' atThird bears
    by_cases isId : third = id
    · subst isId
      rw [renamed.entry] at atThird
      cases atThird
      exact absurd (bears.trans same).symm differs
    · rw [renamed.elsewhere third isId] at atThird
      exact only third entry' isId atThird (bears.trans same)
  have found := consistent.found other info kept (same ▸ old) sole
  obtain ⟨p, pointer, -⟩ := lookUp_eq_some.mp found
  rw [same, renamed.erased old] at pointer
  cases pointer

theorem consistent_of_not_takesShared (keyed : Keyed db)
    (consistent : Consistent db) (renamed : Renamed db id name serial after)
    (renames : db.Renames id name) (alone : ¬ db.TakesShared id name) : Consistent after where
  live other p pointer := by
    by_cases new : other = name
    · subst new
      rw [renamed.given] at pointer
      cases pointer
      exact ⟨_, deref_eq_some.mpr ⟨renamed.entry, rfl⟩, rfl⟩
    · by_cases old : other = db.nameOf id
      · by_cases empty : other = []
        · subst empty
          rw [renamed.nameless, keyed.nameless] at pointer
          cases pointer
        · rw [old, renamed.erased (old ▸ empty)] at pointer
          cases pointer
      · rw [renamed.others other new old] at pointer
        obtain ⟨info, entry, bears⟩ := consistent.live other p pointer
        obtain ⟨atId, object⟩ := deref_eq_some.mp entry
        have away : p.id ≠ id := by
          intro here
          rw [here] at atId
          exact old (bears.symm.trans (nameOf_of_entry atId).symm)
        refine ⟨info, deref_eq_some.mpr ⟨?_, object⟩, bears⟩
        rw [renamed.elsewhere p.id away]
        exact atId
  found other info entry named sole := by
    by_cases here : other = id
    · subst here
      rw [renamed.entry] at entry
      cases entry
      exact lookUp_eq_some.mpr ⟨_, renamed.given, renamed.entry, rfl⟩
    · have atOther : db.byId other = some info := (renamed.elsewhere other here).symm.trans entry
      have new : info.name ≠ name := by
        intro same
        exact here (sole id _ renamed.entry same.symm).symm
      have old : info.name ≠ db.nameOf id := by
        intro same
        refine alone ⟨renames, same ▸ named, other, info, here, atOther, same, ?_⟩
        intro third entry' away atThird bears
        refine sole third entry' ?_ (bears.trans same.symm)
        rw [renamed.elsewhere third away]
        exact atThird
      have before : db.Sole other info.name := by
        intro third entry' atThird bears
        by_cases isId : third = id
        · subst isId
          exact absurd (bears.symm.trans (nameOf_of_entry atThird).symm) old
        · refine sole third entry' ?_ bears
          rw [renamed.elsewhere third isId]
          exact atThird
      obtain ⟨p, pointer, atP, object⟩ :=
        lookUp_eq_some.mp (consistent.found other info atOther named before)
      refine lookUp_eq_some.mpr ⟨p, ?_, ?_, object⟩
      · rw [renamed.others info.name new old]
        exact pointer
      · have place : p.id = other := by
          rw [← keyed.ids p.id info atP, keyed.ids other info atOther]
        rw [place]
        exact entry

theorem consistent_setNodeName_iff (keyed : Keyed db)
    (consistent : Consistent db) (id : Routing.Nodeid) (name : Name) :
    ¬ db.TakesShared id name ↔ Consistent (db.setNodeName id name).1 := by
  by_cases renames : db.Renames id name
  · obtain ⟨serial, renamed⟩ := setNodeName_of_renames keyed renames
    constructor
    · exact consistent_of_not_takesShared keyed consistent renamed renames
    · intro result shared
      exact not_consistent_of_takesShared renamed shared result
  · rw [setNodeName_of_not_renames renames]
    exact iff_of_true (fun shared => renames shared.1) consistent

theorem consistent_addNode (consistent : Consistent db)
    (absent : db.byId id = none) : Consistent (db.addNode id []) := by
  have elsewhere : ∀ other info, db.byId other = some info →
      (db.addNode id []).byId other = some info := by
    intro other info entry
    refine (update_of_ne ?_ ..).trans entry
    intro same
    rw [same, absent] at entry
    cases entry
  constructor
  case live =>
    intro other p pointer
    obtain ⟨info, entry, bears⟩ := consistent.live other p pointer
    obtain ⟨atId, object⟩ := deref_eq_some.mp entry
    exact ⟨info, deref_eq_some.mpr ⟨elsewhere _ info atId, object⟩, bears⟩
  case found =>
    intro other info entry named sole
    have away : other ≠ id := by
      intro same
      subst same
      have made : (db.addNode other []).byId other = some ⟨other, [], db.made⟩ := update_self ..
      rw [made] at entry
      cases entry
      exact named rfl
    have before : db.byId other = some info := (update_of_ne away ..).symm.trans entry
    obtain ⟨p, pointer, atP, object⟩ :=
      lookUp_eq_some.mp (consistent.found other info before named
        fun third entry' atThird => sole third entry' (elsewhere third entry' atThird))
    exact lookUp_eq_some.mpr ⟨p, pointer, elsewhere _ info atP, object⟩

theorem Keyed.addNode (keyed : Keyed db) (id : Routing.Nodeid) (name : Name) :
    Keyed (db.addNode id name) where
  ids other info entry := by
    by_cases same : other = id
    · subst same
      have made : (db.addNode other name).byId other = some ⟨other, name, db.made⟩ := update_self ..
      rw [made] at entry
      cases entry
      rfl
    · refine keyed.ids other info (Eq.trans ?_ entry)
      exact (update_of_ne same ..).symm
  nameless := by
    by_cases empty : name = []
    · simpa [Database.addNode, empty] using keyed.nameless
    · simpa [Database.addNode, empty] using keyed.nameless

/-- What a call does: nothing, `setNodeName`, or a new entry without a name.  A
name is learned for an address that has none, if nobody is found under it. -/
inductive Stepped (db : Database) : Call → Database → Prop where
  | same (call : Call) (quiet : ∀ id name, call ≠ .setNodeName id name) : Stepped db call db
  | set (id : Routing.Nodeid) (name : Name) :
      Stepped db (.setNodeName id name) (db.setNodeName id name).1
  | learned (id : Routing.Nodeid) (name n : Name) (unnamed : db.nameOf id = [])
      (unused : db.byName n = none) : Stepped db (.learnNodeName id name) (db.setNodeName id n).1
  | added (id : Routing.Nodeid) (add : Bool) (absent : db.byId id = none) :
      Stepped db (.findNode id add) (db.addNode id [])

theorem findNode_stepped (db : Database) (id : Routing.Nodeid) (add : Bool) :
    Stepped db (.findNode id add) (db.findNode id add).1 := by
  unfold findNode
  split
  case h_1 => exact .same _ nofun
  case h_2 absent =>
    split
    case isTrue => exact .added id add absent
    case isFalse => exact .same _ nofun

theorem learnNodeName_stepped (own : Routing.Nodeid) (db : Database)
    (id : Routing.Nodeid) (name : Name) :
    Stepped db (.learnNodeName id name) (db.learnNodeName own id name).1 := by
  unfold learnNodeName
  split
  case h_1 => exact .same _ nofun
  case h_2 n _ =>
    split
    case isTrue => exact .same _ nofun
    case isFalse =>
      split
      case isTrue => exact .same _ nofun
      case isFalse gap =>
        split
        case isTrue => exact .same _ nofun
        case isFalse unused =>
          refine .learned id name n ?_ (Option.not_isSome_iff_eq_none.mp unused)
          cases entry : db.byId id with
          | none =>
            rw [nameOf, entry]
            rfl
          | some info =>
            rw [nameOf_of_entry entry]
            by_contra named
            simp [findNode, entry, named] at gap

theorem stepped (own : Routing.Nodeid) (db : Database) (call : Call) :
    Stepped db call (db.step own call) := by
  cases call with
  | setNodeName id name => exact .set id name
  | learnNodeName id name => exact learnNodeName_stepped own db id name
  | findNode id add => exact findNode_stepped db id add

theorem Keyed.setNodeName (keyed : Keyed db) (id : Routing.Nodeid) (name : Name) :
    Keyed (db.setNodeName id name).1 := by
  by_cases renames : db.Renames id name
  · obtain ⟨serial, renamed⟩ := setNodeName_of_renames keyed renames
    exact keyed.renamed renamed
  · rw [setNodeName_of_not_renames renames]
    exact keyed

theorem byId_setNodeName_of_ne (keyed : Keyed db) {other : Routing.Nodeid} (away : other ≠ id) :
    (db.setNodeName id name).1.byId other = db.byId other := by
  by_cases renames : db.Renames id name
  · obtain ⟨serial, renamed⟩ := setNodeName_of_renames keyed renames
    exact renamed.elsewhere other away
  · rw [setNodeName_of_not_renames renames]

theorem Keyed.step (own : Routing.Nodeid) (keyed : Keyed db) (call : Call) :
    Keyed (db.step own call) := by
  generalize after : db.step own call = db'
  cases after ▸ stepped own db call with
  | same => exact keyed
  | set | learned => exact keyed.setNodeName _ _
  | added => exact keyed.addNode _ []

/-- A rename must not take away a name that exactly one other entry bears;
every other call is harmless. -/
def LeavesFindable (db : Database) : Call → Prop
  | .setNodeName id name => ¬ db.TakesShared id name
  | .learnNodeName _ _ => True
  | .findNode _ _ => True

theorem consistent_step_iff (own : Routing.Nodeid) (keyed : Keyed db)
    (consistent : Consistent db) (call : Call) :
    db.LeavesFindable call ↔ Consistent (db.step own call) := by
  generalize after : db.step own call = db'
  cases after ▸ stepped own db call with
  | same _ quiet =>
    refine iff_of_true ?_ consistent
    cases call with
    | setNodeName id name => exact absurd rfl (quiet id name)
    | _ => trivial
  | set => exact consistent_setNodeName_iff keyed consistent ..
  | learned id name n unnamed =>
    refine iff_of_true trivial ?_
    refine (consistent_setNodeName_iff keyed consistent id n).mp ?_
    exact fun shared => shared.2.1 unnamed
  | added id add absent =>
    exact iff_of_true trivial (consistent_addNode consistent absent)

end Database

open Database

def lastLine (lines : List NodeLine) (p : NodeLine → Bool) : Option (NodeLine × Nat) :=
  lines.zipIdx.reverse.find? (fun placed => p placed.1)

variable {lines : List NodeLine} {db : Database} {p : NodeLine → Bool}

theorem lastLine_append (lines : List NodeLine) (line : NodeLine) (p : NodeLine → Bool) :
    lastLine (lines ++ [line]) p =
      if p line then some (line, lines.length) else lastLine lines p := by
  simp only [lastLine, zipIdx_append, reverse_append,
    zipIdx_singleton, reverse_singleton, singleton_append, find?_cons, Nat.zero_add]
  cases p line <;> rfl

theorem lastLine_spec {found : NodeLine × Nat} (eq : lastLine lines p = some found) :
    p found.1 = true ∧ lines[found.2]? = some found.1 := by
  have has := find?_some eq
  refine ⟨has, ?_⟩
  have member := mem_reverse.mp (mem_of_find?_eq_some eq)
  exact mem_zipIdx_iff_getElem?.mp member

theorem lastLine_ext {q : NodeLine → Bool} {first second : NodeLine × Nat}
    (eq : lastLine lines p = some first) (eq' : lastLine lines q = some second)
    (same : first.2 = second.2) : first = second := by
  have line := (lastLine_spec eq).2
  rw [same, (lastLine_spec eq').2] at line
  exact Prod.ext (Option.some.inj line).symm same

theorem exists_lastLine {line : NodeLine} (member : line ∈ lines) (has : p line = true) :
    ∃ found, lastLine lines p = some found := by
  apply Option.isSome_iff_exists.mp
  rw [lastLine, find?_isSome]
  obtain ⟨place, eq⟩ := getElem?_of_mem member
  exact ⟨(line, place), mem_reverse.mpr (mem_zipIdx_iff_getElem?.mpr eq), has⟩

/-- Of each address the last line is the one that counts, and of each name. -/
structure Loaded (lines : List NodeLine) (db : Database) : Prop where
  made : db.made = lines.length
  byId : ∀ id, db.byId id =
    (lastLine lines (·.id = id)).map fun found => ⟨id, found.1.name, found.2⟩
  byName : ∀ name, name ≠ [] → db.byName name =
    (lastLine lines (·.name = name)).map fun found => ⟨found.1.id, found.2⟩
  keyed : db.Keyed
  configNamed : ∀ line ∈ lines, line.Operator → line.id ∈ db.configNamed

theorem Loaded.addLine (loaded : Loaded lines db) (line : NodeLine) :
    Loaded (lines ++ [line]) (db.addLine line) := by
  have maps : (db.addLine line).byId = (db.addNode line.id line.name).byId ∧
      (db.addLine line).byName = (db.addNode line.id line.name).byName ∧
      (db.addLine line).made = db.made + 1 := by
    unfold Database.addLine
    split <;> exact ⟨rfl, rfl, rfl⟩
  constructor
  case made => rw [maps.2.2, loaded.made, length_append]; rfl
  case byId =>
    intro id
    rw [maps.1, lastLine_append, ← loaded.made]
    by_cases here : line.id = id
    · subst here
      simp [addNode]
    · simp [addNode, here, Ne.symm here, loaded.byId]
  case byName =>
    intro name named
    rw [maps.2.1, lastLine_append, ← loaded.made]
    by_cases same : line.name = name
    · subst same
      simp [addNode, named]
    · by_cases empty : line.name = []
      · simp [addNode, empty, Ne.symm named, loaded.byName name named]
      · simp [addNode, empty, same, Ne.symm same, loaded.byName name named]
  case keyed =>
    have keyed := loaded.keyed.addNode line.id line.name
    constructor
    · rw [maps.1]
      exact keyed.ids
    · rw [maps.2.1]
      exact keyed.nameless
  case configNamed =>
    intro other member operator
    unfold Database.addLine
    rcases mem_append.mp member with old | new
    · have known := loaded.configNamed other old operator
      split
      · exact mem_cons_of_mem _ known
      · exact known
    · cases mem_singleton.mp new
      rw [if_pos operator]
      exact mem_cons_self

theorem loaded_load (lines : List NodeLine) : Loaded lines (load lines) := by
  induction lines using reverseRecOn with
  | nil =>
    exact ⟨rfl, fun _ => rfl, fun _ _ => rfl, ⟨nofun, rfl⟩, nofun⟩
  | append_singleton lines line induction =>
    have unfolded : load (lines ++ [line]) = (load lines).addLine line := foldl_append ..
    rw [unfolded]
    exact induction.addLine line

theorem Loaded.lookUp_eq_some (loaded : Loaded lines db) {name : Name} {info : Nodeinfo}
    (named : name ≠ []) :
    db.lookUp name = some info ↔ ∃ found, lastLine lines (·.name = name) = some found ∧
        lastLine lines (·.id = found.1.id) = some found ∧
        info = ⟨found.1.id, found.1.name, found.2⟩ := by
  rw [Database.lookUp_eq_some]
  constructor
  · rintro ⟨p, pointer, entry, object⟩
    rw [loaded.byName name named] at pointer
    obtain ⟨found, lastName, rfl⟩ := Option.map_eq_some_iff.mp pointer
    rw [loaded.byId] at entry
    obtain ⟨other, lastId, rfl⟩ := Option.map_eq_some_iff.mp entry
    cases lastLine_ext lastId lastName object
    exact ⟨found, lastName, lastId, rfl⟩
  · rintro ⟨found, lastName, lastId, rfl⟩
    have pointer := loaded.byName name named
    have entry := loaded.byId found.1.id
    rw [lastName] at pointer
    rw [lastId] at entry
    exact ⟨_, pointer, entry, rfl⟩

/-- The last line with a name is also the last line of its address. -/
def NamesLast (lines : List NodeLine) : Prop :=
  ∀ name, name ≠ [] → ∀ found, lastLine lines (·.name = name) = some found →
    lastLine lines (·.id = found.1.id) = some found

theorem Loaded.consistent_iff (loaded : Loaded lines db) : db.Consistent ↔ NamesLast lines := by
  constructor
  · intro consistent name named found last
    have pointer := loaded.byName name named
    rw [last] at pointer
    obtain ⟨info, entry, -⟩ := consistent.live name _ pointer
    have found := Database.lookUp_eq_some.mpr ⟨_, pointer, deref_eq_some.mp entry⟩
    obtain ⟨other, last', lastId, -⟩ := (loaded.lookUp_eq_some named).mp found
    cases Option.some.inj (last.symm.trans last')
    exact lastId
  · intro namesLast
    constructor
    case live =>
      intro name p pointer
      have named : name ≠ [] := by
        intro empty
        rw [empty, loaded.keyed.nameless] at pointer
        cases pointer
      rw [loaded.byName name named] at pointer
      obtain ⟨found, last, rfl⟩ := Option.map_eq_some_iff.mp pointer
      have entry := loaded.byId found.1.id
      rw [namesLast name named found last] at entry
      refine ⟨_, deref_eq_some.mpr ⟨entry, rfl⟩, ?_⟩
      exact of_decide_eq_true (lastLine_spec last).1
    case found =>
      intro id info entry named sole
      rw [loaded.byId] at entry
      obtain ⟨line, last, rfl⟩ := Option.map_eq_some_iff.mp entry
      obtain ⟨found, lastName⟩ := exists_lastLine (p := (·.name = line.1.name))
        (mem_of_getElem? (lastLine_spec last).2) (decide_eq_true rfl)
      have lastId := namesLast _ named found lastName
      have bears : found.1.name = line.1.name := of_decide_eq_true (lastLine_spec lastName).1
      have atFound := loaded.byId found.1.id
      rw [lastId] at atFound
      have place : found.1.id = id := sole found.1.id _ atFound bears
      refine (loaded.lookUp_eq_some named).mpr ⟨found, lastName, lastId, ?_⟩
      rw [place, last] at lastId
      cases lastId
      rw [place]

/-- Looking a name up gives nothing or an entry of the database that bears it,
and finds every entry whose name no other bears, in every state of a run of the
node's calls: exactly when the last node line with each name is the last one of
its address, and no rename takes a name away from an entry while exactly one
other bears it. -/
theorem consistent_throughout_iff (own : Routing.Nodeid) (lines : List NodeLine)
    (calls : List Database.Call) :
    Run.Always (Database.step own) Database.Consistent (Database.load lines) calls ↔
      NamesLast lines ∧ Run.Guarded (Database.step own) Database.LeavesFindable
          (Database.load lines) calls := by
  have loaded := loaded_load lines
  rw [← loaded.consistent_iff]
  exact Run.always_iff (fun _ call keyed => Keyed.step own keyed call) (fun _ call keyed holds =>
      consistent_step_iff own keyed holds call)
    calls loaded.keyed

def alpha : Name := ['A', 'L', 'P', 'H', 'A']

def beta : Name := ['B', 'E', 'T', 'A']

def cached : List NodeLine :=
  [⟨make 1 1, alpha, true⟩, ⟨make 1 2, beta, true⟩]

/-- The fetched list has their names exchanged. -/
def traded : Database :=
  (((Database.load cached).setNodeName (make 1 1) beta).1.setNodeName
    (make 1 2) alpha).1

theorem traded_byId_of_ne {id : Routing.Nodeid} (first : id ≠ make 1 1)
    (second : id ≠ make 1 2) : traded.byId id = none := by
  have keyed := (loaded_load cached).keyed
  rw [traded, byId_setNodeName_of_ne (keyed.setNodeName _ _) second,
    byId_setNodeName_of_ne keyed first, (loaded_load cached).byId]
  simp [lastLine, cached, first.symm, second.symm]

/-- An address that is given twice leaves a pointer to an entry that is gone,
and of two nodes that exchange their names one is not found any more. -/
theorem stale_and_lost_names :
    ¬ (Database.load [⟨make 1 1, alpha, false⟩, ⟨make 1 1, beta, false⟩]).Consistent ∧
      ¬ Run.Always (Database.step (make 1 500)) Database.Consistent (Database.load cached)
        [.setNodeName (make 1 1) beta, .setNodeName (make 1 2) alpha] := by
  constructor
  · intro consistent
    obtain ⟨info, entry, -⟩ := consistent.live alpha ⟨make 1 1, 0⟩ (by decide +kernel)
    cases entry
  · rintro ⟨-, -, consistent⟩
    have sole : traded.Sole (make 1 1) beta := by
      intro other info entry bears
      by_contra first
      by_cases second : other = make 1 2
      · have here : traded.byId (make 1 2) =
            some ⟨make 1 2, alpha, 1⟩ := by decide +kernel
        rw [second, here] at entry
        cases entry
        cases bears
      · rw [traded_byId_of_ne first second] at entry
        cases entry
    have found := consistent.found (make 1 1)
      ⟨make 1 1, beta, 0⟩ (by decide +kernel) (by decide) sole
    have lost : traded.lookUp beta = none := by decide +kernel
    exact absurd (lost.symm.trans found) (Option.some_ne_none _).symm

/-! ## The operator's names -/

/-- Each name the operator wrote is found at the address it was written for. -/
def Resolved (lines : List NodeLine) (db : Database) : Prop :=
  ∀ line ∈ lines, line.Operator → ∃ info, db.lookUp line.name = some info ∧ info.id = line.id

/-- Of the lines with a name the operator wrote, cached ones included, the last
is for the operator's address, and it is the last line of that address. -/
def OperatorLast (lines : List NodeLine) : Prop :=
  ∀ line ∈ lines, line.Operator → ∃ found, lastLine lines (·.name = line.name) = some found ∧
      lastLine lines (·.id = line.id) = some found

/-- A rename neither gives nor takes away a name that the operator wrote. -/
def Respects (lines : List NodeLine) (db : Database) : Database.Call → Prop
  | .setNodeName id name => db.Renames id name → ∀ line ∈ lines, line.Operator →
        line.name ≠ name ∧ line.name ≠ db.nameOf id
  | .learnNodeName _ _ => True
  | .findNode _ _ => True

theorem Loaded.resolved_iff (loaded : Loaded lines db) :
    Resolved lines db ↔ OperatorLast lines := by
  constructor
  · intro resolved line member operator
    obtain ⟨info, found, place⟩ := resolved line member operator
    obtain ⟨last, lastName, lastId, rfl⟩ := (loaded.lookUp_eq_some operator.2).mp found
    have same : last.1.id = line.id := place
    rw [same] at lastId
    exact ⟨last, lastName, lastId⟩
  · intro operatorLast line member operator
    obtain ⟨last, lastName, lastId⟩ := operatorLast line member operator
    have place : last.1.id = line.id := of_decide_eq_true (lastLine_spec lastId).1
    rw [← place] at lastId
    exact ⟨_, (loaded.lookUp_eq_some operator.2).mpr ⟨last, lastName, lastId, rfl⟩, place⟩

/-- The addresses the operator named are marked as such. -/
structure Marked (lines : List NodeLine) (db : Database) : Prop where
  keyed : db.Keyed
  configNamed : ∀ line ∈ lines, line.Operator → line.id ∈ db.configNamed

theorem configNamed_setNodeName (keyed : db.Keyed) (id : Routing.Nodeid) (name : Name) :
    (db.setNodeName id name).1.configNamed = db.configNamed := by
  by_cases renames : db.Renames id name
  · obtain ⟨serial, renamed⟩ := setNodeName_of_renames keyed renames
    exact renamed.configNamed
  · rw [setNodeName_of_not_renames renames]

theorem Marked.step (own : Routing.Nodeid) (marked : Marked lines db)
    (call : Call) : Marked lines (db.step own call) := by
  have same : (db.step own call).configNamed = db.configNamed := by
    generalize after : db.step own call = db'
    cases after ▸ stepped own db call with
    | same | added => rfl
    | set | learned => exact configNamed_setNodeName marked.keyed _ _
  refine ⟨marked.keyed.step own call, ?_⟩
  rw [same]
  exact marked.configNamed

theorem resolved_setNodeName_iff (marked : Marked lines db)
    (resolved : Resolved lines db) (id : Routing.Nodeid) (name : Name) :
    Respects lines db (.setNodeName id name) ↔ Resolved lines (db.setNodeName id name).1 := by
  by_cases renames : db.Renames id name
  · obtain ⟨serial, renamed⟩ := setNodeName_of_renames marked.keyed renames
    have away : ∀ line ∈ lines, line.Operator → line.id ≠ id := by
      intro line member operator same
      exact renames.2.1 (same ▸ marked.configNamed line member operator)
    constructor
    · intro respects line member operator
      obtain ⟨new, old⟩ := respects renames line member operator
      obtain ⟨info, found, place⟩ := resolved line member operator
      obtain ⟨p, pointer, entry, object⟩ := lookUp_eq_some.mp found
      have here : p.id ≠ id := by
        rw [← marked.keyed.ids p.id info entry, place]
        exact away line member operator
      refine ⟨info, lookUp_eq_some.mpr ⟨p, ?_, ?_, object⟩, place⟩
      · rw [renamed.others line.name new old]
        exact pointer
      · rw [renamed.elsewhere p.id here]
        exact entry
    · intro result _ line member operator
      obtain ⟨info, found, place⟩ := result line member operator
      obtain ⟨p, pointer, entry, -⟩ := lookUp_eq_some.mp found
      constructor
      · intro same
        rw [same, renamed.given] at pointer
        cases pointer
        rw [renamed.entry] at entry
        cases entry
        exact away line member operator place.symm
      · intro same
        rw [same, renamed.erased (same ▸ operator.2)] at pointer
        cases pointer
  · rw [setNodeName_of_not_renames renames]
    exact iff_of_true (fun changes => absurd changes renames) resolved

theorem resolved_step_iff (own : Routing.Nodeid) (marked : Marked lines db)
    (resolved : Resolved lines db) (call : Call) :
    Respects lines db call ↔ Resolved lines (db.step own call) := by
  generalize after : db.step own call = db'
  cases after ▸ stepped own db call with
  | same _ quiet =>
    refine iff_of_true ?_ resolved
    cases call with
    | setNodeName id name => exact absurd rfl (quiet id name)
    | _ => trivial
  | set => exact resolved_setNodeName_iff marked resolved ..
  | learned id name n unnamed unused =>
    refine iff_of_true trivial ?_
    refine (resolved_setNodeName_iff marked resolved id n).mp ?_
    intro _ line member operator
    constructor
    · intro same
      obtain ⟨info, found, -⟩ := resolved line member operator
      obtain ⟨p, pointer, -⟩ := lookUp_eq_some.mp found
      rw [same, unused] at pointer
      cases pointer
    · rw [unnamed]
      exact operator.2
  | added id add absent =>
    refine iff_of_true trivial ?_
    intro line member operator
    obtain ⟨info, found, place⟩ := resolved line member operator
    obtain ⟨p, pointer, entry, object⟩ := lookUp_eq_some.mp found
    refine ⟨info, lookUp_eq_some.mpr ⟨p, pointer, ?_, object⟩, place⟩
    refine (update_of_ne ?_ ..).trans entry
    intro same
    rw [same, absent] at entry
    cases entry

/-- The operator's names resolve to the operator's addresses in every state of
a run exactly when the lines of the configuration, cached ones included, end
with them, and no rename of an address the operator has not named gives or
takes away one of these names. -/
theorem operator_names_win_iff (own : Routing.Nodeid) (lines : List NodeLine)
    (calls : List Database.Call) :
    Run.Always (Database.step own) (Resolved lines) (Database.load lines) calls ↔
      OperatorLast lines ∧ Run.Guarded (Database.step own) (Respects lines) (Database.load lines)
          calls := by
  have loaded := loaded_load lines
  rw [← loaded.resolved_iff]
  exact Run.always_iff (fun _ call marked => Marked.step own marked call)
    (fun _ call marked holds => resolved_step_iff own marked holds call)
    calls ⟨loaded.keyed, loaded.configNamed⟩

/-- The fetched list has the operator's name for another address. -/
theorem fetched_name_redirects :
    ¬ Run.Always (Database.step (make 1 500)) (Resolved [⟨make 1 1, alpha, false⟩])
      (Database.load [⟨make 1 1, alpha, false⟩]) [.setNodeName (make 1 2) alpha] := by
  rintro ⟨-, resolved⟩
  obtain ⟨info, found, place⟩ := resolved ⟨make 1 1, alpha, false⟩ mem_cons_self (by decide)
  have redirected : (step (make 1 500) (load [⟨make 1 1, alpha, false⟩])
      (.setNodeName (make 1 2) alpha)).lookUp alpha =
      some ⟨make 1 2, alpha, 1⟩ := by decide +kernel
  cases Option.some.inj (redirected.symm.trans found)
  exact absurd place (by decide)

end Decnet.Names
