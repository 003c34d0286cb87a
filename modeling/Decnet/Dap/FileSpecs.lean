import Decnet.Common.Text

/-!
# File specifications

A requester of the file access listener names a file in Unix or in VMS syntax.
Node, device and version are dropped, and what is left is split into names
below the root.  Only the slash is looked for in them.
-/

namespace Decnet.Dap

open List

/-- What the server is built for. -/
inductive Platform where
  | posix | windows
  deriving DecidableEq

def Platform.isSeparator (platform : Platform) (c : Char) : Bool :=
  c = '/' ∨ (platform = .windows ∧ c = '\\')

/-- Without what stands before the last `::`, and without a version. -/
def dropNode (spec : Text) : Text :=
  let s := match (spec.tails.filter "::".toList.isPrefixOf).getLast? with
    | some tail => tail.drop 2
    | none => spec
  s.takeWhile (· ≠ ';')

/-- Directories and name after the opening bracket of `DEV:[DIR.SUB]NAME.TYP`. -/
def vmsParts (close : Char) (s : Text) : Option (List Text × Text) :=
  match s.dropWhile (· ≠ close) with
  | [] => none
  | _ :: name =>
    let comps := ((s.takeWhile (· ≠ close)).splitOn '.').filter fun c =>
      c ≠ [] ∧ c ≠ "000000".toList
    if (∃ c ∈ comps, c = ['-'] ∨ '/' ∈ c) ∨ '/' ∈ name then none else some (comps, name)

/-- A device with no directory goes, but not from a path with a slash before
the colon. -/
def dropDevice (s : Text) : Text :=
  match s.dropWhile (· ≠ ':') with
  | [] => s
  | _ :: rest => if '/' ∈ s.takeWhile (· ≠ ':') then s else rest

def unixParts (s : Text) : List Text × Text :=
  let parts := s.splitOn '/'
  (parts.dropLast.filter fun c => c ≠ [] ∧ c ≠ ['.'], parts.getLastD [])

def specParts (s : Text) : Option (List Text × Text) :=
  match s.dropWhile fun c => c ≠ '[' ∧ c ≠ '<' with
  | bracket :: rest => vmsParts (if bracket = '[' then ']' else '>') rest
  | [] => some (unixParts (dropDevice s))

/-- `*.*` is every file, and `NAME.` a name with no type. -/
def plainName (name : Text) : Text :=
  if name = ['.'] then []
  else if name = "*.*".toList then ['*']
  else if 1 < name.length ∧ name.getLast? = some '.' ∧ '.' ∉ name.dropLast then name.dropLast
  else name

def splitSpec (spec : Text) : Option (List Text) := do
  let (comps, name) ← specParts (dropNode spec)
  if "..".toList ∈ comps ∨ name = "..".toList then none else some (comps ++ [plainName name])

/-- The part of a specification that the names are in. -/
def body (s : Text) : Text :=
  match s.dropWhile fun c => c ≠ '[' ∧ c ≠ '<' with
  | _ :: rest => rest
  | [] => dropDevice s

/-- Names that, joined with slashes, lead down one directory each. -/
structure PlainNames (platform : Platform) (comps : List Text) : Prop where
  parent : "..".toList ∉ comps
  whole : ∀ c ∈ comps, ∀ x ∈ c, platform.isSeparator x = false
  levels : (['/'].intercalate comps).splitOnP platform.isSeparator = comps

theorem splitOnP_intercalate {α : Type} {p : α → Bool} {sep : α} (splits : p sep = true)
    {comps : List (List α)} (whole : ∀ c ∈ comps, ∀ x ∈ c, p x = false) (some : comps ≠ []) :
    ([sep].intercalate comps).splitOnP p = comps := by
  induction comps with
  | nil => exact absurd rfl some
  | cons c comps ih =>
    obtain ⟨here, later⟩ := forall_mem_cons.1 whole
    cases comps with
    | nil => simpa [intercalate] using splitOnP_eq_singleton here
    | cons next comps =>
      have joined : [sep].intercalate (c :: next :: comps) =
          c ++ sep :: [sep].intercalate (next :: comps) := by
        simp [intercalate]
      rw [joined, splitOnP_append_cons_of_forall_mem here _ splits, ih later (cons_ne_nil _ _)]

/-- The pieces have every character but the separator. -/
theorem flatten_splitOn (sep : Char) (s : Text) :
    (s.splitOn sep).flatten = s.filter (· ≠ sep) := by
  induction s with
  | nil => rfl
  | cons a s ih =>
    obtain ⟨first, rest, pieces⟩ := exists_cons_of_ne_nil (splitOn_ne_nil sep s)
    rw [splitOn_cons_eq_if_modifyHead, pieces]
    rw [pieces] at ih
    by_cases same : a = sep
    · simpa [same] using ih
    · simpa [same] using ih

theorem mem_flatten_filter {x : Char} {word : Text} (other : x ∉ word) (pieces : List Text) :
    x ∈ (pieces.filter fun c => c ≠ [] ∧ c ≠ word).flatten ↔ x ∈ pieces.flatten := by
  simp only [mem_flatten, mem_filter]
  refine exists_congr fun c => and_congr_left fun inside => and_iff_left ?_
  have kept : c ≠ word := fun same => other (same ▸ inside)
  simp [ne_nil_of_mem inside, kept]

/-- The names have the backslashes of the text and none of its slashes. -/
def Marked (s : Text) (comps : List Text) : Prop :=
  ('\\' ∈ comps.flatten ↔ '\\' ∈ s) ∧ '/' ∉ comps.flatten

theorem marked_unixParts (s : Text) : Marked s ((unixParts s).1 ++ [(unixParts s).2]) := by
  have whole : ∀ x ≠ '.', x ∈ ((unixParts s).1 ++ [(unixParts s).2]).flatten ↔ x ∈ s ∧ x ≠ '/' := by
    intro x other
    have kept := mem_flatten_filter (mt mem_singleton.1 other) (s.splitOn '/').dropLast
    have pieces : x ∈ (s.splitOn '/').flatten ↔ x ∈ s ∧ x ≠ '/' := by simp [flatten_splitOn]
    rw [← pieces, ← dropLast_append_getLast (splitOn_ne_nil '/' s)]
    simp only [unixParts, flatten_append, mem_append, kept]
    simp [getLastD_eq_getLast?, getLast?_eq_some_getLast (splitOn_ne_nil '/' s)]
  exact ⟨(whole _ (by decide)).trans (and_iff_left (by decide)),
    fun inside => ((whole _ (by decide)).1 inside).2 rfl⟩

theorem marked_vmsParts {close : Char} (bracket : close = ']' ∨ close = '>') {s name : Text}
    {comps : List Text} (parts : vmsParts close s = some (comps, name)) :
    Marked s (comps ++ [name]) := by
  unfold vmsParts at parts
  split at parts
  · cases parts
  rename_i first rest found
  obtain ⟨clean, same⟩ := Option.ite_none_left_eq_some.1 parts
  cases same
  obtain ⟨closed, named⟩ := not_or.1 clean
  obtain rfl : first = close := by
    have head := head?_dropWhile_not (fun c => decide (c ≠ close)) s
    rw [found] at head
    simpa using head
  have split : s = s.takeWhile (· ≠ first) ++ first :: name := by
    rw [← found, takeWhile_append_dropWhile]
  constructor
  · rw [flatten_append, mem_append, mem_flatten_filter (by decide), flatten_splitOn]
    conv_rhs => rw [split]
    rcases bracket with rfl | rfl <;> simp
  · simp only [flatten_append, mem_append, not_or]
    refine ⟨fun inside => ?_, by simpa using named⟩
    obtain ⟨c, member, slash⟩ := mem_flatten.1 inside
    exact closed ⟨c, member, .inr slash⟩

theorem marked_specParts {s name : Text} {comps : List Text}
    (parts : specParts s = some (comps, name)) : Marked (body s) (comps ++ [name]) := by
  unfold specParts at parts
  unfold body
  split at parts
  · exact marked_vmsParts (by split <;> simp) parts
  · have marked := marked_unixParts (dropDevice s)
    rw [Option.some.inj parts] at marked
    exact marked

theorem mem_plainName {x : Char} (other : x ∉ "*.".toList) (name : Text) :
    x ∈ plainName name ↔ x ∈ name := by
  unfold plainName
  split
  · simp_all
  split
  · simp_all
  split
  · rename_i last
    conv_rhs => rw [← dropLast_append_getLast? '.' last.2.1]
    simp_all
  · exact Iff.rfl

theorem plainName_ne_parent {name : Text} (other : name ≠ "..".toList) :
    plainName name ≠ "..".toList := by
  unfold plainName
  split
  · decide
  split
  · decide
  split
  · rename_i last
    exact fun same => last.2.2 (same ▸ by decide)
  · exact other

theorem splitSpec_names {spec : Text} {comps : List Text} (given : splitSpec spec = some comps) :
    comps ≠ [] ∧ "..".toList ∉ comps ∧ Marked (body (dropNode spec)) comps := by
  obtain ⟨⟨dirs, name⟩, parts, rest⟩ := Option.bind_eq_some_iff.1 given
  obtain ⟨parent, same⟩ := Option.ite_none_left_eq_some.1 rest
  cases same
  obtain ⟨above, named⟩ := not_or.1 parent
  have marked := marked_specParts parts
  have last : "..".toList ∉ [plainName name] := mt mem_singleton.1 (plainName_ne_parent named).symm
  refine ⟨by simp, fun inside => (mem_append.1 inside).elim above last, ?_⟩
  simpa [Marked, mem_plainName] using marked

/-- The names that a specification is split into are plain ones, just when the
server is built for a system with one separator, or there is no backslash
where the names are, or the specification is refused. -/
theorem splitSpec_plain_iff (platform : Platform) (spec : Text) :
    (∀ comps, splitSpec spec = some comps → PlainNames platform comps) ↔
      platform = .posix ∨ '\\' ∉ body (dropNode spec) ∨ splitSpec spec = none := by
  constructor
  · intro plain
    by_contra! fails
    obtain ⟨windows, inside, served⟩ := fails
    obtain ⟨comps, given⟩ := Option.ne_none_iff_exists'.1 served
    obtain ⟨c, member, among⟩ := mem_flatten.1 ((splitSpec_names given).2.2.1.2 inside)
    have whole := (plain comps given).whole c member _ among
    cases platform with
    | posix => exact windows rfl
    | windows => exact absurd whole (by decide)
  · intro condition comps given
    obtain ⟨some, parent, backslash, slash⟩ := splitSpec_names given
    have whole : ∀ c ∈ comps, ∀ x ∈ c, platform.isSeparator x = false := by
      intro c member x among
      have inside : x ∈ comps.flatten := mem_flatten.2 ⟨c, member, among⟩
      simp only [Platform.isSeparator, decide_eq_false_iff_not, not_or, not_and]
      refine ⟨fun same => slash (same ▸ inside), fun windows same => ?_⟩
      have found := backslash.1 (same ▸ inside)
      simp_all
    exact ⟨parent, whole, splitOnP_intercalate (by simp [Platform.isSeparator]) whole some⟩

/-- On Windows this is a file in the directory above the root. -/
theorem splitSpec_keeps_backslash : splitSpec "..\\x".toList = some ["..\\x".toList] ∧
    ¬ PlainNames .windows ["..\\x".toList] := by
  refine ⟨by decide +kernel, fun plain => ?_⟩
  have whole := plain.whole _ mem_cons_self '\\'
  revert whole
  decide

end Decnet.Dap
