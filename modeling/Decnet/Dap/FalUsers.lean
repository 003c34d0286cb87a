import Decnet.Common.Text
import Mathlib.Data.List.Induction

/-!
# Who may use the file access listener

The listener has a user file of its own: users with a password hash and a
directory, and proxy lines that let users of other nodes in without a password.
A connect names a user and gives a password, or it sets the proxy flag and
gives none.  In the second case the most specific proxy line that matches says
which entry is used; if none matches, the entry `*` is used without asking
whether it has a password.
-/

namespace Decnet.Dap

open Text List

structure FalUser where
  (name hash root : Text)
  writable : Bool
  deriving DecidableEq

/-- `localUser` is the member `local`. -/
structure Proxy where
  (node user localUser : Text)
  deriving DecidableEq

structure Requester where
  (user password : Text)
  proxy : Bool
  (sourceUser nodeName nodeAddress : Text)
  deriving DecidableEq

structure FalUsers where
  users : List FalUser
  proxies : List Proxy
  deriving DecidableEq

/-- Connections that name no user, any node or any user. -/
def star : Text := ['*']

/-- No password, or nobody. -/
def dash : Text := ['-']

namespace FalUsers

/-! ## The user file -/

def find (name : Text) (f : FalUsers) : Option FalUser :=
  f.users.find? (·.name = name)

def splitNode : Text → Option (Text × Text)
  | ':' :: ':' :: rest => some ([], rest)
  | c :: rest => (splitNode rest).map fun (node, user) => (c :: node, user)
  | [] => none

def addProxy (who account : Text) (f : FalUsers) : Except String FalUsers :=
  match splitNode who with
  | none => throw "expected: proxy NODE::USER localuser"
  | some (node, user) =>
    if node = [] ∨ user = [] then
      throw "expected: proxy NODE::USER localuser"
    else
      pure { f with
        proxies := f.proxies ++ [⟨upper node, upper user,
          if account = dash ∨ account = star then account
          else upper account⟩] }

def addUser (base name hash directory access : Text) (f : FalUsers) : Except String FalUsers :=
  let name := if name = star then star else upper name
  let root := if directory.head? = some '/' then directory
    else base ++ '/' :: directory
  if hash ≠ dash ∧ hash.length < 13 then
    throw "that is not a password hash; see dnfal --hash"
  else if access ≠ "rw".toList ∧ access ≠ "ro".toList then
    throw "access must be ro or rw"
  else if (f.find name).isSome then
    throw ("user " ++ String.ofList name ++ " twice")
  else
    pure { f with
      users := f.users ++ [⟨name, hash, root, access = "rw".toList⟩] }

def addLine (base : Text) (f : FalUsers) (line : Text) : Except String FalUsers :=
  match words (line.takeWhile (· ≠ '#')) with
  | [] => pure f
  | [first, who, account] =>
    if first = "proxy".toList then f.addProxy who account
    else throw "expected: user hash directory ro|rw"
  | [name, hash, directory, access] =>
    f.addUser base name hash directory access
  | _ => throw "expected: user hash directory ro|rw"

def dangling (f : FalUsers) (p : Proxy) : Bool :=
  p.localUser ≠ dash ∧ (f.find p.localUser).isNone

def readLine (base : Text) (source : String) (out : FalUsers)
    (line : Text × Nat) : Except String FalUsers :=
  (out.addLine base line.1).mapError fun why =>
    source ++ " line " ++ toString (line.2 + 1) ++ ": " ++ why

def parse (text base : Text) (source : String) : Except String FalUsers := do
  let out ← (lines text).zipIdx.foldlM (readLine base source) ⟨[], []⟩
  match out.proxies.find? out.dangling with
  | some p =>
    throw (source ++ ": proxy " ++ String.ofList p.node ++ "::" ++
      String.ofList p.user ++ " names " ++ String.ofList p.localUser ++ ", who is not in the file")
  | none => pure out

/-! ## Who is let in -/

variable (check : Text → Text → Bool)

def authenticateNamed (user password : Text) (f : FalUsers) : Option FalUser :=
  match f.find (if user = [] then star else upper user) with
  | none => none
  | some entry =>
    if entry.hash = dash then some entry
    else if check password entry.hash then some entry
    else if lower password ≠ password ∧ check (lower password) entry.hash
      then some entry
    else none

/-- Who the user is at the far end; there may be a UIC in front. -/
def who (r : Requester) : Text :=
  if r.user ≠ [] then upper r.user
  else if ']' ∈ r.sourceUser then
    upper ((r.sourceUser.dropWhile (· ≠ ']')).tail)
  else upper r.sourceUser

def nodeIs (r : Requester) (node : Text) : Bool :=
  node ≠ [] ∧ (node = upper r.nodeName ∨ node = r.nodeAddress)

/-- How well a line fits: 0 if it does not. -/
def rank (r : Requester) (p : Proxy) : Nat :=
  let nodeMatches := nodeIs r p.node
  let userMatches := who r ≠ [] ∧ p.user = who r
  if nodeMatches ∧ userMatches then 4
  else if nodeMatches ∧ p.user = star then 3
  else if p.node = star ∧ userMatches then 2
  else if p.node = star ∧ p.user = star then 1
  else 0

/-- The body of the loop that looks for the best line. -/
def better (r : Requester) (best : Option Proxy × Nat) (p : Proxy) : Option Proxy × Nat :=
  if best.2 < rank r p then (some p, rank r p) else best

def best (r : Requester) (f : FalUsers) : Option Proxy :=
  (f.proxies.foldl (better r) (none, 0)).1

def authenticate (r : Requester) (f : FalUsers) : Option FalUser :=
  if !r.proxy ∨ r.password ≠ [] then
    f.authenticateNamed check r.user r.password
  else
    match f.best r with
    | none => f.find star
    | some p =>
      if p.localUser = dash then none
      else (f.find p.localUser).or (f.find star)

/-! ## The best line -/

/-- The first line that fits and that no other line fits better. -/
def mostSpecific (r : Requester) (proxies : List Proxy) : Option Proxy :=
  proxies.find? fun p => 0 < rank r p ∧ ∀ q ∈ proxies, rank r q ≤ rank r p

variable {r : Requester} {f : FalUsers}

theorem foldl_better (r : Requester) (proxies : List Proxy) :
    (∀ q ∈ proxies, rank r q ≤ (proxies.foldl (better r) (none, 0)).2) ∧
    (proxies.foldl (better r) (none, 0) = (none, 0) ∨
      ∃ p before after, proxies.foldl (better r) (none, 0) = (some p, rank r p) ∧ 0 < rank r p ∧
        proxies = before ++ p :: after ∧ ∀ q ∈ before, rank r q < rank r p) := by
  induction proxies using reverseRecOn with
  | nil => exact ⟨nofun, .inl rfl⟩
  | append_singleton proxies last induction =>
    obtain ⟨bound, found⟩ := induction
    rw [foldl_append]
    change (∀ q ∈ proxies ++ [last], rank r q ≤ (better r _ last).2) ∧
      (better r _ last = (none, 0) ∨ ∃ p before after, better r _ last = (some p, rank r p) ∧ _)
    generalize proxies.foldl (better r) (none, 0) = state at bound found
    by_cases less : state.2 < rank r last
    · have replaced : better r state last = (some last, rank r last) := if_pos less
      rw [replaced]
      have below : ∀ q ∈ proxies, rank r q < rank r last :=
        fun q member => Nat.lt_of_le_of_lt (bound q member) less
      refine ⟨?_, .inr ⟨last, proxies, [], rfl, by omega, rfl, below⟩⟩
      intro q member
      rcases mem_append.mp member with old | new
      · exact Nat.le_of_lt (below q old)
      · exact Nat.le_of_eq (congrArg (rank r) (mem_singleton.mp new))
    · have kept : better r state last = state := if_neg less
      rw [kept]
      constructor
      · intro q member
        rcases mem_append.mp member with old | new
        · exact bound q old
        · rw [mem_singleton.mp new]
          exact Nat.le_of_not_lt less
      · refine found.imp id ?_
        rintro ⟨p, before, after, same, fits, rfl, earlier⟩
        exact ⟨p, before, after ++ [last], same, fits, by simp, earlier⟩

theorem best_eq (r : Requester) (f : FalUsers) : f.best r = mostSpecific r f.proxies := by
  obtain ⟨bound, nothing | ⟨p, before, after, same, fits, split, earlier⟩⟩ :=
    foldl_better r f.proxies
  · rw [best, nothing, mostSpecific, eq_comm, find?_eq_none]
    intro q member
    have none := bound q member
    rw [nothing] at none
    simp only [decide_eq_true_eq, not_and]
    intro fits
    exact absurd none (Nat.not_le.mpr fits)
  · rw [same] at bound
    rw [best, same, mostSpecific, eq_comm, find?_eq_some_iff_append]
    refine ⟨decide_eq_true ⟨fits, bound⟩, before, after, split, ?_⟩
    intro q member
    have here : p ∈ f.proxies := by
      rw [split]
      exact mem_append_right _ mem_cons_self
    simp only [Bool.not_eq_true', decide_eq_false_iff_not]
    exact fun best => Nat.not_lt.mpr (best.2 p here) (earlier q member)

theorem mostSpecific_eq_none : mostSpecific r f.proxies = none ↔ ∀ p ∈ f.proxies, rank r p = 0 := by
  rw [← best_eq]
  obtain ⟨bound, nothing | ⟨p, before, after, same, fits, split, _⟩⟩ := foldl_better r f.proxies
  · rw [nothing] at bound
    rw [best, nothing]
    exact iff_of_true rfl fun p member => Nat.le_zero.mp (bound p member)
  · rw [best, same]
    refine iff_of_false nofun ?_
    intro none
    have here : p ∈ f.proxies := by
      rw [split]
      exact mem_append_right _ mem_cons_self
    exact Nat.ne_of_gt fits (none p here)

/-! ## What an accepted file grants -/

theorem find_of_parse {text base : Text} {source : String}
    (accepted : parse text base source = .ok f) :
    ∀ p ∈ f.proxies, p.localUser ≠ dash → ∃ u, f.find p.localUser = some u := by
  unfold parse at accepted
  generalize (lines text).zipIdx.foldlM (readLine base source) ⟨[], []⟩ = read at accepted
  cases read with
  | error => cases accepted
  | ok out =>
    change (match out.proxies.find? out.dangling with
      | some p => _
      | none => pure out) = _ at accepted
    split at accepted
    case h_1 => cases accepted
    case h_2 none =>
      cases accepted
      intro p member named
      have found := find?_eq_none.mp none p member
      rw [← Option.isSome_iff_exists]
      simpa [dangling, named, Option.isSome_iff_ne_none] using found

/-- What may be granted, and what must be refused. -/
structure Justified (r : Requester) (f : FalUsers) : Prop where
  /-- The entry that is named, with its password. -/
  named : r.proxy = false ∨ r.password ≠ [] → ∀ u, f.authenticate check r = some u →
      f.find (if r.user = [] then star else upper r.user) = some u ∧
        (u.hash = dash ∨ check r.password u.hash = true ∨ check (lower r.password) u.hash = true)
  /-- The entry of the most specific proxy line, or the default account if it
  has no password. -/
  proxied : r.proxy = true → r.password = [] → ∀ u, f.authenticate check r = some u →
      (∃ p, mostSpecific r f.proxies = some p ∧ p.localUser ≠ dash ∧ f.find p.localUser = some u) ∨
      (∀ p ∈ f.proxies, rank r p = 0) ∧ f.find star = some u ∧ u.hash = dash
  refused : r.proxy = true → r.password = [] →
    ∀ p, mostSpecific r f.proxies = some p → p.localUser = dash → f.authenticate check r = none
  /-- The proxy flag opens no entry with a password that no line names. -/
  closed : r.proxy = true → r.password = [] → ∀ u, f.authenticate check r = some u → u.hash ≠ dash →
      ∃ p ∈ f.proxies, p.localUser = u.name

variable {check : Text → Text → Bool}

theorem authenticateNamed_eq_some {user password : Text} {u : FalUser}
    (granted : f.authenticateNamed check user password = some u) :
    f.find (if user = [] then star else upper user) = some u ∧
      (u.hash = dash ∨ check password u.hash = true ∨ check (lower password) u.hash = true) := by
  unfold authenticateNamed at granted
  split at granted
  case h_1 => cases granted
  case h_2 entry found =>
    split at granted
    case isTrue none =>
      cases granted
      exact ⟨found, .inl none⟩
    split at granted
    case isTrue right =>
      cases granted
      exact ⟨found, .inr (.inl right)⟩
    split at granted
    case isTrue right =>
      cases granted
      exact ⟨found, .inr (.inr right.2)⟩
    case isFalse => cases granted

theorem authenticate_proxy (flag : r.proxy = true) (none : r.password = []) :
    f.authenticate check r =
      match mostSpecific r f.proxies with
      | .none => f.find star
      | some p =>
        if p.localUser = dash then .none
        else (f.find p.localUser).or (f.find star) := by
  rw [authenticate, if_neg (by simp [flag, none]), best_eq]

/-- A requester with the proxy flag gets the default account without a
password if no line fits; else everything is as it should be. -/
theorem authenticate_justified_iff {text base : Text} {source : String}
    (accepted : parse text base source = .ok f) (check : Text → Text → Bool) (r : Requester) :
    Justified check r f ↔ (r.proxy = true → r.password = [] → (∀ p ∈ f.proxies, rank r p = 0) →
          ∀ u, f.find star = some u → u.hash = dash) := by
  constructor
  · intro justified flag none unfit u found
    have nobody := mostSpecific_eq_none.mpr unfit
    have granted : f.authenticate check r = some u := by
      rw [authenticate_proxy flag none, nobody]
      exact found
    rcases justified.proxied flag none u granted with
      ⟨p, most, _⟩ | ⟨_, _, unlocked⟩
    · rw [nobody] at most
      cases most
    · exact unlocked
  intro default
  have proxied (flag : r.proxy = true) (none : r.password = [])
      (u : FalUser) (granted : f.authenticate check r = some u) :
      (∃ p, mostSpecific r f.proxies = some p ∧ p.localUser ≠ dash ∧ f.find p.localUser = some u) ∨
      (∀ p ∈ f.proxies, rank r p = 0) ∧ f.find star = some u ∧ u.hash = dash := by
    rw [authenticate_proxy flag none] at granted
    cases most : mostSpecific r f.proxies with
    | none =>
      rw [most] at granted
      have unfit := mostSpecific_eq_none.mp most
      exact .inr ⟨unfit, granted, default flag none unfit u granted⟩
    | some p =>
      rw [most] at granted
      dsimp only at granted
      split at granted
      case isTrue => cases granted
      case isFalse named =>
        have line : p ∈ f.proxies := mem_of_find?_eq_some most
        obtain ⟨entry, found⟩ := find_of_parse accepted p line named
        rw [found] at granted
        exact .inl ⟨p, rfl, named, found.trans granted⟩
  constructor
  case named =>
    intro plain u granted
    rw [authenticate, if_pos (by simpa using plain)] at granted
    exact authenticateNamed_eq_some granted
  case proxied => exact proxied
  case refused =>
    intro flag none p most refuses
    rw [authenticate_proxy flag none, most]
    exact if_pos refuses
  case closed =>
    intro flag none u granted locked
    rcases proxied flag none u granted with
      ⟨p, most, _, found⟩ | ⟨_, _, unlocked⟩
    · exact ⟨p, mem_of_find?_eq_some most, by simpa [eq_comm] using find?_some found⟩
    · exact absurd unlocked locked

/-- A user `A` and the default account, which has a password. -/
def lockedFile : Text :=
  "A - a rw\n* $6$0123456789 pub ro\nproxy N::A a # from N\n".toList

/-- A proxy connect of `user` at the node `N`. -/
def proxyConnect (user : Text) : Requester :=
  ⟨user, [], true, [], ['n'], []⟩

def lockedUsers : FalUsers :=
  ⟨[⟨['A'], dash, "/srv/a".toList, true⟩, ⟨star, "$6$0123456789".toList, "/srv/pub".toList, false⟩],
    [⟨['N'], ['A'], ['A']⟩]⟩

theorem authenticate_justified_listed :
    Justified (fun _ _ => false) (proxyConnect ['a']) lockedUsers :=
  (authenticate_justified_iff (show parse lockedFile "/srv".toList "users" = .ok lockedUsers by
      decide +kernel)
    (fun _ _ => false) (proxyConnect ['a'])).mpr (by decide +kernel)

/-- Nobody knows the password, and no line is about `B`. -/
theorem proxy_flag_opens_locked_entry :
    parse lockedFile "/srv".toList "users" = .ok lockedUsers ∧
      lockedUsers.authenticate (fun _ _ => false) (proxyConnect ['b']) =
        some ⟨star, "$6$0123456789".toList, "/srv/pub".toList, false⟩ ∧
      ¬ Justified (fun _ _ => false) (proxyConnect ['b']) lockedUsers := by
  refine ⟨by decide +kernel, by decide +kernel, fun justified => ?_⟩
  have named := justified.closed rfl rfl ⟨star, "$6$0123456789".toList, "/srv/pub".toList, false⟩
  revert named
  decide +kernel

end FalUsers

end Decnet.Dap
