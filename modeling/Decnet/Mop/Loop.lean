import Decnet.Lib.Reading

/-!
# Assisted loopback

A loop message is a skip count and a list of functions: forward to a station,
or reply.  It is built from its end.  A station that forwards a message adds the
length of that function to the skip count, and the next one looks there.
-/

namespace Decnet.Loopback

open Reading List

abbrev Bytes := List UInt8

def isMulticast (address : Bytes) : Bool := address.headD 0 % 2 = 1

/-- The individual address of a station. -/
structure Station where
  address : Bytes
  six : address.length = 6
  individual : isMulticast address = false

def loopReply (receipt : Nat) (payload : Bytes) : Bytes :=
  putUint 1 2 ++ (putUint receipt 2 ++ payload)

def loopFwd (dest : Station) (message : Bytes) : Bytes :=
  putUint 2 2 ++ (dest.address ++ message)

def functions (hops : List Station) (receipt : Nat) (payload : Bytes) : Bytes :=
  hops.foldr loopFwd (loopReply receipt payload)

/-- What the station `own` sends for a message through `hops` and back. -/
def loop (own : Station) (hops : List Station) (payload : Bytes) (receipt : Nat) : Bytes :=
  putUint 0 2 ++ functions (hops ++ [own]) receipt payload

inductive Action where
  | send (dest message : Bytes)
  | answer (receipt : Nat) (payload : Bytes)
  deriving DecidableEq

/-- The function at the skip count. -/
def perform (skip : Nat) (payload rest : Bytes) : Option Action := do
  let (function, fields) ← uint 2 rest
  if function = 2 then
    let (dest, _) ← raw 6 fields
    if isMulticast dest then none
    else some (.send dest (putUint ((skip + 8) % 65536) 2 ++ payload))
  else if function = 1 then
    let (receipt, payload) ← uint 2 fields
    some (.answer receipt payload)
  else none

/-- `LoopHandler::dispatch`; nothing if the message is ignored. -/
def dispatch (buf : Bytes) : Option Action := do
  let (skip, payload) ← uint 2 buf
  if skip % 2 = 1 ∨ buf.length < skip + 4 then none
  else perform skip payload (buf.drop (2 + skip))

/-- A short frame is filled up with zeros. -/
def received (message : Bytes) : Bytes := message ++ replicate (46 - message.length) 0

/-- What the stations do that a frame and its successors come to, in order. -/
def journey : Nat → Bytes → Bytes → List (Bytes × Option Action)
  | 0, _, _ => []
  | fuel + 1, station, frame =>
    (station, dispatch frame) :: match dispatch frame with
      | some (.send dest message) => journey fuel dest (received message)
      | _ => []

/-- Each station sends the functions on to the next, and the last one has its
answer. -/
def itinerary (functions : Bytes) (receipt : Nat) (payload : Bytes) :
    Nat → Bytes → List Station → List (Bytes × Option Action)
  | _, station, [] => [(station, some (.answer receipt payload))]
  | skip, station, dest :: hops =>
    (station, some (.send dest.address (putUint (skip + 8) 2 ++ functions))) ::
      itinerary functions receipt payload (skip + 8) dest.address hops

theorem length_functions (hops : List Station) (receipt : Nat) (payload : Bytes) :
    (functions hops receipt payload).length = 8 * hops.length + (4 + payload.length) := by
  induction hops with
  | nil => simp [functions, loopReply, ← Nat.add_assoc]
  | cons dest hops ih =>
    simp only [functions, foldr_cons, loopFwd, length_append, putUint_length, dest.six] at ih ⊢
    rw [ih, length_cons]
    omega

theorem functions_append (hops : List Station) (receipt : Nat) (payload padding : Bytes) :
    functions hops receipt (payload ++ padding) = functions hops receipt payload ++ padding := by
  induction hops with
  | nil => simp [functions, loopReply]
  | cons dest hops ih => simpa [functions, loopFwd] using ih

theorem received_full {message : Bytes} (full : 46 ≤ message.length) :
    received message = message := by
  simp [received, Nat.sub_eq_zero_of_le full]

section

variable {skip : Nat} {passed rest : Bytes}

theorem dispatch_at (even : skip % 2 = 0) (length : passed.length = skip) (small : skip < 65536)
    (room : 2 ≤ rest.length) :
    dispatch (putUint skip 2 ++ (passed ++ rest)) = perform skip (passed ++ rest) rest := by
  have count : uint 2 (putUint skip 2 ++ (passed ++ rest)) = some (skip, passed ++ rest) :=
    reads_uint small _
  have there : (putUint skip 2 ++ (passed ++ rest)).drop (2 + skip) = rest := by
    rw [← append_assoc, drop_left' (by simp [length])]
  have fine : ¬ (skip % 2 = 1 ∨ (putUint skip 2 ++ (passed ++ rest)).length < skip + 4) := by
    simp only [length_append, putUint_length]
    omega
  rw [dispatch, count]
  exact (if_neg fine).trans (congrArg _ there)

theorem perform_loopFwd (small : skip + 8 < 65536) (dest : Station) (payload : Bytes) :
    perform skip payload (loopFwd dest rest) =
      some (.send dest.address (putUint (skip + 8) 2 ++ payload)) := by
  have code : uint 2 (loopFwd dest rest) = some (2, dest.address ++ rest) :=
    reads_uint (by decide) _
  have address : raw 6 (dest.address ++ rest) = some (dest.address, rest) :=
    dest.six ▸ reads_raw dest.address rest
  simp [perform, code, address, dest.individual, Nat.mod_eq_of_lt small]

theorem perform_loopReply {receipt : Nat} (word : receipt < 65536) (payload all : Bytes) :
    perform skip all (loopReply receipt payload) = some (.answer receipt payload) := by
  have code : uint 2 (loopReply receipt payload) = some (1, putUint receipt 2 ++ payload) :=
    reads_uint (by decide) _
  have number : uint 2 (putUint receipt 2 ++ payload) = some (receipt, payload) :=
    reads_uint word _
  simp [perform, code, number]

theorem individual_of_send {dest message buf : Bytes}
    (sent : dispatch buf = some (.send dest message)) : isMulticast dest = false := by
  obtain ⟨_, _, heeded⟩ := Option.bind_eq_some_iff.1 sent
  obtain ⟨_, performed⟩ := Option.ite_none_left_eq_some.1 heeded
  obtain ⟨_, _, rest⟩ := Option.bind_eq_some_iff.1 performed
  dsimp only at rest
  split_ifs at rest
  · obtain ⟨_, _, kept⟩ := Option.bind_eq_some_iff.1 rest
    obtain ⟨individual, same⟩ := Option.ite_none_left_eq_some.1 kept
    cases same
    exact eq_false_of_ne_true individual
  · obtain ⟨_, _, kept⟩ := Option.bind_eq_some_iff.1 rest
    cases kept

end

/-- The recursion is on the stations still to come; `passed` is what lies
before the skip count. -/
theorem journey_eq {receipt : Nat} (word : receipt < 65536) {payload body : Bytes}
    (full : 44 ≤ body.length) (hops : List Station) {skip : Nat} (even : skip % 2 = 0)
    (small : skip + 8 * hops.length < 65536) {passed : Bytes} (length : passed.length = skip)
    (whole : body = passed ++ functions hops receipt payload) (station : Bytes) :
    journey (hops.length + 1) station (putUint skip 2 ++ body) =
      itinerary body receipt payload skip station hops := by
  have size := length_functions hops receipt payload
  have found : dispatch (putUint skip 2 ++ body) =
      perform skip body (functions hops receipt payload) :=
    whole ▸ dispatch_at even length (by omega) (by omega)
  rw [journey, found]
  cases hops with
  | nil =>
    simp only [functions, foldr_nil, perform_loopReply word]
    rfl
  | cons dest hops =>
    rw [length_cons] at small ⊢
    have sent : perform skip body (functions (dest :: hops) receipt payload) =
        some (.send dest.address (putUint (skip + 8) 2 ++ body)) :=
      perform_loopFwd (by omega) dest body
    rw [sent, itinerary]
    dsimp only
    rw [received_full (by simp; omega)]
    refine congrArg (cons _) (@journey_eq _ word _ _ full hops _ (by omega) (by omega)
      (passed ++ (putUint 2 2 ++ dest.address)) (by simp [length, dest.six]) ?_ dest.address)
    simp [whole, functions, loopFwd]

def stationAt (last : UInt8) : Station := ⟨[2, 0, 0, 0, 0, last], rfl, by simp [isMulticast]⟩

end Decnet.Loopback
