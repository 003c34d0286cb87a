import Decnet.Lib.Reading
import Decnet.Routing.Attached

/-!
# Forwarding

`L1Router::forward` looks up the next hop of a data packet, counts the visit
and hands the packet to a circuit; one that cannot be delivered is turned round
or dropped.  The visit count is a byte, the short header has six bits for it,
and the limit is whatever the configuration says.
-/

namespace Decnet.Routing

open Reading

/-- A data packet as the router works with it.  `src` is the circuit it
arrived on; `ie` is never encoded in the short header. -/
structure DataPacket where
  (rqr rts ie : Bool)
  (dstnode srcnode : Nodeid)
  visit : UInt8
  payload : List UInt8
  src : Option Nat
  deriving DecidableEq

inductive Loss where
  | aged | outOfRange | unreachable
  deriving DecidableEq

/-- What becomes of a packet: it is given to the circuit of a neighbour, or to
the layer above, or an event reports its loss. -/
inductive Fate where
  | sent (n : Neighbour) (packet : DataPacket)
  | delivered (packet : DataPacket)
  | lost (loss : Loss) (packet : DataPacket)
  deriving DecidableEq

/-- A router with the configured `maxvisits_`. -/
structure Forwarder where
  router : Router
  maxvisits : Nat

abbrev VISIT_LIMIT_MAX : Nat := 63

namespace Forwarder

/-- A packet on its way back gets twice the visits, up to what six bits
hold. -/
def limit (f : Forwarder) (packet : DataPacket) : Nat :=
  if packet.rts then min (f.maxvisits * 2 % 2 ^ 32) VISIT_LIMIT_MAX
  else f.maxvisits

def attempt (f : Forwarder) (packet : DataPacket) : Except Loss Fate :=
  match f.router.findOadj packet.dstnode with
  | (_, true) => .error .outOfRange
  | (none, false) => .error .unreachable
  | (some (.self ..), false) => .ok (.delivered packet)
  | (some (.neighbour n), false) =>
    if packet.visit.toNat < f.limit packet then
      .ok (.sent n { packet with visit := packet.visit + 1 })
    else .error .aged

def turnedRound (packet : DataPacket) : DataPacket :=
  { packet with
    dstnode := packet.srcnode
    srcnode := packet.dstnode
    rts := true
    rqr := false
    ie := false }

/-- A packet that comes back is not turned round again. -/
def forward (f : Forwarder) (packet : DataPacket) : Fate :=
  match f.attempt packet with
  | .ok fate => fate
  | .error loss =>
    if packet.rqr ∧ ¬ packet.rts then
      match f.attempt (turnedRound packet) with
      | .ok fate => fate
      | .error loss => .lost loss (turnedRound packet)
    else .lost loss packet

/-- `L1Router::send`. -/
def send (f : Forwarder) (data : List UInt8) (dest : Nodeid) (rqr : Bool) : Fate :=
  f.forward
    { rqr := rqr
      rts := false
      ie := false
      dstnode := dest
      srcnode := f.router.base.nodeid
      visit := 0
      payload := data
      src := none }

end Forwarder

/-! ## Between two routers -/

/-- The high four bytes of a DECnet Ethernet address. -/
def HIORD : List UInt8 := [0xaa, 0x00, 0x04, 0x00]

/-- `ShortData`: six bits for the visit count. -/
def encodeShort (packet : DataPacket) : Option (List UInt8) :=
  if packet.visit.toNat ≥ 64 then none
  else some (putUint (2 + 8 * packet.rqr.toNat + 16 * packet.rts.toNat) 1 ++
    (putUint packet.dstnode.value 2 ++ (putUint packet.srcnode.value 2 ++
      (putUint packet.visit.toNat 1 ++ packet.payload))))

/-- `LongData`: a byte for the visit count. -/
def encodeLong (packet : DataPacket) : List UInt8 :=
  putUint (6 + 8 * packet.rqr.toNat + 16 * packet.rts.toNat + 32 * packet.ie.toNat) 1 ++
    ([0, 0] ++ (HIORD ++ (putUint packet.dstnode.value 2 ++ ([0, 0] ++
      (HIORD ++ (putUint packet.srcnode.value 2 ++ ([0] ++
        (putUint packet.visit.toNat 1 ++ ([0, 0] ++ packet.payload)))))))))

def getNodeid : Reader Nodeid := do
  let word ← uint 2
  pure ⟨word % 65536, Nat.mod_lt _ (by decide)⟩

/-- The index takes a first byte with these bits for the class. -/
def getFlags (key : Nat) : Reader Nat := do
  let flags ← uint 1
  if flags &&& 0xc7 = key then pure flags else failure

def getShort : Reader DataPacket := do
  let flags ← getFlags 2
  let dstnode ← getNodeid
  let srcnode ← getNodeid
  let visit ← uint 1
  let payload ← remaining
  pure
    { rqr := flags.testBit 3
      rts := flags.testBit 4
      ie := false
      dstnode := dstnode
      srcnode := srcnode
      visit := UInt8.ofNat (visit % 64)
      payload := payload
      src := none }

/-- The circuits copy the long header into a short one, without `ie`. -/
def getLong : Reader DataPacket := do
  let flags ← getFlags 6
  let _ ← raw 2
  let _ ← raw 4
  let dstnode ← getNodeid
  let _ ← raw 2
  let _ ← raw 4
  let srcnode ← getNodeid
  let _ ← raw 1
  let visit ← uint 1
  let _ ← raw 2
  let payload ← remaining
  pure
    { rqr := flags.testBit 3
      rts := flags.testBit 4
      ie := false
      dstnode := dstnode
      srcnode := srcnode
      visit := UInt8.ofNat visit
      payload := payload
      src := none }

/-- The kind of circuit: point to point with the short header, a LAN with the
long one. -/
inductive Medium where
  | short | long
  deriving DecidableEq

def Medium.carry (medium : Medium) (circuit : Nat) (packet : DataPacket) : Option DataPacket :=
  match medium with
  | .short => do
      let bytes ← encodeShort packet
      let (received, _) ← getShort bytes
      pure { received with src := some circuit }
  | .long => do
      let (received, _) ← getLong (encodeLong packet)
      pure { received with src := some circuit }

/-! ## The headers round trip -/

theorem reads_nodeid (id : Nodeid) (rest : List UInt8) :
    Reads getNodeid (putUint id.value 2) rest id := by
  apply (reads_uint id.fits rest).last
  have same : (⟨id.value % 65536, Nat.mod_lt _ (by decide)⟩ : Nodeid) = id :=
    Nodeid.value_injective (Nat.mod_eq_of_lt id.fits)
  exact (congrArg (fun id => some (id, rest)) same : _)

theorem reads_flags {flags key : Nat} (small : flags < 256)
    (isKey : flags &&& 0xc7 = key) (rest : List UInt8) :
    Reads (getFlags key) (putUint flags 1) rest flags := by
  have fits : flags < 256 ^ 1 := small
  apply (reads_uint fits rest).last
  rw [if_pos isKey]
  exact reads_pure flags rest

theorem reads_skip (bytes rest : List UInt8) {count : Nat}
    (length : bytes.length = count) : Reads (raw count) bytes rest bytes := by
  subst length
  exact reads_raw bytes rest

theorem visit_fits (packet : DataPacket) : packet.visit.toNat < 256 ^ 1 :=
  packet.visit.toNat_lt

variable {packet : DataPacket}

/-- What was encoded in the short header is read back, but for `ie`. -/
theorem getShort_encodeShort {bytes : List UInt8} (encoded : encodeShort packet = some bytes) :
    Reads getShort bytes [] { packet with ie := false, src := none } := by
  unfold encodeShort at encoded
  split at encoded
  · cases encoded
  case isFalse small =>
    cases encoded
    have flags : 2 + 8 * packet.rqr.toNat + 16 * packet.rts.toNat < 256 ∧
        (2 + 8 * packet.rqr.toNat + 16 * packet.rts.toNat) &&& 0xc7 = 2 ∧
        (2 + 8 * packet.rqr.toNat + 16 * packet.rts.toNat).testBit 3 = packet.rqr ∧
        (2 + 8 * packet.rqr.toNat + 16 * packet.rts.toNat).testBit 4 = packet.rts := by
      cases packet.rqr <;> cases packet.rts <;> decide
    obtain ⟨byte, key, rqr, rts⟩ := flags
    apply (reads_flags byte key _).bind
    apply (reads_nodeid packet.dstnode _).bind
    apply (reads_nodeid packet.srcnode _).bind
    apply (reads_uint (visit_fits packet) _).bind
    apply (reads_remaining packet.payload).last
    rw [rqr, rts, Nat.mod_eq_of_lt (Nat.not_le.mp small), UInt8.ofNat_toNat]
    exact reads_pure _ _

theorem getLong_encodeLong (packet : DataPacket) :
    Reads getLong (encodeLong packet) [] { packet with ie := false, src := none } := by
  have flags : 6 + 8 * packet.rqr.toNat + 16 * packet.rts.toNat + 32 * packet.ie.toNat < 256 ∧
      (6 + 8 * packet.rqr.toNat + 16 * packet.rts.toNat + 32 * packet.ie.toNat) &&& 0xc7 = 6 ∧
      (6 + 8 * packet.rqr.toNat + 16 * packet.rts.toNat +
        32 * packet.ie.toNat).testBit 3 = packet.rqr ∧
      (6 + 8 * packet.rqr.toNat + 16 * packet.rts.toNat +
        32 * packet.ie.toNat).testBit 4 = packet.rts := by
    cases packet.rqr <;> cases packet.rts <;> cases packet.ie <;> decide
  obtain ⟨byte, key, rqr, rts⟩ := flags
  apply (reads_flags byte key _).bind
  apply (reads_skip [0, 0] _ rfl).bind
  apply (reads_skip HIORD _ rfl).bind
  apply (reads_nodeid packet.dstnode _).bind
  apply (reads_skip [0, 0] _ rfl).bind
  apply (reads_skip HIORD _ rfl).bind
  apply (reads_nodeid packet.srcnode _).bind
  apply (reads_skip [0] _ rfl).bind
  apply (reads_uint (visit_fits packet) _).bind
  apply (reads_skip [0, 0] _ rfl).bind
  apply (reads_remaining packet.payload).last
  rw [rqr, rts, UInt8.ofNat_toNat]
  exact reads_pure _ _

theorem Medium.carry_visit {medium : Medium} {circuit : Nat} {next : DataPacket}
    (carried : medium.carry circuit packet = some next) : next.visit = packet.visit := by
  cases medium with
  | short =>
    unfold Medium.carry at carried
    cases encoded : encodeShort packet with
    | none =>
      rw [encoded] at carried
      cases carried
    | some bytes =>
      have read := getShort_encodeShort encoded
      unfold Reads at read
      rw [List.append_nil] at read
      rw [encoded] at carried
      dsimp only [Option.bind_eq_bind, Option.bind_some] at carried
      rw [read] at carried
      cases carried
      rfl
  | long =>
    have read := getLong_encodeLong packet
    unfold Reads at read
    rw [List.append_nil] at read
    unfold Medium.carry at carried
    rw [read] at carried
    cases carried
    rfl

/-! ## Visits -/

namespace Forwarder

variable {f : Forwarder} {packet out : DataPacket} {n : Neighbour}

theorem attempt_sent (sent : f.attempt packet = .ok (.sent n out)) :
    packet.visit.toNat < f.limit packet ∧ out = { packet with visit := packet.visit + 1 } := by
  unfold attempt at sent
  split at sent
  · cases sent
  · cases sent
  · cases sent
  · split at sent
    case isTrue allowed =>
      cases sent
      exact ⟨allowed, rfl⟩
    case isFalse => cases sent

/-- A packet that is handed on, turned round or not, was below the limit and
has been counted once. -/
theorem forward_sent (sent : f.forward packet = .sent n out) :
    ∃ same : DataPacket, same.visit = packet.visit ∧
      same.visit.toNat < f.limit same ∧ out.visit = packet.visit + 1 := by
  unfold forward at sent
  cases tried : f.attempt packet with
  | ok fate =>
    rw [tried] at sent
    obtain rfl : fate = .sent n out := sent
    obtain ⟨allowed, rfl⟩ := attempt_sent tried
    exact ⟨packet, rfl, allowed, rfl⟩
  | error loss =>
    rw [tried] at sent
    dsimp only at sent
    split at sent
    · cases again : f.attempt (turnedRound packet) with
      | ok fate =>
        rw [again] at sent
        obtain rfl : fate = .sent n out := sent
        obtain ⟨allowed, rfl⟩ := attempt_sent again
        exact ⟨turnedRound packet, rfl, allowed, rfl⟩
      | error loss =>
        rw [again] at sent
        cases sent
    · cases sent

theorem forward_visit (small : f.maxvisits ≤ VISIT_LIMIT_MAX)
    (sent : f.forward packet = .sent n out) :
    out.visit.toNat = packet.visit.toNat + 1 ∧ out.visit.toNat ≤ VISIT_LIMIT_MAX := by
  obtain ⟨same, visit, below, counted⟩ := forward_sent sent
  have bound : f.limit same ≤ 63 := by
    unfold limit
    split
    · exact Nat.min_le_right _ _
    · exact small
  rw [visit] at below
  have increased : (packet.visit + 1).toNat = packet.visit.toNat + 1 := by
    exact Nat.mod_eq_of_lt (by
      change packet.visit.toNat + 1 < 256
      omega)
  have after : packet.visit.toNat + 1 ≤ 63 := by omega
  rw [counted, increased]
  exact ⟨rfl, after⟩

end Forwarder

/-- The packet is forwarded `count` times, by routers with these limits and
any tables, over circuits of either kind. -/
inductive Travels {ι : Type*} (maxvisits : ι → Nat) : DataPacket → Nat → Prop where
  | arrived (packet : DataPacket) : Travels maxvisits packet 0
  | last {packet out : DataPacket} {n : Neighbour} (i : ι) (router : Router)
      (sent : Forwarder.forward ⟨router, maxvisits i⟩ packet = .sent n out) :
      Travels maxvisits packet 1
  | hop {packet out next : DataPacket} {n : Neighbour} {medium : Medium}
      {circuit count : Nat} (i : ι) (router : Router)
      (sent : Forwarder.forward ⟨router, maxvisits i⟩ packet = .sent n out)
      (carried : medium.carry circuit out = some next) (onward : Travels maxvisits next count) :
      Travels maxvisits packet (count + 1)

theorem Travels.visits {ι : Type*} {maxvisits : ι → Nat}
    (small : ∀ i, maxvisits i ≤ VISIT_LIMIT_MAX)
    {count : Nat} (travels : Travels maxvisits packet count) :
    count = 0 ∨ packet.visit.toNat + count ≤ VISIT_LIMIT_MAX := by
  induction travels with
  | arrived packet => exact .inl rfl
  | last i router sent =>
    obtain ⟨counted, bound⟩ := Forwarder.forward_visit (small i) sent
    exact .inr (counted ▸ bound)
  | hop i router sent carried onward ih =>
    obtain ⟨counted, bound⟩ := Forwarder.forward_visit (small i) sent
    rw [Medium.carry_visit carried] at ih
    rcases ih with rfl | rest <;> omega

/-- Every packet that is handed on has been counted, fits the short header and
encodes, and no packet is forwarded more than 63 times. -/
structure VisitsBounded {ι : Type*} (maxvisits : ι → Nat) : Prop where
  handed : ∀ i router packet n out, Forwarder.forward ⟨router, maxvisits i⟩ packet = .sent n out →
      out.visit.toNat ≤ VISIT_LIMIT_MAX ∧ out.visit.toNat = packet.visit.toNat + 1 ∧
        ∃ bytes, encodeShort out = some bytes
  total : ∀ packet count, Travels maxvisits packet count → count ≤ VISIT_LIMIT_MAX

def onlyNeighbour : Neighbour :=
  ⟨100, .make 1 2, .endnode, Circuit.new 0 false 4⟩

def oneNeighbour : Router :=
  ((Layer.start false Layer.exampleConfig 7).run [.up onlyNeighbour]).router

def oldPacket : DataPacket where
  rqr := false
  rts := false
  ie := false
  dstnode := .make 1 2
  srcnode := .make 1 3
  visit := 63
  payload := []
  src := some 1

theorem forward_oldPacket {maxvisits : Nat} (large : 63 < maxvisits) :
    Forwarder.forward ⟨oneNeighbour, maxvisits⟩ oldPacket =
      .sent onlyNeighbour { oldPacket with visit := 64 } := by
  have tried : Forwarder.attempt ⟨oneNeighbour, maxvisits⟩ oldPacket =
      .ok (.sent onlyNeighbour { oldPacket with visit := 64 }) := by
    exact if_pos large
  unfold Forwarder.forward
  rw [tried]

/-- The visit limit holds in a network exactly when no router is configured
with more visits than the six bits hold. -/
theorem visitsBounded_iff {ι : Type*} (maxvisits : ι → Nat) :
    VisitsBounded maxvisits ↔ ∀ i, maxvisits i ≤ VISIT_LIMIT_MAX := by
  constructor
  · intro bounded i
    by_contra large
    obtain ⟨limited, _⟩ := bounded.handed i _ _ _ _ (forward_oldPacket (Nat.not_le.mp large))
    exact absurd limited (by decide)
  · intro small
    constructor
    case handed =>
      intro i router packet n out sent
      obtain ⟨counted, bound⟩ := Forwarder.forward_visit (small i) sent
      have fits : ¬ out.visit.toNat ≥ 64 := Nat.not_le.mpr (Nat.lt_succ_of_le bound)
      refine ⟨bound, counted, ?_⟩
      unfold encodeShort
      rw [if_neg fits]
      exact ⟨_, rfl⟩
    case total =>
      intro packet count travels
      rcases travels.visits small with rfl | visits <;> omega

/-- With `maxvisits` 64 a router hands on a packet that does not fit the short
header. -/
theorem visit_exceeds_field :
    Forwarder.forward ⟨oneNeighbour, 64⟩ oldPacket =
        .sent onlyNeighbour { oldPacket with visit := 64 } ∧
      encodeShort { oldPacket with visit := 64 } = none :=
  ⟨forward_oldPacket (by decide), by decide⟩

end Decnet.Routing
