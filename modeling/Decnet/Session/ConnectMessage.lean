import Decnet.Session.Packets

/-!
# Connect messages read back

What `parse_message` makes of what `encode_message` writes, and of anything
else that it accepts.
-/

namespace Decnet.Session

open List

/-- A valid end user, with the defaults for what its format does not carry. -/
structure EndUser.Fits (u : EndUser) : Prop where
  valid : u.valid
  name : u.fmt = .byNumber → u.name = []
  words : if u.fmt = .byUic then u.group < 65536 ∧ u.user < 65536 else u.group = 0 ∧ u.user = 0

structure ConnectData.Fits (m : ConnectData) : Prop where
  dstname : m.dstname.Fits
  srcname : m.srcname.Fits
  scver : m.scver < 4
  access : m.rqstrid.length ≤ 39 ∧ m.passwrd.length ≤ 39 ∧ m.account.length ≤ 39
  connectdata : m.connectdata.length ≤ 16

def ConnectData.auth (m : ConnectData) : Bool :=
  !(m.rqstrid.isEmpty && m.passwrd.isEmpty && m.account.isEmpty)

def ConnectData.userdata (m : ConnectData) : Bool := !m.connectdata.isEmpty

/-- The flags `auth` and `userdata` of a message. -/
def optionalFlags (bytes : Bytes) : Option (Bool × Bool) := do
  let (_, rest) ← getEndUser bytes
  let (_, rest) ← getEndUser rest
  let (flags, _) ← getByte rest
  some (flag flags 0, flag flags 1)

theorem getWord_putWord {word : Nat} (fits : word < 65536) (rest : Bytes) :
    getWord (putWord word ++ rest) = some (word, rest) := by
  simp [putWord, getWord]
  omega

theorem getWord_lt {bytes rest : Bytes} {word : Nat} (read : getWord bytes = some (word, rest)) :
    word < 65536 := by
  match bytes with
  | low :: high :: _ =>
    cases read
    have := low.toNat_lt
    have := high.toNat_lt
    omega

theorem putString_eq {limit : Nat} {bytes : Bytes} (short : bytes.length ≤ limit) :
    putString limit bytes = some (UInt8.ofNat bytes.length :: bytes) :=
  if_neg (Nat.not_lt.2 short)

theorem getString_cons {limit : Nat} {bytes : Bytes} (short : bytes.length ≤ limit)
    (small : limit < 256) (rest : Bytes) :
    getString limit (UInt8.ofNat bytes.length :: (bytes ++ rest)) = some (bytes, rest) := by
  have count : bytes.length % 256 = bytes.length := Nat.mod_eq_of_lt (by omega)
  simp [getString, getByte, getRaw, count, short]

theorem getString_length {limit : Nat} {bytes found rest : Bytes}
    (read : getString limit bytes = some (found, rest)) : found.length ≤ limit := by
  simp only [getString, getRaw, Option.bind_eq_bind, Option.bind_eq_some_iff] at read
  obtain ⟨⟨count, _⟩, _, read⟩ := read
  split_ifs at read with long
  cases read
  exact Nat.le_trans (length_take_le ..) (Nat.le_of_not_lt long)

theorem putEndUser_of_fits {u : EndUser} (fits : u.Fits) :
    ∃ bytes, putEndUser u = some bytes ∧ ∀ rest, getEndUser (bytes ++ rest) = some (u, rest) := by
  obtain ⟨fmt, num, name, group, user⟩ := u
  obtain ⟨valid, noName, words⟩ := fits
  have short (named : fmt ≠ .byNumber) : name.length ≤ 16 := by
    cases fmt <;> simp_all [EndUser.valid]
  cases fmt with
  | byNumber =>
    cases noName rfl
    obtain ⟨rfl, rfl⟩ := words
    exact ⟨_, rfl, fun rest => by simp [getEndUser, getFormat, getByte, valid]⟩
  | byName =>
    obtain ⟨rfl, rfl⟩ := words
    refine ⟨_, by rw [putEndUser, putString_eq (short nofun)]; rfl, fun rest => ?_⟩
    simp [getEndUser, getFormat, getByte, getString_cons (short nofun), valid]
  | byUic =>
    refine ⟨_, by rw [putEndUser, putString_eq (short nofun)]; rfl, fun rest => ?_⟩
    simp [getEndUser, getFormat, getByte, getWord_putWord words.1, getWord_putWord words.2,
      getString_cons (short nofun), valid]

theorem fits_of_getEndUser {bytes rest : Bytes} {u : EndUser}
    (read : getEndUser bytes = some (u, rest)) : u.Fits := by
  simp only [getEndUser, Option.bind_eq_bind, Option.bind_eq_some_iff] at read
  obtain ⟨⟨fmt, _⟩, _, ⟨num, _⟩, _, read⟩ := read
  cases fmt <;> simp [Option.bind_eq_some_iff] at read
  case byNumber =>
    obtain ⟨valid, rfl, rfl⟩ := read
    exact ⟨valid, fun _ => rfl, rfl, rfl⟩
  case byName =>
    obtain ⟨_, _, valid, rfl⟩ := read
    exact ⟨valid, nofun, rfl, rfl⟩
  case byUic =>
    obtain ⟨_, _, group, _, _, user, _, _, valid, rfl⟩ := read
    exact ⟨valid, nofun, getWord_lt group, getWord_lt user⟩

theorem getOptional_length {auth userdata : Bool} {payload rqstrid passwrd account data : Bytes}
    (read : getOptional auth userdata payload = some (rqstrid, passwrd, account, data)) :
    (rqstrid.length ≤ 39 ∧ passwrd.length ≤ 39 ∧ account.length ≤ 39) ∧ data.length ≤ 16 := by
  cases auth <;> cases userdata <;> simp [getOptional, Option.bind_eq_some_iff] at read <;>
    grind [→ getString_length]

theorem flag_of_bits (auth userdata proxy proxyUic reserved mbz2 : Bool) {scver : Nat}
    (two : scver < 4) :
    let flags := UInt8.ofNat (bit auth 0 + bit userdata 1 + bit proxy 2 + bit proxyUic 3 +
      bit reserved 4 + 32 * scver + bit mbz2 7)
    flag flags 0 = auth ∧ flag flags 1 = userdata ∧ flag flags 2 = proxy ∧
      flag flags 3 = proxyUic ∧ flag flags 4 = reserved ∧ flags.toNat / 32 % 4 = scver ∧
      flag flags 7 = mbz2 := by
  revert scver auth userdata proxy proxyUic reserved mbz2
  decide

theorem parseMessage_encodeMessage {m : ConnectData} (fits : m.Fits) :
    ∃ bytes, encodeMessage m = some bytes ∧ parseMessage bytes = some m ∧
      optionalFlags bytes = some (m.auth, m.userdata) := by
  obtain ⟨dst, putDst, getDst⟩ := putEndUser_of_fits fits.dstname
  obtain ⟨src, putSrc, getSrc⟩ := putEndUser_of_fits fits.srcname
  obtain ⟨rqstrid, passwrd, account⟩ := fits.access
  have data := fits.connectdata
  have flags := flag_of_bits m.auth m.userdata m.proxy m.proxyUic m.reserved m.mbz2 fits.scver
  have version := Nat.not_lt.2 (Nat.le_of_lt_succ fits.scver)
  have noAuth : m.auth = false → m.rqstrid = [] ∧ m.passwrd = [] ∧ m.account = [] := by
    simp +contextual [ConnectData.auth]
  have noData : m.userdata = false → m.connectdata = [] := by
    simp +contextual [ConnectData.userdata]
  have last {limit : Nat} {part : Bytes} (short : part.length ≤ limit) (small : limit < 256) :
      getString limit (UInt8.ofNat part.length :: part) = some (part, []) := by
    simpa using getString_cons short small []
  simp only [encodeMessage]
  rw [show (!(m.rqstrid.isEmpty && m.passwrd.isEmpty && m.account.isEmpty)) = m.auth from rfl,
    show (!m.connectdata.isEmpty) = m.userdata from rfl]
  dsimp only at flags
  -- From here on only what the flags say counts, so the four layouts can be told apart.
  generalize UInt8.ofNat _ = byte at *
  obtain ⟨auth, userdata, proxy, proxyUic, reserved, scver, mbz2⟩ := flags
  obtain ⟨⟩ := m
  dsimp only at *
  generalize ConnectData.auth _ = hasAuth at *
  generalize ConnectData.userdata _ = hasData at *
  cases hasAuth <;> cases hasData <;>
    simp [putString_eq, parseMessage, optionalFlags, getByte, getOptional, getString_cons, *]

theorem fits_of_parseMessage {bytes : Bytes} {m : ConnectData}
    (parsed : parseMessage bytes = some m) : m.Fits := by
  simp only [parseMessage, Option.bind_eq_bind, Option.bind_eq_some_iff] at parsed
  obtain ⟨_, dst, _, src, _, _, _, optional, same⟩ := parsed
  cases same
  obtain ⟨access, data⟩ := getOptional_length optional
  exact ⟨fits_of_getEndUser dst, fits_of_getEndUser src, Nat.mod_lt _ (by decide), access, data⟩

/-- What is encoded is read back, with the flags of the parts that are there, and
what is accepted is within the limits. -/
theorem connect_message_round_trip :
    (∀ m : ConnectData, m.Fits → ∃ bytes, encodeMessage m = some bytes ∧
      parseMessage bytes = some m ∧ optionalFlags bytes = some (m.auth, m.userdata)) ∧
      ∀ bytes m, parseMessage bytes = some m → m.Fits :=
  ⟨fun _ => parseMessage_encodeMessage, fun _ _ => fits_of_parseMessage⟩

end Decnet.Session
