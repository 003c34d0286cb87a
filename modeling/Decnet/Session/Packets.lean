import Decnet.Nsp.Packets

/-!
# The session control connect message

The end user descriptors and the connect message of `session/packets.h`, with
their encoding and decoding.  A decoder takes bytes off the front and fails
where the code throws; encoding fails where the code throws.
-/

namespace Decnet.Session

def noObj : Nat := 4
def badFmt : Nat := 5
def objFail : Nat := 38

inductive Format where
  | byNumber | byName | byUic
  deriving DecidableEq, Repr

/-- A source or destination: an object number, a name, or a name with a group
and a user number. -/
structure EndUser where
  fmt : Format
  num : UInt8
  name : Bytes
  (group user : Nat)
  deriving DecidableEq, Repr

def EndUser.valid (user : EndUser) : Bool :=
  match user.fmt with
  | .byNumber => user.num ≠ 0
  | .byName => !user.name.isEmpty ∧ user.name.length ≤ 16
  | .byUic => !user.name.isEmpty ∧ user.name.length ≤ 16

def getByte : Bytes → Option (UInt8 × Bytes)
  | [] => none
  | byte :: rest => some (byte, rest)

def getWord : Bytes → Option (Nat × Bytes)
  | low :: high :: rest => some (low.toNat + 256 * high.toNat, rest)
  | _ => none

def getRaw (count : Nat) (bytes : Bytes) : Option (Bytes × Bytes) :=
  if bytes.length < count then none else some (bytes.take count, bytes.drop count)

/-- A length byte and that many bytes, at most `limit`. -/
def getString (limit : Nat) (bytes : Bytes) : Option (Bytes × Bytes) := do
  let (count, rest) ← getByte bytes
  if count.toNat > limit then none else getRaw count.toNat rest

def getFormat (bytes : Bytes) : Option (Format × Bytes) := do
  let (code, rest) ← getByte bytes
  if code = 0 then
    some (.byNumber, rest)
  else if code = 1 then
    some (.byName, rest)
  else if code = 2 then
    some (.byUic, rest)
  else
    none

def getEndUser (bytes : Bytes) : Option (EndUser × Bytes) := do
  let (fmt, rest) ← getFormat bytes
  let (num, rest) ← getByte rest
  let (group, rest) ← if fmt = .byUic then getWord rest else some (0, rest)
  let (user, rest) ← if fmt = .byUic then getWord rest else some (0, rest)
  let (name, rest) ←
    if fmt = .byNumber then some ([], rest) else getString 16 rest
  let result : EndUser := ⟨fmt, num, name, group, user⟩
  if result.valid then some (result, rest) else none

structure ConnectData where
  (dstname srcname : EndUser)
  (proxy proxyUic reserved : Bool)
  scver : Nat
  mbz2 : Bool
  (rqstrid passwrd account connectdata : Bytes)
  deriving DecidableEq, Repr

def flag (byte : UInt8) (bit : Nat) : Bool :=
  byte.toNat.testBit bit

/-- The fields that the flags say are there. -/
def getOptional (auth userdata : Bool) (payload : Bytes) :
    Option (Bytes × Bytes × Bytes × Bytes) := do
  let (rqstrid, rest) ← if auth then getString 39 payload else some ([], payload)
  let (passwrd, rest) ← if auth then getString 39 rest else some ([], rest)
  let (account, rest) ← if auth then getString 39 rest else some ([], rest)
  let (connectdata, _) ← if userdata then getString 16 rest else some ([], rest)
  some (rqstrid, passwrd, account, connectdata)

/-- Bytes left over are not an error. -/
def parseMessage (bytes : Bytes) : Option ConnectData := do
  let (dstname, rest) ← getEndUser bytes
  let (srcname, rest) ← getEndUser rest
  let (flags, payload) ← getByte rest
  let (rqstrid, passwrd, account, connectdata) ← getOptional (flag flags 0) (flag flags 1) payload
  some
    { dstname := dstname
      srcname := srcname
      proxy := flag flags 2
      proxyUic := flag flags 3
      reserved := flag flags 4
      scver := flags.toNat / 32 % 4
      mbz2 := flag flags 7
      rqstrid := rqstrid
      passwrd := passwrd
      account := account
      connectdata := connectdata }

def putString (limit : Nat) (bytes : Bytes) : Option Bytes :=
  if bytes.length > limit then none else some (UInt8.ofNat bytes.length :: bytes)

def putWord (word : Nat) : Bytes :=
  [UInt8.ofNat (word % 256), UInt8.ofNat (word / 256 % 256)]

def putEndUser (user : EndUser) : Option Bytes :=
  match user.fmt with
  | .byNumber => some [0, user.num]
  | .byName => do
      let name ← putString 16 user.name
      some (1 :: user.num :: name)
  | .byUic => do
      let name ← putString 16 user.name
      some (2 :: user.num :: (putWord user.group ++ putWord user.user ++ name))

def bit (set : Bool) (position : Nat) : Nat :=
  if set then 2 ^ position else 0

/-- The flags follow from the fields that are present.  The version is a two
bit field: a larger value throws. -/
def encodeMessage (message : ConnectData) : Option Bytes := do
  let auth := !(message.rqstrid.isEmpty && message.passwrd.isEmpty && message.account.isEmpty)
  let rqstrid ← if auth then putString 39 message.rqstrid else some []
  let passwrd ← if auth then putString 39 message.passwrd else some []
  let account ← if auth then putString 39 message.account else some []
  let userdata := !message.connectdata.isEmpty
  let connectdata ←
    if userdata then putString 16 message.connectdata else some []
  let dstname ← putEndUser message.dstname
  let srcname ← putEndUser message.srcname
  if message.scver > 3 then
    none
  else
    let flags := bit auth 0 + bit userdata 1 + bit message.proxy 2 +
      bit message.proxyUic 3 + bit message.reserved 4 + 32 * message.scver + bit message.mbz2 7
    some (dstname ++ srcname ++ UInt8.ofNat flags :: (rqstrid ++ passwrd ++ account ++ connectdata))

end Decnet.Session
