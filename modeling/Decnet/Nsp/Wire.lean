import Decnet.Lib.Reading
import Decnet.Nsp.World

/-!
# NSP packets on the wire

`NspPacketBase::parse_frame` picks the packet class by the first byte and reads
the fields of its layout; a packet that no class claims, that is too short or
too long, or that has a field out of range is ill formed.  Encoding is the
other direction, and what was encoded is read back as it was, but for one thing:
where a packet has only the second of its two acknowledgements, that is read as
the first.
-/

namespace Decnet.Nsp

open Reading

/-! ## Fields -/

/-- `AckNumField`: there only if the top bit of the next word is set.  A
reserved qualifier is skipped. -/
def getAckNum : Reader (Option AckNum) := fun buffer =>
  match uint 2 buffer with
  | none => some (none, buffer)
  | some (word, rest) =>
    if word < 0x8000 then
      some (none, buffer)
    else
      match word / 0x1000 % 8 with
      | 0 => some (some ⟨Mod.wrap word, .ackq⟩, rest)
      | 1 => some (some ⟨Mod.wrap word, .nak⟩, rest)
      | 2 => some (some ⟨Mod.wrap word, .xack⟩, rest)
      | 3 => some (some ⟨Mod.wrap word, .xnak⟩, rest)
      | _ => some (none, rest)

/-- The flags byte and the header most packets begin with. -/
def getAckHdr : Reader (Nat × AckHdr) := do
  let msgflag ← uint 1
  let dstaddr ← uint 2
  let srcaddr ← uint 2
  let acknum ← getAckNum
  let acknum2 ← getAckNum
  pure (msgflag, ⟨dstaddr, srcaddr, acknum, acknum2⟩)

/-- `SIGNED<1>`. -/
def getSigned : Reader Int := do
  let byte ← uint 1
  pure (if byte < 128 then (byte : Int) else (byte : Int) - 256)

/-- `EX<1>`: a second byte would be too long. -/
def getExtensible : Reader Nat := do
  let byte ← uint 1
  if byte < 128 then pure byte else failure

/-- `I<16>`. -/
def getImage : Reader Bytes := do
  let count ← uint 1
  if count > maxImage then failure else raw count

/-- What connect initiate and connect confirm share. -/
structure ConnHdr where
  (dstaddr srcaddr fcopt info segsize : Nat)

def getConnHdr : Reader ConnHdr := do
  let _ ← uint 1
  let dstaddr ← uint 2
  let srcaddr ← uint 2
  let services ← uint 1
  let info ← getExtensible
  let segsize ← uint 2
  pure ⟨dstaddr, srcaddr, services / 4 % 4, info, segsize⟩

/-! ## Packet classes -/

inductive PacketClass where
  | ackData | ackOther | ackConn | dataSeg | intMsg | linkSvc | connInit | connConf | discConf
  | discInit
  deriving DecidableEq, Repr

/-- The index that `register_nsp_packets` fills.  The begin and end marks of a
data segment are outside of its mask. -/
def packetClass (key : Nat) : Option PacketClass :=
  if key ≥ 128 then
    none
  else if key &&& 0x9f = 0 then
    some .dataSeg
  else
    match key with
    | 0x04 => some .ackData
    | 0x14 => some .ackOther
    | 0x24 => some .ackConn
    | 0x30 => some .intMsg
    | 0x10 => some .linkSvc
    | 0x18 => some .connInit
    | 0x68 => some .connInit
    | 0x28 => some .connConf
    | 0x48 => some .discConf
    | 0x38 => some .discInit
    | _ => none

def getDataSeg : Reader Packet := do
  let (msgflag, header) ← getAckHdr
  let word ← uint 2
  let payload ← remaining
  pure (.dataSeg
    { header with
      segnum := Mod.wrap (word % 0x1000)
      dly := word.testBit 12
      bom := msgflag.testBit 5
      eom := msgflag.testBit 6
      payload := payload })

def getIntMsg : Reader Packet := do
  let (_, header) ← getAckHdr
  let word ← uint 2
  let payload ← remaining
  pure (.intMsg { header with segnum := Mod.wrap word, payload := payload })

def getLinkSvc : Reader Packet := do
  let (_, header) ← getAckHdr
  let word ← uint 2
  let flags ← uint 1
  let fcval ← getSigned
  finish
  pure (.linkSvc
    { header with
      segnum := Mod.wrap word
      fcmod := flags % 4
      fcvalInt := flags / 4 % 4
      fcval := fcval })

def getConnInit : Reader Packet := do
  let header ← getConnHdr
  let payload ← remaining
  pure (.connInit
    { dstaddr := header.dstaddr
      srcaddr := header.srcaddr
      fcopt := header.fcopt
      info := header.info
      segsize := header.segsize
      payload := payload })

def getConnConf : Reader Packet := do
  let header ← getConnHdr
  let dataCtl ← getImage
  finish
  pure (.connConf
    { dstaddr := header.dstaddr
      srcaddr := header.srcaddr
      fcopt := header.fcopt
      info := header.info
      segsize := header.segsize
      dataCtl := dataCtl })

/-- The layout of a class, and whether bytes may be left over. -/
def getPacket : PacketClass → Reader Packet
  | .ackData => do
      let (_, header) ← getAckHdr
      finish
      pure (.ackData header)
  | .ackOther => do
      let (_, header) ← getAckHdr
      finish
      pure (.ackOther header)
  | .ackConn => do
      let _ ← uint 1
      let dstaddr ← uint 2
      let _ ← remaining
      pure (.ackConn dstaddr)
  | .dataSeg => getDataSeg
  | .intMsg => getIntMsg
  | .linkSvc => getLinkSvc
  | .connInit => getConnInit
  | .connConf => getConnConf
  | .discConf => do
      let _ ← uint 1
      let dstaddr ← uint 2
      let srcaddr ← uint 2
      let reason ← uint 2
      finish
      pure (.discConf ⟨dstaddr, srcaddr, reason⟩)
  | .discInit => do
      let _ ← uint 1
      let dstaddr ← uint 2
      let srcaddr ← uint 2
      let reason ← uint 2
      let dataCtl ← getImage
      finish
      pure (.discInit ⟨dstaddr, srcaddr, reason, dataCtl⟩)

def parseFrame (buffer : Bytes) : Option Packet := do
  let key ← buffer.head?
  let kind ← packetClass key.toNat
  let (packet, _) ← getPacket kind buffer
  some packet

/-- The index holds what `register_nsp_packets` puts there: a class with a key,
and the bits of it that are compared. -/
def registrations : List (PacketClass × Nat × Nat) :=
  [(.ackData, 0x04, 0xff), (.ackOther, 0x14, 0xff), (.ackConn, 0x24, 0xff),
    (.dataSeg, 0x00, 0x9f), (.intMsg, 0x30, 0xff), (.linkSvc, 0x10, 0xff),
    (.connInit, 0x18, 0xff), (.connInit, 0x68, 0xff),
    (.connConf, 0x28, 0xff), (.discConf, 0x48, 0xff), (.discInit, 0x38, 0xff)]

theorem packetClass_of_registered : ∀ entry ∈ registrations,
    ∀ key < 128, key &&& entry.2.2 = entry.2.1 → packetClass key = some entry.1 := by
  decide +kernel

/-! ## Members that no receiver reads -/

/-- The flags byte of a connect initiate that is sent again, the other bits of
the services byte, and what follows a connect acknowledgement. -/
structure Unread where
  retransmit : Bool := false
  mb1 : Nat := 1
  mbz : Nat := 0
  payload : Bytes := []
  deriving DecidableEq

def getConnUnread : Bytes → Unread
  | msgflag :: _ :: _ :: _ :: _ :: services :: _ =>
    { retransmit := msgflag.toNat = 0x68
      mb1 := services.toNat % 4
      mbz := services.toNat / 16 }
  | _ => {}

def getUnread : PacketClass → Bytes → Unread
  | .ackConn, buffer => { payload := buffer.drop 3 }
  | .connInit, buffer | .connConf, buffer => getConnUnread buffer
  | _, _ => {}

/-- `parse_frame` with all the members of the layout. -/
def parseWhole (buffer : Bytes) : Option (Packet × Unread) := do
  let packet ← parseFrame buffer
  let key ← buffer.head?
  let kind ← packetClass key.toNat
  some (packet, getUnread kind buffer)

def Qual.code : Qual → Nat
  | .ackq => 0
  | .nak => 1
  | .xack => 2
  | .xnak => 3

def putAckNum : Option AckNum → Bytes
  | none => []
  | some ack => putUint (0x8000 + ack.qual.code * 0x1000 + ack.num.value) 2

def putAckHdr (msgflag : Nat) (header : AckHdr) : Bytes :=
  putUint msgflag 1 ++ (putUint header.dstaddr 2 ++
    (putUint header.srcaddr 2 ++ (putAckNum header.acknum ++ putAckNum header.acknum2)))

def putImage (image : Bytes) : Option Bytes :=
  if image.length > maxImage then none else some (putUint image.length 1 ++ image)

/-- The bits of the services byte are limited and the version field is one
byte: a larger value throws. -/
def putConnHdr (msgflag : Nat) (unread : Unread) (header : ConnHdr) : Option Bytes :=
  if unread.mb1 ≥ 4 ∨ header.fcopt ≥ 4 ∨ unread.mbz ≥ 16 ∨ header.info ≥ 128 then
    none
  else
    some (putUint msgflag 1 ++ (putUint header.dstaddr 2 ++ (putUint header.srcaddr 2 ++
        (putUint (unread.mb1 + 4 * header.fcopt + 16 * unread.mbz) 1 ++
          (putUint header.info 1 ++ putUint header.segsize 2)))))

def putSigned (value : Int) : Option Bytes :=
  if value < -128 ∨ value ≥ 128 then none else some (putUint (value % 256).toNat 1)

def putDisc (msgflag dstaddr srcaddr reason : Nat) : Bytes :=
  putUint msgflag 1 ++ (putUint dstaddr 2 ++ (putUint srcaddr 2 ++ putUint reason 2))

def ConnInit.header (message : ConnInit) : ConnHdr :=
  ⟨message.dstaddr, message.srcaddr, message.fcopt, message.info, message.segsize⟩

def ConnConf.header (message : ConnConf) : ConnHdr :=
  ⟨message.dstaddr, message.srcaddr, message.fcopt, message.info, message.segsize⟩

/-- `encode_packet`. -/
def encodeFrame (packet : Packet) (unread : Unread) : Option Bytes :=
  match packet with
  | .ackData header => some (putAckHdr 0x04 header)
  | .ackOther header => some (putAckHdr 0x14 header)
  | .ackConn dstaddr =>
    some (putUint 0x24 1 ++ (putUint dstaddr 2 ++ unread.payload))
  | .dataSeg segment =>
    some (putAckHdr (segment.bom.toNat * 0x20 + segment.eom.toNat * 0x40) segment.toAckHdr ++
      (putUint (segment.segnum.value + segment.dly.toNat * 0x1000) 2 ++ segment.payload))
  | .intMsg message =>
    some (putAckHdr 0x30 message.toAckHdr ++ (putUint message.segnum.value 2 ++ message.payload))
  | .linkSvc message => do
      let fcval ← putSigned message.fcval
      if message.fcmod ≥ 4 ∨ message.fcvalInt ≥ 4 then
        none
      else
        some (putAckHdr 0x10 message.toAckHdr ++ (putUint message.segnum.value 2 ++
            (putUint (message.fcmod + 4 * message.fcvalInt) 1 ++ fcval)))
  | .connInit message => do
      let header ← putConnHdr (if unread.retransmit then 0x68 else 0x18) unread message.header
      some (header ++ message.payload)
  | .connConf message => do
      let header ← putConnHdr 0x28 unread message.header
      let dataCtl ← putImage message.dataCtl
      some (header ++ dataCtl)
  | .discConf message =>
    some (putDisc 0x48 message.dstaddr message.srcaddr message.reason)
  | .discInit message => do
      let dataCtl ← putImage message.dataCtl
      some (putDisc 0x38 message.dstaddr message.srcaddr message.reason ++ dataCtl)

/-! ## Round trip -/

/-- The members that are sixteen bits wide. -/
structure AckHdr.InRange (header : AckHdr) : Prop where
  dstaddr : header.dstaddr < 65536
  srcaddr : header.srcaddr < 65536

/-- A second acknowledgement has a first one before it. -/
def AckHdr.InOrder (header : AckHdr) : Prop :=
  header.acknum = none → header.acknum2 = none

/-- An acknowledgement that stands alone is read as the first. -/
def AckHdr.asRead (header : AckHdr) : AckHdr :=
  match header.acknum with
  | none => { header with acknum := header.acknum2, acknum2 := none }
  | some _ => header

theorem AckHdr.asRead_eq_iff (header : AckHdr) : header.asRead = header ↔ header.InOrder := by
  obtain ⟨dstaddr, srcaddr, first, second⟩ := header
  cases first with
  | none => cases second <;> simp [asRead, InOrder]
  | some ack => simp [asRead, InOrder]

structure ConnHdr.InRange (unread : Unread) (header : ConnHdr) : Prop where
  dstaddr : header.dstaddr < 65536
  srcaddr : header.srcaddr < 65536
  mb1 : unread.mb1 < 4
  fcopt : header.fcopt < 4
  mbz : unread.mbz < 16
  info : header.info < 128
  segsize : header.segsize < 65536

/-- Every member fits its field, and the members that a class does not have are
left as they are. -/
def Packet.InRange (unread : Unread) : Packet → Prop
  | .ackData header | .ackOther header => header.InRange ∧ unread = {}
  | .ackConn dstaddr =>
    dstaddr < 65536 ∧ unread = { payload := unread.payload }
  | .dataSeg segment => segment.toAckHdr.InRange ∧ unread = {}
  | .intMsg message => message.toAckHdr.InRange ∧ unread = {}
  | .linkSvc message => message.toAckHdr.InRange ∧ unread = {} ∧
      message.fcmod < 4 ∧ message.fcvalInt < 4 ∧ -128 ≤ message.fcval ∧ message.fcval < 128
  | .connInit message => message.header.InRange unread ∧ unread.payload = []
  | .connConf message => message.header.InRange unread ∧
      unread.payload = [] ∧ unread.retransmit = false ∧ message.dataCtl.length ≤ maxImage
  | .discConf message => message.dstaddr < 65536 ∧
      message.srcaddr < 65536 ∧ message.reason < 65536 ∧ unread = {}
  | .discInit message => message.dstaddr < 65536 ∧
      message.srcaddr < 65536 ∧ message.reason < 65536 ∧ unread = {} ∧
        message.dataCtl.length ≤ maxImage

def Packet.InOrder : Packet → Prop
  | .ackData header | .ackOther header => header.InOrder
  | .dataSeg segment => segment.InOrder
  | .intMsg message => message.InOrder
  | .linkSvc message => message.InOrder
  | _ => True

def Packet.asRead : Packet → Packet
  | .ackData header => .ackData header.asRead
  | .ackOther header => .ackOther header.asRead
  | .dataSeg segment => .dataSeg { segment with toAckHdr := segment.asRead }
  | .intMsg message => .intMsg { message with toAckHdr := message.asRead }
  | .linkSvc message => .linkSvc { message with toAckHdr := message.asRead }
  | packet => packet

theorem Packet.asRead_eq_iff (packet : Packet) : packet.asRead = packet ↔ packet.InOrder := by
  cases packet with
  | dataSeg message | intMsg message | linkSvc message =>
    cases message
    simp [asRead, InOrder, AckHdr.asRead_eq_iff]
  | _ => simp [asRead, InOrder, AckHdr.asRead_eq_iff]

def NoAck (rest : Bytes) : Prop :=
  ∀ word more, uint 2 rest = some (word, more) → word < 0x8000

theorem noAck_nil : NoAck [] := by
  intro word more found
  cases found

theorem noAck_word {word : Nat} (low : word < 0x8000) (rest : Bytes) :
    NoAck (putUint word 2 ++ rest) := by
  intro other more found
  have fits : word < 256 ^ 2 := low.trans (by decide)
  rw [reads_uint fits rest] at found
  cases found
  exact low

theorem reads_ackNum_some (ack : AckNum) (rest : Bytes) :
    Reads getAckNum (putAckNum (some ack)) rest (some ack) := by
  obtain ⟨num, qual⟩ := ack
  have small := num.inRange
  have code : qual.code < 4 := by cases qual <;> decide
  have fits : 0x8000 + qual.code * 0x1000 + num.value < 256 ^ 2 := by
    omega
  have whole : (Mod.wrap (0x8000 + qual.code * 0x1000 + num.value) : Seq) = num := by
    apply Mod.ext
    change (0x8000 + qual.code * 0x1000 + num.value) % 4096 = num.value
    omega
  have quotient : (0x8000 + qual.code * 0x1000 + num.value) / 0x1000 % 8 = qual.code := by
    omega
  unfold Reads getAckNum putAckNum
  rw [reads_uint fits rest]
  dsimp only
  rw [if_neg (by omega), quotient, whole]
  cases qual with
  | ackq | nak | xack | xnak => rfl

theorem reads_ackNum_none {rest : Bytes} (clear : NoAck rest) : Reads getAckNum [] rest none := by
  unfold Reads getAckNum
  rw [List.nil_append]
  cases found : uint 2 rest with
  | none => rfl
  | some pair =>
    obtain ⟨word, more⟩ := pair
    dsimp only
    rw [if_pos (clear word more found)]

theorem reads_ackNum (ack : Option AckNum) {rest : Bytes}
    (clear : NoAck rest) : Reads getAckNum (putAckNum ack) rest ack := by
  cases ack with
  | none => exact reads_ackNum_none clear
  | some ack => exact reads_ackNum_some ack rest

theorem reads_ackHdr {msgflag : Nat} (flag : msgflag < 256)
    {header : AckHdr} (inRange : header.InRange) {rest : Bytes} (clear : NoAck rest) :
    Reads getAckHdr (putAckHdr msgflag header) rest (msgflag, header.asRead) := by
  obtain ⟨dstaddr, srcaddr, first, second⟩ := header
  apply (reads_uint flag _).bind
  apply (reads_uint inRange.dstaddr _).bind
  apply (reads_uint inRange.srcaddr _).bind
  cases first with
  | none =>
    -- the second takes the place of the first, and none is left
    change Reads _ (putAckNum second) rest _
    rw [← List.append_nil (putAckNum second)]
    exact (reads_ackNum second clear).bind ((reads_ackNum_none clear).last (reads_pure _ _))
  | some ack =>
    exact (reads_ackNum_some ack _).bind ((reads_ackNum second clear).last (reads_pure _ _))

theorem reads_image {image : Bytes} (short : image.length ≤ maxImage) :
    ∃ bytes, putImage image = some bytes ∧ ∀ rest, Reads getImage bytes rest image := by
  refine ⟨_, if_neg (not_lt.mpr short), fun rest => ?_⟩
  have small : image.length < 256 ^ 1 := by
    unfold maxImage at short
    omega
  apply (reads_uint small _).bind
  rw [if_neg (not_lt.mpr short)]
  exact reads_raw image rest

theorem reads_signed {value : Int} (low : -128 ≤ value)
    (high : value < 128) : ∃ bytes, putSigned value = some bytes ∧
      ∀ rest, Reads getSigned bytes rest value := by
  refine ⟨_, if_neg (by omega), fun rest => ?_⟩
  have small : (value % 256).toNat < 256 ^ 1 := by omega
  have same : (if (value % 256).toNat < 128
      then ((value % 256).toNat : Int)
      else ((value % 256).toNat : Int) - 256) = value := by
    split <;> omega
  apply (reads_uint small rest).last
  rw [same]
  exact reads_pure value rest

theorem toNat_byte {value : Nat} (small : value < 256) :
    (UInt8.ofNat (value % 256)).toNat = value := by
  rw [UInt8.toNat_ofNat']
  omega

theorem reads_connHdr {msgflag : Nat} (flag : msgflag < 256)
    {unread : Unread} {header : ConnHdr} (inRange : header.InRange unread) :
    ∃ tail, putConnHdr msgflag unread header = some (putUint msgflag 1 ++ tail) ∧
      ∀ rest, Reads getConnHdr (putUint msgflag 1 ++ tail) rest header ∧
        getConnUnread (putUint msgflag 1 ++ tail ++ rest) =
          ⟨msgflag = 0x68, unread.mb1, unread.mbz, []⟩ := by
  obtain ⟨dstaddr, srcaddr, mb1, fcopt, mbz, info, segsize⟩ := inRange
  have version : header.info < 256 ^ 1 := by omega
  have size : header.segsize < 256 ^ 2 := segsize
  refine ⟨_, if_neg (by omega), fun rest => ?_⟩
  generalize packed : unread.mb1 + 4 * header.fcopt + 16 * unread.mbz = services
  have small : services < 256 ^ 1 := by omega
  have option : services / 4 % 4 = header.fcopt := by omega
  have lower : services % 4 = unread.mb1 := by omega
  have upper : services / 16 = unread.mbz := by omega
  constructor
  · apply (reads_uint flag _).bind
    apply (reads_uint dstaddr _).bind
    apply (reads_uint srcaddr _).bind
    apply (reads_uint small _).bind
    have extensible : Reads getExtensible (putUint header.info 1)
        (putUint header.segsize 2 ++ rest) header.info := by
      apply (reads_uint version _).last
      rw [if_pos info]
      exact reads_pure _ _
    apply extensible.bind
    apply (reads_uint size rest).last
    rw [option]
    exact reads_pure header rest
  · change Unread.mk ((UInt8.ofNat (msgflag % 256)).toNat = 0x68)
      ((UInt8.ofNat (services % 256)).toNat % 4) ((UInt8.ofNat (services % 256)).toNat / 16) [] = _
    rw [toNat_byte flag, toNat_byte small, lower, upper]

theorem reads_dataSeg {segment : DataSeg} (inRange : segment.toAckHdr.InRange) :
    Reads getDataSeg (putAckHdr (segment.bom.toNat * 0x20 + segment.eom.toNat * 0x40)
          segment.toAckHdr ++ (putUint (segment.segnum.value + segment.dly.toNat * 0x1000) 2 ++
          segment.payload)) [] (.dataSeg { segment with toAckHdr := segment.asRead }) := by
  obtain ⟨header, segnum, dly, bom, eom, payload⟩ := segment
  have small := segnum.inRange
  have bit : dly.toNat ≤ 1 := Bool.toNat_le dly
  have low : segnum.value + dly.toNat * 0x1000 < 0x8000 := by omega
  have word : segnum.value + dly.toNat * 0x1000 < 256 ^ 2 := by omega
  have flags : bom.toNat * 0x20 + eom.toNat * 0x40 < 256 := by
    cases bom <;> cases eom <;> decide
  have number : (segnum.value + dly.toNat * 0x1000) % 0x1000 = segnum.value := by
    omega
  have delayed : (segnum.value + dly.toNat * 0x1000).testBit 12 = dly := by
    have high : (segnum.value + dly.toNat * 0x1000) / 2 ^ 12 % 2 = dly.toNat := by
      omega
    rw [Nat.testBit_eq_decide_div_mod_eq, high]
    cases dly with
    | false | true => rfl
  have first : (bom.toNat * 0x20 + eom.toNat * 0x40).testBit 5 = bom := by
    cases bom <;> cases eom <;> decide
  have last : (bom.toNat * 0x20 + eom.toNat * 0x40).testBit 6 = eom := by
    cases bom <;> cases eom <;> decide
  have clear := noAck_word low (payload ++ [])
  rw [← List.append_assoc] at clear
  apply (reads_ackHdr flags inRange clear).bind
  apply (reads_uint word _).bind
  apply (reads_remaining payload).last
  rw [number, delayed, first, last, Mod.wrap_value_self]
  exact reads_pure _ _

theorem reads_intMsg {message : IntMsg} (inRange : message.toAckHdr.InRange) :
    Reads getIntMsg (putAckHdr 0x30 message.toAckHdr ++
        (putUint message.segnum.value 2 ++ message.payload)) []
      (.intMsg { message with toAckHdr := message.asRead }) := by
  obtain ⟨header, segnum, payload⟩ := message
  have small := segnum.inRange
  have low : segnum.value < 0x8000 := by omega
  have word : segnum.value < 256 ^ 2 := by omega
  have clear := noAck_word low (payload ++ [])
  rw [← List.append_assoc] at clear
  apply (reads_ackHdr (by decide) inRange clear).bind
  apply (reads_uint word _).bind
  apply (reads_remaining payload).last
  rw [Mod.wrap_value_self]
  exact reads_pure _ _

theorem reads_linkSvc {message : LinkSvcMsg} {fcval : Bytes}
    (inRange : message.toAckHdr.InRange) (mod : message.fcmod < 4) (val : message.fcvalInt < 4)
    (signed : Reads getSigned fcval [] message.fcval) :
    Reads getLinkSvc (putAckHdr 0x10 message.toAckHdr ++ (putUint message.segnum.value 2 ++
          (putUint (message.fcmod + 4 * message.fcvalInt) 1 ++ fcval))) []
      (.linkSvc { message with toAckHdr := message.asRead }) := by
  obtain ⟨header, segnum, fcmod, fcvalInt, amount⟩ := message
  dsimp only at mod val
  have small := segnum.inRange
  have low : segnum.value < 0x8000 := by omega
  have word : segnum.value < 256 ^ 2 := by omega
  have flags : fcmod + 4 * fcvalInt < 256 ^ 1 := by omega
  have lower : (fcmod + 4 * fcvalInt) % 4 = fcmod := by omega
  have upper : (fcmod + 4 * fcvalInt) / 4 % 4 = fcvalInt := by omega
  have clear := noAck_word low (putUint (fcmod + 4 * fcvalInt) 1 ++ fcval ++ [])
  rw [← List.append_assoc] at clear
  apply (reads_ackHdr (by decide) inRange clear).bind
  apply (reads_uint word _).bind
  apply (reads_uint flags _).bind
  apply signed.last
  rw [Mod.wrap_value_self, lower, upper]
  exact reads_pure _ _

theorem parseWhole_of_reads {kind : PacketClass} {msgflag : Nat}
    {bytes : Bytes} {packet : Packet} (known : packetClass msgflag = some kind)
    (flag : bytes.head? = some (UInt8.ofNat (msgflag % 256)))
    (read : Reads (getPacket kind) bytes [] packet) :
    parseWhole bytes = some (packet, getUnread kind bytes) := by
  have small : msgflag < 128 := by
    by_contra large
    unfold packetClass at known
    rw [if_pos (not_lt.mp large)] at known
    cases known
  unfold Reads at read
  rw [List.append_nil] at read
  simp only [parseWhole, parseFrame, flag, Option.bind_eq_bind,
    Option.bind_some, toNat_byte (small.trans (by decide)), known, read]

/-- What was encoded is read back, with the acknowledgements where they are
read. -/
theorem parseWhole_encodeFrame {packet : Packet} {unread : Unread}
    (inRange : packet.InRange unread) :
    ∃ bytes, encodeFrame packet unread = some bytes ∧
      parseWhole bytes = some (packet.asRead, unread) := by
  cases packet with
  | ackData header =>
    obtain ⟨inRange, rfl⟩ := inRange
    refine ⟨_, rfl, @parseWhole_of_reads .ackData 0x04 _ _ rfl rfl ?_⟩
    apply (reads_ackHdr (by decide) inRange noAck_nil).last
    exact reads_finish.last (reads_pure _ _)
  | ackOther header =>
    obtain ⟨inRange, rfl⟩ := inRange
    refine ⟨_, rfl, @parseWhole_of_reads .ackOther 0x14 _ _ rfl rfl ?_⟩
    apply (reads_ackHdr (by decide) inRange noAck_nil).last
    exact reads_finish.last (reads_pure _ _)
  | ackConn dstaddr =>
    obtain ⟨small, only⟩ := inRange
    have fits : dstaddr < 256 ^ 2 := small
    rw [only]
    refine ⟨_, rfl, @parseWhole_of_reads .ackConn 0x24 _ _ rfl rfl ?_⟩
    apply (reads_uint (by decide) _).bind
    apply (reads_uint fits _).bind
    exact (reads_remaining unread.payload).last (reads_pure _ _)
  | dataSeg segment =>
    obtain ⟨inRange, rfl⟩ := inRange
    have known : packetClass (segment.bom.toNat * 0x20 + segment.eom.toNat * 0x40) =
        some .dataSeg := by
      cases segment.bom <;> cases segment.eom <;> rfl
    exact ⟨_, rfl, parseWhole_of_reads known rfl (reads_dataSeg inRange)⟩
  | intMsg message =>
    obtain ⟨inRange, rfl⟩ := inRange
    exact ⟨_, rfl, @parseWhole_of_reads .intMsg 0x30 _ _ rfl rfl (reads_intMsg inRange)⟩
  | linkSvc message =>
    obtain ⟨inRange, rfl, mod, val, low, high⟩ := inRange
    obtain ⟨fcval, put, signed⟩ := reads_signed low high
    refine ⟨_, ?_, @parseWhole_of_reads .linkSvc 0x10 _ _ rfl rfl
      (reads_linkSvc inRange mod val (signed []))⟩
    simp [encodeFrame, put, mod, val]
  | connInit message =>
    obtain ⟨retransmit, mb1, mbz, payload⟩ := unread
    obtain ⟨inRange, rfl⟩ := inRange
    have flag : (if retransmit then 0x68 else 0x18) < 256 := by
      cases retransmit <;> decide
    have known : packetClass (if retransmit then 0x68 else 0x18) = some .connInit := by
      cases retransmit <;> rfl
    have again : decide ((if retransmit then 0x68 else 0x18) = 0x68) = retransmit := by
      cases retransmit <;> rfl
    obtain ⟨tail, put, read⟩ := reads_connHdr flag inRange
    have parsed := parseWhole_of_reads known rfl
      ((read _).1.bind ((reads_remaining message.payload).last (reads_pure _ _)))
    refine ⟨_, by simp only [encodeFrame, put]; rfl, parsed.trans ?_⟩
    change some (_, getConnUnread _) = _
    rw [(read _).2, again]
    rfl
  | connConf message =>
    obtain ⟨retransmit, mb1, mbz, payload⟩ := unread
    obtain ⟨inRange, rfl, rfl, short⟩ := inRange
    obtain ⟨tail, put, read⟩ := @reads_connHdr 0x28 (by decide) _ _ inRange
    obtain ⟨dataCtl, image, ctl⟩ := reads_image short
    have parsed := @parseWhole_of_reads .connConf 0x28 _ _ rfl rfl
      ((read _).1.bind ((ctl []).last (reads_finish.last (reads_pure _ _))))
    refine ⟨_, by simp only [encodeFrame, put, image]; rfl, parsed.trans ?_⟩
    change some (_, getConnUnread _) = _
    rw [(read _).2]
    rfl
  | discConf message =>
    obtain ⟨dstaddr, srcaddr, reason, rfl⟩ := inRange
    have reasonFits : message.reason < 256 ^ 2 := reason
    refine ⟨_, rfl, @parseWhole_of_reads .discConf 0x48 _ _ rfl rfl ?_⟩
    apply (reads_uint (by decide) _).bind
    apply (reads_uint dstaddr _).bind
    apply (reads_uint srcaddr _).bind
    apply (reads_uint reasonFits _).last
    exact reads_finish.last (reads_pure _ _)
  | discInit message =>
    obtain ⟨dstaddr, srcaddr, reason, rfl, short⟩ := inRange
    obtain ⟨dataCtl, image, ctl⟩ := reads_image short
    refine ⟨_, by simp only [encodeFrame, image]; rfl,
      @parseWhole_of_reads .discInit 0x38 _ _ rfl rfl ?_⟩
    apply (reads_uint (by decide) _).bind
    apply (reads_uint dstaddr _).bind
    apply (reads_uint srcaddr _).bind
    apply (reads_uint reason _).bind
    apply (ctl []).last
    exact reads_finish.last (reads_pure _ _)

/-- The key sets of different classes are disjoint, and a packet whose members
fit their fields is read back as it was exactly when it has no second
acknowledgement without a first. -/
theorem packet_read_back_iff (packet : Packet) (unread : Unread) (inRange : packet.InRange unread) :
    ((∃ bytes, encodeFrame packet unread = some bytes ∧
        parseWhole bytes = some (packet, unread)) ↔ packet.InOrder) ∧
      ∀ first ∈ registrations, ∀ second ∈ registrations, ∀ key < 128,
        key &&& first.2.2 = first.2.1 → key &&& second.2.2 = second.2.1 → first.1 = second.1 := by
  constructor
  · obtain ⟨bytes, encoded, parsed⟩ := parseWhole_encodeFrame inRange
    rw [← packet.asRead_eq_iff]
    constructor
    · rintro ⟨other, also, same⟩
      cases encoded.symm.trans also
      rw [parsed] at same
      exact congrArg Prod.fst (Option.some.inj same)
    · intro same
      rw [same] at parsed
      exact ⟨bytes, encoded, parsed⟩
  · intro first inFirst second inSecond key small claims claimsToo
    have found := packetClass_of_registered first inFirst key small claims
    rw [packetClass_of_registered second inSecond key small claimsToo] at found
    exact (Option.some.inj found).symm

theorem packet_read_back_twice :
    let packet : Packet := .ackData ⟨7, 1, some ⟨Mod.wrap 3, .ackq⟩, some ⟨Mod.wrap 1, .xack⟩⟩
    ∃ bytes, encodeFrame packet {} = some bytes ∧ parseWhole bytes = some (packet, {}) := by
  intro packet
  exact (packet_read_back_iff packet {} ⟨⟨by decide, by decide⟩, rfl⟩).1.2 nofun

/-- An interrupt acknowledges data in its second field and leaves the first one
out, so that the acknowledgement is read as one of interrupts. -/
theorem interrupt_ack_misplaced :
    ∃ frame ∈ ((World.reach (.scripted fun _ _ => []) ⟨1, 20, 1, 4, 60⟩ [1] ()
        [.act (.connect 1025 []), .deliver 1025 (.connConf ⟨1, 7, svcNone, 2, 500, []⟩),
          .act (.sendInterrupt 0 [9])]).links 0).outbox, frame.packet.InRange {} ∧ ¬ ∃ bytes,
        encodeFrame frame.packet {} = some bytes ∧ parseWhole bytes = some (frame.packet, {}) := by
  refine ⟨⟨.intMsg ⟨⟨7, 1, none, some ⟨Mod.wrap 0, .xack⟩⟩, Mod.wrap 1, [9]⟩,
    0, 0⟩, by decide +kernel, ⟨⟨by decide, by decide⟩, rfl⟩, ?_⟩
  rintro ⟨bytes, encoded, parsed⟩
  cases encoded
  revert parsed
  decide +kernel

end Decnet.Nsp
