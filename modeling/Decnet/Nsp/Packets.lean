import Decnet.Common.Modulo

/-!
# NSP packets

The packet classes of `nsp/packets.h`, as decoded values.  The flag byte is
represented by the constructor of `Packet` and, for data segments, by the
`bom` and `eom` bits; fields that no receiver reads are left out.
-/

namespace Decnet

abbrev Bytes := List UInt8

/-- A node address, as the number `Nodeid::value` gives. -/
abbrev Nodeid := Nat

namespace Nsp

/-- NSP sequence numbers are integers modulo 4096. -/
abbrev Seq := Mod 4096

instance neZero_seq : NeZero 4096 := ⟨by decide⟩

/-- Flow control options a connect message can ask for. -/
def svcNone : Nat := 0
def svcSeg : Nat := 1
def svcMsg : Nat := 2

/-- The phase a connect message's version code implies. -/
def phaseOfVersion (version : Nat) : Nat :=
  if version = 1 then 2 else if version = 0 then 3 else 4

inductive Qual where
  | ackq | nak | xack | xnak
  deriving DecidableEq, Repr

/-- A sequence number with a qualifier for subchannel and ACK or NAK. -/
structure AckNum where
  num : Seq
  qual : Qual
  deriving DecidableEq, Repr

namespace AckNum

/-- A cross acknowledgement refers to the other subchannel. -/
def isCross (ack : AckNum) : Bool :=
  ack.qual = .xack ∨ ack.qual = .xnak

def isNak (ack : AckNum) : Bool :=
  ack.qual = .nak ∨ ack.qual = .xnak

end AckNum

/-- The link addresses and acknowledgements most packets begin with. -/
structure AckHdr where
  (dstaddr srcaddr : Nat)
  (acknum acknum2 : Option AckNum)
  deriving DecidableEq, Repr

structure DataSeg extends AckHdr where
  segnum : Seq
  (dly bom eom : Bool)
  payload : Bytes
  deriving DecidableEq, Repr

structure IntMsg extends AckHdr where
  segnum : Seq
  payload : Bytes
  deriving DecidableEq, Repr

/-- Link service: how much more the other end will accept. -/
structure LinkSvcMsg extends AckHdr where
  segnum : Seq
  (fcmod fcvalInt : Nat)
  fcval : Int
  deriving DecidableEq, Repr

namespace LinkSvcMsg

def dataReq : Nat := 0
def intReq : Nat := 1
def noChange : Nat := 0
def xoff : Nat := 1
def xon : Nat := 2

def valid (message : LinkSvcMsg) : Bool :=
  message.fcvalInt ≤ 1 ∧ message.fcmod ≠ 3

end LinkSvcMsg

structure ConnInit where
  (dstaddr srcaddr fcopt info segsize : Nat)
  payload : Bytes
  deriving DecidableEq, Repr

structure ConnConf where
  (dstaddr srcaddr fcopt info segsize : Nat)
  dataCtl : Bytes
  deriving DecidableEq, Repr

structure DiscConf where
  (dstaddr srcaddr reason : Nat)
  deriving DecidableEq, Repr

structure DiscInit where
  (dstaddr srcaddr reason : Nat)
  dataCtl : Bytes
  deriving DecidableEq, Repr

inductive Packet where
  | ackData (header : AckHdr)
  | ackOther (header : AckHdr)
  | ackConn (dstaddr : Nat)
  | dataSeg (segment : DataSeg)
  | intMsg (message : IntMsg)
  | linkSvc (message : LinkSvcMsg)
  | connInit (message : ConnInit)
  | connConf (message : ConnConf)
  | discConf (message : DiscConf)
  | discInit (message : DiscInit)
  deriving DecidableEq, Repr

namespace Packet

def linkAddress : Packet → Nat
  | .ackData header => header.dstaddr
  | .ackOther header => header.dstaddr
  | .ackConn dstaddr => dstaddr
  | .dataSeg segment => segment.dstaddr
  | .intMsg message => message.dstaddr
  | .linkSvc message => message.dstaddr
  | .connInit message => message.dstaddr
  | .connConf message => message.dstaddr
  | .discConf message => message.dstaddr
  | .discInit message => message.dstaddr

end Packet

/-- The most bytes an `I<16>` image field takes: encoding more throws. -/
def maxImage : Nat := 16

end Nsp

end Decnet
