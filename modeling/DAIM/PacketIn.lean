import DAIM.Hosts
import DAIM.OpenFlow.Frames

/-!
# Packets that a switch reports

How `action_packout` takes a `PACKET_IN` apart, which is the same in versions
1 and 4, and the answers that it can give.
-/

namespace DAIM

open DAIM.Library DAIM.OpenFlow

/-- The fields every branch of `action_packout` starts from. -/
structure PacketIn where
  bufferId : UInt32
  inPort : UInt16
  xid : UInt32
  src : Mac
  dst : Mac
  type : UInt16

def parsePacketIn (message : Memory) : PacketIn :=
  let eth := message.shift OfpPacketIn.data
  { bufferId := ntohl (message.load32 OfpPacketIn.bufferId)
    inPort := ntohs (message.load16 OfpPacketIn.inPort)
    xid := ntohl (message.load32 OfpHeader.xid)
    src := Mac.load eth OfEthernet.src
    dst := Mac.load eth OfEthernet.dst
    type := ntohs (eth.load16 OfEthernet.type) }

/-- The octets behind the Ethernet header of the frame of a `PACKET_IN`. -/
def payload (message : Memory) : Memory :=
  message.shift (OfpPacketIn.data + OfEthernet.size)

def IsArp (message : Memory) : Prop := (parsePacketIn message).type = arpData

instance (message : Memory) : Decidable (IsArp message) :=
  inferInstanceAs (Decidable (_ = _))

/-! ## Answers -/

/-- The answer of `action_packout` to one packet. -/
inductive Answer where
  | silent
  | packetOut (message : PacketOut)
  | flowMod (message : FlowMod)
  deriving DecidableEq, Repr

/-- The octets passed to `send`. -/
def Answer.bytes : Answer → List (List UInt8)
  | .silent => []
  | .packetOut message => [message.encode]
  | .flowMod message => [message.encode]

def floodAnswer (packet : PacketIn) : PacketOut where
  xid := packet.xid
  bufferId := packet.bufferId
  inPort := packet.inPort
  actions := [{ port := ofppFlood, maxLen := 0 }]
  data := []

def flowAnswer (packet : PacketIn) (nwSrc nwDst : UInt32) (tpSrc tpDst : UInt16)
    (nwProto : UInt8) (dlType port : UInt16) : FlowMod where
  xid := packet.xid
  fields :=
    { wildcards := 0, inPort := packet.inPort, dlSrc := packet.src, dlDst := packet.dst
      dlVlan := ofpVlanNone, dlVlanPcp := 0, dlType := dlType, nwTos := 0, nwProto := nwProto
      nwSrc := nwSrc, nwDst := nwDst, tpSrc := tpSrc, tpDst := tpDst }
  cookie := 0
  command := ofpfcAdd
  idleTimeout := 60
  hardTimeout := 0
  priority := 0
  bufferId := packet.bufferId
  outPort := 0
  flags := 0
  actions := [{ port := port, maxLen := 0 }]

/-- The sender and the target of the ARP packet in a message. -/
def arpSource (message : Memory) : UInt32 := ntohl ((payload message).load32 Arp.ipSource)
def arpTarget (message : Memory) : UInt32 := ntohl ((payload message).load32 Arp.ipDest)

/-- The flow that answers an IPv4 packet. -/
def ipFlow (message : Memory) (port : UInt16) : FlowMod :=
  let ip := payload message
  let transport := ip.shift Iphdr.size
  let icmp := ip Iphdr.protocol = ipTypeIcmp
  flowAnswer (parsePacketIn message) (ntohl (ip.load32 Iphdr.saddr)) (ntohl (ip.load32 Iphdr.daddr))
    (if icmp then 0 else ntohs (transport.load16 Transport.source))
    (if icmp then 0 else ntohs (transport.load16 Transport.dest))
    (ip Iphdr.protocol) ipData port

/-- The protocols for which a flow is installed. -/
def FlowProtocol (protocol : UInt8) : Prop :=
  protocol = ipTypeIcmp ∨ protocol = ipTypeTcp ∨ protocol = ipTypeUdp

instance (protocol : UInt8) : Decidable (FlowProtocol protocol) :=
  inferInstanceAs (Decidable (_ ∨ _))

/-- The entry for the sender of an ARP packet. -/
def hostEntry (switchId : UInt64) (message : Memory) : SwitchHost where
  datapathId := switchId
  portNo := (parsePacketIn message).inPort
  macAddr := (parsePacketIn message).src
  ipAddr := arpSource message

/-! ## Received packets as byte strings

When the memory behind a pointer starts with a complete message, what is read
through the pointer are the fields of that message in network order. -/

section Fields

variable {memory : Memory} {bytes : List UInt8}

theorem parsePacketIn_eq (starts : memory.Starts bytes) (complete : 32 ≤ bytes.length) :
    parsePacketIn memory =
      { bufferId := be32 bytes OfpPacketIn.bufferId
        inPort := be16 bytes OfpPacketIn.inPort
        xid := be32 bytes OfpHeader.xid
        src := frameSrc (packetInFrame bytes)
        dst := frameDst (packetInFrame bytes)
        type := frameType (packetInFrame bytes) } := by
  have octet (index : Nat) (inside : index < 32) :
      memory index = bytes.getD index 0 := starts.octet (by omega)
  unfold parsePacketIn frameSrc frameDst frameType packetInFrame Mac.ofBytes
  simp only [be16_drop, getD_drop, Memory.load16_shift]
  rw [starts.ntohl_load32 (by show 8 + 4 ≤ _; omega),
    starts.ntohs_load16 (by show 14 + 2 ≤ _; omega),
    starts.ntohl_load32 (by show 4 + 4 ≤ _; omega), starts.ntohs_load16 (by show 30 + 2 ≤ _; omega)]
  unfold Mac.load Memory.shift
  simp only [← Nat.add_assoc]
  congr 2
  all_goals exact octet _ (by decide)

/-- An octet behind the Ethernet header. -/
theorem payload_octet (starts : memory.Starts bytes) {index : Nat}
    (complete : 32 + index < bytes.length) :
    payload memory index = (packetInFrame bytes).getD (OfEthernet.size + index) 0 := by
  have inside : OfpPacketIn.data + (OfEthernet.size + index) < bytes.length := by
    show 18 + (14 + index) < _
    omega
  rw [packetInFrame, getD_drop, ← starts.octet inside, ← Nat.add_assoc]
  rfl

theorem payload_ntohl (starts : memory.Starts bytes) {offset : Nat}
    (complete : 32 + offset + 4 ≤ bytes.length) :
    ntohl ((payload memory).load32 offset) =
      be32 (packetInFrame bytes) (OfEthernet.size + offset) := by
  rw [payload, Memory.load32_shift, packetInFrame, be32_drop, ← Nat.add_assoc]
  exact starts.ntohl_load32 complete

theorem payload_be64toh (starts : memory.Starts bytes) {offset : Nat}
    (complete : 32 + offset + 8 ≤ bytes.length) :
    be64toh ((payload memory).load64 offset) =
      be64 (packetInFrame bytes) (OfEthernet.size + offset) := by
  rw [payload, Memory.load64_shift, packetInFrame, be64_drop, ← Nat.add_assoc]
  exact starts.be64toh_load64 complete

theorem payload_ntohs (starts : memory.Starts bytes) {offset : Nat}
    (complete : 32 + offset + 2 ≤ bytes.length) :
    ntohs ((payload memory).load16 offset) =
      be16 (packetInFrame bytes) (OfEthernet.size + offset) := by
  rw [payload, Memory.load16_shift, packetInFrame, be16_drop, ← Nat.add_assoc]
  exact starts.ntohs_load16 complete

end Fields

end DAIM
