import DAIM.Com

/-!
# Discovery messages

The three places of `_con.cpp` that build a discovery `PACKET_OUT` in a local
buffer differ only in the output port and in the message behind the Ethernet
header.
-/

namespace DAIM.Ani41

open DAIM.Library DAIM.OpenFlow DAIM.Com

/-- `eth_buffer`; the second octet of the destination is `1 << 5 | 1 << 1 | 1`. -/
def discoveryEthernet : Memory :=
  Memory.zero
    |>.store OfEthernet.src [0, 0, 0, 0, 0, 1]
    |>.store OfEthernet.dst [1, 0x23, 0x20, 0, 0, 1]
    |>.store16 OfEthernet.type (htons lldpData)

/-- `struct anim_header`, whose second octet is padding. -/
def animHeader (type : UInt8) (length : Nat) : Memory :=
  Memory.zero
    |>.store8 AnimHeader.type type
    |>.store16 AnimHeader.length (htons (UInt16.ofNat length))

/-- `struct net_node`, whose last six octets are padding. -/
def netNode (datapathId : UInt64) (portNo : UInt16) : Memory :=
  Memory.zero
    |>.store64 NetNodeWire.datapathId (htobe64 datapathId)
    |>.store16 NetNodeWire.portNo (htons portNo)

/-- `n_buffer` up to and including the Ethernet header. -/
def discoveryPacketOut (port : UInt16) : Memory :=
  Memory.zero
    |>.store8 OfpHeader.version ofpVersion
    |>.store8 OfpHeader.type ofptPacketOut
    |>.store32 OfpHeader.xid (htonl 0)
    |>.store32 OfpPacketOut.bufferId (htonl noBuffer)
    |>.store16 OfpPacketOut.inPort (htons 65533)
    |>.store16 OfpPacketOut.actionsLen (htons (UInt16.ofNat OfpActionOutput.size))
    |>.store16 (OfpPacketOut.actions + OfpActionOutput.type) (htons ofpatOutput)
    |>.store16 (OfpPacketOut.actions + OfpActionOutput.maxLen) (htons 0)
    |>.store16 (OfpPacketOut.actions + OfpActionOutput.len) (htons 8)
    |>.store16 (OfpPacketOut.actions + OfpActionOutput.port) (htons port)
    |>.store (OfpPacketOut.size + OfpActionOutput.size)
      (discoveryEthernet.slice 0 OfEthernet.size)

/-- Where the discovery message starts in `n_buffer`. -/
abbrev animOffset : Nat := OfpPacketOut.size + OfpActionOutput.size + OfEthernet.size

/-- A message that consists of its header only. -/
def echoPacketOut (port : UInt16) (type : UInt8) : Memory :=
  discoveryPacketOut port
    |>.store animOffset ((animHeader type AnimHeader.size).slice 0 AnimHeader.size)
    |>.store16 OfpHeader.length (htons (UInt16.ofNat (animOffset + AnimHeader.size)))

def echoRequestPacketOut (port : UInt16) : Memory :=
  echoPacketOut port animEchoRequest

def echoReplyPacketOut (port : UInt16) : Memory :=
  echoPacketOut port animEchoReply

def nodePacketOut (switchId : UInt64) (port : UInt16) : Memory :=
  discoveryPacketOut port
    |>.store animOffset
      ((animHeader animNode (AnimHeader.size + NetNodeWire.size)).slice 0 AnimHeader.size)
    |>.store (animOffset + AnimHeader.size) ((netNode switchId port).slice 0 NetNodeWire.size)
    |>.store16 OfpHeader.length
      (htons (UInt16.ofNat (animOffset + AnimHeader.size + NetNodeWire.size)))

/-! ## The messages that these packets carry -/

inductive DiscoveryMessage where
  | echoRequest
  | echoReply
  | node (datapathId : UInt64) (portNo : UInt16)
  deriving DecidableEq, Repr

/-- The octet that names the type. -/
def DiscoveryMessage.type : DiscoveryMessage → UInt8
  | .echoRequest => animEchoRequest
  | .echoReply => animEchoReply
  | .node _ _ => animNode

def DiscoveryMessage.encode : DiscoveryMessage → List UInt8
  | .echoRequest => [animEchoRequest, 0, 0, 4]
  | .echoReply => [animEchoReply, 0, 0, 4]
  | .node datapathId portNo =>
      List.flatten
        [[animNode, 0, 0, 20], network 8 datapathId.toNat, network 2 portNo.toNat,
          [0, 0, 0, 0, 0, 0]]

/-- The frame with the given octets behind the Ethernet header. -/
def lldpFrame (content : List UInt8) : List UInt8 :=
  List.flatten
    [[1, 0x23, 0x20, 0, 0, 1], [0, 0, 0, 0, 0, 1], network 2 lldpData.toNat, content]

def discoveryFrame (message : DiscoveryMessage) : List UInt8 := lldpFrame message.encode

/-- The packet that sends a frame of the controller out of one port. -/
def framePacket (port : UInt16) (frame : List UInt8) : PacketOut where
  xid := 0
  bufferId := noBuffer
  inPort := 65533
  actions := [{ port := port, maxLen := 0 }]
  data := frame

def discoveryPacket (port : UInt16) (message : DiscoveryMessage) : PacketOut :=
  framePacket port (discoveryFrame message)

theorem length_discoveryFrame (message : DiscoveryMessage) :
    (discoveryFrame message).length ≤ 34 := by
  cases message with
  | echoRequest => decide
  | echoReply => decide
  | node datapathId portNo => exact Nat.le_of_eq rfl

theorem discoveryFrame_form (message : DiscoveryMessage) :
    DiscoveryFrame (discoveryFrame message) := by
  cases message with
  | echoRequest => exact ⟨by decide, by decide, by decide⟩
  | echoReply => exact ⟨by decide, by decide, by decide⟩
  | node datapathId portNo =>
      have length : (discoveryFrame (.node datapathId portNo)).length = 34 := rfl
      have field : be16 (discoveryFrame (.node datapathId portNo))
          (OfEthernet.size + AnimHeader.length) = 20 := be16_eq rfl
      refine ⟨?_, be16_eq rfl, ?_⟩
      · rw [length]
        decide
      · rw [field, length]
        decide

/-- Every discovery packet is a well-formed message around its frame. -/
theorem discoveryPacket_wellFormed (port : UInt16) (message : DiscoveryMessage) :
    DiscoveryPacketOut (discoveryPacket port message).encode := by
  apply PacketOut.discovery_encode _ (discoveryFrame_form message)
  have short := length_discoveryFrame message
  show 16 + 8 * 1 + (discoveryFrame message).length < 65536
  omega

theorem discoveryPacket_decode (port : UInt16) (message : DiscoveryMessage) :
    PacketOut.decode (discoveryPacket port message).encode =
      some (discoveryPacket port message) := by
  apply PacketOut.decode_encode
  have short := length_discoveryFrame message
  show 16 + 8 * 1 + (discoveryFrame message).length < 65536
  omega

/-! ## The packets in the buffers -/

theorem echoPacketOut_bytes (port : UInt16) (type : UInt8) :
    headerBytes (echoPacketOut port type) =
      (framePacket port (lldpFrame [type, 0, 0, 4])).encode := by
  have widths : (42 : UInt16).toNat =
      [1, 1, 2, 4, 4, 2, 2, 2, 2, 2, 2, 6, 6, 2, 1, 1, 2].sum := rfl
  have length : (lldpFrame [type, 0, 0, 4]).length = 18 := rfl
  rw [headerBytes_eq 42 rfl, widths, Memory.slice_sum]
  unfold PacketOut.encode framePacket
  simp only [length, List.length_cons, List.length_nil, List.flatMap_cons, List.flatMap_nil,
    ActionOutput.encode, ← octets_htons, ← octets_htonl]
  rfl

theorem echoRequestPacketOut_bytes (port : UInt16) :
    headerBytes (echoRequestPacketOut port) = (discoveryPacket port .echoRequest).encode :=
  echoPacketOut_bytes port animEchoRequest

theorem echoReplyPacketOut_bytes (port : UInt16) :
    headerBytes (echoReplyPacketOut port) = (discoveryPacket port .echoReply).encode :=
  echoPacketOut_bytes port animEchoReply

theorem nodePacketOut_bytes (switchId : UInt64) (port : UInt16) :
    headerBytes (nodePacketOut switchId port) =
      (discoveryPacket port (.node switchId port)).encode := by
  have widths : (58 : UInt16).toNat =
      [1, 1, 2, 4, 4, 2, 2, 2, 2, 2, 2, 6, 6, 2, 1, 1, 2, 8, 2, 6].sum := rfl
  have length : (discoveryFrame (.node switchId port)).length = 34 := rfl
  rw [headerBytes_eq 58 rfl, widths, Memory.slice_sum]
  unfold discoveryPacket PacketOut.encode framePacket
  simp only [length, List.length_cons, List.length_nil, List.flatMap_cons, List.flatMap_nil,
    ActionOutput.encode]
  unfold discoveryFrame lldpFrame DiscoveryMessage.encode
  simp only [← octets_htons, ← octets_htonl, ← octets_htobe64]
  rfl

end DAIM.Ani41
