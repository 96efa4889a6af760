import DAIM.OpenFlow.Messages

/-!
# Frames and the messages that report them

What a switch reads from an Ethernet frame, and the `PACKET_IN` in which it
reports one.
-/

namespace DAIM.OpenFlow

open DAIM.Library

def frameDst (frame : List UInt8) : Mac := Mac.ofBytes frame OfEthernet.dst
def frameSrc (frame : List UInt8) : Mac := Mac.ofBytes frame OfEthernet.src
def frameType (frame : List UInt8) : UInt16 := be16 frame OfEthernet.type

/-- The protocol addresses of an ARP or IPv4 frame, as `nw_src` and `nw_dst` of
a match see them. -/
def frameNwSrc (frame : List UInt8) : UInt32 :=
  if frameType frame = arpData then be32 frame (OfEthernet.size + Arp.ipSource)
  else be32 frame (OfEthernet.size + Iphdr.saddr)

def frameNwDst (frame : List UInt8) : UInt32 :=
  if frameType frame = arpData then be32 frame (OfEthernet.size + Arp.ipDest)
  else be32 frame (OfEthernet.size + Iphdr.daddr)

/-- The header fields of an IPv4 frame. -/
def frameTos (frame : List UInt8) : UInt8 := frame.getD (OfEthernet.size + Iphdr.tos) 0
def frameProto (frame : List UInt8) : UInt8 := frame.getD (OfEthernet.size + Iphdr.protocol) 0

/-- Where the header behind the IPv4 header starts. -/
def transportOffset (frame : List UInt8) : Nat :=
  OfEthernet.size + 4 * (frame.getD OfEthernet.size 0 &&& 0x0f).toNat

/-- The frame, or its beginning, that a `PACKET_IN` carries. -/
def packetInFrame (bytes : List UInt8) : List UInt8 := bytes.drop OfpPacketIn.data

theorem length_packetInFrame (bytes : List UInt8) :
    (packetInFrame bytes).length = bytes.length - 18 :=
  List.length_drop

/-- A `PACKET_IN`: `data` is the frame or its beginning. -/
structure PacketInMessage where
  xid : UInt32
  bufferId : UInt32
  totalLen : UInt16
  inPort : UInt16
  reason : UInt8
  data : List UInt8
  deriving DecidableEq, Repr

def PacketInMessage.encode (message : PacketInMessage) : List UInt8 :=
  List.flatten
    [[ofpVersion, ofptPacketIn], network 2 (OfpPacketIn.data + message.data.length),
      network 4 message.xid.toNat, network 4 message.bufferId.toNat,
      network 2 message.totalLen.toNat, network 2 message.inPort.toNat, [message.reason, 0]] ++
    message.data

theorem PacketInMessage.length_encode (message : PacketInMessage) :
    message.encode.length = 18 + message.data.length := by
  rw [PacketInMessage.encode, List.length_append]
  simp

/-- An Ethernet frame. -/
def ethernetFrame (dst src : Mac) (type : UInt16) (content : List UInt8) : List UInt8 :=
  List.flatten [dst.octets, src.octets, network 2 type.toNat] ++ content

/-- An ARP packet for IPv4 over Ethernet. -/
def arpPacket (op : UInt16) (sender : Mac) (senderIp : UInt32) (target : Mac)
    (targetIp : UInt32) : List UInt8 :=
  List.flatten
    [network 2 1, network 2 ipData.toNat, [6, 4], network 2 op.toNat, sender.octets,
      network 4 senderIp.toNat, target.octets, network 4 targetIp.toNat]

end DAIM.OpenFlow
