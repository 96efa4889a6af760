import DAIM.Library.Memory

/-!
# Protocol constants and structure layouts

The constants of `openflow.h`, `eth.h` and `_con.h`, and the offset of each
structure member that the controllers read or write.  The layouts are those of
the 64-bit x86 target; every OpenFlow structure is asserted in `openflow.h` to
have the size given here, and `arp` is packed.
-/

namespace DAIM.OpenFlow

open DAIM.Library

abbrev ofpVersion : UInt8 := 0x01

abbrev ofptHello : UInt8 := 0
abbrev ofptEchoRequest : UInt8 := 2
abbrev ofptEchoReply : UInt8 := 3
abbrev ofptFeaturesRequest : UInt8 := 5
abbrev ofptFeaturesReply : UInt8 := 6
abbrev ofptSetConfig : UInt8 := 9
abbrev ofptPacketIn : UInt8 := 10
abbrev ofptPacketOut : UInt8 := 13
abbrev ofptFlowMod : UInt8 := 14

abbrev ofppFlood : UInt16 := 0xfffb

abbrev ofpatOutput : UInt16 := 0

abbrev ofpfcAdd : UInt16 := 0

/-- `OFP_VLAN_NONE`: the match value for a frame without a VLAN tag. -/
abbrev ofpVlanNone : UInt16 := 0xffff

/-- The `buffer_id` of a packet that the switch did not buffer. -/
abbrev noBuffer : UInt32 := 0xffffffff

abbrev arpData : UInt16 := 0x0806
abbrev ipData : UInt16 := 0x0800
abbrev ip6Data : UInt16 := 0x86dd
abbrev lldpData : UInt16 := 0x88cc

abbrev ipTypeIcmp : UInt8 := 1
abbrev ipTypeTcp : UInt8 := 6
abbrev ipTypeUdp : UInt8 := 17
abbrev ipProtoUnknown : UInt8 := 255

abbrev animEchoRequest : UInt8 := 0
abbrev animEchoReply : UInt8 := 1
abbrev animNode : UInt8 := 2

namespace OfpHeader
abbrev version : Nat := 0
abbrev type : Nat := 1
abbrev length : Nat := 2
abbrev xid : Nat := 4
abbrev size : Nat := 8
end OfpHeader

namespace OfpSwitchConfig
abbrev flags : Nat := 8
abbrev missSendLen : Nat := 10
abbrev size : Nat := 12
end OfpSwitchConfig

namespace OfpPhyPort
abbrev portNo : Nat := 0
abbrev hwAddr : Nat := 2
abbrev size : Nat := 48
end OfpPhyPort

namespace OfpSwitchFeatures
abbrev datapathId : Nat := 8
abbrev ports : Nat := 32
abbrev size : Nat := 32
end OfpSwitchFeatures

-- `data` starts two octets before `sizeof (struct ofp_packet_in)`.
namespace OfpPacketIn
abbrev bufferId : Nat := 8
abbrev inPort : Nat := 14
abbrev data : Nat := 18
end OfpPacketIn

namespace OfpPacketOut
abbrev bufferId : Nat := 8
abbrev inPort : Nat := 12
abbrev actionsLen : Nat := 14
abbrev actions : Nat := 16
abbrev size : Nat := 16
end OfpPacketOut

namespace OfpActionOutput
abbrev type : Nat := 0
abbrev len : Nat := 2
abbrev port : Nat := 4
abbrev maxLen : Nat := 6
abbrev size : Nat := 8
end OfpActionOutput

namespace OfpMatch
abbrev wildcards : Nat := 0
abbrev inPort : Nat := 4
abbrev dlSrc : Nat := 6
abbrev dlDst : Nat := 12
abbrev dlVlan : Nat := 18
abbrev dlVlanPcp : Nat := 20
abbrev pad1 : Nat := 21
abbrev dlType : Nat := 22
abbrev nwTos : Nat := 24
abbrev nwProto : Nat := 25
abbrev pad2 : Nat := 26
abbrev nwSrc : Nat := 28
abbrev nwDst : Nat := 32
abbrev tpSrc : Nat := 36
abbrev tpDst : Nat := 38
end OfpMatch

namespace OfpFlowMod
abbrev fields : Nat := 8
abbrev cookie : Nat := 48
abbrev command : Nat := 56
abbrev idleTimeout : Nat := 58
abbrev hardTimeout : Nat := 60
abbrev priority : Nat := 62
abbrev bufferId : Nat := 64
abbrev outPort : Nat := 68
abbrev flags : Nat := 70
abbrev actions : Nat := 72
abbrev size : Nat := 72
end OfpFlowMod

namespace OfEthernet
abbrev dst : Nat := 0
abbrev src : Nat := 6
abbrev type : Nat := 12
abbrev size : Nat := 14
end OfEthernet

namespace Arp
abbrev op : Nat := 6
abbrev ipSource : Nat := 14
abbrev ipDest : Nat := 24
end Arp

namespace Iphdr
abbrev tos : Nat := 1
abbrev protocol : Nat := 9
abbrev saddr : Nat := 12
abbrev daddr : Nat := 16
abbrev size : Nat := 20
end Iphdr

-- The members shared by `struct tcphdr` and `struct udphdr`.
namespace Transport
abbrev source : Nat := 0
abbrev dest : Nat := 2
end Transport

namespace AnimHeader
abbrev type : Nat := 0
abbrev length : Nat := 2
abbrev size : Nat := 4
end AnimHeader

namespace NetNodeWire
abbrev datapathId : Nat := 0
abbrev portNo : Nat := 8
abbrev size : Nat := 16
end NetNodeWire

/-- An Ethernet address, octet by octet as the source assigns it. -/
structure Mac where
  o0 : UInt8
  o1 : UInt8
  o2 : UInt8
  o3 : UInt8
  o4 : UInt8
  o5 : UInt8
  deriving DecidableEq, Repr

namespace Mac

def octets (mac : Mac) : List UInt8 := [mac.o0, mac.o1, mac.o2, mac.o3, mac.o4, mac.o5]

def load (memory : Memory) (offset : Nat) : Mac :=
  ⟨memory offset, memory (offset + 1), memory (offset + 2), memory (offset + 3),
    memory (offset + 4), memory (offset + 5)⟩

def broadcast : Mac := ⟨0xff, 0xff, 0xff, 0xff, 0xff, 0xff⟩

end Mac

end DAIM.OpenFlow
