import DAIM.OpenFlow.Messages

/-!
# The message encoders of `com.cpp`

Each function fills in a message at the start of the buffer it is given and
leaves every octet it does not assign as it was.
-/

namespace DAIM.Com

open DAIM.Library DAIM.OpenFlow

def createOfHello (packet : Memory) (transactionId : UInt32) : Memory :=
  packet
    |>.store8 OfpHeader.version ofpVersion
    |>.store8 OfpHeader.type ofptHello
    |>.store32 OfpHeader.xid transactionId
    |>.store16 OfpHeader.length (htons (UInt16.ofNat OfpHeader.size))

def createOfEchoReply (packet : Memory) (transactionId : UInt32) : Memory :=
  packet
    |>.store8 OfpHeader.version ofpVersion
    |>.store8 OfpHeader.type ofptEchoReply
    |>.store32 OfpHeader.xid transactionId
    |>.store16 OfpHeader.length (htons (UInt16.ofNat OfpHeader.size))

def createOfFeaturesRequest (packet : Memory) (transactionId : UInt32) : Memory :=
  packet
    |>.store8 OfpHeader.version ofpVersion
    |>.store8 OfpHeader.type ofptFeaturesRequest
    |>.store32 OfpHeader.xid transactionId
    |>.store16 OfpHeader.length (htons (UInt16.ofNat OfpHeader.size))

def createOfSwitchConfig (packet : Memory) (transactionId : UInt32)
    (flags missSendLen : UInt16) : Memory :=
  packet
    |>.store8 OfpHeader.version ofpVersion
    |>.store8 OfpHeader.type ofptSetConfig
    |>.store32 OfpHeader.xid transactionId
    |>.store16 OfpHeader.length (htons (UInt16.ofNat OfpSwitchConfig.size))
    |>.store16 OfpSwitchConfig.flags flags
    |>.store16 OfpSwitchConfig.missSendLen missSendLen

def createOfPacketOut (packet : Memory) (transactionId bufferId : UInt32)
    (inputPort actionsLength dataLength : UInt16) : Memory :=
  packet
    |>.store8 OfpHeader.version ofpVersion
    |>.store8 OfpHeader.type ofptPacketOut
    |>.store32 OfpHeader.xid transactionId
    |>.store16 OfpHeader.length
      (htons (UInt16.ofNat (OfpPacketOut.size + actionsLength.toNat + dataLength.toNat)))
    |>.store32 OfpPacketOut.bufferId bufferId
    |>.store16 OfpPacketOut.inPort inputPort
    |>.store16 OfpPacketOut.actionsLen (htons actionsLength)

def createOfFlowMod (packet : Memory) (transactionId : UInt32) (inputPort outPort : UInt16)
    (bufferId : UInt32) (command : UInt16) (cookie : UInt64)
    (flags hardTimeout idleTimeout priority : UInt16)
    (wildcards ipAddrSrc ipAddrDst : UInt32) (ipPortSrc ipPortDst : UInt16)
    (ipProtocol ipTos : UInt8) (vlan : UInt16) (vlanPriority : UInt8)
    (ethSrc ethDst : Mac) (ethType actsLength : UInt16) : Memory :=
  packet
    |>.store8 OfpHeader.version ofpVersion
    |>.store8 OfpHeader.type ofptFlowMod
    |>.store32 OfpHeader.xid transactionId
    |>.store16 OfpHeader.length (htons (UInt16.ofNat (OfpFlowMod.size + actsLength.toNat)))
    |>.store16 (OfpFlowMod.fields + OfpMatch.inPort) inputPort
    |>.store32 (OfpFlowMod.fields + OfpMatch.wildcards) wildcards
    |>.store8 (OfpFlowMod.fields + OfpMatch.nwProto) ipProtocol
    |>.store (OfpFlowMod.fields + OfpMatch.dlSrc) ethSrc.octets
    |>.store (OfpFlowMod.fields + OfpMatch.dlDst) ethDst.octets
    |>.store8 (OfpFlowMod.fields + OfpMatch.pad1) 0
    |>.store8 (OfpFlowMod.fields + OfpMatch.pad2) 0
    |>.store8 (OfpFlowMod.fields + OfpMatch.pad2 + 1) 0
    |>.store16 (OfpFlowMod.fields + OfpMatch.dlType) ethType
    |>.store32 (OfpFlowMod.fields + OfpMatch.nwSrc) ipAddrSrc
    |>.store32 (OfpFlowMod.fields + OfpMatch.nwDst) ipAddrDst
    |>.store8 (OfpFlowMod.fields + OfpMatch.nwTos) ipTos
    |>.store16 (OfpFlowMod.fields + OfpMatch.tpSrc) ipPortSrc
    |>.store16 (OfpFlowMod.fields + OfpMatch.tpDst) ipPortDst
    |>.store16 (OfpFlowMod.fields + OfpMatch.dlVlan) vlan
    |>.store8 (OfpFlowMod.fields + OfpMatch.dlVlanPcp) vlanPriority
    |>.store16 OfpFlowMod.outPort outPort
    |>.store32 OfpFlowMod.bufferId bufferId
    |>.store16 OfpFlowMod.command command
    |>.store64 OfpFlowMod.cookie cookie
    |>.store16 OfpFlowMod.flags flags
    |>.store16 OfpFlowMod.hardTimeout hardTimeout
    |>.store16 OfpFlowMod.idleTimeout idleTimeout
    |>.store16 OfpFlowMod.priority priority

/-- `packet` points `base` octets into the buffer. -/
def createOfActionOutput (buffer : Memory) (base : Nat) (maxLen outPort : UInt16) : Memory :=
  buffer
    |>.store16 (base + OfpActionOutput.type) (htons ofpatOutput)
    |>.store16 (base + OfpActionOutput.len) (htons 8)
    |>.store16 (base + OfpActionOutput.maxLen) maxLen
    |>.store16 (base + OfpActionOutput.port) outPort

/-- The octets passed to `send`: as many as the header length says. -/
def headerBytes (buffer : Memory) : List UInt8 :=
  buffer.slice 0 (ntohs (buffer.load16 OfpHeader.length)).toNat

/-! ## What the encoders write -/

theorem headerBytes_eq {buffer : Memory} (length : UInt16)
    (field : buffer.slice OfpHeader.length 2 = octets 2 (htons length).toNat) :
    headerBytes buffer = buffer.slice 0 length.toNat := by
  rw [headerBytes, ntohs_load16, field, octets_htons, decode_network_of_lt length.toNat_lt,
    UInt16.ofNat_toNat]

/-- A message that consists of its header. -/
def headerMessage (type : UInt8) (xid : UInt32) : List UInt8 :=
  List.flatten [[ofpVersion, type], network 2 OfpHeader.size, network 4 xid.toNat]

def switchConfigMessage (xid : UInt32) (flags missSendLen : UInt16) : List UInt8 :=
  List.flatten
    [[ofpVersion, ofptSetConfig], network 2 OfpSwitchConfig.size, network 4 xid.toNat,
      network 2 flags.toNat, network 2 missSendLen.toNat]

theorem createOfHello_bytes (packet : Memory) (xid : UInt32) :
    headerBytes (createOfHello packet (htonl xid)) = headerMessage ofptHello xid := by
  rw [headerBytes_eq 8 rfl, headerMessage, ← octets_htonl]
  rfl

theorem createOfEchoReply_bytes (packet : Memory) (xid : UInt32) :
    headerBytes (createOfEchoReply packet (htonl xid)) = headerMessage ofptEchoReply xid := by
  rw [headerBytes_eq 8 rfl, headerMessage, ← octets_htonl]
  rfl

theorem createOfFeaturesRequest_bytes (packet : Memory) (xid : UInt32) :
    headerBytes (createOfFeaturesRequest packet (htonl xid)) =
      headerMessage ofptFeaturesRequest xid := by
  rw [headerBytes_eq 8 rfl, headerMessage, ← octets_htonl]
  rfl

theorem createOfSwitchConfig_bytes (packet : Memory) (xid : UInt32) (flags missSendLen : UInt16) :
    headerBytes (createOfSwitchConfig packet (htonl xid) (htons flags) (htons missSendLen)) =
      switchConfigMessage xid flags missSendLen := by
  rw [headerBytes_eq 12 rfl, switchConfigMessage, ← octets_htonl, ← octets_htons, ← octets_htons]
  rfl

/-- A packet without data and with one output action. -/
theorem createOfPacketOut_bytes (packet : Memory) (xid bufferId : UInt32)
    (inPort maxLen port : UInt16) :
    headerBytes (createOfActionOutput
      (createOfPacketOut packet (htonl xid) (htonl bufferId) (htons inPort)
        (UInt16.ofNat OfpActionOutput.size) 0) OfpPacketOut.actions (htons maxLen) (htons port)) =
      PacketOut.encode { xid, bufferId, inPort, actions := [{ port, maxLen }], data := [] } := by
  rw [headerBytes_eq 24 rfl]
  have widths : (24 : UInt16).toNat = [1, 1, 2, 4, 4, 2, 2, 2, 2, 2, 2].sum := rfl
  rw [widths, Memory.slice_sum]
  unfold PacketOut.encode
  simp only [List.length_cons, List.length_nil, List.flatMap_cons, List.flatMap_nil,
    ActionOutput.encode, ← octets_htons, ← octets_htonl]
  rfl

/-- A flow modification with one output action; every octet of it is written. -/
theorem createOfFlowMod_bytes (packet : Memory) (xid : UInt32) (inPort outPort : UInt16)
    (bufferId : UInt32) (command : UInt16) (cookie : UInt64)
    (flags hardTimeout idleTimeout priority : UInt16)
    (wildcards nwSrc nwDst : UInt32) (tpSrc tpDst : UInt16) (nwProto nwTos : UInt8)
    (dlVlan : UInt16) (dlVlanPcp : UInt8) (dlSrc dlDst : Mac) (dlType maxLen port : UInt16) :
    headerBytes (createOfActionOutput
      (createOfFlowMod packet (htonl xid) (htons inPort) (htons outPort) (htonl bufferId)
        (htons command) (htobe64 cookie) (htons flags) (htons hardTimeout) (htons idleTimeout)
        (htons priority) (htonl wildcards) (htonl nwSrc) (htonl nwDst) (htons tpSrc) (htons tpDst)
        nwProto nwTos (htons dlVlan) dlVlanPcp dlSrc dlDst (htons dlType)
        (UInt16.ofNat OfpActionOutput.size)) OfpFlowMod.actions (htons maxLen) (htons port)) =
      FlowMod.encode
        { xid, cookie, command, idleTimeout, hardTimeout, priority, bufferId, outPort, flags
          fields := { wildcards, inPort, dlSrc, dlDst, dlVlan, dlVlanPcp, dlType, nwTos, nwProto,
                      nwSrc, nwDst, tpSrc, tpDst }
          actions := [{ port, maxLen }] } := by
  rw [headerBytes_eq 80 rfl]
  have widths : (80 : UInt16).toNat =
      [1, 1, 2, 4, 4, 2, 6, 6, 2, 1, 1, 2, 1, 1, 1, 1, 4, 4, 2, 2, 8, 2, 2, 2, 2, 4, 2, 2,
        2, 2, 2, 2].sum := rfl
  rw [widths, Memory.slice_sum]
  unfold FlowMod.encode Match.encode
  simp only [List.length_cons, List.length_nil, List.flatMap_cons, List.flatMap_nil,
    ActionOutput.encode, ← octets_htons, ← octets_htonl, ← octets_htobe64]
  rfl

end DAIM.Com
