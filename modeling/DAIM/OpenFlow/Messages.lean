import DAIM.OpenFlow.Layout

/-!
# OpenFlow 1.0 messages

What the byte strings on the wire mean: the decoders read every field at the
offset and in the byte order of the protocol, independently of how a
controller writes it.  `WellFormed` is the form that every message must have.
-/

namespace DAIM.OpenFlow

open DAIM.Library

/-- The address a byte string carries at `offset`. -/
def Mac.ofBytes (bytes : List UInt8) (offset : Nat) : Mac :=
  ⟨bytes.getD offset 0, bytes.getD (offset + 1) 0, bytes.getD (offset + 2) 0,
    bytes.getD (offset + 3) 0, bytes.getD (offset + 4) 0, bytes.getD (offset + 5) 0⟩

/-! ## Actions -/

structure ActionOutput where
  port : UInt16
  maxLen : UInt16
  deriving DecidableEq, Repr

def ActionOutput.encode (action : ActionOutput) : List UInt8 :=
  network 2 ofpatOutput.toNat ++ network 2 8 ++ network 2 action.port.toNat ++
    network 2 action.maxLen.toNat

/-- Decode a list of output actions. -/
def decodeActions : List UInt8 → Option (List ActionOutput)
  | [] => some []
  | t0 :: t1 :: l0 :: l1 :: p0 :: p1 :: m0 :: m1 :: rest =>
      if decode [t0, t1] = ofpatOutput.toNat ∧ decode [l0, l1] = 8 then
        (decodeActions rest).map
          (⟨UInt16.ofNat (decode [p0, p1]), UInt16.ofNat (decode [m0, m1])⟩ :: ·)
      else
        none
  | _ => none

/-! ## Flow modifications -/

structure Match where
  wildcards : UInt32
  inPort : UInt16
  dlSrc : Mac
  dlDst : Mac
  dlVlan : UInt16
  dlVlanPcp : UInt8
  dlType : UInt16
  nwTos : UInt8
  nwProto : UInt8
  nwSrc : UInt32
  nwDst : UInt32
  tpSrc : UInt16
  tpDst : UInt16
  deriving DecidableEq, Repr

structure FlowMod where
  xid : UInt32
  fields : Match
  cookie : UInt64
  command : UInt16
  idleTimeout : UInt16
  hardTimeout : UInt16
  priority : UInt16
  bufferId : UInt32
  outPort : UInt16
  flags : UInt16
  actions : List ActionOutput
  deriving DecidableEq, Repr

def Match.encode (fields : Match) : List UInt8 :=
  List.flatten
    [network 4 fields.wildcards.toNat, network 2 fields.inPort.toNat, fields.dlSrc.octets,
      fields.dlDst.octets, network 2 fields.dlVlan.toNat, [fields.dlVlanPcp, 0],
      network 2 fields.dlType.toNat, [fields.nwTos, fields.nwProto, 0, 0],
      network 4 fields.nwSrc.toNat, network 4 fields.nwDst.toNat,
      network 2 fields.tpSrc.toNat, network 2 fields.tpDst.toNat]

/-- The match structure at `offset`. -/
def Match.decode (bytes : List UInt8) (offset : Nat) : Match where
  wildcards := be32 bytes (offset + OfpMatch.wildcards)
  inPort := be16 bytes (offset + OfpMatch.inPort)
  dlSrc := Mac.ofBytes bytes (offset + OfpMatch.dlSrc)
  dlDst := Mac.ofBytes bytes (offset + OfpMatch.dlDst)
  dlVlan := be16 bytes (offset + OfpMatch.dlVlan)
  dlVlanPcp := bytes.getD (offset + OfpMatch.dlVlanPcp) 0
  dlType := be16 bytes (offset + OfpMatch.dlType)
  nwTos := bytes.getD (offset + OfpMatch.nwTos) 0
  nwProto := bytes.getD (offset + OfpMatch.nwProto) 0
  nwSrc := be32 bytes (offset + OfpMatch.nwSrc)
  nwDst := be32 bytes (offset + OfpMatch.nwDst)
  tpSrc := be16 bytes (offset + OfpMatch.tpSrc)
  tpDst := be16 bytes (offset + OfpMatch.tpDst)

/-- The type of a message, and whether the header is that of one message. -/
def messageType (bytes : List UInt8) : UInt8 := bytes.getD OfpHeader.type 0

structure Framed (bytes : List UInt8) : Prop where
  header : OfpHeader.size ≤ bytes.length
  version : bytes.getD OfpHeader.version 0 = ofpVersion
  length : (be16 bytes OfpHeader.length).toNat = bytes.length

instance (bytes : List UInt8) : Decidable (Framed bytes) :=
  decidable_of_iff (OfpHeader.size ≤ bytes.length ∧ bytes.getD OfpHeader.version 0 = ofpVersion ∧
      (be16 bytes OfpHeader.length).toNat = bytes.length)
    ⟨fun ⟨header, version, length⟩ => ⟨header, version, length⟩,
      fun framed => ⟨framed.header, framed.version, framed.length⟩⟩

def FlowMod.decode (bytes : List UInt8) : Option FlowMod :=
  if Framed bytes ∧ messageType bytes = ofptFlowMod ∧ OfpFlowMod.size ≤ bytes.length then
    (decodeActions (bytes.drop OfpFlowMod.actions)).map fun actions =>
      { xid := be32 bytes OfpHeader.xid
        fields := Match.decode bytes OfpFlowMod.fields
        cookie := be64 bytes OfpFlowMod.cookie
        command := be16 bytes OfpFlowMod.command
        idleTimeout := be16 bytes OfpFlowMod.idleTimeout
        hardTimeout := be16 bytes OfpFlowMod.hardTimeout
        priority := be16 bytes OfpFlowMod.priority
        bufferId := be32 bytes OfpFlowMod.bufferId
        outPort := be16 bytes OfpFlowMod.outPort
        flags := be16 bytes OfpFlowMod.flags
        actions := actions }
  else
    none

theorem FlowMod.type_of_decode {bytes : List UInt8} {message : FlowMod}
    (decoded : FlowMod.decode bytes = some message) : messageType bytes = ofptFlowMod := by
  unfold FlowMod.decode at decoded
  split at decoded
  · rename_i valid
    exact valid.2.1
  · cases decoded

def FlowMod.encode (message : FlowMod) : List UInt8 :=
  List.flatten
    [[ofpVersion, ofptFlowMod],
      network 2 (OfpFlowMod.size + OfpActionOutput.size * message.actions.length),
      network 4 message.xid.toNat, message.fields.encode, network 8 message.cookie.toNat,
      network 2 message.command.toNat, network 2 message.idleTimeout.toNat,
      network 2 message.hardTimeout.toNat, network 2 message.priority.toNat,
      network 4 message.bufferId.toNat, network 2 message.outPort.toNat,
      network 2 message.flags.toNat] ++
    message.actions.flatMap ActionOutput.encode

/-! ## Packets sent by the controller -/

structure PacketOut where
  xid : UInt32
  bufferId : UInt32
  inPort : UInt16
  actions : List ActionOutput
  data : List UInt8
  deriving DecidableEq, Repr

def PacketOut.decode (bytes : List UInt8) : Option PacketOut :=
  let actionsLen := (be16 bytes OfpPacketOut.actionsLen).toNat
  if Framed bytes ∧ messageType bytes = ofptPacketOut ∧
      OfpPacketOut.size + actionsLen ≤ bytes.length then
    (decodeActions ((bytes.drop OfpPacketOut.actions).take actionsLen)).map fun actions =>
      { xid := be32 bytes OfpHeader.xid
        bufferId := be32 bytes OfpPacketOut.bufferId
        inPort := be16 bytes OfpPacketOut.inPort
        actions := actions
        data := bytes.drop (OfpPacketOut.actions + actionsLen) }
  else
    none

theorem PacketOut.type_of_decode {bytes : List UInt8} {message : PacketOut}
    (decoded : PacketOut.decode bytes = some message) : messageType bytes = ofptPacketOut := by
  unfold PacketOut.decode at decoded
  simp only at decoded
  split at decoded
  · rename_i valid
    exact valid.2.1
  · cases decoded

def PacketOut.encode (message : PacketOut) : List UInt8 :=
  List.flatten
    [[ofpVersion, ofptPacketOut],
      network 2 (OfpPacketOut.size + OfpActionOutput.size * message.actions.length +
        message.data.length),
      network 4 message.xid.toNat, network 4 message.bufferId.toNat,
      network 2 message.inPort.toNat,
      network 2 (OfpActionOutput.size * message.actions.length)] ++
    (message.actions.flatMap ActionOutput.encode ++ message.data)

/-! ## Well-formed messages -/

/-- An action area that consists of whole actions, each as long as its own
length says. -/
inductive Tiled : List UInt8 → Prop where
  | nil : Tiled []
  | cons {action rest : List UInt8} :
      (be16 action OfpActionOutput.len).toNat = action.length →
      0 < action.length → 8 ∣ action.length → Tiled rest → Tiled (action ++ rest)

/-- The fixed part of each type that a controller sends, and its action area. -/
inductive Body (bytes : List UInt8) : Prop where
  | hello : messageType bytes = ofptHello → Body bytes
  | echoReply : messageType bytes = ofptEchoReply → Body bytes
  | featuresRequest : messageType bytes = ofptFeaturesRequest →
      bytes.length = OfpHeader.size → Body bytes
  | setConfig : messageType bytes = ofptSetConfig →
      bytes.length = OfpSwitchConfig.size → Body bytes
  | packetOut : messageType bytes = ofptPacketOut →
      OfpPacketOut.size + (be16 bytes OfpPacketOut.actionsLen).toNat ≤ bytes.length →
      Tiled ((bytes.drop OfpPacketOut.actions).take
        (be16 bytes OfpPacketOut.actionsLen).toNat) → Body bytes
  | flowMod : messageType bytes = ofptFlowMod → OfpFlowMod.size ≤ bytes.length →
      Tiled (bytes.drop OfpFlowMod.actions) → Body bytes

/-- One complete message of OpenFlow 1.0. -/
structure WellFormed (bytes : List UInt8) : Prop where
  framed : Framed bytes
  body : Body bytes

/-- What a discovery packet carries: an Ethernet header and one message that
fills the rest of the frame. -/
structure DiscoveryFrame (frame : List UInt8) : Prop where
  complete : OfEthernet.size + AnimHeader.size ≤ frame.length
  type : be16 frame OfEthernet.type = lldpData
  length : OfEthernet.size + (be16 frame (OfEthernet.size + AnimHeader.length)).toNat =
    frame.length

/-- A well-formed packet whose data is a discovery frame. -/
structure DiscoveryPacketOut (bytes : List UInt8) : Prop where
  wellFormed : WellFormed bytes
  type : messageType bytes = ofptPacketOut
  frame : DiscoveryFrame
    (bytes.drop (OfpPacketOut.size + (be16 bytes OfpPacketOut.actionsLen).toNat))

/-! ## Round trips -/

@[simp]
theorem ActionOutput.length_encode (action : ActionOutput) :
    action.encode.length = OfpActionOutput.size := by
  simp [ActionOutput.encode]

theorem length_encodeActions (actions : List ActionOutput) :
    (actions.flatMap ActionOutput.encode).length = 8 * actions.length := by
  induction actions with
  | nil => rfl
  | cons action rest inductionHypothesis =>
      have this : action.encode.length = 8 := action.length_encode
      rw [List.flatMap_cons, List.length_append, inductionHypothesis, List.length_cons, this]
      omega

theorem decodeActions_encode (actions : List ActionOutput) :
    decodeActions (actions.flatMap ActionOutput.encode) = some actions := by
  induction actions with
  | nil => rfl
  | cons action rest inductionHypothesis =>
      have port : UInt16.ofNat (decode (network 2 action.port.toNat)) = action.port := by
        rw [decode_network_of_lt action.port.toNat_lt, UInt16.ofNat_toNat]
      have maxLen : UInt16.ofNat (decode (network 2 action.maxLen.toNat)) = action.maxLen := by
        rw [decode_network_of_lt action.maxLen.toNat_lt, UInt16.ofNat_toNat]
      have unfolded : decodeActions (action.encode ++ rest.flatMap ActionOutput.encode) =
          (decodeActions (rest.flatMap ActionOutput.encode)).map
            (⟨UInt16.ofNat (decode (network 2 action.port.toNat)),
              UInt16.ofNat (decode (network 2 action.maxLen.toNat))⟩ :: ·) := rfl
      rw [List.flatMap_cons, unfolded, inductionHypothesis, port, maxLen]
      rfl

theorem tiled_encodeActions (actions : List ActionOutput) :
    Tiled (actions.flatMap ActionOutput.encode) := by
  induction actions with
  | nil => exact .nil
  | cons action rest inductionHypothesis =>
      have length : action.encode.length = 8 := action.length_encode
      have field : be16 action.encode OfpActionOutput.len = 8 := be16_eq rfl
      rw [List.flatMap_cons]
      apply Tiled.cons _ _ _ inductionHypothesis
      · rw [field, length]
        rfl
      · rw [length]
        decide
      · exact ⟨1, by rw [length]⟩

theorem FlowMod.length_encode (message : FlowMod) :
    message.encode.length = 72 + 8 * message.actions.length := by
  rw [FlowMod.encode, List.length_append, length_encodeActions]
  simp [Match.encode, Mac.octets]

theorem PacketOut.length_encode (message : PacketOut) :
    message.encode.length = 16 + 8 * message.actions.length + message.data.length := by
  rw [PacketOut.encode, List.length_append, List.length_append, length_encodeActions]
  simp [Nat.add_assoc]

/-- A header that names the number of octets of its message. -/
theorem framed_of_length {bytes : List UInt8} (header : 8 ≤ bytes.length)
    (version : bytes.getD 0 0 = ofpVersion)
    (length : (bytes.drop 2).take 2 = network 2 bytes.length) (bounded : bytes.length < 65536) :
    Framed bytes := by
  refine ⟨header, version, ?_⟩
  rw [be16, length, decode_network_of_lt bounded, UInt16.toNat_ofNat', Nat.mod_eq_of_lt bounded]

theorem FlowMod.framed_encode {message : FlowMod}
    (bounded : 72 + 8 * message.actions.length < 65536) : Framed message.encode := by
  have length := message.length_encode
  apply framed_of_length (by omega) rfl _ (by omega)
  rw [length]
  rfl

theorem PacketOut.framed_encode {message : PacketOut}
    (bounded : 16 + 8 * message.actions.length + message.data.length < 65536) :
    Framed message.encode := by
  have length := message.length_encode
  apply framed_of_length (by omega) rfl _ (by omega)
  rw [length]
  rfl

theorem Match.decode_drop (bytes : List UInt8) (offset : Nat) :
    Match.decode bytes offset = Match.decode (bytes.drop offset) 0 := by
  simp [Match.decode, Mac.ofBytes, be16, be32, List.drop_drop, Nat.add_assoc]

/-- A match structure is read back field by field. -/
theorem Match.decode_encode (fields : Match) (rest : List UInt8) :
    Match.decode (fields.encode ++ rest) 0 = fields := by
  have wildcards : be32 (fields.encode ++ rest) (0 + OfpMatch.wildcards) = fields.wildcards :=
    be32_eq rfl
  have inPort : be16 (fields.encode ++ rest) (0 + OfpMatch.inPort) = fields.inPort := be16_eq rfl
  have dlVlan : be16 (fields.encode ++ rest) (0 + OfpMatch.dlVlan) = fields.dlVlan := be16_eq rfl
  have dlType : be16 (fields.encode ++ rest) (0 + OfpMatch.dlType) = fields.dlType := be16_eq rfl
  have nwSrc : be32 (fields.encode ++ rest) (0 + OfpMatch.nwSrc) = fields.nwSrc := be32_eq rfl
  have nwDst : be32 (fields.encode ++ rest) (0 + OfpMatch.nwDst) = fields.nwDst := be32_eq rfl
  have tpSrc : be16 (fields.encode ++ rest) (0 + OfpMatch.tpSrc) = fields.tpSrc := be16_eq rfl
  have tpDst : be16 (fields.encode ++ rest) (0 + OfpMatch.tpDst) = fields.tpDst := be16_eq rfl
  unfold Match.decode
  rw [wildcards, inPort, dlVlan, dlType, nwSrc, nwDst, tpSrc, tpDst]
  rfl

theorem FlowMod.complete_encode (message : FlowMod) :
    OfpFlowMod.size ≤ message.encode.length := by
  rw [message.length_encode]
  exact Nat.le_add_right _ _

/-- Decoding what was encoded gives the flow modification back. -/
theorem FlowMod.decode_encode {message : FlowMod}
    (bounded : 72 + 8 * message.actions.length < 65536) :
    FlowMod.decode message.encode = some message := by
  have split : message.encode.drop OfpFlowMod.fields =
      message.fields.encode ++ message.encode.drop 48 := rfl
  have matched : Match.decode message.encode OfpFlowMod.fields = message.fields := by
    rw [Match.decode_drop, split, Match.decode_encode]
  have actions : message.encode.drop OfpFlowMod.actions =
      message.actions.flatMap ActionOutput.encode := rfl
  have xid : be32 message.encode OfpHeader.xid = message.xid := be32_eq rfl
  have cookie : be64 message.encode OfpFlowMod.cookie = message.cookie := be64_eq rfl
  have command : be16 message.encode OfpFlowMod.command = message.command := be16_eq rfl
  have idle : be16 message.encode OfpFlowMod.idleTimeout = message.idleTimeout := be16_eq rfl
  have hard : be16 message.encode OfpFlowMod.hardTimeout = message.hardTimeout := be16_eq rfl
  have priority : be16 message.encode OfpFlowMod.priority = message.priority := be16_eq rfl
  have bufferId : be32 message.encode OfpFlowMod.bufferId = message.bufferId := be32_eq rfl
  have outPort : be16 message.encode OfpFlowMod.outPort = message.outPort := be16_eq rfl
  have flags : be16 message.encode OfpFlowMod.flags = message.flags := be16_eq rfl
  unfold FlowMod.decode
  rw [if_pos ⟨framed_encode bounded, rfl, complete_encode message⟩, actions, decodeActions_encode,
    matched, xid, cookie, command, idle, hard, priority, bufferId, outPort, flags]
  rfl

namespace PacketOut

variable {message : PacketOut}
variable (bounded : 16 + 8 * message.actions.length + message.data.length < 65536)

include bounded

theorem actionsLen_encode :
    (be16 message.encode OfpPacketOut.actionsLen).toNat = 8 * message.actions.length := by
  have small : 8 * message.actions.length < 65536 := by omega
  have field : (message.encode.drop OfpPacketOut.actionsLen).take 2 =
      network 2 (8 * message.actions.length) := rfl
  rw [be16, field, decode_network_of_lt small, UInt16.toNat_ofNat', Nat.mod_eq_of_lt small]

theorem complete_encode :
    OfpPacketOut.size + (be16 message.encode OfpPacketOut.actionsLen).toNat ≤
      message.encode.length := by
  rw [actionsLen_encode bounded, message.length_encode]
  exact Nat.le_add_right _ _

theorem actions_encode :
    (message.encode.drop OfpPacketOut.actions).take
      (be16 message.encode OfpPacketOut.actionsLen).toNat =
      message.actions.flatMap ActionOutput.encode := by
  have area : message.encode.drop OfpPacketOut.actions =
      message.actions.flatMap ActionOutput.encode ++ message.data := rfl
  rw [actionsLen_encode bounded, area, ← length_encodeActions, List.take_left]

theorem data_encode :
    message.encode.drop
      (OfpPacketOut.actions + (be16 message.encode OfpPacketOut.actionsLen).toNat) =
      message.data := by
  have area : message.encode.drop OfpPacketOut.actions =
      message.actions.flatMap ActionOutput.encode ++ message.data := rfl
  rw [actionsLen_encode bounded, ← List.drop_drop, area, ← length_encodeActions, List.drop_left]

/-- Decoding what was encoded gives the packet back. -/
theorem decode_encode : PacketOut.decode message.encode = some message := by
  have xid : be32 message.encode OfpHeader.xid = message.xid := be32_eq rfl
  have bufferId : be32 message.encode OfpPacketOut.bufferId = message.bufferId := be32_eq rfl
  have inPort : be16 message.encode OfpPacketOut.inPort = message.inPort := be16_eq rfl
  unfold PacketOut.decode
  simp only
  rw [if_pos ⟨framed_encode bounded, rfl, complete_encode bounded⟩, actions_encode bounded,
    data_encode bounded, decodeActions_encode, xid, bufferId, inPort]
  rfl

/-- What is encoded is well formed. -/
theorem wellFormed_encode : WellFormed message.encode := by
  refine ⟨framed_encode bounded, .packetOut rfl (complete_encode bounded) ?_⟩
  rw [actions_encode bounded]
  exact tiled_encodeActions message.actions

theorem discovery_encode (frame : DiscoveryFrame message.data) :
    DiscoveryPacketOut message.encode := by
  refine ⟨wellFormed_encode bounded, rfl, ?_⟩
  rwa [show OfpPacketOut.size = OfpPacketOut.actions from rfl, data_encode bounded]

end PacketOut

theorem FlowMod.wellFormed_encode {message : FlowMod}
    (bounded : 72 + 8 * message.actions.length < 65536) : WellFormed message.encode := by
  refine ⟨framed_encode bounded, .flowMod rfl (complete_encode message) ?_⟩
  have area : message.encode.drop OfpFlowMod.actions =
      message.actions.flatMap ActionOutput.encode := rfl
  rw [area]
  exact tiled_encodeActions message.actions

end DAIM.OpenFlow
