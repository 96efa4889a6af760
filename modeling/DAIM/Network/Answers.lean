import Mathlib.Data.List.GetD
import DAIM.Ani41.Sent
import DAIM.Network.Controllers

/-!
# Answers in the network

The fields that `action_packout` reads in a report are those of the reported
frame, and what a handler sends concerns that frame or is a discovery frame of
the controller.
-/

namespace DAIM.Network

open DAIM.Library DAIM.OpenFlow DAIM.Linked DAIM.Com DAIM.Hosts DAIM.Ani41

/-! ## The beginning of a frame -/

section Parts

variable {part frame : Frame}

theorem getD_of_part (inside : part <+: frame) {index : Nat} (bounded : index < part.length) :
    frame.getD index 0 = part.getD index 0 := by
  obtain ⟨rest, rfl⟩ := inside
  exact List.getD_append part rest 0 index bounded

theorem be16_of_part (inside : part <+: frame) {offset : Nat}
    (bounded : offset + 2 ≤ part.length) : be16 frame offset = be16 part offset := by
  obtain ⟨rest, rfl⟩ := inside
  have remains : 2 ≤ (part.drop offset).length := by
    rw [List.length_drop]
    omega
  rw [be16, be16, List.drop_append_of_le_length (by omega), List.take_append_of_le_length remains]

theorem frameType_of_part (inside : part <+: frame) (header : OfEthernet.size ≤ part.length) :
    frameType frame = frameType part :=
  be16_of_part inside header

theorem frameSrc_of_part (inside : part <+: frame) (header : OfEthernet.size ≤ part.length) :
    frameSrc frame = frameSrc part := by
  have octet (index : Nat) (bounded : index < OfEthernet.size) :
      frame.getD index 0 = part.getD index 0 :=
    getD_of_part inside (Nat.lt_of_lt_of_le bounded header)
  unfold frameSrc Mac.ofBytes
  congr 1
  all_goals exact octet _ (by decide)

end Parts

/-! ## Reports -/

namespace Reports

variable {bytes : List UInt8} {inPort : UInt16} {frame : Frame} {memory : Memory}

theorem header_part (reports : Reports bytes inPort frame) :
    OfEthernet.size ≤ (packetInFrame bytes).length := by
  have kept := reports.enough.length_le
  have whole := reports.header
  rw [List.length_take] at kept
  have header : OfEthernet.size ≤ missSendLen := by decide
  omega

theorem complete (reports : Reports bytes inPort frame) : 32 ≤ bytes.length := by
  have header : 14 ≤ (packetInFrame bytes).length := reports.header_part
  have rest := length_packetInFrame bytes
  omega

/-- The fields that `action_packout` reads are those of the frame. -/
theorem read (reports : Reports bytes inPort frame) (starts : memory.Starts bytes) :
    (parsePacketIn memory).inPort = inPort ∧ (parsePacketIn memory).src = frameSrc frame ∧
      (parsePacketIn memory).type = frameType frame := by
  rw [parsePacketIn_eq starts reports.complete]
  exact ⟨reports.inPort, (frameSrc_of_part reports.part reports.header_part).symm,
    (frameType_of_part reports.part reports.header_part).symm⟩

/-- A short frame is reported as a whole. -/
theorem whole (reports : Reports bytes inPort frame) (short : frame.length ≤ missSendLen) :
    packetInFrame bytes = frame := by
  have enough := reports.enough
  rw [List.take_of_length_le short] at enough
  exact reports.part.eq_of_length_le enough.length_le

end Reports

/-- A switch that reports whole frames. -/
theorem reports_encode {message : PacketInMessage} (header : OfEthernet.size ≤ message.data.length)
    (bounded : 18 + message.data.length < 65536) :
    Reports message.encode message.inPort message.data := by
  have length := message.length_encode
  have whole : packetInFrame message.encode = message.data := rfl
  refine ⟨framed_of_length (by omega) rfl ?_ (by omega), rfl, be16_eq rfl, header, ?_, ?_⟩
  · rw [length]
    rfl
  · rw [whole]
  · rw [whole]
    exact List.take_prefix _ _

theorem Message.Valid.report {message : Message} (valid : message.Valid) {inPort : UInt16}
    {frame : Frame} (about : message.about = some (inPort, frame)) :
    Reports message.bytes inPort frame := by
  cases message with
  | report port reported bytes =>
      cases about
      exact valid
  | other bytes => cases about

/-- `action_packout` is called for reports, and for every report. -/
theorem handler_eq_packout_iff {call : Call} {message : Message}
    (takes : Takes call message.bytes) (valid : message.Valid) :
    call.handler = .packout ↔ ∃ inPort frame, message.about = some (inPort, frame) := by
  have dispatched := takes.handler
  constructor
  · intro handler
    rw [handler, dispatch_eq_some_iff] at dispatched
    cases message with
    | report inPort frame bytes => exact ⟨inPort, frame, rfl⟩
    | other bytes => exact absurd dispatched valid.2
  · rintro ⟨inPort, frame, about⟩
    have chosen : dispatch _ = some Handler.packout :=
      dispatch_eq_some_iff.mpr (valid.report about).type
    rw [chosen] at dispatched
    exact (Option.some.inj dispatched).symm

/-! ## What is sent -/

/-- What a call of a handler sends, when its message is about a frame. -/
inductive Answers (call : Call) (about : Option (UInt16 × Frame)) (bytes : List UInt8) : Prop where
  | plain : PacketOut.decode bytes = none → FlowMod.decode bytes = none →
      Answers call about bytes
  | flood {inPort : UInt16} {frame : Frame} {packet : PacketOut} :
      about = some (inPort, frame) → frameType frame ≠ lldpData →
      PacketOut.decode bytes = some packet → packet.data = [] → FlowMod.decode bytes = none →
      Answers call about bytes
  | reply {inPort : UInt16} {frame : Frame} :
      about = some (inPort, frame) → IsDiscovery call.message animEchoRequest →
      call.sent = [bytes] → bytes = (discoveryPacket inPort .echoReply).encode →
      Answers call about bytes
  | flow {inPort : UInt16} {frame : Frame} {flow : FlowMod} :
      about = some (inPort, frame) → frameType frame ≠ lldpData →
      PacketOut.decode bytes = none → FlowMod.decode bytes = some flow →
      flow.fields.dlType = frameType frame → flow.fields.dlSrc = frameSrc frame →
      Answers call about bytes

theorem packetOut_decode_none {bytes : List UInt8} (type : messageType bytes ≠ ofptPacketOut) :
    PacketOut.decode bytes = none :=
  Option.eq_none_iff_forall_ne_some.mpr fun _ decoded => type (PacketOut.type_of_decode decoded)

theorem flowMod_decode_none {bytes : List UInt8} (type : messageType bytes ≠ ofptFlowMod) :
    FlowMod.decode bytes = none :=
  Option.eq_none_iff_forall_ne_some.mpr fun _ decoded => type (FlowMod.type_of_decode decoded)

theorem packetOut_not_flowMod (packet : PacketOut) : FlowMod.decode packet.encode = none :=
  flowMod_decode_none (show ofptPacketOut ≠ ofptFlowMod by decide)

/-- What a handler sends in a step of its controller. -/
theorem answers_of_handled {p q : Process} {call : Call} {message : Message} {tables : Tables}
    {bytes : List UInt8} (takes : Takes call message.bytes) (valid : message.Valid)
    (shows : p.ani.Shows tables) (step : Process.Step p (.handled call) q)
    (sent : bytes ∈ call.sent) : Answers call message.about bytes := by
  obtain ⟨started, ofBuffer, outcome, called⟩ := step.called
  rcases called.sent_cases shows sent with ⟨-, plain⟩ | ⟨packout, answered⟩
  · obtain ⟨noPacket, noFlow⟩ := plain.type
    exact .plain (packetOut_decode_none noPacket) (flowMod_decode_none noFlow)
  · obtain ⟨inPort, frame, about⟩ := (handler_eq_packout_iff takes valid).mp packout
    obtain ⟨readPort, readSrc, readType⟩ := (valid.report about).read takes.whole
    have all := (called.packout shows packout).2
    rcases answer_cases p.ani.cbench
        (tables.packout (call.env.allocated 0) p.ani.switchId call.message).hosts call.message with
      silent | ⟨flood, notLldp⟩ | ⟨reply, request⟩ |
      ⟨notLldp, nwSrc, nwDst, tpSrc, tpDst, nwProto, port, flow⟩
    · rw [silent] at answered
      cases answered
    · rw [flood] at answered
      cases List.mem_singleton.mp answered
      rw [readType] at notLldp
      have decoded : PacketOut.decode (floodAnswer (parsePacketIn call.message)).encode =
          some (floodAnswer (parsePacketIn call.message)) :=
        PacketOut.decode_encode (by show 24 < 65536; decide)
      exact .flood about notLldp decoded rfl (packetOut_not_flowMod _)
    · rw [reply] at answered all
      cases List.mem_singleton.mp answered
      rw [readPort] at *
      exact .reply about request all rfl
    · rw [flow] at answered
      cases List.mem_singleton.mp answered
      rw [readType] at notLldp
      have decoded : FlowMod.decode (flowAnswer (parsePacketIn call.message) nwSrc nwDst tpSrc
          tpDst nwProto (parsePacketIn call.message).type port).encode = some _ :=
        FlowMod.decode_encode (by show 80 < 65536; decide)
      exact .flow about notLldp (packetOut_decode_none (show ofptFlowMod ≠ ofptPacketOut by decide))
        decoded readType readSrc

end DAIM.Network
