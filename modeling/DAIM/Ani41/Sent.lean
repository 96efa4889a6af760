import DAIM.Ani41.FlowMods

/-!
# What the controller sends

Every byte string passed to `send`, by a handler or by a discovery thread, is
one well-formed message; and an answer names the buffer of the packet that it
answers.
-/

namespace DAIM.Ani41

open DAIM.Library DAIM.OpenFlow DAIM.Linked DAIM.Com DAIM.Hosts

/-! ## Messages without a variable part -/

theorem headerMessage_framed (type : UInt8) (xid : UInt32) : Framed (headerMessage type xid) :=
  framed_of_length (Nat.le_refl 8) rfl rfl (by show 8 < 65536; decide)

theorem hello_wellFormed (xid : UInt32) : WellFormed (headerMessage ofptHello xid) :=
  ⟨headerMessage_framed _ xid, .hello rfl⟩

theorem echoReply_wellFormed (xid : UInt32) : WellFormed (headerMessage ofptEchoReply xid) :=
  ⟨headerMessage_framed _ xid, .echoReply rfl⟩

theorem featuresRequest_wellFormed (xid : UInt32) :
    WellFormed (headerMessage ofptFeaturesRequest xid) :=
  ⟨headerMessage_framed _ xid, .featuresRequest rfl rfl⟩

theorem switchConfig_wellFormed (xid : UInt32) (flags missSendLen : UInt16) :
    WellFormed (switchConfigMessage xid flags missSendLen) := by
  have framed : Framed (switchConfigMessage xid flags missSendLen) := by
    apply framed_of_length _ rfl rfl
    · show 12 < 65536
      decide
    · show 8 ≤ 12
      decide
  exact ⟨framed, .setConfig rfl rfl⟩

/-! ## Answers to packets -/

section Answers

variable {cbench : Bool} {hosts : List SwitchHost} {message : Memory}

/-- The four kinds of answers. -/
theorem answer_cases (cbench : Bool) (hosts : List SwitchHost) (message : Memory) :
    answer cbench hosts message = .silent ∨
      (answer cbench hosts message = .packetOut (floodAnswer (parsePacketIn message)) ∧
        (parsePacketIn message).type ≠ lldpData) ∨
      (answer cbench hosts message =
          .packetOut (discoveryPacket (parsePacketIn message).inPort .echoReply) ∧
        IsDiscovery message animEchoRequest) ∨
      ((parsePacketIn message).type ≠ lldpData ∧
        ∃ nwSrc nwDst tpSrc tpDst nwProto port,
          answer cbench hosts message = .flowMod
            (flowAnswer (parsePacketIn message) nwSrc nwDst tpSrc tpDst nwProto
              (parsePacketIn message).type port)) := by
  unfold answer flowOr
  simp only
  split
  · rename_i ip6
    split
    · exact .inr (.inl ⟨rfl, ne_of_eq_of_ne ip6 (by decide)⟩)
    · exact .inl rfl
  · split
    · rename_i arp
      have notLldp : (parsePacketIn message).type ≠ lldpData := ne_of_eq_of_ne arp (by decide)
      split
      · exact .inr (.inl ⟨rfl, notLldp⟩)
      · split
        · refine .inr (.inr (.inr ⟨notLldp, ?_⟩))
          rw [arp]
          exact ⟨_, _, _, _, _, _, rfl⟩
        · exact .inl rfl
    · split
      · rename_i ip
        have notLldp : (parsePacketIn message).type ≠ lldpData := ne_of_eq_of_ne ip (by decide)
        split
        · split
          · refine .inr (.inr (.inr ⟨notLldp, ?_⟩))
            rw [ip]
            exact ⟨_, _, _, _, _, _, rfl⟩
          · exact .inl rfl
        · split
          · exact .inr (.inl ⟨rfl, notLldp⟩)
          · exact .inl rfl
      · split
        · rename_i lldp
          split
          · rename_i request
            exact .inr (.inr (.inl ⟨rfl, lldp, request⟩))
          · exact .inl rfl
        · exact .inl rfl

theorem answer_wellFormed {bytes : List UInt8}
    (sent : bytes ∈ (answer cbench hosts message).bytes) :
    WellFormed bytes ∧ ((parsePacketIn message).type = lldpData → DiscoveryPacketOut bytes) := by
  rcases answer_cases cbench hosts message with silent | ⟨flood, notLldp⟩ | ⟨reply, -⟩ |
    ⟨notLldp, nwSrc, nwDst, tpSrc, tpDst, nwProto, port, flow⟩
  · rw [silent] at sent
    cases sent
  · rw [flood] at sent
    cases List.mem_singleton.mp sent
    exact ⟨PacketOut.wellFormed_encode (by show 24 < 65536; decide),
      fun lldp => absurd lldp notLldp⟩
  · rw [reply] at sent
    cases List.mem_singleton.mp sent
    have discovery := discoveryPacket_wellFormed (parsePacketIn message).inPort .echoReply
    exact ⟨discovery.wellFormed, fun _ => discovery⟩
  · rw [flow] at sent
    cases List.mem_singleton.mp sent
    exact ⟨FlowMod.wellFormed_encode (by show 80 < 65536; decide),
      fun lldp => absurd lldp notLldp⟩

end Answers

/-! ## Every message of every run -/

/-- The byte strings that an event passes to `send`. -/
def Event.sent : Event → List (List UInt8)
  | .handled call => call.sent
  | .shared _ bytes => [bytes]
  | _ => []

/-- The events whose messages are discovery packets: those of the discovery
threads and of the branch for LLDP. -/
def Event.Discovers : Event → Prop
  | .handled call => call.handler = .packout ∧ (parsePacketIn call.message).type = lldpData
  | .shared _ _ => True
  | _ => False

/-- What the handlers other than `action_packout` send. -/
inductive Plain (bytes : List UInt8) : Prop where
  | hello {xid : UInt32} : bytes = headerMessage ofptHello xid → Plain bytes
  | echoReply {xid : UInt32} : bytes = headerMessage ofptEchoReply xid → Plain bytes
  | featuresRequest {xid : UInt32} : bytes = headerMessage ofptFeaturesRequest xid → Plain bytes
  | switchConfig {xid : UInt32} {flags missSendLen : UInt16} :
      bytes = switchConfigMessage xid flags missSendLen → Plain bytes

theorem Plain.wellFormed {bytes : List UInt8} (plain : Plain bytes) : WellFormed bytes := by
  cases plain with
  | hello same => exact same ▸ hello_wellFormed _
  | echoReply same => exact same ▸ echoReply_wellFormed _
  | featuresRequest same => exact same ▸ featuresRequest_wellFormed _
  | switchConfig same => exact same ▸ switchConfig_wellFormed _ _ _

theorem Plain.type {bytes : List UInt8} (plain : Plain bytes) :
    messageType bytes ≠ ofptPacketOut ∧ messageType bytes ≠ ofptFlowMod := by
  cases plain with
  | hello same =>
      rw [same]
      exact ⟨show ofptHello ≠ _ by decide, show ofptHello ≠ _ by decide⟩
  | echoReply same =>
      rw [same]
      exact ⟨show ofptEchoReply ≠ _ by decide, show ofptEchoReply ≠ _ by decide⟩
  | featuresRequest same =>
      rw [same]
      exact ⟨show ofptFeaturesRequest ≠ _ by decide, show ofptFeaturesRequest ≠ _ by decide⟩
  | switchConfig same =>
      rw [same]
      exact ⟨show ofptSetConfig ≠ _ by decide, show ofptSetConfig ≠ _ by decide⟩

/-- Packets and flow modifications come from `action_packout` only. -/
theorem Called.sent_cases {p q : Process} {call : Call} {started : Ani} {ofBuffer : Nat}
    {outcome : Outcome} {tables : Tables} (called : Called p call q started ofBuffer outcome)
    (shows : p.ani.Shows tables) {bytes : List UInt8} (sent : bytes ∈ call.sent) :
    call.handler ≠ .packout ∧ Plain bytes ∨
      call.handler = .packout ∧ bytes ∈ (answer p.ani.cbench
        (tables.packout (call.env.allocated 0) p.ani.switchId call.message).hosts
        call.message).bytes := by
  have startedShows := called.shows shows
  have run := called.run
  cases handler : call.handler with
  | hello =>
      rw [handler] at run
      refine .inl ⟨by decide, ?_⟩
      obtain ⟨-, -, -, hello | both⟩ := actionHello_spec startedShows (Option.some.inj run)
      · rw [called.sent, hello] at sent
        exact .hello (List.mem_singleton.mp sent)
      · rw [called.sent, both] at sent
        rcases List.mem_cons.mp sent with same | rest
        · exact .hello same
        · exact .featuresRequest (List.mem_singleton.mp rest)
  | echo =>
      rw [handler] at run
      refine .inl ⟨by decide, ?_⟩
      obtain ⟨-, -, -, reply⟩ := actionEcho_spec startedShows (Option.some.inj run)
      rw [called.sent, reply] at sent
      exact .echoReply (List.mem_singleton.mp sent)
  | featuresReply =>
      rw [handler] at run
      refine .inl ⟨by decide, ?_⟩
      obtain ⟨-, -, -, -, -, result⟩ := actionFeaturesReply_spec startedShows run
      split at result
      · rw [called.sent, result.2.2.2.1] at sent
        cases sent
      · rw [called.sent, result.2.2.2] at sent
        exact .switchConfig (List.mem_singleton.mp sent)
  | packout =>
      rw [(called.packout shows handler).2] at sent
      exact .inr ⟨rfl, sent⟩

theorem Called.wellFormed {p q : Process} {call : Call} {started : Ani} {ofBuffer : Nat}
    {outcome : Outcome} {tables : Tables} (called : Called p call q started ofBuffer outcome)
    (shows : p.ani.Shows tables) {bytes : List UInt8} (sent : bytes ∈ call.sent) :
    WellFormed bytes ∧ ((Event.handled call).Discovers → DiscoveryPacketOut bytes) := by
  rcases called.sent_cases shows sent with ⟨other, plain⟩ | ⟨-, answered⟩
  · exact ⟨plain.wellFormed, fun discovers => absurd discovers.1 other⟩
  · obtain ⟨wellFormed, discovery⟩ := answer_wellFormed answered
    exact ⟨wellFormed, fun discovers => discovery discovers.2⟩

/-- A discovery thread sends a request out of a port, or names a port to the
switch that a reply came from. -/
theorem Process.Step.shared_cases {p q : Process} {index : Nat} {bytes : List UInt8}
    (step : Process.Step p (.shared index bytes) q) :
    (∃ port, bytes = (discoveryPacket port .echoRequest).encode) ∨
      ∃ address reply, p.ani.swReplys.readObject address = some reply ∧
        bytes = (discoveryPacket reply.portNo (.node p.ani.switchId reply.portNo)).encode := by
  cases step with
  | shared _ share =>
      rcases share.sent_cases with none | ⟨port, probe⟩ | ⟨address, reply, found, node⟩
      · cases none
      · exact .inl ⟨port, (Option.some.inj probe).trans (echoRequestPacketOut_bytes _)⟩
      · exact .inr ⟨address, reply, found, (Option.some.inj node).trans (nodePacketOut_bytes _ _)⟩

/-- Every byte string that any step passes to `send` is one well-formed
message, and those of the discovery are discovery packets. -/
theorem sent_wellFormed {cbench : Bool} {events : List Event} {p : Process}
    (run : Process.Reaches cbench events p) {event : Event} (happened : event ∈ events)
    {bytes : List UInt8} (sent : bytes ∈ event.sent) :
    WellFormed bytes ∧ (event.Discovers → DiscoveryPacketOut bytes) := by
  induction run with
  | refl => cases happened
  | @snoc events middle finish last earlier step inductionHypothesis =>
      rcases List.mem_append.mp happened with before | now
      · exact inductionHypothesis before
      · cases List.mem_singleton.mp now
        obtain ⟨tables, shows, -⟩ := Process.Reaches.tables earlier
        cases event with
        | handled call =>
            obtain ⟨started, ofBuffer, outcome, called⟩ := step.called
            exact called.wellFormed shows sent
        | shared index shared =>
            cases List.mem_singleton.mp sent
            rcases step.shared_cases with ⟨port, rfl⟩ | ⟨_, reply, -, rfl⟩
            · exact ⟨(discoveryPacket_wellFormed _ _).wellFormed,
                fun _ => discoveryPacket_wellFormed _ _⟩
            · exact ⟨(discoveryPacket_wellFormed _ _).wellFormed,
                fun _ => discoveryPacket_wellFormed _ _⟩
        | _ => cases sent

/-- The first message of a connection, and its answer. -/
def helloMessage : List UInt8 := headerMessage ofptHello 5

theorem sent_wellFormed_hello :
    ∃ events p, (Process.initial false).deliverAll [(helloMessage, .calm)] = some (events, p) ∧
      ∃ event ∈ events, ∃ bytes ∈ event.sent, WellFormed bytes := by
  have computed : (((Process.initial false).deliverAll [(helloMessage, .calm)]).map
      fun run => run.1.flatMap Event.sent) =
      some [headerMessage ofptHello 5, headerMessage ofptFeaturesRequest 6] := by decide
  obtain ⟨⟨events, p⟩, delivered, all⟩ := Option.map_eq_some_iff.mp computed
  have member : headerMessage ofptHello 5 ∈ events.flatMap Event.sent := by
    rw [show events.flatMap Event.sent = _ from all]
    exact List.mem_cons_self
  obtain ⟨event, happened, sent⟩ := List.mem_flatMap.mp member
  exact ⟨events, p, delivered, event, happened, _, sent,
    (sent_wellFormed (Process.deliverAll_run delivered) happened sent).1⟩

/-! ## The buffers that answers name -/

/-- The buffer that an answer names. -/
def bufferIdOf (answer : List UInt8) : UInt32 :=
  if messageType answer = ofptFlowMod then be32 answer OfpFlowMod.bufferId
  else be32 answer OfpPacketOut.bufferId

/-- For each answer the switch has the frame: in a buffer, or in the data of a
packet that is sent. -/
def FrameKept (frame : List UInt8) (sent : List (List UInt8)) : Prop :=
  ∀ answer ∈ sent, bufferIdOf answer ≠ noBuffer ∨
    ∃ packet ∈ sent, (PacketOut.decode packet).map PacketOut.data = some frame

instance (frame : List UInt8) (sent : List (List UInt8)) : Decidable (FrameKept frame sent) :=
  inferInstanceAs (Decidable (∀ answer ∈ sent, _ ∨ _))

theorem bufferIdOf_packetOut (message : PacketOut) :
    bufferIdOf message.encode = message.bufferId := by
  have type : messageType message.encode ≠ ofptFlowMod :=
    show ofptPacketOut ≠ ofptFlowMod by decide
  rw [bufferIdOf, if_neg type]
  exact be32_eq rfl

theorem bufferIdOf_flowMod (message : FlowMod) :
    bufferIdOf message.encode = message.bufferId := by
  have type : messageType message.encode = ofptFlowMod := rfl
  rw [bufferIdOf, if_pos type]
  exact be32_eq rfl

/-- Every answer but that to a discovery request names the buffer of its packet. -/
theorem answer_bufferId {cbench : Bool} {hosts : List SwitchHost} {message : Memory}
    (notRequest : ¬ IsDiscovery message animEchoRequest) {bytes : List UInt8}
    (sent : bytes ∈ (answer cbench hosts message).bytes) :
    bufferIdOf bytes = (parsePacketIn message).bufferId := by
  rcases answer_cases cbench hosts message with silent | ⟨flood, -⟩ | ⟨-, request⟩ |
    ⟨-, nwSrc, nwDst, tpSrc, tpDst, nwProto, port, flow⟩
  · rw [silent] at sent
    cases sent
  · rw [flood] at sent
    cases List.mem_singleton.mp sent
    exact bufferIdOf_packetOut _
  · exact absurd request notRequest
  · rw [flow] at sent
    cases List.mem_singleton.mp sent
    exact bufferIdOf_flowMod _

theorem answer_request {cbench : Bool} {hosts : List SwitchHost} {message : Memory}
    (request : IsDiscovery message animEchoRequest) :
    answer cbench hosts message =
      .packetOut (discoveryPacket (parsePacketIn message).inPort .echoReply) := by
  obtain ⟨lldp, type⟩ := request
  have notIp6 : (parsePacketIn message).type ≠ ip6Data := ne_of_eq_of_ne lldp (by decide)
  have notArp : (parsePacketIn message).type ≠ arpData := ne_of_eq_of_ne lldp (by decide)
  have notIp : (parsePacketIn message).type ≠ ipData := ne_of_eq_of_ne lldp (by decide)
  unfold answer
  simp only
  rw [if_neg notIp6, if_neg notArp, if_neg notIp, if_pos lldp, if_pos type]

/-- The answers to a packet that the switch has buffered name its buffer; the
answer to a discovery request carries a frame of its own instead. -/
theorem buffered_frame_kept {cbench : Bool} {events : List Event} {p : Process}
    {message : Memory} {bytes : List UInt8} {env : Env} {outcome : Outcome}
    (run : Process.Reaches cbench events p) (starts : message.Starts bytes)
    (complete : 32 ≤ bytes.length) (called : p.packetIn message env = some outcome) :
    (be32 bytes OfpPacketIn.bufferId ≠ noBuffer → ¬ IsDiscovery message animEchoRequest →
      FrameKept (packetInFrame bytes) outcome.sent ∧
        ∀ sent ∈ outcome.sent, bufferIdOf sent = be32 bytes OfpPacketIn.bufferId) ∧
      (IsDiscovery message animEchoRequest →
        ∃ sent, outcome.sent = [sent] ∧ DiscoveryPacketOut sent) := by
  obtain ⟨tables, -, -, -, answered⟩ := run.packetIn called
  constructor
  · intro buffered notRequest
    have named : ∀ sent ∈ outcome.sent, bufferIdOf sent = be32 bytes OfpPacketIn.bufferId := by
      intro sent member
      rw [answered] at member
      rw [answer_bufferId notRequest member, parsePacketIn_eq starts complete]
    refine ⟨?_, named⟩
    intro sent member
    rw [named sent member]
    exact .inl buffered
  · intro request
    rw [answered, answer_request request]
    exact ⟨_, rfl, discoveryPacket_wellFormed _ _⟩

/-- An ARP broadcast that the switch did not buffer. -/
def unbufferedBroadcast : List UInt8 :=
  PacketInMessage.encode
    { xid := 7, bufferId := noBuffer, totalLen := 42, inPort := 1, reason := 0
      data := ethernetFrame Mac.broadcast hostA arpData
        (arpPacket 1 hostA 0x0a000001 Mac.broadcast 0x0a000002) }

/-- A probe of another controller, which the switch has buffered. -/
def discoveryRequest : List UInt8 :=
  PacketInMessage.encode
    { xid := 7, bufferId := 258, totalLen := 18, inPort := 1, reason := 0
      data := discoveryFrame .echoRequest }

/-- Neither the frame of an unbuffered broadcast nor that of a discovery
request is with the switch when it gets the answer. -/
theorem frame_not_kept :
    (((Process.initial false).packetIn (Memory.ofList unbufferedBroadcast Memory.zero) .calm).map
        (fun outcome => decide (FrameKept (packetInFrame unbufferedBroadcast) outcome.sent)) =
      some false) ∧
    (((Process.initial false).packetIn (Memory.ofList discoveryRequest Memory.zero) .calm).map
        (fun outcome => decide (FrameKept (packetInFrame discoveryRequest) outcome.sent)) =
      some false) := by
  constructor
  · decide
  · decide

theorem buffered_frame_kept_arp :
    ∃ outcome,
      (Process.initial false).packetIn
        (Memory.ofList (arpReport 1 Mac.broadcast hostA) Memory.zero) .calm = some outcome ∧
      FrameKept (packetInFrame (arpReport 1 Mac.broadcast hostA)) outcome.sent := by
  have returns : ((Process.initial false).packetIn
      (Memory.ofList (arpReport 1 Mac.broadcast hostA) Memory.zero) .calm).isSome := by decide
  obtain ⟨outcome, called⟩ := Option.isSome_iff_exists.mp returns
  have start : Process.Reaches false [] (Process.initial false) := .refl
  have starts := Memory.starts_ofList (arpReport 1 Mac.broadcast hostA) Memory.zero
  have kept := (buffered_frame_kept start starts (by decide) called).1 (by decide) (by decide)
  exact ⟨outcome, called, kept.1⟩

end DAIM.Ani41
