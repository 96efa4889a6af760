import Mathlib.Data.List.Count
import DAIM.Network.Traffic

/-!
# Copies of a broadcast at one switch

When a broadcast ARP frame has come in at a switch, its controller is told once, lets the
switch flood the frame once for that, and the switch sends one copy out of
each other port for that.  Nothing else that the controller sends is flooded.
-/

namespace DAIM.Network

open DAIM.Library DAIM.OpenFlow DAIM.Linked DAIM.Com DAIM.Hosts DAIM.Ani41

/-! ## What a controller answers -/

/-- The frames of the network: ARP frames and discovery frames. -/
def ArpOrLldp (frame : Frame) : Prop := frameType frame = arpData ∨ frameType frame = lldpData

/-- A message of a controller, at whose switch copies come in at the given ports. -/
inductive Sent.Kind (enters : UInt16 → Prop) (sent : Sent) : Prop where
  | plain : PacketOut.decode sent.bytes = none → FlowMod.decode sent.bytes = none →
      Kind enters sent
  | discovery {port : UInt16} {message : DiscoveryMessage} :
      sent.bytes = (discoveryPacket port message).encode → port ≠ ofppFlood → Kind enters sent
  | flood {packet : PacketIn} {frame : Frame} : sent.bytes = (floodAnswer packet).encode →
      sent.about = some (packet.inPort, frame) → AsksAll frame → enters packet.inPort →
      Kind enters sent
  | flow {flow : FlowMod} {inPort : UInt16} {frame : Frame} :
      PacketOut.decode sent.bytes = none → FlowMod.decode sent.bytes = some flow →
      flow.fields.dlDst ≠ Mac.broadcast → sent.about = some (inPort, frame) → ArpOrLldp frame →
      ¬ AsksAll frame → Kind enters sent

/-- A frame that comes in at a port. -/
structure Carried (enters : UInt16 → Prop) (inPort : UInt16) (frame : Frame) : Prop where
  kind : ArpOrLldp frame
  physical : inPort ≠ ofppFlood
  enters : AsksAll frame → enters inPort

/-- A message of a switch where copies come in at the given ports. -/
inductive Message.Sound (enters : UInt16 → Prop) : Message → Prop where
  | report {inPort : UInt16} {frame : Frame} {bytes : List UInt8} :
      Reports bytes inPort frame → Carried enters inPort frame →
      Sound enters (.report inPort frame bytes)
  | other {bytes : List UInt8} : Speaks bytes → Sound enters (.other bytes)

/-- The frame asks all hosts, and came in or goes out by the port. -/
def asking (port : UInt16) (copy : UInt16 × Frame) : Bool :=
  decide (copy.1 = port ∧ AsksAll copy.2)

section Handled

variable {enters : UInt16 → Prop} {message : Message} {p q : Process} {call : Call}

theorem frameDst_of_part {part frame : Frame} (inside : part <+: frame)
    (header : OfEthernet.size ≤ part.length) : frameDst frame = frameDst part := by
  have octet (index : Nat) (bounded : index < OfEthernet.size) :
      frame.getD index 0 = part.getD index 0 :=
    getD_of_part inside (Nat.lt_of_lt_of_le bounded header)
  unfold frameDst Mac.ofBytes
  congr 1
  all_goals exact octet _ (by decide)

theorem Reports.read_dst {bytes : List UInt8} {inPort : UInt16} {frame : Frame} {memory : Memory}
    (reports : Reports bytes inPort frame) (starts : memory.Starts bytes) :
    (parsePacketIn memory).dst = frameDst frame := by
  rw [parsePacketIn_eq starts reports.complete]
  exact (frameDst_of_part reports.part reports.header_part).symm

theorem Message.Sound.valid (sound : message.Sound enters) : message.Valid := by
  cases sound with
  | report reports _ => exact reports
  | other speaks => exact ⟨speaks.framed, speaks.type⟩

/-- Messages of the switch keep the numbers of the controller in their range. -/
theorem Message.Sound.regular (sound : message.Sound enters) (takes : Takes call message.bytes) :
    call.Regular := by
  have type := dispatch_eq_some_iff.mp takes.handler
  constructor
  · intro features
    rw [features] at type
    cases sound with
    | report reports _ => exact absurd (reports.type.symm.trans type) (by decide)
    | @other bytes speaks =>
        have whole : call.message.Starts bytes := takes.whole
        have starts : call.message.Starts (bytes :: ([] : List (List UInt8))).flatten := by
          simpa using whole
        obtain ⟨-, -, -, length, -⟩ := head_read starts speaks.framed
        unfold WholeReply
        rw [length]
        exact speaks.whole type
  · intro packout
    rw [packout] at type
    cases sound with
    | report reports carried =>
        rw [(reports.read takes.whole).1]
        exact carried.physical
    | other speaks => exact absurd type speaks.type

/-- The flow for an ARP frame to one host. -/
theorem Reports.flow_kind {inPort : UInt16} {frame : Frame} {bytes : List UInt8} {memory : Memory}
    (reports : Reports bytes inPort frame) (starts : memory.Starts bytes)
    (arp : frameType frame = arpData) (unicast : frameDst frame ≠ Mac.broadcast) (port : UInt16) :
    floodPort (arpFlow memory port).encode = none ∧
      Sent.Kind enters ⟨(arpFlow memory port).encode, some (inPort, frame)⟩ := by
  have noPacket : PacketOut.decode (arpFlow memory port).encode = none :=
    packetOut_decode_none (show ofptFlowMod ≠ ofptPacketOut by decide)
  refine ⟨floodPort_none noPacket, .flow noPacket
    (FlowMod.decode_encode (by show 80 < 65536; decide)) ?_ rfl (.inl arp) fun asks =>
      unicast asks.2⟩
  show (parsePacketIn memory).dst ≠ Mac.broadcast
  rwa [reports.read_dst starts]

/-- A report of a frame that asks all hosts is flooded, and nothing else is. -/
theorem Message.Sound.answered (sound : message.Sound enters) (takes : Takes call message.bytes)
    (numbered : p.Numbered) (step : Process.Step p (.handled call) q) :
    ((∀ inPort frame, message.about = some (inPort, frame) → ¬ AsksAll frame) ∧
        ∀ bytes ∈ call.sent, floodPort bytes = none ∧ Sent.Kind enters ⟨bytes, message.about⟩) ∨
      ∃ packet frame, call.sent = [(floodAnswer packet).encode] ∧
        message.about = some (packet.inPort, frame) ∧ AsksAll frame ∧ enters packet.inPort := by
  obtain ⟨started, ofBuffer, outcome, called⟩ := step.called
  obtain ⟨tables, shows, -⟩ := numbered.heard
  have valid := sound.valid
  have silent {answers : List (List UInt8)} (empty : answers = []) :
      ∀ bytes ∈ answers, floodPort bytes = none ∧ Sent.Kind enters ⟨bytes, message.about⟩ := by
    rintro bytes member
    rw [empty] at member
    cases member
  cases sound with
  | other speaks =>
      refine .inl ⟨nofun, fun bytes sent => ?_⟩
      rcases called.sent_cases shows sent with ⟨-, plain⟩ | ⟨packout, -⟩
      · have noPacket := packetOut_decode_none plain.type.1
        exact ⟨floodPort_none noPacket, .plain noPacket (flowMod_decode_none plain.type.2)⟩
      · obtain ⟨inPort, frame, impossible⟩ := (handler_eq_packout_iff takes valid).mp packout
        cases impossible
  | @report inPort frame bytes reports carried =>
      have packout := (handler_eq_packout_iff takes valid).mpr ⟨inPort, frame, rfl⟩
      obtain ⟨readPort, -, readType⟩ := reports.read takes.whole
      have readDst := reports.read_dst takes.whole
      have all := (called.packout shows packout).2
      generalize (tables.packout (call.env.allocated 0) p.ani.switchId call.message).hosts =
        hosts at all
      rcases carried.kind with arp | lldp
      · have isArp : IsArp call.message := readType.trans arp
        rw [answer_of_arp p.ani.cbench hosts isArp, readDst] at all
        split at all
        · rename_i broadcast
          refine .inr ⟨parsePacketIn call.message, frame, all, ?_, ⟨arp, broadcast⟩, ?_⟩
          · rw [readPort]
            rfl
          · rw [readPort]
            exact carried.enters ⟨arp, broadcast⟩
        · rename_i unicast
          refine .inl ⟨fun _ _ about asks => ?_, ?_⟩
          · cases about
            exact unicast asks.2
          unfold flowOr at all
          split at all
          · intro bytes sent
            rw [all] at sent
            cases List.mem_singleton.mp sent
            exact reports.flow_kind takes.whole arp unicast _
          · exact silent all
      · refine .inl ⟨fun _ _ about asks => ?_, ?_⟩
        · cases about
          exact absurd (asks.1.symm.trans lldp) (by decide)
        rcases answer_cases p.ani.cbench hosts call.message with none | ⟨-, notLldp⟩ |
          ⟨reply, -⟩ | ⟨notLldp, -⟩
        · rw [none] at all
          exact silent all
        · exact absurd (readType.trans lldp) notLldp
        · rw [reply] at all
          intro bytes sent
          rw [all] at sent
          cases List.mem_singleton.mp sent
          rw [readPort]
          exact ⟨floodPort_discovery carried.physical, .discovery rfl carried.physical⟩
        · exact absurd (readType.trans lldp) notLldp

/-- Zeros are answered as a `HELLO` is. -/
theorem cleared_hello (step : Process.Step p (.handled call) q)
    (zero : call.message = Memory.zero) :
    call.handler = .hello := by
  obtain ⟨started, ofBuffer, outcome, called⟩ := step.called
  have type := called.type
  rw [zero] at type
  exact (Option.some.inj type).symm

theorem cleared_plain (step : Process.Step p (.handled call) q) (numbered : p.Numbered)
    (zero : call.message = Memory.zero) {bytes : List UInt8} (sent : bytes ∈ call.sent) :
    PacketOut.decode bytes = none ∧ FlowMod.decode bytes = none := by
  have hello := cleared_hello step zero
  obtain ⟨started, ofBuffer, outcome, called⟩ := step.called
  obtain ⟨tables, shows, -⟩ := numbered.heard
  rcases called.sent_cases shows sent with ⟨-, plain⟩ | ⟨packout, -⟩
  · exact ⟨packetOut_decode_none plain.type.1, flowMod_decode_none plain.type.2⟩
  · cases hello.symm.trans packout

theorem cleared_floods (step : Process.Step p (.handled call) q) (numbered : p.Numbered)
    (zero : call.message = Memory.zero) : (Event.handled call).floods = [] :=
  List.filterMap_eq_nil_iff.mpr fun _ sent =>
    floodPort_none (cleared_plain step numbered zero sent).1

/-- The discovery threads send nothing that is flooded. -/
theorem shared_floods {index : Nat} {bytes : List UInt8}
    (step : Process.Step p (.shared index bytes) q) (numbered : p.Numbered) :
    (Event.shared index bytes).floods = [] := by
  obtain ⟨port, message, discovery, physical⟩ := step.shared_physical numbered
  rw [discovery]
  exact List.filterMap_cons_none (floodPort_discovery physical)

end Handled

/-! ## What a switch sends out -/

/-- The message has the switch send copies out of the port. -/
def Sent.pends (out : UInt16) (sent : Sent) : Bool :=
  (floodPort sent.bytes).any fun inPort => decide (inPort ≠ out)

theorem countP_asking {copies : List (UInt16 × Frame)} (out : UInt16)
    (others : ∀ copy ∈ copies, ¬ AsksAll copy.2) : copies.countP (asking out) = 0 := by
  rw [List.countP_eq_zero]
  intro copy member asks
  exact others copy member (of_decide_eq_true asks).2

section Emitted

variable {enters : UInt16 → Prop} {ports : List UInt16} {sent : Sent}

theorem emitted_flood {packet : PacketIn} {frame : Frame}
    (flood : sent.bytes = (floodAnswer packet).encode)
    (about : sent.about = some (packet.inPort, frame)) :
    sent.emitted ports = (ports.filter (· ≠ packet.inPort)).map (·, frame) := by
  have decoded : PacketOut.decode sent.bytes = some (floodAnswer packet) := by
    rw [flood]
    exact PacketOut.decode_encode (by show 24 < 65536; decide)
  unfold Sent.emitted Sent.frame
  rw [decoded, about]
  show (outputs ports [⟨ofppFlood, 0⟩] packet.inPort).map (·, frame) = _
  simp only [outputs, List.flatMap_cons, List.flatMap_nil, if_true, List.append_nil]

/-- What goes out is of the network, and asks all hosts only when it is flooded. -/
theorem Sent.Kind.emitted (kind : sent.Kind enters) {port : UInt16} {frame : Frame}
    (member : (port, frame) ∈ sent.emitted ports) :
    ArpOrLldp frame ∧
      (AsksAll frame → ∃ inPort, floodPort sent.bytes = some inPort ∧ inPort ≠ port ∧
        enters inPort) := by
  cases kind with
  | plain noPacket noFlow =>
      unfold Sent.emitted at member
      rw [noPacket, noFlow] at member
      cases member
  | @discovery port message discovery _ =>
      unfold Sent.emitted at member
      rw [discovery, discoveryPacket_decode] at member
      obtain ⟨out, -, same⟩ := List.mem_map.mp member
      cases same
      have lldp : frameType (discoveryFrame message) = lldpData :=
        (discoveryFrame_form message).type
      exact ⟨.inr lldp, fun asks => absurd (asks.1.symm.trans lldp) (by decide)⟩
  | flood flood about asks enters =>
      rw [emitted_flood flood about] at member
      obtain ⟨out, leaves, same⟩ := List.mem_map.mp member
      cases same
      refine ⟨.inl asks.1, fun _ => ⟨_, ?_, ?_, enters⟩⟩
      · rw [flood]
        exact floodPort_flood _
      · exact Ne.symm (by simpa using (List.mem_filter.mp leaves).2)
  | flow noPacket isFlow _ about kind unasked =>
      unfold Sent.emitted at member
      rw [noPacket, isFlow, about] at member
      obtain ⟨out, -, same⟩ := List.mem_map.mp member
      cases same
      exact ⟨kind, fun asks => absurd asks unasked⟩

/-- A flooding message is about a frame that asks all hosts. -/
theorem Sent.Kind.of_flood (kind : sent.Kind enters) {inPort : UInt16}
    (flooding : floodPort sent.bytes = some inPort) :
    ∃ packet frame, sent.bytes = (floodAnswer packet).encode ∧ packet.inPort = inPort ∧
      sent.about = some (packet.inPort, frame) ∧ AsksAll frame := by
  cases kind with
  | plain noPacket _ => cases (floodPort_none noPacket).symm.trans flooding
  | discovery discovery physical =>
      rw [discovery, floodPort_discovery physical] at flooding
      cases flooding
  | @flood packet frame flood about asks _ =>
      rw [flood, floodPort_flood] at flooding
      exact ⟨packet, frame, flood, Option.some.inj flooding, about, asks⟩
  | flow noPacket _ _ _ _ _ => cases (floodPort_none noPacket).symm.trans flooding

/-- No flow is set up for frames that ask all hosts. -/
theorem Sent.Kind.entry (kind : sent.Kind enters) {flow : FlowMod}
    (decoded : FlowMod.decode sent.bytes = some flow) : flow.fields.dlDst ≠ Mac.broadcast := by
  cases kind with
  | plain _ noFlow => cases noFlow.symm.trans decoded
  | discovery discovery _ =>
      rw [discovery, packetOut_not_flowMod] at decoded
      cases decoded
  | flood flood _ _ _ =>
      rw [flood, packetOut_not_flowMod] at decoded
      cases decoded
  | flow _ isFlow unicast _ _ _ =>
      cases isFlow.symm.trans decoded
      exact unicast

/-- At most one copy goes out of each port, and none out of the one where the
flooded frame came in. -/
theorem Sent.Kind.countP_emitted (kind : sent.Kind enters) (distinct : ports.Nodup)
    (out : UInt16) :
    (sent.emitted ports).countP (asking out) ≤ if sent.pends out then 1 else 0 := by
  cases flooding : floodPort sent.bytes with
  | none =>
      rw [countP_asking out]
      · exact Nat.zero_le _
      · rintro ⟨port, frame⟩ member asks
        obtain ⟨inPort, impossible, -⟩ := (kind.emitted member).2 asks
        cases flooding.symm.trans impossible
  | some inPort =>
      obtain ⟨packet, frame, flood, rfl, about, asks⟩ := kind.of_flood flooding
      have copies : (sent.emitted ports).countP (asking out) =
          (ports.filter (· ≠ packet.inPort)).count out := by
        rw [emitted_flood flood about, List.countP_map, List.count]
        congr 1
        funext port
        simp only [Function.comp_apply, asking, asks, and_true]
        rfl
      rw [copies]
      by_cases same : packet.inPort = out
      · have outside : out ∉ ports.filter (· ≠ packet.inPort) := by simp [same]
        rw [List.count_eq_zero.mpr outside]
        exact Nat.zero_le _
      · rw [if_pos (by simp [Sent.pends, flooding, same])]
        exact List.nodup_iff_count_le_one.mp (distinct.filter _) out

end Emitted

/-! ## One switch -/

/-- What is at a switch where copies come in at the given ports. -/
structure Site.Sound (enters : UInt16 → Prop) (site : Site) : Prop where
  numbered : site.controller.Numbered
  messages : ∀ message ∈ site.inbox ++ site.chunk, message.Sound enters
  outbox : ∀ sent ∈ site.outbox, sent.Kind enters
  entries : ∀ flow ∈ site.entries, flow.fields.dlDst ≠ Mac.broadcast

/-- The message reports a copy that came in at the port. -/
def Message.asks (port : UInt16) (message : Message) : Bool := message.about.any (asking port)

/-- The reports of copies that the controller has not worked on yet. -/
def Site.waiting (port : UInt16) (site : Site) : Nat :=
  (site.inbox ++ site.chunk).countP (Message.asks port)

/-- The messages that have the switch send copies out of the port. -/
def Site.pending (out : UInt16) (site : Site) : Nat := site.outbox.countP (Sent.pends out)

def eventFloods (event : Option Event) : List UInt16 := event.elim [] Event.floods

/-- Copies that come in are reported, reports of copies are flooded, and what is
flooded is sent out, each at most once. -/
structure Site.Balanced (site : Site) (incoming : Option (UInt16 × Frame))
    (out : List (UInt16 × Frame)) (event : Option Event) (next : Site) : Prop where
  worked : ∀ port, next.waiting port + (eventFloods event).count port ≤
    site.waiting port + incoming.toList.countP (asking port)
  sent : ∀ port, out.countP (asking port) + next.pending port ≤
    site.pending port + (eventFloods event).countP (· ≠ port)

theorem Quiet.floods {event : Event} (quiet : Quiet event) : event.floods = [] := by
  cases event with
  | internal => rfl
  | lost => rfl
  | connected connection => rfl
  | received chunk => cases quiet
  | handled call => cases quiet
  | shared index bytes => cases quiet

/-- The answers to a message pend as floods do. -/
theorem countP_answers (answers : List (List UInt8)) (about : Option (UInt16 × Frame))
    (out : UInt16) :
    (answers.map fun bytes => Sent.mk bytes about).countP (Sent.pends out) =
      (answers.filterMap floodPort).countP (· ≠ out) := by
  rw [List.countP_map, List.countP_filterMap]
  congr 1
  funext bytes
  unfold Function.comp Sent.pends
  cases floodPort bytes <;> rfl

section Sites

variable {enters : UInt16 → Prop} {ports : List UInt16} {site next : Site}
variable {incoming : Option (UInt16 × Frame)} {out : List (UInt16 × Frame)}
variable {event : Option Event}

/-- What the controller works on is a message of the switch. -/
theorem Site.Sound.of_chunk (sound : site.Sound enters) {before after : List Message}
    {message : Message} (split : site.chunk = before ++ message :: after) :
    message.Sound enters := by
  apply sound.messages
  rw [split]
  exact List.mem_append_right _ (List.mem_append_right _ List.mem_cons_self)

/-- A call floods by the port of the copy that its message reports, if it reports one. -/
theorem Message.Sound.count_floods {message : Message} {call : Call} {process : Process}
    (kept : message.Sound enters) (takes : Takes call message.bytes)
    (numbered : site.controller.Numbered)
    (taken : Process.Step site.controller (.handled call) process) (port : UInt16) :
    (Event.handled call).floods.count port = if message.asks port then 1 else 0 := by
  unfold Event.floods Event.sent
  rcases kept.answered takes numbered taken with ⟨unasked, quiet⟩ |
    ⟨packet, frame, all, about, asks, -⟩
  · have silent : message.asks port = false := by
      unfold Message.asks
      cases about : message.about with
      | none => rfl
      | some copy =>
          have not := unasked copy.1 copy.2 about
          simp [asking, not]
    rw [List.filterMap_eq_nil_iff.mpr fun bytes member => (quiet bytes member).1, silent]
    rfl
  · simp [all, floodPort_flood, Message.asks, about, asking, asks, List.count_singleton]

theorem Site.Step.balanced (step : Site.Step ports site incoming out event next)
    (sound : site.Sound enters) (distinct : ports.Nodup) :
    site.Balanced incoming out event next := by
  cases step with
  | @reported inPort frame bytes _ =>
      refine ⟨fun port => ?_, fun port => by simp [eventFloods, Site.pending]⟩
      have told : Message.asks port (.report inPort frame bytes) = asking port (inPort, frame) :=
        rfl
      simp only [Site.waiting, eventFloods, Option.elim_none, List.count_nil, List.countP_append,
        List.countP_cons, List.countP_nil, told, Option.toList_some]
      omega
  | @forwarded inPort frame flow entry covers =>
      refine ⟨fun port => by simp [eventFloods], fun port => ?_⟩
      have unasked : ¬ AsksAll frame := fun asks =>
        sound.entries flow entry (covers.dlDst.trans asks.2)
      rw [countP_asking port]
      · simp [eventFloods]
      · intro copy member
        obtain ⟨leaves, -, rfl⟩ := List.mem_map.mp member
        exact unasked
  | spoke _ =>
      refine ⟨fun port => ?_, fun port => by simp [eventFloods, Site.pending]⟩
      simp [Site.waiting, eventFloods, Message.asks, Message.about]
  | @executed before after sent split =>
      refine ⟨fun port => by simp [Site.waiting, eventFloods], fun port => ?_⟩
      have kind := sound.outbox sent (split ▸ List.mem_append_right _ List.mem_cons_self)
      have copies := kind.countP_emitted distinct port
      simp only [Site.pending, split, eventFloods, Option.elim_none, List.countP_append,
        List.countP_cons, List.countP_nil]
      omega
  | @received chunk group rest process _ split _ =>
      refine ⟨fun port => ?_, fun port => by simp [eventFloods, Site.pending]⟩
      simp only [Site.waiting, split, eventFloods, Option.elim_some, List.countP_append]
      have none : (Event.received chunk).floods = [] := rfl
      simp only [none, List.count_nil]
      omega
  | @handled call before after message process taken split takes =>
      have kept := sound.of_chunk split
      refine ⟨fun port => ?_, fun port => ?_⟩
      · have answered := kept.count_floods takes sound.numbered taken port
        simp only [Site.waiting, split, eventFloods, Option.elim_some, List.countP_append,
          List.countP_cons, Option.toList_none, List.countP_nil]
        omega
      · simp only [Site.pending, eventFloods, Option.elim_some, List.countP_append,
          countP_answers, Event.floods, Event.sent, List.countP_nil]
        omega
  | @cleared call process taken zero =>
      have none := cleared_floods taken sound.numbered zero
      refine ⟨fun port => ?_, fun port => ?_⟩
      · simp [Site.waiting, eventFloods, none]
      · have silent : call.sent.filterMap floodPort = [] := none
        simp only [Site.pending, eventFloods, Option.elim_some, List.countP_append,
          countP_answers, silent, List.countP_nil]
        omega
  | @shared index bytes process taken =>
      have none := shared_floods taken sound.numbered
      refine ⟨fun port => ?_, fun port => ?_⟩
      · simp [Site.waiting, eventFloods, none]
      · have silent : [bytes].filterMap floodPort = [] := none
        have answers := countP_answers [bytes] Option.none port
        simp only [List.map_singleton] at answers
        simp only [Site.pending, eventFloods, Option.elim_some, List.countP_append, answers,
          silent, List.countP_nil]
        omega
  | @quiet event process taken quiet =>
      refine ⟨fun port => ?_, fun port => ?_⟩
      · simp [Site.waiting, eventFloods, quiet.floods]
      · simp [Site.pending, eventFloods]

/-- The events of a controller flood copies that have come in. -/
theorem Site.Step.floods_enter (step : Site.Step ports site incoming out event next)
    (sound : site.Sound enters) {port : UInt16} (flooded : port ∈ eventFloods event) :
    enters port := by
  cases step with
  | reported _ => cases flooded
  | forwarded _ _ => cases flooded
  | spoke _ => cases flooded
  | executed _ => cases flooded
  | received _ _ _ => cases flooded
  | @handled call before after message process taken split takes =>
      have kept := sound.of_chunk split
      obtain ⟨bytes, sent, isFlood⟩ := List.mem_filterMap.mp flooded
      rcases kept.answered takes sound.numbered taken with ⟨-, quiet⟩ |
        ⟨packet, frame, all, -, -, entered⟩
      · cases (quiet bytes sent).1.symm.trans isFlood
      · have only : bytes ∈ call.sent := sent
        rw [all] at only
        cases List.mem_singleton.mp only
        cases (floodPort_flood packet).symm.trans isFlood
        exact entered
  | @cleared call process taken zero =>
      have none : eventFloods (some (.handled call)) = [] :=
        cleared_floods taken sound.numbered zero
      rw [none] at flooded
      cases flooded
  | @shared index bytes process taken =>
      have none : eventFloods (some (.shared index bytes)) = [] :=
        shared_floods taken sound.numbered
      rw [none] at flooded
      cases flooded
  | @quiet event process taken quiet =>
      have none : eventFloods (some event) = [] := quiet.floods
      rw [none] at flooded
      cases flooded

/-- What goes out is of the network, and copies that go out came in by another port. -/
theorem Site.Step.out_kind (step : Site.Step ports site incoming out event next)
    (sound : site.Sound enters)
    (carried : ∀ copy, incoming = some copy → Carried enters copy.1 copy.2)
    {port : UInt16} {frame : Frame} (leaves : (port, frame) ∈ out) :
    ArpOrLldp frame ∧ (AsksAll frame → ∃ inPort, inPort ≠ port ∧ enters inPort) := by
  cases step with
  | @forwarded inPort frame flow entry covers =>
      obtain ⟨_, -, same⟩ := List.mem_map.mp leaves
      cases same
      refine ⟨(carried _ rfl).kind, fun asks => ?_⟩
      exact absurd (covers.dlDst.trans asks.2) (sound.entries flow entry)
  | @executed before after sent split =>
      have kind := sound.outbox sent (split ▸ List.mem_append_right _ List.mem_cons_self)
      obtain ⟨isKind, flooded⟩ := kind.emitted leaves
      refine ⟨isKind, fun asks => ?_⟩
      obtain ⟨inPort, -, other, entered⟩ := flooded asks
      exact ⟨inPort, other, entered⟩
  | _ => cases leaves

/-- The messages of a controller are of the kinds that its switch may get. -/
theorem Site.Step.sound (step : Site.Step ports site incoming out event next)
    (sound : site.Sound enters)
    (carried : ∀ copy, incoming = some copy → Carried enters copy.1 copy.2) :
    next.Sound enters := by
  have more {message : Message} (isSound : message.Sound enters) :
      ∀ other ∈ site.inbox ++ [message] ++ site.chunk, other.Sound enters := by
    intro other member
    simp only [List.mem_append, List.mem_singleton] at member
    rcases member with (old | rfl) | old
    · exact sound.messages other (List.mem_append_left _ old)
    · exact isSound
    · exact sound.messages other (List.mem_append_right _ old)
  have numbered {event : Event} {process : Process}
      (taken : Process.Step site.controller event process)
      (regular : ∀ call, event = .handled call → call.Regular) : process.Numbered :=
    taken.numbered sound.numbered regular
  cases step with
  | reported reports =>
      exact ⟨sound.numbered, more (.report reports (carried _ rfl)), sound.outbox, sound.entries⟩
  | forwarded _ _ => exact sound
  | spoke speaks => exact ⟨sound.numbered, more (.other speaks), sound.outbox, sound.entries⟩
  | @executed before after sent split =>
      have kinds := sound.outbox
      rw [split] at kinds
      refine ⟨sound.numbered, sound.messages, fun other member => ?_, fun flow member => ?_⟩
      · rcases List.mem_append.mp member with early | late
        · exact kinds other (List.mem_append_left _ early)
        · exact kinds other (List.mem_append_right _ (List.mem_cons_of_mem _ late))
      · rcases List.mem_append.mp member with old | new
        · exact sound.entries flow old
        · have decoded : FlowMod.decode sent.bytes = some flow := by simpa using new
          exact (kinds sent (List.mem_append_right _ List.mem_cons_self)).entry decoded
  | @received chunk group rest process taken split _ =>
      refine ⟨numbered taken fun call => nofun, ?_, sound.outbox, sound.entries⟩
      intro message member
      apply sound.messages
      rw [split]
      simp only [List.mem_append] at member ⊢
      tauto
  | @handled call before after message process taken split takes =>
      have isSound := sound.of_chunk split
      refine ⟨numbered taken ?_, ?_, ?_, sound.entries⟩
      · rintro other ⟨⟩
        exact isSound.regular takes
      · intro other member
        apply sound.messages
        rw [split]
        simp only [List.mem_append, List.mem_cons] at member ⊢
        tauto
      · intro sent member
        rcases List.mem_append.mp member with old | new
        · exact sound.outbox sent old
        · obtain ⟨bytes, answered, rfl⟩ := List.mem_map.mp new
          rcases isSound.answered takes sound.numbered taken with ⟨-, quiet⟩ |
            ⟨packet, frame, all, about, asks, entered⟩
          · exact (quiet bytes answered).2
          · rw [all] at answered
            cases List.mem_singleton.mp answered
            exact .flood rfl about asks entered
  | @cleared call process taken zero =>
      have hello := cleared_hello taken zero
      refine ⟨numbered taken ?_, sound.messages, ?_, sound.entries⟩
      · rintro other ⟨⟩
        exact ⟨fun features => absurd (hello.symm.trans features) (by decide),
          fun packout => absurd (hello.symm.trans packout) (by decide)⟩
      · intro sent member
        rcases List.mem_append.mp member with old | new
        · exact sound.outbox sent old
        · obtain ⟨bytes, answered, rfl⟩ := List.mem_map.mp new
          have plain := cleared_plain taken sound.numbered zero answered
          exact .plain plain.1 plain.2
  | @shared index bytes process taken =>
      obtain ⟨port, message, discovery, physical⟩ := taken.shared_physical sound.numbered
      refine ⟨numbered taken fun call => nofun, sound.messages, ?_, sound.entries⟩
      intro sent member
      rcases List.mem_append.mp member with old | new
      · exact sound.outbox sent old
      · cases List.mem_singleton.mp new
        exact .discovery discovery physical
  | @quiet event process taken quiet =>
      refine ⟨numbered taken ?_, sound.messages, sound.outbox, sound.entries⟩
      rintro call rfl
      cases quiet

end Sites

end DAIM.Network
