import DAIM.Ani41.Framing
import DAIM.Ani41.Learning
import DAIM.Ani41.Sent

/-!
# Where flows send their packets

The output port of every flow that is installed while a connection lasts, in
terms of the packets handled since the connection was accepted.
-/

namespace DAIM.Ani41

open DAIM.Library DAIM.OpenFlow DAIM.Linked DAIM.Com DAIM.Hosts

/-! ## Sightings on the octets of the messages -/

/-- What a whole message tells: the report of an ARP frame names its sender and the
port where it came in. -/
def octetSightings (bytes : List UInt8) : List Sighting :=
  if messageType bytes = ofptPacketIn ∧ frameType (packetInFrame bytes) = arpData then
    [⟨frameSrc (packetInFrame bytes), be16 bytes OfpPacketIn.inPort,
      frameNwSrc (packetInFrame bytes)⟩]
  else []

/-- A report has the header of its frame, and an ARP packet the address of its sender. -/
structure Legible (bytes : List UInt8) : Prop where
  header : messageType bytes = ofptPacketIn → 32 ≤ bytes.length
  sender : messageType bytes = ofptPacketIn → frameType (packetInFrame bytes) = arpData →
    50 ≤ bytes.length

theorem Takes.sightings {call : Call} {bytes : List UInt8} (takes : Takes call bytes)
    (legible : Legible bytes) : (Event.handled call).sightings = octetSightings bytes := by
  have isReport : call.handler = .packout ↔ messageType bytes = ofptPacketIn := by
    constructor
    · intro packout
      exact dispatch_eq_some_iff.mp (packout ▸ takes.handler)
    · intro report
      have packout : dispatch (messageType bytes) = some .packout :=
        dispatch_eq_some_iff.mpr report
      exact Option.some.inj (takes.handler.symm.trans packout)
  have parsed (report : messageType bytes = ofptPacketIn) :=
    parsePacketIn_eq takes.whole (legible.header report)
  have same : call.handler = .packout ∧ IsArp call.message ↔
      messageType bytes = ofptPacketIn ∧ frameType (packetInFrame bytes) = arpData := by
    rw [isReport]
    apply and_congr_right
    intro report
    rw [IsArp, parsed report]
  unfold octetSightings
  simp only [Event.sightings, same]
  split
  · rename_i arp
    have source : arpSource call.message = frameNwSrc (packetInFrame bytes) := by
      rw [arpSource, frameNwSrc, if_pos arp.2]
      apply payload_ntohl takes.whole
      exact legible.sender arp.1 arp.2
    rw [sighting, parsed arp.1, source]
  · rfl

theorem sightings_calls (events : List Event) :
    sightings events = (calls events).flatMap fun call => (Event.handled call).sightings := by
  induction events with
  | nil => rfl
  | cons event rest inductionHypothesis =>
      have first : sightings (event :: rest) = event.sightings ++ sightings rest :=
        List.flatMap_cons
      rw [first, inductionHypothesis]
      cases event with
      | handled call => rfl
      | _ => rfl

/-- The sightings of a run are those that stand in the messages that it has handled. -/
theorem sightings_octets {events : List Event} {messages : List (List UInt8)}
    (takes : List.Forall₂ Takes (calls events) messages)
    (legible : ∀ bytes ∈ messages, Legible bytes) :
    sightings events = messages.flatMap octetSightings := by
  rw [sightings_calls]
  generalize calls events = handled at takes
  induction takes with
  | nil => rfl
  | cons one _ inductionHypothesis =>
      rw [List.flatMap_cons, List.flatMap_cons, one.sightings (legible _ List.mem_cons_self),
        inductionHypothesis fun bytes member => legible bytes (List.mem_cons_of_mem _ member)]

/-- The hosts table of a session holds the first sighting of every address in the
messages that were handled, as it stands there. -/
theorem Session.hosts_octets {cbench : Bool} {before after : List Event} {p : Process}
    (session : Session cbench before after p) (allocates : Allocates after)
    {messages : List (List UInt8)} (takes : List.Forall₂ Takes (calls after) messages)
    (legible : ∀ bytes ∈ messages, Legible bytes) :
    p.ani.hosts.contents.map Sighting.ofHost =
      firstSeen Sighting.mac (messages.flatMap octetSightings) := by
  obtain ⟨-, tables, shows, hosts⟩ := session.hosts
  rw [shows.hosts.contents_eq, hosts, learned_eq allocates, sightings_octets takes legible]

/-! ## Flows -/

/-- A flow leads to the recorded port of the destination of its packet. -/
theorem answer_flowMod {cbench : Bool} {hosts : List SwitchHost} {message : Memory}
    {flow : FlowMod} (isFlow : answer cbench hosts message = .flowMod flow) :
    portOf hosts (parsePacketIn message).dst ≠ 0 ∧
      flow.fields.dlDst = (parsePacketIn message).dst ∧
      flow.actions = [{ port := portOf hosts (parsePacketIn message).dst, maxLen := 0 }] := by
  have fromPort {port : UInt16} {other : FlowMod} (known : flowOr port other = .flowMod flow) :
      port ≠ 0 ∧ flow = other := by
    unfold flowOr at known
    split at known
    · rename_i nonzero
      cases known
      exact ⟨nonzero, rfl⟩
    · cases known
  unfold answer at isFlow
  simp only at isFlow
  split at isFlow
  · split at isFlow <;> cases isFlow
  · split at isFlow
    · split at isFlow
      · cases isFlow
      · obtain ⟨nonzero, rfl⟩ := fromPort isFlow
        exact ⟨nonzero, rfl, rfl⟩
    · split at isFlow
      · split at isFlow
        · obtain ⟨nonzero, rfl⟩ := fromPort isFlow
          exact ⟨nonzero, rfl, rfl⟩
        · split at isFlow <;> cases isFlow
      · split at isFlow
        · split at isFlow <;> cases isFlow
        · cases isFlow

/-- Only `action_packout` sends flow modifications. -/
theorem Called.flowMod {p q : Process} {call : Call} {started : Ani} {ofBuffer : Nat}
    {outcome : Outcome} {tables : Tables} (called : Called p call q started ofBuffer outcome)
    (shows : p.ani.Shows tables) {bytes : List UInt8} (sent : bytes ∈ call.sent)
    (type : messageType bytes = ofptFlowMod) :
    call.handler = .packout ∧ ∃ flow, bytes = flow.encode ∧
      answer p.ani.cbench (tables.packout (call.env.allocated 0) p.ani.switchId call.message).hosts
        call.message = .flowMod flow := by
  rcases called.sent_cases shows sent with ⟨-, plain⟩ | ⟨handler, answered⟩
  · exact absurd type plain.type.2
  · refine ⟨handler, ?_⟩
    cases given : answer p.ani.cbench
        (tables.packout (call.env.allocated 0) p.ani.switchId call.message).hosts
        call.message with
    | silent =>
        rw [given] at answered
        cases answered
    | packetOut message =>
        rw [given] at answered
        cases List.mem_singleton.mp answered
        exact absurd type (show ofptPacketOut ≠ ofptFlowMod by decide)
    | flowMod flow =>
        rw [given] at answered
        exact ⟨flow, List.mem_singleton.mp answered, rfl⟩

/-- The recorded port is that of the first sighting that could be recorded. -/
theorem portOf_firstSeen {hosts : List SwitchHost} {seen : List Sighting}
    (first : hosts.map Sighting.ofHost = firstSeen Sighting.mac seen) {mac : Mac}
    (known : portOf hosts mac ≠ 0) :
    ∃ one, seen.find? (fun sighting => sighting.mac = mac) = some one ∧
      one.port = portOf hosts mac := by
  have view : (fun host : SwitchHost => decide ((Sighting.ofHost host).mac = mac)) =
      sameMac mac := rfl
  rw [← find?_firstSeen Sighting.mac seen mac, ← first, List.find?_map]
  unfold portOf at known ⊢
  cases found : hosts.find? (sameMac mac) with
  | none =>
      rw [found] at known
      exact absurd rfl known
  | some host =>
      refine ⟨Sighting.ofHost host, ?_, rfl⟩
      show (hosts.find? fun host : SwitchHost =>
        decide ((Sighting.ofHost host).mac = mac)).map _ = _
      rw [view, found]
      rfl

/-- While a connection lasts, the output port of every flow is the port of the
first ARP packet from its destination for which an entry could be allocated. -/
theorem flow_port_first_sighting {cbench : Bool} {before after : List Event} {p q : Process}
    {call : Call} {bytes : List UInt8} (session : Session cbench before after p)
    (step : Process.Step p (.handled call) q) (sent : bytes ∈ call.sent)
    (type : messageType bytes = ofptFlowMod) :
    ∃ flow first, FlowMod.decode bytes = some flow ∧
      flow.fields.dlDst = (parsePacketIn call.message).dst ∧
      (learned (after ++ [.handled call])).find?
        (fun sighting => sighting.mac = (parsePacketIn call.message).dst) = some first ∧
      flow.actions = [{ port := first.port, maxLen := 0 }] := by
  obtain ⟨-, tables, shows, -⟩ := session.hosts
  obtain ⟨-, changed, kept, first⟩ := (session.append (.single step) (by simp)).hosts
  obtain ⟨started, ofBuffer, outcome, called⟩ := step.called
  obtain ⟨handler, flow, rfl, given⟩ := called.flowMod shows sent type
  have same : changed.hosts =
      (tables.packout (call.env.allocated 0) p.ani.switchId call.message).hosts :=
    kept.hosts.contents_eq.symm.trans (called.packout shows handler).1.hosts.contents_eq
  rw [← same] at given
  obtain ⟨nonzero, dst, actions⟩ := answer_flowMod given
  obtain ⟨one, found, port⟩ := portOf_firstSeen first nonzero
  have single : flow.actions.length = 1 := by
    rw [actions]
    rfl
  exact ⟨flow, one, FlowMod.decode_encode (by omega), dst, found, port ▸ actions⟩

/-- A packet to the host that moved: the actions of the flow that answers it,
and the last sighting of the host. -/
def movedAnswer : Option (List (Option (List ActionOutput)) × Option Sighting) :=
  match (Process.initial false).deliverAll movingHost with
  | none => none
  | some (events, p) =>
      (p.deliver (arpReport 3 hostA hostB) .calm).map fun (call, _) =>
        (call.sent.map fun bytes => (FlowMod.decode bytes).map FlowMod.actions,
          (sightings (events ++ [.received (arpReport 3 hostA hostB)] ++
            [.handled call])).reverse.find?
            fun sighting => sighting.mac = (parsePacketIn call.message).dst)

/-- The session that `movedAnswer` computes in. -/
theorem movedAnswer_session :
    ∃ after p call q bytes flow, Session false [] after p ∧
      Process.Step p (.handled call) q ∧ bytes ∈ call.sent ∧ FlowMod.decode bytes = some flow ∧
      flow.actions = [{ port := 1, maxLen := 0 }] ∧
      (sightings (after ++ [.handled call])).reverse.find?
        (fun sighting => sighting.mac = (parsePacketIn call.message).dst) =
          some ⟨hostA, 2, 0x0a000001⟩ := by
  have computed : movedAnswer = some ([some [⟨1, 0⟩]], some ⟨hostA, 2, 0x0a000001⟩) := by decide
  unfold movedAnswer at computed
  split at computed
  · cases computed
  · rename_i events p delivered
    obtain ⟨⟨call, q⟩, delivery, values⟩ := Option.map_eq_some_iff.mp computed
    rw [Prod.mk.injEq] at values
    obtain ⟨sent, last⟩ := values
    have run : Run Process.Step p ([.received (arpReport 3 hostA hostB)] ++ [.handled call]) q :=
      Process.deliver_run delivery
    obtain ⟨middle, received, step⟩ := run.snoc_inv
    have session := (Session.delivered delivered).append received (by simp)
    obtain ⟨bytes, rest, isSent, decoded, none⟩ := List.map_eq_cons_iff.mp sent
    obtain ⟨flow, isFlow, actions⟩ := Option.map_eq_some_iff.mp decoded
    exact ⟨_, middle, call, q, bytes, flow, session, step, by simp [isSent], isFlow, actions, last⟩

/-- The flow to a host that moved leads to the port of its first sighting, not
to that of its last one. -/
theorem flow_port_not_last_sighting :
    ¬ ∀ cbench before after p call q bytes flow last, Session cbench before after p →
      Process.Step p (.handled call) q → bytes ∈ call.sent → FlowMod.decode bytes = some flow →
      (sightings (after ++ [.handled call])).reverse.find?
        (fun sighting => sighting.mac = (parsePacketIn call.message).dst) = some last →
      flow.actions = [{ port := last.port, maxLen := 0 }] := by
  intro always
  obtain ⟨after, p, call, q, bytes, flow, session, step, sent, decoded, actions, last⟩ :=
    movedAnswer_session
  have wrong := always _ _ _ _ _ _ _ _ _ session step sent decoded last
  rw [actions] at wrong
  exact absurd wrong (by decide)

theorem flow_port_first_sighting_movingHost :
    ∃ events call bytes flow first, bytes ∈ call.sent ∧ FlowMod.decode bytes = some flow ∧
      (learned (events ++ [.handled call])).find?
        (fun sighting => sighting.mac = (parsePacketIn call.message).dst) = some first ∧
      flow.actions = [{ port := first.port, maxLen := 0 }] := by
  obtain ⟨after, p, call, q, bytes, flow, session, step, sent, decoded, -⟩ := movedAnswer_session
  obtain ⟨flow, first, decoded, -, found, actions⟩ :=
    flow_port_first_sighting session step sent (FlowMod.type_of_decode decoded)
  exact ⟨after, call, bytes, flow, first, sent, decoded, found, actions⟩

end DAIM.Ani41
