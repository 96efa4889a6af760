import DAIM.Ani41.Wire
import DAIM.Network.Handshake

/-!
# Links that the discovery finds

The discovery of one link is a handshake of three frames, which run
concurrently on all links and in both directions.  An entry in a table of links
is the last of its five stages, and the invariant of a network says for every
discovery frame, reply and link which of the stages have happened.
-/

namespace DAIM.Network

open DAIM.Library DAIM.OpenFlow DAIM.Linked DAIM.Com DAIM.Ani41

variable {Switch : Type*}

/-! ## Discovery frames in reports -/

section Reading

variable {bytes : List UInt8} {inPort : UInt16} {message : DiscoveryMessage} {memory : Memory}

/-- A discovery frame is reported as a whole. -/
theorem Reports.carries (reports : Reports bytes inPort (discoveryFrame message)) :
    Carries bytes inPort (discoveryFrame message) :=
  ⟨reports.type, reports.inPort,
    reports.whole (Nat.le_trans (length_discoveryFrame message) (by decide))⟩

/-- `action_packout` tells the discovery messages apart. -/
theorem Reports.type_eq (reports : Reports bytes inPort (discoveryFrame message))
    (starts : memory.Starts bytes) {type : UInt8} (discovery : IsDiscovery memory type) :
    message.type = type :=
  (reports.carries.isDiscovery_iff starts).mp discovery

end Reading

/-! ## The stages of a handshake -/

/-- A discovery thread sends an `ECHO_REQUEST` out of the port. -/
def Asks (here : Port Switch) (label : Label Switch Event) : Prop :=
  ∃ index port, label = .controller here.1
      (.shared index (discoveryPacket port .echoRequest).encode) ∧
    Outputs (discoveryPacket port .echoRequest).actions
      (discoveryPacket port .echoRequest).inPort here.2

/-- `action_packout` is called for a discovery message that came in at the port. -/
def Receives (here : Port Switch) (type : UInt8) (call : Call) (label : Label Switch Event) :
    Prop :=
  label = .controller here.1 (.handled call) ∧ call.handler = .packout ∧
    (parsePacketIn call.message).inPort = here.2 ∧ IsDiscovery call.message type

/-- It answers an `ECHO_REQUEST` with an `ECHO_REPLY` out of the same port. -/
def Replies (here : Port Switch) (label : Label Switch Event) : Prop :=
  ∃ call, Receives here animEchoRequest call label ∧
    call.sent = [(discoveryPacket here.2 .echoReply).encode]

def Hears (here : Port Switch) (label : Label Switch Event) : Prop :=
  ∃ call, Receives here animEchoReply call label

/-- A discovery thread names the port in a `NODE` message that it sends out of it. -/
def Names (topology : Topology Switch) (here : Port Switch) (label : Label Switch Event) : Prop :=
  ∃ index, label = .controller here.1 (.shared index
    (discoveryPacket here.2 (.node (topology.datapathId here.1) here.2)).encode)

def Learns (here : Port Switch) (label : Label Switch Event) : Prop :=
  ∃ call, Receives here animNode call label

/-- What has happened when a discovery message goes from one port to another. -/
inductive Origin (topology : Topology Switch) (labels : List (Label Switch Event))
    (there here : Port Switch) : DiscoveryMessage → Prop where
  | request : Happened labels [Asks there] → Origin topology labels there here .echoRequest
  | reply : Happened labels [Asks here, Replies there] →
      Origin topology labels there here .echoReply
  | node : Happened labels [Asks there, Replies here, Hears there, Names topology there] →
      Origin topology labels there here (.node (topology.datapathId there.1) there.2)

/-- The frame carries a discovery message from the port that the link comes from. -/
def Arrives (topology : Topology Switch) (labels : List (Label Switch Event)) (here : Port Switch)
    (frame : Frame) : Prop :=
  ∃ there message, topology.link there = some here ∧ frame = discoveryFrame message ∧
    Origin topology labels there here message

/-- The reply was the second message of a handshake. -/
def Confirms (topology : Topology Switch) (labels : List (Label Switch Event)) (s : Switch)
    (reply : SwitchReply) : Prop :=
  ∃ there, topology.link (s, reply.portNo) = some there ∧
    Happened labels [Asks (s, reply.portNo), Replies there, Hears (s, reply.portNo)]

/-- The link is there, and its entry ends a handshake. -/
def Real (topology : Topology Switch) (labels : List (Label Switch Event)) (s : Switch)
    (entry : SwitchLink) : Prop :=
  ∃ port there, topology.link (s, port) = some there ∧
    entry = ⟨⟨topology.datapathId s, port⟩, ⟨topology.datapathId there.1, there.2⟩⟩ ∧
    Happened labels
      [Asks there, Replies (s, port), Hears there, Names topology there, Learns (s, port)]

section Later

variable {topology : Topology Switch} {labels : List (Label Switch Event)}
variable {here there : Port Switch} {s : Switch}

theorem Origin.later {message : DiscoveryMessage}
    (origin : Origin topology labels there here message)
    (more : List (Label Switch Event)) : Origin topology (labels ++ more) there here message := by
  cases origin with
  | request happened => exact .request (happened.later more)
  | reply happened => exact .reply (happened.later more)
  | node happened => exact .node (happened.later more)

theorem Origin.of_request {message : DiscoveryMessage}
    (origin : Origin topology labels there here message) (type : message.type = animEchoRequest) :
    Happened labels [Asks there] := by
  cases origin with
  | request happened => exact happened
  | reply _ => exact absurd type (show animEchoReply ≠ animEchoRequest by decide)
  | node _ => exact absurd type (show animNode ≠ animEchoRequest by decide)

theorem Origin.of_reply {message : DiscoveryMessage}
    (origin : Origin topology labels there here message) (type : message.type = animEchoReply) :
    Happened labels [Asks here, Replies there] := by
  cases origin with
  | request _ => exact absurd type (show animEchoRequest ≠ animEchoReply by decide)
  | reply happened => exact happened
  | node _ => exact absurd type (show animNode ≠ animEchoReply by decide)

theorem Origin.of_node {message : DiscoveryMessage}
    (origin : Origin topology labels there here message) (type : message.type = animNode) :
    message = .node (topology.datapathId there.1) there.2 ∧
      Happened labels [Asks there, Replies here, Hears there, Names topology there] := by
  cases origin with
  | request _ => exact absurd type (show animEchoRequest ≠ animNode by decide)
  | reply _ => exact absurd type (show animEchoReply ≠ animNode by decide)
  | node happened => exact ⟨rfl, happened⟩

theorem Arrives.later {frame : Frame} (arrives : Arrives topology labels here frame)
    (more : List (Label Switch Event)) : Arrives topology (labels ++ more) here frame := by
  obtain ⟨there, message, linked, same, origin⟩ := arrives
  exact ⟨there, message, linked, same, origin.later more⟩

theorem Confirms.later {reply : SwitchReply} (confirms : Confirms topology labels s reply)
    (more : List (Label Switch Event)) : Confirms topology (labels ++ more) s reply := by
  obtain ⟨there, linked, happened⟩ := confirms
  exact ⟨there, linked, happened.later more⟩

theorem Real.later {entry : SwitchLink} (real : Real topology labels s entry)
    (more : List (Label Switch Event)) : Real topology (labels ++ more) s entry := by
  obtain ⟨port, there, linked, same, happened⟩ := real
  exact ⟨port, there, linked, same, happened.later more⟩

end Later

/-! ## What the controllers send -/

/-- The discovery frames that a message lets the switch send have an origin. -/
structure Sent.Discovers (topology : Topology Switch) (labels : List (Label Switch Event))
    (s : Switch) (sent : Sent) : Prop where
  emits : ∀ port frame here, Emits sent port frame → frameType frame = lldpData →
    topology.link (s, port) = some here → Arrives topology labels here frame
  flow : ∀ flow, FlowMod.decode sent.bytes = some flow → flow.fields.dlType ≠ lldpData

section Sending

variable {topology : Topology Switch} {labels : List (Label Switch Event)} {s : Switch}
variable {message : DiscoveryMessage} {port : UInt16} {about : Option (UInt16 × Frame)}

theorem Sent.Discovers.later {sent : Sent} (discovers : sent.Discovers topology labels s)
    (more : List (Label Switch Event)) : sent.Discovers topology (labels ++ more) s where
  emits := by
    intro port frame here emits lldp linked
    exact (discovers.emits port frame here emits lldp linked).later more
  flow := discovers.flow

/-- Out of a port with a link goes what is sent to that port. -/
theorem outputs_eq {here there : Port Switch} {out : UInt16}
    (linked : topology.link here = some there)
    (outputs : Outputs (discoveryPacket here.2 message).actions
      (discoveryPacket here.2 message).inPort out) : out = here.2 := by
  obtain ⟨action, member, sends⟩ := outputs
  cases List.mem_singleton.mp member
  rwa [if_neg (topology.physical linked)] at sends

theorem Sent.Discovers.packet
    (origin : ∀ out here, Outputs (discoveryPacket port message).actions
      (discoveryPacket port message).inPort out → topology.link (s, out) = some here →
      Origin topology labels (s, out) here message) :
    Sent.Discovers topology labels s ⟨(discoveryPacket port message).encode, about⟩ where
  emits := by
    intro out frame here emits lldp linked
    cases emits with
    | buffered decoded empty _ _ =>
        rw [discoveryPacket_decode] at decoded
        cases decoded
        cases empty
    | data decoded _ outputs =>
        rw [discoveryPacket_decode] at decoded
        cases decoded
        exact ⟨(s, out), message, linked, rfl, origin out here outputs linked⟩
    | flow decoded _ _ =>
        rw [packetOut_not_flowMod] at decoded
        cases decoded
  flow := by
    intro flow decoded
    rw [packetOut_not_flowMod] at decoded
    cases decoded

/-- The messages of a handler: a reply to a request goes back over its link. -/
theorem Answers.discovers {call : Call} {bytes : List UInt8} (answers : Answers call about bytes)
    (asked : ∀ inPort frame, about = some (inPort, frame) →
      IsDiscovery call.message animEchoRequest →
      Receives (s, inPort) animEchoRequest call (.controller s (.handled call)) ∧
        ∃ there, topology.link (s, inPort) = some there ∧ Happened labels [Asks there]) :
    Sent.Discovers topology (labels ++ [.controller s (.handled call)]) s ⟨bytes, about⟩ := by
  have without {frame : Frame} {inPort : UInt16} (isAbout : about = some (inPort, frame))
      (notLldp : frameType frame ≠ lldpData)
      (noData : ∀ packet, PacketOut.decode bytes = some packet → packet.data = [])
      (flow : ∀ flow, FlowMod.decode bytes = some flow → flow.fields.dlType ≠ lldpData) :
      Sent.Discovers topology (labels ++ [.controller s (.handled call)]) s ⟨bytes, about⟩ := by
    refine ⟨fun port other here emits lldp linked => ?_, flow⟩
    cases emits with
    | buffered _ _ same _ =>
        cases isAbout.symm.trans same
        exact absurd lldp notLldp
    | data decoded nonempty _ => exact absurd (noData _ decoded) nonempty
    | flow _ same _ =>
        cases isAbout.symm.trans same
        exact absurd lldp notLldp
  cases answers with
  | plain noPacket noFlow =>
      refine ⟨fun port other here emits lldp linked => ?_, fun flow decoded => ?_⟩
      · cases emits with
        | buffered decoded _ _ _ => cases noPacket.symm.trans decoded
        | data decoded _ _ => cases noPacket.symm.trans decoded
        | flow decoded _ _ => cases noFlow.symm.trans decoded
      · cases noFlow.symm.trans decoded
  | flood isAbout notLldp isPacket empty noFlow =>
      apply without isAbout notLldp
      · intro packet decoded
        cases Option.some.inj (isPacket.symm.trans decoded)
        exact empty
      · intro flow decoded
        cases noFlow.symm.trans decoded
  | flow isAbout notLldp noPacket isFlow type _ =>
      apply without isAbout notLldp
      · intro packet decoded
        cases noPacket.symm.trans decoded
      · intro flow decoded
        cases Option.some.inj (isFlow.symm.trans decoded)
        rwa [type]
  | @reply inPort frame isAbout request all isReply =>
      obtain ⟨receives, there, linked, happened⟩ := asked inPort frame isAbout request
      subst isReply
      apply Sent.Discovers.packet
      intro out here outputs link
      cases outputs_eq linked outputs
      cases linked.symm.trans link
      exact .reply (happened.next ⟨call, receives, all⟩)

/-- The messages of a discovery thread: it names a port to the switch that
confirmed the link. -/
theorem shared_discovers {index : Nat} {bytes : List UInt8} {p q : Process} {tables : Tables}
    (step : Process.Step p (.shared index bytes) q) (shows : p.ani.Shows tables)
    (confirms : ∀ reply ∈ tables.swReplys, Confirms topology labels s reply ∧
      p.ani.switchId = topology.datapathId s) :
    Sent.Discovers topology (labels ++ [.controller s (.shared index bytes)]) s
      ⟨bytes, none⟩ := by
  rcases step.shared_cases with ⟨port, rfl⟩ | ⟨address, reply, read, rfl⟩
  · apply Sent.Discovers.packet
    intro out here outputs linked
    exact .request (.first ⟨index, port, rfl, outputs⟩)
  · obtain ⟨⟨there, linked, happened⟩, switchId⟩ :=
      confirms reply (shows.swReplys.readObject read)
    rw [switchId]
    apply Sent.Discovers.packet
    intro out here outputs link
    cases outputs_eq linked outputs
    cases linked.symm.trans link
    exact .node (happened.next ⟨index, rfl⟩)

end Sending

/-! ## The invariant -/

structure Discovered (topology : Topology Switch) (labels : List (Label Switch Event))
    (net : Net Switch Process) : Prop where
  wire : ∀ here frame, (here, frame) ∈ net.wire → frameType frame = lldpData →
    Arrives topology labels here frame
  inbox : ∀ s, ∀ message ∈ net.inbox s, ∀ inPort frame, message.about = some (inPort, frame) →
    frameType frame = lldpData → Arrives topology labels (s, inPort) frame
  outbox : ∀ s, ∀ sent ∈ net.outbox s, sent.Discovers topology labels s
  replys : ∀ s, ∀ reply ∈ net.swReplys s, Confirms topology labels s reply ∧
    (net.controllers s).ani.switchId = topology.datapathId s
  links : ∀ s, ∀ entry ∈ net.links s, Real topology labels s entry

section Invariant

variable {topology : Topology Switch} {labels : List (Label Switch Event)}
variable {net : Net Switch Process} {s : Switch}

theorem Discovered.initial (cbench : Switch → Bool) :
    Discovered topology [] (Net.initial cbench) := by
  constructor
  · intro here frame impossible
    cases impossible
  · intro s message impossible
    cases impossible
  · intro s sent impossible
    cases impossible
  · intro s reply impossible
    cases impossible
  · intro s entry impossible
    cases impossible

theorem Discovered.later (discovered : Discovered topology labels net)
    (more : List (Label Switch Event)) : Discovered topology (labels ++ more) net where
  wire := by
    intro here frame member lldp
    exact (discovered.wire here frame member lldp).later more
  inbox := by
    intro s message member inPort frame about lldp
    exact (discovered.inbox s message member inPort frame about lldp).later more
  outbox := fun s sent member => (discovered.outbox s sent member).later more
  replys := by
    intro s reply member
    obtain ⟨confirms, switchId⟩ := discovered.replys s reply member
    exact ⟨confirms.later more, switchId⟩
  links := fun s entry member => (discovered.links s entry member).later more

theorem Discovered.put (discovered : Discovered topology labels net) {there : Port Switch}
    {frame : Frame} (arrives : frameType frame = lldpData → Arrives topology labels there frame) :
    Discovered topology labels (net.put there frame) where
  wire := by
    intro here other member lldp
    rcases List.mem_append.mp member with old | new
    · exact discovered.wire here other old lldp
    · cases List.mem_singleton.mp new
      exact arrives lldp
  inbox := discovered.inbox
  outbox := discovered.outbox
  replys := discovered.replys
  links := discovered.links

theorem Discovered.emit (discovered : Discovered topology labels net) {here : Port Switch}
    {frame : Frame} (arrives : ∀ there, topology.link here = some there →
      frameType frame = lldpData → Arrives topology labels there frame) :
    Discovered topology labels (net.emit topology here frame) := by
  unfold Net.emit
  split
  · exact discovered
  · rename_i there linked
    exact discovered.put (arrives there linked)

/-- What a discovery message says about the past of the port that it comes in at. -/
theorem Discovered.receives (discovered : Discovered topology labels net) {message : Message}
    {call : Call} {type : UInt8} (told : message ∈ net.inbox s)
    (takes : Takes call message.bytes) (valid : message.Valid) (handler : call.handler = .packout)
    (discovery : IsDiscovery call.message type) :
    ∃ inPort there sent, Receives (s, inPort) type call (.controller s (.handled call)) ∧
      message.about = some (inPort, discoveryFrame sent) ∧
      topology.link (s, inPort) = some there ∧ Origin topology labels there (s, inPort) sent ∧
      sent.type = type ∧ Reports message.bytes inPort (discoveryFrame sent) := by
  obtain ⟨inPort, frame, about⟩ := (handler_eq_packout_iff takes valid).mp handler
  have reports := valid.report about
  obtain ⟨readPort, -, readType⟩ := reports.read takes.whole
  have lldp : frameType frame = lldpData := readType.symm.trans discovery.1
  obtain ⟨there, sent, linked, rfl, origin⟩ :=
    discovered.inbox s message told inPort frame about lldp
  exact ⟨inPort, there, sent, ⟨rfl, handler, readPort, discovery⟩, about,
    topology.symmetric linked, origin, reports.type_eq takes.whole discovery, reports⟩

section Handled

variable {call : Call} {process : Process} {message : Message} {tables : Tables}

/-- The answer to a request is the second stage. -/
theorem Discovered.answered (discovered : Discovered topology labels net)
    (step : Process.Step (net.controllers s) (.handled call) process)
    (shows : (net.controllers s).ani.Shows tables) (told : message ∈ net.inbox s)
    (takes : Takes call message.bytes) (valid : message.Valid) {bytes : List UInt8}
    (sent : bytes ∈ call.sent) :
    Sent.Discovers topology (labels ++ [.controller s (.handled call)]) s
      ⟨bytes, message.about⟩ := by
  apply (answers_of_handled takes valid shows step sent).discovers
  intro inPort frame about request
  have handler := (handler_eq_packout_iff takes valid).mpr ⟨inPort, frame, about⟩
  obtain ⟨port, there, asked, receives, same, linked, origin, type, -⟩ :=
    discovered.receives told takes valid handler request
  cases about.symm.trans same
  exact ⟨receives, there, linked, origin.of_request type⟩

/-- A reply that comes in is the third stage. -/
theorem Discovered.confirms (discovered : Discovered topology labels net)
    (told : message ∈ net.inbox s) (takes : Takes call message.bytes) (valid : message.Valid)
    (handler : call.handler = .packout) (isReply : IsDiscovery call.message animEchoReply)
    {reply : SwitchReply} (portNo : reply.portNo = (parsePacketIn call.message).inPort) :
    Confirms topology (labels ++ [.controller s (.handled call)]) s reply := by
  obtain ⟨port, there, sent, receives, -, linked, origin, type, -⟩ :=
    discovered.receives told takes valid handler isReply
  have same : reply.portNo = port := portNo.trans receives.2.2.1
  unfold Confirms
  rw [same]
  exact ⟨there, linked, (origin.of_reply type).next ⟨call, receives⟩⟩

/-- A port that is named is the last stage. -/
theorem Discovered.real (discovered : Discovered topology labels net)
    (told : message ∈ net.inbox s) (takes : Takes call message.bytes) (valid : message.Valid)
    (handler : call.handler = .packout) (isNode : IsDiscovery call.message animNode) :
    Real topology (labels ++ [.controller s (.handled call)]) s
      (linkEntry (topology.datapathId s) call.message) := by
  obtain ⟨port, there, sent, receives, -, linked, origin, type, reports⟩ :=
    discovered.receives told takes valid handler isNode
  obtain ⟨rfl, happened⟩ := origin.of_node type
  exact ⟨port, there, linked, reports.carries.linkEntry_eq takes.whole,
    happened.next ⟨call, receives⟩⟩

end Handled

variable [DecidableEq Switch]

theorem Discovered.tell (discovered : Discovered topology labels net) {message : Message}
    (arrives : ∀ inPort frame, message.about = some (inPort, frame) →
      frameType frame = lldpData → Arrives topology labels (s, inPort) frame) :
    Discovered topology labels (net.tell s message) where
  wire := discovered.wire
  inbox := by
    intro t other member
    rcases Net.mem_tell member with old | ⟨rfl, rfl⟩
    · exact discovered.inbox t other old
    · exact arrives
  outbox := discovered.outbox
  replys := discovered.replys
  links := discovered.links

theorem Discovered.control (discovered : Discovered topology labels net) {process : Process}
    {sent : List Sent} (discovers : ∀ new ∈ sent, new.Discovers topology labels s)
    (replys : ∀ reply ∈ process.ani.swReplys.contents, Confirms topology labels s reply ∧
      process.ani.switchId = topology.datapathId s)
    (links : ∀ entry ∈ process.ani.links.contents, Real topology labels s entry) :
    Discovered topology labels (net.control s process sent) where
  wire := discovered.wire
  inbox := discovered.inbox
  outbox := by
    intro t other member
    rcases Net.mem_control member with old | ⟨rfl, new⟩
    · exact discovered.outbox t other old
    · exact discovers other new
  replys := by
    intro t
    unfold Net.swReplys
    by_cases same : t = s
    · subst same
      rw [Net.control_self]
      exact replys
    · rw [Net.control_other same]
      exact discovered.replys t
  links := by
    intro t
    unfold Net.links
    by_cases same : t = s
    · subst same
      rw [Net.control_self]
      exact links
    · rw [Net.control_other same]
      exact discovered.links t

/-- A controller that handles no message keeps its tables or empties them. -/
theorem Discovered.silent (discovered : Discovered topology labels net) {event : Event}
    {process : Process} {sent : List Sent} {tables : Tables}
    (step : Process.Step (net.controllers s) event process)
    (shows : (net.controllers s).ani.Shows tables) (silent : ∀ call, event ≠ .handled call)
    (discovers : ∀ new ∈ sent, new.Discovers topology labels s) :
    Discovered topology labels (net.control s process sent) := by
  obtain ⟨after, kept, change⟩ := step.change shows
  have same := step.switchId_kept silent
  apply discovered.control discovers
  · intro reply member
    rw [kept.swReplys.contents_eq] at member
    rcases change.swReplys member with old | ⟨call, handled, -⟩
    · rw [← shows.swReplys.contents_eq] at old
      rw [same]
      exact discovered.replys s reply old
    · exact absurd handled (silent call)
  · intro entry member
    rw [kept.links.contents_eq] at member
    rcases change.links member with old | ⟨call, handled, -⟩
    · rw [← shows.links.contents_eq] at old
      exact discovered.links s entry old
    · exact absurd handled (silent call)

/-- A handler that gets a discovery message does the next stage. -/
theorem Discovered.handled (discovered : Discovered topology labels net) {call : Call}
    {process : Process} {message : Message} {tables : Tables}
    (step : Process.Step (net.controllers s) (.handled call) process)
    (shows : (net.controllers s).ani.Shows tables) (told : message ∈ net.inbox s)
    (takes : Takes call message.bytes) (valid : message.Valid)
    (known : ∀ type, call.handler = .packout → IsDiscovery call.message type →
      (net.controllers s).ani.switchId = topology.datapathId s)
    (named : call.handler = .featuresReply →
      be64toh (call.message.load64 OfpSwitchFeatures.datapathId) = topology.datapathId s) :
    Discovered topology (labels ++ [.controller s (.handled call)])
      (net.control s process (call.sent.map fun bytes => ⟨bytes, message.about⟩)) := by
  have later := discovered.later [.controller s (.handled call)]
  obtain ⟨after, kept, change⟩ := step.change shows
  have stays (same : (net.controllers s).ani.switchId = topology.datapathId s) :
      process.ani.switchId = topology.datapathId s := by
    have switchId := step.switchId_call shows
    split at switchId
    · rename_i reply
      rcases switchId with ⟨kept, -⟩ | set
      · exact kept.trans same
      · exact set.trans (named reply)
    · exact switchId.trans same
  apply later.control
  · intro new member
    obtain ⟨bytes, sent, rfl⟩ := List.mem_map.mp member
    exact discovered.answered step shows told takes valid sent
  · intro reply member
    rw [kept.swReplys.contents_eq] at member
    rcases change.swReplys member with old | ⟨_, same, handler, isReply, portNo⟩
    · rw [← shows.swReplys.contents_eq] at old
      obtain ⟨confirms, same⟩ := later.replys s reply old
      exact ⟨confirms, stays same⟩
    · cases same
      exact ⟨discovered.confirms told takes valid handler isReply portNo,
        stays (known _ handler isReply)⟩
  · intro entry member
    rw [kept.links.contents_eq] at member
    rcases change.links member with old | ⟨_, same, handler, isNode, entered⟩
    · rw [← shows.links.contents_eq] at old
      exact later.links s entry old
    · cases same
      rw [entered, known _ handler isNode]
      exact discovered.real told takes valid handler isNode

end Invariant

/-! ## Every run -/

variable {labels : List (Label Switch Event)}

/-- No host sends frames of the discovery. -/
def HostsSilent (labels : List (Label Switch Event)) : Prop :=
  ∀ here frame, Label.hostSent here frame ∈ labels → frameType frame ≠ lldpData

/-- Whenever a controller handles a frame of the discovery, it has handled a
features reply before. -/
def Prepared (labels : List (Label Switch Event)) : Prop :=
  ∀ earlier s call later, labels = earlier ++ Label.controller s (.handled call) :: later →
    call.handler = .packout → (parsePacketIn call.message).type = lldpData →
    Introduced s earlier

/-- Once every controller has handled a features reply, the rest of a history
needs no preparation. -/
theorem Prepared.append {more : List (Label Switch Event)} (prepared : Prepared labels)
    (introduced : ∀ s, Introduced s labels) : Prepared (labels ++ more) := by
  intro earlier s call later split handler lldp
  rcases List.append_eq_append_iff.mp split with ⟨middle, before, -⟩ | ⟨middle, before, after⟩
  · rw [before]
    exact (introduced s).later middle
  · cases middle with
    | nil =>
        rw [List.append_nil] at before
        exact before ▸ introduced s
    | cons first rest =>
        obtain ⟨rfl, -⟩ := List.cons.inj after
        exact prepared earlier s call rest before handler lldp

variable {topology : Topology Switch}

/-- A history of a network whose switches and hosts are honest. -/
structure Fair (topology : Topology Switch) (labels : List (Label Switch Event)) : Prop where
  genuine : Genuine topology labels
  hosts : HostsSilent labels
  prepared : Prepared labels
  lasting : Lasting labels

theorem Fair.append (fair : Fair topology labels) (introduced : ∀ s, Introduced s labels)
    {more : List (Label Switch Event)} (ordinary : ∀ label ∈ more, Ordinary label) :
    Fair topology (labels ++ more) where
  genuine := by
    intro s bytes spoke
    rcases List.mem_append.mp spoke with old | new
    · exact fair.genuine s bytes old
    · exact absurd (ordinary _ new) id
  hosts := by
    intro here frame sent
    rcases List.mem_append.mp sent with old | new
    · exact fair.hosts here frame old
    · exact absurd (ordinary _ new) id
  prepared := fair.prepared.append introduced
  lasting := by
    intro s lost
    rcases List.mem_append.mp lost with old | new
    · exact fair.lasting s old
    · exact absurd (ordinary _ new) id

theorem Fair.introductory (genuine : Genuine topology labels)
    (introductory : ∀ label ∈ labels, Introductory label) : Fair topology labels where
  genuine := genuine
  hosts := fun here frame sent => absurd (introductory _ sent) id
  prepared := by
    intro earlier s call later split handler _
    have member : Label.controller s (.handled call) ∈ labels := by simp [split]
    have features : call.handler = .featuresReply := introductory _ member
    exact absurd (handler.symm.trans features) (by decide)
  lasting := fun s lost => absurd (introductory _ lost) id

variable [DecidableEq Switch] {cbench : Switch → Bool} {net next : Net Switch Process}
variable {label : Label Switch Event}

theorem Discovered.step (discovered : Discovered topology labels net)
    (step : Step topology net label next) (valid : ∀ s, ∀ message ∈ net.inbox s, message.Valid)
    (tables : ∀ s, ∃ tables, (net.controllers s).ani.Shows tables)
    (hosts : ∀ here frame, label = .hostSent here frame → frameType frame ≠ lldpData)
    (known : ∀ s call type, label = .controller s (.handled call) → call.handler = .packout →
      IsDiscovery call.message type → (net.controllers s).ani.switchId = topology.datapathId s)
    (named : ∀ s call, label = .controller s (.handled call) →
      ∀ message ∈ net.inbox s, Takes call message.bytes → call.handler = .featuresReply →
        be64toh (call.message.load64 OfpSwitchFeatures.datapathId) = topology.datapathId s) :
    Discovered topology (labels ++ [label]) next := by
  have later := discovered.later [label]
  cases step with
  | @hostSent here frame _ =>
      apply later.put
      intro lldp
      exact absurd lldp (hosts here frame rfl)
  | @reported here frame bytes member _ =>
      apply later.tell
      intro inPort other about lldp
      cases about
      exact later.wire here frame member lldp
  | @forwarded here frame sent flow port _ told decoded type _ _ =>
      apply later.emit
      intro there _ lldp
      exact absurd (type.trans lldp) ((later.outbox here.1 sent told).flow flow decoded)
  | spoke _ _ =>
      apply later.tell
      intro inPort frame impossible
      cases impossible
  | @executed s sent port frame told emits =>
      apply later.emit
      intro there linked lldp
      exact (later.outbox s sent told).emits port frame there emits lldp linked
  | @controller s event process sent taken exchanges =>
      obtain ⟨_, shows⟩ := tables s
      cases exchanges with
      | received _ _ =>
          apply later.silent taken shows (fun call => nofun)
          intro sent impossible
          cases impossible
      | @handled call message told takes =>
          exact discovered.handled taken shows told takes (valid s message told)
            (fun type => known s call type rfl) (named s call rfl message told takes)
      | shared =>
          apply later.silent taken shows (fun call => nofun)
          intro sent member
          cases List.mem_singleton.mp member
          apply shared_discovers taken shows
          rw [← shows.swReplys.contents_eq]
          exact discovered.replys s
      | quiet quiet =>
          apply later.silent taken shows
          · rintro call rfl
            cases quiet
          · intro sent impossible
            cases impossible

theorem Reaches.discovered (run : Reaches topology cbench labels net)
    (genuine : Genuine topology labels) (hosts : HostsSilent labels)
    (prepared : Prepared labels) : Discovered topology labels net := by
  induction run with
  | refl => exact Discovered.initial cbench
  | @snoc labels middle finish label earlier step inductionHypothesis =>
      have before := genuine.earlier
      have discovered := inductionHypothesis before
        (fun here frame member => hosts here frame (List.mem_append_left _ member))
        (fun first s call later split =>
          prepared first s call (later ++ [label]) (by simp [split]))
      have tables (s : Switch) : ∃ tables, (middle.controllers s).ani.Shows tables :=
        have ⟨tables, shows, _⟩ := Reaches.tables earlier s
        ⟨tables, shows⟩
      apply discovered.step step (Reaches.valid earlier) tables
      · rintro here frame rfl
        exact hosts here frame (List.mem_append_right _ List.mem_cons_self)
      · rintro s call type rfl handler discovery
        have introduced := prepared labels s call [] rfl handler discovery.1
        rcases step.controller_cases s with ⟨-, others⟩ | ⟨event, same, taken, -⟩
        · exact absurd rfl (others _)
        · cases same
          -- the main thread is still running
          exact (Reaches.identity earlier before introduced).resolve_left fun exited =>
            (taken.after_exit exited).2 call rfl
      · rintro s call rfl message told takes handler
        exact Reaches.genuine earlier before told takes handler

/-- Every entry of every links table is a link of the network, with the port
that its `NODE` message came in at as one end.  The switch at the other end had
asked out of its port, was answered, heard the answer and named itself, in this
order. -/
theorem links_real (run : Reaches topology cbench labels net)
    (genuine : Genuine topology labels) (hosts : HostsSilent labels)
    (prepared : Prepared labels) {s : Switch} {entry : SwitchLink} (entered : entry ∈ net.links s) :
    Real topology labels s entry :=
  (Reaches.discovered run genuine hosts prepared).links s entry entered

/-! ## A whole handshake -/

/-- A features reply that names one port. -/
def onePort (datapathId : UInt64) : List UInt8 :=
  List.flatten
    [[ofpVersion, ofptFeaturesReply, 0, 80, 0, 0, 0, 1], network 8 datapathId.toNat,
      List.replicate 64 0]

/-- What the two controllers do, once both have handled a features reply. -/
theorem two_rounds :
    ∃ first p other q one two,
      (Process.initial false).deliver (onePort 12) .calm = some (first, p) ∧
      first.handler = .featuresReply ∧
      (Process.initial false).deliver (onePort 11) .calm = some (other, q) ∧
      other.handler = .featuresReply ∧
      playRound 1 2 12 3 p q = some one ∧ one.Exchanged 1 2 12 ∧
      one.learned.ani.links.contents = [⟨⟨11, 2⟩, ⟨12, 1⟩⟩] ∧
      playRound 1 2 12 56 one.naming one.learned = some two ∧ two.Exchanged 1 2 12 ∧
      two.learned.ani.links.contents = [⟨⟨11, 2⟩, ⟨12, 1⟩⟩, ⟨⟨11, 2⟩, ⟨12, 1⟩⟩] := by
  have computed : (do
      let first ← (Process.initial false).deliver (onePort 12) .calm
      let other ← (Process.initial false).deliver (onePort 11) .calm
      let one ← playRound 1 2 12 3 first.2 other.2
      let two ← playRound 1 2 12 56 one.naming one.learned
      pure ((first.1.handler, other.1.handler), decide (one.Exchanged 1 2 12),
        one.learned.ani.links.contents, decide (two.Exchanged 1 2 12),
        two.learned.ani.links.contents)) =
      some ((Handler.featuresReply, Handler.featuresReply), true, [⟨⟨11, 2⟩, ⟨12, 1⟩⟩], true,
        [⟨⟨11, 2⟩, ⟨12, 1⟩⟩, ⟨⟨11, 2⟩, ⟨12, 1⟩⟩]) := by decide +kernel
  obtain ⟨⟨first, p⟩, delivered, computed⟩ := Option.bind_eq_some_iff.mp computed
  obtain ⟨⟨other, q⟩, too, computed⟩ := Option.bind_eq_some_iff.mp computed
  obtain ⟨one, played, computed⟩ := Option.bind_eq_some_iff.mp computed
  obtain ⟨two, again, computed⟩ := Option.bind_eq_some_iff.mp computed
  have all := Option.some.inj computed
  simp only [Prod.mk.injEq, decide_eq_true_eq] at all
  obtain ⟨⟨handler, same⟩, exchanged, links, twice, doubled⟩ := all
  exact ⟨first, p, other, q, one, two, delivered, handler, too, same, played, exchanged, links,
    again, twice, doubled⟩

/-- Both controllers handle their features replies. -/
theorem introductions {first other : Call} {p q : Process}
    (delivered : (Process.initial false).deliver (onePort 12) .calm = some (first, p))
    (handler : first.handler = .featuresReply)
    (too : (Process.initial false).deliver (onePort 11) .calm = some (other, q))
    (same : other.handler = .featuresReply) :
    ∃ (labels : List (Label Bool Event)) (net : Net Bool Process),
      Reaches (twoSwitches hostA) (fun _ => false) labels net ∧
      Genuine (twoSwitches hostA) labels ∧ (∀ s, Introduced s labels) ∧
      (∀ label ∈ labels, Introductory label) ∧ net.controllers true = p ∧
      net.controllers false = q := by
  let start : Net Bool Process := Net.initial fun _ => false
  obtain ⟨net, run, asker, answerer⟩ : ∃ net : Net Bool Process,
      Run (Step (twoSwitches hostA)) start _ net ∧ net.controllers true = p ∧
        net.controllers false = q :=
    ⟨_, (spoke_run true rfl (by decide) (by decide) delivered).trans
      (spoke_run false rfl (by decide) (by decide) too), rfl, rfl⟩
  refine ⟨_, net, run, ?_, ?_, ?_, asker, answerer⟩
  · intro s bytes spoke _
    simp at spoke
    rcases spoke with ⟨rfl, rfl⟩ | ⟨rfl, rfl⟩
    · decide
    · decide
  · intro s
    cases s with
    | false => exact ⟨other, by simp, same⟩
    | true => exact ⟨first, by simp, handler⟩
  · simp [Introductory, handler, same]

theorem twoSwitches_linked : (twoSwitches hostA).link (true, 1) = some (false, 2) := rfl

/-- The second switch asks out of its port, and the first one learns the link. -/
theorem links_real_twoSwitches :
    ∃ (labels : List (Label Bool Event)) (net : Net Bool Process),
      Reaches (twoSwitches hostA) (fun _ => false) labels net ∧
      net.links false = [⟨⟨11, 2⟩, ⟨12, 1⟩⟩] ∧
      Real (twoSwitches hostA) labels false ⟨⟨11, 2⟩, ⟨12, 1⟩⟩ := by
  obtain ⟨first, p, other, q, one, -, delivered, handler, too, same, played, exchanged, links,
    -⟩ := two_rounds
  obtain ⟨begins, start, begun, genuine, introduced, introductory, asker, answerer⟩ :=
    introductions delivered handler too same
  obtain ⟨labels, before, finish, run, quiet, -, step, -, learned⟩ :=
    Round.run twoSwitches_linked (by decide) asker answerer played exchanged
  have whole : Reaches (twoSwitches hostA) (fun _ => false)
      (begins ++ (labels ++ [.controller false (.handled one.node)])) finish :=
    begun.trans (run.trans (.single step))
  have table : finish.links false = [⟨⟨11, 2⟩, ⟨12, 1⟩⟩] := by
    unfold Net.links
    rw [learned, links]
  have entered : ⟨⟨11, 2⟩, ⟨12, 1⟩⟩ ∈ finish.links false := table ▸ List.mem_cons_self
  have fair : Fair (twoSwitches hostA)
      (begins ++ (labels ++ [.controller false (.handled one.node)])) := by
    apply (Fair.introductory genuine introductory).append introduced
    simp only [List.forall_mem_append]
    exact ⟨fun label member => (quiet label member).1, by simp [Ordinary]⟩
  exact ⟨_, finish, whole, table,
    links_real whole fair.genuine fair.hosts fair.prepared entered⟩

end DAIM.Network
