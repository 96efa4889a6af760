import DAIM.Network.Spent

/-!
# Frames to known hosts at one switch

An ARP frame to one host comes in at a switch.  When its controller has an entry
for that host, it answers by a flow, and the switch sends the frame out of the port
of the entry, once, whether it is reported or forwarded.  When it has none, it
sends nothing, and the frame is dropped.
-/

namespace DAIM.Network

open DAIM.Library DAIM.OpenFlow DAIM.Linked DAIM.Com DAIM.Hosts DAIM.Ani41

/-! ## What a controller answers -/

/-- The flow goes out of the port of the entry for its destination. -/
def Directs (hosts : List SwitchHost) (flow : FlowMod) : Prop :=
  ∃ port, entryPort hosts flow.fields.dlDst = some port ∧
    flow.actions.map ActionOutput.port = [port]

theorem Directs.grow {hosts more : List SwitchHost} {flow : FlowMod} (directs : Directs hosts flow)
    (grows : ∀ mac port, entryPort hosts mac = some port → entryPort more mac = some port) :
    Directs more flow := by
  obtain ⟨port, entry, actions⟩ := directs
  exact ⟨port, grows _ _ entry, actions⟩

/-- A flow to one port sends one copy. -/
theorem outputs_of_directs {hosts : List SwitchHost} {flow : FlowMod} {port inPort : UInt16}
    (directs : Directs hosts flow) (entry : entryPort hosts flow.fields.dlDst = some port)
    (physical : port ≠ ofppFlood) (ports : List UInt16) :
    outputs ports flow.actions inPort = [port] := by
  obtain ⟨out, known, actions⟩ := directs
  cases entry.symm.trans known
  obtain ⟨action, single, rfl⟩ := List.map_eq_singleton_iff.mp actions
  unfold outputs
  rw [single, List.flatMap_singleton, if_neg physical]

section Answers

variable {enters : UInt16 → Prop} {message : Message} {p q : Process} {call : Call}
variable {inPort : UInt16} {frame : Frame}

/-- An ARP frame to one host is answered by a flow, when the host has an entry. -/
theorem Message.Sound.unicast (sound : message.Sound enters) (takes : Takes call message.bytes)
    (numbered : p.Numbered) (step : Process.Step p (.handled call) q)
    (about : message.about = some (inPort, frame)) (arp : frameType frame = arpData)
    (single : frameDst frame ≠ Mac.broadcast) :
    (parsePacketIn call.message).dst = frameDst frame ∧
      call.sent = (flowOr (portOf q.ani.hosts.contents (frameDst frame))
        (arpFlow call.message (portOf q.ani.hosts.contents (frameDst frame)))).bytes := by
  obtain ⟨started, ofBuffer, outcome, called⟩ := step.called
  obtain ⟨tables, shows, -⟩ := numbered.heard
  have valid := sound.valid
  have reports := valid.report about
  have packout := (handler_eq_packout_iff takes valid).mpr ⟨inPort, frame, about⟩
  obtain ⟨after, all⟩ := called.packout shows packout
  have isArp : IsArp call.message := (reports.read takes.whole).2.2.trans arp
  have readDst := reports.read_dst takes.whole
  rw [answer_of_arp _ _ isArp, readDst, if_neg single, ← after.hosts.contents_eq] at all
  exact ⟨readDst, all⟩

theorem portOf_of_entryPort {hosts : List SwitchHost} {mac : Mac} {port : UInt16}
    (entry : entryPort hosts mac = some port) : portOf hosts mac = port := by
  unfold entryPort at entry
  unfold portOf
  obtain ⟨host, found, rfl⟩ := Option.map_eq_some_iff.mp entry
  rw [found]

theorem entryPort_of_portOf {hosts : List SwitchHost} {mac : Mac} (known : portOf hosts mac ≠ 0) :
    entryPort hosts mac = some (portOf hosts mac) := by
  unfold portOf at known ⊢
  unfold entryPort
  cases found : hosts.find? (sameMac mac) with
  | none =>
      rw [found] at known
      exact absurd rfl known
  | some host => rfl

/-- What a controller does with a frame to one host: nothing, or a flow for that host. -/
theorem Message.Sound.forwards (sound : message.Sound enters) (takes : Takes call message.bytes)
    (numbered : p.Numbered) (step : Process.Step p (.handled call) q)
    (about : message.about = some (inPort, frame)) (arp : frameType frame = arpData)
    (single : frameDst frame ≠ Mac.broadcast) :
    (portOf q.ani.hosts.contents (frameDst frame) = 0 ∧ call.sent = []) ∨
      (portOf q.ani.hosts.contents (frameDst frame) ≠ 0 ∧
        ∃ flow, call.sent = [FlowMod.encode flow] ∧ FlowMod.decode flow.encode = some flow ∧
          PacketOut.decode flow.encode = none ∧ flow.fields.dlDst = frameDst frame) := by
  obtain ⟨readDst, all⟩ := sound.unicast takes numbered step about arp single
  unfold flowOr at all
  split at all
  · rename_i known
    exact .inr ⟨known, _, all, FlowMod.decode_encode (by show 80 < 65536; decide),
      packetOut_decode_none (show ofptFlowMod ≠ ofptPacketOut by decide), readDst⟩
  · rename_i unknown
    exact .inl ⟨not_not.mp unknown, all⟩

/-- Every flow is for an ARP frame, and goes out of the port of an entry. -/
theorem Message.Sound.directs (sound : message.Sound enters) (takes : Takes call message.bytes)
    (numbered : p.Numbered) (step : Process.Step p (.handled call) q) {bytes : List UInt8}
    (sent : bytes ∈ call.sent) {flow : FlowMod} (decoded : FlowMod.decode bytes = some flow) :
    Directs q.ani.hosts.contents flow := by
  obtain ⟨tables, shows, -⟩ := numbered.heard
  cases answers_of_handled takes sound.valid shows step sent with
  | plain _ noFlow => cases noFlow.symm.trans decoded
  | flood _ _ _ _ noFlow => cases noFlow.symm.trans decoded
  | reply _ _ _ isReply =>
      rw [isReply, packetOut_not_flowMod] at decoded
      cases decoded
  | @flow inPort frame _ about notLldp _ _ _ _ =>
      have carried : ArpOrLldp frame ∧ frameDst frame ≠ Mac.broadcast := by
        cases sound with
        | other _ => cases about
        | @report port reported bytes reports carried =>
            cases about
            refine ⟨carried.kind, fun broadcast => ?_⟩
            have asks : AsksAll frame := ⟨carried.kind.resolve_right notLldp, broadcast⟩
            have isSound : Message.Sound enters (.report inPort frame bytes) :=
              .report reports carried
            rcases isSound.answered takes numbered step with ⟨unasked, -⟩ |
              ⟨packet, copy, all, -, -, -⟩
            · exact unasked inPort frame rfl asks
            · rw [all] at sent
              cases List.mem_singleton.mp sent
              rw [packetOut_not_flowMod] at decoded
              cases decoded
      have arp := carried.1.resolve_right notLldp
      obtain ⟨readDst, all⟩ := sound.unicast takes numbered step about arp carried.2
      unfold flowOr at all
      split at all
      · rename_i known
        rw [all] at sent
        cases List.mem_singleton.mp sent
        have same := Option.some.inj
          ((FlowMod.decode_encode (by show 80 < 65536; decide)).symm.trans decoded)
        subst same
        refine ⟨_, ?_, rfl⟩
        show entryPort _ (parsePacketIn call.message).dst = _
        rw [readDst]
        exact entryPort_of_portOf known
      · rw [all] at sent
        cases sent

/-- Entries are never lost while the connection lasts. -/
theorem hosts_grow {event : Event} {tables : Tables} (step : Process.Step p event q)
    (shows : p.ani.Shows tables) (online : p.place.Online) {mac : Mac} {port : UInt16}
    (entry : entryPort p.ani.hosts.contents mac = some port) :
    entryPort q.ani.hosts.contents mac = some port := by
  obtain ⟨after, kept, change⟩ := step.change shows
  rw [shows.hosts.contents_eq] at entry
  rw [kept.hosts.contents_eq]
  obtain ⟨more, same⟩ := (change.hosts online).2.2
  unfold entryPort at entry ⊢
  obtain ⟨host, found, rfl⟩ := Option.map_eq_some_iff.mp entry
  rw [← same, List.find?_append, found]
  rfl

end Answers

/-! ## One switch -/

/-- The message is about the frame. -/
def isOf (frame : Frame) (about : Option (UInt16 × Frame)) : Bool :=
  about.any fun copy => decide (copy.2 = frame)

theorem isOf_iff {frame : Frame} {about : Option (UInt16 × Frame)} :
    isOf frame about = true ↔ ∃ inPort, about = some (inPort, frame) := by
  unfold isOf
  rw [Option.any_eq_true]
  constructor
  · rintro ⟨⟨inPort, copy⟩, isAbout, same⟩
    exact ⟨inPort, of_decide_eq_true same ▸ isAbout⟩
  · rintro ⟨inPort, isAbout⟩
    exact ⟨_, isAbout, decide_eq_true rfl⟩

/-- The entry of the controller for an address. -/
def Site.hop (site : Site) (mac : Mac) : Option UInt16 :=
  entryPort site.controller.ani.hosts.contents mac

/-- How often the frame is at the switch: reported and not worked on, or answered
and not sent out. -/
def Site.carried (frame : Frame) (site : Site) : Nat :=
  (site.inbox ++ site.chunk).countP (fun message => isOf frame message.about) +
    site.outbox.countP fun sent => isOf frame sent.about

/-- The connection is there, all flows go out of the ports of entries, and ARP frames to
one host were answered by flows for this host. -/
structure Site.Orderly (site : Site) : Prop where
  online : site.controller.place.Online
  entries : ∀ flow ∈ site.entries, Directs site.controller.ani.hosts.contents flow
  outbox : ∀ sent ∈ site.outbox, ∀ flow, FlowMod.decode sent.bytes = some flow →
    Directs site.controller.ani.hosts.contents flow
  answered : ∀ sent ∈ site.outbox, ∀ inPort frame, sent.about = some (inPort, frame) →
    frameType frame = arpData → frameDst frame ≠ Mac.broadcast → ∃ flow,
      PacketOut.decode sent.bytes = none ∧ FlowMod.decode sent.bytes = some flow ∧
        flow.fields.dlDst = frameDst frame

/-- The controller knows the host that the frame is for, when it has come in. -/
def Site.Directed (frame : Frame) (site : Site) : Prop :=
  ∀ message ∈ site.inbox ++ site.chunk, isOf frame message.about →
    (site.hop (frameDst frame)).isSome

/-- The frames that a call takes without an answer, with the ports where they came in. -/
def Site.dropped (site next : Site) : Option Event → List (UInt16 × Frame)
  | some (.handled call) =>
      if call.sent = [] then
        (site.chunk.filterMap Message.about).diff (next.chunk.filterMap Message.about)
      else []
  | _ => []

/-- The copies of the frame in a list. -/
def copiesOf {Place : Type*} (frame : Frame) (copies : List (Place × Frame)) : Nat :=
  copies.countP fun copy => decide (copy.2 = frame)

theorem copiesOf_eq_zero {Place : Type*} {frame : Frame} {copies : List (Place × Frame)}
    (others : ∀ copy ∈ copies, copy.2 ≠ frame) : copiesOf frame copies = 0 := by
  unfold copiesOf
  rw [List.countP_eq_zero]
  exact fun copy member same => others copy member (of_decide_eq_true same)

/-- An ARP frame to one host, and a switch whose entry for that host has the
number of a port. -/
structure Single (frame : Frame) (site : Site) : Prop where
  arp : frameType frame = arpData
  unicast : frameDst frame ≠ Mac.broadcast
  numbered : ∀ port, site.hop (frameDst frame) = some port → port ≠ 0 ∧ port ≠ ofppFlood

section Sites

variable {enters : UInt16 → Prop} {ports : List UInt16} {site next : Site} {frame : Frame}
variable {incoming : Option (UInt16 × Frame)} {out : List (UInt16 × Frame)}
variable {event : Option Event} {todo : List (List UInt8)}

/-- Entries stay. -/
theorem Site.Step.hop_grows (step : Site.Step ports site incoming out event next)
    (sound : site.Sound enters) (online : site.controller.place.Online) {mac : Mac}
    {port : UInt16} (entry : site.hop mac = some port) : next.hop mac = some port := by
  obtain ⟨tables, shows, -⟩ := sound.numbered.heard
  cases step with
  | received taken _ _ => exact hosts_grow taken shows online entry
  | handled taken _ _ => exact hosts_grow taken shows online entry
  | cleared taken _ => exact hosts_grow taken shows online entry
  | shared taken => exact hosts_grow taken shows online entry
  | quiet taken _ => exact hosts_grow taken shows online entry
  | _ => exact entry

/-- A step of the controller leaves all flows where the entries say. -/
theorem Site.Orderly.grow (orderly : site.Orderly) {event : Event} {process : Process}
    {tables : Tables} {inbox chunk : List Message} {answers : List Sent}
    (shows : site.controller.ani.Shows tables) (taken : Process.Step site.controller event process)
    (lasting : event ≠ .lost)
    (flows : ∀ sent ∈ answers, ∀ flow, FlowMod.decode sent.bytes = some flow →
      Directs process.ani.hosts.contents flow)
    (answered : ∀ sent ∈ answers, ∀ inPort frame, sent.about = some (inPort, frame) →
      frameType frame = arpData → frameDst frame ≠ Mac.broadcast → ∃ flow,
        PacketOut.decode sent.bytes = none ∧ FlowMod.decode sent.bytes = some flow ∧
          flow.fields.dlDst = frameDst frame) :
    Site.Orderly ⟨process, inbox, chunk, site.outbox ++ answers, site.entries⟩ := by
  have grows (mac : Mac) (port : UInt16)
      (entry : entryPort site.controller.ani.hosts.contents mac = some port) :
      entryPort process.ani.hosts.contents mac = some port :=
    hosts_grow taken shows orderly.online entry
  refine ⟨taken.online orderly.online lasting, ?_, ?_, ?_⟩
  · exact fun flow member => (orderly.entries flow member).grow grows
  · intro sent member flow decoded
    rcases List.mem_append.mp member with old | new
    · exact (orderly.outbox sent old flow decoded).grow grows
    · exact flows sent new flow decoded
  · intro sent member
    exact (List.mem_append.mp member).elim (orderly.answered sent) (answered sent)

theorem Site.Step.orderly (step : Site.Step ports site incoming out event next)
    (sound : site.Sound enters) (owes : site.Owes todo) (orderly : site.Orderly)
    (lasting : event ≠ some .lost) : next.Orderly := by
  obtain ⟨tables, shows, -⟩ := sound.numbered.heard
  cases step with
  | reported _ => exact ⟨orderly.online, orderly.entries, orderly.outbox, orderly.answered⟩
  | forwarded _ _ => exact orderly
  | spoke _ => exact ⟨orderly.online, orderly.entries, orderly.outbox, orderly.answered⟩
  | @executed before after sent split =>
      have inOutbox : sent ∈ site.outbox := split ▸ List.mem_append_right _ List.mem_cons_self
      have inside {other : Sent} (member : other ∈ before ++ after) : other ∈ site.outbox := by
        rw [split]
        exact ((List.sublist_cons_self sent after).append_left before).subset member
      refine ⟨orderly.online, fun flow member => ?_,
        fun other member => orderly.outbox other (inside member),
        fun other member => orderly.answered other (inside member)⟩
      rcases List.mem_append.mp member with old | new
      · exact orderly.entries flow old
      · exact orderly.outbox sent inOutbox flow (by simpa using new)
  | @received chunk group rest process taken _ _ =>
      have grown := @Site.Orderly.grow site orderly _ process tables rest group [] shows taken
        nofun (fun _ impossible => absurd impossible List.not_mem_nil)
        (fun _ impossible => absurd impossible List.not_mem_nil)
      rwa [List.append_nil] at grown
  | @handled call before after message process taken split takes =>
      have isSound := sound.of_chunk split
      apply orderly.grow shows taken nofun
      · intro sent member flow decoded
        obtain ⟨bytes, answer, rfl⟩ := List.mem_map.mp member
        exact isSound.directs takes sound.numbered taken answer decoded
      · intro sent member inPort frame about arp unicast
        obtain ⟨bytes, answer, rfl⟩ := List.mem_map.mp member
        rcases isSound.forwards takes sound.numbered taken about arp unicast with
          ⟨-, silent⟩ | ⟨-, flow, all, decoded, noPacket, dst⟩
        · rw [silent] at answer
          cases answer
        · rw [all] at answer
          cases List.mem_singleton.mp answer
          exact ⟨flow, noPacket, decoded, dst⟩
  | cleared taken zero => exact absurd zero (owes.nonzero taken)
  | @shared index bytes process taken =>
      apply orderly.grow shows taken nofun
      · intro sent member flow decoded
        cases List.mem_singleton.mp member
        obtain ⟨port, discovery, same, -⟩ := taken.shared_physical sound.numbered
        rw [show bytes = _ from same, packetOut_not_flowMod] at decoded
        cases decoded
      · intro sent member inPort frame about
        cases List.mem_singleton.mp member
        cases about
  | @quiet event process taken quiet =>
      have stays : event ≠ .lost := fun lost => lasting (congrArg some lost)
      have grown := @Site.Orderly.grow site orderly _ process tables site.inbox site.chunk [] shows
        taken stays (fun _ impossible => absurd impossible List.not_mem_nil)
        (fun _ impossible => absurd impossible List.not_mem_nil)
      rwa [List.append_nil] at grown

theorem Site.Step.directed (step : Site.Step ports site incoming out event next)
    (sound : site.Sound enters) (online : site.controller.place.Online)
    (directed : site.Directed frame)
    (came : ∀ copy, incoming = some copy → copy.2 = frame → (site.hop (frameDst frame)).isSome) :
    next.Directed frame := by
  intro message member about
  suffices was : (site.hop (frameDst frame)).isSome by
    obtain ⟨port, entry⟩ := Option.isSome_iff_exists.mp was
    exact Option.isSome_iff_exists.mpr ⟨port, step.hop_grows sound online entry⟩
  -- what waits now has waited before, or has just come in
  cases step with
  | @reported inPort copy bytes reports =>
      simp only [List.mem_append, List.mem_singleton] at member
      rcases member with (old | rfl) | old
      · exact directed message (List.mem_append_left _ old) about
      · obtain ⟨_, isAbout⟩ := isOf_iff.mp about
        cases isAbout
        exact came _ rfl rfl
      · exact directed message (List.mem_append_right _ old) about
  | forwarded _ _ => exact directed message member about
  | spoke _ =>
      simp only [List.mem_append, List.mem_singleton] at member
      rcases member with (old | rfl) | old
      · exact directed message (List.mem_append_left _ old) about
      · cases about
      · exact directed message (List.mem_append_right _ old) about
  | executed _ => exact directed message member about
  | @received chunk group rest process taken split _ =>
      apply directed message _ about
      rw [split]
      simp only [List.mem_append] at member ⊢
      tauto
  | @handled call before after other process taken split _ =>
      apply directed message _ about
      rw [split]
      simp only [List.mem_append, List.mem_cons] at member ⊢
      tauto
  | cleared _ _ => exact directed message member about
  | shared _ => exact directed message member about
  | quiet _ _ => exact directed message member about

theorem copiesOf_about (frame : Frame) (messages : List Message) :
    copiesOf frame (messages.filterMap Message.about) =
      messages.countP fun message => isOf frame message.about := by
  unfold copiesOf
  rw [List.countP_filterMap]
  congr 1
  funext message
  cases message <;> simp [isOf, Message.about]

/-- A call drops the frame when it takes a report of it and sends nothing. -/
theorem Site.copiesOf_dropped {call : Call} {before after : List Message} {message : Message}
    (split : site.chunk = before ++ message :: after) (rest : next.chunk = before ++ after) :
    copiesOf frame (site.dropped next (some (.handled call))) =
      if call.sent = [] ∧ isOf frame message.about then 1 else 0 := by
  have taken : site.dropped next (some (.handled call)) =
      if call.sent = [] then
        (site.chunk.filterMap Message.about).diff (next.chunk.filterMap Message.about)
      else [] := rfl
  rw [taken]
  by_cases silent : call.sent = []
  · have fewer : (next.chunk.filterMap Message.about).Subperm
        (site.chunk.filterMap Message.about) := by
      rw [split, rest]
      exact (((List.sublist_cons_self message after).append_left before).filterMap _).subperm
    have counted := List.countP_diff fewer fun copy => decide (copy.2 = frame)
    have all := copiesOf_about frame site.chunk
    have left := copiesOf_about frame next.chunk
    rw [if_pos silent]
    unfold copiesOf at *
    rw [counted, all, left, split, rest, List.countP_append, List.countP_append,
      List.countP_cons]
    simp only [silent, true_and]
    omega
  · simp [silent, copiesOf]

/-- A flow for the frame sends it out of the port of the entry. -/
theorem Directs.copies {flow : FlowMod} {port inPort : UInt16} (single : Single frame site)
    (directs : Directs site.controller.ani.hosts.contents flow)
    (dst : flow.fields.dlDst = frameDst frame) (entry : site.hop (frameDst frame) = some port) :
    (outputs ports flow.actions inPort).map (·, frame) = [(port, frame)] := by
  have known : entryPort site.controller.ani.hosts.contents flow.fields.dlDst = some port :=
    dst ▸ entry
  rw [outputs_of_directs directs known (single.numbered port entry).2, List.map_singleton]

/-- A message sends one copy of the frame if it is about the frame, and else none. -/
theorem Sent.emitted_copies {sent : Sent} (orderly : site.Orderly) (single : Single frame site)
    (kind : sent.Kind enters) (member : sent ∈ site.outbox) :
    copiesOf frame (sent.emitted ports) = (if isOf frame sent.about then 1 else 0) ∧
      ∀ copy ∈ sent.emitted ports, copy.2 = frame →
        site.hop (frameDst frame) = some copy.1 := by
  by_cases about : isOf frame sent.about = true
  · obtain ⟨inPort, isAbout⟩ := isOf_iff.mp about
    obtain ⟨flow, noPacket, decoded, dst⟩ :=
      orderly.answered sent member inPort frame isAbout single.arp single.unicast
    have directs := orderly.outbox sent member flow decoded
    have ⟨port, known, _⟩ := directs
    have entry : site.hop (frameDst frame) = some port := dst ▸ known
    have emitted : sent.emitted ports = [(port, frame)] := by
      unfold Sent.emitted
      rw [noPacket, decoded, isAbout]
      exact directs.copies single dst entry
    rw [emitted, if_pos about]
    refine ⟨by simp [copiesOf], fun copy isCopy _ => ?_⟩
    cases List.mem_singleton.mp isCopy
    exact entry
  · have others : ∀ copy ∈ sent.emitted ports, copy.2 ≠ frame := by
      rintro ⟨port, copy⟩ leaves rfl
      cases kind with
      | plain noPacket noFlow =>
          unfold Sent.emitted at leaves
          rw [noPacket, noFlow] at leaves
          cases leaves
      | @discovery port message discovery _ =>
          unfold Sent.emitted at leaves
          rw [discovery, discoveryPacket_decode] at leaves
          obtain ⟨_, -, same⟩ := List.mem_map.mp leaves
          cases same
          have lldp : frameType (discoveryFrame message) = lldpData :=
            (discoveryFrame_form message).type
          exact absurd (single.arp.symm.trans lldp) (by decide)
      | flood flood isAbout asks _ =>
          rw [emitted_flood flood isAbout] at leaves
          obtain ⟨_, -, same⟩ := List.mem_map.mp leaves
          cases same
          exact single.unicast asks.2
      | @flow flow inPort kept noPacket isFlow _ isAbout _ _ =>
          unfold Sent.emitted at leaves
          rw [noPacket, isFlow, isAbout] at leaves
          obtain ⟨_, -, same⟩ := List.mem_map.mp leaves
          cases same
          exact about (isOf_iff.mpr ⟨inPort, isAbout⟩)
    rw [copiesOf_eq_zero others, if_neg about]
    exact ⟨rfl, fun copy leaves same => absurd same (others copy leaves)⟩

/-- A report of the frame has one answer that is about it, or the frame is dropped. -/
theorem Message.Sound.answers_once {message : Message} {process : Process} {call : Call}
    (sound : message.Sound enters) (takes : Takes call message.bytes)
    (numbered : site.controller.Numbered)
    (taken : Process.Step site.controller (.handled call) process) (single : Single frame site) :
    (call.sent.map fun bytes => Sent.mk bytes message.about).countP
          (fun sent => isOf frame sent.about) +
        (if call.sent = [] ∧ isOf frame message.about then 1 else 0) =
      if isOf frame message.about then 1 else 0 := by
  rw [List.countP_map]
  by_cases about : isOf frame message.about = true
  · obtain ⟨inPort, isAbout⟩ := isOf_iff.mp about
    rcases sound.forwards takes numbered taken isAbout single.arp single.unicast with
      ⟨-, silent⟩ | ⟨-, flow, all, -⟩
    · rw [silent]
      simp [about]
    · rw [all]
      simp [about]
  · have none : call.sent.countP ((fun sent => isOf frame sent.about) ∘
        fun bytes => Sent.mk bytes message.about) = 0 :=
      List.countP_eq_zero.mpr fun bytes _ => about
    rw [none]
    simp [about]

/-- What is dropped was reported before. -/
theorem Site.Directed.known (directed : site.Directed frame) {copy : UInt16 × Frame}
    (dropped : copy ∈ site.dropped next event) (same : copy.2 = frame) :
    (site.hop (frameDst frame)).isSome := by
  unfold Site.dropped at dropped
  split at dropped
  · split at dropped
    · obtain ⟨message, member, about⟩ := List.mem_filterMap.mp (List.diff_subset _ _ dropped)
      apply directed message (List.mem_append_right _ member)
      rw [isOf_iff, about]
      exact ⟨copy.1, congrArg some (Prod.ext rfl same)⟩
    · cases dropped
  · cases dropped

/-- Only frames to unknown hosts are dropped. -/
theorem Site.Step.drops (step : Site.Step ports site incoming out event next)
    (sound : site.Sound enters) (owes : site.Owes todo) (single : Single frame next)
    (dropped : 0 < copiesOf frame (site.dropped next event)) :
    next.hop (frameDst frame) = none := by
  have nothing {event : Option Event} (empty : site.dropped next event = [])
      (some : 0 < copiesOf frame (site.dropped next event)) : False := by
    rw [empty] at some
    exact absurd some (Nat.lt_irrefl 0)
  cases step with
  | @handled call before after message process taken split takes =>
      rw [Site.copiesOf_dropped split rfl] at dropped
      split at dropped
      · rename_i silent
        obtain ⟨inPort, about⟩ := isOf_iff.mp silent.2
        rcases (sound.of_chunk split).forwards takes sound.numbered taken about single.arp
          single.unicast with ⟨zero, -⟩ | ⟨-, flow, all, -⟩
        · rw [Option.eq_none_iff_forall_ne_some]
          intro port entry
          exact (single.numbered port entry).1 ((portOf_of_entryPort entry).symm.trans zero)
        · rw [all] at silent
          cases silent.1
      · exact absurd dropped (Nat.lt_irrefl 0)
  | cleared taken zero => exact absurd zero (owes.nonzero taken)
  | @quiet event process taken quiet =>
      cases event with
      | handled call => cases quiet
      | _ => exact (nothing rfl dropped).elim
  | _ => exact (nothing rfl dropped).elim

/-- At a switch every copy of the frame stays, is dropped, or goes out of the port of the
entry. -/
theorem Site.Step.carries (step : Site.Step ports site incoming out event next)
    (sound : site.Sound enters) (owes : site.Owes todo) (orderly : site.Orderly)
    (single : Single frame site) :
    site.carried frame + copiesOf frame incoming.toList =
        next.carried frame + copiesOf frame out + copiesOf frame (site.dropped next event) ∧
      ∀ copy ∈ out, copy.2 = frame → site.hop (frameDst frame) = some copy.1 := by
  have silent : ∀ copy ∈ ([] : List (UInt16 × Frame)), copy.2 = frame →
      site.hop (frameDst frame) = some copy.1 :=
    fun _ impossible => absurd impossible List.not_mem_nil
  cases step with
  | @reported inPort copy bytes reports =>
      refine ⟨?_, silent⟩
      have told : isOf frame (Message.about (.report inPort copy bytes)) = decide (copy = frame) :=
        rfl
      simp only [Site.carried, Site.dropped, copiesOf, List.countP_append, List.countP_cons,
        List.countP_nil, told, Option.toList_some]
      omega
  | @forwarded inPort copy flow entry covers =>
      by_cases same : copy = frame
      · subst same
        have directs := orderly.entries flow entry
        have ⟨port, known, _⟩ := directs
        have isEntry : site.hop (frameDst copy) = some port := covers.dlDst ▸ known
        rw [directs.copies single covers.dlDst isEntry]
        refine ⟨by simp [copiesOf, Site.dropped], fun leaving leaves _ => ?_⟩
        cases List.mem_singleton.mp leaves
        exact isEntry
      · have others : ∀ leaving ∈ (outputs ports flow.actions inPort).map (·, copy),
            leaving.2 ≠ frame := by
          rintro leaving leaves
          obtain ⟨_, -, rfl⟩ := List.mem_map.mp leaves
          exact same
        rw [copiesOf_eq_zero others]
        refine ⟨?_, fun leaving leaves isFrame => absurd isFrame (others leaving leaves)⟩
        simp [copiesOf, Site.dropped, same]
  | spoke _ =>
      refine ⟨?_, silent⟩
      simp [Site.carried, Site.dropped, copiesOf, isOf, Message.about]
  | @executed before after sent split =>
      have inOutbox : sent ∈ site.outbox := split ▸ List.mem_append_right _ List.mem_cons_self
      obtain ⟨copies, leaves⟩ :=
        Sent.emitted_copies orderly single (sound.outbox sent inOutbox) inOutbox
      refine ⟨?_, leaves⟩
      rw [copies]
      simp only [Site.carried, Site.dropped, copiesOf, split, List.countP_append, List.countP_cons,
        Option.toList_none, List.countP_nil]
      omega
  | @received chunk group rest process taken split _ =>
      refine ⟨?_, silent⟩
      have valid : ∀ message ∈ site.chunk, message.Valid := fun message member =>
        (sound.messages message (List.mem_append_right _ member)).valid
      have done : site.chunk.countP (fun message => isOf frame message.about) = 0 := by
        rw [List.countP_eq_zero]
        intro message member about
        rw [owes.received valid taken message member] at about
        cases about
      simp only [Site.carried, Site.dropped, copiesOf, split, List.countP_append,
        Option.toList_none, List.countP_nil]
      omega
  | @handled call before after message process taken split takes =>
      refine ⟨?_, silent⟩
      have answered := (sound.of_chunk split).answers_once takes sound.numbered taken single
      rw [Site.copiesOf_dropped split rfl]
      simp only [Site.carried, copiesOf, split, List.countP_append, List.countP_cons,
        Option.toList_none, List.countP_nil]
      omega
  | cleared taken zero => exact absurd zero (owes.nonzero taken)
  | @shared index bytes process taken =>
      refine ⟨?_, silent⟩
      simp [Site.carried, Site.dropped, copiesOf, isOf]
  | @quiet event process taken quiet =>
      refine ⟨?_, silent⟩
      cases event with
      | handled call => cases quiet
      | _ => rfl

/-- Entries stay while the controller neither reads nor writes. -/
theorem Internally.hosts_grow {p q : Process} (internally : Internally p q)
    (numbered : p.Numbered) (online : p.place.Online) {mac : Mac} {port : UInt16}
    (entry : entryPort p.ani.hosts.contents mac = some port) :
    q.place.Online ∧ entryPort q.ani.hosts.contents mac = some port := by
  obtain ⟨events, run, quiet⟩ := internally
  induction run with
  | refl => exact ⟨online, entry⟩
  | @snoc events middle finish event earlier step inductionHypothesis =>
      have before : ∀ other ∈ events, other = .internal := fun other member =>
        quiet other (List.mem_append_left _ member)
      have isInternal : event = .internal :=
        quiet event (List.mem_append_right _ List.mem_cons_self)
      subst isInternal
      obtain ⟨stillOnline, stillKnown⟩ := inductionHypothesis before
      have toMiddle : Internally p middle := ⟨events, earlier, before⟩
      obtain ⟨tables, shows, -⟩ := (toMiddle.numbered numbered).heard
      refine ⟨step.online stillOnline nofun, ?_⟩
      exact DAIM.Network.hosts_grow step shows stillOnline stillKnown

/-- An idle switch that has reported the frame is told to send it where the entry says. -/
theorem Site.Idle.forwards (idle : site.Idle) (sound : site.Sound enters) (ports : List UInt16)
    {inPort : UInt16} {bytes : List UInt8} (reports : Reports bytes inPort frame)
    (carried : Carried enters inPort frame) (single : Single frame site) {port : UInt16}
    (entry : site.hop (frameDst frame) = some port) :
    ∃ events sent q, Run (Site.Works ports)
        { site with inbox := site.inbox ++ [.report inPort frame bytes] } events
        { site with controller := q, outbox := [sent] } ∧
      sent.emitted ports = [(port, frame)] ∧ Waits q ∧ ∀ event ∈ events, Calm event := by
  obtain ⟨read, before, call, after, q, events, received, toCall, handled, takes, waits, works, -,
    calm⟩ := idle.answers ports reports
  have isSound : Message.Sound enters (.report inPort frame bytes) := .report reports carried
  have online : site.controller.place.Online := by
    rw [idle.waits.reading]
    trivial
  obtain ⟨tables, shows, -⟩ := sound.numbered.heard
  have readKnows := hosts_grow received shows online entry
  have readNumbered : read.Numbered := received.numbered sound.numbered fun call => nofun
  obtain ⟨beforeOnline, beforeKnows⟩ :=
    toCall.hosts_grow readNumbered (received.online online nofun) readKnows
  have beforeNumbered := toCall.numbered readNumbered
  obtain ⟨callTables, callShows, -⟩ := beforeNumbered.heard
  have known := hosts_grow handled callShows beforeOnline beforeKnows
  rcases isSound.forwards takes beforeNumbered handled rfl single.arp single.unicast with
    ⟨zero, -⟩ | ⟨-, flow, all, decoded, noPacket, dst⟩
  · exact absurd ((portOf_of_entryPort known).symm.trans zero) (single.numbered port entry).1
  have isSent : flow.encode ∈ call.sent := all ▸ List.mem_cons_self
  have directs := isSound.directs takes beforeNumbered handled isSent decoded
  rw [all] at works
  refine ⟨events, _, q, works, ?_, waits, calm⟩
  unfold Sent.emitted
  rw [noPacket, decoded]
  show (outputs ports flow.actions inPort).map (·, frame) = _
  rw [outputs_of_directs directs (dst ▸ known) (single.numbered port entry).2, List.map_singleton]

end Sites

end DAIM.Network
