import DAIM.Ani41.Replys
import DAIM.Ani41.Sent

/-!
# Discovery messages on the wire

A discovery thread and `action_packout` compute the offsets of the same fields
independently.  What the one writes into a `PACKET_OUT` is what the other reads
in a `PACKET_IN` with the same frame.
-/

namespace DAIM.Ani41

open DAIM.Library DAIM.OpenFlow DAIM.Linked DAIM.Com

/-! ## Reading a discovery frame -/

/-- A `PACKET_IN` for the frame, all of which is in its data. -/
structure Carries (report : List UInt8) (inPort : UInt16) (frame : List UInt8) : Prop where
  type : messageType report = ofptPacketIn
  inPort : be16 report OfpPacketIn.inPort = inPort
  whole : packetInFrame report = frame

section Reading

variable {report : List UInt8} {inPort : UInt16} {message : DiscoveryMessage} {memory : Memory}

theorem Carries.length (carries : Carries report inPort (discoveryFrame message)) :
    report.length = 18 + (discoveryFrame message).length := by
  have rest : (packetInFrame report).length = report.length - 18 := List.length_drop
  have complete : 18 ≤ (discoveryFrame message).length := (discoveryFrame_form message).complete
  rw [carries.whole] at rest
  omega

/-- The fields that every branch of `action_packout` starts from. -/
theorem Carries.read (carries : Carries report inPort (discoveryFrame message))
    (starts : memory.Starts report) :
    (parsePacketIn memory).inPort = inPort ∧ (parsePacketIn memory).type = lldpData := by
  have complete : 18 ≤ (discoveryFrame message).length := (discoveryFrame_form message).complete
  have long : 32 ≤ report.length := by
    rw [carries.length]
    omega
  rw [parsePacketIn_eq starts long, carries.whole]
  exact ⟨carries.inPort, (discoveryFrame_form message).type⟩

/-- The octet that names the type of the message. -/
theorem Carries.isDiscovery_iff (carries : Carries report inPort (discoveryFrame message))
    (starts : memory.Starts report) {type : UInt8} :
    IsDiscovery memory type ↔ message.type = type := by
  have complete : 18 ≤ (discoveryFrame message).length := (discoveryFrame_form message).complete
  have inside : 32 + AnimHeader.type < report.length := by
    rw [carries.length]
    show 32 + 0 < _
    omega
  have octet : payload memory AnimHeader.type = message.type := by
    rw [payload_octet starts inside, carries.whole]
    cases message <;> rfl
  rw [IsDiscovery, octet]
  exact and_iff_right (carries.read starts).2

/-- The link that a `NODE` message names, whatever its two fields are. -/
theorem Carries.linkEntry_eq {id switchId : UInt64} {portNo : UInt16}
    (carries : Carries report inPort (discoveryFrame (.node id portNo)))
    (starts : memory.Starts report) :
    linkEntry switchId memory = ⟨⟨switchId, inPort⟩, ⟨id, portNo⟩⟩ := by
  have total : report.length = 52 := carries.length
  have node : be64toh (((payload memory).shift AnimHeader.size).load64 NetNodeWire.datapathId) =
      id := by
    rw [Memory.load64_shift, payload_be64toh starts (by rw [total]; decide), carries.whole]
    exact be64_eq rfl
  have port : ntohs (((payload memory).shift AnimHeader.size).load16 NetNodeWire.portNo) =
      portNo := by
    rw [Memory.load16_shift, payload_ntohs starts (by rw [total]; decide), carries.whole]
    exact be16_eq rfl
  rw [linkEntry, (carries.read starts).1, node, port]

end Reading

/-! ## Lists that no allocation has failed for -/

/-- The discovery's two tables are intact. -/
structure Ani.Intact (s : Ani) : Prop where
  swReplys : ∃ cells, s.swReplys.Holds cells
  links : ∃ cells, s.links.Holds cells

section Intact

variable {Value : Type} {list moved : ObjectList Value} {count : Int}

theorem intact_add {stored : Value} (intact : ∃ cells, list.Holds cells)
    (added : list.addFilled true true stored = some moved) : ∃ cells, moved.Holds cells := by
  obtain ⟨cells, holds⟩ := intact
  obtain ⟨longer, same, now, -⟩ := holds.addFilled_eq stored
  cases added.symm.trans same
  exact ⟨_, now⟩

theorem intact_get {result : Option Addr} (intact : ∃ cells, list.Holds cells)
    (got : list.getObject = some (moved, result)) : ∃ cells, moved.Holds cells := by
  obtain ⟨cells, holds⟩ := intact
  exact ⟨cells, holds.getObject_cases got⟩

theorem intact_free (intact : ∃ cells, list.Holds cells)
    (freed : list.freeList = some (moved, count)) : ∃ cells, moved.Holds cells := by
  obtain ⟨cells, holds⟩ := intact
  obtain ⟨emptied, number, same, now, -⟩ := holds.freeList_eq
  cases freed.symm.trans same
  exact ⟨[], now⟩

theorem intact_rewind (intact : ∃ cells, list.Holds cells) :
    ∃ cells, list.listRewind.Holds cells := by
  obtain ⟨cells, holds⟩ := intact
  exact ⟨cells, holds.rewind⟩

end Intact

theorem ShareStep.intact {index : Nat} {s next : Ani} {thread after : Thread}
    {sent : Option (List UInt8)} (step : ShareStep index s thread sent next after)
    (intact : s.Intact) : next.Intact := by
  obtain ⟨swReplys, links⟩ := intact
  cases step with
  | nextReply _ got => exact ⟨intact_get swReplys got, links⟩
  | noReply _ got => exact ⟨intact_get swReplys got, links⟩
  | rewindReplys _ => exact ⟨intact_rewind swReplys, links⟩
  | nextLink _ got => exact ⟨swReplys, intact_get links got⟩
  | noLink _ got => exact ⟨swReplys, intact_get links got⟩
  | rewindLinks _ => exact ⟨swReplys, intact_rewind links⟩
  | freeReplys _ freed => exact ⟨intact_free swReplys freed, links⟩
  | freeLinks _ freed => exact ⟨swReplys, intact_free links freed⟩
  | _ => exact ⟨swReplys, links⟩

theorem Process.Step.intact {p q : Process} {event : Event} (step : Process.Step p event q)
    (allocates : ∀ call, event = .handled call → call.env.allocated 0 = true)
    (intact : p.ani.Intact) : q.ani.Intact := by
  cases step.touches with
  | kept _ _ _ _ shared _ =>
      have replys : q.ani.swReplys = p.ani.swReplys := congrArg Shared.swReplys shared
      have links : q.ani.links = p.ani.links := congrArg Shared.links shared
      exact ⟨replys ▸ intact.swReplys, links ▸ intact.links⟩
  | freeLinks _ _ freed shared _ =>
      have replys : q.ani.swReplys = p.ani.swReplys := congrArg Shared.swReplys shared
      have links : q.ani.links = _ := congrArg Shared.links shared
      exact ⟨replys ▸ intact.swReplys, links ▸ intact_free intact.links freed⟩
  | freeReplys _ _ freed shared _ =>
      have replys : q.ani.swReplys = _ := congrArg Shared.swReplys shared
      have links : q.ani.links = p.ani.links := congrArg Shared.links shared
      exact ⟨replys ▸ intact_free intact.swReplys freed, links ▸ intact.links⟩
  | called touch _ =>
      obtain ⟨object, block⟩ := allocated_both (allocates _ rfl)
      constructor
      · rcases touch.replys with ⟨-, -, added⟩ | ⟨-, kept⟩
        · rw [object, block] at added
          exact intact_add intact.swReplys added
        · have replys : q.ani.swReplys = p.ani.swReplys := kept
          exact replys ▸ intact.swReplys
      · rcases touch.links.2 with ⟨-, -, added⟩ | ⟨-, kept⟩
        · rw [object, block] at added
          exact intact_add intact.links added
        · have links : q.ani.links = p.ani.links := kept
          exact links ▸ intact.links
  | thread _ share _ _ => exact share.intact intact

theorem Process.Reaches.intact {cbench : Bool} {events : List Event} {p : Process}
    (run : Process.Reaches cbench events p) (allocates : Allocates events) : p.ani.Intact := by
  induction run with
  | refl => exact ⟨⟨[], ObjectList.holds_empty⟩, ⟨[], ObjectList.holds_empty⟩⟩
  | @snoc events middle finish event earlier step inductionHypothesis =>
      have before := inductionHypothesis fun call happened =>
        allocates call (List.mem_append_left _ happened)
      apply step.intact _ before
      rintro call rfl
      exact allocates call (List.mem_append_right _ List.mem_cons_self)

/-! ## What a discovery message does to its receiver -/

/-- A process that can handle a discovery message: all allocations of its run
succeeded, and nobody holds the mutex. -/
structure Process.Ready (p : Process) : Prop where
  reached : ∃ cbench events, Process.Reaches cbench events p ∧ Allocates events
  free : p.ani.linksMutex = none

/-- The records that a call adds to the four tables. -/
structure Ani.Adds (s next : Ani) (replys : List SwitchReply) (links : List SwitchLink) :
    Prop where
  swReplys : next.swReplys.contents = s.swReplys.contents ++ replys
  links : next.links.contents = s.links.contents ++ links
  hosts : next.hosts.contents = s.hosts.contents
  ports : next.ports.contents = s.ports.contents

/-- Whenever the frame is reported and the allocations succeed, `action_packout`
returns with such an outcome. -/
def Process.Handles (p : Process) (inPort : UInt16) (frame : List UInt8)
    (spec : Outcome → Prop) : Prop :=
  ∀ (report : List UInt8) (memory : Memory) (env : Env), Carries report inPort frame →
    memory.Starts report → env.allocated 0 = true →
      ∃ outcome, p.packetIn memory env = some outcome ∧ spec outcome

namespace DiscoveryMessage

/-- The reply that the receiver records. -/
def replys (inPort : UInt16) : DiscoveryMessage → List SwitchReply
  | .echoReply => [⟨inPort, true⟩]
  | _ => []

/-- The link that the receiver records. -/
def links (switchId : UInt64) (inPort : UInt16) : DiscoveryMessage → List SwitchLink
  | .node datapathId portNo => [⟨⟨switchId, inPort⟩, ⟨datapathId, portNo⟩⟩]
  | _ => []

/-- What the receiver sends. -/
def answers (inPort : UInt16) : DiscoveryMessage → List (List UInt8)
  | .echoRequest => [(discoveryPacket inPort .echoReply).encode]
  | _ => []

end DiscoveryMessage

section Receiving

variable {p : Process} {report : List UInt8} {inPort : UInt16} {message : DiscoveryMessage}
variable {memory : Memory} {env : Env}

/-- With the mutex free and intact lists the branch for LLDP does not get stuck. -/
theorem packetIn_returns (free : p.ani.linksMutex = none) (intact : p.ani.Intact)
    (lldp : (parsePacketIn memory).type = lldpData) (allocated : env.allocated 0 = true) :
    ∃ outcome, p.packetIn memory env = some outcome := by
  obtain ⟨object, block⟩ := allocated_both allocated
  obtain ⟨⟨replyCells, replys⟩, ⟨linkCells, links⟩⟩ := intact
  have branch : ∃ sending, packoutBranch env memory (parsePacketIn memory)
      { p.ani with
        readBuffer := memory, readBufferp := 0, pheader := .read 0
        transactionId := (parsePacketIn memory).xid } = some sending := by
    unfold packoutBranch packoutLldp
    rw [if_neg (ne_of_eq_of_ne lldp (by decide)), if_neg (ne_of_eq_of_ne lldp (by decide)),
      if_neg (ne_of_eq_of_ne lldp (by decide)), if_pos lldp]
    simp only
    rw [if_neg (not_not.mpr free), object, block]
    split
    · exact ⟨_, rfl⟩
    · split
      · obtain ⟨added, fill, -⟩ := replys.addFilled_eq ⟨(parsePacketIn memory).inPort, true⟩
        rw [fill]
        exact ⟨_, rfl⟩
      · split
        · obtain ⟨added, fill, -⟩ := links.addFilled_eq (linkEntry p.ani.switchId memory)
          have filled := fill
          unfold linkEntry at filled
          rw [filled]
          exact ⟨_, rfl⟩
        · exact ⟨_, rfl⟩
  obtain ⟨sending, branch⟩ := branch
  unfold Process.packetIn actionPackout
  simp only [Memory.shift_zero]
  rw [branch]
  simp only
  split <;> exact ⟨_, rfl⟩

/-- A discovery message on the tables. -/
theorem Carries.packout {tables : Tables} {switchId : UInt64}
    (carries : Carries report inPort (discoveryFrame message)) (starts : memory.Starts report) :
    tables.packout true switchId memory =
      { tables with
        swReplys := tables.swReplys ++ message.replys inPort
        links := tables.links ++ message.links switchId inPort } := by
  obtain ⟨readPort, lldp⟩ := carries.read starts
  have notArp : ¬ IsArp memory := fun arp => absurd (lldp.symm.trans arp) (by decide)
  have replys : (if message.type = animEchoReply then tables.swReplys ++ [⟨inPort, true⟩]
      else tables.swReplys) = tables.swReplys ++ message.replys inPort := by
    cases message with
    | echoReply => rfl
    | echoRequest => exact (List.append_nil _).symm
    | node _ _ => exact (List.append_nil _).symm
  have links : (if message.type = animNode then tables.links ++ [linkEntry switchId memory]
      else tables.links) = tables.links ++ message.links switchId inPort := by
    cases message with
    | node _ _ =>
        rw [carries.linkEntry_eq starts]
        rfl
    | echoRequest => exact (List.append_nil _).symm
    | echoReply => exact (List.append_nil _).symm
  unfold Tables.packout
  simp only [carries.isDiscovery_iff starts, if_neg notArp, readPort, replys, links]
  rfl

theorem Carries.answer {cbench : Bool} {hosts : List SwitchHost}
    (carries : Carries report inPort (discoveryFrame message)) (starts : memory.Starts report) :
    (answer cbench hosts memory).bytes = message.answers inPort := by
  obtain ⟨readPort, lldp⟩ := carries.read starts
  by_cases request : IsDiscovery memory animEchoRequest
  · rw [answer_request request, readPort]
    have type := (carries.isDiscovery_iff starts).mp request
    cases message with
    | echoRequest => rfl
    | echoReply => cases type
    | node datapathId portNo => cases type
  · rcases answer_cases cbench hosts memory with silent | ⟨-, notLldp⟩ | ⟨-, isRequest⟩ |
      ⟨notLldp, -⟩
    · rw [silent]
      cases message with
      | echoRequest => exact absurd ((carries.isDiscovery_iff starts).mpr rfl) request
      | echoReply => rfl
      | node datapathId portNo => rfl
    · exact absurd lldp notLldp
    · exact absurd isRequest request
    · exact absurd lldp notLldp

theorem Process.Ready.handles (ready : p.Ready) (message : DiscoveryMessage) (inPort : UInt16) :
    p.Handles inPort (discoveryFrame message) fun outcome =>
      outcome.sent = message.answers inPort ∧
        p.ani.Adds outcome.ani (message.replys inPort) (message.links p.ani.switchId inPort) := by
  intro report memory env carries starts allocated
  obtain ⟨cbench, events, run, allocates⟩ := ready.reached
  obtain ⟨outcome, called⟩ := packetIn_returns ready.free (run.intact allocates)
    (carries.read starts).2 allocated
  obtain ⟨tables, shows, ended, -, sent⟩ := run.packetIn called
  rw [allocated, carries.packout starts] at ended
  refine ⟨outcome, called, sent.trans (carries.answer starts), ?_⟩
  constructor
  · rw [ended.swReplys.contents_eq, shows.swReplys.contents_eq]
  · rw [ended.links.contents_eq, shows.links.contents_eq]
  · rw [ended.hosts.contents_eq, shows.hosts.contents_eq]
  · rw [ended.ports.contents_eq, shows.ports.contents_eq]

end Receiving

/-! ## From one controller to the next -/

/-- A `NODE` message that reaches another controller ends as the link that it
names, and a request is answered by a frame that ends as a reply. -/
theorem discovery_wire {index : Nat} {s next : Ani} {thread after : Thread} {bytes : List UInt8}
    (step : ShareStep index s thread (some bytes) next after) :
    (∀ address reply, thread.place = .shareNode address →
      s.swReplys.readObject address = some reply →
      ∃ packet, PacketOut.decode bytes = some packet ∧
        ∀ (q : Process) (inPort : UInt16), q.Ready →
          q.Handles inPort packet.data fun outcome =>
            outcome.sent = [] ∧
              q.ani.Adds outcome.ani []
                [⟨⟨q.ani.switchId, inPort⟩, ⟨s.switchId, reply.portNo⟩⟩]) ∧
    (∀ portno, thread.place = .probe portno →
      ∃ packet, PacketOut.decode bytes = some packet ∧
        ∀ (q : Process) (inPort : UInt16), q.Ready →
          q.Handles inPort packet.data fun outcome =>
            q.ani.Adds outcome.ani [] [] ∧
              ∃ answer back, outcome.sent = [answer] ∧ PacketOut.decode answer = some back ∧
                back.actions.map ActionOutput.port = [inPort] ∧
                ∀ (other : Process) (otherPort : UInt16), other.Ready →
                  other.Handles otherPort back.data fun heard =>
                    heard.sent = [] ∧ other.ani.Adds heard.ani [⟨otherPort, true⟩] []) := by
  generalize sends : some bytes = sent at step
  cases step with
  | @shareNode _ named here read =>
      rw [Option.some.inj sends, nodePacketOut_bytes]
      constructor
      · intro address reply place found
        cases here.symm.trans place
        cases read.symm.trans found
        refine ⟨_, discoveryPacket_decode _ _, ?_⟩
        intro q inPort ready
        exact ready.handles (.node s.switchId named.portNo) inPort
      · intro portno place
        cases here.symm.trans place
  | @probe number here more =>
      rw [Option.some.inj sends, echoRequestPacketOut_bytes]
      constructor
      · intro address reply place _
        cases here.symm.trans place
      · intro portno place
        refine ⟨_, discoveryPacket_decode _ _, ?_⟩
        intro q inPort ready report memory env carries starts allocated
        obtain ⟨outcome, called, sent, adds⟩ :=
          ready.handles .echoRequest inPort report memory env carries starts allocated
        refine ⟨outcome, called, adds, _, _, sent, discoveryPacket_decode _ _, rfl, ?_⟩
        intro other otherPort hears
        exact hears.handles .echoReply otherPort
  | _ => cases sends

/-- A thread that is about to send after some moves. -/
theorem share_after {moves : List Move} {place : SharePlace} {reply : Option SwitchReply}
    {address : Addr} {switchId : UInt64} {bytes : List UInt8}
    (computed : (((Process.initial false).play moves).bind fun (_, p) =>
      p.threads[0]?.bind fun thread => (share 0 p.ani thread).map fun (sent, _) =>
        (thread.place, p.ani.swReplys.readObject address, p.ani.switchId, sent)) =
      some (place, reply, switchId, some bytes)) :
    ∃ s thread next after, ShareStep 0 s thread (some bytes) next after ∧ thread.place = place ∧
      s.swReplys.readObject address = reply ∧ s.switchId = switchId := by
  obtain ⟨⟨events, p⟩, -, rest⟩ := Option.bind_eq_some_iff.mp computed
  obtain ⟨thread, -, rest⟩ := Option.bind_eq_some_iff.mp rest
  obtain ⟨⟨sent, next, after⟩, taken, same⟩ := Option.map_eq_some_iff.mp rest
  cases same
  exact ⟨p.ani, thread, next, after, share_eq_some_iff.mp taken, rfl, rfl, rfl⟩

theorem initial_ready : (Process.initial false).Ready :=
  ⟨⟨false, [], .refl, fun _ happened => nomatch happened⟩, rfl⟩

theorem discoveryPacketIn_carries (inPort : UInt16) (message : DiscoveryMessage) :
    Carries (discoveryPacketIn inPort message) inPort (discoveryFrame message) :=
  ⟨rfl, be16_eq rfl, rfl⟩

/-- Both messages of the first round of a switch with one port. -/
theorem discovery_wire_round :
    (∃ outcome, (Process.initial false).packetIn
        (Memory.ofList (discoveryPacketIn 2 (.node 11 1)) Memory.zero) .calm = some outcome ∧
      outcome.ani.links.contents = [⟨⟨0, 2⟩, ⟨11, 1⟩⟩]) ∧
    ∃ outcome heard, (Process.initial false).packetIn
        (Memory.ofList (discoveryPacketIn 2 .echoRequest) Memory.zero) .calm = some outcome ∧
      outcome.sent = [(discoveryPacket 2 .echoReply).encode] ∧
      (Process.initial false).packetIn
        (Memory.ofList (discoveryPacketIn 1 .echoReply) Memory.zero) .calm = some heard ∧
      heard.ani.swReplys.contents = [⟨1, true⟩] := by
  let first : List Move := .deliver (featuresMessage 11 [1]) :: List.replicate 2 (.share 0)
  let second : List Move := .deliver (featuresMessage 11 [1]) :: List.replicate 4 (.share 0) ++
    [.deliver (discoveryPacketIn 1 .echoReply), .share 0, .share 0]
  have delivered (inPort : UInt16) (message : DiscoveryMessage) :=
    Memory.starts_ofList (discoveryPacketIn inPort message) Memory.zero
  constructor
  · have computed : (((Process.initial false).play second).bind fun (_, p) =>
        p.threads[0]?.bind fun thread => (share 0 p.ani thread).map fun (sent, _) =>
          (thread.place, p.ani.swReplys.readObject 1, p.ani.switchId, sent)) =
        some (.shareNode 1, some ⟨1, true⟩, 11,
          some (discoveryPacket 1 (.node 11 1)).encode) := by decide +kernel
    obtain ⟨s, thread, next, after, step, place, read, switchId⟩ := share_after computed
    obtain ⟨packet, decoded, handles⟩ := (discovery_wire step).1 1 ⟨1, true⟩ place read
    cases (discoveryPacket_decode _ _).symm.trans decoded
    obtain ⟨outcome, called, -, adds⟩ := handles _ 2 initial_ready _ _ .calm
      (discoveryPacketIn_carries 2 (.node 11 1)) (delivered _ _) rfl
    refine ⟨outcome, called, ?_⟩
    rw [adds.links, switchId]
    rfl
  · have computed : (((Process.initial false).play first).bind fun (_, p) =>
        p.threads[0]?.bind fun thread => (share 0 p.ani thread).map fun (sent, _) =>
          (thread.place, p.ani.swReplys.readObject 0, p.ani.switchId, sent)) =
        some (.probe 1, none, 11, some (discoveryPacket 1 .echoRequest).encode) := by
      decide +kernel
    obtain ⟨s, thread, next, after, step, place, -, -⟩ := share_after computed
    obtain ⟨packet, decoded, handles⟩ := (discovery_wire step).2 1 place
    cases (discoveryPacket_decode _ _).symm.trans decoded
    obtain ⟨outcome, called, -, answer, back, sent, answered, ports, hears⟩ :=
      handles _ 2 initial_ready _ _ .calm (discoveryPacketIn_carries 2 .echoRequest)
        (delivered _ _) rfl
    have request : ((Process.initial false).packetIn
        (Memory.ofList (discoveryPacketIn 2 .echoRequest) Memory.zero) .calm).map Outcome.sent =
        some [(discoveryPacket 2 .echoReply).encode] := by decide +kernel
    have reply : outcome.sent = [(discoveryPacket 2 .echoReply).encode] := by
      rw [called] at request
      exact Option.some.inj request
    cases sent.symm.trans reply
    cases (discoveryPacket_decode _ _).symm.trans answered
    obtain ⟨heard, recorded, -, adds⟩ := hears _ 1 initial_ready _ _ .calm
      (discoveryPacketIn_carries 1 .echoReply) (delivered _ _) rfl
    refine ⟨outcome, heard, called, reply, recorded, ?_⟩
    rw [adds.swReplys]
    rfl

end DAIM.Ani41
