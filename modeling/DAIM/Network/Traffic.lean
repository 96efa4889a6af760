import DAIM.Ani41.Floods
import DAIM.Library.Trails
import DAIM.Network.Answers

/-!
# A network that duplicates nothing

Here a frame on a link comes in at most once, and a switch and its controller read
every message of the other at most once.  The switches have a finite number of
ports each, a frame that is flooded leaves by all of them but `in_port`, and
the entries of a flow modification stay.
-/

namespace DAIM.Network

open DAIM.Library DAIM.OpenFlow DAIM.Linked DAIM.Hosts DAIM.Ani41

/-! ## Switches with their ports -/

/-- A topology with the ports of every switch. -/
structure Cabling (Switch : Type*) extends Topology Switch where
  ports : Switch → List UInt16
  distinct : ∀ s, (ports s).Nodup
  numbered : ∀ s, ofppFlood ∉ ports s
  cabled : ∀ {here there}, link here = some there → here.2 ∈ ports here.1
  hosted : ∀ {mac here}, attached mac = some here → here.2 ∈ ports here.1

/-- The ports that a list of actions sends a frame out of. -/
def outputs (ports : List UInt16) (actions : List ActionOutput) (inPort : UInt16) :
    List UInt16 :=
  actions.flatMap fun action =>
    if action.port = ofppFlood then ports.filter (· ≠ inPort) else [action.port]

theorem outputs_of_mem {ports : List UInt16} {actions : List ActionOutput} {inPort port : UInt16}
    (member : port ∈ outputs ports actions inPort) : Outputs actions inPort port := by
  obtain ⟨action, chosen, sends⟩ := List.mem_flatMap.mp member
  refine ⟨action, chosen, ?_⟩
  split at sends
  · rename_i flood
    rw [if_pos flood]
    simpa using (List.mem_filter.mp sends).2
  · rename_i other
    rw [if_neg other]
    exact List.mem_singleton.mp sends

/-- The frame that a `PACKET_OUT` sends: its own, or the one that its switch has kept. -/
def Sent.frame (sent : Sent) (packet : PacketOut) : Option Frame :=
  if packet.data = [] then sent.about.map Prod.snd else some packet.data

/-- What a switch sends out of its ports when it executes the message. -/
def Sent.emitted (ports : List UInt16) (sent : Sent) : List (UInt16 × Frame) :=
  match PacketOut.decode sent.bytes, FlowMod.decode sent.bytes with
  | some packet, _ =>
      (sent.frame packet).elim [] fun frame =>
        (outputs ports packet.actions packet.inPort).map (·, frame)
  | none, some flow =>
      sent.about.elim [] fun (inPort, frame) => (outputs ports flow.actions inPort).map (·, frame)
  | none, none => []

/-- All of it is what `Emits` allows. -/
theorem Sent.emits_of_mem {ports : List UInt16} {sent : Sent} {port : UInt16} {frame : Frame}
    (member : (port, frame) ∈ sent.emitted ports) : Emits sent port frame := by
  unfold Sent.emitted at member
  split at member
  · rename_i packet isPacket
    cases released : sent.frame packet with
    | none =>
        rw [released] at member
        cases member
    | some kept =>
        rw [released] at member
        obtain ⟨out, sends, same⟩ := List.mem_map.mp member
        cases same
        unfold Sent.frame at released
        split at released
        · rename_i buffered
          obtain ⟨⟨inPort, known⟩, about, rfl⟩ := Option.map_eq_some_iff.mp released
          exact .buffered isPacket buffered about (outputs_of_mem sends)
        · rename_i carried
          cases released
          exact .data isPacket carried (outputs_of_mem sends)
  · rename_i flow isPacket isFlow
    cases about : sent.about with
    | none =>
        rw [about] at member
        cases member
    | some kept =>
        rw [about] at member
        obtain ⟨out, sends, same⟩ := List.mem_map.mp member
        cases same
        exact .flow isFlow about (outputs_of_mem sends)
  · cases member

/-- The entry of a flow modification takes the frame. -/
structure Covers (flow : FlowMod) (inPort : UInt16) (frame : Frame) : Prop where
  inPort : flow.fields.inPort = inPort
  dlType : flow.fields.dlType = frameType frame
  dlSrc : flow.fields.dlSrc = frameSrc frame
  dlDst : flow.fields.dlDst = frameDst frame

/-! ## A switch with its controller -/

/-- `inbox` holds what the controller has not read yet, `chunk` what it has read
last and not yet worked on, and `outbox` what the switch has not executed yet. -/
structure Site where
  controller : Process
  inbox : List Message
  chunk : List Message
  outbox : List Sent
  entries : List FlowMod

def Site.initial (cbench : Bool) : Site := ⟨Process.initial cbench, [], [], [], []⟩

/-- What a switch may tell its controller besides reports; a features reply
has its fixed part. -/
structure Speaks (bytes : List UInt8) : Prop where
  framed : Framed bytes
  type : messageType bytes ≠ ofptPacketIn
  whole : messageType bytes = ofptFeaturesReply → OfpSwitchFeatures.size ≤ bytes.length

/-- One step at a switch with the given ports: the frame that comes in, the
frames that go out, and the event of the controller. -/
inductive Site.Step (ports : List UInt16) :
    Site → Option (UInt16 × Frame) → List (UInt16 × Frame) → Option Event → Site → Prop where
  | reported {site : Site} {inPort : UInt16} {frame : Frame} {bytes : List UInt8} :
      Reports bytes inPort frame →
      Step ports site (some (inPort, frame)) [] none
        { site with inbox := site.inbox ++ [.report inPort frame bytes] }
  | forwarded {site : Site} {inPort : UInt16} {frame : Frame} {flow : FlowMod} :
      flow ∈ site.entries → Covers flow inPort frame →
      Step ports site (some (inPort, frame))
        ((outputs ports flow.actions inPort).map (·, frame)) none site
  | spoke {site : Site} {bytes : List UInt8} : Speaks bytes →
      Step ports site none [] none { site with inbox := site.inbox ++ [.other bytes] }
  | executed {site : Site} {before after : List Sent} {sent : Sent} :
      site.outbox = before ++ sent :: after →
      Step ports site none (sent.emitted ports) none
        { site with
          outbox := before ++ after
          entries := site.entries ++ (FlowMod.decode sent.bytes).toList }
  -- a chunk is made of the next whole messages of the switch
  | received {site : Site} {chunk : List UInt8} {group rest : List Message} {next : Process} :
      Process.Step site.controller (.received chunk) next → site.inbox = group ++ rest →
      chunk = (group.map Message.bytes).flatten →
      Step ports site none [] (some (.received chunk))
        { site with controller := next, inbox := rest, chunk := group }
  | handled {site : Site} {call : Call} {before after : List Message} {message : Message}
      {next : Process} : Process.Step site.controller (.handled call) next →
      site.chunk = before ++ message :: after → Takes call message.bytes →
      Step ports site none [] (some (.handled call))
        { site with
          controller := next
          chunk := before ++ after
          outbox := site.outbox ++ call.sent.map fun bytes => ⟨bytes, message.about⟩ }
  -- after a lost connection the zeros in the buffer are taken for a message
  | cleared {site : Site} {call : Call} {next : Process} :
      Process.Step site.controller (.handled call) next → call.message = Memory.zero →
      Step ports site none [] (some (.handled call))
        { site with
          controller := next
          outbox := site.outbox ++ call.sent.map fun bytes => ⟨bytes, none⟩ }
  | shared {site : Site} {index : Nat} {bytes : List UInt8} {next : Process} :
      Process.Step site.controller (.shared index bytes) next →
      Step ports site none [] (some (.shared index bytes))
        { site with controller := next, outbox := site.outbox ++ [⟨bytes, none⟩] }
  | quiet {site : Site} {event : Event} {next : Process} :
      Process.Step site.controller event next → Quiet event →
      Step ports site none [] (some event) { site with controller := next }

/-! ## The network -/

/-- `flying` holds the frames on the links, each with the port where it comes in. -/
structure Traffic (Switch : Type*) where
  sites : Switch → Site
  flying : List (Port Switch × Frame)

variable {Switch : Type*}

/-- Where the frames that leave a switch come in; without a link they go to hosts. -/
def Cabling.arrivals (cabling : Cabling Switch) (s : Switch) (out : List (UInt16 × Frame)) :
    List (Port Switch × Frame) :=
  out.filterMap fun (port, frame) => (cabling.link (s, port)).map (·, frame)

/-- What the controllers do in a step. -/
abbrev Act (Switch : Type*) := Option (Switch × Event)

/-- One step of the network.  Hosts that are asked may answer by unicast ARP frames. -/
inductive Traffic.Step [DecidableEq Switch] (cabling : Cabling Switch) :
    Traffic Switch → Act Switch → Traffic Switch → Prop where
  | answered {traffic : Traffic Switch} {here : Port Switch} {frame : Frame} :
      cabling.attached (frameSrc frame) = some here → frameType frame = arpData →
      frameDst frame ≠ Mac.broadcast →
      Step cabling traffic none { traffic with flying := traffic.flying ++ [(here, frame)] }
  | arrived {traffic : Traffic Switch} {before after : List (Port Switch × Frame)} {s : Switch}
      {inPort : UInt16} {frame : Frame} {out : List (UInt16 × Frame)} {event : Option Event}
      {next : Site} : traffic.flying = before ++ ((s, inPort), frame) :: after →
      Site.Step (cabling.ports s) (traffic.sites s) (some (inPort, frame)) out event next →
      Step cabling traffic (event.map (s, ·))
        ⟨Function.update traffic.sites s next, before ++ after ++ cabling.arrivals s out⟩
  | worked {traffic : Traffic Switch} {s : Switch} {out : List (UInt16 × Frame)}
      {event : Option Event} {next : Site} :
      Site.Step (cabling.ports s) (traffic.sites s) none out event next →
      Step cabling traffic (event.map (s, ·))
        ⟨Function.update traffic.sites s next, traffic.flying ++ cabling.arrivals s out⟩

/-- A frame that asks all hosts for an address. -/
def AsksAll (frame : Frame) : Prop := frameType frame = arpData ∧ frameDst frame = Mac.broadcast

instance (frame : Frame) : Decidable (AsksAll frame) := inferInstanceAs (Decidable (_ ∧ _))

/-- Controllers that have just started, and one frame that a host has sent. -/
def Traffic.initial (cbench : Switch → Bool) (here : Port Switch) (frame : Frame) :
    Traffic Switch :=
  ⟨fun s => Site.initial (cbench s), [(here, frame)]⟩

/-- The flooding messages of the controller of a switch, by their `in_port`. -/
def floods [DecidableEq Switch] (s : Switch) (acts : List (Act Switch)) : List UInt16 :=
  acts.flatMap fun
    | some (t, event) => if t = s then event.floods else []
    | none => []

end DAIM.Network
