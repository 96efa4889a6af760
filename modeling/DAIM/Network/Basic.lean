import Mathlib.Logic.Function.Basic
import DAIM.Library.History
import DAIM.Ani41.Framing
import DAIM.Ani41.Learning

/-!
# A network of controllers

One controller for each switch.  The controllers are the processes of one of the
versions of `_con.cpp`; the switches, the links and the hosts are not part of the
repository and do whatever the steps below allow.

A frame that was once put on a link may come in at its other end at any later
time, any number of times or never, and so may what a switch and its controller
tell each other be read again or not at all: delay, reordering, loss and
duplication need no steps of their own.
-/

namespace DAIM.Network

open DAIM.Library DAIM.OpenFlow DAIM.Linked DAIM.Hosts DAIM.Ani41

/-- A port of a switch. -/
abbrev Port (Switch : Type*) := Switch × UInt16

abbrev Frame := List UInt8

/-- The links between ports, and the port at which the host with an address is
attached.  The ports of links are physical ones, with a number of their own. -/
structure Topology (Switch : Type*) where
  link : Port Switch → Option (Port Switch)
  symmetric : ∀ {here there}, link here = some there → link there = some here
  physical : ∀ {here there}, link here = some there → here.2 ≠ ofppFlood
  attached : Mac → Option (Port Switch)
  hostPort : ∀ {mac here}, attached mac = some here → link here = none
  datapathId : Switch → UInt64

/-- Two switches with one link between them, and one host at the first. -/
def twoSwitches (host : Mac) : Topology Bool where
  link here :=
    if here = (false, 2) then some (true, 1)
    else if here = (true, 1) then some (false, 2)
    else none
  symmetric := by
    intro here there linked
    split at linked
    · rename_i first
      cases linked
      rw [first]
      rfl
    · split at linked
      · rename_i second
        cases linked
        rw [second]
        rfl
      · cases linked
  physical := by
    intro here there linked
    split at linked
    · rename_i first
      rw [first]
      decide
    · split at linked
      · rename_i second
        rw [second]
        decide
      · cases linked
  attached mac := if mac = host then some (false, 1) else none
  hostPort := by
    intro mac here attached
    split at attached
    · cases attached
      rfl
    · cases attached
  datapathId s := if s then 12 else 11

/-! ## What a switch tells its controller -/

/-- How much of a frame a switch reports at least. -/
def missSendLen : Nat := 128

/-- A `PACKET_IN` for a frame that came in at the port. -/
structure Reports (bytes : List UInt8) (inPort : UInt16) (frame : Frame) : Prop where
  framed : Framed bytes
  type : messageType bytes = ofptPacketIn
  inPort : be16 bytes OfpPacketIn.inPort = inPort
  header : OfEthernet.size ≤ frame.length
  part : packetInFrame bytes <+: frame
  enough : frame.take missSendLen <+: packetInFrame bytes

inductive Message where
  | report (inPort : UInt16) (frame : Frame) (bytes : List UInt8)
  | other (bytes : List UInt8)

namespace Message

def bytes : Message → List UInt8
  | .report _ _ bytes => bytes
  | .other bytes => bytes

/-- The frame that a message is about, and where it came in. -/
def about : Message → Option (UInt16 × Frame)
  | .report inPort frame _ => some (inPort, frame)
  | .other _ => none

def Valid : Message → Prop
  | .report inPort frame bytes => Reports bytes inPort frame
  | .other bytes => Framed bytes ∧ messageType bytes ≠ ofptPacketIn

end Message

/-! ## What a controller tells its switch -/

/-- A message with the frame of the `PACKET_IN` that it answers. -/
structure Sent where
  bytes : List UInt8
  about : Option (UInt16 × Frame)

/-- The actions send a frame out of the port. -/
def Outputs (actions : List ActionOutput) (inPort port : UInt16) : Prop :=
  ∃ action ∈ actions, if action.port = ofppFlood then port ≠ inPort else port = action.port

/-- What a switch sends out of a port when it executes the message. -/
inductive Emits (sent : Sent) (port : UInt16) : Frame → Prop where
  | buffered {packet : PacketOut} {inPort : UInt16} {frame : Frame} :
      PacketOut.decode sent.bytes = some packet → packet.data = [] →
      sent.about = some (inPort, frame) → Outputs packet.actions packet.inPort port →
      Emits sent port frame
  | data {packet : PacketOut} :
      PacketOut.decode sent.bytes = some packet → packet.data ≠ [] →
      Outputs packet.actions packet.inPort port → Emits sent port packet.data
  | flow {flow : FlowMod} {inPort : UInt16} {frame : Frame} :
      FlowMod.decode sent.bytes = some flow → sent.about = some (inPort, frame) →
      Outputs flow.actions inPort port → Emits sent port frame

/-! ## States and steps -/

/-- What a network needs to know about the processes of its controllers: how they
start, their steps, and with which messages of the switch a step can happen and
what it tells the switch. -/
class Controller (Process : Type) (Event : outParam Type) where
  initial : Bool → Process
  Step : Process → Event → Process → Prop
  Exchanges : List Message → Event → List Sent → Prop

variable {Switch : Type*} {Process Event : Type}

/-- `wire` holds the frames that were put on a link or sent by a host, each with
the port where it comes in. -/
structure Net (Switch : Type*) (Process : Type) where
  controllers : Switch → Process
  wire : List (Port Switch × Frame)
  inbox : Switch → List Message
  outbox : Switch → List Sent

namespace Net

def initial [Controller Process Event] (cbench : Switch → Bool) : Net Switch Process where
  controllers := fun s => Controller.initial (cbench s)
  wire := []
  inbox := fun _ => []
  outbox := fun _ => []

def put (net : Net Switch Process) (here : Port Switch) (frame : Frame) : Net Switch Process :=
  { net with wire := net.wire ++ [(here, frame)] }

/-- A frame leaves by a port; without a link it goes to hosts. -/
def emit (topology : Topology Switch) (here : Port Switch) (frame : Frame)
    (net : Net Switch Process) : Net Switch Process :=
  match topology.link here with
  | none => net
  | some there => net.put there frame

section Updates

variable [DecidableEq Switch]

def tell (net : Net Switch Process) (s : Switch) (message : Message) : Net Switch Process :=
  { net with inbox := Function.update net.inbox s (net.inbox s ++ [message]) }

def control (net : Net Switch Process) (s : Switch) (next : Process) (sent : List Sent) :
    Net Switch Process :=
  { net with
    controllers := Function.update net.controllers s next
    outbox := Function.update net.outbox s (net.outbox s ++ sent) }

end Updates

section Emit

variable (topology : Topology Switch) (here : Port Switch) (frame : Frame)
variable (net : Net Switch Process)

@[simp]
theorem emit_controllers : (net.emit topology here frame).controllers = net.controllers := by
  unfold emit
  split <;> rfl

@[simp]
theorem emit_inbox : (net.emit topology here frame).inbox = net.inbox := by
  unfold emit
  split <;> rfl

end Emit

section Updates

variable [DecidableEq Switch] {net : Net Switch Process} {s t : Switch}

theorem mem_tell {new message : Message} (member : message ∈ (net.tell s new).inbox t) :
    message ∈ net.inbox t ∨ t = s ∧ message = new := by
  unfold tell at member
  by_cases same : t = s
  · subst same
    simp only [Function.update_self] at member
    rcases List.mem_append.mp member with old | here
    · exact .inl old
    · exact .inr ⟨rfl, List.mem_singleton.mp here⟩
  · simp only [Function.update_of_ne same] at member
    exact .inl member

theorem mem_control {next : Process} {more : List Sent} {sent : Sent}
    (member : sent ∈ (net.control s next more).outbox t) :
    sent ∈ net.outbox t ∨ t = s ∧ sent ∈ more := by
  unfold control at member
  by_cases same : t = s
  · subst same
    simp only [Function.update_self] at member
    rcases List.mem_append.mp member with old | here
    · exact .inl old
    · exact .inr ⟨rfl, here⟩
  · simp only [Function.update_of_ne same] at member
    exact .inl member

theorem mem_tell_of_mem {new message : Message} (member : message ∈ net.inbox t) :
    message ∈ (net.tell s new).inbox t := by
  unfold tell
  by_cases same : t = s
  · subst same
    simpa using Or.inl member
  · simpa [same] using member

theorem mem_tell_self (new : Message) : new ∈ (net.tell s new).inbox s := by
  simp [tell]

theorem mem_answers {next : Process} {answers : List (List UInt8)} {bytes : List UInt8}
    {about : Option (UInt16 × Frame)} (member : bytes ∈ answers) :
    ⟨bytes, about⟩ ∈
      (net.control s next (answers.map fun bytes => ⟨bytes, about⟩)).outbox s := by
  simp [control, member]

theorem mem_control_self {next : Process} {more : List Sent} {sent : Sent} (member : sent ∈ more) :
    sent ∈ (net.control s next more).outbox s := by
  simp [control, member]

@[simp]
theorem control_self {next : Process} {more : List Sent} :
    (net.control s next more).controllers s = next := by
  simp [control]

theorem control_other {next : Process} {more : List Sent} (other : t ≠ s) :
    (net.control s next more).controllers t = net.controllers t := by
  simp [control, other]

end Updates

end Net

inductive Label (Switch : Type*) (Event : Type) where
  | hostSent (here : Port Switch) (frame : Frame)
  | reported (here : Port Switch) (frame : Frame) (bytes : List UInt8)
  | forwarded (here : Port Switch) (frame : Frame) (port : UInt16)
  | spoke (s : Switch) (bytes : List UInt8)
  | executed (here : Port Switch) (frame : Frame)
  | controller (s : Switch) (event : Event)

/-- One step of the network. -/
inductive Step [DecidableEq Switch] [Controller Process Event] (topology : Topology Switch) :
    Net Switch Process → Label Switch Event → Net Switch Process → Prop where
  -- a host sends frames with its own address, at the port where it is attached
  | hostSent {net : Net Switch Process} {here : Port Switch} {frame : Frame} :
      topology.attached (frameSrc frame) = some here →
      Step topology net (.hostSent here frame) (net.put here frame)
  | reported {net : Net Switch Process} {here : Port Switch} {frame : Frame}
      {bytes : List UInt8} : (here, frame) ∈ net.wire → Reports bytes here.2 frame →
      Step topology net (.reported here frame bytes)
        (net.tell here.1 (.report here.2 frame bytes))
  -- an entry of an earlier flow modification takes the frame
  | forwarded {net : Net Switch Process} {here : Port Switch} {frame : Frame} {sent : Sent}
      {flow : FlowMod} {port : UInt16} :
      (here, frame) ∈ net.wire → sent ∈ net.outbox here.1 →
      FlowMod.decode sent.bytes = some flow → flow.fields.dlType = frameType frame →
      flow.fields.dlSrc = frameSrc frame → Outputs flow.actions here.2 port →
      Step topology net (.forwarded here frame port) (net.emit topology (here.1, port) frame)
  | spoke {net : Net Switch Process} {s : Switch} {bytes : List UInt8} :
      Framed bytes → messageType bytes ≠ ofptPacketIn →
      Step topology net (.spoke s bytes) (net.tell s (.other bytes))
  | executed {net : Net Switch Process} {s : Switch} {sent : Sent} {port : UInt16}
      {frame : Frame} : sent ∈ net.outbox s → Emits sent port frame →
      Step topology net (.executed (s, port) frame) (net.emit topology (s, port) frame)
  | controller {net : Net Switch Process} {s : Switch} {event : Event} {next : Process}
      {sent : List Sent} : Controller.Step (net.controllers s) event next →
      Controller.Exchanges Process (net.inbox s) event sent →
      Step topology net (.controller s event) (net.control s next sent)

/-- The networks that a run from the start leads to. -/
abbrev Reaches [DecidableEq Switch] [Controller Process Event] (topology : Topology Switch)
    (cbench : Switch → Bool) (labels : List (Label Switch Event)) (net : Net Switch Process) :
    Prop :=
  Run (Step topology) (Net.initial cbench) labels net

/-! ## Histories -/

section Histories

variable [DecidableEq Switch] [Controller Process Event] {topology : Topology Switch}
variable {cbench : Switch → Bool} {labels : List (Label Switch Event)}
variable {net next : Net Switch Process} {label : Label Switch Event}

def Label.event? (s : Switch) : Label Switch Event → Option Event
  | .controller t event => if t = s then some event else none
  | _ => none

/-- The history of one controller. -/
def events (s : Switch) (labels : List (Label Switch Event)) : List Event :=
  labels.filterMap (Label.event? s)

omit [Controller Process Event] in
theorem events_append (s : Switch) (first second : List (Label Switch Event)) :
    events s (first ++ second) = events s first ++ events s second :=
  List.filterMap_append

/-- What a step of the network is for one of its controllers: a step of its
process, or none. -/
theorem Step.process_cases (step : Step topology net label next) (s : Switch) :
    (next.controllers s = net.controllers s ∧ ∀ event, label ≠ .controller s event) ∨
      ∃ event sent, label = .controller s event ∧
        Controller.Step (net.controllers s) event (next.controllers s) ∧
        Controller.Exchanges Process (net.inbox s) event sent := by
  cases step with
  | hostSent _ => exact .inl ⟨rfl, nofun⟩
  | reported _ _ => exact .inl ⟨rfl, nofun⟩
  | forwarded _ _ _ _ _ _ =>
      rw [Net.emit_controllers]
      exact .inl ⟨rfl, nofun⟩
  | spoke _ _ => exact .inl ⟨rfl, nofun⟩
  | executed _ _ =>
      rw [Net.emit_controllers]
      exact .inl ⟨rfl, nofun⟩
  | @controller t event process sent taken exchanges =>
      by_cases same : s = t
      · subst same
        rw [Net.control_self]
        exact .inr ⟨event, sent, rfl, taken, exchanges⟩
      · rw [Net.control_other same]
        refine .inl ⟨rfl, fun other impossible => ?_⟩
        cases impossible
        exact same rfl

theorem Step.process (step : Step topology net label next) (s : Switch) :
    Run Controller.Step (net.controllers s) (events s [label]) (next.controllers s) := by
  rcases step.process_cases s with ⟨same, others⟩ | ⟨event, sent, rfl, taken, -⟩
  · have none : events s [label] = [] := by
      cases label with
      | controller t event =>
          have other : t ≠ s := by
            rintro rfl
            exact others event rfl
          simp [events, Label.event?, other]
      | _ => rfl
    rw [none, same]
    exact .refl
  · have single : events s [.controller s event] = [event] := by simp [events, Label.event?]
    rw [single]
    exact .single taken

/-- Every controller of a reachable network is a reachable process. -/
theorem Reaches.process (run : Reaches topology cbench labels net) (s : Switch) :
    Run Controller.Step (Controller.initial (cbench s)) (events s labels) (net.controllers s) := by
  induction run with
  | refl => exact .refl
  | snoc earlier step inductionHypothesis =>
      rw [events_append]
      exact inductionHypothesis.trans (step.process s)

/-! ## The messages of the switches -/

theorem Message.Valid.framed {message : Message} (valid : message.Valid) :
    Framed message.bytes := by
  cases message with
  | report inPort frame bytes => exact Reports.framed valid
  | other bytes => exact valid.1

/-- Every message of a switch is a report of a frame or no `PACKET_IN`. -/
theorem Reaches.valid (run : Reaches topology cbench labels net) :
    ∀ s, ∀ message ∈ net.inbox s, message.Valid := by
  have told {net : Net Switch Process} {t : Switch} {new : Message}
      (valid : ∀ s, ∀ message ∈ net.inbox s, message.Valid) (isValid : new.Valid) :
      ∀ s, ∀ message ∈ (net.tell t new).inbox s, message.Valid := by
    intro s message member
    rcases Net.mem_tell member with old | ⟨-, rfl⟩
    · exact valid s message old
    · exact isValid
  induction run with
  | refl =>
      intro s message impossible
      cases impossible
  | snoc earlier step inductionHypothesis =>
      cases step with
      | reported _ reports => exact told inductionHypothesis reports
      | spoke framed type => exact told inductionHypothesis ⟨framed, type⟩
      | forwarded _ _ _ _ _ _ =>
          rw [Net.emit_inbox]
          exact inductionHypothesis
      | executed _ _ =>
          rw [Net.emit_inbox]
          exact inductionHypothesis
      | _ => exact inductionHypothesis

end Histories

end DAIM.Network
