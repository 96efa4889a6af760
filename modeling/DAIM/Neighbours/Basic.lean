import DAIM.Ani21.Framing
import DAIM.Network.Answers

/-!
# A network of controllers of version 2.1

One process of `ANIv21` for each switch, in a network as the one of version 4.
-/

namespace DAIM.Neighbours

open DAIM.Library DAIM.OpenFlow DAIM.Ani21
open DAIM.Ani41 (Call Takes)
open DAIM.Network (Controller Port Frame Topology Reports Message Sent Outputs Emits Net Label Step
  Reaches)

/-! ## Controllers of version 2.1 -/

/-- The events of a process that neither read from nor write to its switch. -/
def Quiet : Event → Prop
  | .internal | .lost | .connected _ | .described _ | .created _ => True
  | _ => False

/-- The frame that a call is about.  `action_packout` is called with a message of
the switch; what the other handlers send is about no frame. -/
def About (messages : List Message) (call : Call) (about : Option (UInt16 × Frame)) : Prop :=
  if call.handler = .packout then
    ∃ message ∈ messages, Takes call message.bytes ∧ about = message.about
  else
    about = none

/-- What a process reads from its switch, and writes to it. -/
inductive Exchanges (messages : List Message) : Event → List Sent → Prop where
  -- a chunk is made of whole messages of the switch
  | received {chunk : List UInt8} {group : List Message} :
      (∀ message ∈ group, message ∈ messages) → chunk = (group.map Message.bytes).flatten →
      Exchanges messages (.received chunk) []
  | handled {call : Call} {about : Option (UInt16 × Frame)} : About messages call about →
      Exchanges messages (.handled call) (call.sent.map fun bytes => ⟨bytes, about⟩)
  | shared {index : Nat} {bytes : List UInt8} :
      Exchanges messages (.shared index bytes) [⟨bytes, none⟩]
  | quiet {event : Event} : Quiet event → Exchanges messages event []

instance : Controller Process Event where
  initial := Process.initial
  Step := Process.Step
  Exchanges := Exchanges

section Histories

variable {Switch : Type*} [DecidableEq Switch] {topology : Topology Switch}
variable {cbench : Switch → Bool} {labels : List (Label Switch Event)} {net : Net Switch Process}

/-! ## What `action_packout` is called with -/

omit [DecidableEq Switch] in
theorem framed_of_valid {s : Switch} (valid : ∀ message ∈ net.inbox s, message.Valid) :
    ∀ bytes ∈ (net.inbox s).map Message.bytes, Framed bytes := by
  intro bytes member
  obtain ⟨message, told, rfl⟩ := List.mem_map.mp member
  exact (valid message told).framed

/-- Every controller faces messages of its switch. -/
theorem Reaches.faces (run : Reaches topology cbench labels net) (s : Switch) :
    (net.controllers s).Faces ((net.inbox s).map Message.bytes) := by
  induction run with
  | refl => trivial
  | @snoc labels net next label earlier step inductionHypothesis =>
      have faces := inductionHypothesis
      have framed := framed_of_valid (Reaches.valid earlier s)
      have more {t : Switch} {new : Message} :
          (net.controllers s).Faces (((net.tell t new).inbox s).map Message.bytes) := by
        apply faces.more
        intro bytes member
        obtain ⟨message, told, rfl⟩ := List.mem_map.mp member
        exact List.mem_map_of_mem (Net.mem_tell_of_mem told)
      cases step with
      | hostSent _ => exact faces
      | reported _ _ => exact more
      | spoke _ _ => exact more
      | forwarded _ _ _ _ _ _ =>
          rw [Net.emit_controllers, Net.emit_inbox]
          exact faces
      | executed _ _ =>
          rw [Net.emit_controllers, Net.emit_inbox]
          exact faces
      | @controller t event process sent taken exchanges =>
          by_cases same : s = t
          · subst same
            rw [Net.control_self]
            have taken : Process.Step (net.controllers s) event process := taken
            cases exchanges with
            | received inside whole =>
                apply taken.received_faces _ whole
                intro bytes member
                obtain ⟨message, inGroup, rfl⟩ := List.mem_map.mp member
                exact List.mem_map_of_mem (inside message inGroup)
            | handled _ => exact (taken.faces faces framed nofun).1
            | shared => exact (taken.faces faces framed nofun).1
            | quiet quiet =>
                refine (taken.faces faces framed ?_).1
                rintro chunk rfl
                cases quiet
          · rw [Net.control_other same]
            exact faces

/-- A call is always about a frame of its switch or about none, as `Step`
demands: the demand keeps no controller from any step. -/
theorem Reaches.about (run : Reaches topology cbench labels net) {s : Switch} {call : Call}
    {process : Process} (taken : Process.Step (net.controllers s) (.handled call) process) :
    ∃ about, About (net.inbox s) call about := by
  by_cases packout : call.handler = .packout
  · have framed := framed_of_valid (Reaches.valid run s)
    obtain ⟨bytes, member, takes⟩ :=
      (taken.faces (Reaches.faces run s) framed nofun).2 call rfl packout
    obtain ⟨message, told, rfl⟩ := List.mem_map.mp member
    refine ⟨message.about, ?_⟩
    rw [About, if_pos packout]
    exact ⟨message, told, takes, rfl⟩
  · refine ⟨none, ?_⟩
    rw [About, if_neg packout]

end Histories

end DAIM.Neighbours
