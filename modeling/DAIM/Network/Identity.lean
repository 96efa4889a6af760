import DAIM.Ani41.Identity
import DAIM.Network.Answers

/-!
# Controllers and their switches

Every controller of a network knows the datapath id of its own switch from the
first features reply on that it has handled.
-/

namespace DAIM.Network

open DAIM.Library DAIM.OpenFlow DAIM.Linked DAIM.Ani41

variable {Switch : Type*} {topology : Topology Switch} {cbench : Switch → Bool}
variable {labels : List (Label Switch Event)} {net : Net Switch Process} {s : Switch}

/-- Every features reply is complete and names the switch that it comes from. -/
def Genuine (topology : Topology Switch) (labels : List (Label Switch Event)) : Prop :=
  ∀ s bytes, Label.spoke s bytes ∈ labels → messageType bytes = ofptFeaturesReply →
    OfpSwitchFeatures.size ≤ bytes.length ∧
      be64 bytes OfpSwitchFeatures.datapathId = topology.datapathId s

/-- The controller has handled a features reply. -/
def Introduced (s : Switch) (labels : List (Label Switch Event)) : Prop :=
  ∃ call, Label.controller s (.handled call) ∈ labels ∧ call.handler = .featuresReply

theorem Genuine.earlier {more : List (Label Switch Event)}
    (genuine : Genuine topology (labels ++ more)) :
    Genuine topology labels :=
  fun s bytes spoke => genuine s bytes (List.mem_append_left _ spoke)

theorem Introduced.later {s : Switch} (introduced : Introduced s labels)
    (more : List (Label Switch Event)) : Introduced s (labels ++ more) := by
  obtain ⟨call, member, handler⟩ := introduced
  exact ⟨call, List.mem_append_left _ member, handler⟩

section Runs

variable [DecidableEq Switch]

/-- Messages that report no frame were spoken by the switch. -/
theorem Reaches.spoke (run : Reaches topology cbench labels net) {bytes : List UInt8}
    (told : .other bytes ∈ net.inbox s) : Label.spoke s bytes ∈ labels := by
  induction run with
  | refl => cases told
  | @snoc labels middle finish label earlier step inductionHypothesis =>
      have before (old : Message.other bytes ∈ middle.inbox s) :
          Label.spoke s bytes ∈ labels ++ [label] :=
        List.mem_append_left _ (inductionHypothesis old)
      cases step with
      | reported _ _ =>
          rcases Net.mem_tell told with old | ⟨-, impossible⟩
          · exact before old
          · cases impossible
      | spoke _ _ =>
          rcases Net.mem_tell told with old | ⟨rfl, new⟩
          · exact before old
          · cases new
            exact List.mem_append_right _ List.mem_cons_self
      | forwarded _ _ _ _ _ _ =>
          rw [Net.emit_inbox] at told
          exact before told
      | executed _ _ =>
          rw [Net.emit_inbox] at told
          exact before told
      | _ => exact before told

/-- A features reply that is handled names the switch. -/
theorem Reaches.genuine (run : Reaches topology cbench labels net)
    (genuine : Genuine topology labels) {call : Call} {message : Message}
    (told : message ∈ net.inbox s) (takes : Takes call message.bytes)
    (handler : call.handler = .featuresReply) :
    be64toh (call.message.load64 OfpSwitchFeatures.datapathId) = topology.datapathId s := by
  have dispatched := takes.handler
  rw [handler] at dispatched
  have type := dispatch_eq_some_iff.mp dispatched
  cases message with
  | report inPort frame bytes =>
      have isReport := (Reaches.valid run s _ told).report rfl
      exact absurd (isReport.type.symm.trans type) (by decide)
  | other bytes =>
      obtain ⟨complete, named⟩ := genuine s bytes (Reaches.spoke run told) type
      rw [takes.whole.be64toh_load64 (Nat.le_trans (by decide) complete)]
      exact named

theorem Reaches.identity (run : Reaches topology cbench labels net)
    (genuine : Genuine topology labels) (introduced : Introduced s labels) :
    (net.controllers s).place = .exited ∨
      (net.controllers s).ani.switchId = topology.datapathId s := by
  induction run with
  | refl =>
      obtain ⟨call, impossible, -⟩ := introduced
      cases impossible
  | @snoc labels middle finish label earlier step inductionHypothesis =>
      obtain ⟨call, member, handler⟩ := introduced
      have before := inductionHypothesis genuine.earlier
      have old (known : Label.controller s (.handled call) ∈ labels) :
          (middle.controllers s).place = .exited ∨
            (middle.controllers s).ani.switchId = topology.datapathId s :=
        before ⟨call, known, handler⟩
      rcases step.controller_cases s with ⟨same, others⟩ | ⟨event, rfl, taken, takes⟩
      · rw [same]
        rcases List.mem_append.mp member with known | now
        · exact old known
        · exact absurd (List.mem_singleton.mp now).symm (others _)
      · obtain ⟨tables, shows, -⟩ := Reaches.tables earlier s
        cases event with
        | handled current =>
            have running : (middle.controllers s).place ≠ .exited :=
              fun exited => (taken.after_exit exited).2 current rfl
            have switchId := taken.switchId_call shows
            split at switchId
            · rename_i reply
              obtain ⟨message, told, whole⟩ := takes current rfl
              have named := Reaches.genuine earlier genuine.earlier told whole reply
              exact switchId.imp And.right fun set => set.trans named
            · rename_i other
              rcases List.mem_append.mp member with known | now
              · exact .inr (switchId.trans ((old known).resolve_left running))
              · cases List.mem_singleton.mp now
                exact absurd handler other
        | _ =>
            have kept := taken.switchId_kept fun call => nofun
            rcases List.mem_append.mp member with known | now
            · rcases old known with exited | same
              · exact .inl (taken.after_exit exited).1
              · exact .inr (kept.trans same)
            · cases List.mem_singleton.mp now

end Runs

end DAIM.Network
