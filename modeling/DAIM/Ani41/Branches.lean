import DAIM.Ani41.Handlers

/-!
# What the branches of `action_packout` leave alone

Apart from the branch for discovery packets, a branch learns a host, looks one
up and sends a message.  A property of the globals that these three keep is
kept by the whole branch.
-/

namespace DAIM.Ani41

open DAIM.Library DAIM.OpenFlow DAIM.Linked

/-- What an IP packet is answered with, once its destination was looked up. -/
inductive IpAnswer (env : Env) (packet : PacketIn) (found : Ani) (outPort : UInt16) :
    Sending → Prop where
  | flow (nwSrc nwDst : UInt32) (tpSrc tpDst : UInt16) (nwProto : UInt8) :
      IpAnswer env packet found outPort
        (sendFlowMod env packet nwSrc nwDst tpSrc tpDst nwProto ipData outPort found)
  | flood : IpAnswer env packet found outPort (sendFlood env packet found)
  | silent : IpAnswer env packet found outPort (found, [])

/-- Learning a host, looking one up and sending a message keep the property. -/
structure Stable (env : Env) (Holds : Ani → Prop) : Prop where
  learnt : ∀ (s : Ani) (hosts : ObjectList SwitchHost) (printed : List SwitchHost), Holds s →
    Holds { s with hosts := hosts, console := s.console ++ printed.map Line.host }
  looked : ∀ (s : Ani) (hosts : ObjectList SwitchHost), Holds s → Holds { s with hosts := hosts }
  sent : ∀ (s : Ani) (buffer : Memory), Holds s →
    Holds ({ s with writeBuffer := buffer }.send env 0)

section Branches

variable {env : Env} {message : Memory} {packet : PacketIn} {s next : Ani} {sending : Sending}
variable {Holds : Ani → Prop}

theorem Stable.learnHost {ipSrc : UInt32} (stable : Stable env Holds) (holds : Holds s)
    (run : learnHost env packet ipSrc s = some next) : Holds next := by
  unfold Ani41.learnHost at run
  split at run
  · cases run
  · rename_i hosts printed learned
    cases run
    exact stable.learnt s hosts printed holds

theorem Stable.lookupPort {dst : Mac} {port : UInt16} (stable : Stable env Holds) (holds : Holds s)
    (run : lookupPort dst s = some (next, port)) : Holds next := by
  unfold Ani41.lookupPort at run
  split at run
  · cases run
  · rename_i hosts outPort found
    cases run
    exact stable.looked s hosts holds

theorem Stable.packoutIp6 (stable : Stable env Holds) (holds : Holds s) :
    Holds (packoutIp6 env packet s).1 := by
  unfold Ani41.packoutIp6
  split
  · exact stable.sent s _ holds
  · exact holds

theorem Stable.packoutArp (stable : Stable env Holds) (holds : Holds s)
    (run : packoutArp env message packet s = some sending) : Holds sending.1 := by
  unfold Ani41.packoutArp at run
  simp only at run
  split at run
  · cases run
  · rename_i learned learn
    have kept := stable.learnHost holds learn
    split at run
    · cases run
      exact stable.sent learned _ kept
    · split at run
      · cases run
      · rename_i found outPort lookup
        have same := stable.lookupPort kept lookup
        split at run
        · cases run
          exact stable.sent found _ same
        · cases run
          exact same

theorem packoutIp_answers {found : Ani} {outPort : UInt16}
    (lookup : lookupPort packet.dst s = some (found, outPort)) :
    ∃ sending, packoutIp env message packet s = some sending ∧
      IpAnswer env packet found outPort sending := by
  unfold packoutIp
  rw [lookup]
  simp only
  -- ICMP, TCP, UDP, the unknown protocol and all others
  split
  · split
    · exact ⟨_, rfl, .flow ..⟩
    · exact ⟨_, rfl, .silent⟩
  · split
    · split
      · exact ⟨_, rfl, .flow ..⟩
      · exact ⟨_, rfl, .silent⟩
    · split
      · split
        · exact ⟨_, rfl, .flow ..⟩
        · exact ⟨_, rfl, .silent⟩
      · split
        · exact ⟨_, rfl, .flood⟩
        · exact ⟨_, rfl, .silent⟩

theorem packoutIp_answered (run : packoutIp env message packet s = some sending) :
    ∃ found outPort, lookupPort packet.dst s = some (found, outPort) ∧
      IpAnswer env packet found outPort sending := by
  cases lookup : lookupPort packet.dst s with
  | none =>
      unfold packoutIp at run
      rw [lookup] at run
      cases run
  | some result =>
      obtain ⟨answer, same, answers⟩ := @packoutIp_answers env message packet s _ _ lookup
      rw [run] at same
      cases same
      exact ⟨_, _, rfl, answers⟩

theorem Stable.packoutIp (stable : Stable env Holds) (holds : Holds s)
    (run : packoutIp env message packet s = some sending) : Holds sending.1 := by
  obtain ⟨found, outPort, lookup, answer⟩ := packoutIp_answered run
  have same := stable.lookupPort holds lookup
  cases answer with
  | flow => exact stable.sent found _ same
  | flood => exact stable.sent found _ same
  | silent => exact same

/-- With the same for the branch for discovery packets, all of them keep it. -/
theorem Stable.packoutBranch (stable : Stable env Holds) (holds : Holds s)
    (discovery : packet.type = lldpData →
      packoutLldp env message packet s = some sending → Holds sending.1)
    (run : packoutBranch env message packet s = some sending) : Holds sending.1 := by
  unfold Ani41.packoutBranch at run
  split at run
  · cases run
    exact stable.packoutIp6 holds
  · split at run
    · exact stable.packoutArp holds run
    · split at run
      · exact stable.packoutIp holds run
      · split at run
        · rename_i lldp
          exact discovery lldp run
        · cases run
          exact holds

/-- The branch for discovery packets changes nothing but the tables that it
fills and the counter of the search. -/
theorem packoutLldp_frame (run : packoutLldp env message packet s = some sending) :
    sending.1 = { s with
      swReplys := sending.1.swReplys, links := sending.1.links
      animNodeCounter := sending.1.animNodeCounter } := by
  unfold packoutLldp at run
  simp only at run
  split at run
  · cases run
  · split at run
    · cases run
      rfl
    · split at run
      · split at run
        · cases run
        · cases run
          rfl
      · split at run
        · split at run
          · cases run
          · cases run
            rfl
        · cases run
          rfl

theorem packoutLldp_length (run : packoutLldp env message packet s = some sending) :
    sending.1.writeBufferLen = s.writeBufferLen := by
  rw [packoutLldp_frame run]

end Branches

end DAIM.Ani41
