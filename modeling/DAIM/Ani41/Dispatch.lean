import DAIM.Library.Agreement
import DAIM.Ani41.Loop

/-!
# What a handler reads of its message

The message in front of the loop as the only input of one round, and how many
of its octets the round depends on.  That number is compared with nothing: the
structures that a handler lays over the buffer may reach into what follows the
message.
-/

namespace DAIM.Ani41

open DAIM.Library DAIM.OpenFlow DAIM.Linked DAIM.Com

/-- What a round sends, and the tables behind it. -/
structure Effect where
  sent : List (List UInt8)
  hosts : List SwitchHost
  ports : List SwitchPort
  links : List SwitchLink
  swReplys : List SwitchReply

def Ani.effect (s : Ani) (sent : List (List UInt8)) : Effect :=
  ⟨sent, s.hosts.contents, s.ports.contents, s.links.contents, s.swReplys.contents⟩

/-- The loop in front of the message at a position of a buffer. -/
def Ani.facing (s : Ani) (buffer : Memory) (position : Nat) : Ani :=
  { s with readBuffer := buffer, readBufferp := position, pheader := .read position }

/-- One round for the message of version 1 at a position; `none` when its handler
does not return. -/
def handling (env : Env) (s : Ani) (buffer : Memory) (position : Nat) : Option Effect :=
  match dispatch ((buffer.shift position) OfpHeader.type) with
  | none => some (s.effect [])
  | some handler =>
      (handle handler env position (s.facing buffer position)).map fun outcome =>
        outcome.ani.effect outcome.sent

section Handling

variable {env : Env} {s : Ani} {buffer : Memory} {position : Nat}

theorem handling_none (chosen : dispatch ((buffer.shift position) OfpHeader.type) = none) :
    handling env s buffer position = some (s.effect []) := by
  rw [handling, chosen]

theorem handling_some {handler : Handler}
    (chosen : dispatch ((buffer.shift position) OfpHeader.type) = some handler) :
    handling env s buffer position =
      (handle handler env position (s.facing buffer position)).map fun outcome =>
        outcome.ani.effect outcome.sent := by
  rw [handling, chosen]

end Handling

/-- A call from the loop has the effect of its round. -/
theorem Process.Step.handling {p q : Process} {call : Call}
    (step : Process.Step p (.handled call) q) (bench : p.ani.cbench = true) :
    handling call.env p.ani p.ani.readBuffer p.ani.readBufferp =
      some (q.ani.effect call.sent) := by
  cases step with
  | answered normal _ _ => exact absurd (bench.symm.trans normal) (by decide)
  | @scanAnswered s _ _ _ handler _ _ _ check type run =>
      obtain ⟨rfl, -⟩ := checkOpenflow_eq check
      have chosen : dispatch ((s.readBuffer.shift s.readBufferp) OfpHeader.type) = some handler :=
        type
      rw [handling_some chosen]
      exact congrArg (Option.map fun outcome : Outcome => outcome.ani.effect outcome.sent) run

/-! ## The octets that a round depends on -/

/-- The first octets of the Ethernet types that have a branch. -/
def Branching (octet : UInt8) : Prop := octet = 0x08 ∨ octet = 0x86 ∨ octet = 0x88

instance (octet : UInt8) : Decidable (Branching octet) :=
  inferInstanceAs (Decidable (_ ∨ _))

/-- The octets of a `PACKET_IN` that `action_packout` depends on. -/
def packetExtent (message : Memory) : Nat :=
  let packet := parsePacketIn message
  let protocol := payload message Iphdr.protocol
  if packet.type = arpData then
    if packet.dst = Mac.broadcast then 32 + Arp.ipSource + 4 else 32 + Arp.ipDest + 4
  else if packet.type = ipData then
    if protocol = ipTypeIcmp then 32 + Iphdr.daddr + 4
    else if protocol = ipTypeTcp ∨ protocol = ipTypeUdp then 32 + Iphdr.size + Transport.dest + 2
    else 32 + Iphdr.protocol + 1
  else if packet.type = lldpData then
    if payload message AnimHeader.type = animNode then
      32 + AnimHeader.size + NetNodeWire.portNo + 2
    else 32 + AnimHeader.type + 1
  else if Branching (message (OfpPacketIn.data + OfEthernet.type)) then 32
  else 31

def handlerExtent (message : Memory) : Option Handler → Nat
  | none => OfpHeader.type + 1
  | some .hello => OfpHeader.xid + 4
  | some .echo => OfpHeader.xid + 4
  | some .featuresReply =>
      OfpSwitchFeatures.size + OfpPhyPort.size * (featuresCount message).toNat
  | some .packout => packetExtent message

def extent (message : Memory) : Nat := handlerExtent message (dispatch (message OfpHeader.type))

/-! ## The handlers on another buffer -/

def Ani.rebuffer (buffer : Memory) (s : Ani) : Ani := { s with readBuffer := buffer }

def Sending.rebuffer (buffer : Memory) (sending : Sending) : Sending :=
  (sending.1.rebuffer buffer, sending.2)

section Rebuffer

variable {env : Env} {message : Memory} {packet : PacketIn} {s : Ani} (buffer : Memory)

theorem learnHost_rebuffer (ipSrc : UInt32) :
    learnHost env packet ipSrc (s.rebuffer buffer) =
      (learnHost env packet ipSrc s).map (Ani.rebuffer buffer) := by
  unfold learnHost Ani.rebuffer
  simp only
  split <;> rfl

theorem lookupPort_rebuffer (dst : Mac) :
    lookupPort dst (s.rebuffer buffer) =
      (lookupPort dst s).map fun found => (found.1.rebuffer buffer, found.2) := by
  unfold lookupPort Ani.rebuffer
  simp only
  split <;> rfl

theorem packoutIp6_rebuffer :
    packoutIp6 env packet (s.rebuffer buffer) = (packoutIp6 env packet s).rebuffer buffer := by
  unfold packoutIp6 Ani.rebuffer
  simp only
  split <;> rfl

theorem packoutArp_rebuffer :
    packoutArp env message packet (s.rebuffer buffer) =
      (packoutArp env message packet s).map (Sending.rebuffer buffer) := by
  unfold packoutArp
  simp only [learnHost_rebuffer]
  cases learnHost env packet (ntohl ((payload message).load32 Arp.ipSource)) s with
  | none => rfl
  | some learned =>
      simp only [Option.map_some, lookupPort_rebuffer]
      split
      · rfl
      · cases lookupPort packet.dst learned with
        | none => rfl
        | some found =>
            simp only [Option.map_some]
            split <;> rfl

theorem packoutIp_rebuffer :
    packoutIp env message packet (s.rebuffer buffer) =
      (packoutIp env message packet s).map (Sending.rebuffer buffer) := by
  unfold packoutIp
  rw [lookupPort_rebuffer]
  cases lookupPort packet.dst s with
  | none => rfl
  | some found =>
      simp only [Option.map_some]
      -- the protocols in the order of the source, with a port and without one
      split
      · split
        · rfl
        · rfl
      · split
        · split
          · rfl
          · rfl
        · split
          · split
            · rfl
            · rfl
          · split
            · rfl
            · rfl

theorem packoutLldp_rebuffer :
    packoutLldp env message packet (s.rebuffer buffer) =
      (packoutLldp env message packet s).map (Sending.rebuffer buffer) := by
  unfold packoutLldp Ani.rebuffer
  simp only
  split
  · rfl
  · split
    · rfl
    · split
      · cases s.swReplys.addFilled (env.objectAllocated 0) (env.blockAllocated 0)
            { portNo := packet.inPort, received := true } with
        | none => rfl
        | some replys => rfl
      · split
        · cases s.links.addFilled (env.objectAllocated 0) (env.blockAllocated 0) _ with
          | none => rfl
          | some links => rfl
        · rfl

theorem packoutBranch_rebuffer :
    packoutBranch env message packet (s.rebuffer buffer) =
      (packoutBranch env message packet s).map (Sending.rebuffer buffer) := by
  unfold packoutBranch
  rw [packoutIp6_rebuffer, packoutArp_rebuffer, packoutIp_rebuffer, packoutLldp_rebuffer]
  split
  · rfl
  · split
    · rfl
    · split
      · rfl
      · split
        · rfl
        · rfl

end Rebuffer

/-! ## The handlers on messages that agree -/

section Agreement

variable {env : Env} {first second : Memory} {packet : PacketIn} {s : Ani}

theorem parsePacketIn_agree (agree : Memory.Agree 32 first second) :
    parsePacketIn first = parsePacketIn second := by
  have frame : Memory.Agree 14 (first.shift OfpPacketIn.data) (second.shift OfpPacketIn.data) :=
    agree.shift
  unfold parsePacketIn Mac.load
  simp only
  rw [agree.load32 (by decide : OfpPacketIn.bufferId + 4 ≤ 32),
    agree.load16 (by decide : OfpPacketIn.inPort + 2 ≤ 32),
    agree.load32 (by decide : OfpHeader.xid + 4 ≤ 32),
    frame.load16 (by decide : OfEthernet.type + 2 ≤ 14)]
  congr 2
  all_goals exact frame _ (by decide)

theorem payload_agree {octets : Nat} (agree : Memory.Agree (32 + octets) first second) :
    Memory.Agree octets (payload first) (payload second) :=
  agree.shift

theorem packoutArp_agree
    (agree : Memory.Agree
      (if packet.dst = Mac.broadcast then 32 + Arp.ipSource + 4 else 32 + Arp.ipDest + 4)
      first second) :
    packoutArp env first packet s = packoutArp env second packet s := by
  have source : (payload first).load32 Arp.ipSource = (payload second).load32 Arp.ipSource := by
    have front : Memory.Agree (32 + 18) first second := agree.mono (by split <;> decide)
    exact (payload_agree front).load32 (by decide)
  unfold packoutArp
  simp only [source]
  cases learnHost env packet (ntohl ((payload second).load32 Arp.ipSource)) s with
  | none => rfl
  | some learned =>
      simp only
      by_cases broadcast : packet.dst = Mac.broadcast
      · rw [if_pos broadcast, if_pos broadcast]
      · rw [if_neg broadcast] at agree
        have front : Memory.Agree (32 + 28) first second := agree
        have target : (payload first).load32 Arp.ipDest = (payload second).load32 Arp.ipDest :=
          (payload_agree front).load32 (by decide)
        have op : (payload first).load16 Arp.op = (payload second).load16 Arp.op :=
          (payload_agree front).load16 (by decide)
        rw [if_neg broadcast, if_neg broadcast, target, op]

theorem packoutIp_agree
    (agree : Memory.Agree
      (if payload first Iphdr.protocol = ipTypeIcmp then 32 + Iphdr.daddr + 4
      else if payload first Iphdr.protocol = ipTypeTcp ∨
          payload first Iphdr.protocol = ipTypeUdp then
        32 + Iphdr.size + Transport.dest + 2
      else 32 + Iphdr.protocol + 1) first second) :
    packoutIp env first packet s = packoutIp env second packet s := by
  have protocol : payload first Iphdr.protocol = payload second Iphdr.protocol := by
    have front : Memory.Agree (32 + 10) first second := agree.mono (by split_ifs <;> decide)
    exact payload_agree front _ (by decide)
  unfold packoutIp
  cases lookupPort packet.dst s with
  | none => rfl
  | some found =>
      simp only [← protocol]
      have addresses (inside : Memory.Agree (32 + 20) first second) :
          (payload first).load32 Iphdr.saddr = (payload second).load32 Iphdr.saddr ∧
            (payload first).load32 Iphdr.daddr = (payload second).load32 Iphdr.daddr :=
        ⟨(payload_agree inside).load32 (by decide), (payload_agree inside).load32 (by decide)⟩
      have ports (inside : Memory.Agree (32 + 24) first second) :
          ((payload first).shift Iphdr.size).load16 Transport.source =
              ((payload second).shift Iphdr.size).load16 Transport.source ∧
            ((payload first).shift Iphdr.size).load16 Transport.dest =
              ((payload second).shift Iphdr.size).load16 Transport.dest := by
        have rest : Memory.Agree (20 + 4) (payload first) (payload second) := payload_agree inside
        exact ⟨rest.shift.load16 (by decide), rest.shift.load16 (by decide)⟩
      by_cases icmp : payload first Iphdr.protocol = ipTypeIcmp
      · rw [if_pos icmp] at agree
        obtain ⟨source, dest⟩ := addresses agree
        rw [if_pos icmp, if_pos icmp, source, dest]
      · rw [if_neg icmp, if_neg icmp]
        rw [if_neg icmp] at agree
        by_cases flow : payload first Iphdr.protocol = ipTypeTcp ∨
            payload first Iphdr.protocol = ipTypeUdp
        · rw [if_pos flow] at agree
          obtain ⟨source, dest⟩ := addresses (agree.mono (by decide))
          obtain ⟨portSource, portDest⟩ := ports agree
          rw [source, dest, portSource, portDest]
        · rw [not_or] at flow
          rw [if_neg flow.1, if_neg flow.1, if_neg flow.2, if_neg flow.2]

theorem packoutLldp_agree
    (agree : Memory.Agree
      (if payload first AnimHeader.type = animNode then
        32 + AnimHeader.size + NetNodeWire.portNo + 2
      else 32 + AnimHeader.type + 1) first second) :
    packoutLldp env first packet s = packoutLldp env second packet s := by
  have type : payload first AnimHeader.type = payload second AnimHeader.type := by
    have front : Memory.Agree (32 + 1) first second := agree.mono (by split <;> decide)
    exact payload_agree front _ (by decide)
  unfold packoutLldp
  simp only [← type]
  by_cases node : payload first AnimHeader.type = animNode
  · rw [if_pos node] at agree
    have front : Memory.Agree (32 + (4 + 10)) first second := agree
    have here : Memory.Agree 10 ((payload first).shift AnimHeader.size)
        ((payload second).shift AnimHeader.size) := (payload_agree front).shift
    rw [here.load64 (by decide : NetNodeWire.datapathId + 8 ≤ 10),
      here.load16 (by decide : NetNodeWire.portNo + 2 ≤ 10)]
  · simp only [if_neg node]

/-- The Ethernet type from its two octets. -/
theorem packetType_toNat (message : Memory) :
    (parsePacketIn message).type.toNat = 256 * (message 30).toNat + (message 31).toNat := by
  have octets : (message.shift OfpPacketIn.data).slice OfEthernet.type 2 =
      [message 30, message 31] := by
    rw [Memory.slice_shift]
    rfl
  have high := (message 30).toNat_lt
  have low := (message 31).toNat_lt
  show (ntohs ((message.shift OfpPacketIn.data).load16 OfEthernet.type)).toNat = _
  rw [ntohs_load16, octets, UInt16.toNat_ofNat']
  show ((message 31).toNat + 256 * ((message 30).toNat + 256 * 0)) % 65536 = _
  omega

/-- Without one of the four first octets no branch is taken. -/
theorem packetType_other (other : ¬ Branching (first 30)) :
    (parsePacketIn first).type ≠ ip6Data ∧ (parsePacketIn first).type ≠ arpData ∧
      (parsePacketIn first).type ≠ ipData ∧ (parsePacketIn first).type ≠ lldpData := by
  have split := packetType_toNat first
  have low := (first 31).toNat_lt
  have high (octet : UInt8) (type : UInt16) (value : type.toNat / 256 = octet.toNat)
      (branches : Branching octet) : (parsePacketIn first).type ≠ type := by
    intro same
    have octets : (first 30).toNat = octet.toNat := by
      rw [← value, ← same, split]
      omega
    exact other (UInt8.toNat_inj.mp octets ▸ branches)
  exact ⟨high 0x86 _ rfl (by decide), high 0x08 _ rfl (by decide), high 0x08 _ rfl (by decide),
    high 0x88 _ rfl (by decide)⟩

theorem packoutBranch_other (other : ¬ Branching (first 30)) :
    packoutBranch env first (parsePacketIn first) s = some (s, []) := by
  obtain ⟨ip6, arp, ip, lldp⟩ := packetType_other other
  rw [packoutBranch, if_neg ip6, if_neg arp, if_neg ip, if_neg lldp]

theorem packetExtent_other (other : ¬ Branching (first 30)) : packetExtent first = 31 := by
  obtain ⟨-, arp, ip, lldp⟩ := packetType_other other
  have octet : ¬ Branching (first (OfpPacketIn.data + OfEthernet.type)) := other
  unfold packetExtent
  simp only [if_neg arp, if_neg ip, if_neg lldp, if_neg octet]

theorem packetExtent_least (branches : Branching (first 30)) : 32 ≤ packetExtent first := by
  have octet : Branching (first (OfpPacketIn.data + OfEthernet.type)) := branches
  unfold packetExtent
  simp only [if_pos octet]
  split_ifs <;> decide

theorem packetExtent_header (message : Memory) : 31 ≤ packetExtent message := by
  by_cases branches : Branching (message 30)
  · exact le_trans (by decide) (packetExtent_least branches)
  · rw [packetExtent_other branches]

/-- What the branches leave behind depends on the extent only. -/
theorem packoutBranch_agree (agree : Memory.Agree (packetExtent first) first second) :
    packoutBranch env first (parsePacketIn first) s =
      packoutBranch env second (parsePacketIn second) s := by
  by_cases branches : Branching (first 30)
  · have least := packetExtent_least branches
    rw [← parsePacketIn_agree (agree.mono least)]
    unfold packetExtent at agree
    unfold packoutBranch
    simp only at agree
    by_cases ip6 : (parsePacketIn first).type = ip6Data
    · rw [if_pos ip6, if_pos ip6]
    · rw [if_neg ip6, if_neg ip6]
      by_cases arp : (parsePacketIn first).type = arpData
      · rw [if_pos arp] at agree
        rw [if_pos arp, if_pos arp, packoutArp_agree agree]
      · rw [if_neg arp] at agree
        rw [if_neg arp, if_neg arp]
        by_cases ip : (parsePacketIn first).type = ipData
        · rw [if_pos ip] at agree
          rw [if_pos ip, if_pos ip, packoutIp_agree agree]
        · rw [if_neg ip] at agree
          rw [if_neg ip, if_neg ip]
          by_cases lldp : (parsePacketIn first).type = lldpData
          · rw [if_pos lldp] at agree
            rw [if_pos lldp, if_pos lldp, packoutLldp_agree agree]
          · rw [if_neg lldp, if_neg lldp]
  · rw [packetExtent_other branches] at agree
    have same : first 30 = second 30 := agree 30 (by decide)
    rw [packoutBranch_other branches, packoutBranch_other (same ▸ branches)]

/-- A handler does on a message what it does on one that agrees with it. -/
theorem actionPackout_agree {ofBuffer : Nat} (buffer : Memory)
    (agree : Memory.Agree (packetExtent (s.readBuffer.shift ofBuffer))
      (s.readBuffer.shift ofBuffer) (buffer.shift ofBuffer)) :
    actionPackout env ofBuffer (s.rebuffer buffer) =
      (actionPackout env ofBuffer s).map fun outcome =>
        { outcome with ani := outcome.ani.rebuffer buffer } := by
  have xid : (parsePacketIn (buffer.shift ofBuffer)).xid =
      (parsePacketIn (s.readBuffer.shift ofBuffer)).xid := by
    have front := agree.mono (packetExtent_header _)
    exact congrArg ntohl (front.load32 (by decide : OfpHeader.xid + 4 ≤ 31)).symm
  have branch : packoutBranch env ((s.rebuffer buffer).readBuffer.shift ofBuffer)
      (parsePacketIn ((s.rebuffer buffer).readBuffer.shift ofBuffer))
      { s.rebuffer buffer with
        transactionId := (parsePacketIn ((s.rebuffer buffer).readBuffer.shift ofBuffer)).xid } =
      (packoutBranch env (s.readBuffer.shift ofBuffer) (parsePacketIn (s.readBuffer.shift ofBuffer))
        { s with transactionId := (parsePacketIn (s.readBuffer.shift ofBuffer)).xid }).map
          (Sending.rebuffer buffer) := by
    rw [packoutBranch_agree agree, ← packoutBranch_rebuffer, ← xid]
    rfl
  unfold actionPackout
  simp only [branch]
  cases packoutBranch env (s.readBuffer.shift ofBuffer)
      (parsePacketIn (s.readBuffer.shift ofBuffer))
      { s with transactionId := (parsePacketIn (s.readBuffer.shift ofBuffer)).xid } with
  | none => rfl
  | some sending =>
      simp only [Option.map_some]
      show (if sending.1.writeBufferLen < 0 then _ else _) = _
      split <;> rfl

theorem actionHello_agree {ofBuffer : Nat} (buffer : Memory)
    (agree : Memory.Agree (OfpHeader.xid + 4) (s.readBuffer.shift ofBuffer)
      (buffer.shift ofBuffer)) :
    actionHello env ofBuffer (s.rebuffer buffer) =
      { actionHello env ofBuffer s with
        ani := (actionHello env ofBuffer s).ani.rebuffer buffer } := by
  have xid := agree.load32 (by decide : OfpHeader.xid + 4 ≤ OfpHeader.xid + 4)
  unfold actionHello Ani.rebuffer Ani.send
  simp only [← xid]
  split
  · rfl
  · split
    · split
      · rfl
      · split
        · rfl
        · rfl
    · rfl

theorem actionEcho_agree {ofBuffer : Nat} (buffer : Memory)
    (agree : Memory.Agree (OfpHeader.xid + 4) (s.readBuffer.shift ofBuffer)
      (buffer.shift ofBuffer)) :
    actionEcho env ofBuffer (s.rebuffer buffer) =
      { actionEcho env ofBuffer s with
        ani := (actionEcho env ofBuffer s).ani.rebuffer buffer } := by
  have xid := agree.load32 (by decide : OfpHeader.xid + 4 ≤ OfpHeader.xid + 4)
  unfold actionEcho Ani.rebuffer Ani.send
  simp only [← xid]
  split
  · rfl
  · split
    · rfl
    · rfl

theorem addPorts_agree {switchId : UInt64} {rounds index : Nat} {ports : ObjectList SwitchPort}
    (agree : Memory.Agree (OfpSwitchFeatures.ports + OfpPhyPort.size * (index + rounds)) first
      second) :
    addPorts env first switchId rounds index ports =
      addPorts env second switchId rounds index ports := by
  induction rounds generalizing index ports with
  | zero => rfl
  | succ rounds inductionHypothesis =>
      have entry : switchPort first switchId index = switchPort second switchId index := by
        have here : Memory.Agree (OfpSwitchFeatures.ports + OfpPhyPort.size * index + 8) first
            second := by
          apply agree.mono
          show 32 + 48 * index + 8 ≤ 32 + 48 * (index + (rounds + 1))
          omega
        have fields := here.shift
        unfold switchPort Mac.load
        simp only
        rw [fields.load16 (by decide : OfpPhyPort.portNo + 2 ≤ 8)]
        congr 2
        all_goals exact fields _ (by decide)
      unfold addPorts
      rw [entry]
      split
      · rfl
      · apply inductionHypothesis
        rwa [Nat.add_right_comm, Nat.add_assoc index rounds 1]

theorem actionFeaturesReply_agree {ofBuffer : Nat} (buffer : Memory)
    (agree : Memory.Agree
      (OfpSwitchFeatures.size +
        OfpPhyPort.size * (featuresCount (s.readBuffer.shift ofBuffer)).toNat)
      (s.readBuffer.shift ofBuffer) (buffer.shift ofBuffer)) :
    actionFeaturesReply env ofBuffer (s.rebuffer buffer) =
      (actionFeaturesReply env ofBuffer s).map fun outcome =>
        { outcome with ani := outcome.ani.rebuffer buffer } := by
  have fixed : Memory.Agree 32 (s.readBuffer.shift ofBuffer) (buffer.shift ofBuffer) :=
    agree.mono (Nat.le_add_right _ _)
  have xid := fixed.load32 (by decide : OfpHeader.xid + 4 ≤ 32)
  have length := fixed.load16 (by decide : OfpHeader.length + 2 ≤ 32)
  have datapathId := fixed.load64 (by decide : OfpSwitchFeatures.datapathId + 8 ≤ 32)
  have records (switchId : UInt64) : addPorts env (s.readBuffer.shift ofBuffer) switchId
      (portCount (ntohs ((s.readBuffer.shift ofBuffer).load16 OfpHeader.length))).toNat 0 s.ports =
      addPorts env (buffer.shift ofBuffer) switchId
      (portCount (ntohs ((s.readBuffer.shift ofBuffer).load16 OfpHeader.length))).toNat 0
        s.ports := by
    apply addPorts_agree
    rw [Nat.zero_add]
    exact agree
  unfold actionFeaturesReply Ani.rebuffer
  simp only [← xid, ← length, ← datapathId, ← records]
  split
  · rfl
  · split
    · rfl
    · split
      · rfl
      · split
        · rfl
        · unfold sendSwitchConfig Ani.send
          simp only
          split
          · rfl
          · split
            · rfl
            · rfl

end Agreement

/-! ## Rounds on messages that agree -/

theorem extent_header (message : Memory) : OfpHeader.type < extent message := by
  unfold extent
  cases dispatch (message OfpHeader.type) with
  | none => exact Nat.lt_succ_self _
  | some handler =>
      cases handler with
      | hello => exact (by decide : 1 < 8)
      | echo => exact (by decide : 1 < 8)
      | featuresReply => exact lt_of_lt_of_le (by decide : 1 < 32) (Nat.le_add_right _ _)
      | packout => exact lt_of_lt_of_le (by decide : 1 < 31) (packetExtent_header message)

/-- One round depends only on the octets of its extent. -/
theorem handling_agree {env : Env} {s : Ani} {first second : Memory} {position : Nat}
    (agree : Memory.Agree (extent (first.shift position)) (first.shift position)
      (second.shift position)) :
    handling env s first position = handling env s second position := by
  have type : (first.shift position) OfpHeader.type = (second.shift position) OfpHeader.type :=
    agree _ (extent_header _)
  cases chosen : dispatch ((first.shift position) OfpHeader.type) with
  | none => rw [handling_none chosen, handling_none (type ▸ chosen)]
  | some handler =>
      rw [extent, chosen] at agree
      rw [handling_some chosen, handling_some (type ▸ chosen)]
      let facing := s.facing first position
      show ((handle handler env position facing).map _) =
        ((handle handler env position (facing.rebuffer second)).map _)
      have effects {outcome other : Option Outcome}
          (moved : other = outcome.map fun outcome =>
            { outcome with ani := outcome.ani.rebuffer second }) :
          (outcome.map fun outcome => outcome.ani.effect outcome.sent) =
            other.map fun outcome => outcome.ani.effect outcome.sent := by
        rw [moved, Option.map_map]
        rfl
      cases handler with
      | hello =>
          have here : Memory.Agree (OfpHeader.xid + 4) (facing.readBuffer.shift position)
              (second.shift position) := agree
          exact (congrArg (fun outcome : Outcome => some (outcome.ani.effect outcome.sent))
            (actionHello_agree second here)).symm
      | echo =>
          have here : Memory.Agree (OfpHeader.xid + 4) (facing.readBuffer.shift position)
              (second.shift position) := agree
          exact (congrArg (fun outcome : Outcome => some (outcome.ani.effect outcome.sent))
            (actionEcho_agree second here)).symm
      | featuresReply =>
          have here : Memory.Agree
              (OfpSwitchFeatures.size + OfpPhyPort.size *
                (featuresCount (facing.readBuffer.shift position)).toNat)
              (facing.readBuffer.shift position) (second.shift position) := agree
          exact effects (actionFeaturesReply_agree second here)
      | packout =>
          have here : Memory.Agree (packetExtent (facing.readBuffer.shift position))
              (facing.readBuffer.shift position) (second.shift position) := agree
          exact effects (actionPackout_agree second here)

end DAIM.Ani41
