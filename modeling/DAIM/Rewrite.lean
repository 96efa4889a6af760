import DAIM.Ani1.Packout
import DAIM.Ani41.FlowMods

/-!
# Version 4 against version 1

The packets that both versions of `action_packout` answer, and where the
rewrite of the in-line assignments as calls of the encoders kept the answer.
-/

namespace DAIM.Rewrite

open DAIM.Library DAIM.OpenFlow DAIM.Linked DAIM.Hosts
open DAIM.Ani41 (UnicastArp FlowIp)

/-- An ARP broadcast; an ARP unicast or a packet for which flows are installed,
to a host whose port is recorded; or an IPv4 packet of protocol 255.  All are
complete up to the last field that an answer uses. -/
inductive Answered (hosts : List SwitchHost) (frame : List UInt8) : Prop where
  | arpBroadcast : frameType frame = arpData → frameDst frame = Mac.broadcast →
      42 ≤ frame.length → Answered hosts frame
  | arpUnicast : UnicastArp frame → portOf hosts (frameDst frame) ≠ 0 → Answered hosts frame
  | ip : FlowIp frame → (frameProto frame ≠ ipTypeIcmp → 38 ≤ frame.length) →
      portOf hosts (frameDst frame) ≠ 0 → Answered hosts frame
  | unknown : frameType frame = ipData → frameProto frame = ipProtoUnknown →
      34 ≤ frame.length → Answered hosts frame

/-- A controller of each version, with the same intact hosts table and the
same message at the offset that `action_packout` is called with. -/
structure Twins (old : Ani1.Ani) (oldOffset : Nat) (new : Ani41.Ani) (newOffset : Nat)
    (hosts : List SwitchHost) (bytes : List UInt8) : Prop where
  oldHosts : ∃ cells, old.hosts.Holds cells ∧ cells.map Prod.snd = hosts
  newHosts : ∃ cells, new.hosts.Holds cells ∧ cells.map Prod.snd = hosts
  newLists : ∃ tables, new.Shows tables
  oldStarts : (old.readBuffer.shift oldOffset).Starts bytes
  newStarts : (new.readBuffer.shift newOffset).Starts bytes

/-- The low octet of the operation of an ARP frame. -/
def frameOp (frame : List UInt8) : UInt8 := (be16 frame (OfEthernet.size + Arp.op)).toUInt8

/-- The ports of an IPv4 frame, 20 octets behind its Ethernet header. -/
def framePortSrc (frame : List UInt8) : UInt16 :=
  be16 frame (OfEthernet.size + (Iphdr.size + Transport.source))

def framePortDst (frame : List UInt8) : UInt16 :=
  be16 frame (OfEthernet.size + (Iphdr.size + Transport.dest))

/-- The frame has zeros where the versions differ: version 4 loses the
operation of a unicast ARP packet, and version 1 the ports of a UDP packet. -/
structure Kept (frame : List UInt8) : Prop where
  arp : UnicastArp frame → frameOp frame = 0
  udp : FlowIp frame → frameProto frame = ipTypeUdp →
    framePortSrc frame = 0 ∧ framePortDst frame = 0

/-! ## What both versions read -/

section Reads

variable {left right : Memory} {bytes : List UInt8}
variable (leftStarts : left.Starts bytes) (rightStarts : right.Starts bytes)

include leftStarts rightStarts

theorem parsePacketIn_same (complete : 32 ≤ bytes.length) :
    parsePacketIn left = parsePacketIn right := by
  rw [parsePacketIn_eq leftStarts complete, parsePacketIn_eq rightStarts complete]

theorem ntohl_same (offset : Nat) (complete : 32 + offset + 4 ≤ bytes.length) :
    ntohl ((payload left).load32 offset) = ntohl ((payload right).load32 offset) := by
  rw [payload_ntohl leftStarts complete, payload_ntohl rightStarts complete]

theorem ntohs_same (offset : Nat) (complete : 32 + offset + 2 ≤ bytes.length) :
    ntohs ((payload left).load16 offset) = ntohs ((payload right).load16 offset) := by
  rw [payload_ntohs leftStarts complete, payload_ntohs rightStarts complete]

theorem octet_same {index : Nat} (complete : 32 + index < bytes.length) :
    payload left index = payload right index := by
  rw [payload_octet leftStarts complete, payload_octet rightStarts complete]

/-- The flows for an IPv4 packet differ in the ports of UDP. -/
theorem ipFlow_same_iff (ip : FlowIp (packetInFrame bytes))
    (ports : frameProto (packetInFrame bytes) ≠ ipTypeIcmp → 56 ≤ bytes.length) (port : UInt16) :
    Ani1.ipFlow left port = ipFlow right port ↔
      (frameProto (packetInFrame bytes) = ipTypeUdp →
        framePortSrc (packetInFrame bytes) = 0 ∧ framePortDst (packetInFrame bytes) = 0) := by
  have frameLength := length_packetInFrame bytes
  have complete := ip.complete
  have source := ntohl_same leftStarts rightStarts Iphdr.saddr (by show 32 + 12 + 4 ≤ _; omega)
  have target := ntohl_same leftStarts rightStarts Iphdr.daddr (by show 32 + 16 + 4 ≤ _; omega)
  have same : payload left Iphdr.protocol = payload right Iphdr.protocol :=
    octet_same leftStarts rightStarts (by show 32 + 9 < _; omega)
  have protocol : payload right Iphdr.protocol = frameProto (packetInFrame bytes) :=
    payload_octet rightStarts (by show 32 + 9 < _; omega)
  have packet := parsePacketIn_same leftStarts rightStarts (by omega)
  unfold Ani1.ipFlow ipFlow
  simp only [source, target, same, protocol, packet, Memory.load16_shift]
  by_cases icmp : frameProto (packetInFrame bytes) = ipTypeIcmp
  · simp only [icmp, reduceIte, show ipTypeIcmp ≠ ipTypeTcp by decide,
      show ipTypeIcmp ≠ ipTypeUdp by decide, false_implies]
  · have long := ports icmp
    have portSrc := payload_ntohs rightStarts
      (show 32 + (Iphdr.size + Transport.source) + 2 ≤ _ by show 32 + (20 + 0) + 2 ≤ _; omega)
    have portDst := payload_ntohs rightStarts
      (show 32 + (Iphdr.size + Transport.dest) + 2 ≤ _ by show 32 + (20 + 2) + 2 ≤ _; omega)
    rcases ip.protocol with isIcmp | tcp | udp
    · exact absurd isIcmp icmp
    · have samePortSrc := ntohs_same leftStarts rightStarts (Iphdr.size + Transport.source)
        (by show 32 + (20 + 0) + 2 ≤ _; omega)
      have samePortDst := ntohs_same leftStarts rightStarts (Iphdr.size + Transport.dest)
        (by show 32 + (20 + 2) + 2 ≤ _; omega)
      simp only [tcp, reduceIte, samePortSrc, samePortDst, show ipTypeTcp ≠ ipTypeIcmp by decide,
        show ipTypeTcp ≠ ipTypeUdp by decide, false_implies]
    · simp only [udp, reduceIte, show ipTypeUdp ≠ ipTypeTcp by decide,
        show ipTypeUdp ≠ ipTypeIcmp by decide, true_implies, portSrc, portDst]
      constructor
      · intro flows
        have tpSrc := congrArg (fun flow => flow.fields.tpSrc) flows
        have tpDst := congrArg (fun flow => flow.fields.tpDst) flows
        exact ⟨tpSrc.symm, tpDst.symm⟩
      · rintro ⟨noSrc, noDst⟩
        unfold framePortSrc at noSrc
        unfold framePortDst at noDst
        rw [noSrc, noDst]

/-- The flows for an ARP packet differ in the protocol. -/
theorem arpFlow_same_iff (complete : 60 ≤ bytes.length) (port : UInt16) :
    Ani1.arpFlow left port = Ani41.arpFlow right port ↔ frameOp (packetInFrame bytes) = 0 := by
  have source := ntohl_same leftStarts rightStarts Arp.ipSource (by show 32 + 14 + 4 ≤ _; omega)
  have target := ntohl_same leftStarts rightStarts Arp.ipDest (by show 32 + 24 + 4 ≤ _; omega)
  have packet := parsePacketIn_same leftStarts rightStarts (by omega)
  have op : (ntohs ((payload left).load16 Arp.op)).toUInt8 = frameOp (packetInFrame bytes) := by
    rw [payload_ntohs leftStarts (by show 32 + 6 + 2 ≤ _; omega)]
    rfl
  unfold Ani1.arpFlow Ani41.arpFlow arpSource arpTarget
  rw [source, target, packet, op]
  constructor
  · intro flows
    exact congrArg (fun flow => flow.fields.nwProto) flows
  · intro zero
    rw [zero]

end Reads

/-! ## The answers -/

/-- Learning does not change the port of a known host. -/
theorem portOf_hostsAfter {hosts : List SwitchHost} {mac : Mac} (known : portOf hosts mac ≠ 0)
    (allocated : Bool) (switchId : UInt64) (message : Memory) :
    portOf (Ani1.hostsAfter allocated switchId message hosts) mac = portOf hosts mac := by
  unfold Ani1.hostsAfter
  split
  · exact portOf_insertNew known
  · rfl

/-- Both versions learn the same. -/
theorem packout_hosts (allocated : Bool) (switchId : UInt64) (message : Memory)
    (tables : Ani41.Tables) :
    (tables.packout allocated switchId message).hosts =
      Ani1.hostsAfter allocated switchId message tables.hosts := by
  unfold Ani41.Tables.packout Ani1.hostsAfter
  cases allocated <;> simp

section Twins

variable {old : Ani1.Ani} {new : Ani41.Ani} {oldOffset newOffset : Nat}
variable {hosts : List SwitchHost} {bytes : List UInt8}

theorem Answered.complete (answered : Answered hosts (packetInFrame bytes)) :
    52 ≤ bytes.length ∧ (frameType (packetInFrame bytes) = arpData → 60 ≤ bytes.length) := by
  have frameLength := length_packetInFrame bytes
  cases answered with
  | arpBroadcast _ _ complete => omega
  | arpUnicast unicast _ =>
      have complete := unicast.complete
      omega
  | ip flow _ _ =>
      have complete := flow.complete
      have notArp : frameType (packetInFrame bytes) ≠ arpData :=
        ne_of_eq_of_ne flow.type (by decide)
      exact ⟨by omega, fun arp => absurd arp notArp⟩
  | unknown ip _ complete =>
      have notArp : frameType (packetInFrame bytes) ≠ arpData := ne_of_eq_of_ne ip (by decide)
      exact ⟨by omega, fun arp => absurd arp notArp⟩

theorem Answered.type (answered : Answered hosts (packetInFrame bytes)) :
    frameType (packetInFrame bytes) = arpData ∨ frameType (packetInFrame bytes) = ipData := by
  cases answered with
  | arpBroadcast arp _ _ => exact .inl arp
  | arpUnicast unicast _ => exact .inl unicast.type
  | ip flow _ _ => exact .inr flow.type
  | unknown ip _ _ => exact .inr ip

theorem encode_inj {left right : FlowMod} (leftOne : left.actions.length = 1)
    (rightOne : right.actions.length = 1) : left.encode = right.encode ↔ left = right := by
  constructor
  · intro same
    have decoded : FlowMod.decode left.encode = some left := FlowMod.decode_encode (by omega)
    rw [same, FlowMod.decode_encode (by omega)] at decoded
    exact (Option.some.inj decoded).symm
  · intro same
    rw [same]

/-- The answers to one message when both tables keep the ports of `hosts`. -/
theorem answers_same_iff {left right : Memory} (leftStarts : left.Starts bytes)
    (rightStarts : right.Starts bytes) (answered : Answered hosts (packetInFrame bytes))
    {known learned : List SwitchHost} (cbench : Bool)
    (knownPort : ∀ mac, portOf hosts mac ≠ 0 → portOf known mac = portOf hosts mac)
    (learnedPort : ∀ mac, portOf hosts mac ≠ 0 → portOf learned mac = portOf hosts mac) :
    (Ani1.answer known left).bytes = (Ani41.answer cbench learned right).bytes ↔
      Kept (packetInFrame bytes) := by
  obtain ⟨long, arpLong⟩ := answered.complete
  have frameLength := length_packetInFrame bytes
  have packet := parsePacketIn_same leftStarts rightStarts (by omega)
  have parsed := parsePacketIn_eq rightStarts (by omega)
  have type : (parsePacketIn right).type = frameType (packetInFrame bytes) := by rw [parsed]
  have dst : (parsePacketIn right).dst = frameDst (packetInFrame bytes) := by rw [parsed]
  have protocol : payload right Iphdr.protocol = frameProto (packetInFrame bytes) :=
    payload_octet rightStarts (by show 32 + 9 < _; omega)
  have sameProtocol : payload left Iphdr.protocol = payload right Iphdr.protocol :=
    octet_same leftStarts rightStarts (by show 32 + 9 < _; omega)
  have notUnicast (ip : frameType (packetInFrame bytes) = ipData) :
      ¬ UnicastArp (packetInFrame bytes) := by
    intro unicast
    exact absurd (unicast.type.symm.trans ip) (by decide)
  have notIp (arp : frameType (packetInFrame bytes) = arpData) :
      ¬ FlowIp (packetInFrame bytes) := by
    intro flow
    exact absurd (flow.type.symm.trans arp) (by decide)
  cases answered with
  | arpBroadcast arp broadcast _ =>
      have rightArp : IsArp right := type.trans arp
      have leftArp : IsArp left := (congrArg PacketIn.type packet).trans rightArp
      rw [Ani1.answer_of_arp known leftArp, Ani41.answer_of_arp cbench learned rightArp, packet,
        if_pos (dst.trans broadcast), if_pos (dst.trans broadcast)]
      exact ⟨fun _ => ⟨fun unicast => absurd broadcast unicast.unicast,
        fun flow => absurd flow (notIp arp)⟩, fun _ => rfl⟩
  | arpUnicast unicast port =>
      have rightArp : IsArp right := type.trans unicast.type
      have leftArp : IsArp left := (congrArg PacketIn.type packet).trans rightArp
      have notBroadcast : (parsePacketIn right).dst ≠ Mac.broadcast := dst ▸ unicast.unicast
      rw [Ani1.answer_of_arp known leftArp, Ani41.answer_of_arp cbench learned rightArp, packet,
        if_neg notBroadcast, if_neg notBroadcast, dst, knownPort _ port, learnedPort _ port,
        Ani41.flowOr, if_pos port]
      unfold Answer.bytes
      rw [List.singleton_inj, encode_inj rfl rfl,
        arpFlow_same_iff leftStarts rightStarts (arpLong unicast.type)]
      exact ⟨fun zero => ⟨fun _ => zero, fun flow => absurd flow (notIp unicast.type)⟩,
        fun kept => kept.arp unicast⟩
  | ip flow ports port =>
      have rightIp := type.trans flow.type
      have leftIp := (congrArg PacketIn.type packet).trans rightIp
      have flowProtocol : FlowProtocol (payload right Iphdr.protocol) := protocol ▸ flow.protocol
      have portsInside : frameProto (packetInFrame bytes) ≠ ipTypeIcmp → 56 ≤ bytes.length := by
        intro notIcmp
        have complete := ports notIcmp
        omega
      rw [Ani1.answer_of_ip known leftIp, Ani41.answer_of_ip cbench learned rightIp, sameProtocol,
        packet, if_pos flowProtocol, if_pos flowProtocol, dst, knownPort _ port,
        learnedPort _ port, Ani41.flowOr, if_pos port]
      unfold Answer.bytes
      rw [List.singleton_inj, encode_inj rfl rfl,
        ipFlow_same_iff leftStarts rightStarts flow portsInside]
      exact ⟨fun zero => ⟨fun unicast => absurd unicast (notUnicast flow.type), fun _ => zero⟩,
        fun kept => kept.udp flow⟩
  | unknown ip unknownProtocol _ =>
      have rightIp := type.trans ip
      have leftIp := (congrArg PacketIn.type packet).trans rightIp
      have isUnknown := protocol.trans unknownProtocol
      have notFlow : ¬ FlowProtocol (payload right Iphdr.protocol) := by
        rw [isUnknown]
        decide
      rw [Ani1.answer_of_ip known leftIp, Ani41.answer_of_ip cbench learned rightIp, sameProtocol,
        packet, if_neg notFlow, if_neg notFlow, if_pos isUnknown]
      exact ⟨fun _ => ⟨fun unicast => absurd unicast (notUnicast ip),
        fun flow => absurd (protocol ▸ flow.protocol) notFlow⟩, fun _ => rfl⟩

/-- Version 4 returns on these packets when its hosts table is intact. -/
theorem new_returns (twins : Twins old oldOffset new newOffset hosts bytes)
    (answered : Answered hosts (packetInFrame bytes)) (env : Env) :
    ∃ outcome, Ani41.actionPackout env newOffset new = some outcome := by
  obtain ⟨cells, intact, -⟩ := twins.newHosts
  obtain ⟨tables, shows⟩ := twins.newLists
  have long : 32 ≤ bytes.length := Nat.le_trans (by decide) answered.complete.1
  have type : (parsePacketIn (new.readBuffer.shift newOffset)).type =
      frameType (packetInFrame bytes) := by rw [parsePacketIn_eq twins.newStarts long]
  have started : Ani41.Ani.Shows
      { new with transactionId := (parsePacketIn (new.readBuffer.shift newOffset)).xid } tables :=
    ⟨shows.hosts, shows.ports, shows.links, shows.swReplys⟩
  cases called : Ani41.actionPackout env newOffset new with
  | some outcome => exact ⟨outcome, rfl⟩
  | none =>
      exfalso
      unfold Ani41.actionPackout at called
      simp only at called
      split at called
      · rename_i stuck
        rcases answered.type with arp | ip
        · have isArp := type.trans arp
          have notIp6 := ne_of_eq_of_ne isArp (show arpData ≠ ip6Data by decide)
          rw [Ani41.packoutBranch, if_neg notIp6, if_pos isArp] at stuck
          have unlearned := Ani41.packoutArp_none started stuck
          obtain ⟨learned, learns⟩ := learn_returns intact env
            (hostEntry new.switchId (new.readBuffer.shift newOffset))
          unfold hostEntry at learns
          rw [Ani41.learnHost, learns] at unlearned
          cases unlearned
        · have isIp := type.trans ip
          have notIp6 := ne_of_eq_of_ne isIp (show ipData ≠ ip6Data by decide)
          have notArp := ne_of_eq_of_ne isIp (show ipData ≠ arpData by decide)
          rw [Ani41.packoutBranch, if_neg notIp6, if_neg notArp, if_pos isIp] at stuck
          exact Ani41.packoutIp_returns started stuck
      · split at called <;> cases called

/-- Both versions return, and answer with the same table of hosts. -/
theorem both_answer (twins : Twins old oldOffset new newOffset hosts bytes)
    (answered : Answered hosts (packetInFrame bytes)) (oldEnv newEnv : Env) :
    ∃ first second, Ani1.actionPackout oldEnv oldOffset old = some first ∧
      Ani41.actionPackout newEnv newOffset new = some second ∧
      first.sent = (Ani1.answer
        (Ani1.hostsAfter (oldEnv.allocated 0) old.switchId (old.readBuffer.shift oldOffset) hosts)
        (old.readBuffer.shift oldOffset)).bytes ∧
      second.sent = (Ani41.answer new.cbench
        (Ani1.hostsAfter (newEnv.allocated 0) new.switchId (new.readBuffer.shift newOffset) hosts)
        (new.readBuffer.shift newOffset)).bytes := by
  obtain ⟨cells, intact, records⟩ := twins.oldHosts
  obtain ⟨newCells, newIntact, newRecords⟩ := twins.newHosts
  obtain ⟨tables, shows⟩ := twins.newLists
  obtain ⟨first, firstCalled, -, firstSent⟩ := Ani1.actionPackout_spec intact oldEnv oldOffset
  obtain ⟨second, secondCalled⟩ := new_returns twins answered newEnv
  have secondSent := (Ani41.actionPackout_spec shows secondCalled).1.sent
  have sound : new.hosts.Sound hosts := .inl ⟨newCells, newIntact, newRecords⟩
  have same : tables.hosts = hosts := shows.hosts.contents_eq.symm.trans sound.contents_eq
  rw [packout_hosts, same] at secondSent
  rw [records] at firstSent
  exact ⟨first, second, firstCalled, secondCalled, firstSent, secondSent⟩

/-- On the packets that both versions answer, they pass the same octets to
`send` exactly when the frame has zeros where they differ. -/
theorem rewrite_sends_same_iff (twins : Twins old oldOffset new newOffset hosts bytes)
    (answered : Answered hosts (packetInFrame bytes)) (oldEnv newEnv : Env) :
    ∃ first second, Ani1.actionPackout oldEnv oldOffset old = some first ∧
      Ani41.actionPackout newEnv newOffset new = some second ∧
      (first.sent = second.sent ↔ Kept (packetInFrame bytes)) := by
  obtain ⟨first, second, firstCalled, secondCalled, firstSent, secondSent⟩ :=
    both_answer twins answered oldEnv newEnv
  refine ⟨first, second, firstCalled, secondCalled, ?_⟩
  rw [firstSent, secondSent]
  apply answers_same_iff twins.oldStarts twins.newStarts answered
  · intro mac known
    exact portOf_hostsAfter known _ _ _
  · intro mac known
    exact portOf_hostsAfter known _ _ _

end Twins

/-! ## One known host -/

def knownHost : SwitchHost := ⟨0, 1, Ani41.hostA, 0x0a000001⟩

/-- Both versions know one host and have received the message. -/
theorem knownHost_twins (bytes : List UInt8) :
    ∃ old new, Twins old 0 new 0 [knownHost] bytes := by
  obtain ⟨hosts, -, holds, -⟩ := (ObjectList.holds_empty).addFilled_eq knownHost
  have starts : ((Memory.ofList bytes Memory.zero).shift 0).Starts bytes := by
    rw [Memory.shift_zero]
    exact Memory.starts_ofList bytes Memory.zero
  let old : Ani1.Ani := ⟨hosts, Memory.ofList bytes Memory.zero, Memory.zero, 0, 0, 0, []⟩
  let new : Ani41.Ani :=
    { Ani41.Ani.initial false with hosts, readBuffer := Memory.ofList bytes Memory.zero }
  have sound : hosts.Sound [knownHost] := .inl ⟨_, holds, rfl⟩
  have shows := Ani41.Ani.initial_shows false
  exact ⟨old, new, ⟨_, holds, rfl⟩, ⟨_, holds, rfl⟩,
    ⟨⟨_, [], [], []⟩, sound, shows.ports, shows.links, shows.swReplys⟩, starts, starts⟩

theorem knownHost_arp : Answered [knownHost] (packetInFrame (Ani41.arpReport 3 Ani41.hostA
    Ani41.hostB)) :=
  .arpUnicast ⟨by decide, by decide, by decide⟩ (by decide)

theorem knownHost_icmp : Answered [knownHost] (packetInFrame (Ani41.icmpReport 0 8 0)) :=
  .ip (Ani41.icmpReport_flowIp 0 8 0) (fun notIcmp => absurd rfl notIcmp) (by decide)

/-- A unicast ARP request gets two different answers. -/
theorem arp_rewritten :
    ¬ ∀ old oldOffset new newOffset hosts bytes,
      Twins old oldOffset new newOffset hosts bytes → Answered hosts (packetInFrame bytes) →
      ∀ oldEnv newEnv, ∃ first second, Ani1.actionPackout oldEnv oldOffset old = some first ∧
        Ani41.actionPackout newEnv newOffset new = some second ∧ first.sent = second.sent := by
  intro always
  obtain ⟨old, new, twins⟩ := knownHost_twins (Ani41.arpReport 3 Ani41.hostA Ani41.hostB)
  obtain ⟨first, second, firstCalled, secondCalled, same⟩ :=
    always _ _ _ _ _ _ twins knownHost_arp .calm .calm
  obtain ⟨_, _, oldCalled, newCalled, oldSent, newSent⟩ :=
    both_answer twins knownHost_arp .calm .calm
  rw [firstCalled, Option.some_inj] at oldCalled
  rw [secondCalled, Option.some_inj] at newCalled
  rw [oldCalled, newCalled, oldSent, newSent] at same
  have kept := (answers_same_iff twins.oldStarts twins.newStarts knownHost_arp new.cbench
    (fun _ known => portOf_hostsAfter known _ _ _)
    (fun _ known => portOf_hostsAfter known _ _ _)).mp same
  exact absurd (kept.arp ⟨by decide, by decide, by decide⟩) (by decide)

theorem rewrite_sends_same_iff_icmp :
    ∃ old new, Twins old 0 new 0 [knownHost] (Ani41.icmpReport 0 8 0) ∧
      ∃ first second, Ani1.actionPackout .calm 0 old = some first ∧
        Ani41.actionPackout .calm 0 new = some second ∧
        (first.sent = second.sent ↔ Kept (packetInFrame (Ani41.icmpReport 0 8 0))) := by
  obtain ⟨old, new, twins⟩ := knownHost_twins (Ani41.icmpReport 0 8 0)
  exact ⟨old, new, twins, rewrite_sends_same_iff twins knownHost_icmp .calm .calm⟩

end DAIM.Rewrite
