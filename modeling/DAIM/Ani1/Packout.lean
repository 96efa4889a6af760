import DAIM.Com
import DAIM.PacketIn

/-!
# `action_packout` of version 1

Version 1 fills its messages in line and passes a constant length to `send`.
Its branches assign the same members in the same order; what differs between
them is an argument of `flowMod` here.
-/

namespace DAIM.Ani1

open DAIM.Library DAIM.OpenFlow DAIM.Linked DAIM.Com DAIM.Hosts

/-- The globals of `main.cpp` that `action_packout` uses; of the console only
the hosts that `show_hosts` prints are kept. -/
structure Ani where
  hosts : ObjectList SwitchHost
  readBuffer : Memory
  writeBuffer : Memory
  writeBufferLen : Int
  transactionId : UInt32
  switchId : UInt64
  console : List SwitchHost

/-- The result of `action_packout` with the byte strings it passed to `send`. -/
structure Outcome where
  ani : Ani
  sent : List (List UInt8)
  result : Int

/-- The state after some sends, and the octets sent. -/
abbrev Sending := Ani × List (List UInt8)

/-- The packet of the IPv6, ARP broadcast and unknown protocol branches. -/
def packetOut (packet : PacketIn) (transactionId : UInt32) : Memory :=
  Memory.zero
    |>.store8 OfpHeader.version 1
    |>.store8 OfpHeader.type ofptPacketOut
    |>.store32 OfpHeader.xid (htonl transactionId)
    |>.store32 OfpPacketOut.bufferId (htonl packet.bufferId)
    |>.store16 OfpPacketOut.inPort (htons packet.inPort)
    |>.store16 OfpPacketOut.actionsLen (htons (UInt16.ofNat OfpActionOutput.size))
    |>.store16 (OfpPacketOut.actions + OfpActionOutput.type) (htons ofpatOutput)
    |>.store16 (OfpPacketOut.actions + OfpActionOutput.maxLen) (htons 0)
    |>.store16 (OfpPacketOut.actions + OfpActionOutput.len) (htons 8)
    |>.store16 (OfpPacketOut.actions + OfpActionOutput.port) (htons 65531)
    |>.store16 OfpHeader.length (htons (UInt16.ofNat (OfpPacketOut.size + OfpActionOutput.size)))

/-- The flow modification of the four unicast branches. -/
def flowMod (packet : PacketIn) (transactionId ipSrc ipDst : UInt32) (portSrc portDst : UInt16)
    (nwProto : UInt8) (dlType outPort : UInt16) : Memory :=
  Memory.zero
    |>.store8 OfpHeader.version 1
    |>.store16 OfpHeader.length (htons (UInt16.ofNat (OfpFlowMod.size + OfpActionOutput.size)))
    |>.store8 OfpHeader.type ofptFlowMod
    |>.store32 OfpHeader.xid (htonl transactionId)
    |>.store16 (OfpFlowMod.fields + OfpMatch.inPort) (htons packet.inPort)
    |>.store32 (OfpFlowMod.fields + OfpMatch.wildcards) (htonl 0)
    |>.store (OfpFlowMod.fields + OfpMatch.dlSrc) packet.src.octets
    |>.store (OfpFlowMod.fields + OfpMatch.dlDst) packet.dst.octets
    |>.store16 (OfpFlowMod.fields + OfpMatch.dlVlan) (htons 65535)
    |>.store8 (OfpFlowMod.fields + OfpMatch.dlVlanPcp) (htons 0).toUInt8
    |>.store8 (OfpFlowMod.fields + OfpMatch.nwProto) nwProto
    |>.store32 (OfpFlowMod.fields + OfpMatch.nwDst) (htonl ipDst)
    |>.store32 (OfpFlowMod.fields + OfpMatch.nwSrc) (htonl ipSrc)
    |>.store16 (OfpFlowMod.fields + OfpMatch.dlType) (htons dlType)
    |>.store64 OfpFlowMod.cookie (htobe64 0)
    |>.store16 OfpFlowMod.command (htons ofpfcAdd)
    |>.store32 OfpFlowMod.bufferId (htonl packet.bufferId)
    |>.store16 OfpFlowMod.idleTimeout (htons 60)
    |>.store16 OfpFlowMod.hardTimeout (htons 0)
    |>.store16 OfpFlowMod.priority (htons 0)
    |>.store16 OfpFlowMod.outPort (htons 0)
    |>.store16 OfpFlowMod.flags (htons 0)
    |>.store8 (OfpFlowMod.fields + OfpMatch.nwTos) 0
    |>.store8 (OfpFlowMod.fields + OfpMatch.pad1) 0
    |>.store8 (OfpFlowMod.fields + OfpMatch.pad2) 0
    |>.store8 (OfpFlowMod.fields + OfpMatch.pad2 + 1) 0
    |>.store16 (OfpFlowMod.fields + OfpMatch.tpDst) (htons portDst)
    |>.store16 (OfpFlowMod.fields + OfpMatch.tpSrc) (htons portSrc)
    |>.store16 (OfpFlowMod.actions + OfpActionOutput.type) (htons ofpatOutput)
    |>.store16 (OfpFlowMod.actions + OfpActionOutput.maxLen) (htons 0)
    |>.store16 (OfpFlowMod.actions + OfpActionOutput.len) (htons 8)
    |>.store16 (OfpFlowMod.actions + OfpActionOutput.port) (htons outPort)

/-- `write_buffer_len = send (sw_sockfd, write_buffer, length, 0)`. -/
def send (env : Env) (buffer : Memory) (length : Nat) (s : Ani) : Sending :=
  ({ s with writeBuffer := buffer, writeBufferLen := env.sendResult 0 }, [buffer.slice 0 length])

def sendFlood (env : Env) (packet : PacketIn) (s : Ani) : Sending :=
  send env (packetOut packet s.transactionId) (OfpPacketOut.size + OfpActionOutput.size) s

def sendFlowMod (env : Env) (packet : PacketIn) (ipSrc ipDst : UInt32) (portSrc portDst : UInt16)
    (nwProto : UInt8) (dlType outPort : UInt16) (s : Ani) : Sending :=
  send env (flowMod packet s.transactionId ipSrc ipDst portSrc portDst nwProto dlType outPort)
    (OfpFlowMod.size + OfpActionOutput.size) s

def packoutArp (env : Env) (message : Memory) (packet : PacketIn) (s : Ani) : Option Sending :=
  let arp := payload message
  let ipSrc := ntohl (arp.load32 Arp.ipSource)
  let ipDst := ntohl (arp.load32 Arp.ipDest)
  match learn env s.hosts
      { datapathId := s.switchId, portNo := packet.inPort, macAddr := packet.src,
        ipAddr := ipSrc } with
  | none => none
  | some (hosts, printed) =>
      let s := { s with hosts := hosts, console := s.console ++ printed }
      if packet.dst = Mac.broadcast then
        some (sendFlood env packet s)
      else
        match lookup s.hosts packet.dst with
        | none => none
        | some (hosts, outPort) =>
            let op : UInt8 := (ntohs (arp.load16 Arp.op)).toUInt8
            -- sent for an unknown destination too, with port 0
            some (sendFlowMod env packet ipSrc ipDst 0 0 op arpData outPort
              { s with hosts := hosts })

def packoutIp (env : Env) (message : Memory) (packet : PacketIn) (s : Ani) : Option Sending :=
  match lookup s.hosts packet.dst with
  | none => none
  | some (hosts, outPort) =>
      let s := { s with hosts := hosts }
      let ip := payload message
      let ipSrc := ntohl (ip.load32 Iphdr.saddr)
      let ipDst := ntohl (ip.load32 Iphdr.daddr)
      let protocol := ip Iphdr.protocol
      let transport := ip.shift Iphdr.size
      let portSrc := ntohs (transport.load16 Transport.source)
      let portDst := ntohs (transport.load16 Transport.dest)
      if protocol = ipTypeIcmp then
        some (sendFlowMod env packet ipSrc ipDst 0 0 ipTypeIcmp ipData outPort s)
      else if protocol = ipTypeTcp then
        some (sendFlowMod env packet ipSrc ipDst portSrc portDst ipTypeTcp ipData outPort s)
      else if protocol = ipTypeUdp then
        -- assigns the ports of the TCP branch, which are still 0
        some (sendFlowMod env packet ipSrc ipDst 0 0 ipTypeUdp ipData outPort s)
      else if protocol = ipProtoUnknown then
        some (sendFlood env packet s)
      else
        some (s, [])

def packoutBranch (env : Env) (message : Memory) (packet : PacketIn) (s : Ani) :
    Option Sending :=
  if packet.type = ip6Data then
    some (sendFlood env packet s)
  else if packet.type = arpData then
    packoutArp env message packet s
  else if packet.type = ipData then
    packoutIp env message packet s
  else
    some (s, [])

def actionPackout (env : Env) (ofBuffer : Nat) (s : Ani) : Option Outcome :=
  let message := s.readBuffer.shift ofBuffer
  let packet := parsePacketIn message
  match packoutBranch env message packet { s with transactionId := packet.xid } with
  | none => none
  | some (s, sent) =>
      if s.writeBufferLen < 0 then
        some ⟨s, sent, -1⟩
      else
        some ⟨s, sent, env.fallsOff⟩

/-! ## The answer -/

/-- The flow that answers a unicast ARP packet: its protocol is the operation. -/
def arpFlow (message : Memory) (port : UInt16) : FlowMod :=
  flowAnswer (parsePacketIn message) (arpSource message) (arpTarget message) 0 0
    (ntohs ((payload message).load16 Arp.op)).toUInt8 arpData port

/-- The flow that answers an IPv4 packet: only TCP packets have ports in it. -/
def ipFlow (message : Memory) (port : UInt16) : FlowMod :=
  let ip := payload message
  let transport := ip.shift Iphdr.size
  let tcp := ip Iphdr.protocol = ipTypeTcp
  flowAnswer (parsePacketIn message) (ntohl (ip.load32 Iphdr.saddr)) (ntohl (ip.load32 Iphdr.daddr))
    (if tcp then ntohs (transport.load16 Transport.source) else 0)
    (if tcp then ntohs (transport.load16 Transport.dest) else 0)
    (ip Iphdr.protocol) ipData port

/-- The hosts known after a message. -/
def hostsAfter (allocated : Bool) (switchId : UInt64) (message : Memory)
    (hosts : List SwitchHost) : List SwitchHost :=
  if allocated ∧ IsArp message then
    insertNew SwitchHost.macAddr hosts (hostEntry switchId message)
  else
    hosts

/-- The answer to a message when the given hosts are known. -/
def answer (hosts : List SwitchHost) (message : Memory) : Answer :=
  let packet := parsePacketIn message
  let port := portOf hosts packet.dst
  let protocol := payload message Iphdr.protocol
  if packet.type = ip6Data then
    .packetOut (floodAnswer packet)
  else if packet.type = arpData then
    if packet.dst = Mac.broadcast then .packetOut (floodAnswer packet)
    else .flowMod (arpFlow message port)
  else if packet.type = ipData then
    if FlowProtocol protocol then .flowMod (ipFlow message port)
    else if protocol = ipProtoUnknown then .packetOut (floodAnswer packet)
    else .silent
  else .silent

theorem answer_of_arp {message : Memory} (hosts : List SwitchHost) (arp : IsArp message) :
    answer hosts message =
      if (parsePacketIn message).dst = Mac.broadcast then
        .packetOut (floodAnswer (parsePacketIn message))
      else .flowMod (arpFlow message (portOf hosts (parsePacketIn message).dst)) := by
  have notIp6 : (parsePacketIn message).type ≠ ip6Data := ne_of_eq_of_ne arp (by decide)
  have isArp : (parsePacketIn message).type = arpData := arp
  unfold answer
  simp only [if_neg notIp6, if_pos isArp]

theorem answer_of_ip {message : Memory} (hosts : List SwitchHost)
    (ip : (parsePacketIn message).type = ipData) :
    answer hosts message =
      if FlowProtocol (payload message Iphdr.protocol) then
        .flowMod (ipFlow message (portOf hosts (parsePacketIn message).dst))
      else if payload message Iphdr.protocol = ipProtoUnknown then
        .packetOut (floodAnswer (parsePacketIn message))
      else .silent := by
  have notIp6 : (parsePacketIn message).type ≠ ip6Data := ne_of_eq_of_ne ip (by decide)
  have notArp : (parsePacketIn message).type ≠ arpData := ne_of_eq_of_ne ip (by decide)
  unfold answer
  simp only [if_neg notIp6, if_neg notArp, if_pos ip]

section Branches

variable {env : Env} {message : Memory} {packet : PacketIn} {s : Ani}
variable {hosts : List SwitchHost}

/-- What a branch leaves behind: the hosts known, and the answer. -/
structure Sends (hosts : List SwitchHost) (sending : Sending) (answer : Answer) : Prop where
  hosts : sending.1.hosts.Sound hosts
  sent : sending.2 = answer.bytes

theorem sendFlood_spec (env : Env) (sound : s.hosts.Sound hosts)
    (xid : s.transactionId = packet.xid) :
    Sends hosts (sendFlood env packet s) (.packetOut (floodAnswer packet)) := by
  refine ⟨sound, ?_⟩
  have widths : OfpPacketOut.size + OfpActionOutput.size =
      [1, 1, 2, 4, 4, 2, 2, 2, 2, 2, 2].sum := rfl
  unfold sendFlood send
  rw [widths, Memory.slice_sum, xid]
  unfold Answer.bytes PacketOut.encode floodAnswer
  simp only [List.length_cons, List.length_nil, List.flatMap_cons, List.flatMap_nil,
    ActionOutput.encode, ← octets_htons, ← octets_htonl]
  rfl

theorem sendFlowMod_spec (env : Env) (sound : s.hosts.Sound hosts)
    (xid : s.transactionId = packet.xid) (nwSrc nwDst : UInt32) (tpSrc tpDst : UInt16)
    (nwProto : UInt8) (dlType outPort : UInt16) :
    Sends hosts (sendFlowMod env packet nwSrc nwDst tpSrc tpDst nwProto dlType outPort s)
      (.flowMod (flowAnswer packet nwSrc nwDst tpSrc tpDst nwProto dlType outPort)) := by
  refine ⟨sound, ?_⟩
  have widths : OfpFlowMod.size + OfpActionOutput.size =
      [1, 1, 2, 4, 4, 2, 6, 6, 2, 1, 1, 2, 1, 1, 1, 1, 4, 4, 2, 2, 8, 2, 2, 2, 2, 4, 2, 2,
        2, 2, 2, 2].sum := rfl
  unfold sendFlowMod send
  rw [widths, Memory.slice_sum, xid]
  unfold Answer.bytes FlowMod.encode Match.encode flowAnswer
  simp only [List.length_cons, List.length_nil, List.flatMap_cons, List.flatMap_nil,
    ActionOutput.encode, ← octets_htons, ← octets_htonl, ← octets_htobe64]
  rfl

theorem packoutArp_spec {cells : List (Addr × SwitchHost)} (intact : s.hosts.Holds cells)
    (records : cells.map Prod.snd = hosts) (arp : IsArp message)
    (xid : s.transactionId = (parsePacketIn message).xid) :
    ∃ sending, packoutArp env message (parsePacketIn message) s = some sending ∧
      Sends (hostsAfter (env.allocated 0) s.switchId message hosts) sending
        (answer (hostsAfter (env.allocated 0) s.switchId message hosts) message) := by
  have sound : s.hosts.Sound hosts := .inl ⟨cells, intact, records⟩
  obtain ⟨⟨learned, printed⟩, learns⟩ := learn_returns intact env (hostEntry s.switchId message)
  have known := learn_spec sound learns
  have after : (if env.allocated 0 then
      insertNew SwitchHost.macAddr hosts (hostEntry s.switchId message) else hosts) =
      hostsAfter (env.allocated 0) s.switchId message hosts := by
    rw [hostsAfter]
    simp only [arp, and_true]
  rw [after] at known
  rw [answer_of_arp _ arp]
  unfold packoutArp
  simp only
  unfold hostEntry arpSource at learns
  rw [learns]
  by_cases broadcast : (parsePacketIn message).dst = Mac.broadcast
  · simp only [if_pos broadcast]
    exact ⟨_, rfl, sendFlood_spec env known xid⟩
  · simp only [if_neg broadcast]
    obtain ⟨moved, found, kept⟩ := lookup_spec known (parsePacketIn message).dst
    rw [found]
    have sameXid : Ani.transactionId { s with hosts := moved, console := s.console ++ printed } =
        (parsePacketIn message).xid := xid
    exact ⟨_, rfl, sendFlowMod_spec env kept sameXid _ _ 0 0 _ arpData _⟩

theorem packoutIp_spec (sound : s.hosts.Sound hosts)
    (xid : s.transactionId = (parsePacketIn message).xid)
    (ip : (parsePacketIn message).type = ipData) :
    ∃ sending, packoutIp env message (parsePacketIn message) s = some sending ∧
      Sends hosts sending (answer hosts message) := by
  obtain ⟨moved, found, kept⟩ := lookup_spec sound (parsePacketIn message).dst
  have sameXid : Ani.transactionId { s with hosts := moved } = (parsePacketIn message).xid := xid
  unfold packoutIp
  rw [answer_of_ip hosts ip]
  simp only [found]
  -- the four protocols in the order of the source
  by_cases icmp : payload message Iphdr.protocol = ipTypeIcmp
  · rw [if_pos icmp, if_pos (.inl icmp), ipFlow]
    simp only [icmp, reduceIte, show ipTypeIcmp ≠ ipTypeTcp by decide]
    exact ⟨_, rfl, sendFlowMod_spec env kept sameXid _ _ 0 0 _ ipData _⟩
  · rw [if_neg icmp]
    by_cases tcp : payload message Iphdr.protocol = ipTypeTcp
    · rw [if_pos tcp, if_pos (.inr (.inl tcp)), ipFlow]
      simp only [tcp, reduceIte]
      exact ⟨_, rfl, sendFlowMod_spec env kept sameXid _ _ _ _ _ ipData _⟩
    · rw [if_neg tcp]
      by_cases udp : payload message Iphdr.protocol = ipTypeUdp
      · rw [if_pos udp, if_pos (.inr (.inr udp)), ipFlow]
        simp only [udp, reduceIte, show ipTypeUdp ≠ ipTypeTcp by decide]
        exact ⟨_, rfl, sendFlowMod_spec env kept sameXid _ _ 0 0 _ ipData _⟩
      · have other : ¬ FlowProtocol (payload message Iphdr.protocol) := by
          rintro (is | is | is)
          · exact icmp is
          · exact tcp is
          · exact udp is
        rw [if_neg udp, if_neg other]
        by_cases unknown : payload message Iphdr.protocol = ipProtoUnknown
        · rw [if_pos unknown, if_pos unknown]
          exact ⟨_, rfl, sendFlood_spec env kept sameXid⟩
        · rw [if_neg unknown, if_neg unknown]
          exact ⟨_, rfl, kept, rfl⟩

theorem packoutBranch_spec (env : Env) {cells : List (Addr × SwitchHost)}
    (intact : s.hosts.Holds cells) (records : cells.map Prod.snd = hosts)
    (xid : s.transactionId = (parsePacketIn message).xid) :
    ∃ sending, packoutBranch env message (parsePacketIn message) s = some sending ∧
      Sends (hostsAfter (env.allocated 0) s.switchId message hosts) sending
        (answer (hostsAfter (env.allocated 0) s.switchId message hosts) message) := by
  have sound : s.hosts.Sound hosts := .inl ⟨cells, intact, records⟩
  by_cases arp : IsArp message
  · have notIp6 : (parsePacketIn message).type ≠ ip6Data := ne_of_eq_of_ne arp (by decide)
    have isArp : (parsePacketIn message).type = arpData := arp
    rw [packoutBranch, if_neg notIp6, if_pos isArp]
    exact packoutArp_spec intact records arp xid
  · have unlearned : hostsAfter (env.allocated 0) s.switchId message hosts = hosts := by
      simp [hostsAfter, arp]
    have notArp : (parsePacketIn message).type ≠ arpData := arp
    rw [unlearned]
    by_cases ip6 : (parsePacketIn message).type = ip6Data
    · rw [packoutBranch, if_pos ip6, answer]
      simp only [if_pos ip6]
      exact ⟨_, rfl, sendFlood_spec env sound xid⟩
    · by_cases ip : (parsePacketIn message).type = ipData
      · rw [packoutBranch, if_neg ip6, if_neg notArp, if_pos ip]
        exact packoutIp_spec sound xid ip
      · rw [packoutBranch, if_neg ip6, if_neg notArp, if_neg ip, answer]
        simp only [if_neg ip6, if_neg notArp, if_neg ip]
        exact ⟨_, rfl, sound, rfl⟩

end Branches

/-- On an intact hosts table `action_packout` returns, has learned from the
packet and gives the answer that the hosts known then ask for. -/
theorem actionPackout_spec {s : Ani} {cells : List (Addr × SwitchHost)}
    (intact : s.hosts.Holds cells) (env : Env) (ofBuffer : Nat) :
    let message := s.readBuffer.shift ofBuffer
    let known := hostsAfter (env.allocated 0) s.switchId message (cells.map Prod.snd)
    ∃ outcome, actionPackout env ofBuffer s = some outcome ∧
      outcome.ani.hosts.Sound known ∧ outcome.sent = (answer known message).bytes := by
  intro message known
  have started : ObjectList.Holds
      { s with transactionId := (parsePacketIn message).xid }.hosts cells := intact
  obtain ⟨⟨next, sent⟩, branch, sends⟩ := packoutBranch_spec env started rfl rfl
  have called : actionPackout env ofBuffer s =
      if next.writeBufferLen < 0 then some ⟨next, sent, -1⟩
      else some ⟨next, sent, env.fallsOff⟩ := by
    show (match packoutBranch env message (parsePacketIn message) _ with
      | none => none
      | some (s, sent) => _) = _
    rw [branch]
  rw [called]
  split
  · exact ⟨_, rfl, sends.hosts, sends.sent⟩
  · exact ⟨_, rfl, sends.hosts, sends.sent⟩

end DAIM.Ani1
