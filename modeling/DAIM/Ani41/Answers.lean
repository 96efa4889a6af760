import DAIM.Ani41.Handlers

/-!
# What a handler does to the tables and what it answers

The four object lists are described by the records they represent.  On these
`action_packout` is a function of the received message and the hosts that are
known: it may learn one host, reply or link, and it gives one answer.
-/

namespace DAIM.Ani41

open DAIM.Library DAIM.OpenFlow DAIM.Linked DAIM.Com DAIM.Hosts

/-- The records of the four object lists. -/
structure Tables where
  hosts : List SwitchHost
  ports : List SwitchPort
  links : List SwitchLink
  swReplys : List SwitchReply

/-- The object lists of `s` represent the tables. -/
structure Ani.Shows (s : Ani) (tables : Tables) : Prop where
  hosts : s.hosts.Sound tables.hosts
  ports : s.ports.Sound tables.ports
  links : s.links.Sound tables.links
  swReplys : s.swReplys.Sound tables.swReplys

def Tables.empty : Tables := ⟨[], [], [], []⟩

theorem Ani.initial_shows (cbench : Bool) : (Ani.initial cbench).Shows Tables.empty :=
  ⟨ObjectList.sound_empty, ObjectList.sound_empty, ObjectList.sound_empty,
    ObjectList.sound_empty⟩

/-! ## The answer to a packet -/

/-- The flow that answers a unicast ARP packet; the protocol is always 0. -/
def arpFlow (message : Memory) (port : UInt16) : FlowMod :=
  flowAnswer (parsePacketIn message) (arpSource message) (arpTarget message) 0 0 0 arpData port

def flowOr (port : UInt16) (message : FlowMod) : Answer :=
  if port ≠ 0 then .flowMod message else .silent

/-- The answer to a message when the given hosts are known. -/
def answer (cbench : Bool) (hosts : List SwitchHost) (message : Memory) : Answer :=
  let packet := parsePacketIn message
  let port := portOf hosts packet.dst
  let protocol := payload message Iphdr.protocol
  if packet.type = ip6Data then
    if cbench then .packetOut (floodAnswer packet) else .silent
  else if packet.type = arpData then
    if packet.dst = Mac.broadcast then .packetOut (floodAnswer packet)
    else flowOr port (arpFlow message port)
  else if packet.type = ipData then
    if FlowProtocol protocol then flowOr port (ipFlow message port)
    else if protocol = ipProtoUnknown then .packetOut (floodAnswer packet)
    else .silent
  else if packet.type = lldpData then
    if payload message AnimHeader.type = animEchoRequest then
      .packetOut (discoveryPacket packet.inPort .echoReply)
    else .silent
  else .silent

theorem answer_of_arp {message : Memory} (cbench : Bool) (hosts : List SwitchHost)
    (arp : IsArp message) :
    answer cbench hosts message =
      if (parsePacketIn message).dst = Mac.broadcast then
        .packetOut (floodAnswer (parsePacketIn message))
      else
        flowOr (portOf hosts (parsePacketIn message).dst)
          (arpFlow message (portOf hosts (parsePacketIn message).dst)) := by
  have notIp6 : (parsePacketIn message).type ≠ ip6Data := ne_of_eq_of_ne arp (by decide)
  have isArp : (parsePacketIn message).type = arpData := arp
  unfold answer
  simp only [if_neg notIp6, if_pos isArp]

theorem answer_of_ip {message : Memory} (cbench : Bool) (hosts : List SwitchHost)
    (ip : (parsePacketIn message).type = ipData) :
    answer cbench hosts message =
      if FlowProtocol (payload message Iphdr.protocol) then
        flowOr (portOf hosts (parsePacketIn message).dst)
          (ipFlow message (portOf hosts (parsePacketIn message).dst))
      else if payload message Iphdr.protocol = ipProtoUnknown then
        .packetOut (floodAnswer (parsePacketIn message))
      else .silent := by
  have notIp6 : (parsePacketIn message).type ≠ ip6Data := ne_of_eq_of_ne ip (by decide)
  have notArp : (parsePacketIn message).type ≠ arpData := ne_of_eq_of_ne ip (by decide)
  unfold answer
  simp only [if_neg notIp6, if_neg notArp, if_pos ip]

/-! ## What a packet adds to the tables -/

/-- The link that a `NODE` message names. -/
def linkEntry (switchId : UInt64) (message : Memory) : SwitchLink where
  nodeA := { datapathId := switchId, portNo := (parsePacketIn message).inPort }
  nodeB :=
    { datapathId := be64toh (((payload message).shift AnimHeader.size).load64
        NetNodeWire.datapathId)
      portNo := ntohs (((payload message).shift AnimHeader.size).load16 NetNodeWire.portNo) }

/-- The discovery message of a packet, by the octet that names its type. -/
def IsDiscovery (message : Memory) (type : UInt8) : Prop :=
  (parsePacketIn message).type = lldpData ∧ payload message AnimHeader.type = type

instance (message : Memory) (type : UInt8) : Decidable (IsDiscovery message type) :=
  inferInstanceAs (Decidable (_ ∧ _))

/-- What `action_packout` adds to the tables, when `allocated` tells whether
its allocations succeed. -/
def Tables.packout (allocated : Bool) (switchId : UInt64) (message : Memory) (tables : Tables) :
    Tables :=
  if allocated = false then
    tables
  else
    { tables with
      hosts :=
        if IsArp message then
          insertNew SwitchHost.macAddr tables.hosts (hostEntry switchId message)
        else tables.hosts
      swReplys :=
        if IsDiscovery message animEchoReply then
          tables.swReplys ++
            [{ portNo := (parsePacketIn message).inPort, received := true }]
        else tables.swReplys
      links :=
        if IsDiscovery message animNode then
          tables.links ++ [linkEntry switchId message]
        else tables.links }

/-! ## The parts of `action_packout` -/

/-- The globals that no packet changes. -/
structure Ani.Fixed where
  cbench : Bool
  swSockfd : Option Nat
  linksMutex : Option Owner
  readBuffer : Memory
  readBufferp : Nat
  readBufferLen : Int
  switchId : UInt64
  noOfPorts : Int

def Ani.fixed (s : Ani) : Ani.Fixed :=
  ⟨s.cbench, s.swSockfd, s.linksMutex, s.readBuffer, s.readBufferp, s.readBufferLen, s.switchId,
    s.noOfPorts⟩

def Ani.Keeps (s next : Ani) : Prop := next.fixed = s.fixed

section Parts

variable {env : Env} {message : Memory} {packet : PacketIn} {s next : Ani} {tables : Tables}

theorem Ani.Keeps.trans {middle : Ani} (left : s.Keeps middle) (right : middle.Keeps next) :
    s.Keeps next :=
  Eq.trans right left

theorem Ani.keeps_transactionId (s : Ani) (xid : UInt32) :
    s.Keeps { s with transactionId := xid } := rfl

theorem learnHost_spec {ipSrc : UInt32} (shows : s.Shows tables)
    (run : learnHost env packet ipSrc s = some next) :
    next.Shows { tables with
      hosts :=
        if env.allocated 0 then
          insertNew SwitchHost.macAddr tables.hosts
            ⟨s.switchId, packet.inPort, packet.src, ipSrc⟩
        else tables.hosts } ∧
      s.Keeps next ∧ next.transactionId = s.transactionId := by
  unfold learnHost at run
  split at run
  · cases run
  · rename_i learned
    cases run
    exact ⟨⟨learn_spec shows.hosts learned, shows.ports, shows.links, shows.swReplys⟩, rfl, rfl⟩

theorem lookupPort_spec (shows : s.Shows tables) (dst : Mac) :
    ∃ next, lookupPort dst s = some (next, portOf tables.hosts dst) ∧ next.Shows tables ∧
      s.Keeps next ∧ next.transactionId = s.transactionId := by
  obtain ⟨moved, found, kept⟩ := lookup_spec shows.hosts dst
  refine ⟨{ s with hosts := moved }, ?_,
    ⟨kept, shows.ports, shows.links, shows.swReplys⟩, rfl, rfl⟩
  rw [lookupPort, found]

/-- What a branch that only sends leaves behind: the tables as they were. -/
structure Sends (s : Ani) (tables : Tables) (sending : Sending) (answer : Answer) : Prop where
  shows : sending.1.Shows tables
  keeps : s.Keeps sending.1
  sent : sending.2 = answer.bytes

theorem sends_nothing (shows : s.Shows tables) : Sends s tables (s, []) .silent :=
  ⟨shows, rfl, rfl⟩

theorem sendFlood_spec (env : Env) (shows : s.Shows tables) (xid : s.transactionId = packet.xid) :
    Sends s tables (sendFlood env packet s) (.packetOut (floodAnswer packet)) := by
  refine ⟨⟨shows.hosts, shows.ports, shows.links, shows.swReplys⟩,
    rfl, ?_⟩
  have written := createOfPacketOut_bytes Memory.zero s.transactionId packet.bufferId
    packet.inPort 0 ofppFlood
  rw [xid] at written
  unfold sendFlood Ani.outgoing
  simp only [xid, written]
  rfl

theorem sendFlowMod_spec {nwSrc nwDst : UInt32} {tpSrc tpDst : UInt16} {nwProto : UInt8}
    {dlType outPort : UInt16} (shows : s.Shows tables) (xid : s.transactionId = packet.xid) :
    Sends s tables
      (sendFlowMod env packet nwSrc nwDst (htons tpSrc) (htons tpDst) nwProto dlType outPort s)
      (.flowMod (flowAnswer packet nwSrc nwDst tpSrc tpDst nwProto dlType outPort)) := by
  refine ⟨⟨shows.hosts, shows.ports, shows.links, shows.swReplys⟩,
    rfl, ?_⟩
  have written := createOfFlowMod_bytes Memory.zero s.transactionId packet.inPort 0
    packet.bufferId ofpfcAdd 0 0 0 60 0 0 nwSrc nwDst tpSrc tpDst nwProto 0 ofpVlanNone
    (htons 0).toUInt8 packet.src packet.dst dlType 0 outPort
  rw [xid] at written
  unfold sendFlowMod Ani.outgoing
  simp only [xid]
  exact congrArg (fun bytes => [bytes]) written

theorem flowOr_spec {nwSrc nwDst : UInt32} (tpSrc tpDst : UInt16) {nwProto : UInt8}
    {dlType outPort : UInt16} (shows : s.Shows tables) (xid : s.transactionId = packet.xid)
    {sending : Sending}
    (run : (if outPort ≠ 0 then
        some (sendFlowMod env packet nwSrc nwDst (htons tpSrc) (htons tpDst) nwProto dlType
          outPort s)
      else some (s, [])) = some sending) :
    Sends s tables sending
      (flowOr outPort (flowAnswer packet nwSrc nwDst tpSrc tpDst nwProto dlType outPort)) := by
  unfold flowOr
  split at run
  · rename_i known
    cases run
    rw [if_pos known]
    exact sendFlowMod_spec shows xid
  · rename_i unknown
    cases run
    rw [if_neg unknown]
    exact sends_nothing shows

theorem packoutIp6_spec (shows : s.Shows tables) (xid : s.transactionId = packet.xid) :
    Sends s tables (packoutIp6 env packet s)
      (if s.cbench then .packetOut (floodAnswer packet) else .silent) := by
  unfold packoutIp6
  split
  · exact sendFlood_spec env shows xid
  · exact sends_nothing shows

/-- What `htons` of an octet leaves in an octet. -/
theorem htons_octet (value : UInt8) : (htons value.toUInt16).toUInt8 = 0 := by
  have bounded : value.toNat < 256 := value.toNat_lt
  have low : swap 2 value.toNat = 256 * value.toNat := by
    have high : value.toNat / 256 = 0 := Nat.div_eq_of_lt bounded
    simp [swap, octets, combine, high]
  apply UInt8.toNat_inj.mp
  rw [UInt16.toNat_toUInt8, htons, UInt8.toNat_toUInt16, low, UInt16.toNat_ofNat']
  show 256 * value.toNat % 65536 % 256 = 0
  omega

theorem packoutArp_spec {sending : Sending} (shows : s.Shows tables)
    (xid : s.transactionId = (parsePacketIn message).xid)
    (run : packoutArp env message (parsePacketIn message) s = some sending) :
    let learned :=
      if env.allocated 0 then
        insertNew SwitchHost.macAddr tables.hosts (hostEntry s.switchId message)
      else tables.hosts
    Sends s { tables with hosts := learned } sending
      (if (parsePacketIn message).dst = Mac.broadcast then
        .packetOut (floodAnswer (parsePacketIn message))
      else
        flowOr (portOf learned (parsePacketIn message).dst)
          (arpFlow message (portOf learned (parsePacketIn message).dst))) := by
  intro learned
  unfold packoutArp at run
  simp only at run
  split at run
  · cases run
  · rename_i middle learn
    obtain ⟨shown, kept, same⟩ := learnHost_spec shows learn
    have middleXid : middle.transactionId = (parsePacketIn message).xid := same.trans xid
    split at run
    · rename_i broadcast
      cases run
      rw [if_pos broadcast]
      have sends := sendFlood_spec env shown middleXid
      exact ⟨sends.shows, kept.trans sends.keeps, sends.sent⟩
    · rename_i unicast
      rw [if_neg unicast]
      obtain ⟨found, result, foundShows, foundKept, foundXid⟩ :=
        lookupPort_spec shown (parsePacketIn message).dst
      rw [result] at run
      have sends := flowOr_spec 0 0 foundShows (foundXid.trans middleXid) run
      rw [htons_octet] at sends
      exact ⟨sends.shows, (kept.trans foundKept).trans sends.keeps, sends.sent⟩

theorem packoutIp_spec {sending : Sending} (shows : s.Shows tables)
    (xid : s.transactionId = (parsePacketIn message).xid)
    (run : packoutIp env message (parsePacketIn message) s = some sending) :
    Sends s tables sending
      (if FlowProtocol (payload message Iphdr.protocol) then
        flowOr (portOf tables.hosts (parsePacketIn message).dst)
          (ipFlow message (portOf tables.hosts (parsePacketIn message).dst))
      else if payload message Iphdr.protocol = ipProtoUnknown then
        .packetOut (floodAnswer (parsePacketIn message))
      else .silent) := by
  unfold packoutIp at run
  obtain ⟨found, result, foundShows, foundKept, foundXid⟩ :=
    lookupPort_spec shows (parsePacketIn message).dst
  rw [result] at run
  simp only at run
  have foundXid := foundXid.trans xid
  -- the four protocols in the order of the source
  split at run
  · rename_i icmp
    rw [if_pos (.inl icmp), ipFlow]
    simp only [icmp, if_true]
    have sends := flowOr_spec 0 0 foundShows foundXid run
    exact ⟨sends.shows, foundKept.trans sends.keeps, sends.sent⟩
  · rename_i notIcmp
    split at run
    · rename_i tcp
      rw [if_pos (.inr (.inl tcp)), ipFlow]
      simp only [tcp]
      have sends := flowOr_spec _ _ foundShows foundXid run
      exact ⟨sends.shows, foundKept.trans sends.keeps, sends.sent⟩
    · rename_i notTcp
      split at run
      · rename_i udp
        rw [if_pos (.inr (.inr udp)), ipFlow]
        simp only [udp]
        have sends := flowOr_spec _ _ foundShows foundXid run
        exact ⟨sends.shows, foundKept.trans sends.keeps, sends.sent⟩
      · rename_i notUdp
        have other : ¬ FlowProtocol (payload message Iphdr.protocol) := by
          rintro (icmp | tcp | udp)
          · exact notIcmp icmp
          · exact notTcp tcp
          · exact notUdp udp
        rw [if_neg other]
        split at run
        · rename_i unknown
          cases run
          rw [if_pos unknown]
          have sends := sendFlood_spec env foundShows foundXid
          exact ⟨sends.shows, foundKept.trans sends.keeps, sends.sent⟩
        · rename_i known
          cases run
          rw [if_neg known]
          exact ⟨foundShows, foundKept, rfl⟩

theorem notDiscovery {type other : UInt8} (is : payload message AnimHeader.type = type)
    (different : type ≠ other) : ¬ IsDiscovery message other :=
  fun both => different (is.symm.trans both.2)

theorem packoutLldp_spec {sending : Sending} (shows : s.Shows tables)
    (lldp : (parsePacketIn message).type = lldpData)
    (run : packoutLldp env message (parsePacketIn message) s = some sending) :
    Sends s (tables.packout (env.allocated 0) s.switchId message) sending
      (if payload message AnimHeader.type = animEchoRequest then
        .packetOut (discoveryPacket (parsePacketIn message).inPort .echoReply)
      else .silent) := by
  have notArp : ¬ IsArp message := ne_of_eq_of_ne lldp (by decide)
  unfold packoutLldp at run
  simp only at run
  split at run
  · cases run
  · split at run
    · rename_i request
      have notReply : ¬ IsDiscovery message animEchoReply := notDiscovery request (by decide)
      have notNode : ¬ IsDiscovery message animNode := notDiscovery request (by decide)
      cases run
      rw [if_pos request, Tables.packout, if_neg notArp, if_neg notReply, if_neg notNode, ite_self]
      refine ⟨shows, rfl, ?_⟩
      exact congrArg (fun bytes => [bytes]) (echoReplyPacketOut_bytes _)
    · rename_i notRequest
      rw [if_neg notRequest]
      split at run
      · rename_i reply
        have isReply : IsDiscovery message animEchoReply := ⟨lldp, reply⟩
        have notNode : ¬ IsDiscovery message animNode := notDiscovery reply (by decide)
        split at run
        · cases run
        · rename_i replys fill
          cases run
          rw [Tables.packout, if_neg notArp, if_pos isReply, if_neg notNode]
          have sound := shows.swReplys.addFilled fill
          refine ⟨?_, rfl, rfl⟩
          cases allocated : env.allocated 0 <;> rw [Env.allocated] at allocated <;>
            rw [allocated] at sound <;> exact ⟨shows.hosts, shows.ports, shows.links, sound⟩
      · rename_i notReply
        have notReply' : ¬ IsDiscovery message animEchoReply := fun is => notReply is.2
        split at run
        · rename_i node
          have isNode : IsDiscovery message animNode := ⟨lldp, node⟩
          split at run
          · cases run
          · rename_i links fill
            cases run
            rw [Tables.packout, if_neg notArp, if_neg notReply', if_pos isNode]
            have sound := shows.links.addFilled fill
            refine ⟨?_, rfl, rfl⟩
            cases allocated : env.allocated 0 <;> rw [Env.allocated] at allocated <;>
              rw [allocated] at sound <;> exact ⟨shows.hosts, shows.ports, sound, shows.swReplys⟩
        · rename_i notNode
          have notNode' : ¬ IsDiscovery message animNode := fun is => notNode is.2
          cases run
          rw [Tables.packout, if_neg notArp, if_neg notReply', if_neg notNode', ite_self]
          exact sends_nothing shows

theorem packout_of_ne {allocated : Bool} {switchId : UInt64} (tables : Tables)
    (notArp : (parsePacketIn message).type ≠ arpData)
    (notLldp : (parsePacketIn message).type ≠ lldpData) :
    tables.packout allocated switchId message = tables := by
  simp [Tables.packout, IsArp, IsDiscovery, notArp, notLldp]

theorem packout_of_arp {allocated : Bool} {switchId : UInt64} (tables : Tables)
    (arp : (parsePacketIn message).type = arpData) :
    tables.packout allocated switchId message = { tables with
      hosts :=
        if allocated then insertNew SwitchHost.macAddr tables.hosts (hostEntry switchId message)
        else tables.hosts } := by
  have notLldp (type : UInt8) : ¬ IsDiscovery message type := by
    intro lldp
    exact absurd (arp.symm.trans lldp.1) (by decide)
  have isArp : IsArp message := arp
  rw [Tables.packout, if_pos isArp, if_neg (notLldp _), if_neg (notLldp _)]
  cases allocated <;> rfl

/-- On the tables, `action_packout` learns from the packet and gives the
answer that the hosts known then ask for. -/
theorem packoutBranch_spec {sending : Sending} (shows : s.Shows tables)
    (xid : s.transactionId = (parsePacketIn message).xid)
    (run : packoutBranch env message (parsePacketIn message) s = some sending) :
    Sends s (tables.packout (env.allocated 0) s.switchId message) sending
      (answer s.cbench (tables.packout (env.allocated 0) s.switchId message).hosts message) := by
  unfold packoutBranch at run
  unfold answer
  simp only
  split at run
  · rename_i ip6
    cases run
    rw [packout_of_ne tables (ne_of_eq_of_ne ip6 (by decide)) (ne_of_eq_of_ne ip6 (by decide)),
      if_pos ip6]
    exact packoutIp6_spec shows xid
  · rename_i notIp6
    rw [if_neg notIp6]
    split at run
    · rename_i arp
      rw [packout_of_arp tables arp, if_pos arp]
      exact packoutArp_spec shows xid run
    · rename_i notArp
      rw [if_neg notArp]
      split at run
      · rename_i ip
        rw [packout_of_ne tables notArp (ne_of_eq_of_ne ip (by decide)), if_pos ip]
        exact packoutIp_spec shows xid run
      · rename_i notIp
        rw [if_neg notIp]
        split at run
        · rename_i lldp
          rw [if_pos lldp]
          exact packoutLldp_spec shows lldp run
        · rename_i notLldp
          cases run
          rw [if_neg notLldp, packout_of_ne tables notArp notLldp]
          exact sends_nothing shows

end Parts

/-! ## The handlers -/

section Handlers

variable {env : Env} {ofBuffer : Nat} {s : Ani} {outcome : Outcome} {tables : Tables}

theorem actionPackout_spec (shows : s.Shows tables)
    (run : actionPackout env ofBuffer s = some outcome) :
    let message := s.readBuffer.shift ofBuffer
    Sends s (tables.packout (env.allocated 0) s.switchId message) (outcome.ani, outcome.sent)
      (answer s.cbench (tables.packout (env.allocated 0) s.switchId message).hosts message) ∧
      outcome.spawned = false := by
  intro message
  unfold actionPackout at run
  simp only at run
  split at run
  · cases run
  · rename_i sent branch
    have started : Ani.Shows
        { s with transactionId := (parsePacketIn message).xid } tables :=
      ⟨shows.hosts, shows.ports, shows.links, shows.swReplys⟩
    have sends := packoutBranch_spec started rfl branch
    have kept := s.keeps_transactionId (parsePacketIn message).xid
    split at run
    · cases run
      exact ⟨⟨sends.shows, kept.trans sends.keeps, sends.sent⟩, rfl⟩
    · cases run
      exact ⟨⟨sends.shows, kept.trans sends.keeps, sends.sent⟩, rfl⟩

/-- The tables have no part in the writing of a message. -/
theorem Ani.Shows.writing (shows : s.Shows tables) (other : Ani) :
    (s.writing other).Shows tables :=
  ⟨shows.hosts, shows.ports, shows.links, shows.swReplys⟩

/-- `action_hello` sends a `HELLO` and perhaps a features request. -/
theorem actionHello_spec (shows : s.Shows tables) (run : actionHello env ofBuffer s = outcome) :
    let xid := ntohl ((s.readBuffer.shift ofBuffer).load32 OfpHeader.xid)
    outcome.ani.Shows tables ∧ s.Keeps outcome.ani ∧ outcome.spawned = false ∧
      (outcome.sent = [headerMessage ofptHello xid] ∨
        outcome.sent =
          [headerMessage ofptHello xid, headerMessage ofptFeaturesRequest (xid + 1)]) := by
  subst run
  intro xid
  refine ⟨?_, ?_, actionHello_spawned env ofBuffer s, ?_⟩
  · rw [actionHello_frame]
    exact shows.writing _
  · rw [actionHello_frame]
    rfl
  · unfold actionHello Ani.outgoing Ani.send
    simp only [createOfHello_bytes, createOfFeaturesRequest_bytes]
    split
    · exact .inl rfl
    · split
      · split
        · exact .inr rfl
        · split
          · exact .inr rfl
          · exact .inr rfl
      · exact .inl rfl

/-- `action_echo` sends one reply with the number of the request. -/
theorem actionEcho_spec (shows : s.Shows tables) (run : actionEcho env ofBuffer s = outcome) :
    let xid := ntohl ((s.readBuffer.shift ofBuffer).load32 OfpHeader.xid)
    outcome.ani.Shows tables ∧ s.Keeps outcome.ani ∧ outcome.spawned = false ∧
      outcome.sent = [headerMessage ofptEchoReply xid] := by
  subst run
  intro xid
  refine ⟨?_, ?_, actionEcho_spawned env ofBuffer s, ?_⟩
  · rw [actionEcho_frame]
    exact shows.writing _
  · rw [actionEcho_frame]
    rfl
  · unfold actionEcho Ani.outgoing Ani.send
    simp only [createOfEchoReply_bytes]
    split
    · rfl
    · split
      · rfl
      · rfl

/-- The records that the loop over the ports of a features reply adds. -/
def portEntries (env : Env) (message : Memory) (switchId : UInt64) (rounds index : Nat) :
    List SwitchPort :=
  ((List.range' index rounds).filter env.allocated).map (switchPort message switchId)

theorem addPorts_spec {message : Memory} {switchId : UInt64} {rounds index : Nat}
    {ports added : ObjectList SwitchPort} {records : List SwitchPort}
    (sound : ports.Sound records)
    (run : addPorts env message switchId rounds index ports = some added) :
    added.Sound (records ++ portEntries env message switchId rounds index) := by
  induction rounds generalizing index ports records with
  | zero =>
      cases run
      simpa [portEntries] using sound
  | succ rounds inductionHypothesis =>
      unfold addPorts at run
      split at run
      · cases run
      · rename_i middle fill
        have step := inductionHypothesis (sound.addFilled fill) run
        have here : (env.objectAllocated index && env.blockAllocated index) =
            env.allocated index := rfl
        rw [here] at step
        cases allocated : env.allocated index with
        | false =>
            rw [allocated] at step
            simpa [portEntries, List.range'_succ, allocated] using step
        | true =>
            rw [allocated] at step
            simpa [portEntries, List.range'_succ, allocated] using step

theorem sendSwitchConfig_sent :
    (sendSwitchConfig env s).sent = [switchConfigMessage (s.transactionId + 1) 0 128] := by
  unfold sendSwitchConfig Ani.outgoing Ani.send
  simp only [createOfSwitchConfig_bytes]
  split
  · rfl
  · split
    · rfl
    · rfl

/-- `action_features_reply` fills the table of ports and sends the switch its
configuration, unless the reply names no port. -/
theorem actionFeaturesReply_spec (shows : s.Shows tables)
    (run : actionFeaturesReply env ofBuffer s = some outcome) :
    let message := s.readBuffer.shift ofBuffer
    let count := portCount (ntohs (message.load16 OfpHeader.length))
    let switchId := be64toh (message.load64 OfpSwitchFeatures.datapathId)
    outcome.ani.cbench = s.cbench ∧ outcome.ani.swSockfd = s.swSockfd ∧
      outcome.ani.readBuffer = s.readBuffer ∧ outcome.ani.readBufferp = s.readBufferp ∧
      outcome.ani.noOfPorts = count ∧
      if count = 0 then
        outcome.ani.Shows tables ∧ outcome.ani.switchId = s.switchId ∧
          outcome.ani.linksMutex = some .main ∧ outcome.sent = [] ∧ outcome.result = -1
      else
        outcome.ani.Shows { tables with
          ports := tables.ports ++ portEntries env message switchId count.toNat 0 } ∧
          outcome.ani.switchId = switchId ∧ outcome.ani.linksMutex = none ∧
          outcome.sent =
            [switchConfigMessage (ntohl (message.load32 OfpHeader.xid) + 1) 0 128] := by
  intro message count switchId
  unfold actionFeaturesReply at run
  simp only at run
  split at run
  · cases run
  · split at run
    · rename_i noPorts
      cases run
      have zero : count = 0 := noPorts
      rw [if_pos zero]
      exact ⟨rfl, rfl, rfl, rfl, rfl, ⟨shows.hosts, shows.ports, shows.links, shows.swReplys⟩, rfl,
        rfl, rfl, rfl⟩
    · rename_i somePorts
      have nonzero : count ≠ 0 := somePorts
      rw [if_neg nonzero]
      split at run
      · cases run
      · rename_i added fill
        split at run
        · cases run
        · rename_i shown printed print
          cases run
          have sound := (addPorts_spec shows.ports fill).showAll print
          rw [sendSwitchConfig_sent, sendSwitchConfig_frame]
          exact ⟨rfl, rfl, rfl, rfl, rfl, ⟨shows.hosts, sound, shows.links, shows.swReplys⟩, rfl,
            rfl, rfl⟩

end Handlers

end DAIM.Ani41
