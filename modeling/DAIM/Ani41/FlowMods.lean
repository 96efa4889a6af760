import DAIM.Ani41.Learning

/-!
# Flow modifications

When `action_packout` installs a flow, which one, and which packets it matches.
The statements speak about the bytes of the received message and of the one
that is sent.
-/

namespace DAIM.Ani41

open DAIM.Library DAIM.OpenFlow DAIM.Linked DAIM.Hosts

/-- `action_packout` called in the state of a process, with the message in the
read buffer. -/
def Process.packetIn (p : Process) (message : Memory) (env : Env) : Option Outcome :=
  actionPackout env 0
    { p.ani with readBuffer := message, readBufferp := 0, pheader := .read 0 }

/-- A complete ARP frame that is not broadcast. -/
structure UnicastArp (frame : List UInt8) : Prop where
  type : frameType frame = arpData
  unicast : frameDst frame ≠ Mac.broadcast
  complete : 42 ≤ frame.length

/-- An IPv4 frame, complete up to the end of its header, of a protocol for
which flows are installed. -/
structure FlowIp (frame : List UInt8) : Prop where
  type : frameType frame = ipData
  protocol : FlowProtocol (frameProto frame)
  complete : 34 ≤ frame.length

def Unicast (frame : List UInt8) : Prop := UnicastArp frame ∨ FlowIp frame

/-! ## The hosts and the answer -/

/-- A packet from another address teaches nothing about this one. -/
theorem knows_packout {tables : Tables} {allocated : Bool} {switchId : UInt64} {message : Memory}
    {mac : Mac} (other : (parsePacketIn message).src ≠ mac) :
    Knows (tables.packout allocated switchId message).hosts mac ↔ Knows tables.hosts mac := by
  unfold Tables.packout
  split
  · rfl
  · simp only
    split
    · unfold insertNew
      split
      · rfl
      · constructor
        · rintro ⟨host, member, same, nonzero⟩
          rcases List.mem_append.mp member with known | new
          · exact ⟨host, known, same, nonzero⟩
          · rw [List.mem_singleton.mp new] at same
            exact absurd same other
        · rintro ⟨host, member, same, nonzero⟩
          exact ⟨host, List.mem_append_left _ member, same, nonzero⟩
    · rfl

/-! ## What is called, and when it returns -/

section Called

variable {cbench : Bool} {events : List Event} {p : Process} {message : Memory} {env : Env}
variable {bytes : List UInt8}

/-- A call in a reachable state answers from a table without repeated addresses. -/
theorem Process.Reaches.packetIn (run : Process.Reaches cbench events p) {outcome : Outcome}
    (called : p.packetIn message env = some outcome) :
    ∃ tables, p.ani.Shows tables ∧
      outcome.ani.Shows (tables.packout (env.allocated 0) p.ani.switchId message) ∧
      ((tables.packout (env.allocated 0) p.ani.switchId message).hosts.map
        SwitchHost.macAddr).Nodup ∧
      outcome.sent = (answer p.ani.cbench
        (tables.packout (env.allocated 0) p.ani.switchId message).hosts message).bytes := by
  obtain ⟨tables, shows, distinct⟩ := run.tables
  have started : Ani.Shows
      { p.ani with readBuffer := message, readBufferp := 0, pheader := .read 0 } tables :=
    ⟨shows.hosts, shows.ports, shows.links, shows.swReplys⟩
  have spec := (actionPackout_spec started called).1
  simp only [Memory.shift_zero] at spec
  refine ⟨tables, shows, spec.shows, ?_, spec.sent⟩
  have change : tables.Change p
      (.handled ⟨.packout, message, env, [], 0⟩)
      (tables.packout (env.allocated 0) p.ani.switchId message) := .packout rfl
  exact change.nodup distinct

theorem unicast_cases (starts : message.Starts bytes) (unicast : Unicast (packetInFrame bytes)) :
    32 ≤ bytes.length ∧
      (IsArp message ∧ (parsePacketIn message).dst ≠ Mac.broadcast ∨
        (parsePacketIn message).type = ipData ∧
          FlowProtocol (payload message Iphdr.protocol)) := by
  have frameLength := length_packetInFrame bytes
  rcases unicast with ⟨type, unicast, complete⟩ | ⟨type, protocol, complete⟩
  · have long : 32 ≤ bytes.length := by omega
    refine ⟨long, .inl ?_⟩
    rw [IsArp, parsePacketIn_eq starts long]
    exact ⟨type, unicast⟩
  · have long : 32 ≤ bytes.length := by omega
    have inside : 32 + Iphdr.protocol < bytes.length := by
      show 32 + 9 < _
      omega
    refine ⟨long, .inr ?_⟩
    rw [parsePacketIn_eq starts long, payload_octet starts inside]
    exact ⟨type, protocol⟩

theorem learnHost_none {packet : PacketIn} {ipSrc : UInt32} {s : Ani} {tables : Tables}
    (shows : s.Shows tables) (fails : learnHost env packet ipSrc s = none) : tables.hosts = [] := by
  unfold learnHost at fails
  split at fails
  · rename_i learned
    exact learn_none shows.hosts learned
  · cases fails

/-- An ARP packet can only be stuck where its sender is learned. -/
theorem packoutArp_none {packet : PacketIn} {s : Ani} {tables : Tables}
    (shows : s.Shows tables) (fails : packoutArp env message packet s = none) :
    learnHost env packet (arpSource message) s = none := by
  unfold packoutArp at fails
  simp only at fails
  split at fails
  · rename_i learn
    exact learn
  · rename_i middle learn
    obtain ⟨found, result, -⟩ := lookupPort_spec (learnHost_spec shows learn).1 packet.dst
    generalize portOf _ packet.dst = port at result
    rw [result] at fails
    simp only at fails
    split at fails
    · cases fails
    · split at fails <;> cases fails

theorem packoutIp_returns {packet : PacketIn} {s : Ani} {tables : Tables}
    (shows : s.Shows tables) : packoutIp env message packet s ≠ none := by
  obtain ⟨found, result, -⟩ := lookupPort_spec shows packet.dst
  intro fails
  rw [packoutIp, result] at fails
  simp only at fails
  split at fails
  · split at fails <;> cases fails
  · split at fails
    · split at fails <;> cases fails
    · split at fails
      · split at fails <;> cases fails
      · split at fails <;> cases fails

/-- On a unicast packet, a call that does not return finds an empty table. -/
theorem Process.Reaches.packetIn_none (run : Process.Reaches cbench events p)
    (starts : message.Starts bytes) (unicast : Unicast (packetInFrame bytes))
    (fails : p.packetIn message env = none) : p.ani.hosts.contents = [] := by
  obtain ⟨tables, shows, -⟩ := run.tables
  rw [shows.hosts.contents_eq]
  have started : Ani.Shows
      { p.ani with
        readBuffer := message, readBufferp := 0, pheader := .read 0
        transactionId := (parsePacketIn message).xid } tables :=
    ⟨shows.hosts, shows.ports, shows.links, shows.swReplys⟩
  unfold Process.packetIn actionPackout at fails
  simp only [Memory.shift_zero] at fails
  split at fails
  · rename_i branch
    rcases (unicast_cases starts unicast).2 with ⟨arp, -⟩ | ⟨ip, -⟩
    · have notIp6 : (parsePacketIn message).type ≠ ip6Data := ne_of_eq_of_ne arp (by decide)
      have isArp : (parsePacketIn message).type = arpData := arp
      rw [packoutBranch, if_neg notIp6, if_pos isArp] at branch
      exact learnHost_none started (packoutArp_none started branch)
    · have notIp6 : (parsePacketIn message).type ≠ ip6Data := ne_of_eq_of_ne ip (by decide)
      have notArp : (parsePacketIn message).type ≠ arpData := ne_of_eq_of_ne ip (by decide)
      rw [packoutBranch, if_neg notIp6, if_neg notArp, if_pos ip] at branch
      exact absurd branch (packoutIp_returns started)
  · split at fails <;> cases fails

/-! ## The flow that is installed -/

/-- The flow modification fits the received message. -/
structure Installs (bytes : List UInt8) (port : UInt16) (flow : FlowMod) : Prop where
  command : flow.command = ofpfcAdd
  wildcards : flow.fields.wildcards = 0
  inPort : flow.fields.inPort = be16 bytes OfpPacketIn.inPort
  dlSrc : flow.fields.dlSrc = frameSrc (packetInFrame bytes)
  dlDst : flow.fields.dlDst = frameDst (packetInFrame bytes)
  dlType : flow.fields.dlType = frameType (packetInFrame bytes)
  nwSrc : flow.fields.nwSrc = frameNwSrc (packetInFrame bytes)
  nwDst : flow.fields.nwDst = frameNwDst (packetInFrame bytes)
  bufferId : flow.bufferId = be32 bytes OfpPacketIn.bufferId
  xid : flow.xid = be32 bytes OfpHeader.xid
  actions : flow.actions = [{ port := port, maxLen := 0 }]

/-- The flow that answers a unicast packet. -/
def flowFor (message : Memory) (port : UInt16) : FlowMod :=
  if IsArp message then arpFlow message port else ipFlow message port

theorem answer_unicast {hosts : List SwitchHost} (starts : message.Starts bytes)
    (unicast : Unicast (packetInFrame bytes)) :
    answer cbench hosts message =
      flowOr (portOf hosts (frameDst (packetInFrame bytes)))
        (flowFor message (portOf hosts (frameDst (packetInFrame bytes)))) := by
  obtain ⟨long, kind⟩ := unicast_cases starts unicast
  have dst : (parsePacketIn message).dst = frameDst (packetInFrame bytes) := by
    rw [parsePacketIn_eq starts long]
  unfold flowFor
  rcases kind with ⟨arp, unicast⟩ | ⟨ip, protocol⟩
  · rw [answer_of_arp cbench hosts arp, if_neg unicast, if_pos arp, dst]
  · have notArp : ¬ IsArp message := ne_of_eq_of_ne ip (by decide)
    rw [answer_of_ip cbench hosts ip, if_pos protocol, if_neg notArp, dst]

/-- The fields of the flow are those of the packet. -/
theorem flowFor_installs (starts : message.Starts bytes)
    (unicast : Unicast (packetInFrame bytes)) (port : UInt16) :
    Installs bytes port (flowFor message port) := by
  have frameLength := length_packetInFrame bytes
  obtain ⟨long, kind⟩ := unicast_cases starts unicast
  have parsed := parsePacketIn_eq starts long
  rcases unicast with ⟨type, -, complete⟩ | ⟨type, -, complete⟩
  · have arp : IsArp message := by
      rw [IsArp, parsed]
      exact type
    have source : arpSource message = frameNwSrc (packetInFrame bytes) := by
      rw [arpSource, frameNwSrc, if_pos type]
      apply payload_ntohl starts
      show 32 + 14 + 4 ≤ _
      omega
    have target : arpTarget message = frameNwDst (packetInFrame bytes) := by
      rw [arpTarget, frameNwDst, if_pos type]
      apply payload_ntohl starts
      show 32 + 24 + 4 ≤ _
      omega
    rw [flowFor, if_pos arp, arpFlow, source, target, parsed]
    exact ⟨rfl, rfl, rfl, rfl, rfl, type.symm, rfl, rfl, rfl, rfl, rfl⟩
  · have notArp : frameType (packetInFrame bytes) ≠ arpData := ne_of_eq_of_ne type (by decide)
    have isNotArp : ¬ IsArp message := by
      rw [IsArp, parsed]
      exact notArp
    have source : ntohl ((payload message).load32 Iphdr.saddr) =
        frameNwSrc (packetInFrame bytes) := by
      rw [frameNwSrc, if_neg notArp]
      apply payload_ntohl starts
      show 32 + 12 + 4 ≤ _
      omega
    have target : ntohl ((payload message).load32 Iphdr.daddr) =
        frameNwDst (packetInFrame bytes) := by
      rw [frameNwDst, if_neg notArp]
      apply payload_ntohl starts
      show 32 + 16 + 4 ≤ _
      omega
    rw [flowFor, if_neg isNotArp, ipFlow]
    simp only [source, target]
    rw [parsed]
    exact ⟨rfl, rfl, rfl, rfl, rfl, type.symm, rfl, rfl, rfl, rfl, rfl⟩

/-- What a call does about the flow for a unicast packet, when `hosts` is the
table before it. -/
structure AnswersUnicast (hosts : List SwitchHost) (bytes : List UInt8) (outcome : Outcome) :
    Prop where
  sent_iff : (∃ sent ∈ outcome.sent, messageType sent = ofptFlowMod) ↔
    Knows outcome.ani.hosts.contents (frameDst (packetInFrame bytes))
  -- the packet itself can teach its destination only when it is also its source
  before : frameSrc (packetInFrame bytes) ≠ frameDst (packetInFrame bytes) →
    (Knows outcome.ani.hosts.contents (frameDst (packetInFrame bytes)) ↔
      Knows hosts (frameDst (packetInFrame bytes)))
  flow : ∀ host ∈ outcome.ani.hosts.contents,
    host.macAddr = frameDst (packetInFrame bytes) → host.portNo ≠ 0 →
      ∃ sent flow, outcome.sent = [sent] ∧ sent.length = 80 ∧
        FlowMod.decode sent = some flow ∧ Installs bytes host.portNo flow

/-- The same, where a call that does not return must have found an empty table. -/
structure CallAnswersUnicast (hosts : List SwitchHost) (bytes : List UInt8)
    (called : Option Outcome) : Prop where
  fails : called = none → hosts = []
  returns : ∀ outcome, called = some outcome → AnswersUnicast hosts bytes outcome

/-- On a unicast packet a flow is installed exactly when the destination is
known, and then it is the one message sent and fits the packet. -/
theorem flowMod_iff_knows (run : Process.Reaches cbench events p)
    (starts : message.Starts bytes) (unicast : Unicast (packetInFrame bytes)) (env : Env) :
    CallAnswersUnicast p.ani.hosts.contents bytes (p.packetIn message env) := by
  constructor
  · exact run.packetIn_none starts unicast
  · intro outcome called
    obtain ⟨tables, shows, shown, distinct, sent⟩ := run.packetIn called
    rw [answer_unicast starts unicast] at sent
    have known := portOf_ne_zero_iff distinct (frameDst (packetInFrame bytes))
    constructor
    · rw [shown.hosts.contents_eq, ← known, sent]
      unfold flowOr
      split
      · rename_i nonzero
        exact ⟨fun _ => nonzero, fun _ => ⟨_, List.mem_singleton_self _, rfl⟩⟩
      · rename_i zero
        constructor
        · rintro ⟨_, impossible, -⟩
          cases impossible
        · exact fun nonzero => absurd nonzero zero
    · intro other
      rw [shown.hosts.contents_eq, shows.hosts.contents_eq]
      apply knows_packout
      rwa [parsePacketIn_eq starts (unicast_cases starts unicast).1]
    · intro host member same nonzero
      rw [shown.hosts.contents_eq] at member
      have port := portOf_eq distinct member
      rw [same] at port
      rw [port, flowOr, if_pos nonzero] at sent
      have installs := flowFor_installs starts unicast host.portNo
      have single : (flowFor message host.portNo).actions.length = 1 := by
        rw [installs.actions]
        rfl
      refine ⟨_, _, sent, ?_, FlowMod.decode_encode (by omega), installs⟩
      rw [FlowMod.length_encode, single]

/-! ## The packets that the flow matches -/

/-- The exact-match rules for a frame without a VLAN tag, for every field but
the ports of TCP and UDP. -/
structure MatchesFrame (fields : Match) (inPort : UInt16) (frame : List UInt8) : Prop where
  wildcards : fields.wildcards = 0
  inPort : fields.inPort = inPort
  dlSrc : fields.dlSrc = frameSrc frame
  dlDst : fields.dlDst = frameDst frame
  dlVlan : fields.dlVlan = ofpVlanNone
  dlType : fields.dlType = frameType frame
  nwTos : fields.nwTos = frameTos frame &&& 0xfc
  nwProto : fields.nwProto = frameProto frame
  nwSrc : fields.nwSrc = frameNwSrc frame
  nwDst : fields.nwDst = frameNwDst frame
  icmp : frameProto frame = ipTypeIcmp →
    fields.tpSrc = (frame.getD (transportOffset frame) 0).toUInt16 ∧
      fields.tpDst = (frame.getD (transportOffset frame + 1) 0).toUInt16

/-- The frames whose own flow they match: no ToS bits, and no ICMP message but
an echo reply. -/
def PlainHeaders (frame : List UInt8) : Prop :=
  frameTos frame &&& 0xfc = 0 ∧
    (frameProto frame = ipTypeIcmp →
      frame.getD (transportOffset frame) 0 = 0 ∧ frame.getD (transportOffset frame + 1) 0 = 0)

theorem octet_eq_zero_iff (octet : UInt8) : (0 : UInt16) = octet.toUInt16 ↔ octet = 0 := by
  rw [← UInt16.toNat_inj, ← UInt8.toNat_inj, UInt8.toNat_toUInt16]
  exact eq_comm

/-- A frame of IPv4 matches the flow that answers it exactly when its ToS bits
and, for ICMP, its type and code are zero. -/
theorem ipFlow_matches_iff (starts : message.Starts bytes) (ip : FlowIp (packetInFrame bytes))
    (port : UInt16) :
    MatchesFrame (flowFor message port).fields (be16 bytes OfpPacketIn.inPort)
      (packetInFrame bytes) ↔ PlainHeaders (packetInFrame bytes) := by
  have frameLength := length_packetInFrame bytes
  have complete := ip.complete
  have long : 32 ≤ bytes.length := by omega
  have notArp : ¬ IsArp message := by
    rw [IsArp, parsePacketIn_eq starts long]
    exact ne_of_eq_of_ne ip.type (by decide)
  have protocol : payload message Iphdr.protocol = frameProto (packetInFrame bytes) := by
    apply payload_octet starts
    show 32 + 9 < _
    omega
  have installs := flowFor_installs starts (.inr ip) port
  have tos : (flowFor message port).fields.nwTos = 0 := by
    rw [flowFor, if_neg notArp]
    rfl
  have proto : (flowFor message port).fields.nwProto = frameProto (packetInFrame bytes) := by
    rw [← protocol, flowFor, if_neg notArp]
    rfl
  have vlan : (flowFor message port).fields.dlVlan = ofpVlanNone := by
    rw [flowFor, if_neg notArp]
    rfl
  have ports : frameProto (packetInFrame bytes) = ipTypeIcmp →
      (flowFor message port).fields.tpSrc = 0 ∧ (flowFor message port).fields.tpDst = 0 := by
    intro icmp
    rw [← protocol] at icmp
    rw [flowFor, if_neg notArp, ipFlow]
    simp only [icmp, if_true]
    exact ⟨rfl, rfl⟩
  constructor
  · intro found
    refine ⟨(tos.symm.trans found.nwTos).symm, ?_⟩
    intro icmp
    obtain ⟨source, target⟩ := found.icmp icmp
    rw [(ports icmp).1, octet_eq_zero_iff] at source
    rw [(ports icmp).2, octet_eq_zero_iff] at target
    exact ⟨source, target⟩
  · rintro ⟨noTos, echoReply⟩
    refine ⟨installs.wildcards, installs.inPort, installs.dlSrc, installs.dlDst, vlan,
      installs.dlType, tos.trans noTos.symm, proto, installs.nwSrc, installs.nwDst, ?_⟩
    intro icmp
    rw [(ports icmp).1, (ports icmp).2, octet_eq_zero_iff, octet_eq_zero_iff]
    exact echoReply icmp

/-- An IPv4 packet to a known destination is answered with its flow. -/
theorem Process.Reaches.installs (run : Process.Reaches cbench events p)
    (starts : message.Starts bytes) (ip : FlowIp (packetInFrame bytes))
    (known : Knows p.ani.hosts.contents (frameDst (packetInFrame bytes))) (env : Env) :
    ∃ outcome port, p.packetIn message env = some outcome ∧
      outcome.sent = [(flowFor message port).encode] ∧
      FlowMod.decode (flowFor message port).encode = some (flowFor message port) := by
  cases called : p.packetIn message env with
  | none =>
      rw [run.packetIn_none starts (.inr ip) called] at known
      obtain ⟨_, impossible, -⟩ := known
      cases impossible
  | some outcome =>
      obtain ⟨tables, shows, -, distinct, sent⟩ := run.packetIn called
      have type : (parsePacketIn message).type = ipData := by
        rw [parsePacketIn_eq starts (unicast_cases starts (.inr ip)).1]
        exact ip.type
      rw [packout_of_ne tables (ne_of_eq_of_ne type (by decide))
        (ne_of_eq_of_ne type (by decide))] at distinct sent
      rw [shows.hosts.contents_eq, ← portOf_ne_zero_iff distinct] at known
      rw [answer_unicast starts (.inr ip), flowOr, if_pos known] at sent
      have installs := flowFor_installs starts (.inr ip)
        (portOf tables.hosts (frameDst (packetInFrame bytes)))
      have single : (flowFor message
          (portOf tables.hosts (frameDst (packetInFrame bytes)))).actions.length = 1 := by
        rw [installs.actions]
        rfl
      exact ⟨outcome, _, rfl, sent, FlowMod.decode_encode (by omega)⟩

/-- To a known destination, the flow that an IPv4 packet installs matches that
packet exactly when its headers are plain. -/
theorem installed_flow_matches_iff (run : Process.Reaches cbench events p)
    (starts : message.Starts bytes) (ip : FlowIp (packetInFrame bytes))
    (known : Knows p.ani.hosts.contents (frameDst (packetInFrame bytes))) (env : Env) :
    ∃ outcome sent flow, p.packetIn message env = some outcome ∧ outcome.sent = [sent] ∧
      FlowMod.decode sent = some flow ∧
      (MatchesFrame flow.fields (be16 bytes OfpPacketIn.inPort) (packetInFrame bytes) ↔
        PlainHeaders (packetInFrame bytes)) := by
  obtain ⟨outcome, port, called, sent, decoded⟩ := run.installs starts ip known env
  exact ⟨outcome, _, _, called, sent, decoded, ipFlow_matches_iff starts ip port⟩

end Called

/-! ## Packets to a known host -/

/-- One host is known, on port 1. -/
def knownHost : List (List UInt8 × Env) := [(arpReport 1 Mac.broadcast hostA, .calm)]

theorem knownHost_knows :
    ∃ events p, (Process.initial false).deliverAll knownHost = some (events, p) ∧
      Process.Reaches false events p ∧ Knows p.ani.hosts.contents hostA := by
  have computed : (((Process.initial false).deliverAll knownHost).map
      fun run => run.2.ani.hosts.contents) = some [⟨0, 1, hostA, 0x0a000001⟩] := by decide
  obtain ⟨⟨events, p⟩, delivered, hosts⟩ := Option.map_eq_some_iff.mp computed
  refine ⟨events, p, delivered, Process.deliverAll_run delivered, ?_⟩
  simp only at hosts
  rw [hosts]
  exact ⟨_, List.mem_singleton_self _, rfl, by decide⟩

theorem flowMod_iff_knows_knownHost :
    ∃ events p, (Process.initial false).deliverAll knownHost = some (events, p) ∧
      CallAnswersUnicast p.ani.hosts.contents (arpReport 3 hostA hostB)
        (p.packetIn (Memory.ofList (arpReport 3 hostA hostB) Memory.zero) .calm) := by
  obtain ⟨events, p, delivered, run, -⟩ := knownHost_knows
  have unicast : UnicastArp (packetInFrame (arpReport 3 hostA hostB)) :=
    ⟨by decide, by decide, by decide⟩
  have starts := Memory.starts_ofList (arpReport 3 hostA hostB) Memory.zero
  have kind : Unicast (packetInFrame (arpReport 3 hostA hostB)) := Or.inl unicast
  have answers := flowMod_iff_knows run starts kind Env.calm
  exact ⟨events, p, delivered, answers⟩

/-- An ICMP message in an IPv4 packet without options. -/
def icmpReport (tos type code : UInt8) : List UInt8 :=
  PacketInMessage.encode
    { xid := 7, bufferId := 257, totalLen := 42, inPort := 3, reason := 0
      data := ethernetFrame hostA hostB ipData
        ([0x45, tos, 0, 28, 0, 0, 0, 0, 64, ipTypeIcmp, 0, 0, 10, 0, 0, 2, 10, 0, 0, 1] ++
          [type, code, 0, 0, 0, 0, 0, 0]) }

theorem icmpReport_flowIp (tos type code : UInt8) :
    FlowIp (packetInFrame (icmpReport tos type code)) := by
  have length : (packetInFrame (icmpReport tos type code)).length = 42 := rfl
  refine ⟨rfl, .inl rfl, ?_⟩
  rw [length]
  decide

/-- The flow that answers an echo request does not match echo requests. -/
theorem echoRequest_not_matched :
    ¬ ∀ cbench events p message bytes env, Process.Reaches cbench events p →
      message.Starts bytes → FlowIp (packetInFrame bytes) →
      Knows p.ani.hosts.contents (frameDst (packetInFrame bytes)) →
      ∃ outcome sent flow, p.packetIn message env = some outcome ∧ outcome.sent = [sent] ∧
        FlowMod.decode sent = some flow ∧
        MatchesFrame flow.fields (be16 bytes OfpPacketIn.inPort) (packetInFrame bytes) := by
  intro always
  obtain ⟨events, p, delivered, run, known⟩ := knownHost_knows
  have starts := Memory.starts_ofList (icmpReport 0 8 0) Memory.zero
  have ip := icmpReport_flowIp 0 8 0
  obtain ⟨outcome, sent, flow, called, isSent, decoded, found⟩ :=
    always false events p _ _ .calm run starts ip known
  obtain ⟨tables, -, -, -, answered⟩ := run.packetIn called
  rw [answer_unicast starts (.inr ip), isSent] at answered
  generalize portOf _ (frameDst (packetInFrame (icmpReport 0 8 0))) = port at answered
  unfold flowOr at answered
  split at answered
  · have isFlow : sent = (flowFor _ port).encode := List.singleton_inj.mp answered
    have installs := flowFor_installs starts (.inr ip) port
    have single :
        (flowFor (Memory.ofList (icmpReport 0 8 0) Memory.zero) port).actions.length = 1 := by
      rw [installs.actions]
      rfl
    rw [isFlow, FlowMod.decode_encode (by omega)] at decoded
    rw [← Option.some.inj decoded] at found
    have plain := (ipFlow_matches_iff starts ip port).mp found
    exact absurd (plain.2 rfl).1 (by decide)
  · cases answered

theorem installed_flow_matches_echoReply :
    ∃ events p, (Process.initial false).deliverAll knownHost = some (events, p) ∧
      ∃ outcome sent flow,
        p.packetIn (Memory.ofList (icmpReport 0 0 0) Memory.zero) .calm = some outcome ∧
        outcome.sent = [sent] ∧ FlowMod.decode sent = some flow ∧
        (MatchesFrame flow.fields (be16 (icmpReport 0 0 0) OfpPacketIn.inPort)
          (packetInFrame (icmpReport 0 0 0)) ↔
        PlainHeaders (packetInFrame (icmpReport 0 0 0))) := by
  obtain ⟨events, p, delivered, run, known⟩ := knownHost_knows
  exact ⟨events, p, delivered, installed_flow_matches_iff run (Memory.starts_ofList _ _)
    (icmpReport_flowIp 0 0 0) known .calm⟩

end DAIM.Ani41
