import DAIM.Ani41.Dispatch

/-!
# Messages whose handling stays inside them

What follows a message in the buffer makes no difference to its round exactly
when the octets that the round depends on are all in the message.
-/

namespace DAIM.Ani41

open DAIM.Library DAIM.OpenFlow DAIM.Linked DAIM.Com DAIM.Hosts

/-- The same message of version 1, as far as its header says. -/
structure SameMessage (first second : Memory) : Prop where
  version : second OfpHeader.version = ofpVersion
  length : statedLength second = statedLength first
  octets : Memory.Agree (statedLength first) first second

/-- In the benchmark mode the message has the same effect at every place of
every buffer, whatever follows it. -/
def Isolated (message : Memory) : Prop :=
  ∀ env s first second position, s.cbench = true → first.shift position = message →
    SameMessage message (second.shift position) →
      handling env s first position = handling env s second position

theorem isolated_of_extent {message : Memory} (inside : extent message ≤ statedLength message) :
    Isolated message := by
  rintro env s first second position - rfl same
  exact handling_agree (same.octets.mono inside)

/-! ## Changing what follows -/

section Changes

variable {message changed : Memory} {index : Nat}

theorem SameMessage.refl (known : message OfpHeader.version = ofpVersion) :
    SameMessage message message :=
  ⟨known, rfl, Memory.Agree.refl _ _⟩

/-- An octet behind the message can be changed, when it is none of the header's
version and length. -/
theorem SameMessage.update (same : SameMessage message changed)
    (behind : statedLength message ≤ index) (apart : index = 1 ∨ 4 ≤ index) (value : UInt8) :
    SameMessage message (Function.update changed index value) := by
  have kept (other : Nat) (header : other = 0 ∨ other = 2 ∨ other = 3) :
      Function.update changed index value other = changed other :=
    Function.update_of_ne (by omega) _ _
  have length : Memory.slice (Function.update changed index value) OfpHeader.length 2 =
      changed.slice OfpHeader.length 2 := by
    have first := kept 2 (by omega)
    have second := kept 3 (by omega)
    exact congrArg₂ (fun left right => [left, right]) first second
  refine ⟨(kept 0 (by omega)).trans same.version, ?_, ?_⟩
  · rw [← same.length, statedLength, Memory.load16, length, statedLength, Memory.load16]
  · exact same.octets.trans (Memory.Agree.update changed value behind)

theorem Isolated.same {first second : Memory} (isolated : Isolated message)
    (left : SameMessage message first) (right : SameMessage message second) (env : Env) {s : Ani}
    (bench : s.cbench = true) : handling env s first 0 = handling env s second 0 := by
  have shifted {other : Memory} (same : SameMessage message other) :
      SameMessage message (other.shift 0) := by
    rwa [Memory.shift_zero]
  have toFirst := isolated env s message first 0 bench (Memory.shift_zero message) (shifted left)
  have toSecond := isolated env s message second 0 bench (Memory.shift_zero message)
    (shifted right)
  exact toFirst.symm.trans toSecond

end Changes

/-! ## The effects of the handlers -/

/-- A state of the benchmark mode in which every handler returns. -/
structure Ani.Fit (s : Ani) (tables : Tables) : Prop where
  bench : s.cbench = true
  whole : s.Whole
  shows : s.Shows tables

theorem Ani.initial_fit : (Ani.initial true).Fit Tables.empty :=
  ⟨rfl, Ani.initial_whole true, Ani.initial_shows true⟩

/-- A state that knows one host. -/
theorem fit_knowing (host : SwitchHost) :
    ∃ s : Ani, s.Fit { Tables.empty with hosts := [host] } := by
  obtain ⟨added, -, holds, -⟩ := ObjectList.holds_empty.addFilled_eq host
  let initial := Ani.initial true
  have whole := Ani.initial_whole true
  have shows := Ani.initial_shows true
  exact ⟨{ initial with hosts := added }, rfl,
    ⟨⟨⟨_, holds⟩, whole.ports, whole.rewound, whole.links, whole.swReplys⟩, whole.free⟩,
    ⟨.inl ⟨_, holds, rfl⟩, shows.ports, shows.links, shows.swReplys⟩⟩

section Effects

variable {message : Memory} {s : Ani} {tables : Tables}

theorem Ani.Fit.facing (fit : s.Fit tables) (message : Memory) : (s.facing message 0).Fit tables :=
  ⟨fit.bench, fit.whole.congr rfl rfl rfl rfl rfl,
    ⟨fit.shows.hosts, fit.shows.ports, fit.shows.links, fit.shows.swReplys⟩⟩

theorem facing_message (s : Ani) (message : Memory) :
    (s.facing message 0).readBuffer.shift 0 = message :=
  Memory.shift_zero message

theorem handling_zero {handler : Handler}
    (chosen : dispatch (message OfpHeader.type) = some handler) (env : Env) (s : Ani) :
    handling env s message 0 = (handle handler env 0 (s.facing message 0)).map fun outcome =>
      outcome.ani.effect outcome.sent :=
  handling_some (by rwa [Memory.shift_zero])

/-- A `HELLO` is answered under its own number. -/
theorem handling_hello (fit : s.Fit tables) (type : message OfpHeader.type = ofptHello) :
    ∃ effect, handling .calm s message 0 = some effect ∧
      effect.sent.head? =
        some (headerMessage ofptHello (ntohl (message.load32 OfpHeader.xid))) := by
  have chosen : dispatch (message OfpHeader.type) = some .hello := by rw [type]; rfl
  refine ⟨_, handling_zero chosen .calm s, ?_⟩
  obtain ⟨-, -, -, sent⟩ := actionHello_spec (fit.facing message).shows
    (Eq.refl (actionHello .calm 0 (s.facing message 0)))
  rw [facing_message] at sent
  show (actionHello .calm 0 (s.facing message 0)).sent.head? = _
  rcases sent with one | two
  · rw [one]
    rfl
  · rw [two]
    rfl

/-- An echo request is answered under its own number. -/
theorem handling_echo (fit : s.Fit tables) (type : message OfpHeader.type = ofptEchoRequest) :
    ∃ effect, handling .calm s message 0 = some effect ∧
      effect.sent.head? =
        some (headerMessage ofptEchoReply (ntohl (message.load32 OfpHeader.xid))) := by
  have chosen : dispatch (message OfpHeader.type) = some .echo := by rw [type]; rfl
  refine ⟨_, handling_zero chosen .calm s, ?_⟩
  obtain ⟨-, -, -, sent⟩ := actionEcho_spec (fit.facing message).shows
    (Eq.refl (actionEcho .calm 0 (s.facing message 0)))
  rw [facing_message] at sent
  show (actionEcho .calm 0 (s.facing message 0)).sent.head? = _
  rw [sent]
  rfl

theorem handling_unknown (type : dispatch (message OfpHeader.type) = none) :
    ∃ effect, handling .calm s message 0 = some effect ∧ effect.sent.head? = none :=
  ⟨s.effect [], handling_none (by rwa [Memory.shift_zero]), rfl⟩

/-- The records of a features reply are those of the table that was empty. -/
theorem handling_reply (fit : s.Fit Tables.empty)
    (type : message OfpHeader.type = ofptFeaturesReply) (some : featuresCount message ≠ 0) :
    ∃ effect, handling .calm s message 0 = Option.some effect ∧
      effect.ports = portEntries .calm message (Told.datapathId message)
        (featuresCount message).toNat 0 := by
  have chosen : dispatch (message OfpHeader.type) = Option.some .featuresReply := by rw [type]; rfl
  obtain ⟨outcome, run, -⟩ := actionFeaturesReply_whole (fit.facing message).whole
    calm_allocating 0
  obtain ⟨-, -, -, -, -, after⟩ := actionFeaturesReply_spec (fit.facing message).shows run
  have ports : portCount (ntohs (message.load16 OfpHeader.length)) ≠ 0 := some
  rw [facing_message, if_neg ports] at after
  refine ⟨outcome.ani.effect outcome.sent, ?_, ?_⟩
  · rw [handling_zero chosen]
    exact congrArg (Option.map fun outcome : Outcome => outcome.ani.effect outcome.sent) run
  · exact after.1.ports.contents_eq

/-- What a packet leads to from the given tables. -/
def packetEffect (tables : Tables) (switchId : UInt64) (message : Memory) : Effect :=
  let after := tables.packout true switchId message
  ⟨(answer true after.hosts message).bytes, after.hosts, after.ports, after.links, after.swReplys⟩

theorem packetEffect_sent (tables : Tables) (switchId : UInt64) (message : Memory) :
    (packetEffect tables switchId message).sent =
      (answer true (tables.packout true switchId message).hosts message).bytes := rfl

theorem handling_packet (fit : s.Fit tables) (type : message OfpHeader.type = ofptPacketIn) :
    handling .calm s message 0 = some (packetEffect tables s.switchId message) := by
  have chosen : dispatch (message OfpHeader.type) = some .packout := by rw [type]; rfl
  obtain ⟨outcome, run, -⟩ := actionPackout_whole (fit.facing message).whole calm_allocating 0
  obtain ⟨sends, -⟩ := actionPackout_spec (fit.facing message).shows run
  have bench : (s.facing message 0).cbench = true := fit.bench
  have calm : Env.calm.allocated 0 = true := rfl
  rw [facing_message, calm, bench] at sends
  rw [handling_zero chosen]
  refine (congrArg (Option.map fun outcome : Outcome => outcome.ani.effect outcome.sent) run).trans
    (congrArg some ?_)
  have shows := sends.shows
  simp only at shows
  simp only [Ani.effect, packetEffect, shows.hosts.contents_eq, shows.ports.contents_eq,
    shows.links.contents_eq, shows.swReplys.contents_eq]
  congr 1
  exact sends.sent

end Effects

/-! ## Two messages that differ behind their end -/

section Probes

variable {message : Memory}

theorem update_slice_ne (memory : Memory) {offset length index : Nat} (inside : index < length) :
    Memory.slice (Function.update memory (offset + index) 0) offset length ≠
      Memory.slice (Function.update memory (offset + index) 1) offset length := by
  intro same
  have octet := Memory.octet_of_slice same inside
  rw [Function.update_self, Function.update_self] at octet
  exact absurd octet (by decide)

theorem headerMessage_inj {type : UInt8} {first second : UInt32}
    (same : headerMessage type first = headerMessage type second) : first = second := by
  have number (xid : UInt32) : be32 (headerMessage type xid) OfpHeader.xid = xid := be32_eq rfl
  rw [← number first, same, number]

/-- Without its type the message may be any. -/
theorem not_isolated_type (known : message OfpHeader.version = ofpVersion)
    (short : statedLength message ≤ 1) : ¬ Isolated message := by
  intro isolated
  have start := SameMessage.refl known
  have same := isolated.same (start.update short (.inl rfl) ofptHello)
    (start.update short (.inl rfl) 1) .calm Ani.initial_fit.bench
  obtain ⟨hello, first, answered⟩ := handling_hello Ani.initial_fit
    (Function.update_self 1 ofptHello message)
  have unhandled : dispatch (Function.update message 1 1 OfpHeader.type) = none := by
    rw [Function.update_self]
    rfl
  obtain ⟨other, second, silent⟩ := handling_unknown unhandled (s := Ani.initial true)
  rw [first, second] at same
  cases Option.some.inj same
  rw [answered] at silent
  cases silent

/-- Without its number a request cannot be answered under it. -/
theorem not_isolated_number (known : message OfpHeader.version = ofpVersion)
    (short : statedLength message < OfpHeader.xid + 4) {reply : UInt8}
    (answers : ∀ other : Memory, other OfpHeader.type = message OfpHeader.type →
      ∃ effect, handling .calm (Ani.initial true) other 0 = some effect ∧
        effect.sent.head? = some (headerMessage reply (ntohl (other.load32 OfpHeader.xid)))) :
    ¬ Isolated message := by
  intro isolated
  have start := SameMessage.refl known
  have behind : statedLength message ≤ OfpHeader.xid + 3 := by
    show _ ≤ 4 + 3
    have : statedLength message < 4 + 4 := short
    omega
  have same := isolated.same (start.update behind (.inr (by decide)) 0)
    (start.update behind (.inr (by decide)) 1) .calm Ani.initial_fit.bench
  have typed (value : UInt8) : Function.update message (OfpHeader.xid + 3) value OfpHeader.type =
      message OfpHeader.type := Function.update_of_ne (by decide) _ _
  obtain ⟨left, first, answered⟩ := answers _ (typed 0)
  obtain ⟨right, second, answeredToo⟩ := answers _ (typed 1)
  rw [first, second] at same
  cases Option.some.inj same
  have numbers := headerMessage_inj (Option.some.inj (answered.symm.trans answeredToo))
  exact update_slice_ne message (by decide) (Memory.slice_of_ntohl numbers)

theorem portEntries_head {switchId : UInt64} {rounds : Nat} (some : 0 < rounds) :
    (portEntries .calm message switchId rounds 0).head? =
      Option.some (switchPort message switchId 0) := by
  obtain ⟨more, rfl⟩ := Nat.exists_eq_add_of_lt some
  rw [Nat.zero_add, portEntries, List.range'_succ]
  rfl

/-- The first record of a features reply that is shorter than its fixed part
is behind it. -/
theorem not_isolated_reply (known : message OfpHeader.version = ofpVersion)
    (type : message OfpHeader.type = ofptFeaturesReply)
    (short : statedLength message < OfpSwitchFeatures.size) : ¬ Isolated message := by
  intro isolated
  have start := SameMessage.refl known
  have behind : statedLength message ≤ OfpSwitchFeatures.ports + 1 := by
    show _ ≤ 32 + 1
    have : statedLength message < 32 := short
    omega
  have same := isolated.same (start.update behind (.inr (by decide)) 0)
    (start.update behind (.inr (by decide)) 1) .calm Ani.initial_fit.bench
  have typed (value : UInt8) : Function.update message (OfpSwitchFeatures.ports + 1) value
      OfpHeader.type = ofptFeaturesReply := (Function.update_of_ne (by decide) _ _).trans type
  have many (value : UInt8) :
      featuresCount (Function.update message (OfpSwitchFeatures.ports + 1) value) > 1364 := by
    apply portCount_short_many
    have stated := (start.update behind (.inr (by decide)) value).length
    exact lt_of_eq_of_lt stated short
  obtain ⟨left, first, ports⟩ := handling_reply Ani.initial_fit (typed 0)
    (by have := many 0; omega)
  obtain ⟨right, second, portsToo⟩ := handling_reply Ani.initial_fit (typed 1)
    (by have := many 1; omega)
  rw [first, second] at same
  cases Option.some.inj same
  have entries := congrArg List.head? (ports.symm.trans portsToo)
  rw [portEntries_head (by have := many 0; omega), portEntries_head (by have := many 1; omega)]
    at entries
  have numbers := congrArg SwitchPort.portNo (Option.some.inj entries)
  simp only [switchPort, Memory.load16_shift] at numbers
  exact update_slice_ne message (by decide) (Memory.slice_of_ntohs numbers)

/-! ## Packets -/

theorem Isolated.packet {first second : Memory} (isolated : Isolated message)
    (left : SameMessage message first) (right : SameMessage message second) {s : Ani}
    {tables : Tables} (fit : s.Fit tables) (typed : first OfpHeader.type = ofptPacketIn)
    (typedToo : second OfpHeader.type = ofptPacketIn) :
    packetEffect tables s.switchId first = packetEffect tables s.switchId second := by
  have same := isolated.same left right .calm fit.bench
  rw [handling_packet fit typed, handling_packet fit typedToo] at same
  exact Option.some.inj same

theorem packetType_of {type : UInt16} (high : message 30 = UInt8.ofNat (type.toNat / 256))
    (low : message 31 = UInt8.ofNat (type.toNat % 256)) : (parsePacketIn message).type = type := by
  apply UInt16.toNat_inj.mp
  have bounded := type.toNat_lt
  rw [packetType_toNat, high, low, UInt8.toNat_ofNat', UInt8.toNat_ofNat']
  omega

/-- A packet of a type without a branch is not answered. -/
theorem packetEffect_other {tables : Tables} {switchId : UInt64} {type : UInt16}
    (named : (parsePacketIn message).type = type)
    (other : type ∉ [ip6Data, arpData, ipData, lldpData]) :
    packetEffect tables switchId message =
      ⟨[], tables.hosts, tables.ports, tables.links, tables.swReplys⟩ := by
  subst named
  simp only [List.mem_cons, List.not_mem_nil, or_false, not_or] at other
  obtain ⟨ip6, arp, ip, lldp⟩ := other
  unfold packetEffect answer
  rw [packout_of_ne tables arp lldp]
  simp only [if_neg ip6, if_neg arp, if_neg ip, if_neg lldp]
  rfl

/-- An IPv6 packet is flooded. -/
theorem packetEffect_ip6 {tables : Tables} {switchId : UInt64}
    (ip6 : (parsePacketIn message).type = ip6Data) :
    (packetEffect tables switchId message).sent =
      [(floodAnswer (parsePacketIn message)).encode] := by
  unfold packetEffect answer
  simp only [if_pos ip6]
  rfl

/-- An ARP packet enters its sender into an empty table. -/
theorem packetEffect_arp {switchId : UInt64} (arp : (parsePacketIn message).type = arpData) :
    (packetEffect Tables.empty switchId message).hosts = [hostEntry switchId message] := by
  unfold packetEffect
  rw [packout_of_arp Tables.empty arp]
  rfl

theorem packetEffect_lldp {tables : Tables} {switchId : UInt64}
    (lldp : (parsePacketIn message).type = lldpData) :
    (packetEffect tables switchId message).sent =
      if payload message AnimHeader.type = animEchoRequest then
        [(discoveryPacket (parsePacketIn message).inPort .echoReply).encode]
      else [] := by
  have ip6 : (parsePacketIn message).type ≠ ip6Data := ne_of_eq_of_ne lldp (by decide)
  have arp : (parsePacketIn message).type ≠ arpData := ne_of_eq_of_ne lldp (by decide)
  have ip : (parsePacketIn message).type ≠ ipData := ne_of_eq_of_ne lldp (by decide)
  unfold packetEffect answer
  simp only [if_neg ip6, if_neg arp, if_neg ip, if_pos lldp]
  split <;> rfl

theorem payload_update (memory : Memory) (index : Nat) (value : UInt8) :
    payload (Function.update memory (32 + index) value) index = value :=
  Function.update_self _ _ _

theorem payload_update_of_ne (memory : Memory) {index other : Nat} (apart : other ≠ index)
    (value : UInt8) : payload (Function.update memory (32 + index) value) other =
      payload memory other :=
  Function.update_of_ne (fun same => apart (Nat.add_left_cancel same)) _ _

/-- A change behind the Ethernet header leaves the packet as it is. -/
theorem parsePacketIn_update (memory : Memory) (index : Nat) (value : UInt8) :
    parsePacketIn (Function.update memory (32 + index) value) = parsePacketIn memory :=
  (parsePacketIn_agree (Memory.Agree.update memory value (Nat.le_add_right 32 index))).symm

/-- Without the second octet of its Ethernet type a frame may have a branch or none. -/
theorem not_isolated_branching {changed : Memory} (start : SameMessage message changed)
    (short : statedLength message ≤ 31) (typed : changed OfpHeader.type = ofptPacketIn)
    (branches : Branching (changed 30)) : ¬ Isolated message := by
  intro isolated
  have altered (low : UInt8) : SameMessage message (Function.update changed 31 low) :=
    start.update short (.inr (by decide)) low
  have still (low : UInt8) : Function.update changed 31 low OfpHeader.type = ofptPacketIn :=
    (Function.update_of_ne (by decide) _ _).trans typed
  have high (low : UInt8) : Function.update changed 31 low 30 = changed 30 :=
    Function.update_of_ne (by decide) _ _
  have lowest (low : UInt8) : Function.update changed 31 low 31 = low := Function.update_self _ _ _
  rcases branches with eight | ip6 | lldp
  · have arp : (parsePacketIn (Function.update changed 31 0x06)).type = arpData :=
      packetType_of ((high _).trans eight) (lowest _)
    have other : (parsePacketIn (Function.update changed 31 0x01)).type = 0x0801 :=
      packetType_of ((high _).trans eight) (lowest _)
    have same := isolated.packet (altered 0x06) (altered 0x01) Ani.initial_fit (still _) (still _)
    have hosts := congrArg Effect.hosts same
    rw [packetEffect_arp arp, packetEffect_other other (by decide)] at hosts
    cases hosts
  · have flood : (parsePacketIn (Function.update changed 31 0xdd)).type = ip6Data :=
      packetType_of ((high _).trans ip6) (lowest _)
    have other : (parsePacketIn (Function.update changed 31 0)).type = 0x8600 :=
      packetType_of ((high _).trans ip6) (lowest _)
    have same := isolated.packet (altered 0xdd) (altered 0) Ani.initial_fit (still _) (still _)
    have sent := congrArg Effect.sent same
    rw [packetEffect_ip6 flood, packetEffect_other other (by decide)] at sent
    cases sent
  · let request := Function.update (Function.update changed 31 0xcc) 32 animEchoRequest
    have asks : SameMessage message request :=
      (altered 0xcc).update (Nat.le_succ_of_le short) (.inr (by decide)) _
    have front : Memory.Agree 32 (Function.update changed 31 0xcc) request :=
      Memory.Agree.update _ _ (le_refl 32)
    have discovery : (parsePacketIn request).type = lldpData := by
      rw [← parsePacketIn_agree front]
      exact packetType_of ((high _).trans lldp) (lowest _)
    have other : (parsePacketIn (Function.update changed 31 0)).type = 0x8800 :=
      packetType_of ((high _).trans lldp) (lowest _)
    have octet : payload request AnimHeader.type = animEchoRequest :=
      payload_update (Function.update changed 31 0xcc) AnimHeader.type animEchoRequest
    have same := isolated.packet asks (altered 0) Ani.initial_fit
      ((front _ (by decide)).symm.trans (still _)) (still _)
    have sent := congrArg Effect.sent same
    rw [packetEffect_lldp discovery, if_pos octet, packetEffect_other other (by decide)] at sent
    cases sent

/-- The effects of a packet with two values of an octet behind its end. -/
theorem Isolated.payload (isolated : Isolated message)
    (known : message OfpHeader.version = ofpVersion) (typed : message OfpHeader.type = ofptPacketIn)
    {index : Nat} (short : statedLength message ≤ 32 + index) {s : Ani} {tables : Tables}
    (fit : s.Fit tables) (first second : UInt8) :
    packetEffect tables s.switchId (Function.update message (32 + index) first) =
      packetEffect tables s.switchId (Function.update message (32 + index) second) := by
  have start := SameMessage.refl known
  have still (value : UInt8) : Function.update message (32 + index) value OfpHeader.type =
      ofptPacketIn := (Function.update_of_ne (by show 1 ≠ 32 + index; omega) _ _).trans typed
  exact isolated.packet (start.update short (.inr (by omega)) _)
    (start.update short (.inr (by omega)) _) fit (still _) (still _)

/-- Without its first octet an LLDP frame may be a request. -/
theorem not_isolated_lldp (known : message OfpHeader.version = ofpVersion)
    (typed : message OfpHeader.type = ofptPacketIn)
    (lldp : (parsePacketIn message).type = lldpData)
    (short : statedLength message ≤ 32 + AnimHeader.type) : ¬ Isolated message := by
  intro isolated
  have sent := congrArg Effect.sent
    (isolated.payload known typed short Ani.initial_fit animEchoRequest 3)
  rw [packetEffect_lldp (by rwa [parsePacketIn_update]), payload_update, if_pos rfl,
    packetEffect_lldp (by rwa [parsePacketIn_update]), payload_update, if_neg (by decide)] at sent
  cases sent

/-- Without its last octet a `NODE` names another port. -/
theorem not_isolated_node (known : message OfpHeader.version = ofpVersion)
    (typed : message OfpHeader.type = ofptPacketIn) (node : IsDiscovery message animNode)
    (short : statedLength message ≤ 32 + (AnimHeader.size + NetNodeWire.portNo + 1)) :
    ¬ Isolated message := by
  intro isolated
  have links := congrArg Effect.links (isolated.payload known typed short Ani.initial_fit 0 1)
  have isNode (value : UInt8) : IsDiscovery (Function.update message
      (32 + (AnimHeader.size + NetNodeWire.portNo + 1)) value) animNode := by
    refine ⟨?_, ?_⟩
    · rw [parsePacketIn_update]
      exact node.1
    · rw [payload_update_of_ne message (by decide)]
      exact node.2
  have added (value : UInt8) : (packetEffect Tables.empty (Ani.initial true).switchId
      (Function.update message (32 + (AnimHeader.size + NetNodeWire.portNo + 1)) value)).links =
        [linkEntry (Ani.initial true).switchId
          (Function.update message (32 + (AnimHeader.size + NetNodeWire.portNo + 1)) value)] := by
    unfold packetEffect Tables.packout
    simp only [if_pos (isNode value)]
    rfl
  rw [added, added] at links
  have numbers :=
    congrArg (fun link : SwitchLink => link.nodeB.portNo) (List.head_eq_of_cons_eq links)
  simp only [linkEntry, payload, Memory.load16_shift] at numbers
  exact @update_slice_ne message 44 2 1 (by decide) (Memory.slice_of_ntohs numbers)

/-- Without its last octet the sender of an ARP packet has another address. -/
theorem not_isolated_arpSource (known : message OfpHeader.version = ofpVersion)
    (typed : message OfpHeader.type = ofptPacketIn)
    (arp : (parsePacketIn message).type = arpData) (short : statedLength message ≤ 32 + 17) :
    ¬ Isolated message := by
  intro isolated
  have hosts := congrArg Effect.hosts (isolated.payload known typed short Ani.initial_fit 0 1)
  rw [packetEffect_arp (by rwa [parsePacketIn_update]),
    packetEffect_arp (by rwa [parsePacketIn_update])] at hosts
  have addresses := congrArg SwitchHost.ipAddr (List.head_eq_of_cons_eq hosts)
  simp only [hostEntry, arpSource, payload, Memory.load32_shift] at addresses
  exact @update_slice_ne message 46 4 3 (by decide) (Memory.slice_of_ntohl addresses)

/-! ## Packets to a host that is known -/

theorem portOf_cons (host : SwitchHost) (rest : List SwitchHost) :
    portOf (host :: rest) host.macAddr = host.portNo := by
  simp [portOf, sameMac]

theorem encode_flow_inj {first second : FlowMod} (one : first.actions.length = 1)
    (oneToo : second.actions.length = 1) (same : [first.encode] = [second.encode]) :
    first = second := by
  have bytes := List.head_eq_of_cons_eq same
  have left := FlowMod.decode_encode (by rw [one]; decide : 72 + 8 * first.actions.length < 65536)
  have right := FlowMod.decode_encode
    (by rw [oneToo]; decide : 72 + 8 * second.actions.length < 65536)
  rw [bytes, right] at left
  exact (Option.some.inj left).symm

/-- Another host than the packet's destination may be known beside it. -/
theorem packetEffect_arpUnicast {switchId : UInt64} {host : SwitchHost}
    (arp : (parsePacketIn message).type = arpData)
    (unicast : (parsePacketIn message).dst ≠ Mac.broadcast)
    (here : host.macAddr = (parsePacketIn message).dst) (port : host.portNo ≠ 0) :
    (packetEffect { Tables.empty with hosts := [host] } switchId message).sent =
      [(arpFlow message host.portNo).encode] := by
  have isArp : IsArp message := arp
  obtain ⟨rest, longer⟩ := prefix_insertNew SwitchHost.macAddr [host] (hostEntry switchId message)
  rw [packetEffect_sent, packout_of_arp _ arp, answer_of_arp true _ isArp, if_neg unicast]
  simp only [if_true]
  rw [← longer, List.singleton_append, ← here, portOf_cons, flowOr, if_pos port]
  rfl

theorem packetEffect_ip {tables : Tables} {switchId : UInt64}
    (ip : (parsePacketIn message).type = ipData) :
    (packetEffect tables switchId message).sent =
      (if FlowProtocol (payload message Iphdr.protocol) then
        flowOr (portOf tables.hosts (parsePacketIn message).dst)
          (ipFlow message (portOf tables.hosts (parsePacketIn message).dst))
      else if payload message Iphdr.protocol = ipProtoUnknown then
        .packetOut (floodAnswer (parsePacketIn message))
      else .silent).bytes := by
  rw [packetEffect_sent, packout_of_ne _ (ne_of_eq_of_ne ip (by decide))
    (ne_of_eq_of_ne ip (by decide)), answer_of_ip true _ ip]

theorem packetEffect_ipKnown {switchId : UInt64} {host : SwitchHost}
    (ip : (parsePacketIn message).type = ipData)
    (protocol : FlowProtocol (payload message Iphdr.protocol))
    (here : host.macAddr = (parsePacketIn message).dst) (port : host.portNo ≠ 0) :
    (packetEffect { Tables.empty with hosts := [host] } switchId message).sent =
      [(ipFlow message host.portNo).encode] := by
  rw [packetEffect_ip ip, if_pos protocol, ← here, portOf_cons, flowOr, if_pos port]
  rfl

/-- Without its last octet a unicast ARP packet asks for another address. -/
theorem not_isolated_arpTarget (known : message OfpHeader.version = ofpVersion)
    (typed : message OfpHeader.type = ofptPacketIn)
    (arp : (parsePacketIn message).type = arpData)
    (unicast : (parsePacketIn message).dst ≠ Mac.broadcast)
    (short : statedLength message ≤ 32 + 27) : ¬ Isolated message := by
  intro isolated
  obtain ⟨s, fit⟩ := fit_knowing ⟨0, 1, (parsePacketIn message).dst, 0⟩
  have sent := congrArg Effect.sent (isolated.payload known typed short fit 0 1)
  have kept (value : UInt8) := parsePacketIn_update message 27 value
  have port : (1 : UInt16) ≠ 0 := by decide
  rw [packetEffect_arpUnicast (by rwa [kept]) (by rwa [kept]) (by rw [kept]) port,
    packetEffect_arpUnicast (by rwa [kept]) (by rwa [kept]) (by rw [kept]) port] at sent
  have flows := encode_flow_inj rfl rfl sent
  have addresses := congrArg (fun flow : FlowMod => flow.fields.nwDst) flows
  simp only [arpFlow, flowAnswer, arpTarget, payload, Memory.load32_shift] at addresses
  exact @update_slice_ne message 56 4 3 (by decide) (Memory.slice_of_ntohl addresses)

/-- Without its protocol an IPv4 packet may be flooded. -/
theorem not_isolated_protocol (known : message OfpHeader.version = ofpVersion)
    (typed : message OfpHeader.type = ofptPacketIn)
    (ip : (parsePacketIn message).type = ipData)
    (short : statedLength message ≤ 32 + Iphdr.protocol) : ¬ Isolated message := by
  intro isolated
  have sent := congrArg Effect.sent
    (isolated.payload known typed short Ani.initial_fit ipProtoUnknown 2)
  rw [packetEffect_ip (by rwa [parsePacketIn_update]), payload_update, if_neg (by decide),
    if_pos rfl, packetEffect_ip (by rwa [parsePacketIn_update]), payload_update,
    if_neg (by decide), if_neg (by decide)] at sent
  cases sent

/-- Without the last octet of an address or port the flow is for another one. -/
theorem not_isolated_flow (known : message OfpHeader.version = ofpVersion)
    (typed : message OfpHeader.type = ofptPacketIn)
    (ip : (parsePacketIn message).type = ipData)
    (protocol : FlowProtocol (payload message Iphdr.protocol)) {index : Nat}
    (apart : Iphdr.protocol ≠ index) (short : statedLength message ≤ 32 + index)
    (differ : ipFlow (Function.update message (32 + index) 0) 1 ≠
      ipFlow (Function.update message (32 + index) 1) 1) : ¬ Isolated message := by
  intro isolated
  obtain ⟨s, fit⟩ := fit_knowing ⟨0, 1, (parsePacketIn message).dst, 0⟩
  have sent := congrArg Effect.sent (isolated.payload known typed short fit 0 1)
  have kept (value : UInt8) := parsePacketIn_update message index value
  have port : (1 : UInt16) ≠ 0 := by decide
  have still (value : UInt8) := payload_update_of_ne message apart value
  rw [packetEffect_ipKnown (by rwa [kept]) (by rwa [still]) (by rw [kept]) port,
    packetEffect_ipKnown (by rwa [kept]) (by rwa [still]) (by rw [kept]) port] at sent
  exact differ (encode_flow_inj rfl rfl sent)

theorem not_isolated_ip (known : message OfpHeader.version = ofpVersion)
    (typed : message OfpHeader.type = ofptPacketIn)
    (ip : (parsePacketIn message).type = ipData)
    (short : statedLength message <
      if payload message Iphdr.protocol = ipTypeIcmp then 32 + Iphdr.daddr + 4
      else if payload message Iphdr.protocol = ipTypeTcp ∨
          payload message Iphdr.protocol = ipTypeUdp then
        32 + Iphdr.size + Transport.dest + 2
      else 32 + Iphdr.protocol + 1) : ¬ Isolated message := by
  by_cases icmp : payload message Iphdr.protocol = ipTypeIcmp
  · rw [if_pos icmp] at short
    apply not_isolated_flow known typed ip (.inl icmp) (by decide : Iphdr.protocol ≠ 19)
      (Nat.le_of_lt_succ short)
    intro same
    have addresses := congrArg (fun flow : FlowMod => flow.fields.nwDst) same
    simp only [ipFlow, flowAnswer, payload, Memory.load32_shift] at addresses
    exact @update_slice_ne message 48 4 3 (by decide) (Memory.slice_of_ntohl addresses)
  · rw [if_neg icmp] at short
    by_cases flow : payload message Iphdr.protocol = ipTypeTcp ∨
        payload message Iphdr.protocol = ipTypeUdp
    · rw [if_pos flow] at short
      apply not_isolated_flow known typed ip (.inr flow) (by decide : Iphdr.protocol ≠ 23)
        (Nat.le_of_lt_succ short)
      intro same
      have ports := congrArg (fun flow : FlowMod => flow.fields.tpDst) same
      have still (value : UInt8) :
          ¬ payload (Function.update message (32 + 23) value) Iphdr.protocol = ipTypeIcmp := by
        rwa [payload_update_of_ne message (by decide)]
      simp only [ipFlow, flowAnswer, if_neg (still 0), if_neg (still 1)] at ports
      simp only [payload, Memory.load16_shift] at ports
      exact @update_slice_ne message 54 2 1 (by decide) (Memory.slice_of_ntohs ports)
    · rw [if_neg flow] at short
      exact not_isolated_protocol known typed ip (Nat.le_of_lt_succ short)

/-- A packet that ends before what its handling depends on. -/
theorem not_isolated_packet (known : message OfpHeader.version = ofpVersion)
    (typed : message OfpHeader.type = ofptPacketIn)
    (short : statedLength message < packetExtent message) : ¬ Isolated message := by
  have start := SameMessage.refl known
  by_cases ended : statedLength message ≤ 31
  · by_cases untyped : statedLength message ≤ 30
    · apply not_isolated_branching (start.update untyped (.inr (by decide)) 0x86) ended
      · exact (Function.update_of_ne (by decide) _ _).trans typed
      · rw [Function.update_self]
        decide
    · by_cases branches : Branching (message 30)
      · exact not_isolated_branching start ended typed branches
      · rw [packetExtent_other branches] at short
        omega
  · unfold packetExtent at short
    simp only at short
    by_cases arp : (parsePacketIn message).type = arpData
    · rw [if_pos arp] at short
      by_cases front : statedLength message ≤ 32 + 17
      · exact not_isolated_arpSource known typed arp front
      · by_cases broadcast : (parsePacketIn message).dst = Mac.broadcast
        · rw [if_pos broadcast] at short
          exact absurd (Nat.le_of_lt_succ short) front
        · rw [if_neg broadcast] at short
          exact not_isolated_arpTarget known typed arp broadcast (Nat.le_of_lt_succ short)
    · rw [if_neg arp] at short
      by_cases ip : (parsePacketIn message).type = ipData
      · rw [if_pos ip] at short
        exact not_isolated_ip known typed ip short
      · rw [if_neg ip] at short
        by_cases lldp : (parsePacketIn message).type = lldpData
        · rw [if_pos lldp] at short
          by_cases node : payload message AnimHeader.type = animNode
          · rw [if_pos node] at short
            exact not_isolated_node known typed ⟨lldp, node⟩ (Nat.le_of_lt_succ short)
          · rw [if_neg node] at short
            exact not_isolated_lldp known typed lldp (Nat.le_of_lt_succ short)
        · rw [if_neg lldp] at short
          split at short <;> omega

end Probes

/-- What follows a message makes no difference if and only if its handling
depends on its own octets only. -/
theorem isolated_iff {message : Memory} (known : message OfpHeader.version = ofpVersion) :
    Isolated message ↔ extent message ≤ statedLength message := by
  refine ⟨fun isolated => ?_, isolated_of_extent⟩
  by_contra less
  have short := Nat.lt_of_not_le less
  rw [extent] at short
  cases chosen : dispatch (message OfpHeader.type) with
  | none =>
      rw [chosen] at short
      exact not_isolated_type known (Nat.le_of_lt_succ short) isolated
  | some handler =>
      rw [chosen] at short
      have type := dispatch_eq_some_iff.mp chosen
      cases handler with
      | hello =>
          exact not_isolated_number known short
            (fun other same => handling_hello Ani.initial_fit (same.trans type)) isolated
      | echo =>
          exact not_isolated_number known short
            (fun other same => handling_echo Ani.initial_fit (same.trans type)) isolated
      | featuresReply =>
          refine not_isolated_reply known type ?_ isolated
          by_contra whole
          have least : WholeReply message := Nat.le_of_not_lt whole
          have count : featuresCount message = ((statedLength message - 32) / 48 : Nat) :=
            portCount_eq least
          have inside : 32 ≤ statedLength message := least
          have longer : statedLength message < 32 + 48 * (featuresCount message).toNat := short
          omega
      | packout => exact not_isolated_packet known type short isolated

/-- A frame that is reported without anything behind its Ethernet header. -/
def headerReport : List UInt8 :=
  PacketInMessage.encode
    { xid := 7, bufferId := 258, totalLen := 60, inPort := 3, reason := 0
      data := ethernetFrame ⟨0x01, 0x80, 0xc2, 0, 0, 0x0e⟩ hostA lldpData [] }

/-- The octet behind the message is taken for the type of a discovery message. -/
theorem header_reads_on :
    ¬ ∀ message : Memory, message OfpHeader.version = ofpVersion → Isolated message := by
  intro always
  have known : Memory.ofList headerReport Memory.zero OfpHeader.version = ofpVersion := by decide
  exact not_isolated_lldp known (by decide) (by decide) (by decide) (always _ known)

theorem isolated_iff_header :
    Isolated (Memory.ofList headerReport Memory.zero) ↔
      extent (Memory.ofList headerReport Memory.zero) ≤
        statedLength (Memory.ofList headerReport Memory.zero) :=
  isolated_iff (by decide)

end DAIM.Ani41
