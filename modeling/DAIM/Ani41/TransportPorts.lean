import DAIM.Library.Agreement
import DAIM.Ani41.FlowMods

/-!
# The ports of an installed flow

`action_packout` takes the transport header of a TCP or UDP packet to follow
20 octets of IP header.  Where it really is, the IP header tells.
-/

namespace DAIM.Ani41

open DAIM.Library DAIM.OpenFlow DAIM.Linked DAIM.Hosts

/-- The length of the IP header in words of four octets. -/
def frameIhl (frame : List UInt8) : Nat := (frame.getD OfEthernet.size 0 &&& 0x0f).toNat

/-- An IPv4 frame of TCP or UDP with an IP header of any length, complete up to
the ports of the transport header. -/
structure TransportIp (frame : List UInt8) : Prop where
  type : frameType frame = ipData
  protocol : frameProto frame = ipTypeTcp ∨ frameProto frame = ipTypeUdp
  least : 5 ≤ frameIhl frame
  complete : transportOffset frame + 4 ≤ frame.length

/-- Where the transport header of a packet without options starts. -/
def plainOffset : Nat := OfEthernet.size + Iphdr.size

/-- The first four octets behind a plain IP header are those of the transport
header: there are no options, or the first one looks like it. -/
def PortsInPlace (frame : List UInt8) : Prop :=
  frameIhl frame = 5 ∨
    (frame.drop plainOffset).take 4 = (frame.drop (transportOffset frame)).take 4

instance (frame : List UInt8) : Decidable (PortsInPlace frame) :=
  inferInstanceAs (Decidable (_ ∨ _))

section Fields

variable {frame : List UInt8}

theorem be16_inj {first second : Nat} (left : first + 2 ≤ frame.length)
    (right : second + 2 ≤ frame.length) :
    be16 frame first = be16 frame second ↔
      (frame.drop first).take 2 = (frame.drop second).take 2 := by
  have length {offset : Nat} (inside : offset + 2 ≤ frame.length) :
      ((frame.drop offset).take 2).length = 2 := by
    rw [List.length_take, List.length_drop]
    omega
  have bounded {offset : Nat} (inside : offset + 2 ≤ frame.length) :
      decode ((frame.drop offset).take 2) < 2 ^ 16 := by
    have most := combine_lt ((frame.drop offset).take 2).reverse
    rwa [List.length_reverse, length inside] at most
  refine ⟨fun same => ?_, fun same => by rw [be16, be16, same]⟩
  have numbers := congrArg UInt16.toNat same
  rw [be16, be16, UInt16.toNat_ofNat', UInt16.toNat_ofNat', Nat.mod_eq_of_lt (bounded left),
    Nat.mod_eq_of_lt (bounded right)] at numbers
  exact decode_inj ((length left).trans (length right).symm) numbers

/-- Two numbers behind each other are the same where their octets are. -/
theorem be16_pair_inj {first second : Nat} (left : first + 4 ≤ frame.length)
    (right : second + 4 ≤ frame.length) :
    be16 frame first = be16 frame second ∧ be16 frame (first + 2) = be16 frame (second + 2) ↔
      (frame.drop first).take 4 = (frame.drop second).take 4 := by
  have halves (offset : Nat) : (frame.drop offset).take 4 =
      (frame.drop offset).take 2 ++ (frame.drop (offset + 2)).take 2 := by
    rw [← List.drop_drop, ← List.take_add]
  rw [be16_inj (by omega) (by omega), be16_inj (by omega) (by omega), halves, halves second]
  refine ⟨fun ⟨low, high⟩ => by rw [low, high], fun same => List.append_inj same ?_⟩
  rw [List.length_take, List.length_take, List.length_drop, List.length_drop]
  omega

end Fields

section Called

variable {cbench : Bool} {events : List Event} {p : Process} {message : Memory} {env : Env}
variable {bytes : List UInt8}

theorem TransportIp.plain_le {frame : List UInt8} (ip : TransportIp frame) :
    plainOffset ≤ transportOffset frame := by
  have least : 5 ≤ (frame.getD OfEthernet.size 0 &&& 0x0f).toNat := ip.least
  show 14 + 20 ≤ 14 + 4 * (frame.getD OfEthernet.size 0 &&& 0x0f).toNat
  omega

theorem TransportIp.flowIp {frame : List UInt8} (ip : TransportIp frame) : FlowIp frame := by
  have plain : 34 ≤ transportOffset frame := ip.plain_le
  have complete := ip.complete
  exact ⟨ip.type, .inr ip.protocol, by omega⟩

/-- The ports of the flow are read behind 20 octets of IP header. -/
theorem flowFor_ports (starts : message.Starts bytes) (ip : TransportIp (packetInFrame bytes))
    (port : UInt16) :
    (flowFor message port).fields.tpSrc = be16 (packetInFrame bytes) plainOffset ∧
      (flowFor message port).fields.tpDst = be16 (packetInFrame bytes) (plainOffset + 2) := by
  have frameLength := length_packetInFrame bytes
  have plain : 34 ≤ transportOffset (packetInFrame bytes) := ip.plain_le
  have complete := ip.complete
  have notArp : ¬ IsArp message := by
    rw [IsArp, parsePacketIn_eq starts (by omega)]
    exact ne_of_eq_of_ne ip.type (by decide)
  have protocol : payload message Iphdr.protocol = frameProto (packetInFrame bytes) := by
    apply payload_octet starts
    show 32 + 9 < _
    omega
  have notIcmp : payload message Iphdr.protocol ≠ ipTypeIcmp := by
    rw [protocol]
    rcases ip.protocol with tcp | udp
    · exact ne_of_eq_of_ne tcp (by decide)
    · exact ne_of_eq_of_ne udp (by decide)
  have source : ntohs ((payload message).load16 (Iphdr.size + Transport.source)) =
      be16 (packetInFrame bytes) plainOffset := by
    apply payload_ntohs starts
    show 32 + 20 + 2 ≤ _
    omega
  have dest : ntohs ((payload message).load16 (Iphdr.size + Transport.dest)) =
      be16 (packetInFrame bytes) (plainOffset + 2) := by
    apply payload_ntohs starts
    show 32 + 22 + 2 ≤ _
    omega
  rw [flowFor, if_neg notArp, ipFlow]
  simp only [if_neg notIcmp, Memory.load16_shift]
  exact ⟨source, dest⟩

/-- They are the ports of the packet exactly when the transport header is there,
or what is there looks like it. -/
theorem flowFor_ports_iff (starts : message.Starts bytes) (ip : TransportIp (packetInFrame bytes))
    (port : UInt16) :
    ((flowFor message port).fields.tpSrc =
        be16 (packetInFrame bytes) (transportOffset (packetInFrame bytes)) ∧
      (flowFor message port).fields.tpDst =
        be16 (packetInFrame bytes) (transportOffset (packetInFrame bytes) + 2)) ↔
      PortsInPlace (packetInFrame bytes) := by
  have plain := ip.plain_le
  have complete := ip.complete
  obtain ⟨source, dest⟩ := flowFor_ports starts ip port
  rw [source, dest, be16_pair_inj (by omega) complete, PortsInPlace]
  refine ⟨.inr, ?_⟩
  rintro (bare | same)
  · have there : transportOffset (packetInFrame bytes) = plainOffset :=
      congrArg (fun words => OfEthernet.size + 4 * words) bare
    rw [there]
  · exact same

/-- The ports of the flow that a packet to a known destination installs. -/
theorem installed_ports_iff (run : Process.Reaches cbench events p)
    (starts : message.Starts bytes) (ip : TransportIp (packetInFrame bytes))
    (known : Knows p.ani.hosts.contents (frameDst (packetInFrame bytes))) (env : Env) :
    ∃ outcome sent flow, p.packetIn message env = some outcome ∧ outcome.sent = [sent] ∧
      FlowMod.decode sent = some flow ∧
      ((flow.fields.tpSrc =
          be16 (packetInFrame bytes) (transportOffset (packetInFrame bytes)) ∧
        flow.fields.tpDst =
          be16 (packetInFrame bytes) (transportOffset (packetInFrame bytes) + 2)) ↔
        PortsInPlace (packetInFrame bytes)) := by
  obtain ⟨outcome, port, called, sent, decoded⟩ := run.installs starts ip.flowIp known env
  exact ⟨outcome, _, _, called, sent, decoded, flowFor_ports_iff starts ip port⟩

end Called

/-! ## A packet with options -/

/-- TCP from port 80 to port 443, with an IP header of the length that is given
and that many octets of options. -/
def tcpReport (versionIhl : UInt8) (options : List UInt8) : List UInt8 :=
  PacketInMessage.encode
    { xid := 7, bufferId := 257, totalLen := 58, inPort := 3, reason := 0
      data := ethernetFrame hostA hostB ipData
        ([versionIhl, 0, 0, 44, 0, 0, 0, 0, 64, ipTypeTcp, 0, 0, 10, 0, 0, 2, 10, 0, 0, 1] ++
          options ++ [0, 80, 1, 187, 0, 0, 0, 0, 0, 0, 0, 0, 80, 0, 0, 0, 0, 0, 0, 0]) }

theorem tcpReport_plain : TransportIp (packetInFrame (tcpReport 0x45 [])) :=
  ⟨rfl, .inl rfl, by decide, by decide⟩

/-- Four octets of options that do nothing. -/
theorem tcpReport_options : TransportIp (packetInFrame (tcpReport 0x46 [1, 1, 1, 1])) :=
  ⟨rfl, .inl rfl, by decide, by decide⟩

/-- The options are taken for the ports. -/
theorem options_taken_for_ports :
    ¬ ∀ cbench events p message bytes env, Process.Reaches cbench events p →
      message.Starts bytes → TransportIp (packetInFrame bytes) →
      Knows p.ani.hosts.contents (frameDst (packetInFrame bytes)) →
      ∃ outcome sent flow, p.packetIn message env = some outcome ∧ outcome.sent = [sent] ∧
        FlowMod.decode sent = some flow ∧
        flow.fields.tpSrc =
          be16 (packetInFrame bytes) (transportOffset (packetInFrame bytes)) ∧
        flow.fields.tpDst =
          be16 (packetInFrame bytes) (transportOffset (packetInFrame bytes) + 2) := by
  intro always
  obtain ⟨events, p, delivered, run, known⟩ := knownHost_knows
  have starts := Memory.starts_ofList (tcpReport 0x46 [1, 1, 1, 1]) Memory.zero
  obtain ⟨outcome, sent, flow, called, isSent, decoded, ports⟩ :=
    always false events p _ _ .calm run starts tcpReport_options known
  obtain ⟨other, port, calledToo, sentToo, decodedToo⟩ :=
    run.installs starts tcpReport_options.flowIp known .calm
  rw [called, Option.some.injEq] at calledToo
  subst calledToo
  obtain rfl := List.singleton_inj.mp (isSent.symm.trans sentToo)
  rw [decodedToo, Option.some.injEq] at decoded
  subst decoded
  have inPlace := (flowFor_ports_iff starts tcpReport_options port).mp ports
  exact absurd inPlace (by decide)

theorem installed_ports_iff_plain :
    ∃ events p, (Process.initial false).deliverAll knownHost = some (events, p) ∧
      ∃ outcome sent flow,
        p.packetIn (Memory.ofList (tcpReport 0x45 []) Memory.zero) .calm = some outcome ∧
        outcome.sent = [sent] ∧ FlowMod.decode sent = some flow ∧
        flow.fields.tpSrc = 80 ∧ flow.fields.tpDst = 443 := by
  obtain ⟨events, p, delivered, run, known⟩ := knownHost_knows
  obtain ⟨outcome, sent, flow, called, isSent, decoded, ports⟩ :=
    installed_ports_iff run (Memory.starts_ofList (tcpReport 0x45 []) Memory.zero)
      tcpReport_plain known .calm
  obtain ⟨source, dest⟩ := ports.mpr (.inl rfl)
  exact ⟨events, p, delivered, outcome, sent, flow, called, isSent, decoded, source, dest⟩

end DAIM.Ani41
