import DAIM.Ani41.Wire

/-!
# Frames with the type of the discovery

`action_packout` tells the discovery messages apart by the first octet behind
the Ethernet header, and looks neither at the length that the message states
nor at the length of the `PACKET_IN`.  Frames of the same Ethernet type that
others send start with an octet of their own.
-/

namespace DAIM.Ani41

open DAIM.Library DAIM.OpenFlow DAIM.Linked

/-- The frame of the `PACKET_IN` starts with a whole discovery message as its
sender encodes it: the type, its length, and so many octets. -/
structure WholeAnim (message : Memory) (type : UInt8) (octets : Nat) : Prop where
  type : payload message AnimHeader.type = type
  length : (ntohs ((payload message).load16 AnimHeader.length)).toNat = octets
  inside : OfpPacketIn.data + OfEthernet.size + octets ≤
    (ntohs (message.load16 OfpHeader.length)).toNat

abbrev WholeNode (message : Memory) : Prop :=
  WholeAnim message animNode (AnimHeader.size + NetNodeWire.size)

abbrev WholeEchoReply (message : Memory) : Prop :=
  WholeAnim message animEchoReply AnimHeader.size

/-- The two tables only grow by discovery messages. -/
structure Process.Discerns (p q : Process) (message : Memory) : Prop where
  links : q.ani.links.contents ≠ p.ani.links.contents → WholeNode message
  swReplys : q.ani.swReplys.contents ≠ p.ani.swReplys.contents → WholeEchoReply message

/-- What a call of `action_packout` leaves in the two tables. -/
theorem Process.Step.discovered {p q : Process} {call : Call} {tables : Tables}
    (step : Process.Step p (.handled call) q) (shows : p.ani.Shows tables)
    (packout : call.handler = .packout) :
    (q.ani.links.contents ≠ p.ani.links.contents ↔
        call.env.allocated 0 = true ∧ IsDiscovery call.message animNode) ∧
      (q.ani.swReplys.contents ≠ p.ani.swReplys.contents ↔
        call.env.allocated 0 = true ∧ IsDiscovery call.message animEchoReply) := by
  obtain ⟨started, ofBuffer, outcome, called⟩ := step.called
  obtain ⟨after, -⟩ := called.packout shows packout
  rw [after.links.contents_eq, after.swReplys.contents_eq, shows.links.contents_eq,
    shows.swReplys.contents_eq]
  unfold Tables.packout
  cases allocated : call.env.allocated 0 with
  | false => simp
  | true =>
      constructor
      · by_cases node : IsDiscovery call.message animNode <;> simp [node]
      · by_cases reply : IsDiscovery call.message animEchoReply <;> simp [reply]

/-- A frame with the Ethernet type of the discovery is taken for what it is if
and only if its first octet does not promise more than there is. -/
theorem discerns_iff {cbench : Bool} {events : List Event} {p q : Process} {call : Call}
    (run : Process.Reaches cbench events p) (step : Process.Step p (.handled call) q)
    (packout : call.handler = .packout) (lldp : (parsePacketIn call.message).type = lldpData) :
    p.Discerns q call.message ↔ (call.env.allocated 0 = true →
      (payload call.message AnimHeader.type = animNode → WholeNode call.message) ∧
      (payload call.message AnimHeader.type = animEchoReply → WholeEchoReply call.message)) := by
  obtain ⟨tables, shows, -⟩ := run.tables
  obtain ⟨links, swReplys⟩ := step.discovered shows packout
  constructor
  · intro discerns allocated
    exact ⟨fun node => discerns.links (links.mpr ⟨allocated, lldp, node⟩),
      fun reply => discerns.swReplys (swReplys.mpr ⟨allocated, lldp, reply⟩)⟩
  · intro whole
    constructor
    · intro grown
      obtain ⟨allocated, -, node⟩ := links.mp grown
      exact (whole allocated).1 node
    · intro grown
      obtain ⟨allocated, -, reply⟩ := swReplys.mp grown
      exact (whole allocated).2 reply

/-- A frame of IEEE 802.1AB: chassis, port, time to live and end. -/
def lldpReport : List UInt8 :=
  PacketInMessage.encode
    { xid := 7, bufferId := 258, totalLen := 35, inPort := 3, reason := 0
      data := ethernetFrame ⟨0x01, 0x80, 0xc2, 0, 0, 0x0e⟩ hostA lldpData
        ([0x02, 7, 4, 2, 0, 0, 0, 0, 0xa] ++ [0x04, 4, 7, 0x65, 0x74, 0x30] ++
          [0x06, 2, 0, 120] ++ [0, 0]) }

/-- The octet that starts its chassis is the type of a `NODE`. -/
theorem lldp_recorded :
    ¬ ∀ cbench events p q call, Process.Reaches cbench events p →
      Process.Step p (.handled call) q → call.handler = .packout →
      (parsePacketIn call.message).type = lldpData → p.Discerns q call.message := by
  intro always
  have computed : ((Process.initial false).deliver lldpReport .calm).map (fun delivered =>
      (delivered.1.handler, (parsePacketIn delivered.1.message).type,
        (ntohs ((payload delivered.1.message).load16 AnimHeader.length)).toNat,
        delivered.2.ani.links.contents.length)) = some (.packout, lldpData, 0x0402, 1) := by
    decide
  obtain ⟨⟨call, q⟩, delivered, result⟩ := Option.map_eq_some_iff.mp computed
  simp only [Prod.mk.injEq] at result
  obtain ⟨packout, lldp, length, one⟩ := result
  obtain ⟨p, received, handled⟩ := (Process.deliver_run delivered).cons_inv
  have discerns := always _ _ p q call (.single received) handled.single_inv packout lldp
  have before : p.ani.links.contents = [] := by
    cases received
    rfl
  have grown : q.ani.links.contents ≠ p.ani.links.contents := by
    intro same
    rw [same, before] at one
    exact absurd one (by decide)
  have stated := (discerns.links grown).length
  rw [length] at stated
  exact absurd stated (by decide)

theorem discerns_iff_lldp :
    ∃ p q call, Process.Reaches false [.received lldpReport] p ∧
      Process.Step p (.handled call) q ∧ call.env = Env.calm ∧
      (p.Discerns q call.message ↔ (call.env.allocated 0 = true →
        (payload call.message AnimHeader.type = animNode → WholeNode call.message) ∧
        (payload call.message AnimHeader.type = animEchoReply → WholeEchoReply call.message))) := by
  have computed : ((Process.initial false).deliver lldpReport .calm).map (fun delivered =>
      (delivered.1.handler, (parsePacketIn delivered.1.message).type)) =
        some (.packout, lldpData) := by
    decide
  obtain ⟨⟨call, q⟩, delivered, result⟩ := Option.map_eq_some_iff.mp computed
  simp only [Prod.mk.injEq] at result
  obtain ⟨packout, lldp⟩ := result
  obtain ⟨p, received, handled⟩ := (Process.deliver_run delivered).cons_inv
  exact ⟨p, q, call, .single received, handled.single_inv, Process.deliver_env delivered,
    discerns_iff (.single received) handled.single_inv packout lldp⟩

end DAIM.Ani41
