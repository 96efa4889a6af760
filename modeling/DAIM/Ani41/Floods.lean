import DAIM.Ani41.Ports
import DAIM.Ani41.Sent

/-!
# What a controller lets its switch flood

`action_packout` answers a broadcast ARP frame by a `PACKET_OUT` for `OFPP_FLOOD`.
The discovery thread counts its ports from 1 to the number in the features reply,
and it stays below `OFPP_FLOOD` when every features reply is whole.
-/

namespace DAIM.Ani41

open DAIM.Library DAIM.OpenFlow DAIM.Linked

/-- The `in_port` of a `PACKET_OUT` whose frame is flooded. -/
def floodPort (bytes : List UInt8) : Option UInt16 :=
  match PacketOut.decode bytes with
  | none => none
  | some packet =>
      if ofppFlood ∈ packet.actions.map ActionOutput.port then some packet.inPort else none

/-- The flooding messages that an event sends, by their `in_port`. -/
def Event.floods (event : Event) : List UInt16 := event.sent.filterMap floodPort

theorem floodPort_none {bytes : List UInt8} (other : PacketOut.decode bytes = none) :
    floodPort bytes = none := by
  unfold floodPort
  rw [other]

theorem floodPort_flood (packet : PacketIn) :
    floodPort (floodAnswer packet).encode = some packet.inPort := by
  unfold floodPort
  rw [PacketOut.decode_encode (by show 24 < 65536; decide)]
  simp [floodAnswer]

theorem floodPort_discovery {port : UInt16} {message : DiscoveryMessage}
    (physical : port ≠ ofppFlood) : floodPort (discoveryPacket port message).encode = none := by
  unfold floodPort
  rw [discoveryPacket_decode]
  have other : ¬ ofppFlood = port := Ne.symm physical
  simp [discoveryPacket, framePacket, other]

/-! ## The ports of the discovery -/

/-- Ports that the controller sends discovery frames to are not `OFPP_FLOOD`. -/
structure Process.Numbered (p : Process) : Prop where
  named : p.ani.noOfPorts < ofppFlood.toNat
  counted : ∀ thread ∈ p.threads, thread.portsCount < ofppFlood.toNat
  heard : ∃ tables, p.ani.Shows tables ∧ ∀ reply ∈ tables.swReplys, reply.portNo ≠ ofppFlood

/-- Messages with which the numbers stay in their range. -/
structure Call.Regular (call : Call) : Prop where
  whole : call.handler = .featuresReply → WholeReply call.message
  physical : call.handler = .packout → (parsePacketIn call.message).inPort ≠ ofppFlood

theorem Process.numbered_initial (cbench : Bool) : (Process.initial cbench).Numbered where
  named := by
    show (-1 : Int) < _
    decide
  counted := fun _ impossible => absurd impossible List.not_mem_nil
  heard := ⟨Tables.empty, Ani.initial_shows cbench, fun _ impossible =>
    absurd impossible List.not_mem_nil⟩

theorem featuresCount_lt {message : Memory} (whole : WholeReply message) :
    featuresCount message < ofppFlood.toNat := by
  have bounded := (ntohs (message.load16 OfpHeader.length)).toNat_lt
  rw [featuresCount, portCount_eq whole]
  show ((_ - 32) / 48 : Nat) < ((65531 : Nat) : Int)
  omega

theorem Process.Step.noOfPorts_lt {p q : Process} {event : Event} (step : Process.Step p event q)
    (numbered : p.Numbered) (regular : ∀ call, event = .handled call → call.Regular) :
    q.ani.noOfPorts < ofppFlood.toNat := by
  cases event with
  | handled call =>
      obtain ⟨started, ofBuffer, outcome, called⟩ := step.called
      obtain ⟨tables, shows, -⟩ := numbered.heard
      have knows : p.Knows ⟨p.ani.switchId, p.ani.noOfPorts, tables⟩ :=
        ⟨rfl, rfl, tables, shows, rfl, rfl⟩
      rw [(called.knows knows).noOfPorts]
      unfold Told.take
      cases handler : call.handler with
      | featuresReply =>
          simp only
          split
          · show (0 : Int) < _
            decide
          · exact featuresCount_lt ((regular call rfl).whole handler)
      | _ => exact numbered.named
  | _ =>
      rw [step.noOfPorts_kept fun call => nofun]
      exact numbered.named

/-- A thread takes the number of ports over when its round starts. -/
theorem ShareStep.portsCount {index : Nat} {s next : Ani} {thread after : Thread}
    {sent : Option (List UInt8)} (step : ShareStep index s thread sent next after) :
    after.portsCount = thread.portsCount ∨ after.portsCount = s.noOfPorts := by
  cases step with
  | resetRound _ => exact .inr rfl
  | _ => exact .inl rfl

/-- The threads after a step: as before, one more, or one of them went on. -/
theorem Process.Step.threads_cases {p q : Process} {event : Event}
    (step : Process.Step p event q) {thread : Thread} (running : thread ∈ q.threads) :
    thread ∈ p.threads ∨ thread = .initial ∨
      ∃ before ∈ p.threads, thread.portsCount = before.portsCount ∨
        thread.portsCount = p.ani.noOfPorts := by
  have spawned {threads : List Thread} {spawned : Bool} (member : thread ∈ spawn threads spawned) :
      thread ∈ threads ∨ thread = .initial := by
    unfold spawn at member
    split at member
    · exact (List.mem_append.mp member).imp_right List.mem_singleton.mp
    · exact .inl member
  have moved {s next : Ani} {threads : List Thread} {index : Nat} {before after : Thread}
      {sent : Option (List UInt8)} (found : threads[index]? = some before)
      (share : ShareStep index s before sent next after)
      (member : thread ∈ threads.set index after) :
      thread ∈ threads ∨ ∃ before ∈ threads, thread.portsCount = before.portsCount ∨
        thread.portsCount = s.noOfPorts := by
    rcases List.mem_or_eq_of_mem_set member with old | rfl
    · exact .inl old
    · exact .inr ⟨before, List.mem_of_getElem? found, share.portsCount⟩
  cases step with
  | answered _ _ _ => exact (spawned running).imp_right .inl
  | scanAnswered _ _ _ _ => exact (spawned running).imp_right .inl
  | thread found share => exact (moved found share running).imp_right .inr
  | shared found share => exact (moved found share running).imp_right .inr
  | _ => exact .inl running

theorem Process.Step.numbered {p q : Process} {event : Event} (step : Process.Step p event q)
    (numbered : p.Numbered) (regular : ∀ call, event = .handled call → call.Regular) :
    q.Numbered where
  named := step.noOfPorts_lt numbered regular
  counted := by
    intro thread running
    rcases step.threads_cases running with before | rfl | ⟨before, earlier, same | same⟩
    · exact numbered.counted thread before
    · show (-1 : Int) < _
      decide
    · exact same ▸ numbered.counted before earlier
    · exact same ▸ numbered.named
  heard := by
    obtain ⟨tables, shows, physical⟩ := numbered.heard
    obtain ⟨after, kept, change⟩ := step.change shows
    refine ⟨after, kept, fun reply member => ?_⟩
    rcases change.swReplys member with old | ⟨call, rfl, handler, -, port⟩
    · exact physical reply old
    · rw [port]
      exact (regular call rfl).physical handler

/-! ## What the threads send -/

/-- A discovery thread sends out of a port that is not `OFPP_FLOOD`. -/
theorem Process.Step.shared_physical {p q : Process} {index : Nat} {bytes : List UInt8}
    (step : Process.Step p (.shared index bytes) q) (numbered : p.Numbered) :
    ∃ port message, bytes = (discoveryPacket port message).encode ∧ port ≠ ofppFlood := by
  cases step with
  | @shared s next place threads index thread after bytes found share =>
      generalize isSent : some bytes = sent at share
      cases share with
      | @probe portno _ bound =>
          have same := Option.some.inj isSent
          have counted : thread.portsCount < (65531 : Nat) :=
            numbered.counted thread (List.mem_of_getElem? found)
          refine ⟨UInt16.ofNat portno, .echoRequest, same.trans (echoRequestPacketOut_bytes _),
            fun flood => ?_⟩
          have small : portno < UInt16.size := by
            show portno < 65536
            omega
          have number : (UInt16.ofNat portno).toNat = 65531 := congrArg UInt16.toNat flood
          rw [UInt16.toNat_ofNat_of_lt' small] at number
          omega
      | @shareNode p reply _ read =>
          have same := Option.some.inj isSent
          obtain ⟨tables, shows, physical⟩ := numbered.heard
          exact ⟨reply.portNo, _, same.trans (nodePacketOut_bytes _ _),
            physical reply (shows.swReplys.readObject read)⟩
      | _ => cases isSent

end DAIM.Ani41
