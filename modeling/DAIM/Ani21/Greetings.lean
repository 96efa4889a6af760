import DAIM.OpenFlow.Frames
import DAIM.PacketIn
import DAIM.Ani21.Handlers

/-!
# The message of a controller

The text that a thread sends out of a port, from `sprintf` in one controller to
the console of the next one: the switch that it comes in at reports at least 128
octets of the frame, and the text is shorter than that.
-/

namespace DAIM.Ani21

open DAIM.Library DAIM.OpenFlow DAIM.Com
open DAIM.Ani41 (discoveryPacketOut animOffset lldpFrame framePacket)

/-! ## The text -/

theorem zero_notMem_greeting (datap : UInt64) : 0 ∉ greeting datap := by
  intro member
  rcases List.mem_append.mp member with text | digits
  · revert text
    decide
  · exact zero_notMem_decimal _ digits

theorem length_greeting (datap : UInt64) : (greeting datap).length ≤ 48 := by
  have small : datap.toUInt32.toNat < 10 ^ 10 :=
    Nat.lt_of_lt_of_le datap.toUInt32.toNat_lt (by decide)
  have short := length_decimal_le (by decide) small
  have text : ("Hello, I am controller from datapath  ".toList.map Char.toUInt8).length = 38 := by
    decide
  unfold greeting
  rw [List.length_append, text]
  omega

/-- The text tells the low halves of datapaths apart. -/
theorem greeting_eq_iff (first second : UInt64) :
    greeting first = greeting second ↔ first.toUInt32 = second.toUInt32 := by
  unfold greeting
  rw [List.append_cancel_left_eq]
  constructor
  · intro same
    exact UInt32.toNat_inj.mp (decimal_inj same)
  · intro same
    rw [same]

/-! ## The frame -/

/-- The frame that a thread sends. -/
def greetingFrame (datap : UInt64) : List UInt8 := lldpFrame (greetingMessage datap)

theorem length_greetingMessage (datap : UInt64) : (greetingMessage datap).length = 1024 :=
  Memory.length_slice _ _ _

theorem length_greetingFrame (datap : UInt64) : (greetingFrame datap).length = 1038 := by
  unfold greetingFrame lldpFrame
  simp [length_greetingMessage]

theorem greetingFrame_drop (datap : UInt64) :
    (greetingFrame datap).drop OfEthernet.size = greetingMessage datap := by
  unfold greetingFrame lldpFrame
  simp only [List.flatten_cons, List.flatten_nil, List.append_nil, ← List.append_assoc]
  exact List.drop_left' rfl

theorem greetingPacketOut_bytes (port : UInt16) (datap : UInt64) :
    headerBytes (greetingPacketOut port datap) =
      (framePacket port (greetingFrame datap)).encode := by
  have widths : (1062 : UInt16).toNat = [1, 1, 2, 4, 4, 2, 2, 2, 2, 2, 2, 6, 6, 2].sum + 1024 := rfl
  have message : (greetingPacketOut port datap).slice
      (0 + [1, 1, 2, 4, 4, 2, 2, 2, 2, 2, 2, 6, 6, 2].sum) 1024 = greetingMessage datap := by
    have stored := Memory.slice_store (discoveryPacketOut port) animOffset (greetingMessage datap)
    rw [length_greetingMessage] at stored
    exact (Memory.slice_store_outside _ (.inr (by decide))).trans stored
  have length := length_greetingFrame datap
  rw [headerBytes_eq 1062 rfl, widths, Memory.slice_append, Memory.slice_sum, message]
  unfold PacketOut.encode framePacket
  simp only [length, List.length_cons, List.length_nil, List.flatMap_cons, List.flatMap_nil,
    ActionOutput.encode, ← octets_htons, ← octets_htonl]
  simp only [greetingFrame, lldpFrame, List.flatten_cons, List.flatten_nil, List.append_nil,
    ← List.append_assoc]
  -- the message is the end of both sides
  congr 1

theorem greetingPacketOut_decode (port : UInt16) (datap : UInt64) :
    PacketOut.decode (headerBytes (greetingPacketOut port datap)) =
      some (framePacket port (greetingFrame datap)) := by
  rw [greetingPacketOut_bytes]
  apply PacketOut.decode_encode
  show 16 + 8 * 1 + (greetingFrame datap).length < 65536
  rw [length_greetingFrame]
  decide

/-! ## The report of the frame -/

/-- The text and its zero octet are in the part that every report has. -/
theorem take_greetingMessage (datap : UInt64) :
    ∃ rest, (greetingMessage datap).take 114 = greeting datap ++ 0 :: rest := by
  have short := length_greeting datap
  have whole : greetingMessage datap =
      greeting datap ++ List.replicate (1024 - (greeting datap).length) 0 :=
    Memory.slice_ofList_zero (by show _ ≤ 1024; omega)
  have count : 114 - (greeting datap).length = 113 - (greeting datap).length + 1 := by omega
  refine ⟨List.replicate (113 - (greeting datap).length) 0, ?_⟩
  rw [whole, List.take_append, List.take_of_length_le (by omega), List.take_replicate,
    Nat.min_eq_left (by omega), count, List.replicate_succ]

theorem greeting_payload {message : Memory} {bytes : List UInt8} {datap : UInt64}
    (starts : message.Starts bytes) (part : packetInFrame bytes <+: greetingFrame datap)
    (enough : (greetingFrame datap).take 128 <+: packetInFrame bytes) :
    ∃ rest, (payload message).slice 0 messageSize = greeting datap ++ 0 :: rest := by
  obtain ⟨rest, text⟩ := take_greetingMessage datap
  have long : 128 ≤ (packetInFrame bytes).length := by
    have := enough.length_le
    rw [List.length_take, length_greetingFrame] at this
    exact this
  have frameLength := length_packetInFrame bytes
  have front : (payload message).slice 0 114 = (greetingMessage datap).take 114 := by
    have behind : bytes.drop 32 = (packetInFrame bytes).drop OfEthernet.size := by
      rw [packetInFrame, List.drop_drop]
      rfl
    have cut := List.prefix_iff_eq_take.mp part
    have read : (payload message).slice 0 114 = (bytes.drop 32).take 114 := by
      unfold payload
      rw [Memory.slice_shift]
      exact starts.slice_eq (by show 32 + 114 ≤ _; omega)
    rw [read, behind, cut, List.drop_take, greetingFrame_drop, List.take_take,
      Nat.min_eq_left (by show 114 ≤ _ - 14; omega)]
  have split : messageSize = 114 + 910 := rfl
  rw [split, Memory.slice_append, front, text, List.append_assoc, List.cons_append]
  exact ⟨_, rfl⟩

/-- The console of the next controller shows the text. -/
theorem packoutLldp_greeting {message : Memory} {bytes : List UInt8} {datap : UInt64}
    (starts : message.Starts bytes) (part : packetInFrame bytes <+: greetingFrame datap)
    (enough : (greetingFrame datap).take 128 <+: packetInFrame bytes) (s : Ani) :
    packoutLldp message s =
      some ({ s with console := s.console ++ [.message (greeting datap)] }, []) := by
  obtain ⟨rest, text⟩ := greeting_payload starts part enough
  unfold packoutLldp
  simp only [text]
  rw [if_pos (by simp), cString_append (zero_notMem_greeting datap)]

end DAIM.Ani21
