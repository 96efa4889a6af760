import DAIM.Library.Memory
import Mathlib.Logic.Function.Basic

/-!
# Memories that start with the same octets

What is read from the front of a memory depends on these octets alone, and a
field in network order determines its octets.
-/

namespace DAIM.Library

theorem decode_inj {first second : List UInt8} (length : first.length = second.length)
    (same : decode first = decode second) : first = second := by
  have lengths : first.reverse.length = second.reverse.length := by simpa using length
  have left := octets_combine first.reverse
  have right := octets_combine second.reverse
  have combined : combine first.reverse = combine second.reverse := same
  rw [lengths, combined, right] at left
  exact (List.reverse_inj.mp left).symm

theorem decode_slice_lt (memory : Memory) (offset width : Nat) :
    decode (memory.slice offset width) < 256 ^ width := by
  have bounded := combine_lt (memory.slice offset width).reverse
  rwa [List.length_reverse, Memory.length_slice] at bounded

namespace Memory

variable {first second third : Memory} {extent offset length index : Nat}

/-- The first octets are the same. -/
def Agree (extent : Nat) (first second : Memory) : Prop :=
  ∀ index < extent, first index = second index

namespace Agree

theorem refl (extent : Nat) (memory : Memory) : Agree extent memory memory := fun _ _ => rfl

theorem symm (agree : Agree extent first second) : Agree extent second first :=
  fun index inside => (agree index inside).symm

theorem trans (left : Agree extent first second) (right : Agree extent second third) :
    Agree extent first third :=
  fun index inside => (left index inside).trans (right index inside)

theorem mono {less : Nat} (agree : Agree extent first second) (inside : less ≤ extent) :
    Agree less first second :=
  fun index bounded => agree index (by omega)

theorem shift (agree : Agree (offset + extent) first second) :
    Agree extent (first.shift offset) (second.shift offset) :=
  fun index inside => agree (offset + index) (by omega)

theorem slice (agree : Agree extent first second) (inside : offset + length ≤ extent) :
    first.slice offset length = second.slice offset length := by
  apply List.map_congr_left
  intro index member
  exact agree _ (by have := List.mem_range.mp member; omega)

theorem load16 (agree : Agree extent first second) (inside : offset + 2 ≤ extent) :
    first.load16 offset = second.load16 offset := by
  rw [Memory.load16, agree.slice inside, Memory.load16]

theorem load32 (agree : Agree extent first second) (inside : offset + 4 ≤ extent) :
    first.load32 offset = second.load32 offset := by
  rw [Memory.load32, agree.slice inside, Memory.load32]

theorem load64 (agree : Agree extent first second) (inside : offset + 8 ≤ extent) :
    first.load64 offset = second.load64 offset := by
  rw [Memory.load64, agree.slice inside, Memory.load64]

/-- An octet behind the front part can be changed. -/
theorem update (memory : Memory) (value : UInt8) (behind : extent ≤ index) :
    Agree extent memory (Function.update memory index value) := by
  intro other inside
  rw [Function.update_of_ne (by omega)]

end Agree

/-! ## Fields determine their octets -/

theorem octet_of_slice (same : first.slice offset length = second.slice offset length)
    (inside : index < length) : first (offset + index) = second (offset + index) := by
  have left := getElem?_slice first offset length inside
  rw [same, getElem?_slice second offset length inside] at left
  exact (Option.some.inj left).symm

theorem slice_of_ntohs (same : ntohs (first.load16 offset) = ntohs (second.load16 offset)) :
    first.slice offset 2 = second.slice offset 2 := by
  rw [ntohs_load16, ntohs_load16] at same
  have numbers := congrArg UInt16.toNat same
  have left : decode (first.slice offset 2) < 2 ^ 16 := decode_slice_lt first offset 2
  have right : decode (second.slice offset 2) < 2 ^ 16 := decode_slice_lt second offset 2
  rw [UInt16.toNat_ofNat', UInt16.toNat_ofNat', Nat.mod_eq_of_lt left,
    Nat.mod_eq_of_lt right] at numbers
  exact decode_inj (by simp) numbers

theorem slice_of_ntohl (same : ntohl (first.load32 offset) = ntohl (second.load32 offset)) :
    first.slice offset 4 = second.slice offset 4 := by
  rw [ntohl_load32, ntohl_load32] at same
  have numbers := congrArg UInt32.toNat same
  have left : decode (first.slice offset 4) < 2 ^ 32 := decode_slice_lt first offset 4
  have right : decode (second.slice offset 4) < 2 ^ 32 := decode_slice_lt second offset 4
  rw [UInt32.toNat_ofNat', UInt32.toNat_ofNat', Nat.mod_eq_of_lt left,
    Nat.mod_eq_of_lt right] at numbers
  exact decode_inj (by simp) numbers

end Memory

end DAIM.Library
