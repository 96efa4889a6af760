import Mathlib.Algebra.GroupWithZero.Nat
import Mathlib.Data.List.Basic
import Mathlib.Tactic.Common

/-!
# Byte-addressed memory and the order of octets

Values of fixed width live in a byte-addressed memory as their octets, least
significant first; a network protocol writes the same octets in the opposite
order.  Everything here is stated for an arbitrary width, so that the swaps
and the accesses of 16, 32 and 64 bits are instances of the same lemmas.
-/

namespace DAIM.Library

/-- The `width` least significant octets of a number, least significant first. -/
def octets : Nat → Nat → List UInt8
  | 0, _ => []
  | width + 1, value => UInt8.ofNat value :: octets width (value / 256)

/-- The number with the given octets, least significant first. -/
def combine : List UInt8 → Nat
  | [] => 0
  | octet :: rest => octet.toNat + 256 * combine rest

@[simp]
theorem length_octets (width value : Nat) : (octets width value).length = width := by
  induction width generalizing value with
  | zero => rfl
  | succ width inductionHypothesis => simp [octets, inductionHypothesis]

theorem combine_lt (bytes : List UInt8) : combine bytes < 256 ^ bytes.length := by
  induction bytes with
  | nil => simp [combine]
  | cons octet rest inductionHypothesis =>
      have bounded : octet.toNat < 256 := octet.toNat_lt
      simp only [combine, List.length_cons, Nat.pow_succ]
      omega

theorem combine_octets (width value : Nat) :
    combine (octets width value) = value % 256 ^ width := by
  induction width generalizing value with
  | zero => simp [octets, combine, Nat.mod_one]
  | succ width inductionHypothesis =>
      have head : (UInt8.ofNat value).toNat = value % 256 := UInt8.toNat_ofNat'
      rw [octets, combine, inductionHypothesis, head, Nat.pow_succ', Nat.mod_mul]

theorem octets_combine (bytes : List UInt8) :
    octets bytes.length (combine bytes) = bytes := by
  induction bytes with
  | nil => rfl
  | cons octet rest inductionHypothesis =>
      have bounded : octet.toNat < 256 := octet.toNat_lt
      have tail : (octet.toNat + 256 * combine rest) / 256 = combine rest := by omega
      have head : UInt8.ofNat (octet.toNat + 256 * combine rest) = octet := by
        apply UInt8.toNat_inj.mp
        simp only [UInt8.toNat_ofNat']
        omega
      simp only [List.length_cons, octets, combine, tail, head, inductionHypothesis]

/-- Octets in network order, most significant first. -/
def network (width value : Nat) : List UInt8 :=
  (octets width value).reverse

/-- The number written in network order. -/
def decode (bytes : List UInt8) : Nat :=
  combine bytes.reverse

@[simp]
theorem length_network (width value : Nat) : (network width value).length = width := by
  simp [network]

theorem decode_network (width value : Nat) :
    decode (network width value) = value % 256 ^ width := by
  rw [decode, network, List.reverse_reverse, combine_octets]

theorem decode_network_of_lt {width value : Nat} (bounded : value < 256 ^ width) :
    decode (network width value) = value := by
  rw [decode_network, Nat.mod_eq_of_lt bounded]

/-- The value whose octets are those of the argument in the opposite order. -/
def swap (width value : Nat) : Nat :=
  combine (octets width value).reverse

theorem swap_lt (width value : Nat) : swap width value < 256 ^ width := by
  simpa [swap] using combine_lt (octets width value).reverse

/-- A swapped value written least significant octet first is the value in
network order. -/
theorem octets_swap (width value : Nat) :
    octets width (swap width value) = network width value := by
  have roundTrip := octets_combine (octets width value).reverse
  rwa [List.length_reverse, length_octets] at roundTrip

/-- Swapping what was read least significant octet first decodes network order. -/
theorem swap_combine (bytes : List UInt8) :
    swap bytes.length (combine bytes) = decode bytes := by
  rw [swap, octets_combine, decode]

/-- Memory as it is seen from one pointer. -/
abbrev Memory := Nat → UInt8

namespace Memory

/-- Memory that holds only zero octets. -/
def zero : Memory := fun _ => 0

/-- The same memory seen from a pointer `offset` octets further on. -/
def shift (memory : Memory) (offset : Nat) : Memory :=
  fun index => memory (offset + index)

/-- The `length` octets from `offset` on. -/
def slice (memory : Memory) (offset length : Nat) : List UInt8 :=
  (List.range length).map fun index => memory (offset + index)

/-- Overwrite the octets from `offset` on. -/
def store (memory : Memory) (offset : Nat) (bytes : List UInt8) : Memory :=
  fun index =>
    if offset ≤ index ∧ index < offset + bytes.length then
      bytes.getD (index - offset) 0
    else
      memory index

theorem store_outside (memory : Memory) {offset index : Nat} {bytes : List UInt8}
    (outside : index < offset ∨ offset + bytes.length ≤ index) :
    memory.store offset bytes index = memory index := by
  rw [store, if_neg (by omega)]

/-- Memory that starts with the given octets and goes on as `rest`. -/
def ofList (bytes : List UInt8) (rest : Memory) : Memory :=
  rest.store 0 bytes

@[simp]
theorem length_slice (memory : Memory) (offset length : Nat) :
    (memory.slice offset length).length = length := by
  simp [slice]

@[simp]
theorem getElem_slice (memory : Memory) (offset length index : Nat)
    (bounded : index < (memory.slice offset length).length) :
    (memory.slice offset length)[index] = memory (offset + index) := by
  simp [slice]

@[simp]
theorem shift_zero (memory : Memory) : memory.shift 0 = memory := by
  funext index
  rw [shift, Nat.zero_add]

theorem shift_shift (memory : Memory) (first second : Nat) :
    (memory.shift first).shift second = memory.shift (first + second) := by
  funext index
  simp only [shift, Nat.add_assoc]

@[simp]
theorem slice_shift (memory : Memory) (start offset length : Nat) :
    (memory.shift start).slice offset length = memory.slice (start + offset) length := by
  simp [slice, shift, Nat.add_assoc]

theorem slice_append (memory : Memory) (offset first second : Nat) :
    memory.slice offset (first + second) =
      memory.slice offset first ++ memory.slice (offset + first) second := by
  simp [slice, List.range_add, Nat.add_assoc, Function.comp_def]

theorem ofList_of_lt {bytes : List UInt8} (rest : Memory) {index : Nat}
    (bounded : index < bytes.length) :
    ofList bytes rest index = bytes[index] := by
  simp [ofList, store, bounded]

theorem getElem?_slice (memory : Memory) (offset length : Nat) {index : Nat}
    (bounded : index < length) :
    (memory.slice offset length)[index]? = some (memory (offset + index)) := by
  simp [slice, bounded]

/-- A slice of a slice. -/
theorem take_drop_slice (memory : Memory) (start total offset length : Nat)
    (inside : offset + length ≤ total) :
    ((memory.slice start total).drop offset).take length =
      memory.slice (start + offset) length := by
  obtain ⟨rest, rfl⟩ := Nat.exists_eq_add_of_le inside
  rw [Nat.add_assoc, slice_append, slice_append, List.drop_left' (by simp),
    List.take_left' (by simp)]

@[simp]
theorem slice_ofList (bytes : List UInt8) (rest : Memory) :
    (ofList bytes rest).slice 0 bytes.length = bytes := by
  apply List.ext_getElem (by simp)
  intro index _ inBytes
  simp [ofList_of_lt rest inBytes]

/-- What was stored is there. -/
theorem slice_store (memory : Memory) (offset : Nat) (bytes : List UInt8) :
    (memory.store offset bytes).slice offset bytes.length = bytes := by
  apply List.ext_getElem (by simp)
  intro index _ inBytes
  simp [store, inBytes]

theorem slice_store_outside (memory : Memory) {offset start length : Nat} {bytes : List UInt8}
    (outside : start + length ≤ offset ∨ offset + bytes.length ≤ start) :
    (memory.store offset bytes).slice start length = memory.slice start length := by
  apply List.map_congr_left
  intro index member
  have inside := List.mem_range.mp member
  exact store_outside memory (by omega)

/-- A text in a cleared buffer. -/
theorem slice_ofList_zero {bytes : List UInt8} {length : Nat} (inside : bytes.length ≤ length) :
    (ofList bytes zero).slice 0 length = bytes ++ List.replicate (length - bytes.length) 0 := by
  obtain ⟨more, rfl⟩ := Nat.exists_eq_add_of_le inside
  rw [slice_append, slice_ofList, ofList, slice_store_outside _ (.inr (by omega)),
    Nat.add_sub_cancel_left]
  congr 1
  apply List.ext_getElem (by simp)
  intro index _ _
  simp [zero]

/-- Consecutive fields of the given widths, starting at `offset`. -/
def fields (memory : Memory) (offset : Nat) : List Nat → List UInt8
  | [] => []
  | width :: widths => memory.slice offset width ++ memory.fields (offset + width) widths

theorem slice_sum (memory : Memory) (offset : Nat) (widths : List Nat) :
    memory.slice offset widths.sum = memory.fields offset widths := by
  induction widths generalizing offset with
  | nil => rfl
  | cons width widths inductionHypothesis =>
      rw [List.sum_cons, slice_append, fields, inductionHypothesis]

/-- The memory starts with the given octets. -/
def Starts (memory : Memory) (bytes : List UInt8) : Prop :=
  memory.slice 0 bytes.length = bytes

theorem starts_ofList (bytes : List UInt8) (rest : Memory) : (ofList bytes rest).Starts bytes :=
  slice_ofList bytes rest

namespace Starts

variable {memory : Memory} {bytes : List UInt8}

theorem slice_eq (starts : memory.Starts bytes) {offset length : Nat}
    (inside : offset + length ≤ bytes.length) :
    memory.slice offset length = (bytes.drop offset).take length := by
  have part := take_drop_slice memory 0 bytes.length offset length inside
  rw [starts, Nat.zero_add] at part
  exact part.symm

theorem octet (starts : memory.Starts bytes) {index : Nat} (inside : index < bytes.length) :
    memory index = bytes.getD index 0 := by
  have found := getElem?_slice memory 0 bytes.length inside
  rw [starts, Nat.zero_add] at found
  rw [List.getD_eq_getElem?_getD, found]
  rfl

theorem left {more : List UInt8} (starts : memory.Starts (bytes ++ more)) :
    memory.Starts bytes := by
  unfold Starts at *
  rw [List.length_append, slice_append] at starts
  exact (List.append_inj starts (by simp)).1

theorem right {more : List UInt8} (starts : memory.Starts (bytes ++ more)) :
    (memory.shift bytes.length).Starts more := by
  unfold Starts at *
  rw [List.length_append, slice_append] at starts
  have rest := (List.append_inj starts (by simp)).2
  rw [slice_shift]
  simpa using rest

end Starts

/-! ## Accesses of 16, 32 and 64 bits, least significant octet first -/

def load16 (memory : Memory) (offset : Nat) : UInt16 :=
  UInt16.ofNat (combine (memory.slice offset 2))

def load32 (memory : Memory) (offset : Nat) : UInt32 :=
  UInt32.ofNat (combine (memory.slice offset 4))

def load64 (memory : Memory) (offset : Nat) : UInt64 :=
  UInt64.ofNat (combine (memory.slice offset 8))

theorem load16_shift (memory : Memory) (start offset : Nat) :
    (memory.shift start).load16 offset = memory.load16 (start + offset) := by
  rw [load16, slice_shift, load16]

theorem load32_shift (memory : Memory) (start offset : Nat) :
    (memory.shift start).load32 offset = memory.load32 (start + offset) := by
  rw [load32, slice_shift, load32]

theorem load64_shift (memory : Memory) (start offset : Nat) :
    (memory.shift start).load64 offset = memory.load64 (start + offset) := by
  rw [load64, slice_shift, load64]

def store8 (memory : Memory) (offset : Nat) (value : UInt8) : Memory :=
  memory.store offset [value]

def store16 (memory : Memory) (offset : Nat) (value : UInt16) : Memory :=
  memory.store offset (octets 2 value.toNat)

def store32 (memory : Memory) (offset : Nat) (value : UInt32) : Memory :=
  memory.store offset (octets 4 value.toNat)

def store64 (memory : Memory) (offset : Nat) (value : UInt64) : Memory :=
  memory.store offset (octets 8 value.toNat)

end Memory

/-! ## Conversions between host and network order on a little-endian host -/

def htons (value : UInt16) : UInt16 := UInt16.ofNat (swap 2 value.toNat)

def htonl (value : UInt32) : UInt32 := UInt32.ofNat (swap 4 value.toNat)

def htobe64 (value : UInt64) : UInt64 := UInt64.ofNat (swap 8 value.toNat)

abbrev ntohs := htons

abbrev ntohl := htonl

abbrev be64toh := htobe64

/-- The 16-bit value that a byte string carries at `offset` in network order. -/
def be16 (bytes : List UInt8) (offset : Nat) : UInt16 :=
  UInt16.ofNat (decode ((bytes.drop offset).take 2))

def be32 (bytes : List UInt8) (offset : Nat) : UInt32 :=
  UInt32.ofNat (decode ((bytes.drop offset).take 4))

def be64 (bytes : List UInt8) (offset : Nat) : UInt64 :=
  UInt64.ofNat (decode ((bytes.drop offset).take 8))

theorem be16_eq {bytes : List UInt8} {offset : Nat} {value : UInt16}
    (field : (bytes.drop offset).take 2 = network 2 value.toNat) : be16 bytes offset = value := by
  rw [be16, field, decode_network_of_lt value.toNat_lt, UInt16.ofNat_toNat]

theorem be32_eq {bytes : List UInt8} {offset : Nat} {value : UInt32}
    (field : (bytes.drop offset).take 4 = network 4 value.toNat) : be32 bytes offset = value := by
  rw [be32, field, decode_network_of_lt value.toNat_lt, UInt32.ofNat_toNat]

theorem be64_eq {bytes : List UInt8} {offset : Nat} {value : UInt64}
    (field : (bytes.drop offset).take 8 = network 8 value.toNat) : be64 bytes offset = value := by
  rw [be64, field, decode_network_of_lt value.toNat_lt, UInt64.ofNat_toNat]

theorem combine_slice_lt (memory : Memory) (offset width : Nat) :
    combine (memory.slice offset width) < 256 ^ width := by
  have bounded := combine_lt (memory.slice offset width)
  rwa [Memory.length_slice] at bounded

/-- Octets in network order at the end of a slice, read back through the swaps
of a little-endian host. -/
theorem ntohs_load16 (memory : Memory) (offset : Nat) :
    ntohs (memory.load16 offset) = UInt16.ofNat (decode (memory.slice offset 2)) := by
  have bounded : combine (memory.slice offset 2) < 2 ^ 16 :=
    combine_slice_lt memory offset 2
  have swapped := swap_combine (memory.slice offset 2)
  rw [Memory.length_slice] at swapped
  rw [ntohs, htons, Memory.load16, UInt16.toNat_ofNat', Nat.mod_eq_of_lt bounded, swapped]

theorem ntohl_load32 (memory : Memory) (offset : Nat) :
    ntohl (memory.load32 offset) = UInt32.ofNat (decode (memory.slice offset 4)) := by
  have bounded : combine (memory.slice offset 4) < 2 ^ 32 :=
    combine_slice_lt memory offset 4
  have swapped := swap_combine (memory.slice offset 4)
  rw [Memory.length_slice] at swapped
  rw [ntohl, htonl, Memory.load32, UInt32.toNat_ofNat', Nat.mod_eq_of_lt bounded, swapped]

theorem be64toh_load64 (memory : Memory) (offset : Nat) :
    be64toh (memory.load64 offset) = UInt64.ofNat (decode (memory.slice offset 8)) := by
  have bounded : combine (memory.slice offset 8) < 2 ^ 64 :=
    combine_slice_lt memory offset 8
  have swapped := swap_combine (memory.slice offset 8)
  rw [Memory.length_slice] at swapped
  rw [be64toh, htobe64, Memory.load64, UInt64.toNat_ofNat', Nat.mod_eq_of_lt bounded, swapped]

/-! ## Fields in network order behind a pointer -/

section Fields

variable {memory : Memory} {bytes : List UInt8} {offset : Nat}

theorem Memory.Starts.ntohs_load16 (starts : memory.Starts bytes)
    (inside : offset + 2 ≤ bytes.length) : ntohs (memory.load16 offset) = be16 bytes offset := by
  rw [Library.ntohs_load16, starts.slice_eq inside, be16]

theorem Memory.Starts.ntohl_load32 (starts : memory.Starts bytes)
    (inside : offset + 4 ≤ bytes.length) : ntohl (memory.load32 offset) = be32 bytes offset := by
  rw [Library.ntohl_load32, starts.slice_eq inside, be32]

theorem Memory.Starts.be64toh_load64 (starts : memory.Starts bytes)
    (inside : offset + 8 ≤ bytes.length) : be64toh (memory.load64 offset) = be64 bytes offset := by
  rw [Library.be64toh_load64, starts.slice_eq inside, be64]

theorem be16_drop (bytes : List UInt8) (start offset : Nat) :
    be16 (bytes.drop start) offset = be16 bytes (start + offset) := by
  rw [be16, be16, List.drop_drop]

theorem be32_drop (bytes : List UInt8) (start offset : Nat) :
    be32 (bytes.drop start) offset = be32 bytes (start + offset) := by
  rw [be32, be32, List.drop_drop]

theorem be64_drop (bytes : List UInt8) (start offset : Nat) :
    be64 (bytes.drop start) offset = be64 bytes (start + offset) := by
  rw [be64, be64, List.drop_drop]

theorem getD_drop (bytes : List UInt8) (start offset : Nat) :
    (bytes.drop start).getD offset 0 = bytes.getD (start + offset) 0 := by
  simp [List.getD_eq_getElem?_getD]

end Fields

theorem octets_htons (value : UInt16) :
    octets 2 (htons value).toNat = network 2 value.toNat := by
  have bounded : swap 2 value.toNat < 2 ^ 16 := swap_lt 2 value.toNat
  rw [htons, UInt16.toNat_ofNat', Nat.mod_eq_of_lt bounded, octets_swap]

theorem octets_htonl (value : UInt32) :
    octets 4 (htonl value).toNat = network 4 value.toNat := by
  have bounded : swap 4 value.toNat < 2 ^ 32 := swap_lt 4 value.toNat
  rw [htonl, UInt32.toNat_ofNat', Nat.mod_eq_of_lt bounded, octets_swap]

theorem octets_htobe64 (value : UInt64) :
    octets 8 (htobe64 value).toNat = network 8 value.toNat := by
  have bounded : swap 8 value.toNat < 2 ^ 64 := swap_lt 8 value.toNat
  rw [htobe64, UInt64.toNat_ofNat', Nat.mod_eq_of_lt bounded, octets_swap]

end DAIM.Library
