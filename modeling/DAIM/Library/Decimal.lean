import Mathlib.Data.Nat.Digits.Lemmas
import Mathlib.Tactic.Common

/-!
# Numbers and texts in ASCII

The decimal digits of a number as octets, and the text that a buffer holds up
to its first zero octet.
-/

namespace DAIM.Library

/-- The decimal digits of a number, most significant first. -/
def decimal (number : Nat) : List UInt8 :=
  if number = 0 then [48]
  else (Nat.digits 10 number).reverse.map fun digit => UInt8.ofNat (48 + digit)

/-- The number that decimal digits write. -/
def readDecimal (text : List UInt8) : Nat :=
  Nat.ofDigits 10 (text.reverse.map fun octet => octet.toNat - 48)

theorem toNat_digit {digit : Nat} (bounded : digit < 10) :
    (UInt8.ofNat (48 + digit)).toNat = 48 + digit := by
  rw [UInt8.toNat_ofNat', Nat.mod_eq_of_lt (by omega)]

theorem readDecimal_decimal (number : Nat) : readDecimal (decimal number) = number := by
  unfold decimal
  split
  · rename_i zero
    rw [zero]
    rfl
  · have digits : (Nat.digits 10 number).map
        (fun digit => (UInt8.ofNat (48 + digit)).toNat - 48) = Nat.digits 10 number := by
      conv_rhs => rw [← List.map_id (Nat.digits 10 number)]
      apply List.map_congr_left
      intro digit inside
      rw [toNat_digit (Nat.digits_lt_base (by decide) inside), Nat.add_sub_cancel_left, id]
    rw [readDecimal, ← List.map_reverse, List.reverse_reverse, List.map_map]
    exact (congrArg (Nat.ofDigits 10) digits).trans (Nat.ofDigits_digits 10 number)

theorem decimal_inj {first second : Nat} (same : decimal first = decimal second) :
    first = second := by
  rw [← readDecimal_decimal first, same, readDecimal_decimal]

theorem zero_notMem_decimal (number : Nat) : 0 ∉ decimal number := by
  unfold decimal
  split
  · decide
  · intro member
    obtain ⟨digit, inside, same⟩ := List.mem_map.mp member
    have bounded := Nat.digits_lt_base (by decide) (List.mem_reverse.mp inside)
    have value := toNat_digit bounded
    rw [same, UInt8.toNat_zero] at value
    omega

theorem length_decimal_le {number width : Nat} (positive : 0 < width)
    (bounded : number < 10 ^ width) : (decimal number).length ≤ width := by
  unfold decimal
  split
  · exact positive
  · rw [List.length_map, List.length_reverse]
    exact (Nat.digits_length_le_iff (by decide) number).mpr bounded

/-- The octets before the first that is zero. -/
def cString (octets : List UInt8) : List UInt8 := octets.takeWhile (· ≠ 0)

theorem cString_append {text : List UInt8} (clean : 0 ∉ text) (rest : List UInt8) :
    cString (text ++ 0 :: rest) = text := by
  unfold cString
  rw [List.takeWhile_append_of_pos]
  · simp
  · intro octet member
    simpa using ne_of_mem_of_not_mem member clean

end DAIM.Library
