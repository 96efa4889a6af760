import Mathlib.Data.List.Basic
import Mathlib.Tactic.Common

/-!
# Streams of pieces that tell their own length

A stream is cut into pieces by a length that each piece carries in its header.
What a stream begins with is cut in the same way whatever follows it.
-/

namespace DAIM.Library

/-- How long the pieces of a stream are: the length is read from the first
`least` elements of a piece. -/
structure Pieces (Element : Type*) where
  least : Nat
  positive : 0 < least
  size : List Element → Nat
  header : ∀ front more, least ≤ front.length → size (front ++ more) = size front

namespace Pieces

variable {Element : Type*} (pieces : Pieces Element)

/-- One whole piece. -/
structure Whole (piece : List Element) : Prop where
  header : pieces.least ≤ piece.length
  length : pieces.size piece = piece.length

/-- The stream begins with a whole piece. -/
def Begins (stream : List Element) : Prop :=
  pieces.least ≤ stream.length ∧ pieces.least ≤ pieces.size stream ∧
    pieces.size stream ≤ stream.length

instance (stream : List Element) : Decidable (pieces.Begins stream) :=
  inferInstanceAs (Decidable (_ ∧ _ ∧ _))

/-- At most so many pieces from the front of the stream. -/
def cutFrom : Nat → List Element → List (List Element)
  | 0, _ => []
  | fuel + 1, stream =>
      if pieces.Begins stream then
        stream.take (pieces.size stream) :: cutFrom fuel (stream.drop (pieces.size stream))
      else
        []

/-- The pieces of a stream, without an unfinished one at its end. -/
def cut (stream : List Element) : List (List Element) := pieces.cutFrom stream.length stream

variable {pieces}

theorem Whole.begins {piece : List Element} (whole : pieces.Whole piece)
    (rest : List Element) :
    pieces.Begins (piece ++ rest) ∧ pieces.size (piece ++ rest) = piece.length := by
  have size : pieces.size (piece ++ rest) = piece.length :=
    (pieces.header piece rest whole.header).trans whole.length
  have header := whole.header
  refine ⟨⟨?_, ?_, ?_⟩, size⟩
  · rw [List.length_append]
    omega
  · rwa [size]
  · rw [size, List.length_append]
    omega

theorem Begins.whole {stream : List Element} (begins : pieces.Begins stream) :
    pieces.Whole (stream.take (pieces.size stream)) := by
  obtain ⟨_, least, inside⟩ := begins
  have length : (stream.take (pieces.size stream)).length = pieces.size stream := by
    rw [List.length_take, Nat.min_eq_left inside]
  have size := pieces.header (stream.take (pieces.size stream))
    (stream.drop (pieces.size stream)) (by rwa [length])
  rw [List.take_append_drop] at size
  exact ⟨by rwa [length], by rw [← size, length]⟩

theorem cutFrom_nil (fuel : Nat) : pieces.cutFrom fuel [] = [] := by
  have positive := pieces.positive
  cases fuel with
  | zero => rfl
  | succ fuel =>
      have not : ¬ pieces.Begins [] := by
        rintro ⟨least, -⟩
        simp only [List.length_nil] at least
        omega
      rw [cutFrom, if_neg not]

/-- More fuel than elements changes nothing. -/
theorem cutFrom_enough {fuel : Nat} {stream : List Element} (enough : stream.length ≤ fuel) :
    pieces.cutFrom fuel stream = pieces.cut stream := by
  induction fuel using Nat.strongRecOn generalizing stream with
  | ind fuel inductionHypothesis =>
      have positive := pieces.positive
      cases fuel with
      | zero =>
          have empty : stream = [] := List.eq_nil_of_length_eq_zero (Nat.le_zero.mp enough)
          rw [empty]
          rfl
      | succ fuel =>
          cases length : stream.length with
          | zero =>
              have empty : stream = [] := List.eq_nil_of_length_eq_zero length
              rw [empty, cut, cutFrom_nil, cutFrom_nil]
          | succ count =>
              rw [cut, length, cutFrom, cutFrom]
              split
              · rename_i begins
                obtain ⟨_, least, inside⟩ := begins
                have shorter : (stream.drop (pieces.size stream)).length ≤ count := by
                  rw [List.length_drop]
                  omega
                rw [inductionHypothesis fuel (by omega) (by omega),
                  inductionHypothesis count (by omega) shorter]
              · rfl

theorem cut_cons {piece : List Element} (whole : pieces.Whole piece) (rest : List Element) :
    pieces.cut (piece ++ rest) = piece :: pieces.cut rest := by
  obtain ⟨begins, size⟩ := whole.begins rest
  have header := whole.header
  have positive := pieces.positive
  have some : 0 < (piece ++ rest).length := by
    rw [List.length_append]
    omega
  obtain ⟨count, length⟩ := Nat.exists_eq_add_one_of_ne_zero (Nat.ne_of_gt some)
  rw [cut, length, cutFrom, if_pos begins, size, List.take_left, List.drop_left, cutFrom_enough]
  rw [List.length_append] at length
  omega

/-- Whole pieces in front are what the stream is cut into. -/
theorem cut_flatten {front : List (List Element)} (whole : ∀ piece ∈ front, pieces.Whole piece)
    (rest : List Element) : pieces.cut (front.flatten ++ rest) = front ++ pieces.cut rest := by
  induction front with
  | nil => rfl
  | cons piece more inductionHypothesis =>
      have here := whole piece List.mem_cons_self
      have later := inductionHypothesis fun other member =>
        whole other (List.mem_cons_of_mem _ member)
      rw [List.flatten_cons, List.append_assoc, cut_cons here, later, List.cons_append]

theorem cutFrom_spec (pieces : Pieces Element) (fuel : Nat) (stream : List Element) :
    (∃ rest, stream = (pieces.cutFrom fuel stream).flatten ++ rest) ∧
      ∀ piece ∈ pieces.cutFrom fuel stream, pieces.Whole piece := by
  induction fuel generalizing stream with
  | zero => exact ⟨⟨stream, rfl⟩, fun _ impossible => absurd impossible List.not_mem_nil⟩
  | succ fuel inductionHypothesis =>
      rw [cutFrom]
      split
      · rename_i begins
        obtain ⟨⟨rest, same⟩, whole⟩ := inductionHypothesis (stream.drop (pieces.size stream))
        constructor
        · refine ⟨rest, ?_⟩
          rw [List.flatten_cons, List.append_assoc, ← same, List.take_append_drop]
        · intro piece member
          rcases List.mem_cons.mp member with rfl | later
          · exact begins.whole
          · exact whole piece later
      · exact ⟨⟨stream, rfl⟩, fun _ impossible => absurd impossible List.not_mem_nil⟩

/-- A longer stream has more pieces behind those of a shorter one. -/
theorem cut_prefix {front stream : List Element} (shorter : front <+: stream) :
    pieces.cut front <+: pieces.cut stream := by
  obtain ⟨⟨rest, same⟩, whole⟩ := pieces.cutFrom_spec front.length front
  obtain ⟨more, rfl⟩ := shorter
  have cut := cut_flatten whole (rest ++ more)
  rw [← List.append_assoc, ← same] at cut
  rw [cut]
  exact List.prefix_append _ _

end Pieces

end DAIM.Library
