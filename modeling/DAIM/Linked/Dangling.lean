import Mathlib.Data.List.Find
import DAIM.Library.Traces
import DAIM.Linked.Cursor
import DAIM.Linked.Sequence
import DAIM.Linked.Traversals

/-!
# Objects deleted under the cursor

`free_list` and `remove_object` delete objects and leave the cursor as it is.
When one of them deletes the object which the cursor points to, the next
`get_object` reads a link of a freed object.
-/

namespace DAIM.Linked

open DAIM.Library

/-- What can happen to an object list: one of its calls, or that a caller writes
into a block which it was given. -/
inductive ListMove (size : UInt32) where
  | call (call : ListCall size)
  | getObject
  | listRewind
  | written (address : Addr) (payload : Block size)

namespace ObjectList

/-- The list afterwards; none where `get_object` follows a freed object.  The
payload of `add_object` is what the new block happens to hold. -/
def move {size : UInt32} (list : ObjectList (Block size)) :
    ListMove size → Option (ObjectList (Block size))
  | .call call => (list.call call).map Prod.fst
  | .getObject => list.getObject.map Prod.fst
  | .listRewind => some list.listRewind
  | .written address payload => list.writeObject address payload

def Moves {size : UInt32} (list : ObjectList (Block size)) (move : ListMove size)
    (next : ObjectList (Block size)) : Prop :=
  list.move move = some next

theorem Moves.intro {size : UInt32} {list next : ObjectList (Block size)} (move : ListMove size)
    (made : list.move move = some next) : list.Moves move next :=
  made

/-- The first object all bytes of whose block are those of the argument. -/
def firstEqual {size : UInt32} (list : ObjectList (Block size)) (ob : Memory) : Option Addr :=
  list.addresses.find? fun address => (list.readObject address).any (Block.same ob)

/-- A list is freed only while its cursor is null, and an object is removed only
while the cursor is not at the first one that is equal to the argument. -/
def Spares {size : UInt32} (list : ObjectList (Block size)) : ListMove size → Prop
  | .call .freeList => list.AtRest
  | .call (.removeObject ob) => ∀ address ∈ list.current, list.firstEqual ob ≠ some address
  | .call (.addObject _) | .call .getListSize | .getObject | .listRewind | .written _ _ => True

instance {size : UInt32} (list : ObjectList (Block size)) : DecidablePred list.Spares
  | .call .freeList => inferInstanceAs (Decidable (list.current = none))
  | .call (.removeObject ob) =>
      inferInstanceAs (Decidable (∀ address ∈ list.current, list.firstEqual ob ≠ some address))
  | .call (.addObject _) => .isTrue trivial
  | .call .getListSize => .isTrue trivial
  | .getObject => .isTrue trivial
  | .listRewind => .isTrue trivial
  | .written _ _ => .isTrue trivial

/-! ## The objects of a list -/

section Objects

variable {Value : Type} {list next : ObjectList Value} {cells before after : List (Addr × Value)}
variable {cell : Addr × Value}

theorem Holds.inList_at (intact : list.Holds (before ++ cell :: after)) : list.InList cell.1 := by
  have object := intact.cut.object
  induction before using List.reverseRecOn generalizing cell after with
  | nil => exact .first intact.first object
  | append_singleton earlier previous inductionHypothesis =>
      rw [List.append_assoc] at intact
      have earlier : list.Holds (earlier ++ previous :: cell :: after) := intact
      exact .next (inductionHypothesis earlier earlier.cut.object) earlier.cut.object rfl object

/-- Writing into the block of a cell leaves it linked as it was. -/
theorem Holds.Cut.written (cut : Holds.Cut list before cell after) (stored : Value) :
    Segment (setObject list.heap cell.1
        (some ⟨.value stored, headOr after none, lastOr none before⟩))
      none (before ++ (cell.1, stored) :: after) none := by
  rw [segment_append]
  refine ⟨?_, setObject_same _ _ _, ?_⟩
  · exact cut.left.congr fun other member => setObject_other _ _ (cut.apartBefore other member)
  · exact cut.right.congr fun other member => setObject_other _ _ (cut.apartAfter other member)

theorem Holds.written (intact : list.Holds (before ++ cell :: after)) {stored : Value}
    (written : list.writeObject cell.1 stored = some next) :
    next.Holds (before ++ (cell.1, stored) :: after) := by
  have same : (before ++ (cell.1, stored) :: after).map Prod.fst =
      (before ++ cell :: after).map Prod.fst := by
    simp
  have linked := intact.cut.written stored
  rw [writeObject, intact.cut.object] at written
  cases written
  refine ⟨?_, ?_, linked, same ▸ intact.distinct, ?_, ?_, ?_, ?_⟩
  · rw [intact.first]
    cases before <;> rfl
  · rw [intact.last]
    simp
  · intro other member
    have place : other.1 ∈ (before ++ cell :: after).map Prod.fst :=
      same ▸ List.mem_map_of_mem member
    obtain ⟨there, isCell, equal⟩ := List.mem_map.mp place
    exact equal ▸ intact.allocated there isCell
  · intro address beyond
    have different : address ≠ cell.1 := by
      rintro rfl
      exact Nat.not_lt.mpr beyond (intact.allocated cell (by simp))
    exact (setObject_other _ _ different).trans (intact.unallocated address beyond)
  · intro address object found
    rw [same]
    by_cases here : address = cell.1
    · exact .inl (by simp [here])
    · exact intact.bare address object ((setObject_other _ _ here).symm.trans found)
  · intro address here
    rw [same]
    obtain ⟨bounded, place⟩ := intact.cursor address here
    refine ⟨bounded, ?_⟩
    by_cases isCell : address = cell.1
    · exact .inl (by simp [isCell])
    · exact place.imp_right (setObject_other _ _ isCell).trans

namespace Owns

/-- An object is in the list until it is deleted. -/
theorem inList_iff (owns : list.Owns cells) {address : Addr} :
    list.InList address ↔ list.heap address ≠ none := by
  constructor
  · intro member
    obtain ⟨object, alive⟩ := member.alive
    simp [alive]
  · intro alive
    obtain ⟨before, stored, after, rfl⟩ := Holds.split_at ((owns.live address).mp alive)
    exact owns.holds.inList_at

theorem cursorInList_iff (owns : list.Owns cells) :
    list.CursorInList ↔ ∀ address, list.current = some address → list.heap address ≠ none :=
  forall₂_congr fun _ _ => owns.inList_iff

/-- `get_object` follows a freed object exactly when the cursor is at one. -/
theorem getObject_iff (owns : list.Owns cells) :
    list.getObject ≠ none ↔ list.CursorInList := by
  constructor
  · intro follows
    rw [owns.cursorInList_iff]
    intro address here freed
    apply follows
    simp [getObject, following, here, freed]
  · intro inside
    obtain ⟨before, after, rfl, position⟩ := Holds.divide fun address here =>
      (owns.live address).mp (owns.inList_iff.mp (inside address here))
    obtain ⟨moved, got, -, -⟩ := owns.holds.getObject_at position
    simp [got]

end Owns

end Objects

/-! ## What a call does under the cursor -/

namespace Owns

variable {size : UInt32} {list next : ObjectList (Block size)} {cells : List (Addr × Block size)}
variable {result : ListResult}

theorem call_owns (owns : list.Owns cells) {call : ListCall size}
    (made : list.call call = some (next, result)) : ∃ after, next.Owns after := by
  obtain ⟨other, answer, after, called⟩ := owns.called call
  rw [called.made, Option.some.injEq, Prod.mk.injEq] at made
  exact ⟨after, made.1 ▸ called.owns⟩

/-- An addition deletes nothing. -/
theorem add_cursor (owns : list.Owns cells) (inside : list.CursorInList) {payload : Block size}
    (made : list.call (.addObject payload) = some (next, result)) : next.CursorInList := by
  obtain ⟨after, ends⟩ := owns.call_owns made
  rw [call] at made
  split at made
  · rename_i middle address added
    obtain ⟨other, written, same⟩ := Option.map_eq_some_iff.mp made
    cases same
    obtain ⟨-, -, outside⟩ := addObject_allocated added
    rw [ends.cursorInList_iff, writeObject_current written, addObject_current added]
    intro place here
    have alive := owns.inList_iff.mp (inside place here)
    have old : place ≠ list.fresh := by
      rintro rfl
      exact alive (owns.holds.unallocated _ (Nat.le_refl _))
    rwa [ne_eq, (writeObject_written written).2 place, outside place old]
  · cases made

theorem firstEqual_eq (owns : list.Owns cells) (ob : Memory) :
    list.firstEqual ob = (cells.find? fun cell => Block.same ob cell.2).map Prod.fst := by
  rw [firstEqual, owns.holds.addresses_eq, List.find?_map]
  congr 1
  apply List.find?_congr
  intro cell member
  simp [owns.holds.read member]

/-- A removal deletes the first object that is equal, and no other. -/
theorem remove_cursor (owns : list.Owns cells) (inside : list.CursorInList) {ob : Memory}
    (made : list.call (.removeObject ob) = some (next, result)) :
    next.CursorInList ↔ list.Spares (.call (.removeObject ob)) := by
  obtain ⟨after, ends⟩ := owns.call_owns made
  obtain ⟨removed, code, outcome⟩ := owns.holds.removeObject_eq (Block.same ob)
  rw [call, code] at made
  cases made
  rw [Spares, owns.firstEqual_eq]
  rcases outcome with ⟨unequal, rfl⟩ | ⟨left, cell, right, rfl, skipped, is, -, deleted⟩
  · have nothing : (cells.find? fun cell => Block.same ob cell.2) = none := by
      rw [List.find?_eq_none]
      exact fun cell member => Bool.eq_false_iff.mp (unequal cell member)
    simp [nothing, inside]
  · have found : ((left ++ cell :: right).find? fun cell => Block.same ob cell.2) = some cell := by
      rw [List.find?_eq_some_iff_append]
      exact ⟨is, left, right, rfl, by simpa using skipped⟩
    rw [found, ends.cursorInList_iff, deleted.current]
    apply forall₂_congr
    intro address here
    have alive := owns.inList_iff.mp (inside address here)
    by_cases isCell : address = cell.1
    · simp [isCell, deleted.gone]
    · simp [deleted.kept address isCell, alive, Ne.symm isCell]

/-- When a list is freed all of its objects are deleted. -/
theorem free_cursor (owns : list.Owns cells) (inside : list.CursorInList)
    (made : list.call .freeList = some (next, result)) :
    next.CursorInList ↔ list.AtRest := by
  rw [call, Option.map_eq_some_iff] at made
  obtain ⟨⟨freed, count⟩, free, same⟩ := made
  cases same
  refine (freeList_cursorInList free inside).trans ⟨?_, .inl⟩
  rintro (rest | empty)
  · exact rest
  · exact inside.atRest (owns.wellFormed.ends.mpr empty)

theorem call_cursor (owns : list.Owns cells) (inside : list.CursorInList) {call : ListCall size}
    (made : list.call call = some (next, result)) :
    next.CursorInList ↔ list.Spares (.call call) := by
  cases call with
  | addObject payload => exact iff_of_true (owns.add_cursor inside made) trivial
  | removeObject ob => exact owns.remove_cursor inside made
  | getListSize =>
      rw [ObjectList.call, Option.map_eq_some_iff] at made
      obtain ⟨count, -, same⟩ := made
      cases same
      exact iff_of_true inside trivial
  | freeList => exact owns.free_cursor inside made

/-! ## Every move -/

theorem written_owns (owns : list.Owns cells) {address : Addr} {payload : Block size}
    (written : list.writeObject address payload = some next) : ∃ after, next.Owns after := by
  have alive : list.heap address ≠ none := by
    intro freed
    simp [writeObject, freed] at written
  obtain ⟨before, stored, after, rfl⟩ := Holds.split_at ((owns.live address).mp alive)
  refine ⟨_, owns.holds.written written, fun place => ?_⟩
  rw [ne_eq, (writeObject_written written).2 place, ← ne_eq, owns.live place]
  simp

theorem move_owns (owns : list.Owns cells) {move : ListMove size} (moves : list.Moves move next) :
    ∃ after, next.Owns after := by
  cases move with
  | call call =>
      obtain ⟨⟨other, result⟩, made, same⟩ := Option.map_eq_some_iff.mp moves
      cases same
      exact owns.call_owns made
  | getObject =>
      obtain ⟨⟨other, result⟩, got, same⟩ := Option.map_eq_some_iff.mp moves
      cases same
      have heap := (SameObjects.getObject got).heap
      exact ⟨cells, owns.holds.getObject_cases got, heap ▸ owns.live⟩
  | listRewind =>
      cases moves
      exact ⟨cells, owns.holds.rewind, owns.live⟩
  | written address payload => exact owns.written_owns moves

theorem move_cursor (owns : list.Owns cells) (inside : list.CursorInList) {move : ListMove size}
    (moves : list.Moves move next) : next.CursorInList ↔ list.Spares move := by
  cases move with
  | call call =>
      obtain ⟨⟨other, result⟩, made, same⟩ := Option.map_eq_some_iff.mp moves
      cases same
      exact owns.call_cursor inside made
  | getObject =>
      obtain ⟨⟨other, result⟩, got, same⟩ := Option.map_eq_some_iff.mp moves
      cases same
      exact iff_of_true (inside.getObject got) trivial
  | listRewind =>
      cases moves
      exact iff_of_true (AtRest.cursorInList rfl) trivial
  | written address payload =>
      obtain ⟨after, ends⟩ := owns.written_owns moves
      refine iff_of_true ?_ trivial
      rw [ends.cursorInList_iff, writeObject_current moves]
      intro place here
      rw [ne_eq, (writeObject_written moves).2 place]
      exact owns.inList_iff.mp (inside place here)

/-- Every call can be made, except that `get_object` may follow a freed object. -/
theorem stuck (owns : list.Owns cells) {move : ListMove size} (stuck : list.move move = none) :
    move = .getObject ∧ ¬ list.CursorInList ∨
      ∃ address payload, move = .written address payload ∧ ¬ list.InList address := by
  cases move with
  | call call =>
      obtain ⟨other, result, after, called⟩ := owns.called call
      simp [ObjectList.move, called.made] at stuck
  | getObject =>
      refine .inl ⟨rfl, fun inside => ?_⟩
      exact owns.getObject_iff.mpr inside (Option.map_eq_none_iff.mp stuck)
  | listRewind => cases stuck
  | written address payload =>
      refine .inr ⟨address, payload, rfl, ?_⟩
      rw [owns.inList_iff, not_not]
      change list.writeObject address payload = none at stuck
      unfold writeObject at stuck
      split at stuck
      · assumption
      · cases stuck

end Owns

section Sequences

variable {size : UInt32} {steps : List (Taken (ObjectList (Block size)) (ListMove size))}
variable {list : ObjectList (Block size)}

theorem trace_owns (trace : Trace Moves empty steps list) : ∃ cells, list.Owns cells :=
  trace.run.invariant (fun _ list => ∃ cells, list.Owns cells) ⟨[], owns_empty size⟩
    fun _ _ _ _ _ ⟨_, owns⟩ moves => owns.move_owns moves

/-- A sequence of calls is made to its end, unless it comes to a `get_object`
that follows a freed object. -/
theorem calls_made (moves : List (ListMove size))
    (calls : ∀ address payload, .written address payload ∉ moves) :
    ∃ steps list, Trace Moves (empty : ObjectList (Block size)) steps list ∧
      (steps.map Taken.label = moves ∨
        steps.map Taken.label ++ [.getObject] <+: moves ∧ ¬ list.CursorInList) := by
  induction moves using List.reverseRecOn with
  | nil => exact ⟨[], empty, .refl, .inl rfl⟩
  | append_singleton earlier move inductionHypothesis =>
      obtain ⟨steps, list, trace, outcome⟩ := inductionHypothesis fun address payload member =>
        calls address payload (List.mem_append_left _ member)
      rcases outcome with rfl | ⟨begun, outside⟩
      · obtain ⟨cells, owns⟩ := trace_owns trace
        cases made : list.move move with
        | some next => exact ⟨_, next, trace.snoc (.intro move made), .inl (by simp)⟩
        | none =>
            rcases owns.stuck made with ⟨rfl, outside⟩ | ⟨address, payload, rfl, -⟩
            · exact ⟨steps, list, trace, .inr ⟨List.prefix_refl _, outside⟩⟩
            · exact absurd List.mem_concat_self (calls address payload)
      · exact ⟨steps, list, trace, .inr ⟨begun.trans (List.prefix_append _ _), outside⟩⟩

/-- After every call of a sequence the cursor is null or in the list, and
`get_object` can follow it, exactly when no call deletes the object that the
cursor points to. -/
theorem cursor_in_list_iff (trace : Trace Moves empty steps list) :
    (∀ taken ∈ steps, taken.after.CursorInList ∧ taken.after.getObject ≠ none) ↔
      ∀ taken ∈ steps, taken.before.Spares taken.label := by
  have intact : ∃ cells, (empty : ObjectList (Block size)).Owns cells := ⟨[], owns_empty size⟩
  refine @Trace.always_iff _ _ Moves empty list (fun list => ∃ cells, list.Owns cells)
    (fun list => list.CursorInList ∧ list.getObject ≠ none) Spares intact ⟨?_, ?_⟩ ?_ ?_ steps trace
  · exact AtRest.cursorInList rfl
  · exact (owns_empty size).getObject_iff.mpr (AtRest.cursorInList rfl)
  · rintro state next move ⟨cells, owns⟩ moves
    exact owns.move_owns moves
  · rintro state next move ⟨cells, owns⟩ ⟨inside, -⟩ moves
    obtain ⟨after, ends⟩ := owns.move_owns moves
    rw [ends.getObject_iff, and_self]
    exact owns.move_cursor inside moves

/-- The second object is removed while the cursor is at the first one. -/
theorem cursor_in_list_removed :
    ∃ steps list, Trace Moves (empty : ObjectList (Block 1)) steps list ∧
      steps.map Taken.label = [.call (.addObject ⟨[7], rfl⟩), .call (.addObject ⟨[8], rfl⟩),
        .getObject, .call (.removeObject (Memory.ofList [8] Memory.zero)), .listRewind,
        .call .freeList] ∧
      ∀ taken ∈ steps, taken.after.CursorInList ∧ taken.after.getObject ≠ none := by
  have one : Trace Moves (empty : ObjectList (Block 1)) _ _ :=
    .snoc .refl (Moves.intro (.call (.addObject ⟨[7], rfl⟩)) rfl)
  have two := one.snoc (Moves.intro (.call (.addObject ⟨[8], rfl⟩)) rfl)
  have got := two.snoc (Moves.intro .getObject rfl)
  have removed := got.snoc (Moves.intro (.call (.removeObject (Memory.ofList [8] Memory.zero))) rfl)
  have rewound := removed.snoc (Moves.intro .listRewind rfl)
  have freed := rewound.snoc (Moves.intro (.call .freeList) rfl)
  exact ⟨_, _, freed, rfl, (cursor_in_list_iff freed).mpr (by decide)⟩

/-- The only object is deleted while the cursor is at it. -/
theorem cursor_dangles :
    (∃ steps list, Trace Moves (empty : ObjectList (Block 1)) steps list ∧
      steps.map Taken.label = [.call (.addObject ⟨[7], rfl⟩), .getObject, .call .freeList] ∧
      ¬ list.CursorInList ∧ list.getObject = none) ∧
    ∃ steps list, Trace Moves (empty : ObjectList (Block 1)) steps list ∧
      steps.map Taken.label = [.call (.addObject ⟨[7], rfl⟩), .getObject,
        .call (.removeObject (Memory.ofList [7] Memory.zero))] ∧
      ¬ list.CursorInList ∧ list.getObject = none := by
  have one : Trace Moves (empty : ObjectList (Block 1)) _ _ :=
    .snoc .refl (Moves.intro (.call (.addObject ⟨[7], rfl⟩)) rfl)
  have got := one.snoc (Moves.intro .getObject rfl)
  have freed := got.snoc (Moves.intro (.call .freeList) rfl)
  have removed := got.snoc (Moves.intro (.call (.removeObject (Memory.ofList [7] Memory.zero))) rfl)
  exact ⟨⟨_, _, freed, rfl, fun inside => inside.following rfl, rfl⟩,
    ⟨_, _, removed, rfl, fun inside => inside.following rfl, rfl⟩⟩

end Sequences

end ObjectList

end DAIM.Linked
