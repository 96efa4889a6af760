import Mathlib.Data.List.Induction
import DAIM.Linked.Basic

/-!
# The sequence that an object list represents

`Holds list cells` says that the heap structure of `list` is intact and that
following it meets exactly `cells`, in order.  Every operation is described by
its effect on the cells; the cursor is only known to be null, in the list or
at a freed object, which is what the operations themselves guarantee.
-/

namespace DAIM.Linked

namespace ObjectList

variable {Value : Type}

/-- The address of the first cell, or `after` when there is none. -/
def headOr (cells : List (Addr × Value)) (after : Option Addr) : Option Addr :=
  match cells with
  | [] => after
  | (address, _) :: _ => some address

/-- The address of the last cell, or `before` when there is none. -/
def lastOr (before : Option Addr) : List (Addr × Value) → Option Addr
  | [] => before
  | (address, _) :: rest => lastOr (some address) rest

/-- The cells are linked in both directions between `before` and `after`. -/
def Segment (heap : Addr → Option (Object Value)) :
    Option Addr → List (Addr × Value) → Option Addr → Prop
  | _, [], _ => True
  | before, (address, stored) :: rest, after =>
      heap address = some ⟨.value stored, headOr rest after, before⟩ ∧
        Segment heap (some address) rest after

/-- The list is intact and represents the cells.  An object outside of it is
one that was leaked without a block. -/
structure Holds (list : ObjectList Value) (cells : List (Addr × Value)) : Prop where
  first : list.first = headOr cells none
  last : list.last = lastOr none cells
  segment : Segment list.heap none cells none
  distinct : (cells.map Prod.fst).Nodup
  allocated : ∀ cell ∈ cells, cell.1 < list.fresh
  unallocated : ∀ address, list.fresh ≤ address → list.heap address = none
  bare : ∀ address object, list.heap address = some object →
    address ∈ cells.map Prod.fst ∨ object.p = .null
  cursor : ∀ address, list.current = some address →
    address < list.fresh ∧ (address ∈ cells.map Prod.fst ∨ list.heap address = none)

/-- What `add_object` leaves behind when the second allocation of an empty list
fails: `first` names an object without a block, `last` stays null. -/
structure HalfBuilt (list : ObjectList Value) : Prop where
  first : ∃ address, list.first = some address ∧
    list.heap address = some ⟨.null, wild, wild⟩
  last : list.last = none
  unallocated : ∀ address, list.fresh ≤ address → list.heap address = none
  bare : ∀ address object, list.heap address = some object → object.p = .null

/-- The states an object list can be in whatever its allocations do. -/
def Sound (list : ObjectList Value) (records : List Value) : Prop :=
  (∃ cells, list.Holds cells ∧ cells.map Prod.snd = records) ∨
    (records = [] ∧ list.HalfBuilt)

@[simp]
theorem headOr_nil (after : Option Addr) :
    headOr ([] : List (Addr × Value)) after = after := rfl

@[simp]
theorem headOr_cons (cell : Addr × Value) (rest : List (Addr × Value))
    (after : Option Addr) : headOr (cell :: rest) after = some cell.1 := rfl

@[simp]
theorem lastOr_nil (before : Option Addr) :
    lastOr before ([] : List (Addr × Value)) = before := rfl

@[simp]
theorem lastOr_cons (before : Option Addr) (cell : Addr × Value)
    (rest : List (Addr × Value)) : lastOr before (cell :: rest) = lastOr (some cell.1) rest := rfl

@[simp]
theorem lastOr_append (before : Option Addr) (cells more : List (Addr × Value)) :
    lastOr before (cells ++ more) = lastOr (lastOr before cells) more := by
  induction cells generalizing before with
  | nil => rfl
  | cons cell rest inductionHypothesis => exact inductionHypothesis (some cell.1)

@[simp]
theorem setObject_same (heap : Addr → Option (Object Value)) (address : Addr)
    (object : Option (Object Value)) : setObject heap address object address = object := by
  simp [setObject]

theorem setObject_other (heap : Addr → Option (Object Value)) {address other : Addr}
    (object : Option (Object Value)) (different : other ≠ address) :
    setObject heap address object other = heap other := by
  simp [setObject, different]

theorem segment_append (heap : Addr → Option (Object Value)) (before : Option Addr)
    (cells more : List (Addr × Value)) (after : Option Addr) :
    Segment heap before (cells ++ more) after ↔
      Segment heap before cells (headOr more after) ∧
        Segment heap (lastOr before cells) more after := by
  induction cells generalizing before with
  | nil => simp [Segment]
  | cons cell rest inductionHypothesis =>
      have sameHead : headOr (rest ++ more) after = headOr rest (headOr more after) := by
        cases rest <;> rfl
      simp only [List.cons_append, Segment, inductionHypothesis, sameHead, lastOr_cons, and_assoc]

/-- Only the objects of the cells matter. -/
theorem Segment.congr {heap other : Addr → Option (Object Value)} {before after : Option Addr}
    {cells : List (Addr × Value)} (segment : Segment heap before cells after)
    (agree : ∀ cell ∈ cells, other cell.1 = heap cell.1) :
    Segment other before cells after := by
  induction cells generalizing before with
  | nil => trivial
  | cons cell rest inductionHypothesis =>
      refine ⟨?_, inductionHypothesis segment.2 fun later inRest =>
        agree later (List.mem_cons_of_mem _ inRest)⟩
      rw [agree cell (by simp)]
      exact segment.1

theorem Segment.object {heap : Addr → Option (Object Value)} {before after : Option Addr}
    {cells : List (Addr × Value)} (segment : Segment heap before cells after)
    {address : Addr} {stored : Value} (member : (address, stored) ∈ cells) :
    ∃ next prev, heap address = some ⟨.value stored, next, prev⟩ := by
  obtain ⟨left, right, rfl⟩ := List.append_of_mem member
  have tail := ((segment_append heap before left _ after).mp segment).2
  exact ⟨_, _, tail.1⟩

theorem holds_empty : (empty : ObjectList Value).Holds [] where
  first := rfl
  last := rfl
  segment := trivial
  distinct := List.nodup_nil
  allocated := by simp
  unallocated := fun _ _ => rfl
  bare := by simp [empty]
  cursor := by simp [empty]

theorem sound_empty : (empty : ObjectList Value).Sound [] :=
  .inl ⟨[], holds_empty, rfl⟩

namespace Holds

variable {list : ObjectList Value} {cells : List (Addr × Value)}

theorem length_le_fresh (intact : list.Holds cells) : cells.length ≤ list.fresh := by
  have inRange : cells.map Prod.fst ⊆ List.range list.fresh := by
    intro address member
    rcases List.mem_map.mp member with ⟨cell, cellMember, rfl⟩
    exact List.mem_range.mpr (intact.allocated cell cellMember)
  simpa using intact.distinct.length_le_of_subset inRange

theorem read (intact : list.Holds cells) {address : Addr} {stored : Value}
    (member : (address, stored) ∈ cells) : list.readObject address = some stored := by
  obtain ⟨next, prev, object⟩ := intact.segment.object member
  simp [readObject, object]

theorem fresh_unused (intact : list.Holds cells) {cell : Addr × Value}
    (member : cell ∈ cells) : cell.1 ≠ list.fresh :=
  Nat.ne_of_lt (intact.allocated cell member)

theorem rewind (intact : list.Holds cells) : list.listRewind.Holds cells :=
  { intact with cursor := by simp [listRewind] }

theorem walk_segment {heap : Addr → Option (Object Value)} {before : Option Addr}
    {cells : List (Addr × Value)} (segment : Segment heap before cells none) {fuel : Nat}
    (enough : cells.length ≤ fuel) : walk heap fuel (headOr cells none) = cells.map Prod.snd := by
  induction cells generalizing before fuel with
  | nil => cases fuel <;> rfl
  | cons cell rest inductionHypothesis =>
      cases fuel with
      | zero => simp at enough
      | succ fuel =>
          have tail := inductionHypothesis segment.2 (Nat.le_of_succ_le_succ enough)
          simp [walk, segment.1, tail]

theorem contents_eq (intact : list.Holds cells) : list.contents = cells.map Prod.snd := by
  rw [contents, intact.first, walk_segment intact.segment intact.length_le_fresh]

/-- One `get_object` at the position `after`, where `before ++ after` are the
cells and the cursor is about to move to the head of `after`. -/
theorem getObject_at {before after : List (Addr × Value)}
    (intact : list.Holds (before ++ after)) (position : list.current = lastOr none before) :
    ∃ moved, list.getObject = some (moved, headOr after none) ∧
      moved = { list with current := headOr after none } ∧ moved.Holds (before ++ after) := by
  have following : list.following = some (headOr after none) := by
    rcases List.eq_nil_or_concat' before with rfl | ⟨earlier, cell, rfl⟩
    · simp only [lastOr_nil] at position
      simp [ObjectList.following, position, intact.first]
    · have here := ((segment_append _ _ _ _ _).mp intact.segment).1
      have object := ((segment_append _ _ _ _ _).mp here).2.1
      simp only [lastOr_append, lastOr_cons, lastOr_nil] at position
      rw [headOr_nil] at object
      simp [ObjectList.following, position, object]
  refine ⟨_, ?_, rfl, ?_⟩
  · cases after with
    | nil => simp [getObject, following]
    | cons cell rest =>
        have member : (cell.1, cell.2) ∈ before ++ cell :: rest := by simp
        obtain ⟨next, prev, object⟩ := intact.segment.object member
        simp [getObject, following, object, block]
  · refine { intact with cursor := ?_ }
    intro address moved
    cases after with
    | nil => simp at moved
    | cons cell rest =>
        simp only [headOr_cons, Option.some.injEq] at moved
        have member : cell ∈ before ++ cell :: rest := by simp
        exact ⟨moved ▸ intact.allocated cell member, .inl (List.mem_map.mpr ⟨cell, member, moved⟩)⟩

/-- The state in which a loop body runs: the cursor is at the head of `after`,
or null at the end. -/
structure AtHead (list : ObjectList Value) (before after : List (Addr × Value)) : Prop where
  intact : list.Holds (before ++ after)
  position : list.current = headOr after none

theorem AtHead.advance {before after : List (Addr × Value)} {cell : Addr × Value}
    (here : AtHead list before (cell :: after)) :
    ∃ moved, list.getObject = some (moved, headOr after none) ∧ moved.heap = list.heap ∧
      moved.fresh = list.fresh ∧ AtHead moved (before ++ [cell]) after := by
  have regrouped : before ++ cell :: after = (before ++ [cell]) ++ after := by simp
  have intact : list.Holds ((before ++ [cell]) ++ after) := regrouped ▸ here.intact
  obtain ⟨moved, result, rfl, kept⟩ := intact.getObject_at (by simpa using here.position)
  exact ⟨_, result, rfl, rfl, kept, rfl⟩

theorem start (intact : list.Holds cells) (rewound : list.current = none) :
    ∃ moved, list.getObject = some (moved, headOr cells none) ∧
      moved.fresh = list.fresh ∧ AtHead moved [] cells := by
  have whole : list.Holds ([] ++ cells) := intact
  obtain ⟨moved, result, rfl, kept⟩ := whole.getObject_at rewound
  exact ⟨_, result, rfl, kept, rfl⟩

/-- The search loop returns the first record that matches, and has passed the
end of the list when there is none. -/
theorem AtHead.findFrom_eq (same : Value → Bool) {before after : List (Addr × Value)}
    (here : AtHead list before after) {fuel : Nat} (enough : after.length ≤ fuel) :
    ∃ moved, findFrom same fuel list (headOr after none) =
        some (moved, (after.map Prod.snd).find? same) ∧
      moved.Holds (before ++ after) ∧
      ((after.map Prod.snd).find? same = none → moved.current = none) := by
  induction after generalizing list before fuel with
  | nil =>
      refine ⟨list, ?_, here.intact, fun _ => here.position⟩
      cases fuel <;> rfl
  | cons cell rest inductionHypothesis =>
      cases fuel with
      | zero => simp at enough
      | succ fuel =>
          have stored : list.readObject cell.1 = some cell.2 :=
            here.intact.read (by simp)
          by_cases found : same cell.2 = true
          · refine ⟨list, ?_, here.intact, ?_⟩
            · simp [findFrom, stored, found]
            · simp [found]
          · obtain ⟨moved, result, -, -, next⟩ := here.advance
            obtain ⟨last, rest, kept, ended⟩ :=
              inductionHypothesis next (Nat.le_of_succ_le_succ enough)
            refine ⟨last, ?_, by simpa using kept, ?_⟩
            · simp [findFrom, stored, found, result, rest]
            · simpa [found] using ended

theorem find_eq (intact : list.Holds cells) (same : Value → Bool) :
    ∃ moved, list.find same = some (moved, (cells.map Prod.snd).find? same) ∧
      moved.Holds cells ∧
      ((cells.map Prod.snd).find? same = none → moved.current = none) := by
  obtain ⟨moved, result, sameFresh, here⟩ := intact.rewind.start rfl
  have enough : cells.length ≤ moved.fresh := here.intact.length_le_fresh
  obtain ⟨last, found, kept, ended⟩ := here.findFrom_eq same enough
  exact ⟨last, by simp [find, result, found], kept, ended⟩

theorem AtHead.showFrom_eq {before after : List (Addr × Value)}
    (here : AtHead list before after) {fuel : Nat} (enough : after.length ≤ fuel) :
    ∃ moved, showFrom fuel list (headOr after none) = some (moved, after.map Prod.snd) ∧
      moved.Holds (before ++ after) := by
  induction after generalizing list before fuel with
  | nil =>
      refine ⟨list, ?_, here.intact⟩
      cases fuel <;> rfl
  | cons cell rest inductionHypothesis =>
      cases fuel with
      | zero => simp at enough
      | succ fuel =>
          have stored : list.readObject cell.1 = some cell.2 :=
            here.intact.read (by simp)
          obtain ⟨moved, result, -, -, next⟩ := here.advance
          obtain ⟨last, rest, kept⟩ :=
            inductionHypothesis next (Nat.le_of_succ_le_succ enough)
          refine ⟨last, ?_, by simpa using kept⟩
          simp [showFrom, stored, result, rest]

/-- Entered with the cursor at rest, a table is printed completely, once and in
order, and the cursor is at rest again. -/
theorem showAll_eq (intact : list.Holds cells) (rewound : list.current = none) :
    ∃ moved, list.showAll = some (moved, cells.map Prod.snd) ∧
      moved.Holds cells ∧ moved.current = none := by
  obtain ⟨moved, result, sameFresh, here⟩ := intact.start rewound
  have enough : cells.length ≤ moved.fresh := here.intact.length_le_fresh
  obtain ⟨last, printed, kept⟩ := here.showFrom_eq enough
  exact ⟨last.listRewind, by simp [showAll, result, printed], kept.rewind, rfl⟩

/-- What remains to be shown of a list to which one cell was linked at the end. -/
theorem extended (intact : list.Holds cells) {added : ObjectList Value} (stored : Value)
    (first : added.first = headOr (cells ++ [(list.fresh, stored)]) none)
    (last : added.last = some list.fresh)
    (fresh : added.fresh = list.fresh + 1)
    (current : added.current = list.current)
    (segment : Segment added.heap none (cells ++ [(list.fresh, stored)]) none)
    (outside : ∀ address, address ≠ list.fresh → address ∉ cells.map Prod.fst →
      added.heap address = list.heap address) :
    added.Holds (cells ++ [(list.fresh, stored)]) where
  first := first
  last := by simp [last]
  segment := segment
  distinct := by
    rw [List.map_append, List.nodup_append]
    refine ⟨intact.distinct, by simp, ?_⟩
    intro address member other inFresh equal
    rcases List.mem_map.mp member with ⟨cell, cellMember, rfl⟩
    simp only [List.map_cons, List.map_nil, List.mem_singleton] at inFresh
    exact intact.fresh_unused cellMember (equal.trans inFresh)
  allocated := by
    intro cell member
    rw [fresh]
    rcases List.mem_append.mp member with old | new
    · exact Nat.lt_succ_of_lt (intact.allocated cell old)
    · simp only [List.mem_singleton] at new
      simp [new]
  unallocated := by
    intro address beyond
    rw [fresh] at beyond
    have notCell : address ∉ cells.map Prod.fst := by
      intro member
      rcases List.mem_map.mp member with ⟨cell, cellMember, rfl⟩
      exact Nat.lt_asymm (intact.allocated cell cellMember) beyond
    rw [outside address (Nat.ne_of_gt beyond) notCell]
    exact intact.unallocated address (Nat.le_of_succ_le beyond)
  bare := by
    intro address object found
    rw [List.map_append]
    by_cases inList : address ∈ cells.map Prod.fst
    · exact .inl (List.mem_append_left _ inList)
    · by_cases isFresh : address = list.fresh
      · exact .inl (List.mem_append_right _ (by simp [isFresh]))
      · rw [outside address isFresh inList] at found
        exact .inr ((intact.bare address object found).resolve_left inList)
  cursor := by
    intro address moved
    rw [current] at moved
    obtain ⟨bounded, place⟩ := intact.cursor address moved
    refine ⟨fresh ▸ Nat.lt_succ_of_lt bounded, ?_⟩
    rw [List.map_append]
    by_cases inList : address ∈ cells.map Prod.fst
    · exact .inl (List.mem_append_left _ inList)
    · exact .inr ((outside address (Nat.ne_of_lt bounded) inList).trans
        (place.resolve_left inList))

theorem addFilled_nil (intact : list.Holds []) (stored : Value) :
    ∃ added, list.addFilled true true stored = some added ∧
      added.Holds [(list.fresh, stored)] ∧ added.current = list.current := by
  have first : list.first = none := intact.first
  let added : ObjectList Value := { list with
    heap := setObject (setObject list.heap list.fresh (some ⟨.raw, none, none⟩))
      list.fresh (some ⟨.value stored, none, none⟩)
    fresh := list.fresh + 1
    first := some list.fresh
    last := some list.fresh }
  refine ⟨added, by simp [addFilled, addObject, writeObject, first, added], ?_, rfl⟩
  refine intact.extended stored rfl rfl rfl rfl ⟨setObject_same _ _ _, trivial⟩ ?_
  intro address other _
  simp only [added, setObject_other _ _ other]

theorem addFilled_concat {earlier : List (Addr × Value)} {cell : Addr × Value}
    (intact : list.Holds (earlier ++ [cell])) (stored : Value) :
    ∃ added, list.addFilled true true stored = some added ∧
      added.Holds (earlier ++ [cell] ++ [(list.fresh, stored)]) ∧
      added.current = list.current := by
  obtain ⟨first, firstEq⟩ : ∃ address, list.first = some address := by
    rw [intact.first]
    cases earlier <;> simp
  have last : list.last = some cell.1 := by simpa using intact.last
  have parts := (segment_append _ _ _ _ _).mp intact.segment
  have object : list.heap cell.1 = some ⟨.value cell.2, none, lastOr none earlier⟩ := parts.2.1
  have unused : cell.1 ≠ list.fresh := intact.fresh_unused (by simp)
  have apart : ∀ other ∈ earlier, other.1 ≠ cell.1 := by
    intro other member equal
    have distinct := intact.distinct
    rw [List.map_append, List.nodup_append] at distinct
    exact distinct.2.2 other.1 (List.mem_map_of_mem member) cell.1 (by simp) equal
  let linked := setObject (setObject list.heap list.fresh (some ⟨.raw, none, some cell.1⟩))
    cell.1 (some ⟨.value cell.2, some list.fresh, lastOr none earlier⟩)
  let added : ObjectList Value := { list with
    heap := setObject linked list.fresh (some ⟨.value stored, none, some cell.1⟩)
    fresh := list.fresh + 1
    last := some list.fresh }
  have result : list.addFilled true true stored = some added := by
    simp [addFilled, addObject, writeObject, firstEq, last, object, setObject_other,
      unused.symm, added, linked]
  have outside : ∀ address, address ≠ list.fresh → address ≠ cell.1 →
      added.heap address = list.heap address := by
    intro address notFresh notLast
    simp only [added, linked, setObject_other _ _ notFresh, setObject_other _ _ notLast]
  refine ⟨added, result, intact.extended stored ?_ rfl rfl rfl ?_ ?_, rfl⟩
  · have head := intact.first
    cases earlier <;> simpa [added] using head
  · rw [segment_append, segment_append]
    refine ⟨⟨?_, ?_, trivial⟩, ?_, trivial⟩
    · refine parts.1.congr fun other member => outside other.1 ?_ (apart other member)
      exact intact.fresh_unused (List.mem_append_left _ member)
    · simp [added, linked, setObject_other _ _ unused]
    · simp [added]
  · intro address notFresh notCell
    have notLast : address ≠ cell.1 := by
      rintro rfl
      simp at notCell
    exact outside address notFresh notLast

/-- A record that is added to an intact list becomes its last one. -/
theorem addFilled_eq (intact : list.Holds cells) (stored : Value) :
    ∃ added, list.addFilled true true stored = some added ∧
      added.Holds (cells ++ [(list.fresh, stored)]) ∧ added.current = list.current := by
  rcases List.eq_nil_or_concat' cells with rfl | ⟨earlier, cell, rfl⟩
  · exact intact.addFilled_nil stored
  · exact intact.addFilled_concat stored

/-- An object that is allocated and never linked changes nothing. -/
theorem leaked (intact : list.Holds cells) {same : ObjectList Value}
    (first : same.first = list.first)
    (last : same.last = list.last) (fresh : same.fresh = list.fresh + 1)
    (current : same.current = list.current)
    (heap : same.heap = setObject list.heap list.fresh (some ⟨.null, wild, wild⟩)) :
    same.Holds cells where
  first := first.trans intact.first
  last := last.trans intact.last
  segment := by
    rw [heap]
    exact intact.segment.congr fun _ member => setObject_other _ _ (intact.fresh_unused member)
  distinct := intact.distinct
  allocated := fun cell member => fresh ▸ Nat.lt_succ_of_lt (intact.allocated cell member)
  unallocated := by
    intro address beyond
    rw [fresh] at beyond
    rw [heap, setObject_other _ _ (Nat.ne_of_gt beyond)]
    exact intact.unallocated address (Nat.le_of_succ_le beyond)
  bare := by
    intro address object found
    rw [heap] at found
    by_cases isFresh : address = list.fresh
    · rw [isFresh, setObject_same, Option.some.injEq] at found
      exact .inr (found ▸ rfl)
    · rw [setObject_other _ _ isFresh] at found
      exact intact.bare address object found
  cursor := by
    intro address moved
    rw [current] at moved
    obtain ⟨bounded, place⟩ := intact.cursor address moved
    rw [heap, setObject_other _ _ (Nat.ne_of_lt bounded), fresh]
    exact ⟨Nat.lt_succ_of_lt bounded, place⟩

/-- A failed allocation leaves the records as they are; the list stays intact
unless it was empty and only the second allocation failed. -/
theorem addFilled_failed (intact : list.Holds cells) {objectAllocated blockAllocated : Bool}
    (failed : (objectAllocated && blockAllocated) = false) (stored : Value) :
    ∃ same, list.addFilled objectAllocated blockAllocated stored = some same ∧
      (same.Holds cells ∨ cells = [] ∧ same.HalfBuilt) ∧ same.current = list.current := by
  cases objectAllocated with
  | false =>
      refine ⟨list, ?_, .inl intact, rfl⟩
      cases first : list.first <;> simp [addFilled, addObject, first]
  | true =>
      have blockFailed : blockAllocated = false := by simpa using failed
      subst blockFailed
      cases cells with
      | nil =>
          have first : list.first = none := intact.first
          let same : ObjectList Value := { list with
            heap := setObject list.heap list.fresh (some ⟨.null, wild, wild⟩)
            fresh := list.fresh + 1
            first := some list.fresh }
          refine ⟨same, by simp [addFilled, addObject, first, same], .inr ⟨rfl, ?_⟩, rfl⟩
          refine ⟨⟨list.fresh, rfl, setObject_same _ _ _⟩, intact.last, ?_, ?_⟩
          · intro address beyond
            exact (setObject_other _ _ (Nat.ne_of_gt beyond)).trans
              (intact.unallocated address (Nat.le_of_succ_le beyond))
          · intro address object found
            by_cases isFresh : address = list.fresh
            · rw [isFresh] at found
              exact (Option.some.inj ((setObject_same _ _ _).symm.trans found)) ▸ rfl
            · have old := (setObject_other list.heap _ isFresh).symm.trans found
              exact (intact.bare address object old).resolve_left (by simp)
      | cons cell rest =>
          have first : list.first = some cell.1 := intact.first
          let same : ObjectList Value := { list with
            heap := setObject list.heap list.fresh (some ⟨.null, wild, wild⟩)
            fresh := list.fresh + 1 }
          refine ⟨same, by simp [addFilled, addObject, first, same], .inl ?_, rfl⟩
          exact intact.leaked rfl rfl rfl rfl rfl

/-! ## Freeing a list -/

/-- The loop of `free_list` frees exactly the cells, last one first. -/
theorem freeFrom_eq {heap : Addr → Option (Object Value)} {cells : List (Addr × Value)}
    {after : Option Addr} (segment : Segment heap none cells after)
    (distinct : (cells.map Prod.fst).Nodup) {fuel : Nat} (enough : cells.length ≤ fuel)
    (count : Nat) :
    ∃ freed, freeFrom fuel heap (lastOr none cells) count = some (freed, count + cells.length) ∧
      ∀ address, freed address =
        if address ∈ cells.map Prod.fst then none else heap address := by
  induction cells using List.reverseRecOn generalizing heap after fuel count with
  | nil => exact ⟨heap, by cases fuel <;> rfl, by simp⟩
  | append_singleton earlier cell inductionHypothesis =>
      cases fuel with
      | zero => simp at enough
      | succ fuel =>
          have parts := (segment_append _ _ _ _ _).mp segment
          have object := parts.2.1
          rw [List.map_append, List.nodup_append] at distinct
          have apart : ∀ other ∈ earlier, other.1 ≠ cell.1 := fun other member =>
            distinct.2.2 other.1 (List.mem_map_of_mem member) cell.1 (by simp)
          have rest : Segment (setObject heap cell.1 none) none earlier (headOr [cell] after) :=
            parts.1.congr fun other member => setObject_other _ _ (apart other member)
          have bounded : earlier.length ≤ fuel := by simpa using enough
          obtain ⟨freed, result, meaning⟩ :=
            inductionHypothesis rest distinct.1 bounded (count + 1)
          refine ⟨freed, ?_, ?_⟩
          · simp only [lastOr_append, lastOr_cons, lastOr_nil, freeFrom, object, result]
            simp [Nat.add_comm, Nat.add_left_comm]
          · intro address
            rw [meaning]
            by_cases here : address = cell.1
            · simp [here]
            · simp only [setObject_other _ _ here, List.map_append, List.mem_append,
                List.map_cons, List.map_nil, List.mem_singleton, here, or_false]

/-- A freed list is empty; its cursor stays where it was. -/
theorem freeList_eq (intact : list.Holds cells) :
    ∃ freed count, list.freeList = some (freed, count) ∧ freed.Holds [] ∧
      freed.current = list.current ∧ freed.fresh = list.fresh ∧
      count = (if cells = [] then -1 else (cells.length : Int)) ∧
      ∀ address, freed.heap address =
        if address ∈ cells.map Prod.fst then none else list.heap address := by
  cases cells with
  | nil =>
      have last : list.last = none := intact.last
      exact ⟨list, -1, by simp [freeList, last], intact, rfl, rfl, rfl, by simp⟩
  | cons cell rest =>
      obtain ⟨last, lastEq⟩ : ∃ last, lastOr none (cell :: rest) = some last := by
        rcases List.eq_nil_or_concat' (cell :: rest) with impossible | ⟨earlier, final, equal⟩
        · simp at impossible
        · exact ⟨final.1, by rw [equal]; simp⟩
      obtain ⟨freed, result, meaning⟩ :=
        freeFrom_eq intact.segment intact.distinct intact.length_le_fresh 0
      have listLast : list.last = some last := intact.last.trans lastEq
      rw [lastEq] at result
      let emptied : ObjectList Value := { list with heap := freed, first := none, last := none }
      refine ⟨emptied, _, by simp only [freeList, listLast, result]; rfl, ?_, rfl, rfl,
        by simp, meaning⟩
      refine ⟨rfl, rfl, trivial, List.nodup_nil, by simp, ?_, ?_, ?_⟩
      · intro address beyond
        simp only [emptied, meaning, intact.unallocated address beyond, ite_self]
      · intro address object found
        simp only [emptied, meaning] at found
        split at found
        · cases found
        · rename_i outside
          exact .inr ((intact.bare address object found).resolve_left outside)
      · intro address moved
        obtain ⟨bounded, inList | gone⟩ := intact.cursor address moved
        · exact ⟨bounded, .inr (by simp only [emptied, meaning, if_pos inList])⟩
        · exact ⟨bounded, .inr (by simp only [emptied, meaning, gone, ite_self])⟩

/-- The cells before and after the one at an address. -/
theorem split_at {address : Addr} (member : address ∈ cells.map Prod.fst) :
    ∃ before stored after, cells = before ++ (address, stored) :: after := by
  obtain ⟨⟨place, stored⟩, isCell, rfl⟩ := List.mem_map.mp member
  obtain ⟨before, after, rfl⟩ := List.append_of_mem isCell
  exact ⟨before, stored, after, rfl⟩

/-- The cursor divides the cells into those it has passed and the others. -/
theorem divide (inside : ∀ address, list.current = some address →
      address ∈ cells.map Prod.fst) :
    ∃ before after, cells = before ++ after ∧ list.current = lastOr none before := by
  cases current : list.current with
  | none => exact ⟨[], cells, rfl, rfl⟩
  | some address =>
      obtain ⟨before, stored, after, rfl⟩ := split_at (inside address current)
      exact ⟨before ++ [(address, stored)], after, by simp, by simp⟩

/-- Wherever the cursor is, a step of a traversal that succeeds stays in the
list. -/
theorem getObject_cases (intact : list.Holds cells) {moved : ObjectList Value}
    {result : Option Addr} (step : list.getObject = some (moved, result)) :
    moved.Holds cells := by
  have inside : ∀ address, list.current = some address → address ∈ cells.map Prod.fst := by
    intro address here
    refine (intact.cursor address here).2.resolve_right fun freed => ?_
    simp [getObject, following, here, freed] at step
  obtain ⟨before, after, rfl, position⟩ := divide inside
  obtain ⟨other, result', -, kept⟩ := intact.getObject_at position
  rw [result', Option.some.injEq, Prod.mk.injEq] at step
  exact step.1 ▸ kept

end Holds

/-! ## Traversals do not touch the objects -/

/-- The two lists differ in their cursors only. -/
structure SameObjects (list other : ObjectList Value) : Prop where
  heap : other.heap = list.heap
  fresh : other.fresh = list.fresh
  first : other.first = list.first
  last : other.last = list.last

namespace SameObjects

variable {list middle other : ObjectList Value}

theorem refl (list : ObjectList Value) : SameObjects list list := ⟨rfl, rfl, rfl, rfl⟩

theorem trans (left : SameObjects list middle) (right : SameObjects middle other) :
    SameObjects list other :=
  ⟨right.heap.trans left.heap, right.fresh.trans left.fresh, right.first.trans left.first,
    right.last.trans left.last⟩

theorem getObject {result : Option Addr} (step : list.getObject = some (other, result)) :
    SameObjects list other := by
  unfold ObjectList.getObject at step
  split at step
  · cases step
  · cases step
    exact ⟨rfl, rfl, rfl, rfl⟩
  · split at step
    · cases step
    · cases step
      exact ⟨rfl, rfl, rfl, rfl⟩

theorem showFrom {fuel : Nat} {start : Option Addr} {printed : List Value}
    (run : ObjectList.showFrom fuel list start = some (other, printed)) :
    SameObjects list other := by
  induction fuel generalizing list start printed with
  | zero =>
      cases start <;> simp [ObjectList.showFrom] at run
      exact run.1 ▸ refl list
  | succ fuel inductionHypothesis =>
      cases start with
      | none =>
          simp only [ObjectList.showFrom, Option.some.injEq, Prod.mk.injEq] at run
          exact run.1 ▸ refl list
      | some address =>
          simp only [ObjectList.showFrom] at run
          split at run
          · cases run
          · split at run
            · cases run
            · rename_i step
              split at run
              · cases run
              · rename_i rest
                cases run
                exact (getObject step).trans (inductionHypothesis rest)

theorem halfBuilt (same : SameObjects list other) (half : list.HalfBuilt) : other.HalfBuilt := by
  refine ⟨?_, same.last.trans half.last, ?_, same.heap ▸ half.bare⟩
  · obtain ⟨address, first, object⟩ := half.first
    exact ⟨address, same.first.trans first, by rw [same.heap, object]⟩
  · intro address beyond
    rw [same.fresh] at beyond
    rw [same.heap]
    exact half.unallocated address beyond

/-- An intact list stays intact when its cursor is put to rest. -/
theorem holds (same : SameObjects list other) {cells : List (Addr × Value)}
    (intact : list.Holds cells) (rewound : other.current = none) : other.Holds cells := by
  have equal : other = list.listRewind := by
    cases other
    cases list
    cases same
    simp_all [listRewind]
  exact equal ▸ intact.rewind

end SameObjects

theorem showAll_same {list other : ObjectList Value} {printed : List Value}
    (run : list.showAll = some (other, printed)) :
    SameObjects list other ∧ other.current = none := by
  unfold showAll at run
  split at run
  · cases run
  · rename_i step
    split at run
    · cases run
    · rename_i rest
      cases run
      have same := (SameObjects.getObject step).trans (SameObjects.showFrom rest)
      exact ⟨⟨same.heap, same.fresh, same.first, same.last⟩, rfl⟩

/-! ## Operations on lists that may be half built -/

namespace HalfBuilt

variable {list : ObjectList Value}

theorem contents_eq (half : list.HalfBuilt) : list.contents = [] := by
  obtain ⟨address, first, object⟩ := half.first
  rw [contents, first]
  cases list.fresh <;> simp [walk, object]

theorem find_eq (half : list.HalfBuilt) (same : Value → Bool) :
    ∃ moved, list.find same = some (moved, none) ∧ moved.HalfBuilt := by
  obtain ⟨address, first, object⟩ := half.first
  let moved : ObjectList Value := { list with current := some address }
  have step : list.listRewind.getObject = some (moved, none) := by
    simp [getObject, following, listRewind, first, object, block, moved]
  have kept : SameObjects list moved := ⟨rfl, rfl, rfl, rfl⟩
  refine ⟨moved, ?_, kept.halfBuilt half⟩
  simp only [find, step]
  cases moved.fresh <;> rfl

/-- A rewound half-built list prints nothing. -/
theorem showAll_eq (half : list.HalfBuilt) (rewound : list.current = none) :
    ∃ shown, list.showAll = some (shown, []) := by
  obtain ⟨address, first, object⟩ := half.first
  have step : list.getObject = some ({ list with current := some address }, none) := by
    simp [getObject, following, rewound, first, object, block]
  unfold showAll
  rw [step]
  cases list.fresh <;> exact ⟨_, rfl⟩

theorem addFilled_none (half : list.HalfBuilt) (stored : Value) :
    list.addFilled true true stored = none := by
  obtain ⟨address, first, object⟩ := half.first
  simp [addFilled, addObject, first, half.last]

theorem addFilled_failed (half : list.HalfBuilt) {objectAllocated blockAllocated : Bool}
    (failed : (objectAllocated && blockAllocated) = false) (stored : Value)
    {same : ObjectList Value}
    (run : list.addFilled objectAllocated blockAllocated stored = some same) :
    same.HalfBuilt := by
  obtain ⟨address, first, object⟩ := half.first
  cases objectAllocated with
  | false =>
      simp only [addFilled, addObject, first, if_pos, Option.some.injEq] at run
      exact run ▸ half
  | true =>
      have blockFailed : blockAllocated = false := by simpa using failed
      subst blockFailed
      have bounded : address ≠ list.fresh := by
        rintro rfl
        simp [half.unallocated _ (Nat.le_refl _)] at object
      simp only [addFilled, addObject, first, if_pos, Bool.true_eq_false, if_false,
        Option.some.injEq] at run
      subst run
      refine ⟨⟨address, rfl, (setObject_other _ _ bounded).trans object⟩, half.last, ?_, ?_⟩
      · intro other beyond
        exact (setObject_other _ _ (Nat.ne_of_gt beyond)).trans
          (half.unallocated other (Nat.le_of_succ_le beyond))
      · intro other found isFound
        by_cases isFresh : other = list.fresh
        · rw [isFresh] at isFound
          exact (Option.some.inj ((setObject_same _ _ _).symm.trans isFound)) ▸ rfl
        · exact half.bare other found ((setObject_other list.heap _ isFresh).symm.trans isFound)

end HalfBuilt

/-- The sequence of the learning rule: when a search in an intact list finds
nothing, a record is added and the whole list is shown. -/
theorem Holds.addFilled_showAll {list moved : ObjectList Value} {cells : List (Addr × Value)}
    {same : Value → Bool} (intact : list.Holds cells)
    (absent : list.find same = some (moved, none)) (objectAllocated blockAllocated : Bool)
    (stored : Value) :
    ∃ added result, moved.addFilled objectAllocated blockAllocated stored = some added ∧
      added.showAll = some result := by
  obtain ⟨other, found, kept, ended⟩ := intact.find_eq same
  rw [absent, Option.some.injEq, Prod.mk.injEq] at found
  obtain ⟨rfl, none⟩ := found
  have atEnd : moved.current = Option.none := ended none.symm
  cases allocated : objectAllocated && blockAllocated with
  | true =>
      obtain ⟨rfl, rfl⟩ : objectAllocated = true ∧ blockAllocated = true := by
        simpa using allocated
      obtain ⟨added, result, holds, current⟩ := kept.addFilled_eq stored
      obtain ⟨shown, printed, -⟩ := holds.showAll_eq (current.trans atEnd)
      exact ⟨added, _, result, printed⟩
  | false =>
      obtain ⟨added, result, holds | ⟨-, half⟩, current⟩ :=
        kept.addFilled_failed allocated stored
      · obtain ⟨shown, printed, -⟩ := holds.showAll_eq (current.trans atEnd)
        exact ⟨added, _, result, printed⟩
      · obtain ⟨shown, printed⟩ := half.showAll_eq (current.trans atEnd)
        exact ⟨added, _, result, printed⟩

namespace Sound

variable {list : ObjectList Value} {records : List Value}

theorem contents_eq (sound : list.Sound records) : list.contents = records := by
  rcases sound with ⟨cells, intact, rfl⟩ | ⟨rfl, half⟩
  · exact intact.contents_eq
  · exact half.contents_eq

/-- A search sees the first matching record of the list. -/
theorem find_eq (sound : list.Sound records) (same : Value → Bool) :
    ∃ moved, list.find same = some (moved, records.find? same) ∧ moved.Sound records := by
  rcases sound with ⟨cells, intact, rfl⟩ | ⟨rfl, half⟩
  · obtain ⟨moved, result, kept, -⟩ := intact.find_eq same
    exact ⟨moved, result, .inl ⟨cells, kept, rfl⟩⟩
  · obtain ⟨moved, result, kept⟩ := half.find_eq same
    exact ⟨moved, result, .inr ⟨rfl, kept⟩⟩

theorem addFilled (sound : list.Sound records) {objectAllocated blockAllocated : Bool}
    {stored : Value} {added : ObjectList Value}
    (run : list.addFilled objectAllocated blockAllocated stored = some added) :
    added.Sound (if objectAllocated && blockAllocated then records ++ [stored] else records) := by
  cases allocated : objectAllocated && blockAllocated with
  | true =>
      obtain ⟨rfl, rfl⟩ : objectAllocated = true ∧ blockAllocated = true := by
        simpa using allocated
      rcases sound with ⟨cells, intact, rfl⟩ | ⟨rfl, half⟩
      · obtain ⟨other, result, kept, -⟩ := intact.addFilled_eq stored
        rw [result, Option.some.injEq] at run
        exact .inl ⟨_, run ▸ kept, by simp⟩
      · rw [half.addFilled_none] at run
        cases run
  | false =>
      rcases sound with ⟨cells, intact, rfl⟩ | ⟨rfl, half⟩
      · obtain ⟨other, result, kept, -⟩ := intact.addFilled_failed allocated stored
        rw [result, Option.some.injEq] at run
        rcases kept with kept | ⟨rfl, half⟩
        · exact .inl ⟨_, run ▸ kept, by simp⟩
        · exact .inr ⟨by simp, run ▸ half⟩
      · exact .inr ⟨by simp, half.addFilled_failed allocated stored run⟩

theorem showAll (sound : list.Sound records) {other : ObjectList Value}
    {printed : List Value} (run : list.showAll = some (other, printed)) :
    other.Sound records := by
  obtain ⟨same, rewound⟩ := showAll_same run
  rcases sound with ⟨cells, intact, rfl⟩ | ⟨rfl, half⟩
  · exact .inl ⟨cells, same.holds intact rewound, rfl⟩
  · exact .inr ⟨rfl, same.halfBuilt half⟩

theorem rewind (sound : list.Sound records) : list.listRewind.Sound records := by
  rcases sound with ⟨cells, intact, rfl⟩ | ⟨rfl, half⟩
  · exact .inl ⟨cells, intact.rewind, rfl⟩
  · have kept : SameObjects list list.listRewind := ⟨rfl, rfl, rfl, rfl⟩
    exact .inr ⟨rfl, kept.halfBuilt half⟩

theorem freeList (sound : list.Sound records) :
    ∃ freed count, list.freeList = some (freed, count) ∧ freed.Sound [] := by
  rcases sound with ⟨cells, intact, rfl⟩ | ⟨rfl, half⟩
  · obtain ⟨freed, count, result, kept, -⟩ := intact.freeList_eq
    exact ⟨freed, count, result, .inl ⟨[], kept, rfl⟩⟩
  · exact ⟨list, -1, by simp [ObjectList.freeList, half.last], .inr ⟨rfl, half⟩⟩

theorem freed (sound : list.Sound records) {emptied : ObjectList Value} {count : Int}
    (run : list.freeList = some (emptied, count)) : emptied.Sound [] := by
  obtain ⟨other, total, result, kept⟩ := sound.freeList
  rw [result, Option.some.injEq, Prod.mk.injEq] at run
  exact run.1 ▸ kept

/-- Only records of the list can be read. -/
theorem readObject (sound : list.Sound records) {address : Addr} {stored : Value}
    (read : list.readObject address = some stored) : stored ∈ records := by
  unfold ObjectList.readObject at read
  split at read
  · rename_i object found
    cases read
    rcases sound with ⟨cells, intact, rfl⟩ | ⟨rfl, half⟩
    · have inCells := (intact.bare _ _ found).resolve_right (by simp)
      obtain ⟨cell, member, rfl⟩ := List.mem_map.mp inCells
      obtain ⟨next, prev, object⟩ := intact.segment.object member
      rw [object] at found
      cases found
      exact List.mem_map.mpr ⟨cell, member, rfl⟩
    · cases half.bare _ _ found
  · cases read

/-- Wherever the cursor is, a step of a traversal that succeeds keeps the list. -/
theorem getObject (sound : list.Sound records) {moved : ObjectList Value}
    {result : Option Addr} (step : list.getObject = some (moved, result)) :
    moved.Sound records := by
  rcases sound with ⟨cells, intact, rfl⟩ | ⟨rfl, half⟩
  · exact .inl ⟨cells, intact.getObject_cases step, rfl⟩
  · exact .inr ⟨rfl, (SameObjects.getObject step).halfBuilt half⟩

end Sound

end ObjectList

end DAIM.Linked
