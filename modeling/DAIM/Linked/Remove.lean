import DAIM.Linked.Represents

/-!
# Removing an object and counting the objects

`remove_object` and `get_list_size` of `linked.cpp`.  A removal unlinks one cell
in one of four ways; each leaves the cells before and after it linked to one
another.
-/

namespace DAIM.Linked

namespace ObjectList

variable {Value : Type}

/-- The loop of `get_list_size`, whose counter wraps around. -/
def sizeFrom : Nat → (Addr → Option (Object Value)) → Option Addr → UInt32 → Option UInt32
  | _, _, none, s => some s
  | 0, _, some _, _ => none
  | fuel + 1, heap, some tmp, s =>
      match heap tmp with
      | none => none
      | some object => sizeFrom fuel heap object.next (s + 1)

/-- `get_list_size` returns -1 as an unsigned number for an empty list. -/
def getListSize (list : ObjectList Value) : Option UInt32 :=
  match list.first with
  | none => some (-1)
  | some first => sizeFrom list.fresh list.heap (some first) 0

/-- `address->next = next`. -/
def setNext (heap : Addr → Option (Object Value)) (address next : Option Addr) :
    Option (Addr → Option (Object Value)) :=
  match address with
  | none => none
  | some address =>
      (heap address).map fun object =>
        setObject heap address (some { object with next := next })

/-- `address->prev = prev`. -/
def setPrev (heap : Addr → Option (Object Value)) (address prev : Option Addr) :
    Option (Addr → Option (Object Value)) :=
  match address with
  | none => none
  | some address =>
      (heap address).map fun object =>
        setObject heap address (some { object with prev := prev })

/-- The branch of `remove_object` for an object that is equal: the only one, the
first, the last or one in the middle is unlinked and deleted. -/
def removeNode (list : ObjectList Value) (tmp : Addr) (next prev : Option Addr) :
    Option (ObjectList Value) :=
  if list.first = some tmp ∧ list.last = some tmp then
    some { list with heap := setObject list.heap tmp none, first := none, last := none }
  else if list.first = some tmp then
    match setPrev list.heap next none with
    | none => none
    | some heap => some { list with heap := setObject heap tmp none, first := next }
  else if list.last = some tmp then
    match setNext list.heap prev none with
    | none => none
    | some heap => some { list with heap := setObject heap tmp none, last := prev }
  else
    match setPrev list.heap next prev with
    | none => none
    | some relinked =>
        match setNext relinked prev next with
        | none => none
        | some heap => some { list with heap := setObject heap tmp none }

/-- The loop of `remove_object`, where `same` compares a record with the argument. -/
def removeFrom (same : Value → Bool) : Nat → ObjectList Value → Option Addr →
    Option (ObjectList Value)
  | _, list, none => some list
  | 0, _, some _ => none
  | fuel + 1, list, some tmp =>
      match list.heap tmp with
      | some ⟨.value stored, next, prev⟩ =>
          if same stored then list.removeNode tmp next prev else removeFrom same fuel list next
      | _ => none

/-- `remove_object` returns 0 also when no object was equal. -/
def removeObject (list : ObjectList Value) (same : Value → Bool) :
    Option (ObjectList Value × Int) :=
  match list.first with
  | none => some (list, -1)
  | some first =>
      match removeFrom same list.fresh list (some first) with
      | none => none
      | some list => some (list, 0)

/-! ## Relinking the neighbours -/

section Neighbours

variable {heap : Addr → Option (Object Value)} {before after : Option Addr}
variable {earlier rest : List (Addr × Value)} {cell : Addr × Value}

/-- The last cell of a segment gets another successor. -/
theorem Segment.setNext (segment : Segment heap before (earlier ++ [cell]) after)
    (distinct : ((earlier ++ [cell]).map Prod.fst).Nodup) (next : Option Addr) :
    ∃ linked, ObjectList.setNext heap (some cell.1) next = some linked ∧
      Segment linked before (earlier ++ [cell]) next ∧
      (∀ address, address ≠ cell.1 → linked address = heap address) ∧
      linked cell.1 ≠ none := by
  have parts := (segment_append _ _ _ _ _).mp segment
  have object : heap cell.1 = some ⟨.value cell.2, after, lastOr before earlier⟩ := parts.2.1
  have apart : ∀ other ∈ earlier, other.1 ≠ cell.1 := by
    intro other member equal
    rw [List.map_append, List.nodup_append] at distinct
    exact distinct.2.2 other.1 (List.mem_map_of_mem member) cell.1 (by simp) equal
  refine ⟨setObject heap cell.1 (some ⟨.value cell.2, next, lastOr before earlier⟩), ?_, ?_, ?_, ?_⟩
  · simp [ObjectList.setNext, object]
  · rw [segment_append]
    refine ⟨?_, setObject_same _ _ _, trivial⟩
    exact parts.1.congr fun other member => setObject_other _ _ (apart other member)
  · exact fun address other => setObject_other _ _ other
  · simp

/-- The first cell of a segment gets another predecessor. -/
theorem Segment.setPrev (segment : Segment heap before (cell :: rest) after)
    (distinct : ((cell :: rest).map Prod.fst).Nodup) (prev : Option Addr) :
    ∃ linked, ObjectList.setPrev heap (some cell.1) prev = some linked ∧
      Segment linked prev (cell :: rest) after ∧
      (∀ address, address ≠ cell.1 → linked address = heap address) ∧
      linked cell.1 ≠ none := by
  have object : heap cell.1 = some ⟨.value cell.2, headOr rest after, before⟩ := segment.1
  have apart : ∀ other ∈ rest, other.1 ≠ cell.1 := by
    intro other member equal
    rw [List.map_cons, List.nodup_cons] at distinct
    exact distinct.1 (equal ▸ List.mem_map_of_mem member)
  refine ⟨setObject heap cell.1 (some ⟨.value cell.2, headOr rest after, prev⟩), ?_, ?_, ?_, ?_⟩
  · simp [ObjectList.setPrev, object]
  · refine ⟨setObject_same _ _ _, ?_⟩
    exact segment.2.congr fun other member => setObject_other _ _ (apart other member)
  · exact fun address other => setObject_other _ _ other
  · simp

end Neighbours

namespace Holds

variable {list : ObjectList Value} {cells before after : List (Addr × Value)}
variable {cell : Addr × Value}

/-- The cells before and after one that is taken out. -/
structure Cut (list : ObjectList Value) (before : List (Addr × Value)) (cell : Addr × Value)
    (after : List (Addr × Value)) : Prop where
  left : Segment list.heap none before (some cell.1)
  object : list.heap cell.1 = some ⟨.value cell.2, headOr after none, lastOr none before⟩
  right : Segment list.heap (some cell.1) after none
  beforeDistinct : (before.map Prod.fst).Nodup
  afterDistinct : (after.map Prod.fst).Nodup
  apartBefore : ∀ other ∈ before, other.1 ≠ cell.1
  apartAfter : ∀ other ∈ after, other.1 ≠ cell.1
  apart : ∀ one ∈ before, ∀ other ∈ after, one.1 ≠ other.1

theorem cut (intact : list.Holds (before ++ cell :: after)) : Cut list before cell after := by
  have parts := (segment_append _ _ _ _ _).mp intact.segment
  have distinct := intact.distinct
  rw [List.map_append, List.nodup_append, List.map_cons, List.nodup_cons] at distinct
  obtain ⟨beforeDistinct, ⟨notAfter, afterDistinct⟩, separate⟩ := distinct
  refine ⟨parts.1, parts.2.1, parts.2.2, beforeDistinct, afterDistinct, ?_, ?_, ?_⟩
  · intro other member
    exact separate other.1 (List.mem_map_of_mem member) cell.1 List.mem_cons_self
  · rintro other member equal
    exact notAfter (equal ▸ List.mem_map_of_mem member)
  · intro one member other later
    exact separate one.1 (List.mem_map_of_mem member) other.1
      (List.mem_cons_of_mem _ (List.mem_map_of_mem later))

/-- What remains to be shown of a list from which one cell was taken out. -/
theorem shrunk (intact : list.Holds (before ++ cell :: after)) {removed : ObjectList Value}
    (first : removed.first = headOr (before ++ after) none)
    (last : removed.last = lastOr none (before ++ after))
    (fresh : removed.fresh = list.fresh) (current : removed.current = list.current)
    (segment : Segment removed.heap none (before ++ after) none)
    (gone : removed.heap cell.1 = none)
    (outside : ∀ address, address ∉ (before ++ cell :: after).map Prod.fst →
      removed.heap address = list.heap address) :
    removed.Holds (before ++ after) := by
  have inside (address : Addr) : address ∈ (before ++ cell :: after).map Prod.fst ↔
      address = cell.1 ∨ address ∈ (before ++ after).map Prod.fst := by
    simp only [List.map_append, List.map_cons, List.mem_append, List.mem_cons]
    grind
  refine ⟨first, last, segment, ?_, ?_, ?_, ?_, ?_⟩
  · have sub : (before ++ after).Sublist (before ++ cell :: after) :=
      List.Sublist.append_left (List.sublist_cons_self cell after) before
    exact intact.distinct.sublist (sub.map Prod.fst)
  · intro other member
    rw [fresh]
    apply intact.allocated
    rcases List.mem_append.mp member with early | late
    · exact List.mem_append_left _ early
    · exact List.mem_append_right _ (List.mem_cons_of_mem _ late)
  · intro address beyond
    rw [fresh] at beyond
    rw [outside address]
    · exact intact.unallocated address beyond
    · intro member
      obtain ⟨other, isCell, rfl⟩ := List.mem_map.mp member
      exact Nat.not_lt.mpr beyond (intact.allocated other isCell)
  · intro address object found
    by_cases member : address ∈ (before ++ cell :: after).map Prod.fst
    · rcases (inside address).mp member with rfl | kept
      · rw [gone] at found
        cases found
      · exact .inl kept
    · rw [outside address member] at found
      exact .inr ((intact.bare address object found).resolve_left member)
  · intro address moved
    rw [current] at moved
    obtain ⟨bounded, place⟩ := intact.cursor address moved
    refine ⟨fresh ▸ bounded, ?_⟩
    rcases place with member | freed
    · rcases (inside address).mp member with rfl | kept
      · exact .inr gone
      · exact .inl kept
    · by_cases member : address ∈ (before ++ cell :: after).map Prod.fst
      · rcases (inside address).mp member with rfl | kept
        · exact .inr gone
        · exact .inl kept
      · exact .inr ((outside address member).trans freed)

/-- The object of one cell was deleted, and no other one. -/
structure Removed (list : ObjectList Value) (address : Addr) (removed : ObjectList Value) :
    Prop where
  gone : removed.heap address = none
  kept : ∀ other, other ≠ address → (removed.heap other = none ↔ list.heap other = none)
  fresh : removed.fresh = list.fresh
  current : removed.current = list.current

theorem Segment.ne_none {heap : Addr → Option (Object Value)} {first last : Option Addr}
    (segment : Segment heap first cells last) {address : Addr}
    (member : address ∈ cells.map Prod.fst) : heap address ≠ none := by
  obtain ⟨cell, isCell, rfl⟩ := List.mem_map.mp member
  obtain ⟨next, prev, object⟩ := segment.object isCell
  simp [object]

/-- Once the neighbours are linked to one another, the object can be deleted. -/
theorem delete (intact : list.Holds (before ++ cell :: after))
    {linked : Addr → Option (Object Value)} (segment : Segment linked none (before ++ after) none)
    (outside : ∀ address, address ∉ (before ++ after).map Prod.fst →
      linked address = list.heap address)
    {removed : ObjectList Value}
    (made : removed = { list with
      heap := setObject linked cell.1 none
      first := headOr (before ++ after) none
      last := lastOr none (before ++ after) }) :
    removed.Holds (before ++ after) ∧ Removed list cell.1 removed := by
  have cut := intact.cut
  have absent : cell.1 ∉ (before ++ after).map Prod.fst := by
    intro member
    obtain ⟨other, isCell, same⟩ := List.mem_map.mp member
    rcases List.mem_append.mp isCell with early | late
    · exact cut.apartBefore other early same
    · exact cut.apartAfter other late same
  have gone : removed.heap cell.1 = none := by
    rw [made]
    exact setObject_same _ _ _
  have same : ∀ address, address ≠ cell.1 → removed.heap address = linked address := by
    intro address other
    rw [made]
    exact setObject_other _ _ other
  have kept : Segment removed.heap none (before ++ after) none := by
    apply segment.congr
    intro other member
    apply same
    rintro equal
    exact absent (equal ▸ List.mem_map_of_mem member)
  constructor
  · refine intact.shrunk ?_ ?_ ?_ ?_ kept gone ?_
    · rw [made]
    · rw [made]
    · rw [made]
    · rw [made]
    · intro address away
      have other : address ≠ cell.1 := by
        rintro rfl
        exact away (by simp)
      rw [same address other]
      apply outside
      intro member
      apply away
      rw [List.map_append, List.mem_append] at member
      simp only [List.map_append, List.map_cons, List.mem_append, List.mem_cons]
      exact member.imp_right .inr
  · refine ⟨gone, ?_, by rw [made], by rw [made]⟩
    intro other different
    by_cases member : other ∈ (before ++ after).map Prod.fst
    · have original : list.heap other ≠ none := by
        apply Segment.ne_none intact.segment
        rw [List.map_append, List.mem_append] at member
        simp only [List.map_append, List.map_cons, List.mem_append, List.mem_cons]
        exact member.imp_right .inr
      exact iff_of_false (Segment.ne_none kept member) original
    · rw [same other different, outside other member]

/-- Only the first cell is the one that `first` names. -/
theorem first_iff (intact : list.Holds (before ++ cell :: after)) :
    list.first = some cell.1 ↔ before = [] := by
  rw [intact.first]
  cases before with
  | nil => simp
  | cons one earlier => simpa using intact.cut.apartBefore one List.mem_cons_self

/-- Only the last cell is the one that `last` names. -/
theorem last_iff (intact : list.Holds (before ++ cell :: after)) :
    list.last = some cell.1 ↔ after = [] := by
  rw [intact.last]
  rcases List.eq_nil_or_concat' after with rfl | ⟨earlier, final, rfl⟩
  · simp
  · simpa using intact.cut.apartAfter final (by simp)

/-- Whichever of the four ways is taken, the cell is taken out. -/
theorem removeNode_eq (intact : list.Holds (before ++ cell :: after)) :
    ∃ removed, list.removeNode cell.1 (headOr after none) (lastOr none before) = some removed ∧
      removed.Holds (before ++ after) ∧ Removed list cell.1 removed := by
  have cut := intact.cut
  have isFirst := intact.first_iff
  have isLast := intact.last_iff
  rcases List.eq_nil_or_concat' before with rfl | ⟨earlier, prev, rfl⟩
  · cases after with
    | nil =>
        have only : list.first = some cell.1 ∧ list.last = some cell.1 :=
          ⟨isFirst.mpr rfl, isLast.mpr rfl⟩
        refine ⟨_, by rw [removeNode, if_pos only], ?_⟩
        exact intact.delete trivial (fun _ _ => rfl) rfl
    | cons next later =>
        obtain ⟨linked, relink, segment, outside, -⟩ :=
          cut.right.setPrev cut.afterDistinct none
        refine ⟨{ list with heap := setObject linked cell.1 none, first := some next.1 }, ?_, ?_⟩
        · simp only [removeNode, isFirst, isLast, headOr_cons, lastOr_nil, relink]
          simp
        · refine intact.delete segment (fun address away => outside address ?_) ?_
          · rintro rfl
            exact away (by simp)
          · rw [intact.last]
            simp
  · cases after with
    | nil =>
        obtain ⟨linked, relink, segment, outside, -⟩ :=
          cut.left.setNext cut.beforeDistinct none
        refine ⟨{ list with heap := setObject linked cell.1 none, last := some prev.1 }, ?_, ?_⟩
        · simp only [removeNode, isFirst, isLast, headOr_nil, lastOr_append, lastOr_cons,
            lastOr_nil, relink]
          simp
        · refine intact.delete (by simpa using segment) (fun address away => outside address ?_) ?_
          · rintro rfl
            exact away (by simp)
          · rw [intact.first]
            cases earlier <;> simp
    | cons next later =>
        obtain ⟨relinked, relink, right, outside, -⟩ :=
          cut.right.setPrev cut.afterDistinct (some prev.1)
        have left : Segment relinked none (earlier ++ [prev]) (some cell.1) :=
          cut.left.congr fun other member =>
            outside other.1 (cut.apart other member next List.mem_cons_self)
        obtain ⟨linked, link, segment, beside, -⟩ :=
          left.setNext cut.beforeDistinct (some next.1)
        have onward : Segment linked (some prev.1) (next :: later) none :=
          right.congr fun other member =>
            beside other.1 (Ne.symm (cut.apart prev (by simp) other member))
        refine ⟨{ list with heap := setObject linked cell.1 none }, ?_, ?_⟩
        · simp only [removeNode, isFirst, isLast, headOr_cons, lastOr_append, lastOr_cons,
            lastOr_nil, relink, link]
          simp
        · have whole : Segment linked none (earlier ++ [prev] ++ next :: later) none := by
            rw [segment_append]
            exact ⟨segment, by simpa using onward⟩
          refine intact.delete whole (fun address away => ?_) ?_
          · rw [beside, outside]
            · rintro rfl
              exact away (by simp)
            · rintro rfl
              exact away (by simp)
          · rw [intact.first, intact.last]
            cases earlier <;> simp

theorem removeFrom_eq (same : Value → Bool) (intact : list.Holds (before ++ after))
    {fuel : Nat} (enough : after.length ≤ fuel) :
    (∀ cell ∈ after, same cell.2 = false) ∧
        removeFrom same fuel list (headOr after none) = some list ∨
      ∃ left cell right removed, after = left ++ cell :: right ∧
        (∀ other ∈ left, same other.2 = false) ∧ same cell.2 = true ∧
        removeFrom same fuel list (headOr after none) = some removed ∧
        removed.Holds (before ++ left ++ right) ∧ Removed list cell.1 removed := by
  induction after generalizing before fuel with
  | nil =>
      left
      refine ⟨by simp, ?_⟩
      cases fuel <;> rfl
  | cons cell rest inductionHypothesis =>
      cases fuel with
      | zero => simp at enough
      | succ fuel =>
          have object := intact.cut.object
          cases equal : same cell.2 with
          | true =>
              right
              obtain ⟨removed, result, kept, deleted⟩ := intact.removeNode_eq
              refine ⟨[], cell, rest, removed, rfl, by simp, equal, ?_, by simpa using kept,
                deleted⟩
              simp only [headOr_cons, removeFrom, object, equal, if_true, result]
          | false =>
              have regrouped : before ++ cell :: rest = (before ++ [cell]) ++ rest := by simp
              have goesOn : removeFrom same (fuel + 1) list (headOr (cell :: rest) none) =
                  removeFrom same fuel list (headOr rest none) := by
                simp [removeFrom, object, equal]
              rw [regrouped] at intact
              have next := inductionHypothesis intact (Nat.le_of_succ_le_succ enough)
              rw [goesOn]
              rcases next with ⟨none, result⟩ | ⟨left, found, right, removed, rfl, skipped, is,
                result, kept, deleted⟩
              · exact .inl ⟨by simpa [equal] using none, result⟩
              · refine .inr ⟨cell :: left, found, right, removed, rfl, ?_, is, result, ?_, deleted⟩
                · simpa [equal] using skipped
                · simpa using kept

/-- `remove_object` takes out the first cell that is equal, if there is one. -/
theorem removeObject_eq (intact : list.Holds cells) (same : Value → Bool) :
    ∃ removed, list.removeObject same = some (removed, if cells = [] then -1 else 0) ∧
      ((∀ cell ∈ cells, same cell.2 = false) ∧ removed = list ∨
        ∃ left cell right, cells = left ++ cell :: right ∧
          (∀ other ∈ left, same other.2 = false) ∧ same cell.2 = true ∧
          removed.Holds (left ++ right) ∧ Removed list cell.1 removed) := by
  cases cells with
  | nil =>
      have first : list.first = none := intact.first
      exact ⟨list, by simp [removeObject, first], .inl ⟨by simp, rfl⟩⟩
  | cons cell rest =>
      have first : list.first = some cell.1 := intact.first
      have whole : list.Holds ([] ++ cell :: rest) := intact
      rcases whole.removeFrom_eq same intact.length_le_fresh with
        ⟨none, result⟩ | ⟨left, found, right, removed, cut, skipped, is, result, kept, deleted⟩
      · rw [headOr_cons] at result
        exact ⟨list, by simp [removeObject, first, result], .inl ⟨none, rfl⟩⟩
      · rw [headOr_cons] at result
        refine ⟨removed, by simp [removeObject, first, result], .inr ?_⟩
        exact ⟨left, found, right, cut, skipped, is, kept, deleted⟩

/-! ## Counting -/

theorem sizeFrom_eq {heap : Addr → Option (Object Value)} {start : Option Addr}
    (segment : Segment heap start cells none) {fuel : Nat} (enough : cells.length ≤ fuel)
    (count : Nat) :
    sizeFrom fuel heap (headOr cells none) (UInt32.ofNat count) =
      some (UInt32.ofNat (count + cells.length)) := by
  induction cells generalizing start fuel count with
  | nil => cases fuel <;> rfl
  | cons cell rest inductionHypothesis =>
      cases fuel with
      | zero => simp at enough
      | succ fuel =>
          have tail := inductionHypothesis segment.2 (Nat.le_of_succ_le_succ enough) (count + 1)
          have next : UInt32.ofNat count + 1 = UInt32.ofNat (count + 1) := by simp
          simp only [headOr_cons, sizeFrom, segment.1, next, tail, List.length_cons]
          congr 2
          omega

theorem getListSize_eq (intact : list.Holds cells) :
    list.getListSize = some (if cells = [] then -1 else UInt32.ofNat cells.length) := by
  cases cells with
  | nil =>
      have first : list.first = none := intact.first
      simp [getListSize, first]
  | cons cell rest =>
      have first : list.first = some cell.1 := intact.first
      have counted := sizeFrom_eq intact.segment intact.length_le_fresh 0
      simp only [headOr_cons, Nat.zero_add] at counted
      have zero : UInt32.ofNat 0 = 0 := rfl
      rw [zero] at counted
      simp [getListSize, first, counted]

end Holds

end ObjectList

end DAIM.Linked
