import DAIM.Linked.Represents

/-!
# The cursor of an object list

Which objects a list still links, and which records the cursor has yet to come
to.
-/

namespace DAIM.Linked

namespace ObjectList

variable {Value : Type} {list moved : ObjectList Value}

/-- The object can be reached from the first one. -/
inductive InList (list : ObjectList Value) : Addr → Prop where
  | first {address : Addr} {object : Object Value} :
      list.first = some address → list.heap address = some object → InList list address
  | next {earlier address : Addr} {before object : Object Value} :
      InList list earlier → list.heap earlier = some before → before.next = some address →
      list.heap address = some object → InList list address

/-- Unless it is null, the cursor points to an object of the list. -/
def CursorInList (list : ObjectList Value) : Prop :=
  ∀ address, list.current = some address → list.InList address

/-- Nobody is going through the list. -/
def AtRest (list : ObjectList Value) : Prop := list.current = none

namespace InList

variable {address : Addr}

theorem alive (member : list.InList address) : ∃ object, list.heap address = some object := by
  cases member with
  | first _ here => exact ⟨_, here⟩
  | next _ _ _ here => exact ⟨_, here⟩

/-- The cursor has no part in what the list links. -/
theorem congr (member : list.InList address) (first : moved.first = list.first)
    (heap : moved.heap = list.heap) : moved.InList address := by
  induction member with
  | first start here => exact .first (first.trans start) (heap ▸ here)
  | next _ object following here inductionHypothesis =>
      exact .next inductionHypothesis (heap ▸ object) following (heap ▸ here)

theorem not_empty (empty : list.first = none) : ¬ list.InList address := by
  intro member
  induction member with
  | first start _ => exact absurd (empty.symm.trans start) (by simp)
  | next _ _ _ _ inductionHypothesis => exact inductionHypothesis

end InList

/-- Whatever is said of the object at the cursor, when there is none. -/
theorem AtRest.nowhere (rest : list.AtRest) {place : Addr → Prop} :
    ∀ address, list.current = some address → place address := by
  intro address here
  rw [rest] at here
  cases here

theorem AtRest.cursorInList (rest : list.AtRest) : list.CursorInList := rest.nowhere

theorem CursorInList.atRest (inside : list.CursorInList) (empty : list.first = none) :
    list.AtRest := by
  cases here : list.current with
  | none => exact here
  | some address => exact absurd (inside address here) (InList.not_empty empty)

/-- A cursor that points into the list can be followed. -/
theorem CursorInList.following (inside : list.CursorInList) : list.following ≠ none := by
  intro stuck
  unfold ObjectList.following at stuck
  split at stuck
  · cases stuck
  · rename_i address here
    obtain ⟨object, alive⟩ := (inside address here).alive
    rw [alive] at stuck
    cases stuck

/-- A step of a traversal moves the cursor inside the list. -/
theorem CursorInList.getObject (inside : list.CursorInList) {result : Option Addr}
    (step : list.getObject = some (moved, result)) : moved.CursorInList := by
  unfold ObjectList.getObject at step
  split at step
  · cases step
  · cases step
    exact AtRest.cursorInList rfl
  · rename_i next isNext
    split at step
    · cases step
    · rename_i object here
      cases step
      intro address same
      cases same
      unfold ObjectList.following at isNext
      split at isNext
      · have start : list.first = some next := Option.some.inj isNext
        exact .first start here
      · rename_i current isCurrent
        obtain ⟨before, found, following⟩ := Option.map_eq_some_iff.mp isNext
        exact .next ((inside current isCurrent).congr rfl rfl) found following here

theorem freeList_current {count : Int} (freed : list.freeList = some (moved, count)) :
    moved.current = list.current := by
  unfold freeList at freed
  split at freed
  · cases freed
    rfl
  · split at freed
    · cases freed
    · cases freed
      rfl

/-- After a list was freed the cursor points nowhere, unless it was at rest or
there was nothing to free. -/
theorem freeList_cursorInList {count : Int} (freed : list.freeList = some (moved, count))
    (inside : list.CursorInList) :
    moved.CursorInList ↔ list.AtRest ∨ list.last = none := by
  have current := freeList_current freed
  unfold freeList at freed
  split at freed
  · rename_i nothing
    cases freed
    exact ⟨fun _ => .inr nothing, fun _ => inside⟩
  · rename_i last isLast
    split at freed
    · cases freed
    · cases freed
      constructor
      · intro kept
        exact .inl (kept.atRest rfl)
      · rintro (rest | nothing)
        · exact AtRest.cursorInList rest
        · rw [isLast] at nothing
          cases nothing

theorem addObject_current {objectAllocated blockAllocated : Bool} {result : Option Addr}
    (added : list.addObject objectAllocated blockAllocated = some (moved, result)) :
    moved.current = list.current := by
  unfold addObject at added
  split at added
  · split at added
    · cases added
      rfl
    · split at added
      · cases added
        rfl
      · cases added
        rfl
  · split at added
    · cases added
      rfl
    · split at added
      · cases added
        rfl
      · split at added
        · cases added
        · split at added
          · cases added
          · cases added
            rfl

theorem writeObject_current {address : Addr} {stored : Value}
    (written : list.writeObject address stored = some moved) : moved.current = list.current := by
  unfold writeObject at written
  split at written
  · cases written
  · cases written
    rfl

theorem addFilled_current {objectAllocated blockAllocated : Bool} {stored : Value}
    (added : list.addFilled objectAllocated blockAllocated stored = some moved) :
    moved.current = list.current := by
  unfold addFilled at added
  split at added
  · cases added
  · rename_i same add
    cases added
    exact addObject_current add
  · rename_i same address add
    exact (writeObject_current added).trans (addObject_current add)

/-! ## Who goes through a list -/

/-- What becomes of a list and of whether somebody goes through it, in one step
of those who keep to the rule: only who goes through the list moves its cursor,
up to a rewind at the end, and the list is freed while nobody does. -/
inductive Visit (list : ObjectList Value) : Bool → ObjectList Value → Bool → Prop where
  | kept {visited : Bool} : Visit list visited list visited
  | entered : Visit list false list true
  | got {moved : ObjectList Value} {result : Option Addr} :
      list.getObject = some (moved, result) → Visit list true moved true
  | rewound : Visit list true list.listRewind false
  | freed {moved : ObjectList Value} {count : Int} :
      list.freeList = some (moved, count) → Visit list false moved false

/-- The cursor is inside the list, and at rest unless somebody moves it. -/
structure Attended (list : ObjectList Value) (visited : Bool) : Prop where
  inside : list.CursorInList
  rest : visited = false → list.AtRest

theorem Attended.of_rest {visited : Bool} (rest : list.AtRest) : list.Attended visited :=
  ⟨rest.cursorInList, fun _ => rest⟩

theorem Attended.visit {visited after : Bool} (attended : list.Attended visited)
    (visit : list.Visit visited moved after) : moved.Attended after := by
  cases visit with
  | kept => exact attended
  | entered => exact ⟨attended.inside, nofun⟩
  | got step => exact ⟨attended.inside.getObject step, nofun⟩
  | rewound => exact .of_rest rfl
  | freed free => exact .of_rest ((freeList_current free).trans (attended.rest rfl))

/-! ## What the cursor has yet to come to -/

/-- The records that the next steps of a traversal return. -/
def ahead (list : ObjectList Value) : List Value :=
  match list.current with
  | none => list.contents
  | some address =>
      match list.heap address with
      | none => []
      | some object => walk list.heap list.fresh object.next

theorem AtRest.ahead (rest : list.AtRest) : list.ahead = list.contents := by
  have atRest : list.current = none := rest
  unfold ObjectList.ahead
  rw [atRest]

namespace Holds

variable {cells before after : List (Addr × Value)}

theorem ahead_at (intact : list.Holds (before ++ after))
    (position : list.current = lastOr none before) : list.ahead = after.map Prod.snd := by
  have short := intact.length_le_fresh
  rw [List.length_append] at short
  rcases List.eq_nil_or_concat' before with rfl | ⟨earlier, cell, rfl⟩
  · rw [AtRest.ahead position]
    exact intact.contents_eq
  · have here := ((segment_append _ _ _ _ _).mp intact.segment).1
    have rest := ((segment_append _ _ _ _ _).mp intact.segment).2
    have object := ((segment_append _ _ _ _ _).mp here).2.1
    simp only [lastOr_append, lastOr_cons, lastOr_nil] at position
    rw [headOr_nil] at object
    unfold ahead
    rw [position]
    simp only [object]
    exact walk_segment rest (by omega)

end Holds

/-- Where a traversal of a list is: it has not begun, it calls `get_object`, it
uses the record that it got, or it has come to the end. -/
inductive Phase where
  | idle
  | next
  | inUse (address : Addr)
  | past
  deriving DecidableEq, Repr

/-- The records that a traversal which is at the phase has yet to use. -/
def remaining (list : ObjectList Value) : Phase → List Value
  | .idle => list.contents
  | .next => list.ahead
  | .inUse address => (list.readObject address).toList ++ list.ahead
  | .past => []

/-- The list is intact, and its cursor is where a traversal at the phase has
put it. -/
structure AtPhase (list : ObjectList Value) (phase : Phase) : Prop where
  intact : ∃ cells, list.Holds cells ∧
    ∀ address, list.current = some address → address ∈ cells.map Prod.fst
  resting : phase = .idle ∨ phase = .past → list.AtRest

namespace AtPhase

variable {phase : Phase}

theorem empty : (empty : ObjectList Value).AtPhase .idle :=
  ⟨⟨[], holds_empty, by simp [ObjectList.empty]⟩, fun _ => rfl⟩

/-- A traversal begins at the first record. -/
theorem start (atRest : list.AtPhase .idle) : list.AtPhase .next :=
  ⟨atRest.intact, by simp⟩

theorem start_remaining (atRest : list.AtPhase .idle) :
    list.remaining .next = list.remaining .idle :=
  (atRest.resting (.inl rfl)).ahead

theorem rest (atEnd : list.AtPhase .past) : list.AtPhase .idle :=
  ⟨atEnd.intact, fun _ => atEnd.resting (.inr rfl)⟩

theorem get (atNext : list.AtPhase .next) {result : Option Addr}
    (step : list.getObject = some (moved, result)) :
    moved.AtPhase (result.elim .past .inUse) ∧
      moved.remaining (result.elim .past .inUse) = list.remaining .next ∧
      moved.contents = list.contents := by
  obtain ⟨cells, intact, inside⟩ := atNext.intact
  obtain ⟨before, after, rfl, position⟩ := Holds.divide inside
  obtain ⟨other, got, rfl, kept⟩ := intact.getObject_at position
  have yet : list.remaining .next = after.map Prod.snd := intact.ahead_at position
  rw [got, Option.some.injEq, Prod.mk.injEq] at step
  obtain ⟨rfl, rfl⟩ := step
  rw [yet, kept.contents_eq, intact.contents_eq]
  cases after with
  | nil => exact ⟨⟨⟨_, kept, by simp⟩, fun _ => rfl⟩, rfl, rfl⟩
  | cons cell rest =>
      have member : (cell.1, cell.2) ∈ before ++ cell :: rest := by simp
      have regrouped : before ++ cell :: rest = (before ++ [cell]) ++ rest := by simp
      refine ⟨⟨⟨_, kept, ?_⟩, by simp⟩, ?_, rfl⟩
      · intro address here
        cases here
        exact List.mem_map_of_mem member
      · have found := kept.read member
        rw [regrouped] at kept
        have beyond := kept.ahead_at (by simp)
        rw [headOr_cons] at found beyond ⊢
        rw [Option.elim_some, remaining, found, beyond]
        rfl

/-- A record that was used is no longer among those to come. -/
theorem used {address : Addr} {stored : Value} (here : list.AtPhase (.inUse address))
    (read : list.readObject address = some stored) :
    list.AtPhase .next ∧ list.remaining (.inUse address) = stored :: list.remaining .next := by
  refine ⟨⟨here.intact, by simp⟩, ?_⟩
  simp [remaining, read]

theorem rewind (atEnd : list.AtPhase .past) :
    list.listRewind.AtPhase .idle ∧ list.listRewind.contents = list.contents := by
  obtain ⟨cells, intact, -⟩ := atEnd.intact
  refine ⟨⟨⟨cells, intact.rewind, by simp [listRewind]⟩, fun _ => rfl⟩, ?_⟩
  rw [intact.rewind.contents_eq, intact.contents_eq]

theorem add (atRest : list.AtPhase .idle) {stored : Value}
    (added : list.addFilled true true stored = some moved) :
    moved.AtPhase .idle ∧ moved.contents = list.contents ++ [stored] := by
  obtain ⟨cells, intact, -⟩ := atRest.intact
  obtain ⟨other, result, kept, current⟩ := intact.addFilled_eq stored
  rw [result, Option.some.injEq] at added
  subst added
  have rest : other.AtRest := current.trans (atRest.resting (.inl rfl))
  refine ⟨⟨⟨_, kept, rest.nowhere⟩, fun _ => rest⟩, ?_⟩
  rw [kept.contents_eq, intact.contents_eq]
  simp

theorem free (atRest : list.AtPhase .idle) {count : Int}
    (freed : list.freeList = some (moved, count)) :
    moved.AtPhase .idle ∧ moved.contents = [] := by
  obtain ⟨cells, intact, -⟩ := atRest.intact
  obtain ⟨other, total, result, kept, current, -⟩ := intact.freeList_eq
  rw [result, Option.some.injEq, Prod.mk.injEq] at freed
  obtain ⟨rfl, -⟩ := freed
  have rest : other.AtRest := current.trans (atRest.resting (.inl rfl))
  exact ⟨⟨⟨_, kept, rest.nowhere⟩, fun _ => rest⟩, kept.contents_eq⟩

end AtPhase

/-! ## Whatever the allocations do -/

/-- As `AtPhase`, or the list was left half built and holds no record. -/
def Steady (list : ObjectList Value) (phase : Phase) : Prop := list.AtPhase phase ∨ list.HalfBuilt

theorem HalfBuilt.readObject (half : list.HalfBuilt) (address : Addr) :
    list.readObject address = none := by
  unfold ObjectList.readObject
  split
  · rename_i found
    cases half.bare _ _ found
  · rfl

theorem HalfBuilt.walk (half : list.HalfBuilt) (fuel : Nat) (start : Option Addr) :
    walk list.heap fuel start = [] := by
  unfold ObjectList.walk
  split
  · rfl
  · rfl
  · split
    · rename_i found
      cases half.bare _ _ found
    · rfl

/-- There is nothing to come to in a half-built list. -/
theorem HalfBuilt.remaining (half : list.HalfBuilt) (phase : Phase) :
    list.remaining phase = [] := by
  have ahead : list.ahead = [] := by
    unfold ObjectList.ahead
    split
    · exact half.contents_eq
    · split
      · rfl
      · exact half.walk _ _
  cases phase with
  | idle => exact half.contents_eq
  | next => exact ahead
  | inUse address => simp [ObjectList.remaining, half.readObject, ahead]
  | past => rfl

namespace Steady

variable {phase : Phase}

theorem start (steady : list.Steady .idle) :
    list.Steady .next ∧ list.remaining .next = list.remaining .idle := by
  rcases steady with intact | half
  · exact ⟨.inl intact.start, intact.start_remaining⟩
  · exact ⟨.inr half, by rw [half.remaining, half.remaining]⟩

theorem get (steady : list.Steady .next) {result : Option Addr}
    (step : list.getObject = some (moved, result)) :
    moved.Steady (result.elim .past .inUse) ∧
      moved.remaining (result.elim .past .inUse) = list.remaining .next := by
  rcases steady with intact | half
  · obtain ⟨there, remaining, -⟩ := intact.get step
    exact ⟨.inl there, remaining⟩
  · have still := (SameObjects.getObject step).halfBuilt half
    exact ⟨.inr still, by rw [still.remaining, half.remaining]⟩

theorem used {address : Addr} {stored : Value} (steady : list.Steady (.inUse address))
    (read : list.readObject address = some stored) :
    list.Steady .next ∧ list.remaining (.inUse address) = stored :: list.remaining .next := by
  rcases steady with intact | half
  · obtain ⟨there, remaining⟩ := intact.used read
    exact ⟨.inl there, remaining⟩
  · rw [half.readObject] at read
    cases read

theorem rewind (steady : list.Steady .past) : list.listRewind.Steady .idle := by
  rcases steady with intact | half
  · exact .inl intact.rewind.1
  · have same : SameObjects list list.listRewind := ⟨rfl, rfl, rfl, rfl⟩
    exact .inr (same.halfBuilt half)

theorem free (steady : list.Steady .idle) {count : Int}
    (freed : list.freeList = some (moved, count)) : moved.Steady .idle := by
  rcases steady with intact | half
  · exact .inl (intact.free freed).1
  · rw [freeList, half.last] at freed
    cases freed
    exact .inr half

theorem add (steady : list.Steady .idle) {objectAllocated blockAllocated : Bool} {stored : Value}
    (added : list.addFilled objectAllocated blockAllocated stored = some moved) :
    moved.Steady .idle ∧
      moved.contents =
        list.contents ++ if objectAllocated && blockAllocated then [stored] else [] := by
  cases allocated : objectAllocated && blockAllocated with
  | true =>
      obtain ⟨rfl, rfl⟩ : objectAllocated = true ∧ blockAllocated = true := by
        simpa using allocated
      rcases steady with intact | half
      · obtain ⟨there, contents⟩ := intact.add added
        exact ⟨.inl there, contents⟩
      · rw [half.addFilled_none] at added
        cases added
  | false =>
      rcases steady with intact | half
      · obtain ⟨cells, holds, -⟩ := intact.intact
        obtain ⟨same, result, kept, current⟩ := holds.addFilled_failed allocated stored
        rw [result, Option.some.injEq] at added
        subst added
        have rest : same.AtRest := current.trans (intact.resting (.inl rfl))
        rcases kept with kept | ⟨rfl, half⟩
        · refine ⟨.inl ⟨⟨cells, kept, rest.nowhere⟩, fun _ => rest⟩, ?_⟩
          simp [kept.contents_eq, holds.contents_eq]
        · refine ⟨.inr half, ?_⟩
          simp [half.contents_eq, holds.contents_eq]
      · have still := half.addFilled_failed allocated stored added
        refine ⟨.inr still, ?_⟩
        simp [still.contents_eq, half.contents_eq]

end Steady

end ObjectList

end DAIM.Linked
