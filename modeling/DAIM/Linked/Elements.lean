import DAIM.Linked.Sequence

/-!
# The elements of an object list

An element is a block that `add_object` returned, from the moment on when it
was linked and whatever has been written into it.  This is how `add_object` and
`get_object` treat it: neither of them looks into a block.
-/

namespace DAIM.Linked

variable {Value : Type}

/-- A block is an element before anything is written into it. -/
def Payload.seen : Payload Value → Payload (Option Value)
  | .null => .null
  | .raw => .value none
  | .value stored => .value (some stored)

def Object.seen (object : Object Value) : Object (Option Value) :=
  ⟨object.p.seen, object.next, object.prev⟩

namespace ObjectList

variable {list next : ObjectList Value}

/-- The list as one of elements, written or not. -/
def seen (list : ObjectList Value) : ObjectList (Option Value) where
  heap := fun address => (list.heap address).map Object.seen
  fresh := list.fresh
  first := list.first
  current := list.current
  last := list.last

/-- The list is well formed and has these elements, in this order: the address
of each and what was written into it. -/
def HasElements (list : ObjectList Value) (elements : List (Addr × Option Value)) : Prop :=
  list.seen.Holds elements

theorem seen_setObject (heap : Addr → Option (Object Value)) (address : Addr)
    (object : Option (Object Value)) :
    (fun other => (setObject heap address object other).map Object.seen) =
      setObject (fun other => (heap other).map Object.seen) address (object.map Object.seen) := by
  funext other
  unfold setObject
  split <;> rfl

@[simp]
theorem seen_listRewind : list.listRewind.seen = list.seen.listRewind := rfl

theorem seen_following : list.seen.following = list.following := by
  unfold following
  cases current : list.current with
  | none => simp [seen, current]
  | some address =>
      simp only [seen, current, Option.map_map]
      rfl

theorem block_seen (object : Object Value) (address : Addr) :
    block object.seen address = block object address := by
  obtain ⟨p, next, prev⟩ := object
  cases p <;> rfl

/-- A traversal does not depend on what was written. -/
theorem seen_getObject :
    list.seen.getObject = list.getObject.map fun (moved, result) => (moved.seen, result) := by
  unfold getObject
  rw [seen_following]
  cases following : list.following with
  | none => rfl
  | some target =>
      cases target with
      | none => rfl
      | some address =>
          cases object : list.heap address with
          | none => simp [seen, object]
          | some found => simp [seen, object, block_seen]

theorem seen_addObject_failed {objectAllocated blockAllocated : Bool} (stored : Option Value)
    (failed : (objectAllocated && blockAllocated) = false) :
    list.seen.addFilled objectAllocated blockAllocated stored =
      (list.addObject objectAllocated blockAllocated).map fun (next, _) => next.seen := by
  cases objectAllocated with
  | false => cases first : list.first <;> simp [addFilled, addObject, seen, first]
  | true =>
      have blockFailed : blockAllocated = false := by simpa using failed
      subst blockFailed
      cases first : list.first <;>
        simp [addFilled, addObject, seen, first, seen_setObject, Object.seen, Payload.seen]

theorem setObject_setObject (heap : Addr → Option (Object Value)) (address : Addr)
    (object other : Option (Object Value)) :
    setObject (setObject heap address object) address other = setObject heap address other := by
  funext place
  unfold setObject
  split <;> rfl

theorem setObject_comm (heap : Addr → Option (Object Value)) {address place : Addr}
    (different : address ≠ place) (object other : Option (Object Value)) :
    setObject (setObject heap address object) place other =
      setObject (setObject heap place other) address object := by
  funext spot
  unfold setObject
  split
  · rename_i here
    rw [if_neg (here ▸ different.symm)]
  · rfl

/-- The block that `add_object` links is an element at once. -/
theorem seen_addObject (unused : list.heap list.fresh = none) :
    list.seen.addFilled true true none =
      (list.addObject true true).map fun (next, _) => next.seen := by
  cases first : list.first with
  | none =>
      simp [addFilled, addObject, writeObject, seen, first, seen_setObject, Object.seen,
        Payload.seen, setObject_setObject]
  | some start =>
      cases isLast : list.last with
      | none => simp [addFilled, addObject, seen, first, isLast]
      | some last =>
          cases object : list.heap last with
          | none => simp [addFilled, addObject, seen, first, isLast, object]
          | some lastObject =>
              have different : list.fresh ≠ last := by
                rintro rfl
                rw [unused] at object
                cases object
              simp [addFilled, addObject, writeObject, seen, first, isLast, object, seen_setObject,
                Object.seen, Payload.seen, setObject_comm _ different, setObject_setObject]

theorem hasElements_empty (Value : Type) : (empty : ObjectList Value).HasElements [] :=
  holds_empty

namespace HasElements

variable {elements : List (Addr × Option Value)}

theorem unused (wellFormed : list.HasElements elements) : list.heap list.fresh = none :=
  Option.map_eq_none_iff.mp (wellFormed.unallocated list.fresh (Nat.le_refl _))

/-- An addition whose allocations succeed appends one element. -/
theorem addObject (wellFormed : list.HasElements elements) :
    ∃ next, list.addObject true true = some (next, some list.fresh) ∧
      next.HasElements (elements ++ [(list.fresh, none)]) ∧ next.current = list.current := by
  obtain ⟨added, filled, holds, current⟩ := Holds.addFilled_eq wellFormed none
  rw [seen_addObject wellFormed.unused, Option.map_eq_some_iff] at filled
  obtain ⟨⟨next, pointer⟩, made, rfl⟩ := filled
  cases (Owns.addObject_allocated made).pointer
  exact ⟨next, made, holds, current⟩

/-- One `get_object` at the position `after`, where `before ++ after` are the
elements and the cursor is about to move to the head of `after`. -/
theorem getObject {before after : List (Addr × Option Value)}
    (wellFormed : list.HasElements (before ++ after))
    (position : list.current = lastOr none before) :
    ∃ moved, list.getObject = some (moved, headOr after none) ∧
      moved.HasElements (before ++ after) ∧ moved.current = headOr after none := by
  obtain ⟨other, got, same, holds⟩ := Holds.getObject_at wellFormed position
  rw [seen_getObject, Option.map_eq_some_iff] at got
  obtain ⟨⟨moved, result⟩, step, equal⟩ := got
  cases equal
  exact ⟨moved, step, holds, congrArg current same⟩

theorem rewind (wellFormed : list.HasElements elements) : list.listRewind.HasElements elements :=
  Holds.rewind wellFormed

end HasElements

/-! ## When an allocation fails -/

/-- `add_object` returned `NULL` and left the elements as they were, so that
the next addition whose allocations succeed appends one element. -/
def FailsAtomically (list : ObjectList Value) (elements : List (Addr × Option Value))
    (objectAllocated blockAllocated : Bool) : Prop :=
  ∃ next, list.addObject objectAllocated blockAllocated = some (next, none) ∧
    next.HasElements elements ∧
    ∃ later address, next.addObject true true = some (later, some address) ∧
      later.HasElements (elements ++ [(address, none)])

theorem addObject_unallocated (blockAllocated : Bool) :
    list.addObject false blockAllocated = some (list, none) := by
  cases first : list.first <;> simp [addObject, first]

theorem addObject_failed {objectAllocated blockAllocated : Bool} {pointer : Option Addr}
    (failed : (objectAllocated && blockAllocated) = false)
    (made : list.addObject objectAllocated blockAllocated = some (next, pointer)) :
    pointer = none := by
  cases objectAllocated with
  | false =>
      rw [addObject_unallocated] at made
      cases made
      rfl
  | true =>
      have blockFailed : blockAllocated = false := by simpa using failed
      subst blockFailed
      cases first : list.first with
      | none =>
          rw [addObject, first] at made
          cases made
          rfl
      | some address =>
          rw [addObject, first] at made
          cases made
          rfl

/-- The first member of a half-built list names an object that is no element,
and the next addition follows the last member, which is null. -/
theorem addObject_halfBuilt {elements : List (Addr × Option Value)}
    (wellFormed : list.HasElements elements) (empty : elements = []) :
    ∃ next, list.addObject true false = some (next, none) ∧ ¬ next.HasElements elements ∧
      next.addObject true true = none := by
  subst empty
  have first : list.first = none := wellFormed.first
  have last : list.last = none := wellFormed.last
  refine ⟨{ list with
    heap := setObject list.heap list.fresh (some ⟨.null, wild, wild⟩)
    fresh := list.fresh + 1
    first := some list.fresh }, by simp [addObject, first], ?_, by simp [addObject, last]⟩
  intro intact
  cases intact.first

/-- The first addition to an empty list, when only its second allocation fails. -/
theorem addObject_not_atomic :
    (empty : ObjectList Unit).HasElements [] ∧
      ¬ (empty : ObjectList Unit).FailsAtomically [] true false ∧
      ∃ half, (empty : ObjectList Unit).addObject true false = some (half, none) ∧
        half.addObject true true = none := by
  obtain ⟨half, made, different, stuck⟩ := addObject_halfBuilt (hasElements_empty Unit) rfl
  refine ⟨hasElements_empty Unit, ?_, half, made, stuck⟩
  rintro ⟨next, failed, intact, -⟩
  rw [failed, Option.some.injEq, Prod.mk.injEq] at made
  exact different (made.1 ▸ intact)

/-- An addition that fails is atomic unless it is the first one and only its
second allocation fails. -/
theorem addObject_atomic_iff {elements : List (Addr × Option Value)}
    (wellFormed : list.HasElements elements) {objectAllocated blockAllocated : Bool}
    (failing : (objectAllocated && blockAllocated) = false) :
    list.FailsAtomically elements objectAllocated blockAllocated ↔
      (elements ≠ [] ∨ objectAllocated = false) := by
  constructor
  · rintro ⟨next, failed, intact, -⟩
    by_contra broken
    rw [not_or, not_not, Bool.not_eq_false] at broken
    obtain ⟨empty, rfl⟩ := broken
    have blockFailed : blockAllocated = false := by simpa using failing
    subst blockFailed
    obtain ⟨half, made, different, -⟩ := addObject_halfBuilt wellFormed empty
    rw [failed, Option.some.injEq, Prod.mk.injEq] at made
    exact different (made.1 ▸ intact)
  · intro condition
    obtain ⟨same, filled, outcome, -⟩ := Holds.addFilled_failed wellFormed failing none
    rw [seen_addObject_failed none failing, Option.map_eq_some_iff] at filled
    obtain ⟨⟨next, pointer⟩, made, rfl⟩ := filled
    cases addObject_failed failing made
    have intact : next.HasElements elements := by
      rcases outcome with intact | ⟨empty, half⟩
      · exact intact
      · cases condition.resolve_left (not_not.mpr empty)
        rw [addObject_unallocated, Option.some.injEq, Prod.mk.injEq] at made
        exact made.1 ▸ wellFormed
    obtain ⟨later, added, appended, -⟩ := intact.addObject
    exact ⟨next, made, intact, later, next.fresh, added, appended⟩

theorem addObject_atomic_second :
    ∃ list : ObjectList Unit, list.HasElements [(1, none)] ∧
      list.FailsAtomically [(1, none)] true false := by
  obtain ⟨list, -, one, -⟩ := (hasElements_empty Unit).addObject
  exact ⟨list, one, (addObject_atomic_iff one rfl).mpr (.inl (List.cons_ne_nil _ _))⟩

/-! ## A traversal during which elements are added -/

inductive TraversalCall where
  | getObject
  | addObject
  deriving DecidableEq, Repr

/-- Calls one after the other, with the results of those of `get_object`.  The
allocations succeed. -/
def traverse (list : ObjectList Value) :
    List TraversalCall → Option (ObjectList Value × List (Option Addr))
  | [] => some (list, [])
  | .getObject :: calls =>
      match list.getObject with
      | none => none
      | some (moved, result) =>
          (moved.traverse calls).map fun (last, results) => (last, result :: results)
  | .addObject :: calls =>
      match list.addObject true true with
      | some (added, some _) => added.traverse calls
      | _ => none

/-- Where a traversal is that has returned the elements in `before` and has yet
to come to those in `after`. -/
structure Between (list : ObjectList Value) (before after : List (Addr × Option Value)) :
    Prop where
  wellFormed : list.HasElements (before ++ after)
  position : list.current = lastOr none before

namespace Between

variable {before after : List (Addr × Option Value)}

theorem start {elements : List (Addr × Option Value)} (wellFormed : list.HasElements elements) :
    list.listRewind.Between [] elements :=
  ⟨wellFormed.rewind, rfl⟩

/-- An element that is added comes behind all the others, wherever the cursor is. -/
theorem add (here : list.Between before after) :
    ∃ next, list.addObject true true = some (next, some list.fresh) ∧
      next.Between before (after ++ [(list.fresh, none)]) := by
  obtain ⟨next, made, intact, current⟩ := here.wellFormed.addObject
  exact ⟨next, made, by simpa using intact, current.trans here.position⟩

theorem get {element : Addr × Option Value} (here : list.Between before (element :: after)) :
    ∃ moved, list.getObject = some (moved, some element.1) ∧
      moved.Between (before ++ [element]) after := by
  obtain ⟨moved, got, intact, current⟩ := here.wellFormed.getObject here.position
  exact ⟨moved, got, by simpa using intact, by simpa using current⟩

/-- After the last element the cursor is where it was before the first one. -/
theorem finish (here : list.Between before []) :
    ∃ moved, list.getObject = some (moved, none) ∧ moved.Between [] before := by
  have whole : list.HasElements (before ++ []) := here.wellFormed
  obtain ⟨moved, got, intact, current⟩ := whole.getObject here.position
  exact ⟨moved, got, by simpa using intact, current⟩

/-- Where any calls lead to.  Until one of them returns `NULL`, their results
are the elements that the traversal has passed. -/
structure Leads (list : ObjectList Value) (before after : List (Addr × Option Value))
    (calls : List TraversalCall) (reached : ObjectList Value) (results : List (Option Addr))
    (passed ahead : List (Addr × Option Value)) : Prop where
  run : list.traverse calls = some (reached, results)
  here : reached.Between passed ahead
  grown : before ++ after <+: passed ++ ahead
  count : (passed ++ ahead).length = (before ++ after).length + calls.count .addObject
  returned : none ∉ results →
    passed.map (fun element => some element.1) =
      before.map (fun element => some element.1) ++ results

theorem leads (here : list.Between before after) (calls : List TraversalCall) :
    ∃ reached results passed ahead, Leads list before after calls reached results passed ahead := by
  induction calls generalizing list before after with
  | nil => exact ⟨list, [], before, after, rfl, here, List.prefix_refl _, rfl, by simp⟩
  | cons call calls inductionHypothesis =>
      cases call with
      | addObject =>
          obtain ⟨next, made, between⟩ := here.add
          obtain ⟨reached, results, passed, ahead, leads⟩ := inductionHypothesis between
          have more : before ++ after <+: before ++ (after ++ [(list.fresh, none)]) := by
            simp [← List.append_assoc]
          refine ⟨reached, results, passed, ahead, ?_, leads.here, more.trans leads.grown, ?_,
            leads.returned⟩
          · simp only [traverse, made, leads.run]
          · rw [leads.count]
            simp
            omega
      | getObject =>
          cases after with
          | nil =>
              -- the cursor has come to the end, and what follows is the next traversal
              obtain ⟨moved, got, between⟩ := here.finish
              obtain ⟨reached, results, passed, ahead, leads⟩ := inductionHypothesis between
              refine ⟨reached, none :: results, passed, ahead, ?_, leads.here, ?_, ?_, by simp⟩
              · simp only [traverse, got, leads.run, Option.map_some]
              · simpa using leads.grown
              · simpa using leads.count
          | cons element rest =>
              obtain ⟨moved, got, between⟩ := here.get
              obtain ⟨reached, results, passed, ahead, leads⟩ := inductionHypothesis between
              refine ⟨reached, some element.1 :: results, passed, ahead, ?_, leads.here, ?_, ?_, ?_⟩
              · simp only [traverse, got, leads.run, Option.map_some]
              · simpa using leads.grown
              · simpa using leads.count
              · intro unfinished
                rw [leads.returned fun member => unfinished (List.mem_cons_of_mem _ member)]
                simp

/-- The next traversal begins at the first element, also of those that were
added in the meantime. -/
theorem again {held : List (Addr × Option Value)} (here : list.Between [] held)
    (additions : Nat) :
    ∃ again grown,
      list.traverse (List.replicate additions .addObject ++ [.getObject]) =
        some (again, [headOr grown none]) ∧
      again.HasElements grown ∧ held <+: grown := by
  induction additions generalizing list held with
  | zero =>
      obtain ⟨moved, got, intact, -⟩ := here.wellFormed.getObject here.position
      exact ⟨moved, held, by simp [traverse, got], intact, List.prefix_refl _⟩
  | succ additions inductionHypothesis =>
      obtain ⟨next, made, between⟩ := here.add
      obtain ⟨again, grown, run, intact, more⟩ := inductionHypothesis between
      refine ⟨again, grown, ?_, intact, (List.prefix_append _ _).trans more⟩
      simpa only [List.replicate_succ, List.cons_append, traverse, made] using run

end Between

/-- After a rewind, the calls of `get_object` that come before the first one
with the result `NULL` return the elements that the list holds then, each of
them once and in order, whatever was added on the way; the next call after it
returns the first element, if there is one. -/
theorem traverse_complete {elements : List (Addr × Option Value)}
    (wellFormed : list.HasElements elements) (calls : List TraversalCall) :
    ∃ reached results held, list.listRewind.traverse calls = some (reached, results) ∧
      reached.HasElements held ∧ elements <+: held ∧
      held.length = elements.length + calls.count .addObject ∧
      (∃ moved result, reached.getObject = some (moved, result)) ∧
      ∀ moved, none ∉ results → reached.getObject = some (moved, none) →
        results = held.map (fun element => some element.1) ∧ (held.map Prod.fst).Nodup ∧
        ∀ additions, ∃ again grown,
          moved.traverse (List.replicate additions .addObject ++ [.getObject]) =
            some (again, [headOr grown none]) ∧
          again.HasElements grown ∧ held <+: grown := by
  obtain ⟨reached, results, passed, ahead, leads⟩ := (Between.start wellFormed).leads calls
  have intact := leads.here.wellFormed
  obtain ⟨moved, got, -⟩ := intact.getObject leads.here.position
  refine ⟨reached, results, passed ++ ahead, leads.run, intact, by simpa using leads.grown,
    by simpa using leads.count, ⟨moved, _, got⟩, ?_⟩
  intro last unfinished ended
  have atEnd : ahead = [] := by
    rw [got, Option.some.injEq, Prod.mk.injEq] at ended
    exact headOr_eq_none.mp ended.2
  subst atEnd
  obtain ⟨other, finished, between⟩ := leads.here.finish
  rw [ended, Option.some.injEq, Prod.mk.injEq] at finished
  rw [List.append_nil]
  refine ⟨by simpa using (leads.returned unfinished).symm, ?_, (finished.1 ▸ between).again⟩
  simpa using intact.distinct

/-- The traversal comes to an element that was added after it began. -/
theorem traverse_complete_added :
    ∃ reached held, (empty : ObjectList Unit).listRewind.traverse [.addObject, .getObject] =
        some (reached, [some 1]) ∧
      reached.HasElements held ∧ held.length = 1 := by
  obtain ⟨reached, results, held, run, intact, -, count, -⟩ :=
    traverse_complete (hasElements_empty Unit) [.addObject, .getObject]
  have returned : ((empty : ObjectList Unit).listRewind.traverse [.addObject, .getObject]).map
      Prod.snd = some [some 1] := rfl
  rw [run] at returned
  obtain rfl : results = [some 1] := Option.some.inj returned
  exact ⟨reached, held, run, intact, count⟩

end ObjectList

end DAIM.Linked
