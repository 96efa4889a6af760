import Mathlib.Data.List.Dedup
import DAIM.Library.Memory
import DAIM.Linked.Remove

/-!
# Object lists as sequences

Whatever is called on an object list whose allocations succeed, its heap
structure stays well formed and holds the records of a sequence on which the
same calls are made.  `size_of_object` is set before the first call and is a
parameter here.
-/

namespace DAIM.Linked

open DAIM.Library

/-- The first difference of two pieces of memory, or 0. -/
def memcmp (left right : Memory) (size : Nat) : Int :=
  match (List.range size).find? fun index => left index != right index with
  | none => 0
  | some index => ((left index).toNat : Int) - (right index).toNat

theorem memcmp_eq_zero {left right : Memory} {size : Nat} :
    memcmp left right size = 0 ↔ left.slice 0 size = right.slice 0 size := by
  have slices : left.slice 0 size = right.slice 0 size ↔
      ∀ index < size, left index = right index := by
    simp [Memory.slice, List.map_inj_left]
  rw [slices, memcmp]
  split
  · rename_i none
    simp only [List.find?_eq_none, List.mem_range, bne_iff_ne, ne_eq, not_not] at none
    exact iff_of_true rfl none
  · rename_i index found
    have differs : left index ≠ right index := by simpa using List.find?_some found
    have inside : index < size := List.mem_range.mp (List.mem_of_find?_eq_some found)
    constructor
    · intro zero
      refine absurd (UInt8.toNat_inj.mp ?_) differs
      omega
    · intro same
      exact absurd (same index inside) differs

/-- A block of `size_of_object` bytes, all of which were written. -/
structure Block (size : UInt32) where
  bytes : List UInt8
  written : bytes.length = size.toNat
  deriving DecidableEq

namespace Block

variable {size : UInt32}

/-- What a pointer to the block sees. -/
def memory (block : Block size) : Memory := Memory.ofList block.bytes Memory.zero

/-- The comparison that `remove_object` makes. -/
def same (ob : Memory) (block : Block size) : Bool :=
  memcmp block.memory ob size.toNat == 0

theorem same_iff {ob : Memory} {block : Block size} :
    block.same ob = true ↔ block.bytes = ob.slice 0 size.toNat := by
  have whole : block.memory.slice 0 size.toNat = block.bytes := by
    rw [← block.written]
    exact Memory.slice_ofList _ _
  rw [same, beq_iff_eq, memcmp_eq_zero, whole]

end Block

/-! ## Calls and the sequence they are made on -/

inductive ListCall (size : UInt32) where
  | addObject (payload : Block size)
  | removeObject (ob : Memory)
  | getListSize
  | freeList

/-- What a call returns, in the type that it has in the source. -/
inductive ListResult where
  | pointer (address : Addr)
  | int (value : Int32)
  | unsigned (value : UInt32)
  deriving DecidableEq

def ListResult.pointer? : ListResult → Option Addr
  | .pointer address => some address
  | _ => none

namespace ListCall

variable {size : UInt32}

/-- The call on a sequence. -/
def apply (elements : List (Block size)) : ListCall size → List (Block size)
  | .addObject payload => elements ++ [payload]
  | .removeObject ob => elements.eraseP fun block => block.bytes = ob.slice 0 size.toNat
  | .getListSize => elements
  | .freeList => []

/-- What the call has to return, when it is made on the sequence. -/
def Returns (elements : List (Block size)) : ListCall size → ListResult → Prop
  | .addObject _, result => result.pointer?.isSome
  | .removeObject _, result => result = .int (if elements = [] then -1 else 0)
  | .getListSize, result =>
      if elements = [] then result = .unsigned (-1)
      else elements.length < 2 ^ 31 →
        ∃ count, result = .unsigned count ∧ count.toNat = elements.length
  | .freeList, result =>
      if elements = [] then result = .int (-1)
      else elements.length < 2 ^ 31 →
        ∃ count, result = .int count ∧ count.toInt = elements.length

end ListCall

namespace ObjectList

variable {size : UInt32}

/-- A call on the heap structure.  Allocations succeed, and the block that
`add_object` returns is filled in at once. -/
def call (list : ObjectList (Block size)) :
    ListCall size → Option (ObjectList (Block size) × ListResult)
  | .addObject payload =>
      match list.addObject true true with
      | some (list, some address) =>
          (list.writeObject address payload).map fun list => (list, .pointer address)
      | _ => none
  | .removeObject ob =>
      (list.removeObject (Block.same ob)).map fun (list, code) => (list, .int (Int32.ofInt code))
  | .getListSize => list.getListSize.map fun count => (list, .unsigned count)
  | .freeList => list.freeList.map fun (list, count) => (list, .int (Int32.ofInt count))

/-- The nodes that exist before a call and not after it. -/
def deleted {Value : Type} (list next : ObjectList Value) : List Addr :=
  (List.range list.fresh).filter fun address =>
    (list.heap address).isSome && (next.heap address).isNone

/-- Calls one after the other, with their results and the nodes that were
deleted, in the order of the calls. -/
def run (list : ObjectList (Block size)) :
    List (ListCall size) → Option (ObjectList (Block size) × List ListResult × List Addr)
  | [] => some (list, [], [])
  | call :: calls =>
      match list.call call with
      | none => none
      | some (next, result) =>
          (next.run calls).map fun (last, results, gone) =>
            (last, result :: results, list.deleted next ++ gone)

/-- Following the links from an address meets the nodes and then ends. -/
inductive Follows {Value : Type} (heap : Addr → Option (Object Value))
    (link : Object Value → Option Addr) : Option Addr → List Addr → Prop where
  | done : Follows heap link none []
  | node {address : Addr} {object : Object Value} {rest : List Addr} :
      heap address = some object → Follows heap link (link object) rest →
      Follows heap link (some address) (address :: rest)

/-- The heap structure consists of the nodes, in their order. -/
structure WellFormed {Value : Type} (list : ObjectList Value) (nodes : List Addr) : Prop where
  forward : Follows list.heap Object.next list.first nodes
  backward : Follows list.heap Object.prev list.last nodes.reverse
  ends : list.first = none ↔ list.last = none
  live : ∀ address, list.heap address ≠ none ↔ address ∈ nodes

section Followed

variable {Value : Type} {heap : Addr → Option (Object Value)} {before after : Option Addr}
variable {cells : List (Addr × Value)}

theorem Segment.forward (segment : Segment heap before cells none) :
    Follows heap Object.next (headOr cells none) (cells.map Prod.fst) := by
  induction cells generalizing before with
  | nil => exact .done
  | cons cell rest inductionHypothesis => exact .node segment.1 (inductionHypothesis segment.2)

theorem Segment.backward (segment : Segment heap none cells after) :
    Follows heap Object.prev (lastOr none cells) (cells.map Prod.fst).reverse := by
  induction cells using List.reverseRecOn generalizing after with
  | nil => exact .done
  | append_singleton earlier cell inductionHypothesis =>
      have parts := (segment_append _ _ _ _ _).mp segment
      have rest := inductionHypothesis parts.1
      simp only [lastOr_append, lastOr_cons, lastOr_nil, List.map_append, List.map_cons,
        List.map_nil, List.reverse_append, List.reverse_singleton, List.singleton_append]
      exact .node parts.2.1 rest

theorem lastOr_eq_none {cells : List (Addr × Value)} : lastOr none cells = none ↔ cells = [] := by
  rcases List.eq_nil_or_concat' cells with rfl | ⟨earlier, cell, rfl⟩
  · simp
  · simp

theorem headOr_eq_none {cells : List (Addr × Value)} : headOr cells none = none ↔ cells = [] := by
  cases cells <;> simp

end Followed

/-- An intact list, all objects of which are in it. -/
structure Owns {Value : Type} (list : ObjectList Value) (cells : List (Addr × Value)) : Prop where
  holds : list.Holds cells
  live : ∀ address, list.heap address ≠ none ↔ address ∈ cells.map Prod.fst

namespace Owns

variable {list : ObjectList (Block size)} {cells : List (Addr × Block size)}

theorem wellFormed {Value : Type} {list : ObjectList Value} {cells : List (Addr × Value)}
    (owns : list.Owns cells) : list.WellFormed (cells.map Prod.fst) where
  forward := by
    rw [owns.holds.first]
    exact owns.holds.segment.forward
  backward := by
    rw [owns.holds.last]
    exact owns.holds.segment.backward
  ends := by rw [owns.holds.first, owns.holds.last, headOr_eq_none, lastOr_eq_none]
  live := owns.live

/-- Only the nodes that left the list were deleted. -/
theorem mem_deleted {Value : Type} {list next : ObjectList Value}
    {cells after : List (Addr × Value)} (owns : list.Owns cells) (ends : next.Owns after)
    {address : Addr} : address ∈ list.deleted next ↔
      address ∈ cells.map Prod.fst ∧ address ∉ after.map Prod.fst := by
  have bounded : address ∈ cells.map Prod.fst → address < list.fresh := by
    intro member
    obtain ⟨cell, isCell, rfl⟩ := List.mem_map.mp member
    exact owns.holds.allocated cell isCell
  rw [deleted, List.mem_filter, List.mem_range, Bool.and_eq_true, Option.isSome_iff_ne_none,
    owns.live, Option.isNone_iff_eq_none, ← ends.live, not_not]
  exact ⟨fun ⟨_, here⟩ => here, fun here => ⟨bounded here.1, here⟩⟩

/-- The nodes deleted by a call and those that are left are the nodes from
before and the one that was added, each of them once. -/
theorem deleted_perm {Value : Type} {list next : ObjectList Value}
    {cells after : List (Addr × Value)} (owns : list.Owns cells) (ends : next.Owns after)
    {added : List Addr} (distinct : (cells.map Prod.fst ++ added).Nodup)
    (inside : ∀ address ∈ after.map Prod.fst, address ∈ cells.map Prod.fst ++ added)
    (kept : ∀ address ∈ added, address ∈ after.map Prod.fst) :
    (list.deleted next ++ after.map Prod.fst).Perm (cells.map Prod.fst ++ added) := by
  refine (List.perm_ext_iff_of_nodup ?_ distinct).mpr fun address => ?_
  · rw [List.nodup_append]
    refine ⟨List.nodup_range.filter _, ends.holds.distinct, ?_⟩
    rintro address gone other here rfl
    exact ((owns.mem_deleted ends).mp gone).2 here
  · rw [List.mem_append, owns.mem_deleted ends]
    constructor
    · rintro (⟨here, -⟩ | here)
      · exact List.mem_append_left _ here
      · exact inside address here
    · intro here
      by_cases left : address ∈ after.map Prod.fst
      · exact .inr left
      · rcases List.mem_append.mp here with before | new
        · exact .inl ⟨before, left⟩
        · exact absurd (kept address new) left

section Allocated

variable {Value : Type} {list next : ObjectList Value} {address : Addr} {stored : Value}

/-- Which objects there are after `add_object`, when its allocations succeed. -/
structure Allocated (list next : ObjectList Value) (pointer : Option Addr) : Prop where
  pointer : pointer = some list.fresh
  fresh : next.fresh = list.fresh + 1
  outside : ∀ other, other ≠ list.fresh → (next.heap other = none ↔ list.heap other = none)

theorem addObject_allocated {pointer : Option Addr}
    (added : list.addObject true true = some (next, pointer)) : Allocated list next pointer := by
  unfold addObject at added
  split at added
  · cases added
    refine ⟨rfl, rfl, fun other different => ?_⟩
    simp only [setObject_other _ _ different]
  · simp only [Bool.true_eq_false, if_false] at added
    split at added
    · cases added
    · split at added
      · cases added
      · rename_i last _ _ lastObject found
        cases added
        refine ⟨rfl, rfl, fun other different => ?_⟩
        by_cases isLast : other = last
        · simp [isLast, found]
        · simp only [setObject_other _ _ isLast, setObject_other _ _ different]

theorem writeObject_written (written : list.writeObject address stored = some next) :
    next.fresh = list.fresh ∧ ∀ other, next.heap other = none ↔ list.heap other = none := by
  unfold writeObject at written
  split at written
  · cases written
  · rename_i object found
    cases written
    refine ⟨rfl, fun other => ?_⟩
    by_cases here : other = address
    · simp [here, found]
    · simp only [setObject_other _ _ here]

end Allocated

/-- What one call does. -/
structure Called (list : ObjectList (Block size)) (cells : List (Addr × Block size))
    (call : ListCall size) (next : ObjectList (Block size)) (result : ListResult)
    (after : List (Addr × Block size)) : Prop where
  made : list.call call = some (next, result)
  owns : next.Owns after
  elements : after.map Prod.snd = call.apply (cells.map Prod.snd)
  returns : call.Returns (cells.map Prod.snd) result
  deleted : (list.deleted next ++ after.map Prod.fst).Perm
    (cells.map Prod.fst ++ result.pointer?.toList)
  handed : ∀ address, result.pointer? = some address → list.fresh ≤ address ∧ address < next.fresh
  fresh : list.fresh ≤ next.fresh

/-- Only the cells of a shrinking list are deleted. -/
theorem deleted_of_sublist {next : ObjectList (Block size)} {after : List (Addr × Block size)}
    (owns : list.Owns cells) (ends : next.Owns after) (sub : after.Sublist cells) :
    (list.deleted next ++ after.map Prod.fst).Perm (cells.map Prod.fst ++ []) := by
  refine owns.deleted_perm ends ?_ ?_ (by simp)
  · simpa using owns.holds.distinct
  · intro address member
    simpa using (sub.map Prod.fst).subset member

/-- Cells of an intact list exist, so only the converse is to be shown. -/
theorem of_heap {Value : Type} {list : ObjectList Value} {cells : List (Addr × Value)}
    (holds : list.Holds cells)
    (only : ∀ address, list.heap address ≠ none → address ∈ cells.map Prod.fst) :
    list.Owns cells :=
  ⟨holds, fun address => ⟨only address, fun member => Holds.Segment.ne_none holds.segment member⟩⟩

theorem called_add (owns : list.Owns cells) (payload : Block size) :
    ∃ next result after, Called list cells (.addObject payload) next result after := by
  obtain ⟨next, filled, holds, -⟩ := owns.holds.addFilled_eq payload
  unfold addFilled at filled
  split at filled
  · cases filled
  · rename_i same allocated
    cases (addObject_allocated allocated).pointer
  · rename_i middle address allocated
    obtain ⟨pointer, fresh, outside⟩ := addObject_allocated allocated
    obtain ⟨written, rest⟩ := writeObject_written filled
    cases pointer
    have total : next.fresh = list.fresh + 1 := written.trans fresh
    have ends : next.Owns (cells ++ [(list.fresh, payload)]) := by
      refine of_heap holds fun other here => ?_
      rw [List.map_append, List.mem_append]
      by_cases isNew : other = list.fresh
      · exact .inr (by simp [isNew])
      · refine .inl ((owns.live other).mp ?_)
        rwa [ne_eq, ← outside other isNew, ← rest other]
    refine ⟨next, .pointer list.fresh, cells ++ [(list.fresh, payload)], ?_⟩
    have later : list.fresh < next.fresh := total ▸ Nat.lt_succ_self _
    refine ⟨by simp [call, allocated, filled], ends, by simp [ListCall.apply], rfl, ?_, ?_,
      Nat.le_of_lt later⟩
    · refine owns.deleted_perm ends ?_ ?_ ?_
      · simpa [ListResult.pointer?] using holds.distinct
      · simp [ListResult.pointer?]
      · simp [ListResult.pointer?]
    · rintro address same
      cases same
      exact ⟨Nat.le_refl _, later⟩

theorem called_remove (owns : list.Owns cells) (ob : Memory) :
    ∃ next result after, Called list cells (.removeObject ob) next result after := by
  obtain ⟨next, removed, outcome⟩ := owns.holds.removeObject_eq (Block.same ob)
  have code : Int32.ofInt (if cells = [] then -1 else 0) =
      if cells.map Prod.snd = [] then -1 else 0 := by
    cases cells <;> rfl
  have made : list.call (.removeObject ob) =
      some (next, .int (if cells.map Prod.snd = [] then -1 else 0)) := by
    simp only [call, removed, Option.map_some, code]
  have equal : (fun block : Block size => Block.same ob block) =
      fun block => decide (block.bytes = ob.slice 0 size.toNat) := by
    funext block
    rw [Bool.eq_iff_iff, Block.same_iff, decide_eq_true_iff]
  rcases outcome with ⟨none, same⟩ | ⟨left, cell, right, rfl, skipped, is, holds, deleted⟩
  · subst same
    refine ⟨next, _, cells, made, owns, ?_, rfl, ?_, by simp [ListResult.pointer?], Nat.le_refl _⟩
    · rw [ListCall.apply, ← equal, List.eraseP_of_forall_not]
      intro block member
      obtain ⟨cell, isCell, rfl⟩ := List.mem_map.mp member
      simp [none cell isCell]
    · exact owns.deleted_of_sublist owns (List.Sublist.refl _)
  · have ends : next.Owns (left ++ right) := by
      refine of_heap holds fun address here => ?_
      have other : address ≠ cell.1 := by
        rintro rfl
        exact here deleted.gone
      have before := (owns.live address).mp ((deleted.kept address other).not.mp here)
      simp only [List.map_append, List.map_cons, List.mem_append, List.mem_cons] at before ⊢
      grind
    refine ⟨next, _, left ++ right, made, ends, ?_, rfl, ?_, by simp [ListResult.pointer?],
      Nat.le_of_eq deleted.fresh.symm⟩
    · rw [ListCall.apply, ← equal, List.map_append, List.map_append, List.map_cons,
        List.eraseP_append_right, List.eraseP_cons_of_pos is]
      intro block member
      obtain ⟨other, isCell, rfl⟩ := List.mem_map.mp member
      simp [skipped other isCell]
    · exact owns.deleted_of_sublist ends
        (List.Sublist.append_left (List.sublist_cons_self cell right) left)

theorem called_size (owns : list.Owns cells) :
    ∃ next result after, Called list cells .getListSize next result after := by
  refine ⟨list, _, cells, by rw [call, owns.holds.getListSize_eq]; rfl, owns, rfl, ?_, ?_,
    by simp [ListResult.pointer?], Nat.le_refl _⟩
  · cases cells with
    | nil => exact rfl
    | cons cell rest =>
        simp only [ListCall.Returns, List.map_cons, reduceCtorEq, if_false]
        intro bounded
        refine ⟨_, rfl, ?_⟩
        simp only [List.length_cons, List.length_map] at bounded ⊢
        exact UInt32.toNat_ofNat_of_lt' (Nat.lt_trans bounded (by decide))
  · exact owns.deleted_of_sublist owns (List.Sublist.refl _)

theorem called_free (owns : list.Owns cells) :
    ∃ next result after, Called list cells .freeList next result after := by
  obtain ⟨next, count, freed, holds, -, fresh, number, heap⟩ := owns.holds.freeList_eq
  have ends : next.Owns [] := by
    refine of_heap holds fun address here => ?_
    rw [heap] at here
    split at here
    · exact absurd rfl here
    · rename_i outside
      exact absurd ((owns.live address).mp here) outside
  refine ⟨next, _, [], by rw [call, freed]; rfl, ends, rfl, ?_, ?_,
    by simp [ListResult.pointer?], Nat.le_of_eq fresh.symm⟩
  · cases cells with
    | nil =>
        rw [if_pos rfl] at number
        subst number
        exact rfl
    | cons cell rest =>
        simp only [ListCall.Returns, List.map_cons, reduceCtorEq, if_false]
        intro bounded
        refine ⟨_, rfl, ?_⟩
        rw [if_neg (List.cons_ne_nil _ _)] at number
        rw [number, Int32.toInt_ofInt_of_le]
        · simp
        · have nonneg := Int.natCast_nonneg (cell :: rest).length
          have least : -2 ^ 31 ≤ (0 : Int) := by decide
          omega
        · rw [List.length_cons, List.length_map] at bounded
          rw [List.length_cons]
          omega
  · exact owns.deleted_of_sublist ends (List.nil_sublist _)

/-- Every call keeps the list intact and does what it does to the sequence. -/
theorem called (owns : list.Owns cells) (call : ListCall size) :
    ∃ next result after, Called list cells call next result after := by
  cases call with
  | addObject payload => exact owns.called_add payload
  | removeObject ob => exact owns.called_remove ob
  | getListSize => exact owns.called_size
  | freeList => exact owns.called_free

end Owns

/-- The results that the calls have to return, one after the other. -/
inductive Answered : List (Block size) → List (ListCall size) → List ListResult → Prop where
  | done {elements : List (Block size)} : Answered elements [] []
  | call {elements : List (Block size)} {call : ListCall size} {calls : List (ListCall size)}
      {result : ListResult} {results : List ListResult} : call.Returns elements result →
      Answered (call.apply elements) calls results →
      Answered elements (call :: calls) (result :: results)

/-- The nodes that were handed out, in the order of the calls. -/
def pointers (results : List ListResult) : List Addr := results.filterMap ListResult.pointer?

theorem pointers_cons (result : ListResult) (results : List ListResult) :
    pointers (result :: results) = result.pointer?.toList ++ pointers results := by
  cases result <;> rfl

/-- What a sequence of calls does, from any intact list. -/
theorem Owns.run {list : ObjectList (Block size)} {cells : List (Addr × Block size)}
    (owns : list.Owns cells) (calls : List (ListCall size)) :
    ∃ last results gone after, list.run calls = some (last, results, gone) ∧ last.Owns after ∧
      after.map Prod.snd = calls.foldl ListCall.apply (cells.map Prod.snd) ∧
      Answered (cells.map Prod.snd) calls results ∧
      (gone ++ after.map Prod.fst).Perm (cells.map Prod.fst ++ pointers results) ∧
      (pointers results).Nodup ∧ ∀ address ∈ pointers results, list.fresh ≤ address := by
  induction calls generalizing list cells with
  | nil =>
      refine ⟨list, [], [], cells, rfl, owns, rfl, .done, ?_, List.nodup_nil, by simp [pointers]⟩
      simp [pointers]
  | cons call calls inductionHypothesis =>
      obtain ⟨next, result, middle, called⟩ := owns.called call
      obtain ⟨last, results, gone, after, rest, ends, elements, answered, perm, distinct, later⟩ :=
        inductionHypothesis called.owns
      rw [called.elements] at elements answered
      refine ⟨last, result :: results, list.deleted next ++ gone, after, ?_, ends, elements,
        .call called.returns answered, ?_, ?_, ?_⟩
      · simp only [ObjectList.run, called.made, rest, Option.map_some]
      · rw [pointers_cons, List.append_assoc, ← List.append_assoc (cells.map Prod.fst)]
        refine (perm.append_left _).trans ?_
        rw [← List.append_assoc]
        exact called.deleted.append_right _
      · rw [pointers_cons, List.nodup_append]
        refine ⟨by cases result.pointer? <;> simp, distinct, ?_⟩
        rintro address here other there rfl
        have bound := (called.handed address (by simpa using here)).2
        exact absurd (later address there) (Nat.not_le.mpr bound)
      · intro address member
        rw [pointers_cons] at member
        rcases List.mem_append.mp member with here | there
        · exact (called.handed address (by simpa using here)).1
        · exact Nat.le_trans called.fresh (later address there)

theorem owns_empty (size : UInt32) : (empty : ObjectList (Block size)).Owns [] :=
  Owns.of_heap holds_empty fun _ here => absurd rfl here

/-- After any calls on a new object list, its heap structure is well formed and
holds the records of the sequence; every node that was handed out is in the list
or was deleted, and once. -/
theorem objectList_refines (calls : List (ListCall size)) :
    ∃ list results gone nodes, ObjectList.empty.run calls = some (list, results, gone) ∧
      list.WellFormed nodes ∧ list.contents = calls.foldl ListCall.apply [] ∧
      Answered [] calls results ∧ (gone ++ nodes).Perm (pointers results) ∧
      (pointers results).Nodup := by
  obtain ⟨list, results, gone, after, run, ends, elements, answered, perm, distinct, -⟩ :=
    (owns_empty size).run calls
  refine ⟨list, results, gone, after.map Prod.fst, run, ends.wellFormed, ?_, answered,
    by simpa using perm, distinct⟩
  rw [ends.holds.contents_eq, elements]
  rfl

end ObjectList

end DAIM.Linked
