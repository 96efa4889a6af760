import DAIM.Linked.Represents

/-!
# The loops over an object list

The results of the calls of `get_object` in the search loop and in the printing
loop, against the entries that the list links.
-/

namespace DAIM.Linked

namespace ObjectList

variable {Value : Type} {list : ObjectList Value} {cells : List (Addr × Value)}

/-- The objects met by following `next` from an object. -/
def walkAddresses (heap : Addr → Option (Object Value)) : Nat → Option Addr → List Addr
  | 0, _ => []
  | _ + 1, none => []
  | fuel + 1, some address =>
      match heap address with
      | none => []
      | some object => address :: walkAddresses heap fuel object.next

/-- The objects that the list links, from first to last. -/
def addresses (list : ObjectList Value) : List Addr :=
  walkAddresses list.heap list.fresh list.first

/-- What the calls of `get_object` return in the search loop, from the first
one on, whose result it is entered with. -/
def searchGets (same : Value → Bool) :
    Nat → ObjectList Value → Option Addr → List (Option Addr)
  | _, _, none => [none]
  | 0, _, some address => [some address]
  | fuel + 1, list, some address =>
      some address ::
        match list.readObject address with
        | none => []
        | some stored =>
            if same stored then
              []
            else
              match list.getObject with
              | none => []
              | some (list, following) => searchGets same fuel list following

/-- The calls of `get_object` in `find`. -/
def findGets (list : ObjectList Value) (same : Value → Bool) : List (Option Addr) :=
  match list.listRewind.getObject with
  | none => []
  | some (list, start) => searchGets same list.fresh list start

/-- The calls of `get_object` in `showAll`: the printing loop is a search for
nothing. -/
def showGets (list : ObjectList Value) : List (Option Addr) :=
  match list.getObject with
  | none => []
  | some (list, start) => searchGets (fun _ => false) list.fresh list start

/-- A search comes to the first record that matches.  Its first `get_object`
returns the first entry, and each later one the entry after that, or null at
the end of the list. -/
structure Searched (list : ObjectList Value) (same : Value → Bool) : Prop where
  found : ∃ moved, list.find same = some (moved, list.contents.find? same)
  starts : (list.findGets same).head? = some list.first
  follows : list.findGets same <+: list.addresses.map some ++ [none]

/-- Every record is printed, each entry is visited once and in order, and the
last `get_object` returns null. -/
structure Shown (list : ObjectList Value) : Prop where
  printed : ∃ moved, list.showAll = some (moved, list.contents)
  starts : list.showGets.head? = some list.first
  follows : list.showGets = list.addresses.map some ++ [none]
  once : list.addresses.Nodup

/-! ## The loops in an intact list -/

/-- What the search loop gets from the cells that are left. -/
def getsOf (same : Value → Bool) : List (Addr × Value) → List (Option Addr)
  | [] => [none]
  | (address, stored) :: rest => some address :: if same stored then [] else getsOf same rest

theorem getsOf_head (same : Value → Bool) (cells : List (Addr × Value)) :
    (getsOf same cells).head? = some (headOr cells none) := by
  cases cells <;> rfl

theorem getsOf_prefix (same : Value → Bool) (cells : List (Addr × Value)) :
    getsOf same cells <+: (cells.map Prod.fst).map some ++ [none] := by
  induction cells with
  | nil => exact List.prefix_refl _
  | cons cell rest inductionHypothesis =>
      rw [getsOf, List.map_cons, List.map_cons, List.cons_append, List.prefix_cons_inj]
      split
      · exact List.nil_prefix
      · exact inductionHypothesis

theorem getsOf_nothing (cells : List (Addr × Value)) :
    getsOf (fun _ => false) cells = (cells.map Prod.fst).map some ++ [none] := by
  induction cells with
  | nil => rfl
  | cons cell rest inductionHypothesis =>
      rw [getsOf, inductionHypothesis]
      rfl

theorem walkAddresses_segment {heap : Addr → Option (Object Value)} {before : Option Addr}
    {cells : List (Addr × Value)} (segment : Segment heap before cells none) {fuel : Nat}
    (enough : cells.length ≤ fuel) :
    walkAddresses heap fuel (headOr cells none) = cells.map Prod.fst := by
  induction cells generalizing before fuel with
  | nil => cases fuel <;> rfl
  | cons cell rest inductionHypothesis =>
      cases fuel with
      | zero => simp at enough
      | succ fuel =>
          have tail := inductionHypothesis segment.2 (Nat.le_of_succ_le_succ enough)
          simp [walkAddresses, segment.1, tail]

namespace Holds

theorem addresses_eq (intact : list.Holds cells) : list.addresses = cells.map Prod.fst := by
  rw [addresses, intact.first, walkAddresses_segment intact.segment intact.length_le_fresh]

/-- The cursor goes on to the next cell until a record matches. -/
theorem AtHead.searchGets_eq (same : Value → Bool) {before after : List (Addr × Value)}
    (here : AtHead list before after) {fuel : Nat} (enough : after.length ≤ fuel) :
    searchGets same fuel list (headOr after none) = getsOf same after := by
  induction after generalizing list before fuel with
  | nil => cases fuel <;> rfl
  | cons cell rest inductionHypothesis =>
      cases fuel with
      | zero => simp at enough
      | succ fuel =>
          have stored : list.readObject cell.1 = some cell.2 := here.intact.read (by simp)
          obtain ⟨moved, result, -, -, next⟩ := here.advance
          have tail := inductionHypothesis next (Nat.le_of_succ_le_succ enough)
          simp [searchGets, getsOf, stored, result, tail]

/-- Wherever the cursor was left, also at a freed object. -/
theorem searched (intact : list.Holds cells) (same : Value → Bool) : list.Searched same := by
  obtain ⟨moved, result, -, here⟩ := intact.rewind.start rfl
  have gets : list.findGets same = getsOf same cells := by
    rw [findGets, result]
    exact here.searchGets_eq same here.intact.length_le_fresh
  refine ⟨?_, ?_, ?_⟩
  · obtain ⟨last, found, -, -⟩ := intact.find_eq same
    exact ⟨last, by rw [found, intact.contents_eq]⟩
  · rw [gets, getsOf_head, intact.first]
  · rw [gets, intact.addresses_eq]
    exact getsOf_prefix same cells

/-- The cursor has to be at rest: `showAll` does not rewind before its loop. -/
theorem shown (intact : list.Holds cells) (rewound : list.current = none) : list.Shown := by
  obtain ⟨moved, result, -, here⟩ := intact.start rewound
  have gets : list.showGets = getsOf (fun _ => false) cells := by
    rw [showGets, result]
    exact here.searchGets_eq _ here.intact.length_le_fresh
  refine ⟨?_, ?_, ?_, ?_⟩
  · obtain ⟨last, printed, -, -⟩ := intact.showAll_eq rewound
    exact ⟨last, by rw [printed, intact.contents_eq]⟩
  · rw [gets, getsOf_head, intact.first]
  · rw [gets, intact.addresses_eq, getsOf_nothing]
  · rw [intact.addresses_eq]
    exact intact.distinct

end Holds

end ObjectList

end DAIM.Linked
