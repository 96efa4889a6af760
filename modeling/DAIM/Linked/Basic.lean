import Mathlib.Data.List.Basic
import Mathlib.Tactic.Common

/-!
# The object list of `linked.cpp`

A doubly linked list of objects on the heap with a cursor.  The operations
return `none` where the C++ code dereferences a null pointer, a freed object
or a pointer that was never set.
-/

namespace DAIM.Linked

/-- Addresses of allocated objects. -/
abbrev Addr := Nat

/-- What the member `p` of an object points to: nothing, a block that was
allocated and not written yet, or a block that holds a value. -/
inductive Payload (Value : Type) where
  | null
  | raw
  | value (stored : Value)

structure Object (Value : Type) where
  p : Payload Value
  next : Option Addr
  prev : Option Addr

/-- The members of `object_list` with the part of the heap its objects live in.
`fresh` is the address that the next successful `new` returns; a freed address
is not handed out again, so that following a freed object never succeeds. -/
structure ObjectList (Value : Type) where
  heap : Addr → Option (Object Value)
  fresh : Addr
  first : Option Addr
  current : Option Addr
  last : Option Addr

namespace ObjectList

variable {Value : Type}

/-- No object ever lives at address 0; an uninitialised pointer holds it. -/
def wild : Option Addr := some 0

def empty : ObjectList Value where
  heap := fun _ => none
  fresh := 1
  first := none
  current := none
  last := none

def setObject (heap : Addr → Option (Object Value)) (address : Addr)
    (object : Option (Object Value)) : Addr → Option (Object Value) :=
  fun other => if other = address then object else heap other

/-- `add_object`, with the outcome of its two allocations.  The result names
the object whose block is returned, and is `none` for `NULL`. -/
def addObject (list : ObjectList Value) (objectAllocated blockAllocated : Bool) :
    Option (ObjectList Value × Option Addr) :=
  match list.first with
  | none =>
      if objectAllocated = false then
        some (list, none)
      else if blockAllocated = false then
        -- `first` already names the object whose links were never set
        some ({ list with
          heap := setObject list.heap list.fresh (some ⟨.null, wild, wild⟩)
          fresh := list.fresh + 1
          first := some list.fresh }, none)
      else
        some ({ list with
          heap := setObject list.heap list.fresh (some ⟨.raw, none, none⟩)
          fresh := list.fresh + 1
          first := some list.fresh
          last := some list.fresh }, some list.fresh)
  | some _ =>
      if objectAllocated = false then
        some (list, none)
      else if blockAllocated = false then
        -- the new object is leaked
        some ({ list with
          heap := setObject list.heap list.fresh (some ⟨.null, wild, wild⟩)
          fresh := list.fresh + 1 }, none)
      else
        match list.last with
        | none => none
        | some last =>
            match list.heap last with
            | none => none
            | some lastObject =>
                some ({ list with
                  heap := setObject
                    (setObject list.heap list.fresh (some ⟨.raw, none, some last⟩))
                    last (some { lastObject with next := some list.fresh })
                  fresh := list.fresh + 1
                  last := some list.fresh }, some list.fresh)

/-- Write the members of the record that the block of an object holds. -/
def writeObject (list : ObjectList Value) (address : Addr) (stored : Value) :
    Option (ObjectList Value) :=
  match list.heap address with
  | none => none
  | some object =>
      some { list with
        heap := setObject list.heap address (some { object with p := .value stored }) }

/-- The pattern of every caller of `add_object`: the returned record is filled
in member by member unless the result is `NULL`. -/
def addFilled (list : ObjectList Value) (objectAllocated blockAllocated : Bool)
    (stored : Value) : Option (ObjectList Value) :=
  match list.addObject objectAllocated blockAllocated with
  | none => none
  | some (list, none) => some list
  | some (list, some address) => list.writeObject address stored

/-- Read the record that the block of an object holds. -/
def readObject (list : ObjectList Value) (address : Addr) : Option Value :=
  match list.heap address with
  | some ⟨.value stored, _, _⟩ => some stored
  | _ => none

/-- The value of `current->p`, where `NULL` is `none`. -/
def block (object : Object Value) (address : Addr) : Option Addr :=
  match object.p with
  | .null => none
  | _ => some address

/-- The object the cursor moves to: the first one when it is null. -/
def following (list : ObjectList Value) : Option (Option Addr) :=
  match list.current with
  | none => some list.first
  | some current => (list.heap current).map Object.next

def getObject (list : ObjectList Value) : Option (ObjectList Value × Option Addr) :=
  match list.following with
  | none => none
  | some none => some ({ list with current := none }, none)
  | some (some address) =>
      match list.heap address with
      | none => none
      | some object => some ({ list with current := some address }, block object address)

def listRewind (list : ObjectList Value) : ObjectList Value :=
  { list with current := none }

/-- The loop of `free_list`, from an object towards the first one. -/
def freeFrom : Nat → (Addr → Option (Object Value)) → Option Addr → Nat →
    Option ((Addr → Option (Object Value)) × Nat)
  | _, heap, none, count => some (heap, count)
  | 0, _, some _, _ => none
  | fuel + 1, heap, some address, count =>
      match heap address with
      | none => none
      | some object => freeFrom fuel (setObject heap address none) object.prev (count + 1)

/-- `free_list` leaves the cursor as it is. -/
def freeList (list : ObjectList Value) : Option (ObjectList Value × Int) :=
  match list.last with
  | none => some (list, -1)
  | some last =>
      match freeFrom list.fresh list.heap (some last) 0 with
      | none => none
      | some (heap, count) =>
          some ({ list with heap := heap, first := none, last := none }, count)

/-- The search loop of the callers, entered with the result of `get_object`:
stop at the first record that matches, else go on to the next one. -/
def findFrom (same : Value → Bool) : Nat → ObjectList Value → Option Addr →
    Option (ObjectList Value × Option Value)
  | _, list, none => some (list, none)
  | 0, _, some _ => none
  | fuel + 1, list, some address =>
      match list.readObject address with
      | none => none
      | some stored =>
          if same stored then
            some (list, some stored)
          else
            match list.getObject with
            | none => none
            | some (list, following) => findFrom same fuel list following

/-- Rewind, then search. -/
def find (list : ObjectList Value) (same : Value → Bool) :
    Option (ObjectList Value × Option Value) :=
  match list.listRewind.getObject with
  | none => none
  | some (list, start) => findFrom same list.fresh list start

/-- The printing loop of `show_hosts` and `show_ports`, entered with the result
of `get_object`. -/
def showFrom : Nat → ObjectList Value → Option Addr → Option (ObjectList Value × List Value)
  | _, list, none => some (list, [])
  | 0, _, some _ => none
  | fuel + 1, list, some address =>
      match list.readObject address with
      | none => none
      | some stored =>
          match list.getObject with
          | none => none
          | some (list, following) =>
              match showFrom fuel list following with
              | none => none
              | some (list, printed) => some (list, stored :: printed)

/-- `show_hosts` and `show_ports`: no rewind before the traversal, one after. -/
def showAll (list : ObjectList Value) : Option (ObjectList Value × List Value) :=
  match list.getObject with
  | none => none
  | some (list, start) =>
      match showFrom list.fresh list start with
      | none => none
      | some (list, printed) => some (list.listRewind, printed)

/-- The records met by following `next` from an object. -/
def walk (heap : Addr → Option (Object Value)) : Nat → Option Addr → List Value
  | 0, _ => []
  | _ + 1, none => []
  | fuel + 1, some address =>
      match heap address with
      | some ⟨.value stored, next, _⟩ => stored :: walk heap fuel next
      | _ => []

/-- The records of the list from first to last. -/
def contents (list : ObjectList Value) : List Value :=
  walk list.heap list.fresh list.first

end ObjectList

end DAIM.Linked
