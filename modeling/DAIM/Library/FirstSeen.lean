import Mathlib.Data.List.Basic
import Mathlib.Data.List.Infix
import Mathlib.Data.List.Nodup

/-!
# Tables that keep the first entry of each key

A table that takes an entry only when none with its key is there.  Filled from
a sequence of entries, it lists the first entry of every key, in the order of
their first appearance.
-/

namespace DAIM.Library

variable {Entry Key : Type*} [DecidableEq Key] (key : Entry → Key)

def insertNew (table : List Entry) (entry : Entry) : List Entry :=
  if table.any fun known => key known = key entry then table else table ++ [entry]

def firstSeen (entries : List Entry) : List Entry :=
  entries.foldl (insertNew key) []

@[simp]
theorem firstSeen_nil : firstSeen key ([] : List Entry) = [] := rfl

theorem firstSeen_append (entries more : List Entry) :
    firstSeen key (entries ++ more) = more.foldl (insertNew key) (firstSeen key entries) := by
  rw [firstSeen, List.foldl_append, firstSeen]

@[simp]
theorem firstSeen_snoc (entries : List Entry) (entry : Entry) :
    firstSeen key (entries ++ [entry]) = insertNew key (firstSeen key entries) entry := by
  rw [firstSeen_append]
  rfl

/-- A known key leaves the table as it is. -/
theorem insertNew_of_mem {table : List Entry} {entry : Entry}
    (known : key entry ∈ table.map key) : insertNew key table entry = table := by
  obtain ⟨other, member, same⟩ := List.mem_map.mp known
  rw [insertNew, if_pos (List.any_eq_true.mpr ⟨other, member, by simpa using same⟩)]

theorem insertNew_of_notMem {table : List Entry} {entry : Entry}
    (unknown : key entry ∉ table.map key) : insertNew key table entry = table ++ [entry] := by
  have none : ¬ (table.any fun known => key known = key entry) = true := by
    intro some
    obtain ⟨other, member, same⟩ := List.any_eq_true.mp some
    exact unknown (List.mem_map.mpr ⟨other, member, by simpa using same⟩)
  rw [insertNew, if_neg none]

theorem prefix_insertNew (table : List Entry) (entry : Entry) :
    table <+: insertNew key table entry := by
  unfold insertNew
  split
  · exact List.prefix_refl table
  · exact List.prefix_append table [entry]

/-- A new entry never repeats a key. -/
theorem nodup_keys_insertNew {table : List Entry} (distinct : (table.map key).Nodup)
    (entry : Entry) : ((insertNew key table entry).map key).Nodup := by
  by_cases known : key entry ∈ table.map key
  · rwa [insertNew_of_mem key known]
  · rw [insertNew_of_notMem key known, List.map_append, List.map_singleton]
    apply List.Nodup.append distinct (List.nodup_singleton _)
    intro k inTable isNew
    exact known (List.mem_singleton.mp isNew ▸ inTable)

/-- No two entries of the table share a key. -/
theorem nodup_keys_firstSeen (entries : List Entry) :
    ((firstSeen key entries).map key).Nodup := by
  induction entries using List.reverseRecOn with
  | nil => simp
  | append_singleton entries entry inductionHypothesis =>
      rw [firstSeen_snoc]
      exact nodup_keys_insertNew key inductionHypothesis entry

/-- The entry of a key is the first one of the sequence with that key. -/
theorem find?_firstSeen (entries : List Entry) (k : Key) :
    (firstSeen key entries).find? (fun entry => key entry = k) =
      entries.find? (fun entry => key entry = k) := by
  induction entries using List.reverseRecOn with
  | nil => rfl
  | append_singleton entries entry inductionHypothesis =>
      rw [firstSeen_snoc, List.find?_append, ← inductionHypothesis]
      by_cases known : key entry ∈ (firstSeen key entries).map key
      · rw [insertNew_of_mem key known]
        by_cases same : key entry = k
        · obtain ⟨other, member, equal⟩ := List.mem_map.mp known
          have found : ((firstSeen key entries).find? fun entry => key entry = k).isSome := by
            rw [List.find?_isSome]
            exact ⟨other, member, by simpa using equal.trans same⟩
          obtain ⟨first, result⟩ := Option.isSome_iff_exists.mp found
          rw [result, Option.some_or]
        · simp [same]
      · rw [insertNew_of_notMem key known, List.find?_append]

/-- A table that only shows a part of its entries, as long as it shows the key. -/
theorem map_insertNew {View : Type*} (view : Entry → View) (viewKey : View → Key)
    (same : ∀ entry, viewKey (view entry) = key entry) (table : List Entry) (entry : Entry) :
    (insertNew key table entry).map view = insertNew viewKey (table.map view) (view entry) := by
  have keys : (table.map view).map viewKey = table.map key := by
    rw [List.map_map]
    exact List.map_congr_left fun known _ => same known
  by_cases known : key entry ∈ table.map key
  · rw [insertNew_of_mem key known, insertNew_of_mem viewKey]
    rwa [keys, same]
  · rw [insertNew_of_notMem key known, insertNew_of_notMem viewKey]
    · rw [List.map_append, List.map_singleton]
    · rwa [keys, same]

end DAIM.Library
