import Mathlib.Data.List.Basic
import Mathlib.Tactic.Common

/-!
# Mutual exclusion

Threads are numbered by their place in a list.  A mutex is free or names its
owner, which may also be none of these threads.
-/

namespace DAIM.Library

variable {Owner Thread : Type*}

/-- The mutex names the one thread that is in its critical section. -/
def Excludes (owner : Nat → Owner) (critical : Thread → Prop) (mutex : Option Owner)
    (threads : List Thread) : Prop :=
  ∀ index, mutex = some (owner index) ↔
    ∃ thread, threads[index]? = some thread ∧ critical thread

namespace Excludes

variable {owner : Nat → Owner} {critical : Thread → Prop} {mutex next : Option Owner}
  {threads : List Thread} {index : Nat} {thread after : Thread}

theorem nil (foreign : ∀ index, mutex ≠ some (owner index)) :
    Excludes owner critical mutex [] := by
  intro index
  simp [foreign index]

/-- A new thread is not in its critical section. -/
theorem concat (excludes : Excludes owner critical mutex threads) (outside : ¬ critical thread) :
    Excludes owner critical mutex (threads ++ [thread]) := by
  intro index
  rw [excludes index]
  constructor
  · rintro ⟨other, found, inside⟩
    exact ⟨other, by rw [List.getElem?_append_left (List.getElem?_eq_some_iff.mp found).1, found],
      inside⟩
  · rintro ⟨other, found, inside⟩
    rcases Nat.lt_or_ge index threads.length with old | new
    · rw [List.getElem?_append_left old] at found
      exact ⟨other, found, inside⟩
    · rw [List.getElem?_append_right new] at found
      cases List.mem_singleton.mp (List.mem_of_getElem? found)
      exact absurd inside outside

/-- While the mutex is free, or is with none of the threads, it can go to
another owner that is none of them. -/
theorem foreign (excludes : Excludes owner critical mutex threads)
    (before : ∀ index, mutex ≠ some (owner index)) (later : ∀ index, next ≠ some (owner index)) :
    Excludes owner critical next threads := by
  intro index
  rw [← excludes index]
  simp [before index, later index]

/-- The thread holds the mutex exactly while it is in its critical section. -/
theorem holds_iff (excludes : Excludes owner critical mutex threads)
    (found : threads[index]? = some thread) : mutex = some (owner index) ↔ critical thread := by
  rw [excludes index, found]
  simp

/-- A thread takes the free mutex, gives it back, or leaves it where it is. -/
theorem set (excludes : Excludes owner critical mutex threads)
    (distinct : Function.Injective owner) (found : threads[index]? = some thread)
    (moves : mutex = none ∧ critical after ∧ next = some (owner index) ∨
      critical thread ∧ ¬ critical after ∧ next = none ∨
      (critical thread ↔ critical after) ∧ next = mutex) :
    Excludes owner critical next (threads.set index after) := by
  have running : index < threads.length := (List.getElem?_eq_some_iff.mp found).1
  have before := excludes.holds_iff found
  intro other
  by_cases same : index = other
  · subst same
    rw [List.getElem?_set_self running]
    rcases moves with ⟨-, inside, taken⟩ | ⟨-, outside, given⟩ | ⟨stays, kept⟩
    · simp [inside, taken]
    · simp [outside, given]
    · rw [kept, before, stays]
      simp
  · have different : owner index ≠ owner other := fun equal => same (distinct equal)
    rw [List.getElem?_set_ne same, ← excludes other]
    rcases moves with ⟨free, -, taken⟩ | ⟨inside, -, given⟩ | ⟨-, kept⟩
    · simp [free, taken, different]
    · simp [before.mpr inside, given, different]
    · rw [kept]

/-- Whoever holds the mutex, no other thread is in its critical section. -/
theorem outside (excludes : Excludes owner critical mutex threads)
    (found : threads[index]? = some thread) (other : mutex ≠ some (owner index)) :
    ¬ critical thread :=
  fun inside => other ((excludes.holds_iff found).mpr inside)

end Excludes

/-! ## What the mutex is held for -/

variable {Value : Type*}

/-- What the owner of the mutex is at, if it is one of the threads. -/
def attention (number : Owner → Option Nat) (purpose : Thread → Value) (idle : Value)
    (mutex : Option Owner) (threads : List Thread) : Value :=
  match (mutex.bind number).bind fun index => threads[index]? with
  | some thread => purpose thread
  | none => idle

section Attention

variable {owner : Nat → Owner} {number : Owner → Option Nat} {critical : Thread → Prop}
  {purpose : Thread → Value} {idle : Value} {mutex next : Option Owner} {threads : List Thread}
  {index : Nat} {thread after : Thread}

theorem attention_foreign (foreign : mutex.bind number = none) :
    attention number purpose idle mutex threads = idle := by
  rw [attention, foreign]
  rfl

theorem attention_holder (named : mutex.bind number = some index)
    (found : threads[index]? = some thread) :
    attention number purpose idle mutex threads = purpose thread := by
  rw [attention, named, Option.bind_some, found]

namespace Excludes

/-- A new thread has no part in it. -/
theorem attention_concat (excludes : Excludes owner critical mutex threads)
    (names : ∀ held index, number held = some index → held = owner index) :
    attention number purpose idle mutex (threads ++ [thread]) =
      attention number purpose idle mutex threads := by
  cases named : mutex.bind number with
  | none => rw [attention_foreign named, attention_foreign named]
  | some index =>
      obtain ⟨held, same, isIndex⟩ := Option.bind_eq_some_iff.mp named
      obtain ⟨place, found, -⟩ :=
        (excludes index).mp (same.trans (congrArg some (names _ _ isIndex)))
      have still : (threads ++ [thread])[index]? = some place := by
        rw [List.getElem?_append_left (List.getElem?_eq_some_iff.mp found).1, found]
      rw [attention_holder named still, attention_holder named found]

/-- A thread that steps changes what the mutex is held for from what it was at
to what it is at, unless it does not use the mutex. -/
theorem attention_set (excludes : Excludes owner critical mutex threads)
    (numbers : ∀ index, number (owner index) = some index)
    (names : ∀ held index, number held = some index → held = owner index)
    (off : ∀ thread, ¬ critical thread → purpose thread = idle)
    (found : threads[index]? = some thread)
    (moves : mutex = none ∧ critical after ∧ next = some (owner index) ∨
      critical thread ∧ ¬ critical after ∧ next = none ∨
      (critical thread ↔ critical after) ∧ next = mutex) :
    attention number purpose idle mutex threads = purpose thread ∧
        attention number purpose idle next (threads.set index after) = purpose after ∨
      ¬ critical thread ∧ ¬ critical after ∧ next = mutex ∧
        attention number purpose idle next (threads.set index after) =
          attention number purpose idle mutex threads := by
  have running : index < threads.length := (List.getElem?_eq_some_iff.mp found).1
  have here : (threads.set index after)[index]? = some after := List.getElem?_set_self running
  have number (held : Option Owner) (same : held = some (owner index)) :
      held.bind number = some index := by
    rw [same, Option.bind_some, numbers]
  rcases moves with ⟨free, inside, taken⟩ | ⟨inside, outside, given⟩ | ⟨stays, kept⟩
  · have notHere : ¬ critical thread := excludes.outside found (by simp [free])
    left
    rw [off thread notHere]
    exact ⟨attention_foreign (by simp [free]), attention_holder (number next taken) here⟩
  · have held := (excludes.holds_iff found).mpr inside
    left
    rw [off after outside]
    exact ⟨attention_holder (number mutex held) found, attention_foreign (by simp [given])⟩
  · by_cases inside : critical thread
    · have held := (excludes.holds_iff found).mpr inside
      exact .inl ⟨attention_holder (number mutex held) found,
        attention_holder (number next (kept.trans held)) here⟩
    · refine .inr ⟨inside, fun later => inside (stays.mpr later), kept, ?_⟩
      rw [kept]
      unfold attention
      cases named : mutex.bind _ with
      | none => rfl
      | some other =>
          obtain ⟨held, same, isOther⟩ := Option.bind_eq_some_iff.mp named
          have different : index ≠ other := by
            rintro rfl
            exact inside ((excludes.holds_iff found).mp
              (same.trans (congrArg some (names _ _ isOther))))
          rw [Option.bind_some, Option.bind_some, List.getElem?_set_ne different]

end Excludes

end Attention

end DAIM.Library
