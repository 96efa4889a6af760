import DAIM.Library.Runs
import Mathlib.Data.List.Basic

/-!
# Systems that show the same

Some labels of a system show something to the outside.  A system simulates
another one when it can show whatever the other one shows, taking as many steps
for it as it needs.
-/

namespace DAIM.Library

variable {State Other Label Mark Shown : Type*}

/-- Every step of the first system that shows nothing but what is allowed is
matched, from each related state, by a run of the second one. -/
def Simulates (first : State → Label → State → Prop) (second : Other → Mark → Other → Prop)
    (shows : Label → Option Shown) (displays : Mark → Option Shown) (allowed : Shown → Prop)
    (related : State → Other → Prop) : Prop :=
  ∀ ⦃state next label other⦄, related state other → first state label next →
    (∀ shown ∈ shows label, allowed shown) →
    ∃ marks after, Run second other marks after ∧
      marks.filterMap displays = (shows label).toList ∧ related next after

section Runs

variable {first : State → Label → State → Prop} {second : Other → Mark → Other → Prop}
variable {shows : Label → Option Shown} {displays : Mark → Option Shown}
variable {allowed : Shown → Prop} {related : State → Other → Prop}

/-- A step that is matched by at most one step. -/
theorem Run.matches {other after : Other} {mark : Mark} {shown : Option Shown}
    (taken : second other mark after) (same : displays mark = shown) :
    ∃ marks, Run second other marks after ∧ marks.filterMap displays = shown.toList := by
  refine ⟨[mark], .single taken, ?_⟩
  subst same
  cases shows : displays mark <;> simp [shows]

/-- What a run shows, a run of the simulating system shows as well. -/
theorem Simulates.run (simulates : Simulates first second shows displays allowed related)
    {start finish : State} {other : Other} (begun : related start other) {labels : List Label}
    (run : Run first start labels finish)
    (allow : ∀ shown ∈ labels.filterMap shows, allowed shown) :
    ∃ marks after, Run second other marks after ∧
      marks.filterMap displays = labels.filterMap shows ∧ related finish after := by
  induction run with
  | refl => exact ⟨[], other, .refl, rfl, begun⟩
  | @snoc labels middle finish label earlier last inductionHypothesis =>
      have whole : (labels ++ [label]).filterMap shows =
          labels.filterMap shows ++ (shows label).toList := by
        rw [List.filterMap_append]
        cases here : shows label <;> simp [here]
      rw [whole] at allow ⊢
      obtain ⟨marks, reached, run, same, still⟩ :=
        inductionHypothesis fun shown member => allow shown (List.mem_append_left _ member)
      obtain ⟨more, after, rest, matching, kept⟩ := simulates still last fun shown member =>
        allow shown (List.mem_append_right _ (Option.mem_toList.mpr member))
      refine ⟨marks ++ more, after, run.trans rest, ?_, kept⟩
      rw [List.filterMap_append, same, matching]

end Runs

end DAIM.Library
