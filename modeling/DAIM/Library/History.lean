import Mathlib.Data.List.Forall2
import Mathlib.Data.List.Basic

/-!
# Events one after the other

A history is a list of labels.  A sequence of stages happened in it when there
are labels in the history, in this order, one for each stage.
-/

namespace DAIM.Library

variable {Label : Type*}

/-- Labels of the stages occur in the history, in the order of the stages. -/
def Happened (history : List Label) (stages : List (Label → Prop)) : Prop :=
  ∃ chosen, chosen.Sublist history ∧ List.Forall₂ (fun stage label => stage label) stages chosen

/-- Where a history with one more label can be cut. -/
theorem cut_snoc {history earlier later : List Label} {last label : Label}
    (cut : history ++ [last] = earlier ++ label :: later) :
    later = [] ∧ history = earlier ∧ last = label ∨
      ∃ before, later = before ++ [last] ∧ history = earlier ++ label :: before := by
  rcases List.eq_nil_or_concat' later with rfl | ⟨before, final, rfl⟩
  · obtain ⟨same, final⟩ := List.append_inj' cut rfl
    exact .inl ⟨rfl, same, List.singleton_inj.mp final⟩
  · rw [← List.cons_append, ← List.append_assoc] at cut
    obtain ⟨same, final⟩ := List.append_inj' cut rfl
    cases List.singleton_inj.mp final
    exact .inr ⟨before, rfl, same⟩

namespace Happened

variable {history : List Label} {stages : List (Label → Prop)}

/-- What happened stays so. -/
theorem later (happened : Happened history stages) (more : List Label) :
    Happened (history ++ more) stages := by
  obtain ⟨chosen, inside, fit⟩ := happened
  exact ⟨chosen, inside.trans (List.sublist_append_left history more), fit⟩

/-- A label that has just been added is the last stage. -/
theorem next (happened : Happened history stages) {stage : Label → Prop} {label : Label}
    (now : stage label) : Happened (history ++ [label]) (stages ++ [stage]) := by
  obtain ⟨chosen, inside, fit⟩ := happened
  refine ⟨chosen ++ [label], inside.append (List.Sublist.refl _), ?_⟩
  exact List.rel_append fit (.cons now .nil)

theorem first {stage : Label → Prop} {label : Label} (now : stage label) :
    Happened (history ++ [label]) [stage] := by
  have none : Happened history ([] : List (Label → Prop)) := ⟨[], List.nil_sublist _, .nil⟩
  exact none.next now

end Happened

end DAIM.Library
