import Mathlib.Data.List.Basic
import Mathlib.Data.List.Induction

/-!
# Labelled runs

A run of a labelled step relation, with the labels of its steps in the order
in which they happened.  The labels are the history that the invariants of a
system may speak about.
-/

namespace DAIM.Library

variable {State Label : Type*}

/-- The steps with the given labels lead from `start` to the last state. -/
inductive Run (step : State → Label → State → Prop) (start : State) :
    List Label → State → Prop where
  | refl : Run step start [] start
  | snoc {labels : List Label} {middle finish : State} {label : Label} :
      Run step start labels middle → step middle label finish →
      Run step start (labels ++ [label]) finish

namespace Run

variable {step : State → Label → State → Prop} {start middle finish : State}

/-- What holds at the start and is kept by every step, whatever happened
before, holds at the end of every run. -/
theorem invariant (holds : List Label → State → Prop) (base : holds [] start)
    (kept : ∀ labels state label next, Run step start labels state → holds labels state →
      step state label next → holds (labels ++ [label]) next)
    {labels : List Label} (run : Run step start labels finish) : holds labels finish := by
  induction run with
  | refl => exact base
  | snoc earlier last inductionHypothesis => exact kept _ _ _ _ earlier inductionHypothesis last

theorem single {label : Label} (taken : step start label finish) :
    Run step start [label] finish := by
  have run : Run step start ([] ++ [label]) finish := .snoc .refl taken
  exact run

theorem trans {first second : List Label} (left : Run step start first middle)
    (right : Run step middle second finish) : Run step start (first ++ second) finish := by
  induction right with
  | refl => simpa using left
  | snoc _ last inductionHypothesis =>
      rw [← List.append_assoc]
      exact .snoc inductionHypothesis last

theorem cons {label : Label} {labels : List Label} (taken : step start label middle)
    (rest : Run step middle labels finish) : Run step start (label :: labels) finish :=
  (single taken).trans rest

/-- A run whose last label is known ends with a step that carries it. -/
theorem snoc_inv {labels : List Label} {label : Label}
    (run : Run step start (labels ++ [label]) finish) :
    ∃ last, Run step start labels last ∧ step last label finish := by
  generalize whole : labels ++ [label] = all at run
  cases run with
  | refl => simp at whole
  | snoc earlier taken =>
      obtain ⟨rfl, same⟩ := List.append_inj' whole rfl
      cases same
      exact ⟨_, earlier, taken⟩

/-- A run can be cut anywhere. -/
theorem append_inv {first second : List Label} (run : Run step start (first ++ second) finish) :
    ∃ middle, Run step start first middle ∧ Run step middle second finish := by
  induction second using List.reverseRecOn generalizing finish with
  | nil =>
      rw [List.append_nil] at run
      exact ⟨finish, run, .refl⟩
  | append_singleton second label inductionHypothesis =>
      rw [← List.append_assoc] at run
      obtain ⟨last, earlier, taken⟩ := run.snoc_inv
      obtain ⟨middle, left, right⟩ := inductionHypothesis earlier
      exact ⟨middle, left, .snoc right taken⟩

theorem single_inv {label : Label} (run : Run step start [label] finish) :
    step start label finish := by
  have split : Run step start ([] ++ [label]) finish := run
  obtain ⟨last, earlier, taken⟩ := split.snoc_inv
  generalize none : ([] : List Label) = labels at earlier
  cases earlier with
  | refl => exact taken
  | snoc _ _ => simp at none

theorem cons_inv {label : Label} {labels : List Label}
    (run : Run step start (label :: labels) finish) :
    ∃ next, step start label next ∧ Run step next labels finish := by
  have split : Run step start ([label] ++ labels) finish := run
  obtain ⟨next, first, rest⟩ := split.append_inv
  exact ⟨next, first.single_inv, rest⟩

end Run

/-! ## Runs whose steps meet a condition -/

/-- A run, each step of which is taken under a condition on the history and on
the state before it. -/
inductive Guarded (step : State → Label → State → Prop)
    (condition : List Label → State → Label → Prop) (start : State) :
    List Label → State → Prop where
  | refl : Guarded step condition start [] start
  | snoc {labels : List Label} {middle finish : State} {label : Label} :
      Guarded step condition start labels middle → condition labels middle label →
      step middle label finish → Guarded step condition start (labels ++ [label]) finish

theorem Guarded.run {step : State → Label → State → Prop}
    {condition : List Label → State → Label → Prop} {start finish : State} {labels : List Label}
    (guarded : Guarded step condition start labels finish) : Run step start labels finish := by
  induction guarded with
  | refl => exact .refl
  | snoc _ _ taken inductionHypothesis => exact .snoc inductionHypothesis taken

/-- A step in front, where the condition does not speak about the history. -/
theorem Guarded.cons {step : State → Label → State → Prop} {condition : State → Label → Prop}
    {start middle finish : State} {label : Label} {labels : List Label}
    (allowed : condition start label) (taken : step start label middle)
    (rest : Guarded step (fun _ => condition) middle labels finish) :
    Guarded step (fun _ => condition) start (label :: labels) finish := by
  induction rest with
  | refl =>
      have first : Guarded step (fun _ => condition) start ([] ++ [label]) middle :=
        .snoc .refl allowed taken
      exact first
  | snoc _ still last inductionHypothesis => exact .snoc inductionHypothesis still last

end DAIM.Library
