import DAIM.Library.Runs

/-!
# Traces

A run with the states before and after each of its steps, and a count of steps
that starts anew after some of them.
-/

namespace DAIM.Library

variable {State Label : Type*}

/-- A step that was taken. -/
structure Taken (State Label : Type*) where
  before : State
  label : Label
  after : State

/-- The steps of a run that leads from `start` to the last state. -/
inductive Trace (step : State → Label → State → Prop) (start : State) :
    List (Taken State Label) → State → Prop where
  | refl : Trace step start [] start
  | snoc {steps : List (Taken State Label)} {middle finish : State} {label : Label} :
      Trace step start steps middle → step middle label finish →
      Trace step start (steps ++ [⟨middle, label, finish⟩]) finish

section Traces

variable {step : State → Label → State → Prop} {start finish : State}

theorem Trace.run {steps : List (Taken State Label)} (trace : Trace step start steps finish) :
    Run step start (steps.map Taken.label) finish := by
  induction trace with
  | refl => exact .refl
  | snoc _ last inductionHypothesis =>
      rw [List.map_append]
      exact .snoc inductionHypothesis last

theorem Run.trace {labels : List Label} (run : Run step start labels finish) :
    ∃ steps, Trace step start steps finish ∧ steps.map Taken.label = labels := by
  induction run with
  | refl => exact ⟨[], .refl, rfl⟩
  | snoc _ last inductionHypothesis =>
      obtain ⟨steps, trace, same⟩ := inductionHypothesis
      refine ⟨_, .snoc trace last, ?_⟩
      rw [List.map_append, same]
      rfl

/-- A trace that ends with a known step. -/
theorem Trace.snoc_inv {steps : List (Taken State Label)} {taken : Taken State Label}
    (trace : Trace step start (steps ++ [taken]) finish) :
    Trace step start steps taken.before ∧ step taken.before taken.label taken.after ∧
      taken.after = finish := by
  generalize whole : steps ++ [taken] = all at trace
  cases trace with
  | refl => simp at whole
  | snoc earlier last =>
      obtain ⟨rfl, same⟩ := List.append_inj' whole rfl
      cases same
      exact ⟨earlier, last, rfl⟩

/-- A trace can be cut at any of its steps. -/
theorem Trace.cut {earlier later : List (Taken State Label)} {taken : Taken State Label}
    (trace : Trace step start (earlier ++ taken :: later) finish) :
    Trace step start earlier taken.before ∧ step taken.before taken.label taken.after := by
  induction later using List.reverseRecOn generalizing finish with
  | nil => exact ⟨trace.snoc_inv.1, trace.snoc_inv.2.1⟩
  | append_singleton later last inductionHypothesis =>
      rw [← List.cons_append, ← List.append_assoc] at trace
      exact inductionHypothesis trace.snoc_inv.1

/-- The last state is the first one or one that a step led to. -/
theorem Trace.last {steps : List (Taken State Label)} (trace : Trace step start steps finish)
    {holds : State → Prop} (base : holds start) (always : ∀ taken ∈ steps, holds taken.after) :
    holds finish := by
  cases trace with
  | refl => exact base
  | snoc => exact always _ List.mem_concat_self

/-- While a property holds, exactly the steps that meet a condition keep it.
Then it holds all along exactly when all the steps meet the condition. -/
theorem Trace.always_iff {kept holds : State → Prop} {condition : State → Label → Prop}
    (intact : kept start) (base : holds start)
    (keeps : ∀ {state next : State} {label : Label}, kept state → step state label next → kept next)
    (decides : ∀ {state next : State} {label : Label}, kept state → holds state →
      step state label next → (holds next ↔ condition state label))
    {steps : List (Taken State Label)} (trace : Trace step start steps finish) :
    (∀ taken ∈ steps, holds taken.after) ↔ ∀ taken ∈ steps, condition taken.before taken.label := by
  induction trace with
  | refl => simp
  | @snoc steps middle finish label earlier last inductionHypothesis =>
      have still : kept middle :=
        earlier.run.invariant (fun _ => kept) intact
          fun _ _ _ _ _ before taken => keeps before taken
      rw [List.forall_mem_append, List.forall_mem_append, List.forall_mem_singleton,
        List.forall_mem_singleton, inductionHypothesis]
      refine and_congr_right fun met => ?_
      exact decides still (earlier.last base (inductionHypothesis.mpr met)) last

end Traces

/-! ## Counting since a step -/

section Counting

variable {Step : Type*} {resets counts : Step → Prop} [DecidablePred counts]

/-- At least so many of the steps count since each of those that reset the count. -/
def AtLeastSince (resets counts : Step → Prop) [DecidablePred counts] (count : Nat)
    (steps : List Step) : Prop :=
  ∀ earlier reset later, steps = earlier ++ reset :: later → resets reset →
    count ≤ later.countP fun step => counts step

theorem AtLeastSince.nil (count : Nat) : AtLeastSince resets counts count ([] : List Step) := by
  intro earlier reset later cut
  simp at cut

/-- A counter that is set to zero by a step that resets it, and incremented by
nothing but a step that counts. -/
theorem AtLeastSince.snoc {count next : Nat} {steps : List Step} {step : Step}
    (since : AtLeastSince resets counts count steps) (zero : resets step → next = 0)
    (grows : next ≤ count + if counts step then 1 else 0) :
    AtLeastSince resets counts next (steps ++ [step]) := by
  intro earlier reset later cut isReset
  rcases List.eq_nil_or_concat' later with rfl | ⟨before, last, rfl⟩
  · obtain ⟨-, same⟩ := List.append_inj' cut rfl
    cases same
    rw [zero isReset]
    exact Nat.zero_le _
  · rw [← List.cons_append, ← List.append_assoc] at cut
    obtain ⟨rfl, same⟩ := List.append_inj' cut rfl
    cases same
    have already := since earlier reset before rfl isReset
    rw [List.countP_append, List.countP_singleton]
    simp only [decide_eq_true_eq]
    omega

theorem AtLeastSince.mono {count : Nat} {steps : List Step} {fewer : Step → Prop}
    (since : AtLeastSince resets counts count steps) (less : ∀ step, fewer step → resets step) :
    AtLeastSince fewer counts count steps :=
  fun earlier reset later cut isReset => since earlier reset later cut (less reset isReset)

end Counting

end DAIM.Library
