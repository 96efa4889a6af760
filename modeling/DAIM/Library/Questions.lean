/-!
# What a computation asks

A computation that uses some functions can be written with these functions as a
parameter.  The questions that it asks are those whose answers it depends on:
with functions that answer them in the same way the result is the same, and
with functions that fail to answer one of them there is no result.
-/

namespace DAIM.Library

variable {Functions Question Result Value : Type}

/-- The functions that a computation is meant to use, and how others compare to
them at a question. -/
structure Interface (Functions Question : Type) where
  original : Functions
  Agrees : Functions → Question → Prop
  Fails : Functions → Question → Prop

/-- The computation asks these questions, and no others. -/
structure Interface.Asks (interface : Interface Functions Question)
    (run : Functions → Option Result) (questions : List Question) : Prop where
  enough : ∀ functions, (∀ question ∈ questions, interface.Agrees functions question) →
    run functions = run interface.original
  needed : ∀ functions,
    (∀ question ∈ questions,
      interface.Agrees functions question ∨ interface.Fails functions question) →
    (∃ question ∈ questions, interface.Fails functions question) → run functions = none

namespace Interface.Asks

variable {interface : Interface Functions Question} {run : Functions → Option Result}
variable {next : Functions → Result → Option Value} {questions more : List Question}

theorem nothing (result : Option Result) : interface.Asks (fun _ => result) [] where
  enough _ _ := rfl
  needed := by
    rintro _ _ ⟨question, none, -⟩
    cases none

/-- The answer to one question is the result. -/
theorem one {question : Question}
    (agrees : ∀ functions, interface.Agrees functions question →
      run functions = run interface.original)
    (fails : ∀ functions, interface.Fails functions question → run functions = none) :
    interface.Asks run [question] where
  enough functions all := agrees functions (all question List.mem_cons_self)
  needed := by
    rintro functions _ ⟨other, member, failed⟩
    cases List.mem_singleton.mp member
    exact fails functions failed

/-- What is asked next depends on the result so far. -/
theorem bind (first : interface.Asks run questions)
    (stuck : run interface.original = none → more = [])
    (goes : ∀ result, run interface.original = some result →
      interface.Asks (fun functions => next functions result) more) :
    interface.Asks (fun functions => (run functions).bind (next functions))
      (questions ++ more) where
  enough functions all := by
    have same := first.enough functions fun question member =>
      all question (List.mem_append_left _ member)
    simp only [same]
    cases result : run interface.original with
    | none => rfl
    | some result =>
        exact (goes _ ‹_›).enough functions fun question member =>
          all question (List.mem_append_right _ member)
  needed := by
    rintro functions each ⟨question, member, failed⟩
    have early : ∀ question ∈ questions,
        interface.Agrees functions question ∨ interface.Fails functions question :=
      fun question member => each question (List.mem_append_left _ member)
    by_cases before : ∃ question ∈ questions, interface.Fails functions question
    · simp only [first.needed functions early before, Option.bind_none]
    · have same := first.enough functions fun question member =>
        (early question member).resolve_right fun failed => before ⟨question, member, failed⟩
      have later : question ∈ more := (List.mem_append.mp member).resolve_left fun member =>
        before ⟨question, member, failed⟩
      simp only [same]
      cases result : run interface.original with
      | none =>
          rw [stuck result] at later
          cases later
      | some result =>
          exact (goes _ ‹_›).needed functions
            (fun question member => each question (List.mem_append_right _ member))
            ⟨question, later, failed⟩

theorem bind_cons {question : Question} (first : interface.Asks run [question])
    (stuck : run interface.original = none → more = [])
    (goes : ∀ result, run interface.original = some result →
      interface.Asks (fun functions => next functions result) more) :
    interface.Asks (fun functions => (run functions).bind (next functions)) (question :: more) :=
  first.bind stuck goes

/-- The rest of the computation asks nothing. -/
theorem map (first : interface.Asks run questions) (change : Result → Value) :
    interface.Asks (fun functions => (run functions).map change) questions where
  enough functions all := congrArg (Option.map change) (first.enough functions all)
  needed functions each failed :=
    congrArg (Option.map change) (first.needed functions each failed)

end Interface.Asks

end DAIM.Library
