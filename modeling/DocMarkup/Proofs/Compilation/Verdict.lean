import DocMarkup.Proofs.Compilation.Completion

namespace DocMarkup

open CompilerState

/-!
# The verdict on a document

Whether a compilation succeeds, how many errors and warnings it counts and whether
it gives output can all be read off its diagnostics. Whatever is abandoned while a
document is read takes its diagnostics and their counts with it.
-/

/-- What a result says about itself is what its diagnostics say. -/
structure CompilationResult.IsVerdict (result : CompilationResult) : Prop where
  errorCount : result.errorCount = countOf .error result.diagnostics
  warningCount : result.warningCount = countOf .warning result.diagnostics
  success :
    result.success = true ↔
      ∀ diagnostic ∈ result.diagnostics, diagnostic.severity ≠ .error
  output : result.success = true ↔ result.output ≠ none

/-- Where reading has ended without an error, the document was read. -/
theorem CompilerState.Finished.success_iff
    {parsed : Bool}
    {state : CompilerState}
    (finished : Finished parsed state) :
    (parsed && state.errorCount == 0) = true ↔
      ∀ diagnostic ∈ state.diagnostics.toList, diagnostic.severity ≠ .error := by
  rw [← finished.accounted.1.errorCount_eq_zero_iff]
  cases parsed with
  | true =>
      simp
  | false =>
      simpa using finished.counted rfl

/-- The result of a state in which reading has ended is the verdict on its diagnostics. -/
theorem Options.result_isVerdict
    (options : Options)
    {parsed : Bool}
    {state : CompilerState}
    {result : CompilationResult}
    (finished : Finished parsed state)
    (made : options.result parsed state = .ok result) :
    result.IsVerdict := by
  obtain ⟨errors, warnings⟩ := finished.accounted.1
  unfold Options.result at made
  simp only at made
  split at made
  next success =>
    split at made
    next =>
      simp at made
    next output _ =>
      obtain rfl := Except.ok.inj made
      exact
        { errorCount := errors
          warningCount := warnings
          success := finished.success_iff
          output := by simp [success] }
  next failure =>
    obtain rfl := Except.ok.inj made
    exact
      { errorCount := errors
        warningCount := warnings
        success := finished.success_iff
        output := by simp [failure] }

/-- An error that was counted was recorded. -/
theorem CompilerState.IsCounted.exists_error
    {state : CompilerState}
    (counted : state.IsCounted)
    (someError : state.errorCount ≠ 0) :
    ∃ diagnostic ∈ state.diagnostics.toList, diagnostic.severity = .error := by
  by_contra none
  refine someError (counted.errorCount_eq_zero_iff.mpr fun diagnostic member isError => ?_)
  exact none ⟨diagnostic, member, isError⟩

/--
Every result is the verdict on its diagnostics. Counts and diagnostics agree
whenever blocks have been read, so that a watch on them never raises the alarm, and
a document that is not read leaves an error.
-/
theorem verdict_is_diagnostics
    (options : Options)
    (files : FileTree) :
    (∀ text name,
        match compileSource options files text name with
        | .ok result => result.IsVerdict
        | .error _ => True) ∧
      (∀ path,
        match compileFile options files path with
        | .ok result => result.IsVerdict
        | .error _ => True) ∧
        ∀ (document : Document) (steps : Nat),
          let environment := options.environment files
          let run := document.parse environment (Inner.within environment steps)
          let watched := document.parse environment (Inner.observed environment IsCounted steps)
          let start : Workspace := { state := options.initialState }
          watched start = run start ∧
            match watched start with
            | .ok parsed after =>
                after.state.IsCounted ∧
                  (parsed = true ∨
                    ∃ diagnostic ∈ after.state.diagnostics.toList,
                      diagnostic.severity = .error)
            | .error fault _ => fault ≠ Compile.alarm := by
  refine ⟨?_, ?_, ?_⟩
  · exact compileSource_of_finished fun _ _ _ => options.result_isVerdict
  · exact compileFile_of_finished fun _ _ _ => options.result_isVerdict
  · intro document steps environment run watched start
    obtain ⟨same, ended, noAlarm⟩ :=
      options.observed_ends files document steps fun _ => IsConsistent.isCounted
    refine ⟨same, ?_⟩
    split
    next parsed after outcome =>
      have finished := ended parsed after outcome
      refine ⟨finished.accounted.1, ?_⟩
      cases parsed with
      | true =>
          exact .inl rfl
      | false =>
          exact .inr (finished.accounted.1.exists_error (finished.counted rfl))
    next fault after outcome =>
      exact noAlarm fault after outcome

end DocMarkup
