import DocMarkup.Proofs.Compilation.Start
import DocMarkup.Proofs.Encoding.Render

namespace DocMarkup

open CompilerState

/-!
# Compilations complete

Whatever the document is, a compilation gives a result. Only a path that cannot be
expanded or resolved makes it impossible. If no error was counted, the events can
be encoded, and what they are encoded as can be laid out.
-/

/-- What is read without errors can be encoded, and the page can be laid out. -/
theorem exists_page_of_finished
    {parsed : Bool}
    {state : CompilerState}
    (finished : Finished parsed state)
    (noErrors : state.errorCount = 0)
    (encoding : Encoding) :
    ∃ page,
      encoding.encode state.events.toList = .ok page ∧
        ∀ layout, ∃ output, Markup.layOut layout page = .ok output := by
  have isParsed : parsed = true := by
    cases parsed with
    | true =>
        rfl
    | false =>
        exact (finished.counted rfl noErrors).elim
  obtain ⟨page, encoded, balanced⟩ :=
    encoding.exists_encode finished.writable (finished.closed isParsed)
  exact ⟨page, encoded, fun layout => Markup.exists_layOut layout balanced⟩

/-- The parsers are used with the number of steps that is computed for them. -/
theorem Compile.parsing_apply
    (environment : Environment)
    (given : Nat)
    (use : Inner → Compile α)
    (workspace : Workspace) :
    Compile.parsing environment given use workspace =
      use (Inner.within environment (enoughSteps environment workspace.state given)) workspace :=
  rfl

namespace Options

/-- What is read gives a result. -/
theorem exists_result
    (options : Options)
    {parsed : Bool}
    {state : CompilerState}
    (finished : Finished parsed state) :
    ∃ result, options.result parsed state = .ok result := by
  unfold result
  simp only
  split
  next success =>
    simp only [Bool.and_eq_true, beq_iff_eq] at success
    obtain ⟨page, encoded, laidOut⟩ :=
      exists_page_of_finished finished success.2 options.encoding
    obtain ⟨output, isOutput⟩ :=
      laidOut (.ofSettings options.indent options.lineWidth)
    unfold write
    rw [encoded]
    by_cases pretty : options.prettyPrint
    · simp only [pretty, ↓reduceIte, isOutput]
      exact ⟨_, rfl⟩
    · simp only [pretty, Bool.false_eq_true, ↓reduceIte]
      exact ⟨_, rfl⟩
  next =>
    exact ⟨_, rfl⟩

/-- A result is made from a state in which reading has ended. -/
theorem run_finished
    (options : Options)
    (files : FileTree)
    (document : Document)
    {result : CompilationResult}
    (isResult :
      (options.run
        (Compile.parsing (options.environment files) document.givenLength fun inner =>
          document.parse (options.environment files) inner)).result = .ok result) :
    ∃ parsed state, Finished parsed state ∧ options.result parsed state = .ok result := by
  have ends :=
    options.parse_ends files document (fun _ : True => Nat.le_refl _)
      (Inner.within_sound (options.files_bounded files document)
        (options.stepsFor files document))
  unfold run at isResult
  rw [Compile.parsing_apply] at isResult
  split at isResult
  next parsed workspace outcome =>
    exact ⟨parsed, workspace.state, ends.of_ok rfl outcome, isResult⟩
  next =>
    simp at isResult

/-- A result tells the diagnostics and the open sections of its state. -/
theorem parts_of_result
    (options : Options)
    {parsed : Bool}
    {state : CompilerState}
    {result : CompilationResult}
    (made : options.result parsed state = .ok result) :
    result.diagnostics = state.diagnostics.toList ∧ result.sectionLevel = state.sectionLevel := by
  unfold Options.result at made
  simp only at made
  split at made
  next =>
    split at made
    next => simp at made
    next =>
      obtain rfl := Except.ok.inj made
      exact ⟨rfl, rfl⟩
  next =>
    obtain rfl := Except.ok.inj made
    exact ⟨rfl, rfl⟩

end Options

section Results

variable {options : Options} {files : FileTree} {property : CompilationResult → Prop}

/-- The result of compiling a text is made from a state in which reading has ended. -/
theorem compileSource_of_finished
    (holds :
      ∀ parsed state result,
        Finished parsed state → options.result parsed state = .ok result → property result)
    (text name : String) :
    match compileSource options files text name with
    | .ok result => property result
    | .error _ => True := by
  split
  next result isResult =>
    unfold compileSource Options.runSource at isResult
    split at isResult
    next =>
      simp at isResult
    next file _ =>
      obtain ⟨parsed, state, finished, made⟩ :=
        options.run_finished files
          (.given file
            { text := String.ofList (Text.pairedLineEnds text.toList), name := name })
          isResult
      exact holds parsed state result finished made
  next =>
    trivial

/-- So is that of compiling a file. -/
theorem compileFile_of_finished
    (holds :
      ∀ parsed state result,
        Finished parsed state → options.result parsed state = .ok result → property result)
    (path : Path) :
    match compileFile options files path with
    | .ok result => property result
    | .error _ => True := by
  split
  next result isResult =>
    obtain ⟨parsed, state, finished, made⟩ := options.run_finished files (.stored path) isResult
    exact holds parsed state result finished made
  next =>
    trivial

end Results

end DocMarkup
