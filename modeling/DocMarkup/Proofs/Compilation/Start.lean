import DocMarkup.Proofs.Grammar.Document

namespace DocMarkup

open CompilerState

/-!
# The start of a compilation

A compilation starts in a state in which only macros have been defined and only
errors about them have been reported. All expansions and inclusions are still to
come, and the number of steps that is computed for them is enough.
-/

namespace CompilerState

/-- Only the macros and what is reported may be different. -/
def Predefines (before after : CompilerState) : Prop :=
  after =
    { before with
      macros := after.macros
      diagnostics := after.diagnostics
      errorCount := after.errorCount
      warningCount := after.warningCount }

/-- A predefinition changes the macros and what is reported. -/
theorem predefines_predefine
    (state : CompilerState)
    (definition : String) :
    state.Predefines (state.predefine definition) := by
  have defines :
      ∀ position name body, state.Predefines (state.defineMacro position name body) := by
    intro position name body
    unfold defineMacro Predefines
    simp only
    split <;> rfl
  unfold predefine
  simp only
  split
  next defined isDefined =>
    obtain ⟨_, _, rfl⟩ := Option.map_eq_some_iff.mp isDefined
    exact defines ..
  next =>
    exact rfl

/-- So do all predefinitions together. -/
theorem predefines_predefineAll
    (state : CompilerState)
    (definitions : List String) :
    state.Predefines (state.predefineAll definitions) := by
  unfold predefineAll
  induction definitions generalizing state with
  | nil =>
      exact rfl
  | cons definition others inductionHypothesis =>
      have first := predefines_predefine state definition
      have rest := inductionHypothesis (state.predefine definition)
      unfold Predefines at first rest ⊢
      rw [List.foldl_cons, rest, first]

/-- A predefinition is counted if it is none, or if it redefines a macro. -/
theorem IsCounted.predefine
    {state : CompilerState}
    (counted : state.IsCounted)
    (definition : String) :
    (state.predefine definition).IsCounted := by
  unfold CompilerState.predefine
  simp only
  split
  next defined isDefined =>
    obtain ⟨⟨name, body⟩, _, rfl⟩ := Option.map_eq_some_iff.mp isDefined
    have defined : { state with macros := state.macros.define name body }.IsCounted := counted
    simp only [defineMacro]
    split
    · exact defined.reportWarning .structural (some _) _
    · exact defined
  next =>
    exact counted.reportError ..

/-- Predefinitions are counted like that. -/
theorem IsCounted.predefineAll
    {state : CompilerState}
    (counted : state.IsCounted)
    (definitions : List String) :
    (state.predefineAll definitions).IsCounted := by
  unfold CompilerState.predefineAll
  induction definitions generalizing state with
  | nil =>
      exact counted
  | cons definition others inductionHypothesis =>
      exact inductionHypothesis (counted.predefine definition)

end CompilerState

namespace Options

/-- Nothing has been read at the start. -/
theorem fresh_initialState (options : Options) : Compile.Fresh options.initialState := by
  have counted : options.initialState.IsCounted :=
    IsCounted.predefineAll ⟨rfl, rfl⟩ options.defines
  have predefined := predefines_predefineAll {} options.defines
  unfold Predefines at predefined
  unfold initialState at counted ⊢
  rw [predefined] at counted ⊢
  exact
    { events := rfl
      settled := rfl
      sectionIds := rfl
      sectionLevel := rfl
      blockNesting := rfl
      known := TemplateTable.Every.empty
      accounted := ⟨counted, rfl, List.nodup_nil, rfl⟩ }

/-- Nothing is nested at the start. -/
theorem unnested_initialState (options : Options) : Compile.Unnested options.initialState := by
  have predefined := predefines_predefineAll {} options.defines
  unfold Predefines at predefined
  unfold initialState
  rw [predefined]
  exact ⟨rfl, rfl, rfl⟩

/-- The length that bounds all texts that come to be read with a document. -/
def longestWith (options : Options) (files : FileTree) (document : Document) : Nat :=
  longestText (options.environment files) options.initialState document.givenLength

/-- The number of steps that is computed for a document. -/
def stepsFor (options : Options) (files : FileTree) (document : Document) : Nat :=
  enoughSteps (options.environment files) options.initialState document.givenLength

/-- No file is longer than that. -/
theorem files_bounded
    (options : Options)
    (files : FileTree)
    (document : Document) :
    (options.environment files).files.Bounded (options.longestWith files document) :=
  files_bounded_longestText

/-- At the start, no section is taken to be open where identifiers follow the document. -/
theorem idScope_initialState (options : Options) : options.initialState.idScope = 0 := by
  have predefined := predefines_predefineAll {} options.defines
  unfold Predefines at predefined
  unfold initialState
  rw [predefined]

/-- How reading a document ends with parsers that may be relied on where blocks are in order. -/
theorem parse_ends_in_order
    (options : Options)
    (files : FileTree)
    (document : Document)
    {steps : Nat}
    {affordable : Prop}
    {order : Order}
    (enough : affordable → options.stepsFor files document ≤ steps)
    {inner reference : Inner}
    (sound :
      inner.Sound files (options.longestWith files document) steps affordable reference order)
    (opens :
      ∀ state,
        Compile.Begins (document.id? (options.environment files)) 0 state → order.holds state) :
    Compile.Ends options.initialState
      (document.parse (options.environment files) inner)
      (document.parse (options.environment files) reference)
      (Compile.Expected files affordable True)
      Finished := by
  refine
    Compile.document_ends document options.fresh_initialState options.unnested_initialState
      (fun isAffordable =>
        Nat.le_trans (Compile.neededSteps_le_enoughSteps document.givenLength)
          (enough isAffordable))
      sound ?_
  rw [options.idScope_initialState]
  exact opens

/-- How reading a document ends with parsers that may be relied on. -/
theorem parse_ends
    (options : Options)
    (files : FileTree)
    (document : Document)
    {steps : Nat}
    {affordable : Prop}
    (enough : affordable → options.stepsFor files document ≤ steps)
    {inner reference : Inner}
    (sound :
      inner.Sound files (options.longestWith files document) steps affordable reference) :
    Compile.Ends options.initialState
      (document.parse (options.environment files) inner)
      (document.parse (options.environment files) reference)
      (Compile.Expected files affordable True)
      Finished :=
  options.parse_ends_in_order files document enough sound fun _ begins => begins.isConsistent

/--
With a watch that accepts all states that are in order, reading a document is the
same as without it, and never raises the alarm.
-/
theorem observed_ends
    (options : Options)
    (files : FileTree)
    (document : Document)
    (steps : Nat)
    {watch : CompilerState → Prop}
    [DecidablePred watch]
    (accepts : ∀ state, state.IsConsistent → watch state) :
    let environment := options.environment files
    let run := document.parse environment (Inner.within environment steps)
    let watched := document.parse environment (Inner.observed environment watch steps)
    let start : Workspace := { state := options.initialState }
    watched start = run start ∧
      (∀ parsed after, watched start = .ok parsed after → Finished parsed after.state) ∧
        ∀ fault after, watched start = .error fault after → fault ≠ Compile.alarm := by
  intro environment run watched start
  have ends :=
    options.parse_ends files document False.elim
      (Inner.observed_sound (options.files_bounded files document) accepts steps)
  have noAlarm : ¬ Compile.Expected files False True Compile.alarm := fun raised => raised trivial
  refine ⟨ends.eq_reference noAlarm rfl, fun parsed after => ends.of_ok rfl, ?_⟩
  rintro fault after outcome rfl
  exact noAlarm (ends.of_error rfl outcome)

end Options

end DocMarkup
