import DocMarkup.Proofs.Compilation.Start

namespace DocMarkup

/-!
# Output and open sections agree throughout

Wherever a parser of blocks returns, be it that of the document, of an included
file, of an admonition or of the body of a template, the output agrees with the
sections, admonitions and block quotes that the state takes to be open. This is
said with parsers that look at the state at each return and raise an alarm where
it is out of order: they do the same as the parsers that do not look.
-/

namespace CompilerState

variable {nested : List Element} {attributes : List Attribute} {state : CompilerState}

/-- The agreement as a conjunction. -/
theorem agrees_iff :
    Agrees nested attributes state ↔
      openElementsAfter? [] state.events.toList =
          some (nested ++ state.sectionIds.map sectionElement ++ [("document", attributes)]) ∧
        (∀ element ∈ nested, element.1 ∈ nestedBlockNames) ∧
          state.blockNesting = nested.length ∧
            state.sectionLevel = state.sectionIds.length ∧ state.pendingParagraph = false := by
  constructor
  · rintro ⟨opened, names, nesting, level, settled⟩
    exact ⟨opened, names, nesting, level, settled⟩
  · rintro ⟨opened, names, nesting, level, settled⟩
    exact ⟨opened, names, nesting, level, settled⟩

instance : Decidable (Agrees nested attributes state) :=
  decidable_of_iff _ agrees_iff.symm

/-- The output agrees with some open admonitions and block quotes inside some document. -/
def IsAgreed (state : CompilerState) : Prop :=
  ∃ nested attributes, Agrees nested attributes state

/-- The innermost open elements, as many as admonitions and block quotes are open. -/
def innermostElements (state : CompilerState) : List Element :=
  ((openElementsAfter? [] state.events.toList).getD []).take state.blockNesting.toNat

/-- The attributes of the outermost open element. -/
def outermostAttributes (state : CompilerState) : List Attribute :=
  match ((openElementsAfter? [] state.events.toList).getD []).getLast? with
  | some outermost => outermost.2
  | none => []

/-- The elements that the output may agree with can be read off the output. -/
theorem isAgreed_iff :
    state.IsAgreed ↔ Agrees state.innermostElements state.outermostAttributes state := by
  constructor
  · rintro ⟨nested, attributes, agrees⟩
    have isInnermost : state.innermostElements = nested := by
      simp [innermostElements, agrees.opened, agrees.nesting]
    have isOutermost : state.outermostAttributes = attributes := by
      simp [outermostAttributes, agrees.opened]
    rw [isInnermost, isOutermost]
    exact agrees
  · intro agrees
    exact ⟨_, _, agrees⟩

instance : DecidablePred IsAgreed :=
  fun _ => decidable_of_iff _ isAgreed_iff.symm

/-- Where all is in order, the output agrees with what is open. -/
theorem IsConsistent.isAgreed (isConsistent : state.IsConsistent) : state.IsAgreed := by
  obtain ⟨nested, attributes, consistent⟩ := isConsistent
  exact ⟨nested, attributes, consistent.toAgrees⟩

end CompilerState

open CompilerState

/--
Looking at the state at every return of a parser of blocks never raises an alarm:
the output agrees with what is open each time. So sections start and end outside
admonitions and block quotes, and the end of the document closes all that is open.
-/
theorem output_agrees_with_open_sections
    (options : Options)
    (files : FileTree)
    (document : Document)
    (steps : Nat) :
    let environment := options.environment files
    let run := document.parse environment (Inner.within environment steps)
    let watched := document.parse environment (Inner.observed environment IsAgreed steps)
    let start : Workspace := { state := options.initialState }
    watched start = run start ∧
      match watched start with
      | .ok parsed after =>
          SectionsApart after.state.events.toList ∧
            (parsed = false ∨ openElementsAfter? [] after.state.events.toList = some [])
      | .error fault _ => fault ≠ Compile.alarm := by
  intro environment run watched start
  have ends :=
    options.parse_ends files document False.elim
      (Inner.observed_sound (options.files_bounded files document)
        (fun _ => IsConsistent.isAgreed) steps)
  have noAlarm : ¬ Compile.Expected files False True Compile.alarm := fun raised => raised trivial
  refine ⟨ends.eq_reference noAlarm rfl, ?_⟩
  split
  next parsed after outcome =>
    have finished := ends.of_ok rfl outcome
    refine ⟨finished.apart, ?_⟩
    cases parsed with
    | true =>
        exact .inr (finished.closed rfl)
    | false =>
        exact .inl rfl
  next fault after outcome =>
    rintro rfl
    exact noAlarm (ends.of_error rfl outcome)

end DocMarkup
