import DocMarkup.Proofs.Grammar.References
import DocMarkup.Proofs.Mirror.Everywhere
import DocMarkup.Proofs.Written.Run

namespace DocMarkup

/-!
# Arguments are passed by value

The arguments of a call are read where the call stands, each of them once and in order.
Each is read in the state of the caller: what the earlier ones put out is taken out of the
document again, and what was reported about them makes no difference. Only what they found
out about unclosed brackets is still known. In the body, a parameter stands for the output
of its argument, however often it is referred to, and the scopes around the call have no
say in what the body reads.
-/

open Compile

/-- The state without a pending paragraph. -/
def CompilerState.settled (state : CompilerState) : CompilerState :=
  { state with pendingParagraph := false }

/-- What the reading of a text adds: its output, and what is reported. -/
structure Reading where
  events : List Event
  diagnostics : List Diagnostic
deriving DecidableEq

/-- What was added from one state to another. -/
def Reading.between (before after : CompilerState) : Reading where
  events := after.events.toList.drop before.events.size
  diagnostics := after.diagnostics.toList.drop before.diagnostics.size

/-- Output and errors that were added to a state without a pending paragraph are a reading. -/
theorem Reading.between_eq
    {before : CompilerState}
    (settled : before.pendingParagraph = false)
    (events : List Event)
    (errors : List Diagnostic) :
    Reading.between before ((before.replay events).withErrors errors) =
      { events := events, diagnostics := errors } := by
  rw [CompilerState.replay_of_settled settled]
  simp [Reading.between, CompilerState.withErrors]

/--
What texts add if they are read one after another to their ends, each of them in the same
state. What was found out about unclosed brackets is remembered.
-/
def Inner.readings? (inner : Inner) : Workspace → List Source → Option (List Reading)
  | _, [] => some []
  | workspace, source :: others =>
      match inner.expansion source false workspace with
      | .ok true after =>
          (readings? inner { after with state := workspace.state } others).map fun readings =>
            .between workspace.state after.state :: readings
      | _ => none

/-- The sources of the arguments of a call, which are numbered. -/
def argumentSources
    (position : Position)
    (template : Template)
    (index : Nat) :
    List String → List Source
  | [] => []
  | argument :: others =>
      { text := argument
        name :=
          position.file ++ " (argument " ++ toString index ++ " of " ++ template.name ++ ")" } ::
        argumentSources position template (index + 1) others

/-- The output that a parameter stands for. -/
def outputOf : List String → List Reading → String → List Event
  | param :: params, reading :: readings, name =>
      if name = param then reading.events else outputOf params readings name
  | _, _, _ => []

/-! ## Reading an argument -/

/-- Reading a text adds output and errors, and never looks at what was there before. -/
structure Inner.OnlyAdds (inner : Inner) : Prop where
  ignoresFrames : ∀ source, IgnoresFrames (inner.expansion source)
  adds :
    ∀ {source workspace succeeded after},
      inner.expansion source false workspace = .ok succeeded after →
        ∃ events errors, after.state = (workspace.state.replay events).withErrors errors

/-- The parsers do so. -/
theorem Inner.within_onlyAdds (environment : Environment) (steps : Nat) :
    (Inner.within environment steps).OnlyAdds where
  ignoresFrames source := within_expansion_ignoresFrames environment steps source false
  adds := by
    intro source workspace succeeded after ended
    have ends :
        Ends workspace.state ((within environment steps).expansion source)
          ((within environment steps).expansion source)
          (Expected environment.files False False)
          fun _ after => CompilerState.Effect inlineVocabulary workspace.state after :=
      expansion_ends within_sound_longestText source
        (CompilerState.ready_longestText (Nat.le_refl _))
    obtain ⟨events, errors, _, _, isAfter⟩ := ends.of_ok rfl ended
    exact ⟨events, errors, isAfter⟩

namespace Compile

variable {inner : Inner} {caller : CompilerState} {earlier : List Diagnostic}

/-- Below the limit, expanding may go on. -/
theorem mayExpand_eq_ok
    {workspace : Workspace}
    (room : workspace.state.expansionDepth < expansionLimit)
    (position : Position)
    (what : String) :
    mayExpand position what workspace = .ok true workspace := by
  have looked :
      mayExpand position what workspace =
        (if workspace.state.expansionDepth < expansionLimit then
          (pure true : Compile Bool)
        else
          _) workspace := rfl
  rw [looked, if_pos room]
  rfl

/-- The output of an argument that is read to its end is taken out of the document. -/
theorem captureArgument_eq_ok
    {source : Source}
    {workspace between : Workspace}
    (ended :
      inner.expansion source false { workspace with state := workspace.state.settled } =
        .ok true between) :
    captureArgument inner source workspace =
      .ok (some (between.state.events.toList.drop workspace.state.events.size))
        { between with
          state :=
            { between.state with
              events := between.state.events.shrink workspace.state.events.size
              pendingParagraph := workspace.state.pendingParagraph } } := by
  have followed :
      captureArgument inner source workspace =
        EStateM.bind (inner.expansion source) _
          { workspace with state := workspace.state.settled } := rfl
  rw [followed, EStateM.bind, ended]
  rfl

/-- An argument is read as it would be by the caller, whatever was reported about others. -/
theorem captureArgument_of_reading
    (onlyAdds : inner.OnlyAdds)
    {source : Source}
    {workspace between : Workspace}
    (isState : workspace.state = caller.withErrors earlier)
    (ended :
      inner.expansion source false { workspace with state := caller.settled } =
        .ok true between) :
    let reading := Reading.between caller.settled between.state
    captureArgument inner source workspace =
      .ok (some reading.events)
        { between with state := caller.withErrors (earlier ++ reading.diagnostics) } := by
  intro reading
  obtain ⟨events, errors, isBetween⟩ := onlyAdds.adds ended
  have isReading : reading = { events := events, diagnostics := errors } := by
    show Reading.between caller.settled between.state = _
    rw [isBetween]
    exact Reading.between_eq rfl events errors
  have endedLater :
      inner.expansion source false { workspace with state := workspace.state.settled } =
        .ok true
          { between with
            state := ((caller.settled.withErrors earlier).replay events).withErrors errors } := by
    have sameState : workspace.state.settled = caller.settled.withErrors earlier := by
      rw [isState]
      rfl
    rw [sameState]
    exact (onlyAdds.ignoresFrames source).behind_errors ended isBetween earlier
  have settled : (caller.settled.withErrors earlier).pendingParagraph = false := rfl
  rw [isReading, captureArgument_eq_ok endedLater, CompilerState.replay_of_settled settled, isState]
  simp [CompilerState.withErrors, CompilerState.settled, Nat.add_assoc]

/--
The arguments are read in order, all in the state of the caller. In the scope that is given,
each parameter stands for the output of its argument, and all else is as it was.
-/
theorem bindArguments_of_readings
    (onlyAdds : inner.OnlyAdds)
    (position : Position)
    (template : Template)
    {params arguments : List String}
    {readings : List Reading}
    {index : Nat}
    (bindings : NameTable Template)
    {workspace : Workspace}
    (sameLength : params.length = arguments.length)
    (distinct : params.Nodup)
    (isState : workspace.state = caller.withErrors earlier)
    (areRead :
      inner.readings? { workspace with state := caller.settled }
          (argumentSources position template index arguments) =
        some readings) :
    ∃ scope after,
      bindArguments inner position template index bindings (params.zip arguments) workspace =
        .ok (some scope) after ∧
        after.state = caller.withErrors (earlier ++ readings.flatMap Reading.diagnostics) ∧
          (∀ name ∉ params, scope.find? name = bindings.find? name) ∧
            ∀ name ∈ params,
              ∃ bound,
                scope.find? name = some bound ∧
                  bound.events = some (outputOf params readings name) := by
  induction params generalizing arguments readings index bindings earlier workspace with
  | nil =>
      obtain rfl := List.length_eq_zero_iff.mp sameLength.symm
      obtain rfl : [] = readings := Option.some.inj areRead
      exact ⟨bindings, workspace, rfl, by simpa using isState, fun _ _ => rfl, nofun⟩
  | cons param others inductionHypothesis =>
      obtain ⟨argument, arguments, rfl⟩ :=
        List.exists_cons_of_length_eq_add_one sameLength.symm
      obtain ⟨notLater, distinct⟩ := List.nodup_cons.mp distinct
      rw [argumentSources, Inner.readings?] at areRead
      split at areRead
      next between ended =>
        obtain ⟨later, areLater, rfl⟩ := Option.map_eq_some_iff.mp areRead
        let reading := Reading.between caller.settled between.state
        let bound : Template :=
          { name := param, body := argument, events := some reading.events }
        have captured := captureArgument_of_reading onlyAdds isState ended
        obtain ⟨scope, after, areBound, isAfter, kept, standFor⟩ :=
          @inductionHypothesis (earlier ++ reading.diagnostics) arguments later (index + 1)
            (bindings.insert param bound)
            { between with state := caller.withErrors (earlier ++ reading.diagnostics) }
            (Nat.succ.inj sameLength) distinct rfl areLater
        refine ⟨scope, after, ?_, ?_, ?_, ?_⟩
        · have followed :
              bindArguments inner position template index bindings
                  ((param, argument) :: others.zip arguments) workspace =
                EStateM.bind (captureArgument inner _) _ workspace := rfl
          rw [List.zip_cons_cons, followed, EStateM.bind, captured]
          exact areBound
        · rw [isAfter, List.flatMap_cons, List.append_assoc]
        · intro name isOther
          rw [List.mem_cons, not_or] at isOther
          rw [kept name isOther.2, NameTable.find?_insert, if_neg (Ne.symm isOther.1)]
        · intro name isParam
          by_cases isFirst : name = param
          · subst isFirst
            refine ⟨bound, ?_, ?_⟩
            · rw [kept name notLater, NameTable.find?_insert, if_pos rfl]
            · rw [outputOf, if_pos rfl]
          · rw [outputOf, if_neg isFirst]
            exact standFor name ((List.mem_cons.mp isParam).resolve_left isFirst)
      next => cases areRead

/-- A body of references adds what they stand for in its scope. -/
theorem expandBody_finishes
    (environment : Environment)
    {steps : Nat}
    {before : CompilerState}
    {bindings : NameTable Template}
    {template : Template}
    {references : List String}
    {output : String → List Event}
    (isBody : template.body = String.ofList (references.flatMap reference))
    (areReferable : ∀ name ∈ references, IsReferable name)
    (standFor :
      ∀ name ∈ references,
        ∃ bound, bindings.find? name = some bound ∧ bound.events = some (output name))
    (enough : references.length < steps)
    (position : Position) :
    Finishes before
      (expandBody (Inner.within environment steps) position template false bindings)
      fun _ after => after = before.replay (references.flatMap output) := by
  have isTrimmed : Text.trimmed template.body = template.body := by
    rw [isBody, trimmed_references]
  have inScope (name : String) (isParam : name ∈ references) :
      (before.openScope bindings).deepen.StandsFor name (output name) := by
    obtain ⟨bound, isFound, isKnown⟩ := standFor name isParam
    refine ⟨bound, ?_, isKnown⟩
    show (before.templates.pushScope bindings).find? name = some bound
    simp [TemplateTable.find?, TemplateTable.scopes, TemplateTable.pushScope, isFound]
  unfold expandBody
  simp only [Bool.and_false, Bool.false_eq_true, ↓reduceIte, isTrimmed]
  refine Ends.updateThen (Ends.thenAlways ?_)
  refine expand_finishes ?_ position _
  refine (Inner.within_expandsReferences environment output isBody areReferable inScope
    enough).imp (fun _ => id) ?_
  rintro succeeded after ⟨isRead, rfl⟩
  refine ⟨isRead, ?_⟩
  rw [TemplateTable.popScope?_getD]
  exact CompilerState.endExpansion_replay before bindings _

end Compile

/--
The arguments of a call are passed by value. Each is read in the state of the caller, but
without its pending paragraph. If all of them are read to their ends, a body of references
to the parameters adds the outputs of the arguments in the order of the references, as often
as it refers to them, and what was reported about the arguments is reported once and in their
order. A pending paragraph is opened if there is any output. Nothing else changes; whatever
the names of the parameters stand for around the call is left alone and makes no difference.
What is found out about unclosed brackets in one argument is remembered in the next ones.
-/
theorem arguments_are_passed_by_value
    (environment : Environment)
    (steps : Nat)
    (workspace : Workspace)
    (position : Position)
    (template : Template)
    (raw : String)
    {arguments references : List String}
    {readings : List Reading}
    (isWritten : template.events = none)
    (areReferable : ∀ param ∈ template.params, IsReferable param)
    (distinct : template.params.Nodup)
    (areParams : ∀ name ∈ references, name ∈ template.params)
    (isBody : template.body = String.ofList (references.flatMap reference))
    (room : workspace.state.expansionDepth < expansionLimit)
    (areSplit : splitArguments? raw template.params.length = some arguments)
    (areRead :
      (Inner.within environment steps).readings?
          { workspace with state := workspace.state.settled }
          (argumentSources position template 1 arguments) =
        some readings)
    (enough : template.body.length < steps) :
    let output := references.flatMap (outputOf template.params readings)
    let reported := readings.flatMap Reading.diagnostics
    ∃ after,
      invokeTemplate (Inner.within environment steps) position template raw false workspace =
        .ok () after ∧
        after.state =
          { workspace.state with
            events :=
              workspace.state.events ++
                (if workspace.state.pendingParagraph ∧ output ≠ [] then
                  .opening "para" [] :: output
                else
                  output).toArray
            pendingParagraph := workspace.state.pendingParagraph && output.isEmpty
            diagnostics := workspace.state.diagnostics ++ reported.toArray
            errorCount := workspace.state.errorCount + reported.length } := by
  intro output reported
  have nothingReported : workspace.state = workspace.state.withErrors [] :=
    (CompilerState.withErrors_nil _).symm
  obtain ⟨scope, middle, areBound, isMiddle, _, standFor⟩ :=
    bindArguments_of_readings (Inner.within_onlyAdds environment steps) position template {}
      (length_of_splitArguments? areSplit).symm distinct nothingReported areRead
  have isExpanded :
      Finishes middle.state
        (expandBody (Inner.within environment steps) position template false scope)
        fun _ after => after = middle.state.replay output := by
    refine expandBody_finishes environment isBody
      (fun name isReference => areReferable name (areParams name isReference))
      (fun name isReference => standFor name (areParams name isReference)) ?_ position
    refine Nat.lt_of_le_of_lt (length_le_references references) ?_
    rwa [isBody, String.length_ofList] at enough
  obtain ⟨_, after, ended, isAfter⟩ := isExpanded.exists_ok
  refine ⟨after, ?_, ?_⟩
  · unfold invokeTemplate
    simp only [isWritten, areSplit]
    show EStateM.bind (mayExpand _ _) _ workspace = _
    rw [EStateM.bind, mayExpand_eq_ok room]
    show EStateM.bind (bindArguments _ _ _ _ _ _) _ workspace = _
    rw [EStateM.bind, areBound]
    exact ended
  · rw [isAfter, isMiddle, CompilerState.replay_withErrors, CompilerState.replay_eq_output]
    simp [CompilerState.withErrors, reported]

/-- Arguments are repeated and swapped where their parameters stand for something else around. -/
theorem arguments_are_passed_by_value_in_paragraph :
    let environment : Environment :=
      { files := ⟨[], [], []⟩, encoding := .html, moment := .fixed }
    let inner := Inner.within environment 20
    let position : Position := { file := "note", offset := 7, line := 1, column := 8 }
    let template : Template := { name := "t", params := ["p", "q"], body := "[q][p][q]" }
    let state : CompilerState :=
      { templates := TemplateTable.define {} { name := "p", body := "other" }
        pendingParagraph := true }
    let workspace : Workspace := { state := state }
    let reported : Diagnostic :=
      { severity := .error
        kind := .structural
        message := undefinedMessage "no"
        file := "note (argument 2 of t)"
        position :=
          some { file := "note (argument 2 of t)", offset := 0, line := 1, column := 1 } }
    let bold : List Event := [.opening "bold" [], .text "x", .closing "bold"]
    let readings : List Reading :=
      [{ events := bold, diagnostics := [] },
        { events := [.text "[no]"], diagnostics := [reported] }]
    inner.readings? { state := state.settled }
          (argumentSources position template 1 ["[*x]", "[no]"]) =
        some readings ∧
      ∃ after,
        invokeTemplate inner position template "[*x]..[no]" false workspace = .ok () after ∧
          after.state =
            { state with
              events :=
                (.opening "para" [] :: .text "[no]" :: (bold ++ [.text "[no]"])).toArray
              pendingParagraph := false
              diagnostics := #[reported]
              errorCount := 1 } := by
  intro environment inner position template state workspace reported bold readings
  have areRead :
      inner.readings? { state := state.settled }
          (argumentSources position template 1 ["[*x]", "[no]"]) =
        some readings := by
    decide +kernel
  have areReferable : ∀ param ∈ template.params, IsReferable param := by decide +kernel
  obtain ⟨after, ended, isAfter⟩ :=
    @arguments_are_passed_by_value environment 20 workspace position template "[*x]..[no]"
      ["[*x]", "[no]"] ["q", "p", "q"] readings rfl areReferable (by decide +kernel)
      (by decide +kernel) (by decide +kernel) (by decide) (by decide +kernel) areRead
      (by decide +kernel)
  exact ⟨areRead, after, ended, isAfter.trans (by decide +kernel)⟩

/--
An argument may be read differently after another one, though that is not referred to: a
bracket that cannot be read close to the limit of nesting is taken for unclosed from then on.
-/
theorem argument_is_read_differently_after_another :
    let environment : Environment :=
      { files := ⟨[], [], []⟩, encoding := .html, moment := .fixed }
    let inner := Inner.within environment 20
    let position : Position := { file := "note", offset := 0, line := 1, column := 1 }
    let template : Template := { name := "t", params := ["p", "q"], body := "[q]" }
    let state : CompilerState :=
      { templates := TemplateTable.define {} { name := "m", body := "[*`[`]" }
        phraseDepth := 99 }
    let code : List Event := [.opening "code" [], .text "[", .closing "code"]
    let bold : List Event := .opening "bold" [] :: (code ++ [.closing "bold"])
    (inner.readings? { state := state } (argumentSources position template 1 ["[*[m]]"])).isSome ∧
      inner.readings? { state := state } (argumentSources position template 2 ["[m]"]) =
          some [{ events := bold, diagnostics := [] }] ∧
        eventsAfter?
            (invokeTemplate inner position template "[*[m]]..[m]" false { state := state }) =
          some (.text "[*" :: (code ++ [.text "]"])) := by
  decide +kernel

end DocMarkup
