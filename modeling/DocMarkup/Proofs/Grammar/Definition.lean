import DocMarkup.Proofs.Grammar.Arguments
import DocMarkup.Proofs.Grammar.Document
import DocMarkup.Proofs.Grammar.FailedExpansion
import DocMarkup.Proofs.Grammar.Lookup

namespace DocMarkup

/-!
# Templates that are defined can be called

A definition and a call are told by different readers, at different places of the grammar.
They fit together: what a definition accepts as the name of a template calls it where it
stands in brackets, unless the grammar has another use for such a bracket. A call without
arguments then reads the body one level deeper, and the scope that is opened for the body
makes no difference.
-/

open CompilerState

/-- Trimmed, the body of a template is what stands behind the head of its definition. -/
theorem Block.trimmed_templateOf (name : String) (params : List String) (body : String) :
    Text.trimmed (Block.templateOf name params body).body = Text.trimmed body := by
  have sameFront :
      Text.trimStart (body.toList.dropWhile Text.isHorizontal) = Text.trimStart body.toList :=
    Text.dropWhile_dropWhile Text.isBlank_of_isHorizontal body.toList
  unfold Block.templateOf
  split
  next rest atLine =>
    rw [atLine] at sameFront
    have skipped : Text.trimStart rest = Text.trimStart body.toList := sameFront
    rw [Text.trimmed, Text.trimmed, Text.trim, Text.trim, String.toList_ofList, skipped]
  next =>
    rw [Text.trimmed, Text.trimmed, Text.trim, Text.trim, String.toList_ofList, sameFront]

/-- A template that is defined is what its name stands for. -/
theorem CompilerState.find?_defineTemplate
    (state : CompilerState)
    (position : Position)
    (template : Template) :
    (state.defineTemplate position template).templates.find? template.name = some template := by
  unfold defineTemplate
  split
  · exact state.templates.find?_define template
  · exact state.templates.find?_define template

namespace Compile

/-! ## Reading one level deeper -/

/-- What the body of a template is read as where the template is called. -/
def bodySource (position : Position) (name body : String) : Source where
  name := position.file ++ " (template " ++ name ++ ")"
  text := Text.trimmed body

/--
How a call ends whose text is read one level deeper: at the level of the call again, or with
an error in the state before the call where not all of the text was read.
-/
def callEnd
    (before : CompilerState)
    (position : Position)
    (what : String)
    (value : α) :
    EStateM.Result Fault Workspace Bool →
    EStateM.Result Fault Workspace α
  | .ok true after => .ok value { after with state := after.state.surface }
  | .ok false after =>
      .ok value
        { after with state := before.error position ("Expanding " ++ what ++ " failed") }
  | .error fault after => .error fault { after with state := after.state.surface }

variable {environment : Environment} {steps : Nat} {inner : Inner} {workspace : Workspace}
  {before : CompilerState} {position : Position} {what : String}
  {reading : EStateM.Result Fault Workspace Bool}

/-- What looks at the state goes on with it. -/
theorem state_bind (next : CompilerState → Compile α) :
    (state >>= next) workspace = next workspace.state workspace :=
  rfl

/-- What follows a call without looking at the state only changes what is given. -/
theorem bind_eq_callEnd
    {call : Compile α}
    {next : α → Compile β}
    {value : α}
    {result : β}
    (ended : call workspace = callEnd before position what value reading)
    (goesOn :
      ∀ complete after,
        reading = .ok complete after → ∀ later, next value later = .ok result later) :
    (call >>= next) workspace = callEnd before position what result reading := by
  show EStateM.bind call next workspace = _
  rw [EStateM.bind, ended]
  cases reading with
  | error fault after => rfl
  | ok complete after =>
      cases complete with
      | true => exact goesOn true after rfl _
      | false => exact goesOn false after rfl _

/-- A text is read one level deeper, and where it cannot be read nothing else is left. -/
theorem expand_eq_callEnd
    (source : Source)
    (block : Bool)
    (position : Position)
    (what : String)
    (workspace : Workspace) :
    let inner := Inner.within environment steps
    expand inner source block position what workspace =
      callEnd workspace.state position what ()
        (inner.expansion source block
          { workspace with state := workspace.state.deepen }) := by
  intro inner
  show
    EStateM.bind (thenAlways (inner.expansion source block) surface) _
        { workspace with state := workspace.state.deepen } = _
  rw [EStateM.bind, thenAlways]
  cases outcome :
      inner.expansion source block { workspace with state := workspace.state.deepen } with
  | error fault after => rfl
  | ok succeeded after =>
      cases succeeded with
      | true => rfl
      | false =>
          have precedes : workspace.state.Precedes after.state.surface :=
            precedes_surface ((expansion_precedes source block).of_ok rfl outcome)
          have restored :
              after.state.surface.rollback workspace.state.checkpoint = workspace.state :=
            precedes.rollback
          show
            EStateM.Result.ok ()
                { after with
                  state :=
                    (after.state.surface.rollback workspace.state.checkpoint).error position
                      ("Expanding " ++ what ++ " failed") } = _
          rw [restored]
          rfl

/-- A scope without names makes no difference to a body. -/
theorem expandBody_eq_expand (position : Position) (template : Template) (workspace : Workspace) :
    let inner := Inner.within environment steps
    let source := bodySource position template.name template.body
    expandBody inner position template false {} workspace =
      expand inner source false position ("template '" ++ template.name ++ "'") workspace := by
  intro inner source
  let what := "template '" ++ template.name ++ "'"
  let here := workspace.state.surroundings
  have sameNames : here.SameNames (here.pushScope {}) := fun _ => rfl
  have same :=
    expand_looksUp (Inner.within_looksUp environment steps) sameNames source position what
      workspace rfl
  have inOwnScope :
      expandBody inner position template false {} workspace =
        thenAlways (expand inner source false position what)
          (fun state => { state with templates := state.templates.popScope?.getD state.templates })
          (workspace.amid (here.pushScope {})) := by
    unfold expandBody
    rw [Bool.and_false]
    rfl
  rw [inOwnScope, thenAlways]
  generalize expand inner source false position what workspace = outcome,
    expand inner source false position what (workspace.amid (here.pushScope {})) = scopedOutcome
    at same
  cases same with
  | ok value after kept =>
      show EStateM.Result.ok value (after.amid here) = _
      rw [← kept]
      rfl
  | outOfSteps after kept =>
      show EStateM.Result.error Fault.nestedTooDeeply (after.amid here) = _
      rw [← kept]
      rfl

/-- A template without parameters reads its body one level deeper. -/
theorem invokeTemplate_eq_callEnd
    {template : Template}
    (isWritten : template.events = none)
    (noParams : template.params = [])
    (room : workspace.state.expansionDepth < expansionLimit)
    (position : Position) :
    let inner := Inner.within environment steps
    let source := bodySource position template.name template.body
    invokeTemplate inner position template "" false workspace =
      callEnd workspace.state position ("template '" ++ template.name ++ "'") ()
        (inner.expansion source false { workspace with state := workspace.state.deepen }) := by
  intro inner source
  have noArguments : splitArguments? "" 0 = some [] := by decide +kernel
  unfold invokeTemplate
  simp only [isWritten, noParams, List.length_nil, noArguments]
  show EStateM.bind (mayExpand _ _) _ workspace = _
  rw [EStateM.bind, mayExpand_eq_ok room]
  exact (expandBody_eq_expand position template workspace).trans (expand_eq_callEnd ..)

/-- Rules that give nothing and leave the state make no difference to those behind them. -/
theorem firstOf_append_of_refused
    {refused others : List Rule}
    {cursor : Cursor}
    (areRefused : ∀ rule ∈ refused, rule cursor = pure none)
    (workspace : Workspace) :
    firstOf (refused ++ others) cursor workspace = firstOf others cursor workspace := by
  induction refused with
  | nil => rfl
  | cons rule rest inductionHypothesis =>
      obtain ⟨isRefused, areRefused⟩ := List.forall_mem_cons.mp areRefused
      have restored : workspace.state.rollback workspace.state.checkpoint = workspace.state :=
        (Precedes.refl workspace.state).rollback
      have attempted : attempt rule cursor workspace = .ok none workspace := by
        unfold attempt
        rw [isRefused]
        show
          EStateM.Result.ok none
              { workspace with
                state := workspace.state.rollback workspace.state.checkpoint } = _
        rw [restored]
      show EStateM.bind (attempt rule cursor) _ workspace = _
      rw [EStateM.bind, attempted]
      exact inductionHypothesis areRefused

/-- A rule that is tried alone gives what it reads. -/
theorem firstOf_singleton_eq_callEnd
    {rule : Rule}
    {cursor next : Cursor}
    (applies : rule cursor workspace = callEnd before position what (some next) reading) :
    firstOf [rule] cursor workspace = callEnd before position what (some next) reading := by
  have attempted :
      attempt rule cursor workspace = callEnd before position what (some next) reading := by
    unfold attempt
    show (rule cursor >>= fun found => _) workspace = _
    exact bind_eq_callEnd applies fun _ _ _ _ => rfl
  unfold firstOf
  exact bind_eq_callEnd attempted fun _ _ _ _ => rfl

end Compile

namespace Phrase

open Compile

variable {environment : Environment} {steps : Nat} {workspace : Workspace} {name : String}
  {cursor next : Cursor}

/-- A reference to a template without parameters reads its body one level deeper. -/
theorem elements_eq_callEnd
    {template : Template}
    (referable : IsReferable name)
    (reads : cursor.Reads (reference name) next)
    (isFound : workspace.state.templates.find? name = some template)
    (isWritten : template.events = none)
    (noParams : template.params = [])
    (room : workspace.state.expansionDepth < expansionLimit) :
    let inner := Inner.within environment steps
    let source := bodySource cursor.position template.name template.body
    firstOf (elements inner) cursor workspace =
      callEnd workspace.state cursor.position ("template '" ++ template.name ++ "'") (some next)
        (inner.expansion source false { workspace with state := workspace.state.deepen }) := by
  intro inner source
  obtain ⟨atBracket, called, closes⟩ := Cursor.templateCall?_of_reference referable reads
  rw [elements_eq, firstOf_append_of_refused (constructs_of_reference referable reads)]
  refine firstOf_singleton_eq_callEnd ?_
  simp only [templateCall, called, Cursor.balancedThrough?_of_closing closes]
  rw [state_bind]
  simp only [isFound]
  exact bind_eq_callEnd (invokeTemplate_eq_callEnd isWritten noParams room cursor.position)
    fun _ _ _ _ => rfl

/-- A source that is such a reference is read to its end as a call. -/
theorem phrase_eq_callEnd
    {template : Template}
    {call : Source}
    (referable : IsReferable name)
    (isCall : call.text = String.ofList (reference name))
    (isFound : workspace.state.templates.find? name = some template)
    (isWritten : template.events = none)
    (noParams : template.params = [])
    (room : workspace.state.expansionDepth < expansionLimit)
    (mode : PhraseMode) :
    let inner := Inner.within environment steps
    let position := call.position 0
    let source := bodySource position template.name template.body
    (Inner.within environment (steps + 1)).phrase mode call.cursor workspace =
      callEnd workspace.state position ("template '" ++ template.name ++ "'")
        (mode != .bracketed, call.cursorAt call.text.length)
        (inner.expansion source false { workspace with state := workspace.state.deepen }) := by
  intro inner position source
  have reads : call.cursor.Reads (reference name) (call.cursorAt call.text.length) := by
    have wholeText := Cursor.Reads.whole call
    rwa [isCall, String.toList_ofList, ← isCall] at wholeText
  show Phrase.step inner mode 0 "" call.cursor workspace = _
  rw [step_of_opening reads.rest_eq]
  show (firstOf (elements inner) call.cursor >>= fun found => _) workspace = _
  refine bind_eq_callEnd
    (elements_eq_callEnd referable reads isFound isWritten noParams room) ?_
  intro complete after ended later
  cases steps with
  | zero =>
      have ranOut (before : Workspace) :
          inner.expansion source false before = .error .nestedTooDeeply before := rfl
      cases (ranOut _).symm.trans ended
  | succ steps =>
      show Phrase.step (Inner.within environment steps) mode 0 "" _ later = _
      unfold Phrase.step
      simp only [Cursor.Reads.rest_end call]
      rfl

end Phrase

namespace Compile

variable {environment : Environment} {steps : Nat} {workspace : Workspace}

/--
With the computed number of steps, what only looks names up comes to an end if it ends as
expected wherever all is ready for it.
-/
theorem exists_ok_of_ends
    {given length : Nat}
    {computation : Compile α}
    {results : CompilerState → α → CompilerState → Prop}
    (workspace : Workspace)
    (expansions : workspace.state.expansionDepth ≤ expansionLimit)
    (phrases : workspace.state.phraseDepth ≤ phraseLimit)
    (short : length ≤ longestText environment workspace.state given)
    (enough : enoughSteps environment workspace.state given ≤ steps)
    (looksUp :
      ∀ {here there : Surroundings},
        here.SameNames there → LooksUp here there computation computation)
    (ends :
      ∀ {before : CompilerState},
        Ready (longestText environment workspace.state given) steps True before length 1 →
          Ends before computation computation (Expected environment.files True True)
            (results before)) :
    ∃ value after, computation workspace = .ok value after := by
  let longest := longestText environment workspace.state given
  let here := workspace.state.surroundings
  -- Which files are open makes no difference, so none may be, and the limits are kept.
  let there : Surroundings := { here with includeStack := [] }
  have sameNames : here.SameNames there := fun _ => rfl
  have same := looksUp sameNames workspace rfl
  have limits : (workspace.state.amid there).WithinLimits :=
    { expansions := expansions
      phrases := phrases
      inclusions := Nat.zero_le _
      distinct := List.nodup_nil }
  have needed : neededSteps longest ≤ steps :=
    Nat.le_trans (neededSteps_le_enoughSteps given) enough
  have ready : Ready longest steps True (workspace.state.amid there) length 3 :=
    ready_of_neededSteps (bounded_longestText.of_same rfl rfl) short (fun _ => needed) limits
  have enoughReady : Ready longest steps True (workspace.state.amid there) length 1 :=
    ready.nearer (Nat.le_refl _) (by omega)
  generalize computation workspace = outcome,
    isOther : computation (workspace.amid there) = other at same
  cases same with
  | ok value after _ => exact ⟨value, after, rfl⟩
  | outOfSteps after _ => exact absurd trivial ((ends enoughReady).of_error rfl isOther)

/-- So reading one level deeper comes to an end. -/
theorem exists_ok_expansion
    {given : Nat}
    {source : Source}
    (room : workspace.state.expansionDepth < expansionLimit)
    (shallow : workspace.state.phraseDepth < phraseLimit)
    (short : source.text.length ≤ longestText environment workspace.state given)
    (enough : enoughSteps environment workspace.state given ≤ steps) :
    ∃ complete after,
      (Inner.within environment steps).expansion source false
          { workspace with state := workspace.state.deepen } =
        .ok complete after :=
  exists_ok_of_ends { workspace with state := workspace.state.deepen } room
    (Int.le_of_lt shallow) short enough
    (fun same => expansion_looksUp (Inner.within_looksUp environment steps) same source)
    (fun ready =>
      expansion_ends (Inner.within_sound files_bounded_longestText steps) source ready)

end Compile

open Compile

/--
A template without parameters that is defined can be called, whatever its name, if a bracket
in front of the name has no other use. As long as it is defined, its name in brackets reads
the trimmed body one level deeper, in any state in which expansions and brackets may still be
nested. If all of the body is read, the call adds what is put out and reported there. If not,
it adds one error and nothing else. One of both comes with the computed number of steps.
-/
theorem defined_template_can_be_called
    (environment : Environment)
    (steps : Nat)
    (mode : PhraseMode)
    {name body : String}
    {definition afterName bodyStart afterBody next : Cursor}
    {before defined calling : Workspace}
    {call : Source}
    (referable : IsReferable name)
    (isNamed : definition.templateHead? = some (name, afterName))
    (noParams : afterName.templateParams = ([], bodyStart))
    (isBody : bodyStart.balancedThrough? = some (body, afterBody))
    (accepted : Block.templateDefinition definition before = .ok (some next) defined)
    (sameTemplates : calling.state.templates = defined.state.templates)
    (room : calling.state.expansionDepth < expansionLimit)
    (shallow : calling.state.phraseDepth < phraseLimit)
    (isCall : call.text = String.ofList (reference name)) :
    let position := call.position 0
    let source := bodySource position name body
    let reading :=
      (Inner.within environment steps).expansion source false
        { calling with state := calling.state.deepen }
    (Inner.within environment (steps + 1)).phrase mode call.cursor calling =
        callEnd calling.state position ("template '" ++ name ++ "'")
          (mode != .bracketed, call.cursorAt call.text.length) reading ∧
      (enoughSteps environment calling.state call.text.length ≤ steps →
        ∃ complete after, reading = .ok complete after) := by
  intro position source reading
  let template := Block.templateOf name [] body
  obtain ⟨sameName, sameParams, isWritten⟩ := Block.templateOf_fields name [] body
  have sameName : template.name = name := sameName
  have isDefined : defined.state = before.state.defineTemplate definition.position template := by
    unfold Block.templateDefinition at accepted
    simp only [isNamed, noParams, isBody] at accepted
    cases accepted
    rfl
  have isFound : calling.state.templates.find? name = some template := by
    have found := before.state.find?_defineTemplate definition.position template
    rwa [← isDefined, ← sameTemplates, sameName] at found
  have isTrimmed : Text.trimmed template.body = Text.trimmed body :=
    Block.trimmed_templateOf name [] body
  have short :
      source.text.length ≤ longestText environment calling.state call.text.length := by
    show (Text.trimmed body).length ≤ _
    rw [← isTrimmed]
    refine Nat.le_trans (Text.length_trimmed_le _) ?_
    exact bounded_longestText.templates.of_find? isFound
  refine ⟨?_, exists_ok_expansion room shallow short⟩
  have sameSource : source = bodySource position template.name template.body := by
    rw [bodySource, isTrimmed, sameName]
    rfl
  show
    _ =
      callEnd calling.state position ("template '" ++ name ++ "'") _
        ((Inner.within environment steps).expansion source false _)
  rw [sameSource, ← sameName]
  exact Phrase.phrase_eq_callEnd referable isCall isFound isWritten sameParams room mode

/-- Behind its definition, a greeting is called, and its body is read where it is called. -/
theorem defined_template_can_be_called_in_paragraph :
    let environment : Environment :=
      { files := ⟨[], [], []⟩, encoding := .html, moment := .fixed }
    let definition : Source := { text := "[template greet [*hi] ]", name := "note" }
    let call : Source := { text := "[greet]", name := "call" }
    let template : Template := { name := "greet", body := "[*hi] " }
    let calling : Workspace :=
      { state := { templates := TemplateTable.define {} template, expansionDepth := 49 } }
    Block.templateDefinition definition.cursor {} =
        .ok (some (definition.cursorAt 23))
          { state := { templates := TemplateTable.define {} template } } ∧
      eventsAfter? ((Inner.within environment 20).phrase .paragraph call.cursor calling) =
        some [.opening "bold" [], .text "hi", .closing "bold"] := by
  intro environment definition call template calling
  have isNamed : definition.cursor.templateHead? = some ("greet", definition.cursorAt 15) := by
    decide +kernel
  have noParams : (definition.cursorAt 15).templateParams = ([], definition.cursorAt 15) := by
    decide +kernel
  have isBody :
      (definition.cursorAt 15).balancedThrough? = some (" [*hi] ", definition.cursorAt 23) := by
    decide +kernel
  have accepted :
      Block.templateDefinition definition.cursor {} =
        .ok (some (definition.cursorAt 23))
          { state := { templates := TemplateTable.define {} template } } := by
    unfold Block.templateDefinition
    simp only [isNamed, noParams, isBody]
    rfl
  refine ⟨accepted, ?_⟩
  have isCalled :=
    (@defined_template_can_be_called environment 19 .paragraph "greet" " [*hi] " _ _ _ _ _ _ _
      calling call (by decide +kernel) isNamed noParams isBody accepted rfl (by decide +kernel)
      (by decide +kernel) (by decide +kernel)).1
  rw [isCalled]
  decide +kernel

/--
A name may start with an underscore, and its definition is accepted. In brackets, however,
an underscore at the front underlines, so the body is not read.
-/
theorem underscore_underlines_instead_of_calling :
    let environment : Environment :=
      { files := ⟨[], [], []⟩, encoding := .html, moment := .fixed }
    let inner := Inner.within environment 20
    let definition : Source := { text := "[template _x y]", name := "note" }
    let call : Source := { text := "[_x]", name := "call" }
    let body : Source := { text := "y", name := "call (template _x)" }
    let template : Template := { name := "_x", body := "y" }
    let calling : Workspace := { state := { templates := TemplateTable.define {} template } }
    Text.isName "_x".toList = true ∧
      Block.templateDefinition definition.cursor {} =
          .ok (some (definition.cursorAt 15)) calling ∧
        eventsAfter? (inner.phrase .paragraph call.cursor calling) =
            some [.opening "underline" [], .text "x", .closing "underline"] ∧
          eventsAfter?
              (callEnd calling.state (call.position 0) "template '_x'" ()
                (inner.expansion body false
                  { calling with state := calling.state.deepen })) =
            some [.text "y"] := by
  intro environment inner definition call body template calling
  have isNamed : definition.cursor.templateHead? = some ("_x", definition.cursorAt 12) := by
    decide +kernel
  have noParams : (definition.cursorAt 12).templateParams = ([], definition.cursorAt 12) := by
    decide +kernel
  have isBody :
      (definition.cursorAt 12).balancedThrough? = some (" y", definition.cursorAt 15) := by
    decide +kernel
  refine ⟨by decide, ?_, by decide +kernel, by decide +kernel⟩
  unfold Block.templateDefinition
  simp only [isNamed, noParams, isBody]
  rfl

end DocMarkup
