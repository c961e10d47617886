import DocMarkup.Proofs.Grammar.Parser

namespace DocMarkup

open CompilerState

/-!
# Expansions that fail

A call of a macro or of a template fails if it would be nested too deeply, if it has the
wrong number of arguments, or if an argument or the body is not read to its end. It then
reports this, and whatever was read before it failed leaves nothing but errors: neither
output nor definitions, sections, identifiers or depths.
-/

/-- What a call of a macro or of a template reports itself when it fails. -/
inductive ExpansionFailure where
  | nestedTooDeeply (what : String)
  | argumentCount (template : String)
  | unreadArgument (index : Nat) (template : String)
  | unread (what : String)
deriving DecidableEq, Repr

/-- The wording of a failure. -/
def ExpansionFailure.message : ExpansionFailure → String
  | .nestedTooDeeply what => "Infinite loop detected expanding " ++ what
  | .argumentCount template =>
      "Invalid number of arguments passed to template '" ++ template ++ "'"
  | .unreadArgument index template =>
      "Expanding argument " ++ toString index ++ " of template '" ++ template ++ "' failed"
  | .unread what => "Expanding " ++ what ++ " failed"

namespace Compile

/-! ## Calls that tell how they fail -/

/-- Read the text of an expansion, and tell if it is not read to its end. -/
def expandTelling
    (inner : Inner)
    (source : Source)
    (block : Bool)
    (position : Position)
    (what : String) :
    Compile (Option ExpansionFailure) := do
  let checkpoint := (← state).checkpoint
  update fun state => { state with expansionDepth := state.expansionDepth + 1 }
  let succeeded ←
    thenAlways (inner.expansion source block)
      fun state => { state with expansionDepth := state.expansionDepth - 1 }
  if succeeded then
    return none
  else
    let failure := ExpansionFailure.unread what
    update fun state => (state.rollback checkpoint).error position failure.message
    return some failure

/-- Expand the name of a macro, and tell if that fails. -/
def expandMacroTelling
    (inner : Inner)
    (position : Position)
    (name : String) :
    Compile (Option ExpansionFailure) := do
  match (← state).macros.find? name with
  | none =>
      update fun state => state.text name
      return none
  | some body =>
      let what := "macro '" ++ name ++ "'"
      if ← mayExpand position what then
        let source : Source :=
          { text := body, name := position.file ++ " (macro " ++ name ++ ")" }
        expandTelling inner source false position what
      else
        return some (.nestedTooDeeply what)

/-- The scope of the arguments, or the argument that cannot be read. -/
def bindArgumentsTelling
    (inner : Inner)
    (position : Position)
    (template : Template)
    (index : Nat)
    (bindings : NameTable Template) :
    List (String × String) →
    Compile (Except ExpansionFailure (NameTable Template))
  | [] => return .ok bindings
  | (param, argument) :: rest => do
      let source : Source :=
        { text := argument
          name :=
            position.file ++ " (argument " ++ toString index ++ " of " ++ template.name ++ ")" }
      match ← captureArgument inner source with
      | none =>
          let failure := ExpansionFailure.unreadArgument index template.name
          update fun state => state.error position failure.message
          return .error failure
      | some events =>
          let bound : Template := { name := param, body := argument, events := some events }
          bindArgumentsTelling inner position template (index + 1) (bindings.insert param bound) rest

/-- Read the body of a template, and tell if it is not read to its end. -/
def expandBodyTelling
    (inner : Inner)
    (position : Position)
    (template : Template)
    (blockContext : Bool)
    (bindings : NameTable Template) :
    Compile (Option ExpansionFailure) := do
  let block := template.block && blockContext
  let source : Source :=
    { text := if block then template.body else Text.trimmed template.body
      name := position.file ++ " (template " ++ template.name ++ ")" }
  update fun state => { state with templates := state.templates.pushScope bindings }
  thenAlways
    (expandTelling inner source block position ("template '" ++ template.name ++ "'"))
    fun state => { state with templates := state.templates.popScope?.getD state.templates }

/-- Call a template, and tell if that fails. -/
def invokeTemplateTelling
    (inner : Inner)
    (position : Position)
    (template : Template)
    (rawArguments : String)
    (blockContext : Bool) :
    Compile (Option ExpansionFailure) := do
  match template.events with
  | some events =>
      update fun state => state.replay events
      return none
  | none =>
      match splitArguments? rawArguments template.params.length with
      | none =>
          let failure := ExpansionFailure.argumentCount template.name
          update fun state => state.error position failure.message
          return some failure
      | some arguments =>
          let what := "template '" ++ template.name ++ "'"
          if ← mayExpand position what then
            match ← bindArgumentsTelling inner position template 1 {}
                (template.params.zip arguments) with
            | .error failure => return some failure
            | .ok bindings => expandBodyTelling inner position template blockContext bindings
          else
            return some (.nestedTooDeeply what)

/-! ## They do what the calls do -/

section Silently

variable {inner : Inner} {position : Position}

/-- A computation of which the value is not looked at. -/
def silently (computation : Compile α) : Compile Unit := do
  let _ ← computation
  return ()

/-- What is done in any case is done whether or not the value is looked at. -/
theorem thenAlways_silently
    (computation : Compile α)
    (change : CompilerState → CompilerState) :
    thenAlways (silently computation) change = silently (thenAlways computation change) := by
  funext workspace
  show thenAlways (EStateM.bind computation _) change workspace =
    EStateM.bind (thenAlways computation change) _ workspace
  simp only [thenAlways, EStateM.bind]
  cases computation workspace <;> rfl

/-- An expansion is one that does not tell how it fails. -/
theorem expand_eq (source : Source) (block : Bool) (what : String) :
    expand inner source block position what =
      silently (expandTelling inner source block position what) := by
  simp only [expand, expandTelling, silently, bind_assoc]
  refine bind_congr fun before => ?_
  refine bind_congr fun _ => ?_
  refine bind_congr fun succeeded => ?_
  cases succeeded <;> rfl

/-- So is the expansion of a macro. -/
theorem expandMacro_eq (name : String) :
    expandMacro inner position name = silently (expandMacroTelling inner position name) := by
  simp only [expandMacro, expandMacroTelling, silently, bind_assoc]
  refine bind_congr fun before => ?_
  cases before.macros.find? name with
  | none => rfl
  | some body =>
      simp only [bind_assoc]
      refine bind_congr fun may => ?_
      cases may with
      | false => rfl
      | true => exact expand_eq ..

/-- So is the binding of arguments, which only gives no scope. -/
theorem bindArguments_eq
    (template : Template)
    (index : Nat)
    (bindings : NameTable Template)
    (arguments : List (String × String)) :
    bindArguments inner position template index bindings arguments =
      Except.toOption <$>
        bindArgumentsTelling inner position template index bindings arguments := by
  induction arguments generalizing index bindings with
  | nil => rfl
  | cons first rest inductionHypothesis =>
      simp only [bindArguments, bindArgumentsTelling, map_bind]
      refine bind_congr fun captured => ?_
      cases captured with
      | none => rfl
      | some events => exact inductionHypothesis ..

/-- So is reading the body. -/
theorem expandBody_eq (template : Template) (blockContext : Bool) (bindings : NameTable Template) :
    expandBody inner position template blockContext bindings =
      silently (expandBodyTelling inner position template blockContext bindings) := by
  simp only [expandBody, expandBodyTelling, expand_eq, thenAlways_silently]
  simp only [silently, bind_assoc]

/-- So is the call of a template. -/
theorem invokeTemplate_eq (template : Template) (rawArguments : String) (blockContext : Bool) :
    invokeTemplate inner position template rawArguments blockContext =
      silently (invokeTemplateTelling inner position template rawArguments blockContext) := by
  unfold invokeTemplate invokeTemplateTelling
  cases template.events with
  | some events => rfl
  | none =>
      cases splitArguments? rawArguments template.params.length with
      | none => rfl
      | some arguments =>
          simp only [silently, bind_assoc]
          refine bind_congr fun may => ?_
          cases may with
          | false => rfl
          | true =>
              simp only [↓reduceIte, bindArguments_eq, bind_map_left, bind_assoc]
              refine bind_congr fun bound => ?_
              cases bound with
              | error failure => rfl
              | ok scope => exact expandBody_eq ..

end Silently

/-! ## What they leave -/

/-- A call that fails has added nothing but errors, and the last of them tells how it failed. -/
def LeavesErrors
    (position : Position)
    (before : CompilerState) :
    Option ExpansionFailure →
    CompilerState →
    Prop
  | none, _ => True
  | some failure, after =>
      ∃ middle, before.AddsErrors middle ∧ after = middle.error position failure.message

/-- What leaves errors after errors leaves errors. -/
theorem LeavesErrors.after_errors
    {position : Position}
    {earlier before after : CompilerState}
    {failure : Option ExpansionFailure}
    (adds : earlier.AddsErrors before)
    (leaves : LeavesErrors position before failure after) :
    LeavesErrors position earlier failure after := by
  cases failure with
  | none => trivial
  | some failure =>
      obtain ⟨middle, addsLater, isAfter⟩ := leaves
      exact ⟨middle, adds.trans addsLater, isAfter⟩

section Leaving

variable {environment : Environment} {steps : Nat} {before : CompilerState}

/-- Whatever is read in an expansion can be taken back. -/
theorem expansion_precedes (source : Source) (block : Bool) :
    Ends before ((Inner.within environment steps).expansion source block)
      ((Inner.within environment steps).expansion source block)
      (Expected environment.files False False)
      fun _ after => before.Precedes after := by
  cases block with
  | false =>
      exact (expansion_ends Inner.within_sound_longestText source
        (ready_longestText (Nat.le_refl _))).imp (fun _ => id) fun _ _ effect => effect.precedes
  | true =>
      exact (expansion_block_ends Inner.within_sound_longestText source
        (ready_longestText (Nat.le_refl _)) False.elim).imp (fun _ => id)
        fun _ _ effect => effect.precedes

/-- What is read one level deeper can be taken back at the level above it. -/
theorem precedes_surface
    {after : CompilerState}
    (precedes : before.deepen.Precedes after) :
    before.Precedes after.surface :=
  { precedes with
    expansionDepth := by simp [surface, precedes.expansionDepth, deepen] }

/-- A text that is not read to its end leaves the error that tells so. -/
theorem expandTelling_ends
    (source : Source)
    (block : Bool)
    (position : Position)
    (what : String) :
    Ends before (expandTelling (Inner.within environment steps) source block position what)
      (expandTelling (Inner.within environment steps) source block position what)
      (Expected environment.files False False)
      (LeavesErrors position before) := by
  have surfaces :
      Ends before.deepen
        (thenAlways ((Inner.within environment steps).expansion source block) surface)
        (thenAlways ((Inner.within environment steps).expansion source block) surface)
        (Expected environment.files False False)
        fun _ after => before.Precedes after :=
    .thenAlways ((expansion_precedes source block).imp (fun _ => id)
      fun _ _ precedes => precedes_surface precedes)
  unfold expandTelling
  apply Ends.state
  apply Ends.updateThen
  refine surfaces.bind ?_
  rintro (_ | _) middle precedes
  · refine .updateThen (.pure ⟨before, .refl before, ?_⟩)
    rw [precedes.rollback]
  · exact .pure trivial

/-- Too deep a nesting leaves the error that tells so. -/
theorem mayExpand_leaves (position : Position) (what : String) :
    Ends before (mayExpand position what) (mayExpand position what)
      (Expected environment.files False False)
      fun may after =>
        if may then
          after = before
        else
          LeavesErrors position before (some (.nestedTooDeeply what)) after := by
  unfold mayExpand
  apply Ends.state
  split
  · exact .pure rfl
  · exact .updateThen (.pure ⟨before, .refl before, rfl⟩)

/-- A macro that cannot be expanded leaves errors. -/
theorem expandMacroTelling_ends (position : Position) (name : String) :
    Ends before (expandMacroTelling (Inner.within environment steps) position name)
      (expandMacroTelling (Inner.within environment steps) position name)
      (Expected environment.files False False)
      (LeavesErrors position before) := by
  unfold expandMacroTelling
  apply Ends.state
  cases before.macros.find? name with
  | none => exact .updateThen (.pure trivial)
  | some body =>
      refine (mayExpand_leaves position _).bind ?_
      rintro (_ | _) middle may
      · exact .pure may
      · obtain rfl : middle = before := may
        exact expandTelling_ends _ _ position _

/-- Arguments leave errors, whether or not all of them can be read. -/
theorem bindArgumentsTelling_ends
    (position : Position)
    (template : Template)
    (index : Nat)
    (bindings : NameTable Template)
    (arguments : List (String × String)) :
    Ends before
      (bindArgumentsTelling (Inner.within environment steps) position template index bindings
        arguments)
      (bindArgumentsTelling (Inner.within environment steps) position template index bindings
        arguments)
      (Expected environment.files False False)
      fun bound after =>
        match bound with
        | .ok _ => before.AddsErrors after
        | .error failure => LeavesErrors position before (some failure) after := by
  induction arguments generalizing before index bindings with
  | nil => exact .pure (.refl before)
  | cons first rest inductionHypothesis =>
      unfold bindArgumentsTelling
      refine (captureArgument_ends Inner.within_sound_longestText _
        (ready_longestText (Nat.le_refl _))).bind ?_
      rintro (_ | events) middle ⟨adds, _⟩
      · exact .updateThen (.pure ⟨middle, adds, rfl⟩)
      · refine (inductionHypothesis _ _).imp (fun _ => id) ?_
        rintro (failure | scope) after leaves
        · exact leaves.after_errors adds
        · exact adds.trans leaves

/-- A body that is not read to its end leaves errors. -/
theorem expandBodyTelling_ends
    (position : Position)
    (template : Template)
    (blockContext : Bool)
    (bindings : NameTable Template) :
    Ends before
      (expandBodyTelling (Inner.within environment steps) position template blockContext bindings)
      (expandBodyTelling (Inner.within environment steps) position template blockContext bindings)
      (Expected environment.files False False)
      (LeavesErrors position before) := by
  unfold expandBodyTelling
  apply Ends.updateThen
  refine .thenAlways ((expandTelling_ends _ _ position _).imp (fun _ => id) ?_)
  rintro (_ | failure) after leaves
  · trivial
  · obtain ⟨_, ⟨errors, areErrors, rfl⟩, rfl⟩ := leaves
    refine ⟨_, ⟨errors, areErrors, rfl⟩, ?_⟩
    rw [TemplateTable.popScope?_getD]
    rfl

/-- A template that cannot be expanded leaves errors. -/
theorem invokeTemplateTelling_ends
    (position : Position)
    (template : Template)
    (rawArguments : String)
    (blockContext : Bool) :
    Ends before
      (invokeTemplateTelling (Inner.within environment steps) position template rawArguments
        blockContext)
      (invokeTemplateTelling (Inner.within environment steps) position template rawArguments
        blockContext)
      (Expected environment.files False False)
      (LeavesErrors position before) := by
  unfold invokeTemplateTelling
  cases template.events with
  | some events => exact .updateThen (.pure trivial)
  | none =>
      cases splitArguments? rawArguments template.params.length with
      | none => exact .updateThen (.pure ⟨before, .refl before, rfl⟩)
      | some arguments =>
          refine (mayExpand_leaves position _).bind ?_
          rintro (_ | _) middle may
          · exact .pure may
          · obtain rfl : middle = before := may
            refine (bindArgumentsTelling_ends position template 1 {} _).bind ?_
            rintro (failure | scope) afterArguments leaves
            · exact .pure leaves
            · exact (expandBodyTelling_ends position template blockContext scope).imp (fun _ => id)
                fun _ _ later => later.after_errors leaves

end Leaving

/-- A call of a macro, or one of a template with the text of its arguments, for blocks or not. -/
inductive ExpansionCall where
  | ofMacro (name : String)
  | ofTemplate (template : Template) (rawArguments : String) (blockContext : Bool)
deriving DecidableEq, Repr

/-- Make a call. -/
def ExpansionCall.run (inner : Inner) (position : Position) : ExpansionCall → Compile Unit
  | .ofMacro name => expandMacro inner position name
  | .ofTemplate template rawArguments blockContext =>
      invokeTemplate inner position template rawArguments blockContext

/-- Make a call, and tell if it fails. -/
def ExpansionCall.runTelling
    (inner : Inner)
    (position : Position) :
    ExpansionCall →
    Compile (Option ExpansionFailure)
  | .ofMacro name => expandMacroTelling inner position name
  | .ofTemplate template rawArguments blockContext =>
      invokeTemplateTelling inner position template rawArguments blockContext

/--
A call that reports a failure of its own leaves the state as it was, but for errors. The
diagnostics from before are still in front, and the failure comes last.
-/
theorem failed_expansion_leaves_only_errors
    (environment : Environment)
    (steps : Nat)
    (position : Position)
    (call : ExpansionCall) :
    let inner := Inner.within environment steps
    call.run inner position = silently (call.runTelling inner position) ∧
      ∀ workspace failure after,
        call.runTelling inner position workspace = .ok (some failure) after →
          ∃ errors,
            (∀ error ∈ errors, error.severity = .error) ∧
              after.state =
                (workspace.state.withErrors errors).error position failure.message := by
  intro inner
  have leaves (before : CompilerState) :
      Ends before (call.runTelling inner position) (call.runTelling inner position)
        (Expected environment.files False False) (LeavesErrors position before) := by
    cases call with
    | ofMacro name => exact expandMacroTelling_ends position name
    | ofTemplate template rawArguments blockContext =>
        exact invokeTemplateTelling_ends position template rawArguments blockContext
  refine ⟨?_, ?_⟩
  · cases call with
    | ofMacro name => exact expandMacro_eq name
    | ofTemplate template rawArguments blockContext =>
        exact invokeTemplate_eq template rawArguments blockContext
  · intro workspace failure after failed
    obtain ⟨_, ⟨errors, areErrors, rfl⟩, isAfter⟩ := (leaves workspace.state).of_ok rfl failed
    exact ⟨errors, areErrors, isAfter⟩

/--
The body of a block template opens a section, defines a macro and then is not read to its
end. What was reported about its argument stays, and the failure is reported behind it.
-/
theorem failed_expansion_leaves_only_errors_of_argument :
    let environment : Environment :=
      { files := ⟨[], [], []⟩, encoding := .html, moment := .fixed }
    let position : Position := { file := "note", offset := 7, line := 1, column := 8 }
    let template : Template :=
      { name := "t"
        params := ["p"]
        body := "\n[section [p]]\n[def X y]\n[no]\n]\n"
        block := true }
    let call := ExpansionCall.ofTemplate template "[no]" true
    let state : CompilerState := { events := #[.text "a"], usedIds := #["s"] }
    let failure := ExpansionFailure.unread "template 't'"
    ∃ after,
      call.runTelling (Inner.within environment 20) position { state := state } =
          .ok (some failure) after ∧
        ∃ errors,
          (∀ error ∈ errors, error.severity = .error) ∧
            after.state = (state.withErrors errors).error position failure.message := by
  intro environment position template call state failure
  have told :
      (match call.runTelling (Inner.within environment 20) position { state := state } with
        | .ok told _ => told
        | .error _ _ => none) =
        some failure := by
    decide +kernel
  split at told
  next value after failed =>
    subst told
    exact ⟨after, failed,
      (failed_expansion_leaves_only_errors environment 20 position call).2 _ failure after failed⟩
  next => cases told

end Compile

end DocMarkup
