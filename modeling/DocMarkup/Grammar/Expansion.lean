import DocMarkup.Grammar.Inner
import DocMarkup.Template.Arguments

namespace DocMarkup

/-!
# Expansions

The body of a macro or of a template is read in place of its name. Arguments are
read first, where the call stands, and the parameters then stand for their
output. An expansion that cannot be read to its end is an error and leaves no
other trace.
-/

namespace Compile

/-- Read the text of an expansion one level deeper; a text not read to its end is an error. -/
def expand
    (inner : Inner)
    (source : Source)
    (block : Bool)
    (position : Position)
    (what : String) :
    Compile Unit := do
  let checkpoint := (← state).checkpoint
  update fun state => { state with expansionDepth := state.expansionDepth + 1 }
  let succeeded ←
    thenAlways (inner.expansion source block)
      fun state => { state with expansionDepth := state.expansionDepth - 1 }
  if succeeded then
    return ()
  else
    update fun state =>
      (state.rollback checkpoint).error position ("Expanding " ++ what ++ " failed")

/-- Expand the name of a macro; any other name is text. -/
def expandMacro (inner : Inner) (position : Position) (name : String) : Compile Unit := do
  match (← state).macros.find? name with
  | none => update fun state => state.text name
  | some body =>
      let what := "macro '" ++ name ++ "'"
      if ← mayExpand position what then
        let source : Source :=
          { text := body, name := position.file ++ " (macro " ++ name ++ ")" }
        expand inner source false position what
      else
        return ()

/-- The output of an argument, which is taken out of the document again. -/
def captureArgument (inner : Inner) (source : Source) : Compile (Option (List Event)) := do
  let before ← state
  update fun state => { state with pendingParagraph := false }
  if ← inner.expansion source then
    let events := (← state).events.toList.drop before.events.size
    update fun state =>
      { state with
        events := state.events.shrink before.events.size
        pendingParagraph := before.pendingParagraph }
    return some events
  else
    update fun state => state.rollback before.checkpoint
    return none

/--
The scope in which parameters stand for the output of arguments. An argument
that cannot be read is an error, and there is no scope then.
-/
def bindArguments
    (inner : Inner)
    (position : Position)
    (template : Template)
    (index : Nat)
    (bindings : NameTable Template) :
    List (String × String) →
    Compile (Option (NameTable Template))
  | [] => return some bindings
  | (param, argument) :: rest => do
      let source : Source :=
        { text := argument
          name :=
            position.file ++ " (argument " ++ toString index ++ " of " ++ template.name ++ ")" }
      match ← captureArgument inner source with
      | none =>
          update fun state =>
            state.error position
              ("Expanding argument " ++ toString index ++ " of template '" ++ template.name ++
                "' failed")
          return none
      | some events =>
          let bound : Template := { name := param, body := argument, events := some events }
          bindArguments inner position template (index + 1) (bindings.insert param bound) rest

/-- Read the body of a template in a scope of its own. -/
def expandBody
    (inner : Inner)
    (position : Position)
    (template : Template)
    (blockContext : Bool)
    (bindings : NameTable Template) :
    Compile Unit := do
  let block := template.block && blockContext
  let source : Source :=
    { text := if block then template.body else Text.trimmed template.body
      name := position.file ++ " (template " ++ template.name ++ ")" }
  update fun state => { state with templates := state.templates.pushScope bindings }
  thenAlways
    (expand inner source block position ("template '" ++ template.name ++ "'"))
    fun state => { state with templates := state.templates.popScope?.getD state.templates }

/--
Call a template with the text of its arguments. A block template expands to
blocks if its call stands in the place of a block.
-/
def invokeTemplate
    (inner : Inner)
    (position : Position)
    (template : Template)
    (rawArguments : String)
    (blockContext : Bool := false) :
    Compile Unit := do
  match template.events with
  | some events => update fun state => state.replay events
  | none =>
      match splitArguments? rawArguments template.params.length with
      | none =>
          update fun state =>
            state.error position
              ("Invalid number of arguments passed to template '" ++ template.name ++ "'")
      | some arguments =>
          if ← mayExpand position ("template '" ++ template.name ++ "'") then
            match ← bindArguments inner position template 1 {}
                (template.params.zip arguments) with
            | none => return ()
            | some bindings => expandBody inner position template blockContext bindings
          else
            return ()

/-- Report a call of something that is not defined, and keep its text. -/
def keepUndefined (position : Position) (name rawText : String) : Compile Unit :=
  update fun state => (state.undefinedName position name).text rawText

end Compile

end DocMarkup
