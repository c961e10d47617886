import DocMarkup.Compiler.Report

namespace DocMarkup.CompilerState

/-!
# Definitions

Macros and templates may be defined anew, with a warning. A template that hides
one of an outer scope redefines nothing.
-/

/-- Define a macro. -/
def defineMacro (state : CompilerState) (position : Position) (name body : String) : CompilerState :=
  let defined := { state with macros := state.macros.define name body }
  if state.macros.contains name then
    defined.warning position ("Macro '" ++ name ++ "' redefined")
  else
    defined

/-- Define a template in the innermost scope. -/
def defineTemplate
    (state : CompilerState)
    (position : Position)
    (template : Template) :
    CompilerState :=
  let defined := { state with templates := state.templates.define template }
  if (state.templates.replaced? template.name).isSome && state.templates.depth == 1 then
    defined.warning position ("Template '" ++ template.name ++ "' redefined")
  else
    defined

/-- Report a call of something that is not defined, and leave its text in place. -/
def undefinedName (state : CompilerState) (position : Position) (name : String) : CompilerState :=
  state.error position ("Undefined template or macro '" ++ name ++ "'")

end DocMarkup.CompilerState
