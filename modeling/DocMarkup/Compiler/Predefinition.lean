import DocMarkup.Compiler.Workspace

namespace DocMarkup

/-!
# Predefined macros

Macros may be defined before a document is read, by a name alone or by a name,
an equals sign and a body.
-/

/-- The name that positions in predefinitions refer to. -/
def predefinitionSource : String :=
  "command line parameter"

/-- Read the whole of a predefinition: the name and the body of a macro. -/
def Cursor.predefinition? (cursor : Cursor) : Option (String × String) :=
  match cursor.skipHorizontal.name? with
  | none => none
  | some (name, afterName) =>
      match afterName.skipHorizontal.rest with
      | [] => some (name, "")
      | '=' :: body => some (name, String.ofList body)
      | _ => none

namespace CompilerState

/-- Define a macro from a predefinition, if it is one. -/
def predefine? (state : CompilerState) (cursor : Cursor) : Option CompilerState :=
  cursor.predefinition?.map fun (name, body) =>
    state.defineMacro cursor.position name body

/-- Define a macro from a predefinition; it is an error if it is none. -/
def predefine (state : CompilerState) (definition : String) : CompilerState :=
  let source : Source := { text := definition, name := predefinitionSource }
  match state.predefine? source.cursor with
  | some defined => defined
  | none =>
      state.reportError .markup (some (source.position 0))
        ("Invalid macro definition '" ++ definition ++ "'")

/-- Define macros from predefinitions, in order. -/
def predefineAll (state : CompilerState) (definitions : List String) : CompilerState :=
  definitions.foldl predefine state

end CompilerState

end DocMarkup
