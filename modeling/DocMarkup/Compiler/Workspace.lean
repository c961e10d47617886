import DocMarkup.Compiler.Definition
import DocMarkup.Compiler.Structure
import DocMarkup.Cursor
import DocMarkup.Encoding
import DocMarkup.Moment

namespace DocMarkup

/-!
# Compiling with a workspace

Rules read a cursor and change a workspace: the state of the compilation, the
places at which a bracket is known to be never closed, and the paths that were
asked for. A rule that does not apply gives no cursor, and an attempt at it then
takes the state back. A fault ends everything, and keeps the workspace as it was
when the fault arose.
-/

/-- What ends a compilation at once. -/
inductive Fault where
  | path (fault : PathFault)
  | documentScope
  | noOpenSection
  | nestedTooDeeply
deriving DecidableEq, Repr

/-- The wording of a fault. -/
def Fault.message : Fault → String
  | .path fault => fault.message
  | .documentScope => "cannot pop the document template scope"
  | .noOpenSection => "pop from empty list"
  | .nestedTooDeeply => "Markup nested too deeply to compile"

/-- The invariable conditions of a compilation. -/
structure Environment where
  files : FileTree
  includePaths : List String := []
  encoding : Encoding
  moment : Moment

/-- A place in a text, whatever source the text belongs to. -/
structure TextPlace where
  offset : Nat
  text : String
deriving DecidableEq, Repr

/-- The place of a cursor in its text. -/
def Cursor.textPlace (cursor : Cursor) : TextPlace :=
  { offset := cursor.offset, text := cursor.source.text }

/-- What rules may change. -/
structure Workspace where
  state : CompilerState := {}
  unclosed : List TextPlace := []
  consulted : List Path := []

/-- A computation on a workspace that may end in a fault. -/
abbrev Compile :=
  EStateM Fault Workspace

/-- A rule reads from a cursor on, and gives the cursor after what it read if it applies. -/
abbrev Rule :=
  Cursor → Compile (Option Cursor)

namespace Compile

/-- The state of the compilation. -/
def state : Compile CompilerState := do
  return (← get).state

/-- Change the state of the compilation. -/
def update (change : CompilerState → CompilerState) : Compile Unit :=
  modify fun workspace => { workspace with state := change workspace.state }

/-- Run a computation, and change the state after it also if it ends in a fault. -/
def thenAlways
    (computation : Compile α)
    (change : CompilerState → CompilerState) :
    Compile α :=
  fun workspace =>
    match computation workspace with
    | .ok value after => .ok value { after with state := change after.state }
    | .error fault after => .error fault { after with state := change after.state }

/-- Run a computation without the places remembered so far, and restore them after it. -/
def withFreshMemory (computation : Compile α) : Compile α :=
  fun workspace =>
    match computation { workspace with unclosed := [] } with
    | .ok value after => .ok value { after with unclosed := workspace.unclosed }
    | .error fault after => .error fault { after with unclosed := workspace.unclosed }

/-- Try a rule; if it does not apply, the state is as it was. -/
def attempt (rule : Rule) : Rule := fun cursor => do
  let checkpoint := (← state).checkpoint
  match ← rule cursor with
  | some next => return some next
  | none =>
      update fun abandoned => abandoned.rollback checkpoint
      return none

/-- Try rules in order until one applies. -/
def firstOf : List Rule → Rule
  | [], _ => return none
  | rule :: others, cursor => do
      match ← attempt rule cursor with
      | some next => return some next
      | none => firstOf others cursor

/-- Whether it is known that no bracket closes the current one from a cursor on. -/
def isKnownUnclosed (cursor : Cursor) : Compile Bool := do
  return (← get).unclosed.contains cursor.textPlace

/-- Remember that no bracket closes the current one from a cursor on. -/
def rememberUnclosed (cursor : Cursor) : Compile Unit :=
  modify fun workspace =>
    { workspace with unclosed := cursor.textPlace :: workspace.unclosed }

/-- Note paths that were asked for. -/
def consult (paths : List Path) : Compile Unit :=
  modify fun workspace => { workspace with consulted := paths ++ workspace.consulted }

/-- A value, or the fault in the path that should have given it. -/
def ofPath : Except PathFault α → Compile α
  | .ok value => pure value
  | .error fault => throw (.path fault)

/-- Close the innermost section, of which there must be one. -/
def closeSection (position : Position) : Compile Unit := do
  let before ← state
  if before.sectionLevel = 0 then
    update fun state => state.warning position "Mismatched [endsect]"
  else
    update fun state => { state with sectionLevel := state.sectionLevel - 1 }
    match before.sectionIds with
    | [] => throw .noOpenSection
    | _ :: outer =>
        update fun state => { state with sectionIds := outer }.endElement "section"

/-- Enter a bracket of phrase markup, unless too many are open already, which is an error. -/
def enterPhrase (cursor : Cursor) : Compile Bool := do
  if (← state).phraseDepth < phraseLimit then
    update fun state => { state with phraseDepth := state.phraseDepth + 1 }
    return true
  else
    update fun state => state.error cursor.position "Phrase markup nested too deeply"
    return false

/-- Leave a bracket of phrase markup. -/
def leavePhrase (state : CompilerState) : CompilerState :=
  { state with phraseDepth := state.phraseDepth - 1 }

/-- Report that too many expansions are nested, if they are. -/
def mayExpand (position : Position) (what : String) : Compile Bool := do
  if (← state).expansionDepth < expansionLimit then
    return true
  else
    update fun state => state.error position ("Infinite loop detected expanding " ++ what)
    return false

end Compile

end DocMarkup
