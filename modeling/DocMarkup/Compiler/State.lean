import DocMarkup.Diagnostic
import DocMarkup.MacroTable
import DocMarkup.Path
import DocMarkup.TemplateTable

namespace DocMarkup

/-!
# The state of a compilation

One state serves a document and all the files that it includes. A checkpoint
records how far the growing parts of the state have come and what the small
parts are, so that an abandoned attempt can be taken back. Depths, the include
stack and the identifier scope are not recorded: whoever raises them lowers them
again.
-/

/-- The number of files that may be included within one another. -/
def includeLimit : Nat :=
  32

/-- The number of macros and templates that may be expanded within one another. -/
def expansionLimit : Nat :=
  50

/-- The number of brackets of phrase markup that may be nested. -/
def phraseLimit : Int :=
  100

/--
Everything that a compilation knows. Sections opened since the document
identifier was set are those above the identifier scope. A pending paragraph has
begun but has no output yet. Open sections and files are given innermost first.
Identifiers in use are kept in the order in which they were reserved, and once
more in a table in which they are looked up.
-/
structure CompilerState where
  events : Array Event := #[]
  diagnostics : Array Diagnostic := #[]
  errorCount : Nat := 0
  warningCount : Nat := 0
  sectionLevel : Nat := 0
  sectionIds : List String := []
  blockNesting : Int := 0
  macros : MacroTable := {}
  templates : TemplateTable := {}
  includeStack : List Path := []
  expansionDepth : Nat := 0
  phraseDepth : Int := 0
  idScope : Nat := 0
  docId : Option String := none
  pendingParagraph : Bool := false
  usedIds : Array String := #[]
  takenIds : NameTable Unit := {}
deriving DecidableEq, Repr

/-- What a rollback needs to know of an earlier state. -/
structure Checkpoint where
  events : Nat
  diagnostics : Nat
  errorCount : Nat
  warningCount : Nat
  sectionLevel : Nat
  sectionIds : List String
  blockNesting : Int
  macros : Nat
  templates : Nat
  usedIds : Nat
  pendingParagraph : Bool
  docId : Option String
deriving DecidableEq, Repr

namespace CompilerState

/-- Record how far the state has come. -/
def checkpoint (state : CompilerState) : Checkpoint :=
  { events := state.events.size
    diagnostics := state.diagnostics.size
    errorCount := state.errorCount
    warningCount := state.warningCount
    sectionLevel := state.sectionLevel
    sectionIds := state.sectionIds
    blockNesting := state.blockNesting
    macros := state.macros.checkpoint
    templates := state.templates.checkpoint
    usedIds := state.usedIds.size
    pendingParagraph := state.pendingParagraph
    docId := state.docId }

/-- Take identifiers out of the table, the last one first. -/
def releaseIds (taken : NameTable Unit) (released : List String) : NameTable Unit :=
  released.foldr (fun identifier left => left.erase identifier) taken

/-- Undo everything that a checkpoint covers and that happened since it was taken. -/
def rollback (state : CompilerState) (checkpoint : Checkpoint) : CompilerState :=
  { state with
    events := state.events.shrink checkpoint.events
    diagnostics := state.diagnostics.shrink checkpoint.diagnostics
    errorCount := checkpoint.errorCount
    warningCount := checkpoint.warningCount
    sectionLevel := checkpoint.sectionLevel
    sectionIds := checkpoint.sectionIds
    blockNesting := checkpoint.blockNesting
    macros := state.macros.rollback checkpoint.macros
    templates := state.templates.rollback checkpoint.templates
    usedIds := state.usedIds.shrink checkpoint.usedIds
    takenIds := releaseIds state.takenIds (state.usedIds.toList.drop checkpoint.usedIds)
    pendingParagraph := checkpoint.pendingParagraph
    docId := checkpoint.docId }

/-- A candidate identifier itself, or with a number behind it. -/
def numberedId (candidate : String) (number : Nat) : String :=
  if number = 0 then candidate else candidate ++ "_" ++ toString number

/--
The candidate if it is free, and else the candidate with the least number that
makes it free. One of the first numbers is free, as there are more of them than
identifiers in use.
-/
def freeId (taken : NameTable Unit) (candidate : String) : String :=
  let numbers := List.range (taken.size + 1)
  match numbers.find? fun number => !taken.contains (numberedId candidate number) with
  | some number => numberedId candidate number
  | none => candidate

/-- Reserve an identifier made from a candidate. -/
def reserveId (state : CompilerState) (candidate : String) : String × CompilerState :=
  let identifier := freeId state.takenIds candidate
  (identifier,
    { state with
      usedIds := state.usedIds.push identifier
      takenIds := state.takenIds.insert identifier () })

end CompilerState

end DocMarkup
