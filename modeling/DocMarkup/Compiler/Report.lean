import DocMarkup.Compiler.State
import DocMarkup.FileTree

namespace DocMarkup.CompilerState

/-!
# Reporting

Errors and warnings are counted as they are recorded. Only errors decide the
outcome of a compilation.
-/

/-- Record a diagnostic, without counting it. -/
def diagnose
    (state : CompilerState)
    (severity : Severity)
    (kind : DiagnosticKind)
    (position : Option Position)
    (message : String) :
    CompilerState :=
  let file :=
    match position with
    | some place => place.file
    | none => ""
  { state with
    diagnostics :=
      state.diagnostics.push
        { severity := severity
          kind := kind
          message := message
          file := file
          position := position } }

/-- Count and record an error of a kind. -/
def reportError
    (state : CompilerState)
    (kind : DiagnosticKind)
    (position : Option Position)
    (message : String) :
    CompilerState :=
  { state with errorCount := state.errorCount + 1 }.diagnose .error kind position message

/-- Count and record a warning of a kind. -/
def reportWarning
    (state : CompilerState)
    (kind : DiagnosticKind)
    (position : Option Position)
    (message : String) :
    CompilerState :=
  { state with warningCount := state.warningCount + 1 }.diagnose .warning kind position message

/-- Count and record an inconsistency of a document. -/
def error (state : CompilerState) (position : Position) (message : String) : CompilerState :=
  state.reportError .structural (some position) message

/-- Count and record a doubtful passage of a document. -/
def warning (state : CompilerState) (position : Position) (message : String) : CompilerState :=
  state.reportWarning .structural (some position) message

/-- Report a file that could not be loaded, where it was named or at its own front. -/
def loadFailed
    (state : CompilerState)
    (fault : LoadFault)
    (origin : Option Position) :
    CompilerState :=
  let front : Position := { file := fault.path, offset := 0, line := 1, column := 1 }
  state.reportError .load (some (origin.getD front)) fault.message

/-- Report a block of document information that cannot be read. -/
def docInfoError (state : CompilerState) (position : Position) : CompilerState :=
  state.reportError .metadata (some position)
    ("Doc Info error near column " ++ toString position.column ++ ".")

/-- Report markup that cannot be read. -/
def markupError (state : CompilerState) (position : Position) : CompilerState :=
  state.reportError .markup (some position)
    ("Syntax error near column " ++ toString position.column ++ ".")

/-- Warn about sections that are still open at the end of a document. -/
def endOfUnit (state : CompilerState) (position : Position) : CompilerState :=
  if state.sectionLevel = 0 then
    state
  else
    state.warning position (toString state.sectionLevel ++ " missing [endsect]")

/-- Report a row of a table that has not as many cells as the first one. -/
def checkRow (state : CompilerState) (position : Position) (cells columns : Nat) : CompilerState :=
  if cells = columns then
    state
  else
    state.error position
      ("Table row has " ++ toString cells ++ " cells, expected " ++ toString columns)

/-- Report an entry of a list of variables that has not two cells. -/
def checkVariable (state : CompilerState) (position : Position) (cells : Nat) : CompilerState :=
  if cells = 2 then
    state
  else
    state.error position
      ("Variable list entry has " ++ toString cells ++ " cells, expected 2")

end DocMarkup.CompilerState
