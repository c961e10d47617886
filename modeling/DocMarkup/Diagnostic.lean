import DocMarkup.Source

namespace DocMarkup

/-!
# Diagnostics

Errors and warnings refer to a position, or to a file as a whole. They are shown
one to a line, in the manner of compilers or in the manner that an integrated
development environment expects.
-/

/-- How serious a diagnostic is; only errors make a compilation fail. -/
inductive Severity where
  | error
  | warning
deriving DecidableEq, Repr

/-- What a diagnostic is about: reading files, document information, markup or its meaning. -/
inductive DiagnosticKind where
  | load
  | metadata
  | markup
  | structural
deriving DecidableEq, Repr

/-- A message about a place in the sources. -/
structure Diagnostic where
  severity : Severity
  kind : DiagnosticKind
  message : String
  file : String
  position : Option Position
deriving DecidableEq, Repr

/-- The word for a severity. -/
def Severity.name : Severity → String
  | .error => "error"
  | .warning => "warning"

/-- What separates a place from its message. -/
def placeSeparator (ideStyle : Bool) : String :=
  if ideStyle then " : " else ": "

/-- A position, as messages show it. -/
def Position.shown (ideStyle : Bool) (position : Position) : String :=
  if ideStyle then
    position.file ++ "(" ++ toString position.line ++ "," ++ toString position.column ++ ")"
  else
    position.file ++ ":" ++ toString position.line ++ ":" ++ toString position.column

/-- The line that shows a diagnostic. -/
def Diagnostic.shown (ideStyle : Bool) (diagnostic : Diagnostic) : String :=
  let place :=
    match diagnostic.position with
    | none => diagnostic.file
    | some position => position.shown ideStyle
  place ++ placeSeparator ideStyle ++ diagnostic.severity.name ++ ": " ++ diagnostic.message

/-- The line that shows how many errors a file has. -/
def errorSummary (ideStyle : Bool) (file : String) (errorCount : Int) : String :=
  file ++ placeSeparator ideStyle ++ "error: Error count: " ++ toString errorCount ++ "."

end DocMarkup
