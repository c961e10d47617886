import DocMarkup.Compiler.Predefinition
import DocMarkup.Encoding.Render
import DocMarkup.Grammar.Parser
import DocMarkup.Markup.Layout

namespace DocMarkup

/-!
# Compilation

A document is read with everything that it includes, and its events are then
encoded and laid out. Without errors there is output, and with errors there is
none.
-/

/-- What a compilation is told besides the document and the files. -/
structure Options where
  encoding : Encoding := .boostBook
  prettyPrint : Bool := true
  indent : Option Int := none
  lineWidth : Option Int := none
  includePaths : List String := []
  defines : List String := []
  ideStyle : Bool := false
  moment : Moment := .fixed
deriving DecidableEq, Repr

/-- What makes a compilation impossible, whatever is wrong with the document. -/
inductive CompilationFault where
  | parsing (fault : Fault)
  | rendering (fault : RenderFault)
  | layout (fault : Markup.MarkupFault)
deriving DecidableEq, Repr

/-- The wording of a fault. -/
def CompilationFault.message : CompilationFault → String
  | .parsing fault => fault.message
  | .rendering fault => fault.message
  | .layout fault => fault.message

/-- What comes out of a compilation. -/
structure CompilationResult where
  success : Bool
  output : Option String
  errorCount : Nat
  warningCount : Nat
  sectionLevel : Nat
  diagnostics : List Diagnostic
  events : List Event
deriving DecidableEq, Repr

/--
How a compilation goes: what it reports, which files it asks for, and what comes
out of it. What a fault in reading interrupts reports nothing.
-/
structure CompilationRun where
  diagnostics : List Diagnostic := []
  errorCount : Nat := 0
  consulted : List Path := []
  result : Except CompilationFault CompilationResult

namespace Options

/-- The conditions under which documents are read. -/
def environment (options : Options) (files : FileTree) : Environment :=
  { files := files
    includePaths := options.includePaths
    encoding := options.encoding
    moment := options.moment }

/-- The state in which a document starts. -/
def initialState (options : Options) : CompilerState :=
  ({} : CompilerState).predefineAll options.defines

/-- The text of events in the chosen encoding, laid out if it is to be. -/
def write (options : Options) (events : List Event) : Except CompilationFault String :=
  match options.encoding.encode events with
  | .error fault => .error (.rendering fault)
  | .ok page =>
      if options.prettyPrint then
        match Markup.layOut (Markup.Layout.ofSettings options.indent options.lineWidth) page with
        | .error fault => .error (.layout fault)
        | .ok output => .ok output
      else
        .ok page

/-- The result of a compilation with the given final state. -/
def result
    (options : Options)
    (parsed : Bool)
    (state : CompilerState) :
    Except CompilationFault CompilationResult :=
  let success := parsed && state.errorCount == 0
  let finished (output : Option String) : CompilationResult :=
    { success := success
      output := output
      errorCount := state.errorCount
      warningCount := state.warningCount
      sectionLevel := state.sectionLevel
      diagnostics := state.diagnostics.toList
      events := state.events.toList }
  if success then
    match options.write state.events.toList with
    | .error fault => .error fault
    | .ok output => .ok (finished (some output))
  else
    .ok (finished none)

/-- Run a parse from the initial state. -/
def run
    (options : Options)
    (parse : Compile Bool) :
    CompilationRun :=
  match parse { state := options.initialState } with
  | .ok parsed workspace =>
      { diagnostics := workspace.state.diagnostics.toList
        errorCount := workspace.state.errorCount
        consulted := workspace.consulted
        result := options.result parsed workspace.state }
  | .error fault workspace =>
      { consulted := workspace.consulted, result := .error (.parsing fault) }

/-- Run a compilation of a document given as a text; relative inclusions start from its name. -/
def runSource
    (options : Options)
    (files : FileTree)
    (text : String)
    (name : String) :
    CompilationRun :=
  match files.resolve (Path.ofText name) with
  | .error fault => { result := .error (.parsing (.path fault)) }
  | .ok file =>
      let source : Source :=
        { text := String.ofList (Text.pairedLineEnds text.toList), name := name }
      let environment := options.environment files
      options.run
        (Compile.parsing environment source.text.length fun inner =>
          Compile.parseUnitOf environment inner file source)

/-- Run a compilation of the document in a file. -/
def runFile
    (options : Options)
    (files : FileTree)
    (path : Path) :
    CompilationRun :=
  let environment := options.environment files
  options.run
    (Compile.parsing environment 0 fun inner => Compile.parseFile environment inner path)

end Options

/-- Compile a document given as a text; relative inclusions start from the place of its name. -/
def compileSource
    (options : Options)
    (files : FileTree)
    (text : String)
    (name : String) :
    Except CompilationFault CompilationResult :=
  (options.runSource files text name).result

/-- Compile the document in a file. -/
def compileFile
    (options : Options)
    (files : FileTree)
    (path : Path) :
    Except CompilationFault CompilationResult :=
  (options.runFile files path).result

/-- The lines that report on a file: the diagnostics, and how many of them are errors. -/
def reportLines
    (ideStyle : Bool)
    (name : String)
    (diagnostics : List Diagnostic)
    (errorCount : Nat) :
    List String :=
  diagnostics.map (Diagnostic.shown ideStyle) ++
    if errorCount = 0 then [] else [errorSummary ideStyle name errorCount]

/-- The lines that report a compilation. -/
def CompilationResult.reportLines
    (result : CompilationResult)
    (ideStyle : Bool)
    (name : String) :
    List String :=
  DocMarkup.reportLines ideStyle name result.diagnostics result.errorCount

end DocMarkup
