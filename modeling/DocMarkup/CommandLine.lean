import DocMarkup.CommandLine.Arguments
import DocMarkup.Compilation
import DocMarkup.FileTree.Placement
import DocMarkup.Settings.Search
import DocMarkup.Settings.Validation

namespace DocMarkup.CommandLine

/-!
# The command line

A command compiles one file, and says what is to be printed and written. What it
needs to know about files comes from a tree; the paths that it looked at are
told, so that a tree may be filled as far as a command needs it.
-/

/-- What ends a command at once. -/
inductive CommandFault where
  | path (fault : PathFault)
  | numeral (fault : Text.NumeralFault)
  | compilation (fault : CompilationFault)
deriving DecidableEq, Repr

/-- The wording of a fault. -/
def CommandFault.message : CommandFault → String
  | .path fault => fault.message
  | .numeral fault => fault.message
  | .compilation fault => fault.message

/-- What comes of a command. -/
structure Outcome where
  exitCode : Nat
  standardOutput : String := ""
  standardError : String := ""
  output : Option (Path × String) := none
  fault : Option CommandFault := none
  consulted : List Path := []
deriving DecidableEq, Repr

/-- What commands find around them. -/
structure Surroundings where
  files : FileTree
  now : Moment
  mark : String

/-- An error as it is printed. -/
def errorLine (message : String) : String :=
  "Error: " ++ message ++ "\n"

/-- How the command is used. -/
def usageLine : String :=
  "Usage: docmarkup [OPTIONS] [INPUT_FILE]\n"

/-- The line of an option in the list of options. -/
def OptionKey.line (key : OptionKey) : String :=
  let short :=
    match key.letter? with
    | some letter => "-" ++ String.singleton letter ++ ", "
    | none => ""
  let value := if key.takesValue then " VALUE" else ""
  "  " ++ short ++ key.longName ++ value ++ "  " ++ key.description ++ "\n"

/-- How the command is used, and what its options are. -/
def helpText : String :=
  usageLine ++ "\n  Compile a document into BoostBook XML or HTML.\n\nOptions:\n" ++
    String.join (OptionKey.all.map OptionKey.line)

namespace Outcome

/-- The outcome of a command that is used wrongly. -/
def misused (fault : UsageFault) : Outcome :=
  { exitCode := 2, standardError := usageLine ++ errorLine fault.message }

/-- The outcome of a command that fails. -/
def failed (standardError : String) : Outcome :=
  { exitCode := 1, standardError := standardError }

/-- The outcome of a command that a fault ends. -/
def interrupted (fault : CommandFault) : Outcome :=
  { exitCode := 1, fault := some fault }

/-- Add paths that were looked at. -/
def consulting (outcome : Outcome) (paths : List Path) : Outcome :=
  { outcome with consulted := paths ++ outcome.consulted }

end Outcome

/-- Whether a fault shows that events or markup were made wrongly. -/
def isInternal : CompilationFault → Bool
  | .parsing .nestedTooDeeply => true
  | .parsing _ => false
  | .rendering (.level _) => false
  | .rendering _ => true
  | .layout _ => true

/-- Put the text of a compilation in its place. -/
def place
    (surroundings : Surroundings)
    (target : Path)
    (text : String) :
    Outcome :=
  let outcome : Outcome :=
    match surroundings.files.placementFault? target surroundings.mark with
    | some fault =>
        .failed (errorLine ("Error writing " ++ target.shown ++ ": " ++ fault.message))
    | none => { exitCode := 0, output := some (target, text) }
  outcome.consulting
    [target, (surroundings.files.temporaryPath target surroundings.mark).parent]

/-- Compile a file with the given options. -/
def compileTo
    (surroundings : Surroundings)
    (options : Options)
    (input target : Path) :
    Outcome :=
  let run := options.runFile surroundings.files input
  let report :=
    String.join
      ((reportLines options.ideStyle input.shown run.diagnostics run.errorCount).map
        (· ++ "\n"))
  let outcome : Outcome :=
    match run.result with
    | .error fault =>
        if isInternal fault then
          .failed (errorLine fault.message)
        else
          .interrupted (.compilation fault)
    | .ok result =>
        match result.output with
        | none => .failed ""
        | some text => place surroundings target text
  { outcome with
    standardOutput := "Generating Output File: " ++ target.shown ++ "\n"
    standardError := report ++ outcome.standardError
    consulted := input :: (run.consulted ++ outcome.consulted) }

/-- The options that a request makes of the settings of a directory. -/
def optionsOf
    (surroundings : Surroundings)
    (request : Request)
    (directory : Path) :
    Except SettingsFault Options := do
  let found ← Settings.load surroundings.files directory
  let settings ← found.override request.overrides
  settings.options surroundings.now

/-- The file to be written: the one asked for, or the input with another extension. -/
def targetOf
    (request : Request)
    (options : Options)
    (input : Path) :
    Except PathFault Path :=
  match request.outputFile with
  | some text => .ok (Path.ofText text)
  | none => input.withExtension options.encoding.fileExtension

/-- Compile the input of a request. -/
def runOn
    (surroundings : Surroundings)
    (request : Request)
    (input : Path) :
    Outcome :=
  match surroundings.files.resolve input.parent with
  | .error fault => .interrupted (.path fault)
  | .ok directory =>
      let outcome : Outcome :=
        match optionsOf surroundings request directory with
        | .error (.numeral fault) => .interrupted (.numeral fault)
        | .error fault => .misused (.settings fault)
        | .ok options =>
            match targetOf request options input with
            | .error fault => .interrupted (.path fault)
            | .ok target => compileTo surroundings options input target
      outcome.consulting ((Settings.places directory).map (·.1))

/-- The files that a command line names: where to write, and what to read. -/
def namedFiles (items : List Item) : List Path :=
  ((valuesOf .outputFile items).getLast?.toList ++ (operands items).head?.toList).map Path.ofText

/-- Do what the items of a command line ask for. -/
def runItems (surroundings : Surroundings) (items : List Item) : Outcome :=
  match Request.ofItems surroundings.files items with
  | .error (.usage fault) => .misused fault
  | .error (.path fault) => .interrupted (.path fault)
  | .ok request =>
      match request.inputFile with
      | none => .failed (errorLine "No filename given")
      | some text => runOn surroundings request (Path.ofText text)

/-- Run the command with the given arguments. -/
def run (surroundings : Surroundings) (arguments : List String) : Outcome :=
  match readItems arguments with
  | .error fault => .misused fault
  | .ok items =>
      if items.contains (.flag .help) then
        { exitCode := 0, standardOutput := helpText }
      else
        (runItems surroundings items).consulting (namedFiles items)

end DocMarkup.CommandLine
