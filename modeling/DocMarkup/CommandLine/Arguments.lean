import DocMarkup.FileTree
import DocMarkup.Settings

namespace DocMarkup.CommandLine

/-!
# Arguments of the command line

Options may stand before and behind the name of the input file, until two dashes
end them. The value of a long option follows an equals sign or is the next
argument, whatever that looks like; the value of a short option may also be
joined to its letter. Of an option that is given several times the last value
counts, except for the options that add to a list. Values are checked in the
order in which their options are first mentioned, and the input file after them.
-/

/-- What an option is about. -/
inductive OptionKey where
  | noPrettyPrint
  | indent
  | lineWidth
  | outputFile
  | fixedClock
  | ideStyle
  | includePath
  | define
  | encoding (choice : Encoding)
  | help
deriving DecidableEq, Repr

namespace OptionKey

/-- The long name of an option. -/
def longName : OptionKey → String
  | .noPrettyPrint => "--no-pretty-print"
  | .indent => "--indent"
  | .lineWidth => "--linewidth"
  | .outputFile => "--output-file"
  | .fixedClock => "--debug"
  | .ideStyle => "--ms-errors"
  | .includePath => "--include-path"
  | .define => "--define"
  | .encoding choice => "--" ++ choice.name
  | .help => "--help"

/-- The letter of an option that has one. -/
def letter? : OptionKey → Option Char
  | .includePath => some 'I'
  | .define => some 'D'
  | _ => none

/-- Whether an option has a value. -/
def takesValue : OptionKey → Bool
  | .indent | .lineWidth | .outputFile | .includePath | .define => true
  | .noPrettyPrint | .fixedClock | .ideStyle | .encoding _ | .help => false

/-- What an option does, for the list of options. -/
def description : OptionKey → String
  | .noPrettyPrint => "Disable XML pretty printing"
  | .indent => "Indent spaces"
  | .lineWidth => "Line width"
  | .outputFile => "Output file"
  | .fixedClock => "Debug mode (fixed time stamps)"
  | .ideStyle => "Use Microsoft Visual Studio style error and warning format"
  | .includePath => "Include path"
  | .define => "Define macro (NAME=VALUE)"
  | .encoding .boostBook => "Generate BoostBook (default)"
  | .encoding .html => "Generate HTML"
  | .help => "Show this message and exit."

/-- Every option. -/
def all : List OptionKey :=
  [.noPrettyPrint, .indent, .lineWidth, .outputFile, .fixedClock, .ideStyle, .includePath,
    .define, .encoding .boostBook, .encoding .html, .help]

/-- The option of a long name. -/
def ofLongName? (name : String) : Option OptionKey :=
  all.find? fun key => key.longName == name

/-- The option of a letter. -/
def ofLetter? (letter : Char) : Option OptionKey :=
  all.find? fun key => key.letter? == some letter

end OptionKey

/-- What is wrong with the use of the command line. -/
inductive UsageFault where
  | unknownOption (name : String)
  | missingValue (name : String)
  | unexpectedValue (name : String)
  | notInteger (name text : String)
  | directory (text : String)
  | extraOperand (text : String)
  | settings (fault : SettingsFault)
deriving DecidableEq, Repr

/-- The wording of a fault. -/
def UsageFault.message : UsageFault → String
  | .unknownOption name => "No such option: " ++ name
  | .missingValue name => "Option " ++ Text.quoted name ++ " requires an argument."
  | .unexpectedValue name => "Option " ++ Text.quoted name ++ " does not take a value."
  | .notInteger name text =>
      "Invalid value for " ++ Text.quoted name ++ ": " ++ Text.quoted text ++
        " is not a valid integer."
  | .directory text => "Invalid value: File " ++ Text.quoted text ++ " is a directory."
  | .extraOperand text => "Got unexpected extra argument (" ++ text ++ ")"
  | .settings fault => "Invalid value: " ++ fault.message

/-- A meaningful part of the command line. -/
inductive Item where
  | flag (key : OptionKey)
  | valued (key : OptionKey) (value : String)
  | operand (text : String)
deriving DecidableEq, Repr

/-- What one argument means on its own. -/
inductive Argument where
  | endOfOptions
  | item (item : Item)
  | awaitingValue (key : OptionKey) (name : String)
deriving DecidableEq, Repr

/-- Read a long option, with its value if one is attached. -/
def readLongOption (argument : String) : Except UsageFault Argument :=
  let characters := argument.toList
  let name := characters.takeWhile fun character => character != '='
  match OptionKey.ofLongName? (String.ofList name), characters.drop name.length with
  | none, _ => .error (.unknownOption (String.ofList name))
  | some key, [] =>
      .ok (if key.takesValue then .awaitingValue key key.longName else .item (.flag key))
  | some key, _ :: value =>
      if key.takesValue then
        .ok (.item (.valued key (String.ofList value)))
      else
        .error (.unexpectedValue key.longName)

/-- Read what follows a single dash: the letter of an option, with its value if one is joined. -/
def readShortOption (letter : Char) (value : List Char) : Except UsageFault Argument :=
  let name := String.ofList ['-', letter]
  match OptionKey.ofLetter? letter with
  | none => .error (.unknownOption name)
  | some key =>
      .ok
        (if value.isEmpty then
          .awaitingValue key name
        else
          .item (.valued key (String.ofList value)))

/-- Read one argument. -/
def readArgument (argument : String) : Except UsageFault Argument :=
  match argument.toList with
  | ['-', '-'] => .ok .endOfOptions
  | '-' :: '-' :: _ => readLongOption argument
  | '-' :: letter :: value => readShortOption letter value
  | _ => .ok (.item (.operand argument))

/-- Read the arguments of a command line. -/
def readItems : List String → Except UsageFault (List Item)
  | [] => .ok []
  | argument :: rest =>
      match readArgument argument with
      | .error fault => .error fault
      | .ok .endOfOptions => .ok (rest.map .operand)
      | .ok (.item item) => (readItems rest).map (item :: ·)
      | .ok (.awaitingValue key name) =>
          match rest with
          | [] => .error (.missingValue name)
          | value :: others => (readItems others).map (.valued key value :: ·)

/-- What a command line asks for. -/
structure Request where
  prettyPrint : Bool := true
  indent : Option Int := none
  lineWidth : Option Int := none
  outputFile : Option String := none
  fixedClock : Bool := false
  ideStyle : Bool := false
  includePaths : List String := []
  defines : List String := []
  encoding : Option Encoding := none
  inputFile : Option String := none
deriving DecidableEq, Repr

/-- The values that an option is given, in order. -/
def valuesOf (key : OptionKey) (items : List Item) : List String :=
  items.filterMap fun item =>
    match item with
    | .valued given value => if given = key then some value else none
    | _ => none

/-- The operands, in order. -/
def operands (items : List Item) : List String :=
  items.filterMap fun item =>
    match item with
    | .operand text => some text
    | _ => none

/-- The last encoding that is chosen. -/
def chosenEncoding (items : List Item) : Option Encoding :=
  (items.filterMap fun item =>
    match item with
    | .flag (.encoding choice) => some choice
    | _ => none).getLast?

/-- The options of a command line, in the order in which they are first mentioned. -/
def mentioned (items : List Item) : List OptionKey :=
  (items.filterMap fun item =>
    match item with
    | .flag key => some key
    | .valued key _ => some key
    | .operand _ => none).eraseDups

/-- Why a command line is not followed: it is wrong, or a file that it names has no legal path. -/
inductive Refusal where
  | usage (fault : UsageFault)
  | path (fault : PathFault)
deriving DecidableEq, Repr

/-- The integer that an option is given last. -/
def integerOf (key : OptionKey) (items : List Item) : Except Refusal (Option Int) :=
  match (valuesOf key items).getLast? with
  | none => .ok none
  | some text =>
      match Text.readInteger text with
      | .ok value => .ok (some value)
      | .error _ => .error (.usage (.notInteger key.longName text))

/-- The name of a file, which may not be that of a directory. -/
def fileName (files : FileTree) (text : String) : Except Refusal String :=
  if (Path.ofText text).hasNull then
    .error (.path .embeddedNull)
  else if !text.isEmpty && files.isDirectory (Path.ofText text) then
    .error (.usage (.directory text))
  else
    .ok text

/-- The file to be written that is named last. -/
def outputFileOf (files : FileTree) (items : List Item) : Except Refusal (Option String) :=
  match (valuesOf .outputFile items).getLast? with
  | none => .ok none
  | some text => (fileName files text).map some

namespace Request

/-- Take an option over into a request. -/
def withOption
    (files : FileTree)
    (items : List Item)
    (request : Request) :
    OptionKey →
    Except Refusal Request
  | .noPrettyPrint => return { request with prettyPrint := false }
  | .indent => return { request with indent := ← integerOf .indent items }
  | .lineWidth => return { request with lineWidth := ← integerOf .lineWidth items }
  | .outputFile => return { request with outputFile := ← outputFileOf files items }
  | .fixedClock => return { request with fixedClock := true }
  | .ideStyle => return { request with ideStyle := true }
  | .includePath => return { request with includePaths := valuesOf .includePath items }
  | .define => return { request with defines := valuesOf .define items }
  | .encoding _ => return { request with encoding := chosenEncoding items }
  | .help => return request

/-- The request of a command line. -/
def ofItems (files : FileTree) (items : List Item) : Except Refusal Request := do
  let request ← (mentioned items).foldlM (withOption files items) {}
  match operands items with
  | [] => return request
  | file :: others =>
      let inputFile ← fileName files file
      match others with
      | [] => return { request with inputFile := some inputFile }
      | extra :: _ => throw (.usage (.extraOperand extra))

/-- The settings that a request overrides. -/
def overrides (request : Request) : Settings.Entries :=
  let flag (given : Bool) (value : Bool) : Settings.Value :=
    if given then .boolean value else .none
  let integer (value : Option Int) : Settings.Value := (value.map .integer).getD .none
  let texts (values : List String) : Settings.Value := .list (values.map .text)
  let encoding : Settings.Value :=
    (request.encoding.map fun encoding => .text encoding.name).getD .none
  [(SettingKey.encoding.name, encoding),
    (SettingKey.prettyPrint.name, flag (!request.prettyPrint) false),
    (SettingKey.indent.name, integer request.indent),
    (SettingKey.lineWidth.name, integer request.lineWidth),
    (SettingKey.includePaths.name, texts request.includePaths),
    (SettingKey.defines.name, texts request.defines),
    (SettingKey.ideStyle.name, flag request.ideStyle true),
    (SettingKey.fixedClock.name, flag request.fixedClock true)]

end Request

end DocMarkup.CommandLine
