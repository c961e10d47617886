import DocMarkup.Encoding
import DocMarkup.Settings.Value
import DocMarkup.Text.Blank
import DocMarkup.Text.Numeral

namespace DocMarkup

/-!
# Settings

Every setting has a value of any kind until the settings are validated. Settings
start from their defaults, are given by the entries of a settings file, and may
be overridden one by one: lists are then made longer, and other values replaced.
-/

/-- What can be set. -/
inductive SettingKey where
  | encoding
  | prettyPrint
  | indent
  | lineWidth
  | includePaths
  | defines
  | ideStyle
  | fixedClock
  | moment
deriving DecidableEq, Repr

namespace SettingKey

/-- The name of a setting in files and messages. -/
def name : SettingKey → String
  | .encoding => "encoder"
  | .prettyPrint => "pretty_print"
  | .indent => "indent"
  | .lineWidth => "linewidth"
  | .includePaths => "include_paths"
  | .defines => "defines"
  | .ideStyle => "ms_errors"
  | .fixedClock => "debug"
  | .moment => "current_time"

/-- Every setting. -/
def all : List SettingKey :=
  [.encoding, .prettyPrint, .indent, .lineWidth, .includePaths, .defines, .ideStyle,
    .fixedClock, .moment]

/-- The setting of a name. -/
def ofName? (wanted : String) : Option SettingKey :=
  all.find? fun key => key.name == wanted

/-- The settings whose values are lists. -/
def isSequence : SettingKey → Bool
  | .includePaths | .defines => true
  | _ => false

end SettingKey

/-- What is wrong with settings. -/
inductive SettingsFault where
  | numeral (fault : Text.NumeralFault)
  | notTable (table : String)
  | momentInFile (table : String)
  | notList (key : SettingKey) (table : String)
  | unknownNames (names : List String) (table : String)
  | unknownOverride (name : String)
  | withoutElements (key : SettingKey)
  | unknownEncoding
  | notBoolean (key : SettingKey)
  | notInteger (key : SettingKey)
  | negativeIndent
  | emptyLine
  | notTexts (key : SettingKey)
  | emptyDefinition
deriving DecidableEq, Repr

/-- A name as messages show it. -/
def SettingKey.shown (key : SettingKey) : String :=
  let mark := String.singleton (Char.ofNat 96)
  mark ++ key.name ++ mark

/-- The wording of a fault. -/
def SettingsFault.message : SettingsFault → String
  | .numeral fault => fault.message
  | .notTable table => table ++ " is not a table"
  | .momentInFile table => SettingKey.moment.shown ++ " cannot be set from " ++ table
  | .notList key table => key.shown ++ " must be a list of strings in " ++ table
  | .unknownNames names table =>
      "Unknown setting(s) " ++ Text.joined ", " names ++ " in " ++ table
  | .unknownOverride name => "Unknown setting " ++ name
  | .withoutElements key => key.shown ++ " must be a list"
  | .unknownEncoding => SettingKey.encoding.shown ++ " must be one of: " ++ Encoding.allNames
  | .notBoolean key => key.shown ++ " must be a boolean"
  | .notInteger key => key.shown ++ " must be an integer"
  | .negativeIndent => SettingKey.indent.shown ++ " must be a non-negative integer"
  | .emptyLine => SettingKey.lineWidth.shown ++ " must be a positive integer"
  | .notTexts key => key.shown ++ " must contain only strings"
  | .emptyDefinition => SettingKey.defines.shown ++ " must not contain empty definitions"

/-- A value for everything that can be set. -/
structure Settings where
  value : SettingKey → Settings.Value

namespace Settings

/-- The settings that hold unless something else is said. -/
def defaults : Settings where
  value
    | .encoding => .text Encoding.boostBook.name
    | .prettyPrint => .boolean true
    | .indent | .lineWidth | .moment => .none
    | .includePaths | .defines => .list []
    | .ideStyle | .fixedClock => .boolean false

/-- Set one value. -/
def set (settings : Settings) (key : SettingKey) (value : Value) : Settings where
  value query := if query = key then value else settings.value query

/-- The settings with the values of entries, whose names must be known. -/
def setAll (settings : Settings) : Entries → Except SettingsFault Settings
  | [] => .ok settings
  | (name, value) :: rest =>
      match SettingKey.ofName? name with
      | some key => (settings.set key value).setAll rest
      | none => .error (.unknownOverride name)

/-- What is wrong with an entry of a settings file itself, whatever the other entries are. -/
def entryFault? (table : String) : String × Value → Option SettingsFault
  | (name, value) =>
      match SettingKey.ofName? name with
      | some .moment => some (.momentInFile table)
      | some key =>
          if key.isSequence && value.members?.isNone then some (.notList key table) else none
      | none => none

/-- The names of entries that no setting has, in order. -/
def unknownNames (entries : Entries) : List String :=
  let unknown := (entries.map (·.1)).filter fun name => (SettingKey.ofName? name).isNone
  unknown.mergeSort fun first second => !(second < first)

/-- The settings that a table of a settings file gives. -/
def ofTable (table : String) (value : Value) : Except SettingsFault Settings :=
  match value with
  | .table entries =>
      match entries.findSome? (entryFault? table) with
      | some fault => .error fault
      | none =>
          if (unknownNames entries).isEmpty then
            defaults.setAll entries
          else
            .error (.unknownNames (unknownNames entries) table)
  | _ => .error (.notTable table)

/-- Make the value of a list longer by the elements of another value. -/
def extend
    (settings : Settings)
    (key : SettingKey)
    (value : Value) :
    Except SettingsFault Settings :=
  match value.elements? with
  | none => .error (.withoutElements key)
  | some [] => .ok settings
  | some added =>
      match (settings.value key).members? with
      | none => .error (.withoutElements key)
      | some before => .ok (settings.set key (.list (before ++ added)))

/-- Override one setting; no value and the empty list change nothing. -/
def overrideOne
    (settings : Settings) :
    String × Value →
    Except SettingsFault Settings
  | (name, value) =>
      if value.isNone then
        .ok settings
      else
        match SettingKey.ofName? name with
        | none => .error (.unknownOverride name)
        | some key =>
            if key.isSequence then settings.extend key value else .ok (settings.set key value)

/-- Override settings one after the other. -/
def override (settings : Settings) (overrides : Entries) : Except SettingsFault Settings :=
  overrides.foldlM overrideOne settings

end Settings

end DocMarkup
