import DocMarkup.FileTree
import DocMarkup.Settings
import DocMarkup.Settings.Reader

namespace DocMarkup.Settings

/-!
# Finding settings

The settings of a document are in the closest directory at or above its own that
has a table for them in one of the settings files. Files that cannot be read or
are malformed are passed over, but the first table that is found counts, also
when it is empty or wrong.
-/

/-- The settings files of a directory, each with the tables that are looked for in it. -/
def fileTables : List (String × List (List String)) :=
  [("pyproject.toml", [["tool", "quickbook"]]),
    (".quickbook.toml", [["quickbook"], ["tool", "quickbook"]])]

/-- A directory and those above it, the root last. -/
def directoriesUpward (directory : Path) : List Path :=
  (List.range (directory.components.length + 1)).reverse.map fun depth =>
    { directory with components := directory.components.take depth }

/-- The files in which settings are looked for, with the tables, in order. -/
def places (directory : Path) : List (Path × List (List String)) :=
  (directoriesUpward directory).flatMap fun above =>
    fileTables.map fun (name, tables) =>
      ({ above with components := above.components ++ [name] }, tables)

/--
The entries of a settings file, if there is one that can be read. Only a numeral
that is too long is a fault.
-/
def readEntries?
    (files : FileTree)
    (path : Path) :
    Except Text.NumeralFault (Option Entries) :=
  if files.isFile path then
    match files.read path with
    | .error _ => .ok none
    | .ok content =>
        match Text.decodeFrom 0 none [] content with
        | .error _ => .ok none
        | .ok characters =>
            match readFile (Text.unifyLineEnds characters) with
            | .ok entries => .ok (some entries)
            | .error .malformed => .ok none
            | .error (.numeral fault) => .error fault
  else
    .ok none

/-- What messages call a table of a file. -/
def tableName (keys : List String) (file : Path) : String :=
  "[" ++ Text.joined "." keys ++ "] in " ++ file.shown

/-- The first table for settings in files, with what messages call it. -/
def findTable?
    (files : FileTree) :
    List (Path × List (List String)) →
    Except Text.NumeralFault (Option (String × Value))
  | [] => .ok none
  | (path, tables) :: rest =>
      match readEntries? files path with
      | .error fault => .error fault
      | .ok entries =>
          let found :=
            entries.bind fun entries =>
              tables.findSome? fun keys =>
                (follow? (.table entries) keys).map fun table => (tableName keys path, table)
          match found with
          | some table => .ok (some table)
          | none => findTable? files rest

/-- The settings that hold in an absolute directory. -/
def load (files : FileTree) (directory : Path) : Except SettingsFault Settings :=
  match findTable? files (places directory) with
  | .error fault => .error (.numeral fault)
  | .ok (some (table, found)) => ofTable table found
  | .ok none => .ok defaults

end DocMarkup.Settings
