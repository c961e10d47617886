import DocMarkup.Text.Blank
import DocMarkup.Text.Quoted

namespace DocMarkup

/-!
# Paths

A path is a root and a row of components. Writing it with repeated slashes, with
single dots or with a slash at the end makes no difference; two dots are kept
until the path is resolved. An absolute path starts with one slash; exactly two
slashes are a root of their own.
-/

/-- Where a path starts. -/
inductive Root where
  | relative
  | slash
  | doubleSlash
deriving DecidableEq, Repr

/-- A path in normal form: no component is empty or a single dot. -/
structure Path where
  root : Root
  components : List String
deriving DecidableEq, Repr

/-- The text of a root. -/
def Root.shown : Root → String
  | .relative => ""
  | .slash => "/"
  | .doubleSlash => "//"

/-- What is wrong with a path itself, whatever files there are. -/
inductive PathFault where
  | unknownHome
  | embeddedNull
  | emptyName (path : String)
deriving DecidableEq, Repr

/-- The wording of a fault. -/
def PathFault.message : PathFault → String
  | .unknownHome => "Could not determine home directory."
  | .embeddedNull => "embedded null byte"
  | .emptyName path => "PosixPath(" ++ Text.quoted path ++ ") has an empty name"

namespace Path

/-- The root that a text starts with. -/
def rootOf (characters : List Char) : Root :=
  match Text.runLength (fun character => character == '/') characters with
  | 0 => .relative
  | 2 => .doubleSlash
  | _ => .slash

/-- Read a path. -/
def ofText (text : String) : Path :=
  let characters := text.toList
  let pieces := Text.piecesFrom (fun character => character == '/') [] characters
  { root := rootOf characters
    components := (pieces.map String.ofList).filter fun component => component != "." }

/-- The text of a path; the empty path is the current directory. -/
def shown (path : Path) : String :=
  let text := path.root.shown ++ Text.joined "/" path.components
  if text.isEmpty then "." else text

/-- Whether a path starts at a root. -/
def isAbsolute (path : Path) : Bool :=
  path.root != .relative

/-- The path that a second one means when it is seen from a directory. -/
def join (directory path : Path) : Path :=
  if path.isAbsolute then
    path
  else
    { directory with components := directory.components ++ path.components }

/-- The directory that holds what a path names. -/
def parent (path : Path) : Path :=
  { path with components := path.components.dropLast }

/-- The last component, empty if there is none. -/
def name (path : Path) : String :=
  path.components.getLast?.getD ""

/--
A name cut before its extension: the part from the last dot on, unless the dot
is the first or the last character.
-/
def splitExtension (name : String) : String × String :=
  let reversed := name.toList.reverse
  let extension := reversed.takeWhile fun character => character != '.'
  match reversed.drop extension.length with
  | _ :: stem =>
      if extension.isEmpty || stem.isEmpty then
        (name, "")
      else
        (String.ofList stem.reverse, String.ofList ('.' :: extension.reverse))
  | [] => (name, "")

/-- The last component without its extension. -/
def stem (path : Path) : String :=
  (splitExtension path.name).1

/-- Replace the extension of the last component, of which there must be one. -/
def withExtension (path : Path) (extension : String) : Except PathFault Path :=
  if path.name.isEmpty then
    .error (.emptyName path.shown)
  else
    .ok { path with components := path.components.dropLast ++ [path.stem ++ extension] }

/-- Whether a path holds a character that no file name can hold. -/
def hasNull (path : Path) : Bool :=
  path.components.any fun component => component.toList.contains (Char.ofNat 0)

/-- Follow components from a directory, going up at two dots. -/
def follow (directory : List String) : List String → List String
  | [] => directory
  | component :: rest =>
      follow (if component == ".." then directory.dropLast else directory ++ [component]) rest

/-- The absolute path without two dots that a path means in a directory. -/
def resolve (workingDirectory : List String) (path : Path) : Except PathFault Path :=
  if path.hasNull then
    .error .embeddedNull
  else
    let start := if path.isAbsolute then [] else workingDirectory
    .ok { root := .slash, components := follow start path.components }

/-- The path from a root on, without two dots, that a path means in a directory. -/
def absolute (workingDirectory : List String) (path : Path) : Path :=
  match path.root with
  | .relative => { root := .slash, components := follow workingDirectory path.components }
  | root => { root := root, components := follow [] path.components }

/-- Replace a first component that stands for the home directory of the user. -/
def expandHome (homeDirectory : List String) (path : Path) : Except PathFault Path :=
  match path.root, path.components with
  | .relative, first :: rest =>
      if first == "~" then
        .ok { root := .slash, components := homeDirectory ++ rest }
      else if first.startsWith "~" then
        if first.toList.contains (Char.ofNat 0) then .error .embeddedNull else .error .unknownHome
      else
        .ok path
  | _, _ => .ok path

end Path

end DocMarkup
