import DocMarkup.Path
import DocMarkup.Text.Utf8

namespace DocMarkup

/-!
# File trees

The files that a compilation may read are given as a tree. A path is looked up
from component to component, as an operating system does it: every component but
the last must be a directory, also before two dots lead up again.
-/

/-- What stands at a place of the tree. -/
inductive Entry where
  | file (content : List UInt8)
  | directory
deriving DecidableEq, Repr

/-- The entries below the root, and the places that relative paths and homes refer to. -/
structure FileTree where
  entries : List (List String × Entry)
  workingDirectory : List String
  homeDirectory : List String
deriving Repr

/-- Why a file cannot be reached, read or replaced. -/
inductive FileFault where
  | missing
  | notDirectory
  | isDirectory
  | busy
deriving DecidableEq, Repr

/-- The wording of a fault. -/
def FileFault.message : FileFault → String
  | .missing => "No such file or directory"
  | .notDirectory => "Not a directory"
  | .isDirectory => "Is a directory"
  | .busy => "Device or resource busy"

/-- The number by which operating systems know a fault. -/
def FileFault.number : FileFault → Nat
  | .missing => 2
  | .notDirectory => 20
  | .isDirectory => 21
  | .busy => 16

/-- A source that could not be loaded, and why. -/
structure LoadFault where
  path : String
  reason : String
deriving DecidableEq, Repr

/-- The wording of a fault. -/
def LoadFault.message (fault : LoadFault) : String :=
  "Unable to open file " ++ fault.path ++ ": " ++ fault.reason

/-- Why the text of a source cannot be had. -/
inductive SourceFault where
  | load (fault : LoadFault)
  | path (fault : PathFault)
deriving DecidableEq, Repr

namespace FileTree

/-- What stands at an absolute place. The parents of every entry are directories. -/
def at? (tree : FileTree) (place : List String) : Option Entry :=
  match tree.entries.find? fun entry => entry.1 == place with
  | some (_, entry) => some entry
  | none =>
      let isParent :=
        place.isEmpty || place.isPrefixOf tree.workingDirectory ||
          tree.entries.any fun entry => place.isPrefixOf entry.1
      if isParent then some .directory else none

/-- Go from a place along components; each must lead on from a directory. -/
def walk (tree : FileTree) (place : List String) : List String → Except FileFault (List String)
  | [] => .ok place
  | component :: rest =>
      match tree.at? place with
      | none => .error .missing
      | some (.file _) => .error .notDirectory
      | some .directory =>
          walk tree
            (if component == ".." then place.dropLast else place ++ [component]) rest

/-- Find the entry that a path names. -/
def find (tree : FileTree) (path : Path) : Except FileFault Entry :=
  let start := if path.isAbsolute then [] else tree.workingDirectory
  match tree.walk start path.components with
  | .error fault => .error fault
  | .ok place =>
      match tree.at? place with
      | none => .error .missing
      | some entry => .ok entry

/-- Whether a path names a file. -/
def isFile (tree : FileTree) (path : Path) : Bool :=
  match tree.find path with
  | .ok (.file _) => !path.hasNull
  | _ => false

/-- Whether a path names a directory. -/
def isDirectory (tree : FileTree) (path : Path) : Bool :=
  match tree.find path with
  | .ok .directory => !path.hasNull
  | _ => false

/-- The bytes of the file that a path names. -/
def read (tree : FileTree) (path : Path) : Except FileFault (List UInt8) :=
  match tree.find path with
  | .error fault => .error fault
  | .ok .directory => .error .isDirectory
  | .ok (.file content) => .ok content

/-- The absolute path without two dots that a path means. -/
def resolve (tree : FileTree) (path : Path) : Except PathFault Path :=
  path.resolve tree.workingDirectory

/-- The current directory. -/
def currentDirectory (tree : FileTree) : Path :=
  { root := .slash, components := tree.workingDirectory }

/-- The text of bytes in UTF-8 with any line ends, if they are valid. -/
def decodeSource (path : Path) (content : List UInt8) : Except LoadFault String :=
  match Text.decodeUtf8 content with
  | .error fault =>
      .error
        ⟨path.shown,
          "invalid UTF-8 sequence at byte " ++ toString fault.offset ++ " (" ++
            fault.reason.message ++ ")"⟩
  | .ok characters => .ok (String.ofList (Text.unifyLineEnds characters))

/-- The text of the source file that a path names. -/
def loadSource (tree : FileTree) (path : Path) : Except SourceFault String :=
  if path.hasNull then
    .error (.path .embeddedNull)
  else
    match tree.read path with
    | .error fault => .error (.load ⟨path.shown, fault.message⟩)
    | .ok content =>
        match decodeSource path content with
        | .error fault => .error (.load fault)
        | .ok text => .ok text

/-- The places where an included file is looked for, in order. -/
def includePlaces
    (tree : FileTree)
    (requested : Path)
    (including : Option Path)
    (includePaths : List String) :
    List Path :=
  if requested.isAbsolute then
    [requested]
  else
    let base :=
      match including with
      | some file => file.parent
      | none => tree.currentDirectory
    base.join requested ::
      includePaths.map fun directory => (Path.ofText directory).join requested

/-- The first of several places that holds a file, or else the first place. -/
def firstFile (tree : FileTree) (requested : Path) (places : List Path) : Path :=
  (places.find? tree.isFile).getD (places.headD requested)

/--
The file that an inclusion names: beside the including file, or else in one of
the include paths. If there is none, the first place is named.
-/
def resolveInclude
    (tree : FileTree)
    (name : String)
    (including : Option Path)
    (includePaths : List String) :
    Except PathFault Path :=
  match (Path.ofText name).expandHome tree.homeDirectory with
  | .error fault => .error fault
  | .ok requested =>
      .ok (tree.firstFile requested (tree.includePlaces requested including includePaths))

end FileTree

end DocMarkup
