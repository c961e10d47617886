import DocMarkup.FileTree

namespace DocMarkup

/-!
# Putting files in place

A file is written under another name in the directory of its target, and then
moved onto the target, so that nobody finds it half written. What stands in the
way of that can be told from the tree.
-/

/-- Why a file cannot be put in place. -/
inductive PlacementFault where
  | notCreated (fault : FileFault) (temporary : Path)
  | notMoved (fault : FileFault) (temporary target : Path)
deriving DecidableEq, Repr

/-- A fault with its number. -/
def FileFault.numbered (fault : FileFault) : String :=
  "[Errno " ++ toString fault.number ++ "] " ++ fault.message

/-- The wording of a fault. -/
def PlacementFault.message : PlacementFault → String
  | .notCreated fault temporary =>
      fault.numbered ++ ": " ++ Text.quoted temporary.shown
  | .notMoved fault temporary target =>
      fault.numbered ++ ": " ++ Text.quoted temporary.shown ++ " -> " ++
        Text.quoted target.shown

namespace FileTree

/-- The temporary name for a target, made unlike others by a mark. -/
def temporaryPath (tree : FileTree) (target : Path) (mark : String) : Path :=
  let directory := target.parent.absolute tree.workingDirectory
  { directory with
    components := directory.components ++ ["." ++ target.name ++ "." ++ mark ++ ".tmp"] }

/-- Why nothing can be put where a path leads. -/
def parentFault? (tree : FileTree) (path : Path) : Option FileFault :=
  match tree.find path.parent with
  | .error fault => some fault
  | .ok (.file _) => some .notDirectory
  | .ok .directory => none

/-- Why a file cannot be moved onto a target. -/
def moveFault? (tree : FileTree) (target : Path) : Option FileFault :=
  if target.components.isEmpty then
    some .busy
  else
    match tree.parentFault? target with
    | some fault => some fault
    | none => if tree.isDirectory target then some .isDirectory else none

/-- Why a target cannot be written. -/
def placementFault? (tree : FileTree) (target : Path) (mark : String) : Option PlacementFault :=
  let temporary := tree.temporaryPath target mark
  match tree.parentFault? temporary with
  | some fault => some (.notCreated fault temporary)
  | none => (tree.moveFault? target).map fun fault => .notMoved fault temporary target

end FileTree

end DocMarkup
