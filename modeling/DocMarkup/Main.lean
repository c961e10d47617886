import DocMarkup.CommandLine
import Std.Time.DateTime

namespace DocMarkup.CommandLine

/-!
# The program

The command is run on a tree of the files that are known so far. As long as it
looked at places that are unknown, these are looked up and it is run again; then
its outcome is printed, and its output is put in place.
-/

/-- The text by which the operating system knows a place. -/
def placeText (place : List String) : String :=
  "/" ++ Text.joined "/" place

/-- The places that are met on the way along components, the last one included. -/
def placesAlong (place : List String) : List String → List (List String)
  | [] => [place]
  | component :: rest =>
      place ::
        placesAlong (if component == ".." then place.dropLast else place ++ [component]) rest

/-- The places that are met on the way to a path. -/
def placesTo (files : FileTree) (path : Path) : List (List String) :=
  placesAlong (if path.isAbsolute then [] else files.workingDirectory) path.components

/-- What stands at a place. -/
def lookUp (place : List String) : IO (Option Entry) := do
  try
    let content ← IO.FS.readBinFile (placeText place)
    return some (.file content.toList)
  catch fault =>
    match fault with
    | .inappropriateType _ 21 _ => return some .directory
    | _ => return none

/-- The day and the time of that day by universal time. -/
def currentMoment : IO Moment := do
  let timestamp ← Std.Time.Timestamp.now
  let now := Std.Time.PlainDateTime.ofWallTime (timestamp.toWallTime .zero)
  return {
    year := now.date.year.toInt.toNat
    month := now.date.month.val.toNat
    day := now.date.day.val.toNat
    hour := now.time.hour.val.toNat
    minute := now.time.minute.val.toNat
    second := now.time.second.val.toNat }

/-- Run the command until it has looked at known places only. -/
partial def runKnowing
    (known : List (List String))
    (surroundings : Surroundings)
    (arguments : List String) :
    IO Outcome := do
  let outcome := run surroundings arguments
  let looked := outcome.consulted.flatMap (placesTo surroundings.files)
  let unknown := (looked.filter fun place => !known.contains place).eraseDups
  if unknown.isEmpty then
    return outcome
  let found ← unknown.filterMapM fun place => do
    return (← lookUp place).map fun entry => (place, entry)
  let files :=
    { surroundings.files with entries := found ++ surroundings.files.entries }
  runKnowing (unknown ++ known) { surroundings with files := files } arguments

/-- What the command finds around it before any file is known. -/
def currentSurroundings : IO Surroundings := do
  let workingDirectory := (Path.ofText (← IO.currentDir).toString).components
  let homeDirectory := (Path.ofText ((← IO.getEnv "HOME").getD "/")).components
  return {
    files := {
      entries := []
      workingDirectory := workingDirectory
      homeDirectory := homeDirectory }
    now := ← currentMoment
    mark := String.ofList (Text.hexDigits 8 (← IO.rand 0 0xFFFFFFFF)) }

/-- Put a text in place by way of a temporary file. -/
def putInPlace (temporary target : Path) (text : String) : IO Unit := do
  IO.FS.withFile temporary.shown .writeNew fun handle => handle.putStr text
  try
    IO.FS.rename temporary.shown target.shown
  catch fault =>
    IO.FS.removeFile temporary.shown
    throw fault

end DocMarkup.CommandLine

open DocMarkup in
/-- Run the command with the given arguments. -/
def main (arguments : List String) : IO UInt32 := do
  let surroundings ← CommandLine.currentSurroundings
  let outcome ← CommandLine.runKnowing [] surroundings arguments
  IO.print outcome.standardOutput
  IO.eprint outcome.standardError
  if let some fault := outcome.fault then
    IO.eprintln fault.message
  match outcome.output with
  | none => return outcome.exitCode.toUInt32
  | some (target, text) =>
      let temporary := surroundings.files.temporaryPath target surroundings.mark
      try
        CommandLine.putInPlace temporary target text
        return outcome.exitCode.toUInt32
      catch fault =>
        IO.eprint
          (CommandLine.errorLine ("Error writing " ++ target.shown ++ ": " ++ toString fault))
        return 1
