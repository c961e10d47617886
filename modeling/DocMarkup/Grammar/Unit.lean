import DocMarkup.DocInfo.Reader
import DocMarkup.Grammar.Header

namespace DocMarkup.Compile

/-!
# Units of a compilation

A unit is the document itself or a file that it includes. A document starts with
its information, which an included file may lack and which is ignored there. All
the rest must be blocks.
-/

/-- Read the body of a unit, which must reach the end of the text. -/
def parseBody (inner : Inner) (info : DocInfo) (cursor : Cursor) : Compile Bool := do
  let stop ← inner.blocks false cursor
  if stop.isAtEnd then
    update (finishDocument info)
    return true
  else
    update fun state => state.markupError stop.position
    return false

/-- Read a unit with the given document information, from the cursor after it on. -/
def parseContent
    (environment : Environment)
    (inner : Inner)
    (source : Source)
    (info : DocInfo)
    (cursor : Cursor) :
    Compile Bool := do
  if ← processDocInfo environment inner info (source.position 0) then
    parseBody inner info cursor
  else
    return false

/-- Read the text of a unit. -/
def parseText
    (environment : Environment)
    (inner : Inner)
    (source : Source)
    (ignoreDocInfo : Bool) :
    Compile Bool :=
  match readDocInfo source.cursor with
  | .ok (info, next) =>
      parseContent environment inner source { info with ignore := ignoreDocInfo } next
  | .error fault => do
      if ignoreDocInfo then
        parseContent environment inner source { ignore := true } source.cursor
      else
        update fun state => state.docInfoError (source.position fault.offset)
        return false

/-- Read a unit, and warn about the sections that a document leaves open. -/
def parseUnit
    (environment : Environment)
    (inner : Inner)
    (source : Source)
    (ignoreDocInfo : Bool := false) :
    Compile Bool := do
  let parsed ← withFreshMemory (parseText environment inner source ignoreDocInfo)
  if ignoreDocInfo then
    return parsed
  else
    update fun state => state.endOfUnit (source.position source.text.length)
    return parsed

/-- Put a file on top of the include stack. -/
def pushFile (file : Path) (state : CompilerState) : CompilerState :=
  { state with includeStack := file :: state.includeStack }

/-- Take a file off the include stack. -/
def popFile (state : CompilerState) : CompilerState :=
  { state with includeStack := state.includeStack.tail }

/-- Read a unit that belongs to a file. -/
def parseUnitOf
    (environment : Environment)
    (inner : Inner)
    (file : Path)
    (source : Source)
    (ignoreDocInfo : Bool := false) :
    Compile Bool := do
  update (pushFile file)
  thenAlways (parseUnit environment inner source ignoreDocInfo) popFile

/-- Load a file and read it; a file that cannot be loaded is an error where it is named. -/
def parseFile
    (environment : Environment)
    (inner : Inner)
    (path : Path)
    (ignoreDocInfo : Bool := false)
    (origin : Option Position := none) :
    Compile Bool := do
  consult [path]
  match environment.files.loadSource path with
  | .error (.path fault) => throw (.path fault)
  | .error (.load fault) =>
      update fun state => state.loadFailed fault origin
      return false
  | .ok text =>
      let file ← ofPath (environment.files.resolve path)
      parseUnitOf environment inner file { text := text, name := path.shown } ignoreDocInfo

/-- Read an included file; with an identifier given, it stands for that of the document. -/
def parseIncluded
    (environment : Environment)
    (inner : Inner)
    (position : Position)
    (path : Path)
    (id : Option String) :
    Compile Unit := do
  let before ← state
  if isGiven id then
    update fun state => { state with docId := id, idScope := state.sectionIds.length }
  else
    pure ()
  let _ ←
    thenAlways (parseFile environment inner path true (some position))
      fun state => { state with docId := before.docId, idScope := before.idScope }

/--
Include a file. A file that is being read already, or one too many inside one
another, is an error instead.
-/
def includeFile
    (environment : Environment)
    (inner : Inner)
    (position : Position)
    (name : String)
    (id : Option String) :
    Compile Unit := do
  let before ← state
  let files := environment.files
  let requested ← ofPath ((Path.ofText name).expandHome files.homeDirectory)
  let places := files.includePlaces requested before.includeStack.head? environment.includePaths
  consult places
  let path := files.firstFile requested places
  let file ← ofPath (files.resolve path)
  if before.includeStack.contains file then
    update fun state => state.error position ("Recursive include of " ++ name)
  else if includeLimit ≤ before.includeStack.length then
    update fun state =>
      state.error position ("Include depth limit exceeded including " ++ name)
  else
    parseIncluded environment inner position path id

end DocMarkup.Compile
