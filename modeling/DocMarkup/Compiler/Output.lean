import DocMarkup.Compiler.Report
import DocMarkup.Identifier
import DocMarkup.Markup.Tree

namespace DocMarkup.CompilerState

/-!
# Output

The events of a document are added one after another. A paragraph that has begun
is opened by the first event inside it; one that ends without any leaves no
trace.
-/

/-- Add an event, and the start of the pending paragraph before it. -/
def emit (state : CompilerState) (event : Event) : CompilerState :=
  let started :=
    if state.pendingParagraph then
      state.events.push (.opening "para" [])
    else
      state.events
  { state with events := started.push event, pendingParagraph := false }

/-- Open an element. -/
def startElement
    (state : CompilerState)
    (name : String)
    (attributes : List Attribute := []) :
    CompilerState :=
  state.emit (.opening name attributes)

/-- Close an element. -/
def endElement (state : CompilerState) (name : String) : CompilerState :=
  state.emit (.closing name)

/-- Add an element without content. -/
def element
    (state : CompilerState)
    (name : String)
    (attributes : List Attribute := []) :
    CompilerState :=
  (state.startElement name attributes).endElement name

/-- Add character data, if there is any. -/
def text (state : CompilerState) (content : String) : CompilerState :=
  if content.isEmpty then state else state.emit (.text content)

/-- Add an element that holds character data. -/
def leaf (state : CompilerState) (name content : String) : CompilerState :=
  ((state.startElement name).text content).endElement name

/-- Pass markup through as it stands; markup that is not balanced is an error and becomes text. -/
def raw
    (state : CompilerState)
    (position : Option Position)
    (content : String) :
    CompilerState :=
  match Markup.findError? content with
  | none => state.emit (.raw content)
  | some problem =>
      (state.reportError .structural position
        ("Invalid markup in escape: " ++ problem.message)).text content

/-- Add events that are known already. -/
def replay (state : CompilerState) (events : List Event) : CompilerState :=
  events.foldl emit state

/-- Add a block of code. -/
def codeBlock (state : CompilerState) (code : String) : CompilerState :=
  state.leaf "programlisting" code

/-- Add code inside a line. -/
def inlineCode (state : CompilerState) (code : String) : CompilerState :=
  state.leaf "code" code

/-- The description of an image: the name of its file in words. -/
def imageDescription (fileref : String) : String :=
  let pieces :=
    Text.piecesFrom (fun character => character == '_' || character == '-') []
      (Path.ofText fileref).stem.toList
  Text.trimmed (Text.joined " " (pieces.map String.ofList))

/-- Add an image. -/
def image (state : CompilerState) (fileref : String) : CompilerState :=
  state.element "image" [("fileref", fileref), ("alt", imageDescription fileref)]

/-- Add a reference to a document that is included when the output is processed. -/
def externalInclusion (state : CompilerState) (name : String) : CompilerState :=
  state.element "xinclude" [("href", (Path.ofText name).shown)]

/-- Begin a paragraph. -/
def beginParagraph (state : CompilerState) : CompilerState :=
  { state with pendingParagraph := true }

/-- End a paragraph. -/
def endParagraph (state : CompilerState) : CompilerState :=
  if state.pendingParagraph then
    { state with pendingParagraph := false }
  else
    state.endElement "para"

end DocMarkup.CompilerState
