import DocMarkup.Compiler.Output

namespace DocMarkup.CompilerState

/-!
# Sections, headings and tables

Sections, headings and titled tables have identifiers. An identifier is given or
made from the title, follows that of the innermost section or else that of the
document, and is numbered if it is in use.
-/

/-- The deepest level of a heading. -/
def deepestHeadingLevel : Nat :=
  6

/-- The identifier that new ones are put after. -/
def idPrefix (state : CompilerState) : Option String :=
  match state.sectionIds with
  | innermost :: _ =>
      if state.idScope < state.sectionIds.length then some innermost else state.docId
  | [] => state.docId

/-- Reserve the identifier of an element. -/
def elementId
    (state : CompilerState)
    (given : Option String)
    (title : String) :
    String × CompilerState :=
  let localId := if (given.getD "").isEmpty then generateId title else given.getD ""
  state.reserveId (qualify state.idPrefix localId)

/-- Open a section and its title. -/
def beginSection (state : CompilerState) (given : Option String) (title : String) : CompilerState :=
  let (identifier, reserved) := state.elementId given title
  let opened :=
    { reserved with
      sectionLevel := reserved.sectionLevel + 1
      sectionIds := identifier :: reserved.sectionIds }
  (opened.startElement "section" [("id", identifier)]).startElement "title"

/-- Close the title of a section. -/
def endSectionTitle (state : CompilerState) : CompilerState :=
  state.endElement "title"

/-- Whether an admonition or a block quote is open, where sections neither open nor close. -/
def isInNestedBlock (state : CompilerState) : Bool :=
  0 < state.blockNesting

/-- Open an admonition or a block quote. -/
def beginNestedBlock (state : CompilerState) (name : String) : CompilerState :=
  let opened := state.startElement name
  { opened with blockNesting := opened.blockNesting + 1 }

/-- Close an admonition or a block quote. -/
def endNestedBlock (state : CompilerState) (name : String) : CompilerState :=
  { state with blockNesting := state.blockNesting - 1 }.endElement name

/-- Open a heading; without a level it has that of the title of a section inside the current one. -/
def beginHeading (state : CompilerState) (level : Option Int) (title : String) : CompilerState :=
  let ownLevel := level.getD (Int.ofNat (min (state.sectionLevel + 1) deepestHeadingLevel))
  let (identifier, reserved) := state.elementId none title
  reserved.startElement "heading" [("level", toString ownLevel), ("id", identifier)]

/-- Close a heading. -/
def endHeading (state : CompilerState) : CompilerState :=
  state.endElement "heading"

/-- The element of a table with or without a title. -/
def tableElement (hasTitle : Bool) : String :=
  if hasTitle then "table" else "informaltable"

/-- Open a table, which has an identifier if one is given or if it has a title. -/
def beginTable
    (state : CompilerState)
    (given : Option String)
    (title : String)
    (hasTitle : Bool) :
    CompilerState :=
  if hasTitle || !(given.getD "").isEmpty then
    let (identifier, reserved) := state.elementId given title
    reserved.startElement (tableElement hasTitle) [("id", identifier)]
  else
    state.startElement (tableElement hasTitle)

/-- Close a section for each identifier. -/
def closeSections (state : CompilerState) (sectionIds : List String) : CompilerState :=
  sectionIds.foldl (fun closing _ => closing.endElement "section") state

/-- Close the sections left open and the document. -/
def closeDocument (state : CompilerState) : CompilerState :=
  (state.closeSections state.sectionIds).endElement "document"

end DocMarkup.CompilerState
