import DocMarkup.Encoding.Escape

namespace DocMarkup

/-!
# The state of rendering

Rendering walks over the events once. It remembers the open elements with the
text that closes each of them, the document type, and the page written so far.
The head of an HTML page shows the title, which is only known later, so the page
is kept in three pieces: what stands before the title of the head, that title,
and what follows.
-/

/-- An open element and the text that closes it. -/
structure OpenElement where
  name : String
  closing : String
deriving DecidableEq, Repr

/-- The texts that open and close an element. -/
structure TagPair where
  opening : String
  closing : String
deriving DecidableEq, Repr

/-- What has been rendered so far, and the elements that are still open, innermost first. -/
structure Rendering where
  opened : List OpenElement := []
  docType : String := "article"
  before : String := ""
  headTitle : String := ""
  body : String := ""
  hasHead : Bool := false
  titleText : Option String := none
deriving DecidableEq, Repr

namespace Rendering

/-- The names of the open elements, innermost first. -/
def openNames (rendering : Rendering) : List String :=
  rendering.opened.map OpenElement.name

/-- Everything rendered so far. -/
def output (rendering : Rendering) : String :=
  rendering.before ++ rendering.headTitle ++ rendering.body

/-- Add text at the end of the page. -/
def append (rendering : Rendering) (text : String) : Rendering :=
  { rendering with body := rendering.body ++ text }

end Rendering

/-- Elements after which a line ends, so that raw output can be read. -/
def blockElements : List String :=
  ["document", "docinfo", "authorgroup", "author", "copyright", "legalnotice", "purpose",
    "category", "section", "title", "para", "simpara", "programlisting", "itemizedlist",
    "orderedlist", "listitem", "variablelist", "varlistentry", "term", "table",
    "informaltable", "tgroup", "thead", "tbody", "row", "entry", "note", "tip", "important",
    "caution", "warning", "blurb", "blockquote", "heading", "xinclude"]

/-- The tags of an element with the given name and attributes. -/
def tagPair (tag : String) (attributes : List Attribute) : TagPair :=
  { opening := "<" ++ tag ++ renderAttributes attributes ++ ">"
    closing := "</" ++ tag ++ ">" }

/-- End the line after the closing tag of a block element. -/
def TagPair.ofBlock (name : String) (pair : TagPair) : TagPair :=
  if blockElements.contains name then
    { pair with closing := pair.closing ++ "\n" }
  else
    pair

end DocMarkup
