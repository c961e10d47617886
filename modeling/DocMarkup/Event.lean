namespace DocMarkup

/-!
# Output events

A document is turned into a stream of events in the vocabulary of the compiler:
elements that open and close, character data, and markup that is passed through
as it stands. The stream is balanced when its elements open and close like
brackets.
-/

/-- A named value on an element. -/
abbrev Attribute :=
  String × String

/-- One item of a document's output. -/
inductive Event where
  | opening (name : String) (attributes : List Attribute)
  | closing (name : String)
  | text (content : String)
  | raw (content : String)
deriving DecidableEq, Repr

/-- The value of the first attribute of a name. -/
def attribute? (attributes : List Attribute) (key : String) : Option String :=
  (attributes.find? fun entry => entry.1 == key).map (·.2)

/-- An element of a stream, as it was opened. -/
abbrev Element :=
  String × List Attribute

/-- Open an element on a stack of open elements, innermost first, or close the innermost. -/
def Event.openElements? (opened : List Element) : Event → Option (List Element)
  | .opening name attributes => some ((name, attributes) :: opened)
  | .closing name =>
      match opened with
      | innermost :: outer => if innermost.1 = name then some outer else none
      | [] => none
  | .text _ => some opened
  | .raw _ => some opened

/-- The elements left open by a stream, innermost first, if no end is misplaced. -/
def openElementsAfter? (opened : List Element) (events : List Event) : Option (List Element) :=
  events.foldlM Event.openElements? opened

end DocMarkup
