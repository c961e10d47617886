namespace DocMarkup

/-!
# Document information

A document starts with a block that names its type and its title and holds its
attributes. Title, purpose and licence are kept as markup; they are read as
phrases when the header of the document is written.
-/

/-- An author of a document. -/
structure Author where
  surname : String
  firstname : String
deriving DecidableEq, Repr

/-- A statement of copyright. -/
structure Copyright where
  years : List String
  holder : String
deriving DecidableEq, Repr

/-- What a document says about itself. A document to be ignored gets no header. -/
structure DocInfo where
  docType : String := ""
  title : String := ""
  id : Option String := none
  dirname : Option String := none
  version : Option String := none
  languageVersion : Option String := none
  authors : List Author := []
  copyrights : List Copyright := []
  purpose : Option String := none
  category : Option String := none
  license : Option String := none
  lastRevision : Option String := none
  sourceMode : Option String := none
  lang : Option String := none
  ignore : Bool := false
deriving DecidableEq, Repr

/-- The types of documents. -/
def documentTypes : List String :=
  ["book", "article", "library", "chapter", "part", "appendix", "preface", "qandadiv",
    "qandaset", "reference", "set"]

/-- Whether an optional value is there and not empty. -/
def isGiven (value : Option String) : Bool :=
  match value with
  | some text => !text.isEmpty
  | none => false

end DocMarkup
