import DocMarkup.Text.Quoted

namespace DocMarkup

/-!
# Output encodings

A document is written as BoostBook XML or as HTML.
-/

/-- The languages in which a document can be written. -/
inductive Encoding where
  | boostBook
  | html
deriving DecidableEq, Repr

namespace Encoding

/-- The name by which settings choose an encoding. -/
def name : Encoding → String
  | .boostBook => "boostbook"
  | .html => "html"

/-- Every encoding, in the order in which messages list them. -/
def all : List Encoding :=
  [.boostBook, .html]

/-- The encoding of a name. -/
def ofName? (wanted : String) : Option Encoding :=
  all.find? fun encoding => encoding.name == wanted

/-- The end of the names of files in an encoding. -/
def fileExtension : Encoding → String
  | .boostBook => ".xml"
  | .html => ".html"

/-- The names of all encodings, for messages. -/
def allNames : String :=
  String.intercalate ", " (all.map name)

/-- What is wrong with a name that no encoding has. -/
def unknownMessage (wanted : String) : String :=
  "Unknown encoder " ++ Text.quoted wanted ++ " (expected one of: " ++ allNames ++ ")"

end Encoding

end DocMarkup
