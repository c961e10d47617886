import DocMarkup.Text.AsciiForm
import DocMarkup.Text.Blank

namespace DocMarkup

/-!
# Identifiers

Identifiers of sections, headings and documents are made from their titles. The
text is reduced to ASCII and to lower case, and its maximal runs of letters and
digits are joined by underscores. An identifier that would start with a digit
gets an underscore in front, and a text without letters and digits has a fixed
identifier.
-/

/-- The identifier of a text that holds neither a letter nor a digit. -/
def fallbackIdentifier : String :=
  "id"

/--
The identifier of a text, for a given way of normalising it. Characters outside
ASCII that normalisation leaves are dropped.
-/
def generateIdWith (normalise : List Char → List Char) (text : String) : String :=
  let lowered :=
    ((normalise text.toList).filter fun character => character.toNat < 128).map Char.toLower
  let groups := Text.piecesFrom (fun character => !character.isAlphanum) [] lowered
  match List.intercalate ['_'] groups with
  | [] => fallbackIdentifier
  | first :: rest =>
      if first.isDigit then
        String.ofList ('_' :: first :: rest)
      else
        String.ofList (first :: rest)

/-- The identifier of a text, from the ASCII characters of its compatibility decomposition. -/
def generateId (text : String) : String :=
  generateIdWith Text.asciiForms text

/-- Put the identifier of a parent in front of a local one, with a dot between them. -/
def qualify (parent : Option String) (identifier : String) : String :=
  match parent with
  | none => identifier
  | some parentId => if parentId.isEmpty then identifier else parentId ++ "." ++ identifier

end DocMarkup
