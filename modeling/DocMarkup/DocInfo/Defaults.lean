import DocMarkup.DocInfo
import DocMarkup.Encoding
import DocMarkup.Event
import DocMarkup.Identifier
import DocMarkup.Moment
import DocMarkup.Text.Blank

namespace DocMarkup

/-!
# Complete document information

Every encoding requires some attributes and supplies others that are missing:
the identifier from the title, the revision from the moment of compilation, the
directory from the identifier, and the language.
-/

/-- Required attributes that are missing for an encoding. -/
structure MissingAttributes where
  names : List String
  encoding : Encoding
deriving DecidableEq, Repr

/-- The wording of the complaint. -/
def MissingAttributes.message (missing : MissingAttributes) : String :=
  "Document info is missing " ++ Text.joined ", " missing.names ++ " (required for " ++
    missing.encoding.name ++ " output)"

/-- The revision stamp of a moment. -/
def revisionStamp (encoding : Encoding) (moment : Moment) : String :=
  match encoding with
  | .html => moment.date "-"
  | .boostBook => "$Date: " ++ moment.date "/" ++ " " ++ moment.time ++ " $"

namespace DocInfo

/-- The names of the required attributes that are absent or blank. -/
def missingNames (info : DocInfo) (encoding : Encoding) : List String :=
  let title := if Text.isBlankText info.title then ["title"] else []
  match encoding with
  | .html => title
  | .boostBook => title ++ if Text.isBlankText (info.id.getD "") then ["id"] else []

/-- Trim the required attributes and fill in those that are implied. -/
def complete
    (info : DocInfo)
    (encoding : Encoding)
    (moment : Moment) :
    Except MissingAttributes DocInfo :=
  let trimmed :=
    { info with title := Text.trimmed info.title, id := info.id.map Text.trimmed }
  let missing := trimmed.missingNames encoding
  if missing.isEmpty then
    let id := if isGiven trimmed.id then trimmed.id else some (generateId trimmed.title)
    .ok
      { trimmed with
        id := id
        lastRevision :=
          if isGiven trimmed.lastRevision then
            trimmed.lastRevision
          else
            some (revisionStamp encoding moment)
        dirname :=
          if encoding = .boostBook && !isGiven trimmed.dirname then id else trimmed.dirname
        lang :=
          if encoding = .html && !isGiven trimmed.lang then some "en" else trimmed.lang }
  else
    .error ⟨missing, encoding⟩

/-- An attribute with a value that is not empty. -/
def givenAttribute (key : String) (value : Option String) : List Attribute :=
  if isGiven value then [(key, value.getD "")] else []

/-- The attributes of the document element. -/
def documentAttributes (info : DocInfo) : List Attribute :=
  ("doctype", if info.docType.isEmpty then "article" else info.docType) ::
    (givenAttribute "id" info.id ++ givenAttribute "dirname" info.dirname ++
      givenAttribute "last-revision" info.lastRevision ++ givenAttribute "lang" info.lang)

end DocInfo

end DocMarkup
