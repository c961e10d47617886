import DocMarkup.Bracket
import DocMarkup.DocInfo
import DocMarkup.Text.Digit

namespace DocMarkup

/-!
# Reading document information

The block opens with the document type and the title, which may be followed by
attributes in brackets and comments, and closes with a bracket. An attribute
may occur once, authors and copyrights may be given in several parts. A block
that breaks a rule is refused, and the place where reading stopped is reported.
-/

/-- Characters of the name of an attribute. -/
def isDocInfoNameCharacter (character : Char) : Bool :=
  character.isLower || character == '-'

/-- The name of the attribute whose bracket was just opened. -/
def docInfoName? (characters : List Char) : Option String :=
  let name := characters.takeWhile isDocInfoNameCharacter
  match name, characters.drop name.length with
  | first :: _, next :: _ =>
      if first.isLower && (Text.isBlank next || next == ']') then
        some (String.ofList name)
      else
        none
  | _, _ => none

/-- The names of the attributes of a document. -/
def docInfoNames : List String :=
  ["quickbook", "id", "dirname", "version", "purpose", "category", "license",
    "last-revision", "source-mode", "lang", "authors", "copyright"]

/-- Whether an attribute follows an opening bracket, which then ends the title. -/
def startsDocInfoAttribute (characters : List Char) : Bool :=
  match docInfoName? characters with
  | some name => docInfoNames.contains name
  | none => false

/-- Read the title, without the blanks around it. -/
def readTitle (cursor : Cursor) : String × Cursor :=
  let length := titleLength startsDocInfoAttribute 0 cursor.rest
  (String.ofList (Text.trim (cursor.rest.take length)), cursor.advance length)

/-- Characters that may not stand in the name of an author. -/
def isAuthorBracket (character : Char) : Bool :=
  character == '[' || character == ']'

/-- The surname in the text before a comma: a blank text stands for its last blank. -/
def surname? (beforeComma : List Char) : Option (List Char) :=
  match Text.trim beforeComma with
  | [] => beforeComma.getLast?.map fun blank => [blank]
  | name => some name

/-- An author in brackets at the front of a text, and what follows with the comma. -/
def readAuthor? (characters : List Char) : Option (Author × List Char) :=
  match characters.dropWhile Text.isBlank with
  | '[' :: content =>
      let endsSurname (character : Char) : Bool := isAuthorBracket character || character == ','
      let beforeComma := content.takeWhile fun character => !endsSurname character
      match surname? beforeComma, content.drop beforeComma.length with
      | some surname, ',' :: afterComma =>
          let beforeBracket := afterComma.takeWhile fun character => !isAuthorBracket character
          let author : Author :=
            { surname := String.ofList surname
              firstname := String.ofList (Text.trim beforeBracket) }
          match afterComma.drop beforeBracket.length with
          | ']' :: afterBracket =>
              match afterBracket.dropWhile Text.isBlank with
              | ',' :: rest => some (author, rest)
              | [] => some (author, [])
              | _ :: _ => none
          | _ => none
      | _, _ => none
  | _ => none

/-- All authors of a list, read in as many steps as the list has characters. -/
def readAuthors? : Nat → List Char → Option (List Author)
  | _, [] => some []
  | 0, _ :: _ => none
  | steps + 1, characters =>
      match readAuthor? characters with
      | none => none
      | some (author, rest) => (readAuthors? steps rest).map (author :: ·)

/-- The authors of an attribute; there must be one. -/
def authors? (value : String) : Option (List Author) :=
  let characters := Text.trim value.toList
  (readAuthors? characters.length characters).filter fun authors => !authors.isEmpty

/-- Characters between the years of a copyright. -/
def isYearSeparator (character : Char) : Bool :=
  Text.isBlank character || character == ',' || character == '-'

/-- Read years of four digits, as many as follow one another, and return what remains. -/
def readYears : List Char → List String × List Char
  | first :: second :: third :: fourth :: rest =>
      let year := [first, second, third, fourth]
      let startsWithDigit :=
        match rest with
        | next :: _ => Text.isDecimalDigit next
        | [] => false
      if year.all Text.isDecimalDigit && !startsWithDigit then
        let (years, holder) := readYears (rest.drop (Text.runLength isYearSeparator rest))
        (String.ofList year :: years, holder)
      else
        ([], first :: second :: third :: fourth :: rest)
  | characters => ([], characters)
termination_by characters => characters.length
decreasing_by
  simp only [List.length_drop, List.length_cons]
  omega

/-- The copyright of an attribute: years, and a holder. -/
def copyright? (value : String) : Option Copyright :=
  let (years, rest) := readYears (Text.trim value.toList)
  let holder := Text.trim rest
  if years.isEmpty || holder.isEmpty then
    none
  else
    some { years := years, holder := String.ofList holder }

/-- Whether a text is a version of the language: digits, a dot and digits. -/
def isLanguageVersion (value : String) : Bool :=
  let characters := value.toList
  let major := characters.takeWhile Text.isDecimalDigit
  match characters.drop major.length with
  | '.' :: minor => !major.isEmpty && !minor.isEmpty && minor.all Text.isDecimalDigit
  | _ => false

namespace DocInfo

/-- Set an attribute that holds a single value, if it is known, allowed and not yet set. -/
def withValue? (info : DocInfo) (name value : String) : Option DocInfo :=
  match name with
  | "quickbook" =>
      if info.languageVersion.isNone && isLanguageVersion value then
        some { info with languageVersion := some value }
      else
        none
  | "id" => if info.id.isNone then some { info with id := some value } else none
  | "dirname" =>
      if info.dirname.isNone then some { info with dirname := some value } else none
  | "version" =>
      if info.version.isNone then some { info with version := some value } else none
  | "purpose" =>
      if info.purpose.isNone then some { info with purpose := some value } else none
  | "category" =>
      if info.category.isNone then some { info with category := some value } else none
  | "license" =>
      if info.license.isNone then some { info with license := some value } else none
  | "last-revision" =>
      if info.lastRevision.isNone then some { info with lastRevision := some value } else none
  | "source-mode" =>
      if info.sourceMode.isNone then some { info with sourceMode := some value } else none
  | "lang" => if info.lang.isNone then some { info with lang := some value } else none
  | _ => none

/-- Add an attribute. -/
def withAttribute? (info : DocInfo) (name value : String) : Option DocInfo :=
  match name with
  | "authors" =>
      (authors? value).map fun authors => { info with authors := info.authors ++ authors }
  | "copyright" =>
      (copyright? value).map fun notice =>
        { info with copyrights := info.copyrights ++ [notice] }
  | _ => info.withValue? name (Text.trimmed value)

end DocInfo

/-- The offset at which a block of document information could not be read on. -/
structure DocInfoFault where
  offset : Nat
deriving DecidableEq, Repr

/-- Read the attributes and the closing bracket of a block. -/
def readDocInfoAttributes
    (info : DocInfo)
    (cursor : Cursor) :
    Except DocInfoFault (DocInfo × Cursor) :=
  let entry := cursor.skipComments
  match entry.close? with
  | some next => .ok (info, next)
  | none =>
      match _opened : entry.rest with
      | '[' :: content =>
          match docInfoName? content with
          | none => .error ⟨entry.offset⟩
          | some name =>
              let valueStart := (entry.advance (name.length + 1)).skipBlank
              match _read : valueStart.balanced? with
              | none => .error ⟨valueStart.offset⟩
              | some (value, atBracket) =>
                  match info.withAttribute? name value with
                  | none => .error ⟨atBracket.offset⟩
                  | some extended => readDocInfoAttributes extended (atBracket.advance 1)
      | _ => .error ⟨entry.offset⟩
termination_by cursor.rest.length
decreasing_by
  have toBracket := Cursor.length_rest_balanced?_le _read
  have toValue :
      valueStart.rest.length ≤ (entry.advance (name.length + 1)).rest.length :=
    Cursor.length_rest_skipBlank_le _
  have toEntry : entry.rest.length ≤ cursor.rest.length :=
    cursor.length_rest_skipComments_le
  have total := congrArg List.length _opened
  simp only [Cursor.rest_advance, List.length_drop, List.length_cons] at *
  omega

/-- Read a block of document information, with the blanks behind it on its last line. -/
def readDocInfo (cursor : Cursor) : Except DocInfoFault (DocInfo × Cursor) :=
  let block := cursor.skipComments
  let opened? (docType : String) : Option (String × Cursor) :=
    (block.keyword? ("[" ++ docType)).map fun next => (docType, next)
  match documentTypes.findSome? opened? with
  | none => .error ⟨block.offset⟩
  | some (docType, afterType) =>
      let (title, afterTitle) := readTitle afterType.skipHorizontal
      match readDocInfoAttributes { docType := docType, title := title } afterTitle with
      | .error fault => .error fault
      | .ok (info, next) => .ok (info, next.lineEnd?.getD next)

end DocMarkup
