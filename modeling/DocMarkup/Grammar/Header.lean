import DocMarkup.DocInfo.Defaults
import DocMarkup.Grammar.Inner

namespace DocMarkup.Compile

/-!
# Headers of documents

The header opens the document element and shows the title, the authors, the
copyrights and what else the document says about itself. Title, licence and
purpose are phrases; one that cannot be read is shown as it is written.
-/

/-- Show a phrase of the document information. -/
def showField (inner : Inner) (position : Position) (markup : String) : Compile Unit := do
  let checkpoint := (← state).checkpoint
  let source : Source := { text := markup, name := position.file, origin := some position }
  if ← inner.expansion source then
    return ()
  else
    update fun state => (state.rollback checkpoint).text markup

/-- Show an author. -/
def showAuthor (state : CompilerState) (author : Author) : CompilerState :=
  let named :=
    ((state.startElement "author").leaf "firstname" author.firstname).leaf
      "surname" author.surname
  named.endElement "author"

/-- Show the authors, if there are any. -/
def showAuthors (authors : List Author) (state : CompilerState) : CompilerState :=
  if authors.isEmpty then
    state
  else
    (authors.foldl showAuthor (state.startElement "authorgroup")).endElement "authorgroup"

/-- Show a copyright. -/
def showCopyright (state : CompilerState) (notice : Copyright) : CompilerState :=
  let withYears :=
    notice.years.foldl (fun shown year => shown.leaf "year" year)
      (state.startElement "copyright")
  (withYears.leaf "holder" notice.holder).endElement "copyright"

/-- Show the licence, if there is one. -/
def showLicense (inner : Inner) (position : Position) (info : DocInfo) : Compile Unit := do
  if isGiven info.license then
    update fun state => (state.startElement "legalnotice").startElement "para"
    showField inner position (info.license.getD "")
    update fun state => (state.endElement "para").endElement "legalnotice"
  else
    return ()

/-- Show the purpose, if there is one. -/
def showPurpose (inner : Inner) (position : Position) (info : DocInfo) : Compile Unit := do
  if isGiven info.purpose then
    update fun state => state.startElement "purpose"
    showField inner position (info.purpose.getD "")
    update fun state => state.endElement "purpose"
  else
    return ()

/-- Show the category, if there is one. -/
def showCategory (info : DocInfo) (state : CompilerState) : CompilerState :=
  if isGiven info.category then state.leaf "category" (info.category.getD "") else state

/-- Show what a document says about itself beside its title. -/
def showDetails (inner : Inner) (position : Position) (info : DocInfo) : Compile Unit := do
  update fun state =>
    info.copyrights.foldl showCopyright (showAuthors info.authors (state.startElement "docinfo"))
  showLicense inner position info
  update fun state => state.endElement "docinfo"
  showPurpose inner position info
  update (showCategory info)

/-- Whether a document says anything about itself beside its title. -/
def hasDetails (info : DocInfo) : Bool :=
  !info.authors.isEmpty || !info.copyrights.isEmpty || isGiven info.license ||
    isGiven info.purpose || isGiven info.category

/--
Write the header of a document, and tell whether its information is complete.
Information to be ignored gives no header.
-/
def processDocInfo
    (environment : Environment)
    (inner : Inner)
    (info : DocInfo)
    (position : Position) :
    Compile Bool := do
  if info.ignore then
    return true
  else
    match info.complete environment.encoding environment.moment with
    | .error missing =>
        update fun state => state.reportError .metadata (some position) missing.message
        return false
    | .ok complete =>
        update fun state =>
          ({ state with docId := complete.id }.startElement "document"
            complete.documentAttributes).startElement "title"
        showField inner position complete.title
        update fun state => state.endElement "title"
        if hasDetails complete then
          showDetails inner position complete
          return true
        else
          return true

/-- Close what the header opened, and the sections left open. -/
def finishDocument (info : DocInfo) (state : CompilerState) : CompilerState :=
  if info.ignore then state else state.closeDocument

end DocMarkup.Compile
