import DocMarkup.Grammar.Unit
import DocMarkup.Proofs.DocInfo.Origin
import DocMarkup.Proofs.Grammar.Parser
import DocMarkup.Proofs.Mirror.Block

namespace DocMarkup

/-!
# Units in a frame

A unit is read alike, with the file that it belongs to on the include stack. What
a document says about itself is shown alike field by field, each as a source of its
own. An included file gets no header, so that it does not matter for which encoding
and at which moment it is read.
-/

/-- A setting knows the fields of a document that are read as phrases, at a position. -/
structure Setting.KnowsFields
    (setting : Setting)
    (position : Position)
    (info : DocInfo) :
    Prop where
  title :
    setting.known { text := info.title, name := position.file, origin := some position }
  license :
    ∀ markup,
      info.license = some markup →
        setting.known { text := markup, name := position.file, origin := some position }
  purpose :
    ∀ markup,
      info.purpose = some markup →
        setting.known { text := markup, name := position.file, origin := some position }

namespace Compile

variable {setting : Setting} {stack : List Path} {inner reflection : Inner}
  {environment otherEnvironment : Environment}

/-! ## Headers -/

/-- A field is shown alike. -/
private theorem showField_mirrors
    (mirror : inner.Mirrors setting stack reflection)
    {position : Position}
    {markup : String}
    (isKnown :
      setting.known { text := markup, name := position.file, origin := some position }) :
    Mirrors setting stack (showField inner position markup) (showField reflection position markup)
      fun _ => True := by
  unfold showField
  refine .state fun before _ => ?_
  refine (expansion_mirrors mirror isKnown false).bind ?_
  rintro (_ | _) -
  · simp only [Bool.false_eq_true, ↓reduceIte]
    refine .update (by simp) (fun _ reported => ?_) trivial
    rw [CompilerState.reported_text]
    exact reported.rollback _
  · exact .pure trivial

/-- What shows one item shows all items of a list behind what was written earlier. -/
private theorem foldl_behind
    {showItem : CompilerState → α → CompilerState}
    (each :
      ∀ (state : CompilerState) earlier item,
        showItem (state.behind earlier) item = (showItem state item).behind earlier)
    (state : CompilerState)
    (earlier : Frame)
    (items : List α) :
    items.foldl showItem (state.behind earlier) =
      (items.foldl showItem state).behind earlier := by
  induction items generalizing state with
  | nil =>
      rfl
  | cons item others inductionHypothesis =>
      rw [List.foldl_cons, List.foldl_cons, each, inductionHypothesis]

/-- What reports nothing for one item reports nothing for a list of them. -/
private theorem reported_foldl
    {known : Source → Prop}
    {showItem : CompilerState → α → CompilerState}
    (each :
      ∀ (state : CompilerState) item,
        (showItem state item).Reported known stack ↔ state.Reported known stack)
    (state : CompilerState)
    (items : List α) :
    (items.foldl showItem state).Reported known stack ↔ state.Reported known stack := by
  induction items generalizing state with
  | nil =>
      exact Iff.rfl
  | cons item others inductionHypothesis =>
      rw [List.foldl_cons, inductionHypothesis, each]

/-- The authors and the copyrights of a document. -/
private def showPeople (info : DocInfo) (state : CompilerState) : CompilerState :=
  info.copyrights.foldl showCopyright
    (showAuthors info.authors (state.startElement "docinfo"))

/-- They are shown behind what was written earlier. -/
private theorem showPeople_behind
    (info : DocInfo)
    (state : CompilerState)
    (earlier : Frame) :
    showPeople info (state.behind earlier) = (showPeople info state).behind earlier := by
  have author :
      ∀ (state : CompilerState) earlier author,
        showAuthor (state.behind earlier) author = (showAuthor state author).behind earlier := by
    simp [showAuthor]
  have notice :
      ∀ (state : CompilerState) earlier notice,
        showCopyright (state.behind earlier) notice =
          (showCopyright state notice).behind earlier := by
    intro state earlier notice
    have years :
        ∀ (state : CompilerState) (items : List String),
          items.foldl (fun shown year => shown.leaf "year" year) (state.behind earlier) =
            (items.foldl (fun shown year => shown.leaf "year" year) state).behind earlier :=
      fun state => foldl_behind (fun _ _ _ => CompilerState.leaf_behind ..) state earlier
    simp only [showCopyright, CompilerState.startElement_behind, years,
      CompilerState.leaf_behind, CompilerState.endElement_behind]
  unfold showPeople showAuthors
  rw [CompilerState.startElement_behind]
  split
  · rw [foldl_behind notice]
  · rw [CompilerState.startElement_behind, foldl_behind author,
      CompilerState.endElement_behind, foldl_behind notice]

/-- Showing them reports nothing. -/
private theorem reported_showPeople
    {known : Source → Prop}
    (info : DocInfo)
    (state : CompilerState) :
    (showPeople info state).Reported known stack ↔ state.Reported known stack := by
  have author :
      ∀ (state : CompilerState) author,
        (showAuthor state author).Reported known stack ↔ state.Reported known stack := by
    simp [showAuthor]
  have notice :
      ∀ (state : CompilerState) notice,
        (showCopyright state notice).Reported known stack ↔ state.Reported known stack := by
    intro state notice
    have years :
        ∀ (state : CompilerState) (items : List String),
          (items.foldl (fun shown year => shown.leaf "year" year) state).Reported known stack ↔
            state.Reported known stack :=
      reported_foldl fun _ _ => CompilerState.reported_leaf ..
    simp only [showCopyright, CompilerState.reported_endElement, CompilerState.reported_leaf,
      years, CompilerState.reported_startElement]
  unfold showPeople showAuthors
  rw [reported_foldl notice]
  split
  · exact Iff.rfl
  · rw [CompilerState.reported_endElement, reported_foldl author]
    exact Iff.rfl

/-- A field that may be missing is known if it is given. -/
private theorem known_of_isGiven
    {position : Position}
    {field : Option String}
    (isKnown :
      ∀ markup,
        field = some markup →
          setting.known { text := markup, name := position.file, origin := some position })
    (given : isGiven field = true) :
    setting.known { text := field.getD "", name := position.file, origin := some position } := by
  cases field with
  | none =>
      simp [isGiven] at given
  | some markup =>
      exact isKnown markup rfl

private theorem showLicense_mirrors
    (mirror : inner.Mirrors setting stack reflection)
    {position : Position}
    {info : DocInfo}
    (fields : setting.KnowsFields position info) :
    Mirrors setting stack (showLicense inner position info) (showLicense reflection position info)
      fun _ => True := by
  unfold showLicense
  split
  next given =>
    refine .updateThen (by simp) (by simp) ?_
    refine (showField_mirrors mirror (known_of_isGiven fields.license given)).bind fun _ _ => ?_
    exact .update (by simp) (by simp) trivial
  next =>
    exact .pure trivial

private theorem showPurpose_mirrors
    (mirror : inner.Mirrors setting stack reflection)
    {position : Position}
    {info : DocInfo}
    (fields : setting.KnowsFields position info) :
    Mirrors setting stack (showPurpose inner position info) (showPurpose reflection position info)
      fun _ => True := by
  unfold showPurpose
  split
  next given =>
    refine .updateThen (by simp) (by simp) ?_
    refine (showField_mirrors mirror (known_of_isGiven fields.purpose given)).bind fun _ _ => ?_
    exact .update (by simp) (by simp) trivial
  next =>
    exact .pure trivial

/-- All that a document says about itself beside its title is shown alike. -/
private theorem showDetails_mirrors
    (mirror : inner.Mirrors setting stack reflection)
    {position : Position}
    {info : DocInfo}
    (fields : setting.KnowsFields position info) :
    Mirrors setting stack (showDetails inner position info) (showDetails reflection position info)
      fun _ => True := by
  unfold showDetails
  refine .updateThen (fun _ => showPeople_behind ..) (fun _ reported => ?_) ?_
  · exact (reported_showPeople info _).mpr reported
  refine (showLicense_mirrors mirror fields).bind fun _ _ => ?_
  refine .updateThen (by simp) (by simp) ?_
  refine (showPurpose_mirrors mirror fields).bind fun _ _ => ?_
  refine .update (fun before => ?_) (fun before reported => ?_) trivial
  · unfold showCategory
    split <;> simp
  · unfold showCategory
    split <;> simpa using reported

/-- Begin the document and its title. -/
def startHeader (info : DocInfo) (state : CompilerState) : CompilerState :=
  ({ state with docId := info.id }.startElement "document" info.documentAttributes).startElement
    "title"

/-- Show the title and the rest of a header that has begun. -/
def showHeader (inner : Inner) (position : Position) (info : DocInfo) : Compile Bool := do
  showField inner position info.title
  update fun state => state.endElement "title"
  if hasDetails info then
    showDetails inner position info
    return true
  else
    return true

/-- The header of a document whose information is complete begins and is shown. -/
theorem processDocInfo_of_complete
    {info complete : DocInfo}
    (isShown : info.ignore = false)
    (isComplete : info.complete environment.encoding environment.moment = .ok complete)
    (position : Position) :
    processDocInfo environment inner info position = (do
      update (startHeader complete)
      showHeader inner position complete) := by
  unfold processDocInfo
  simp only [isShown, Bool.false_eq_true, ↓reduceIte, isComplete]
  rfl

/-- A header that has begun is shown alike. -/
theorem showHeader_mirrors
    (mirror : inner.Mirrors setting stack reflection)
    {position : Position}
    {info : DocInfo}
    (fields : setting.KnowsFields position info) :
    Mirrors setting stack (showHeader inner position info) (showHeader reflection position info)
      fun _ => True := by
  unfold showHeader
  refine (showField_mirrors mirror fields.title).bind fun _ _ => ?_
  refine .updateThen (by simp) (by simp) ?_
  split
  · exact (showDetails_mirrors mirror fields).bind fun _ _ => .pure trivial
  · exact .pure trivial

/-- The header of a document is written alike, for the same encoding at the same moment. -/
theorem processDocInfo_mirrors
    (mirror : inner.Mirrors setting stack reflection)
    {position : Position}
    (isIn : position.IsIn setting.known)
    {info : DocInfo}
    (fields :
      ∀ complete,
        info.complete environment.encoding environment.moment = .ok complete →
          setting.KnowsFields position complete) :
    Mirrors setting stack (processDocInfo environment inner info position)
      (processDocInfo environment reflection info position)
      fun _ => True := by
  cases isShown : info.ignore with
  | true =>
      unfold processDocInfo
      simp only [isShown, ↓reduceIte]
      exact .pure trivial
  | false =>
      cases isComplete : info.complete environment.encoding environment.moment with
      | error missing =>
          unfold processDocInfo
          simp only [isShown, Bool.false_eq_true, ↓reduceIte, isComplete]
          refine .updateThen (by simp) (fun _ reported => ?_) (.pure trivial)
          refine reported.reportError _ isIn (ne_undefinedMessage ?_)
          unfold MissingAttributes.message
          simp
      | ok complete =>
          simp only [processDocInfo_of_complete isShown isComplete]
          refine .updateThen (fun before => ?_) (fun _ reported => reported) ?_
          · show
              (({ before with docId := complete.id }.behind _).startElement "document"
                complete.documentAttributes).startElement "title" = _
            rw [CompilerState.startElement_behind, CompilerState.startElement_behind]
            rfl
          · exact showHeader_mirrors mirror (fields complete isComplete)

/-- Information that is to be ignored gives no header, whatever the conditions are. -/
theorem processDocInfo_ignored_mirrors
    {info : DocInfo}
    (isIgnored : info.ignore = true)
    (position : Position) :
    Mirrors setting stack (processDocInfo environment inner info position)
      (processDocInfo otherEnvironment reflection info position)
      fun _ => True := by
  unfold processDocInfo
  simp only [isIgnored, ↓reduceIte]
  exact .pure trivial

/-! ## Bodies -/

/-- The body of a unit is read alike. -/
theorem parseBody_mirrors
    (mirror : inner.Mirrors setting stack reflection)
    (info : DocInfo)
    {cursor : Cursor}
    (isIn : cursor.IsIn setting.known) :
    Mirrors setting stack (parseBody inner info cursor) (parseBody reflection info cursor)
      fun _ => True := by
  unfold parseBody
  refine (mirror.blocks false isIn).bind fun stop leads => ?_
  split
  · refine .updateThen (fun before => ?_) (fun before reported => ?_) (.pure trivial)
    · unfold finishDocument
      split <;> simp
    · unfold finishDocument
      split <;> simpa using reported
  · refine .updateThen (by simp) (fun _ reported => ?_) (.pure trivial)
    exact reported.reportError _ (isIn.leads leads).position (ne_undefinedMessage (by simp))

/-- A unit is read alike if its header is. -/
private theorem parseContent_mirrors
    (mirror : inner.Mirrors setting stack reflection)
    {source : Source}
    {info : DocInfo}
    (header :
      Mirrors setting stack (processDocInfo environment inner info (source.position 0))
        (processDocInfo otherEnvironment reflection info (source.position 0))
        fun _ => True)
    {cursor : Cursor}
    (isIn : cursor.IsIn setting.known) :
    Mirrors setting stack (parseContent environment inner source info cursor)
      (parseContent otherEnvironment reflection source info cursor)
      fun _ => True := by
  unfold parseContent
  refine header.bind ?_
  rintro (_ | _) -
  · exact .pure trivial
  · exact parseBody_mirrors mirror info isIn

/-- So is the text of a unit. -/
theorem parseText_mirrors
    (mirror : inner.Mirrors setting stack reflection)
    {source : Source}
    (isKnown : setting.known source)
    (ignoreDocInfo : Bool)
    (header :
      ∀ info next,
        readDocInfo source.cursor = .ok (info, next) →
          Mirrors setting stack
            (processDocInfo environment inner { info with ignore := ignoreDocInfo }
              (source.position 0))
            (processDocInfo otherEnvironment reflection { info with ignore := ignoreDocInfo }
              (source.position 0))
            fun _ => True) :
    Mirrors setting stack (parseText environment inner source ignoreDocInfo)
      (parseText otherEnvironment reflection source ignoreDocInfo)
      fun _ => True := by
  have start : source.cursor.IsIn setting.known := .start isKnown
  unfold parseText
  split
  next info next read =>
    exact
      parseContent_mirrors mirror (header info next read) (start.leads (readDocInfo_leads read).2)
  next fault read =>
    split
    · exact parseContent_mirrors mirror (processDocInfo_ignored_mirrors rfl _) start
    · refine .updateThen (by simp) (fun _ reported => ?_) (.pure trivial)
      exact reported.reportError _
        ⟨source, fault.offset, isKnown, readDocInfo_inside start.inside read, rfl⟩
        (ne_undefinedMessage (by simp))

/-! ## Units -/

/-- A unit is read alike with its file on the include stack, if its text is. -/
theorem parseUnitOf_mirrors
    {source : Source}
    (isKnown : setting.known source)
    (ignoreDocInfo : Bool)
    (file : Path)
    (text :
      Mirrors setting (file :: stack) (parseText environment inner source ignoreDocInfo)
        (parseText otherEnvironment reflection source ignoreDocInfo)
        fun _ => True) :
    Mirrors setting stack (parseUnitOf environment inner file source ignoreDocInfo)
      (parseUnitOf otherEnvironment reflection file source ignoreDocInfo)
      fun _ => True := by
  have unit :
      Mirrors setting (file :: stack) (parseUnit environment inner source ignoreDocInfo)
        (parseUnit otherEnvironment reflection source ignoreDocInfo)
        fun _ => True := by
    unfold parseUnit
    refine text.withFreshMemory.bind fun parsed _ => ?_
    split
    · exact .pure trivial
    · refine .updateThen (by simp) (fun _ reported => ?_) (.pure trivial)
      exact reported.endOfUnit ⟨source, source.text.length, isKnown, Nat.le_refl _, rfl⟩
  intro workspace reported
  obtain ⟨same, reached⟩ :=
    unit { workspace with state := pushFile file workspace.state }
      ⟨congrArg (file :: ·) reported.1, reported.2⟩
  refine ⟨thenAlways_framed same fun _ => rfl, ?_⟩
  change
    ∀ value after,
      thenAlways (parseUnit environment inner source ignoreDocInfo) popFile
          { workspace with state := pushFile file workspace.state } = .ok value after →
        True ∧ after.state.Reported setting.known stack
  unfold thenAlways
  cases outcome :
      parseUnit environment inner source ignoreDocInfo
        { workspace with state := pushFile file workspace.state } with
  | ok value after =>
      obtain ⟨-, stillReported⟩ := reached value after outcome
      rintro _ _ ⟨⟩
      refine ⟨trivial, ?_, stillReported.2⟩
      show after.state.includeStack.tail = stack
      rw [stillReported.1, List.tail_cons]
  | error fault after =>
      rintro _ _ ⟨⟩

/-- Show a header that has begun, and read the body that follows it. -/
def restOfText
    (inner : Inner)
    (position : Position)
    (info complete : DocInfo)
    (cursor : Cursor) :
    Compile Bool := do
  if ← showHeader inner position complete then parseBody inner info cursor else return false

/-- The rest of a text whose header has begun is read alike. -/
private theorem restOfText_mirrors
    (mirror : inner.Mirrors setting stack reflection)
    {position : Position}
    {complete : DocInfo}
    (fields : setting.KnowsFields position complete)
    (info : DocInfo)
    {cursor : Cursor}
    (isIn : cursor.IsIn setting.known) :
    Mirrors setting stack (restOfText inner position info complete cursor)
      (restOfText reflection position info complete cursor)
      fun _ => True := by
  unfold restOfText
  refine (showHeader_mirrors mirror fields).bind ?_
  rintro (_ | _) -
  · exact .pure trivial
  · exact parseBody_mirrors mirror info isIn

/-- Read a document whose header has begun, and warn about the sections left open. -/
def restOfUnit
    (inner : Inner)
    (source : Source)
    (info complete : DocInfo)
    (cursor : Cursor) :
    Compile Bool := do
  let parsed ← withFreshMemory (restOfText inner (source.position 0) info complete cursor)
  update fun state => state.endOfUnit (source.position source.text.length)
  return parsed

/-- A document with complete information begins its header and goes on from there. -/
theorem parseUnitOf_of_complete
    {source : Source}
    {info complete : DocInfo}
    {next : Cursor}
    (read : readDocInfo source.cursor = .ok (info, next))
    (isComplete :
      { info with ignore := false }.complete environment.encoding environment.moment =
        .ok complete)
    (file : Path)
    (workspace : Workspace) :
    (parseUnitOf environment inner file source) workspace =
      thenAlways (restOfUnit inner source { info with ignore := false } complete next) popFile
        { workspace with state := startHeader complete (pushFile file workspace.state) } := by
  have text :
      parseText environment inner source false = (do
        update (startHeader complete)
        restOfText inner (source.position 0) { info with ignore := false } complete next) := by
    unfold parseText parseContent restOfText
    simp only [read, processDocInfo_of_complete rfl isComplete, bind_assoc]
  unfold parseUnitOf parseUnit restOfUnit
  simp only [text, Bool.false_eq_true, ↓reduceIte]
  rfl

/-- The rest of a document is read alike. -/
theorem restOfUnit_framed
    {file : Path}
    (mirror : inner.Mirrors setting (file :: stack) reflection)
    {source : Source}
    (isKnown : setting.known source)
    {complete : DocInfo}
    (fields : setting.KnowsFields (source.position 0) complete)
    (info : DocInfo)
    {cursor : Cursor}
    (isIn : cursor.IsIn setting.known)
    {workspace : Workspace}
    (reported : workspace.state.Reported setting.known (file :: stack)) :
    thenAlways (restOfUnit reflection source info complete cursor) popFile
        (workspace.framed setting.frame) =
      framed setting.frame
        (thenAlways (restOfUnit inner source info complete cursor) popFile workspace) := by
  refine thenAlways_framed ?_ fun _ => rfl
  have rest :
      Mirrors setting (file :: stack) (restOfUnit inner source info complete cursor)
        (restOfUnit reflection source info complete cursor)
        fun _ => True := by
    unfold restOfUnit
    refine (restOfText_mirrors mirror fields info isIn).withFreshMemory.bind fun _ _ => ?_
    refine .updateThen (by simp) (fun _ reported => ?_) (.pure trivial)
    exact reported.endOfUnit ⟨source, source.text.length, isKnown, Nat.le_refl _, rfl⟩
  exact (rest workspace reported).1

end Compile

end DocMarkup
