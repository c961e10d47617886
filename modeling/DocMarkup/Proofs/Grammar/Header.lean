import DocMarkup.Grammar.Header
import DocMarkup.Proofs.DocInfo.Reader
import DocMarkup.Proofs.Grammar.Expansion

namespace DocMarkup.Compile

open CompilerState

/-!
# How headers end

The header opens the document and adds a fragment inside it. From then on the
output agrees with the open sections, of which there are none yet.
-/

variable {files : FileTree} {longest steps : Nat} {inner reference : Inner}
  {before middle after : CompilerState} {affordable calm : Prop} {order : Order}

/-- Everything that a header adds inside the document. -/
abbrev Shows (before after : CompilerState) : Prop :=
  Effect headerVocabulary before after

/-- What is in a phrase may be in a header. -/
private theorem shows_of_inline (effect : Effect inlineVocabulary before after) :
    Shows before after :=
  effect.mono inlineVocabulary_subset_headerVocabulary

/-- A field is shown as a phrase, or as it is written. -/
theorem showField_ends
    (sound : inner.Sound files longest steps affordable reference order)
    (position : Position)
    {markup : String}
    (ready : Ready longest steps affordable before markup.length 1) :
    Ends before (showField inner position markup) (showField reference position markup)
      (Expected files affordable calm)
      fun _ after => Effect inlineVocabulary before after := by
  unfold showField
  apply Ends.state
  refine Ends.bind (expansion_ends sound _ ready) ?_
  rintro (_ | _) middle effect
  · simp only [Bool.false_eq_true, ↓reduceIte]
    refine .update ?_
    rw [effect.precedes.rollback]
    exact .text ..
  · exact .pure effect

/-- An author is shown inside one element. -/
private theorem shows_author
    (before : CompilerState)
    (author : Author) :
    Shows before (showAuthor before author) := by
  have known : ("author", ([] : List Attribute).map Prod.fst) ∈ headerVocabulary := by
    simp [headerVocabulary]
  exact Effect.element known
    ((Effect.leaf _ (by simp [headerVocabulary]) author.firstname).trans
      (Effect.leaf _ (by simp [headerVocabulary]) author.surname))

/-- A copyright is shown inside one element. -/
private theorem shows_copyright
    (before : CompilerState)
    (notice : Copyright) :
    Shows before (showCopyright before notice) := by
  have known : ("copyright", ([] : List Attribute).map Prod.fst) ∈ headerVocabulary := by
    simp [headerVocabulary]
  have years :
      ∀ (state : CompilerState) (years : List String),
        Shows state (years.foldl (fun shown year => shown.leaf "year" year) state) := by
    intro state years
    induction years generalizing state with
    | nil =>
        exact .refl state
    | cons year others inductionHypothesis =>
        exact Passage.trans (Effect.leaf state (by simp [headerVocabulary]) year)
          (inductionHypothesis _)
  exact Effect.element known
    ((years _ notice.years).trans (Effect.leaf _ (by simp [headerVocabulary]) notice.holder))

/-- What is shown of each item of a list is shown of all of them. -/
private theorem shows_each
    {show? : CompilerState → α → CompilerState}
    (each : ∀ state item, Shows state (show? state item))
    (items : List α)
    (before : CompilerState) :
    Shows before (items.foldl show? before) := by
  induction items generalizing before with
  | nil =>
      exact .refl before
  | cons item others inductionHypothesis =>
      exact (each before item).trans (inductionHypothesis _)

/-- Authors are shown inside one element, if there are any. -/
private theorem shows_authors
    (authors : List Author)
    (before : CompilerState) :
    Shows before (showAuthors authors before) := by
  have known : ("authorgroup", ([] : List Attribute).map Prod.fst) ∈ headerVocabulary := by
    simp [headerVocabulary]
  unfold showAuthors
  split
  · exact .refl before
  · exact Effect.element known (shows_each shows_author authors _)

/-- The licence is shown inside two elements, if there is one. -/
private theorem showLicense_ends
    (sound : inner.Sound files longest steps affordable reference order)
    (position : Position)
    {info : DocInfo}
    (fits : info.Fits longest)
    (ready : Ready longest steps affordable before longest 1) :
    Ends before (showLicense inner position info) (showLicense reference position info)
      (Expected files affordable calm)
      fun _ after => Shows before after := by
  have knownNotice : ("legalnotice", ([] : List Attribute).map Prod.fst) ∈ headerVocabulary := by
    simp [headerVocabulary]
  have knownPara : ("para", ([] : List Attribute).map Prod.fst) ∈ headerVocabulary := by
    simp [headerVocabulary]
  have short : (info.license.getD "").length ≤ longest := by
    cases given : info.license with
    | none =>
        exact Nat.zero_le _
    | some markup =>
        exact fits.license markup given
  unfold showLicense
  split
  · apply Ends.updateThen
    have readyInside :
        Ready longest steps affordable
          ((before.startElement "legalnotice").startElement "para")
          (info.license.getD "").length 1 :=
      ready.alike ⟨rfl, rfl, rfl, rfl, rfl⟩ short (by omega)
    refine Ends.bind (showField_ends sound position readyInside) ?_
    intro _ middle effect
    exact .update (Effect.element knownNotice (Effect.element knownPara (shows_of_inline effect)))
  · exact .pure (.refl before)

/-- The purpose is shown inside an element, if there is one. -/
private theorem showPurpose_ends
    (sound : inner.Sound files longest steps affordable reference order)
    (position : Position)
    {info : DocInfo}
    (fits : info.Fits longest)
    (ready : Ready longest steps affordable before longest 1) :
    Ends before (showPurpose inner position info) (showPurpose reference position info)
      (Expected files affordable calm)
      fun _ after => Shows before after := by
  have known : ("purpose", ([] : List Attribute).map Prod.fst) ∈ headerVocabulary := by
    simp [headerVocabulary]
  have short : (info.purpose.getD "").length ≤ longest := by
    cases given : info.purpose with
    | none =>
        exact Nat.zero_le _
    | some markup =>
        exact fits.purpose markup given
  unfold showPurpose
  split
  · apply Ends.updateThen
    have readyInside :
        Ready longest steps affordable (before.startElement "purpose")
          (info.purpose.getD "").length 1 :=
      ready.alike ⟨rfl, rfl, rfl, rfl, rfl⟩ short (by omega)
    refine Ends.bind (showField_ends sound position readyInside) ?_
    intro _ middle effect
    exact .update (Effect.element known (shows_of_inline effect))
  · exact .pure (.refl before)

/-- The category is shown inside an element, if there is one. -/
private theorem shows_category
    (info : DocInfo)
    (before : CompilerState) :
    Shows before (showCategory info before) := by
  unfold showCategory
  split
  · exact Effect.leaf before (by simp [headerVocabulary]) _
  · exact .refl before

/-- All that a document says about itself beside its title is one fragment. -/
private theorem showDetails_ends
    (sound : inner.Sound files longest steps affordable reference order)
    (position : Position)
    {info : DocInfo}
    (fits : info.Fits longest)
    (ready : Ready longest steps affordable before longest 1) :
    Ends before (showDetails inner position info) (showDetails reference position info)
      (Expected files affordable calm)
      fun _ after => Shows before after := by
  have known : ("docinfo", ([] : List Attribute).map Prod.fst) ∈ headerVocabulary := by
    simp [headerVocabulary]
  unfold showDetails
  apply Ends.updateThen
  have people :
      Shows (before.startElement "docinfo")
        (info.copyrights.foldl showCopyright
          (showAuthors info.authors (before.startElement "docinfo"))) :=
    (shows_authors info.authors _).trans (shows_each shows_copyright info.copyrights _)
  have readyInside : Ready longest steps affordable (before.startElement "docinfo") longest 1 :=
    ready.alike ⟨rfl, rfl, rfl, rfl, rfl⟩ (Nat.le_refl _) (Nat.le_refl _)
  have readyLicense :
      Ready longest steps affordable
        (info.copyrights.foldl showCopyright
          (showAuthors info.authors (before.startElement "docinfo"))) longest 1 :=
    readyInside.alike people.alike (Nat.le_refl _) (Nat.le_refl _)
  refine (showLicense_ends sound position fits readyLicense).bind ?_
  intro _ middle license
  apply Ends.updateThen
  have details : Shows before (middle.endElement "docinfo") :=
    Effect.element known (people.trans license)
  refine
    (showPurpose_ends sound position fits
      (ready.alike details.alike (Nat.le_refl _) (Nat.le_refl _))).bind ?_
  intro _ afterPurpose purpose
  exact .update ((details.trans purpose).trans (shows_category info afterPurpose))

/-- Nothing has been read yet: there may only be definitions, and errors about them. -/
structure Fresh (state : CompilerState) : Prop where
  events : state.events = #[]
  settled : state.pendingParagraph = false
  sectionIds : state.sectionIds = []
  sectionLevel : state.sectionLevel = 0
  blockNesting : state.blockNesting = 0
  known : state.Scoped
  accounted : state.Accounted

/-- The document is opened, and its identifier is followed. -/
def openDocument (state : CompilerState) (info : DocInfo) : CompilerState :=
  { state with docId := info.id }.startElement "document" info.documentAttributes

/-- Opening the document in a state in which nothing has been read makes all agree. -/
private theorem consistent_openDocument
    (fresh : Fresh before)
    {info : DocInfo}
    (fits : info.Fits longest) :
    Consistent [] info.documentAttributes (openDocument before info) := by
  have output :
      (openDocument before info).events.toList =
        [.opening "document" info.documentAttributes] := by
    simp [openDocument, startElement, CompilerState.emit, fresh.settled, fresh.events]
  obtain ⟨docType, others, isType, areKeys, shape⟩ := fits.documentAttributes_eq
  exact
    { opened := by
        rw [output]
        show some _ = some _
        simp [openDocument, startElement, CompilerState.emit, fresh.sectionIds]
      names := by simp
      nesting := fresh.blockNesting
      level := by
        show before.sectionLevel = before.sectionIds.length
        rw [fresh.sectionLevel, fresh.sectionIds]
        rfl
      settled := rfl
      known := fresh.known
      apart := by
        rw [output]
        exact SectionsApart.append .nil (by simp [Event.IsOfSection])
      writable := by
        rw [output]
        intro event member
        obtain rfl := List.mem_singleton.mp member
        rw [shape]
        exact .document isType areKeys
      accounted := by
        refine fresh.accounted.append [.opening "document" info.documentAttributes] ?_ rfl
        rw [output, fresh.events]
        rfl }

/-- What a header shows keeps the agreement. -/
private theorem consistent_shows
    {nested : List Element}
    {attributes : List Attribute}
    (consistent : Consistent nested attributes before)
    (effect : Shows before after) :
    Consistent nested attributes after := by
  obtain ⟨events, isFragment, written⟩ :=
    effect.writes headerVocabulary_anonymous consistent.known consistent.settled
  exact consistent.fragment written (isFragment.mono headerVocabulary_subset_plainVocabulary)

/-- A document begins: nothing else is open, and identifiers follow its own, which is given. -/
structure Begins (docId : Option String) (idScope : Nat) (state : CompilerState) : Prop where
  opened : ∃ attributes, Consistent [] attributes state
  given : isGiven docId = true
  docId : state.docId = docId
  idScope : state.idScope = idScope
  sectionIds : state.sectionIds = []

/-- Where a document begins, all is in order. -/
theorem Begins.isConsistent
    {docId : Option String}
    {idScope : Nat}
    {state : CompilerState}
    (begins : Begins docId idScope state) :
    state.IsConsistent := by
  obtain ⟨attributes, consistent⟩ := begins.opened
  exact ⟨[], attributes, consistent⟩

/-- What a header shows in a document that was opened leaves it at its beginning. -/
private theorem begins_of_shows
    (fresh : Fresh before)
    {info : DocInfo}
    (fits : info.Fits longest)
    (given : isGiven info.id = true)
    (shown : Shows (openDocument before info) after) :
    before.Alike after ∧ Begins info.id before.idScope after := by
  have opened := consistent_shows (consistent_openDocument fresh fits) shown
  rw [shown.eq_with] at opened ⊢
  exact ⟨⟨rfl, rfl, rfl, rfl, rfl⟩, ⟨_, opened⟩, given, rfl, rfl, fresh.sectionIds⟩

/--
A header that is complete opens the document, with nothing else open. One that is
not leaves an error.
-/
theorem processDocInfo_ends
    {environment : Environment}
    (sound : inner.Sound files longest steps affordable reference order)
    (position : Position)
    {info : DocInfo}
    (isShown : info.ignore = false)
    (fits : info.Fits longest)
    (fresh : Fresh before)
    (ready : Ready longest steps affordable before longest 1) :
    Ends before (processDocInfo environment inner info position)
      (processDocInfo environment reference info position)
      (Expected files affordable calm)
      fun isComplete after =>
        if isComplete then
          before.Alike after ∧
            ∃ complete,
              info.complete environment.encoding environment.moment = .ok complete ∧
                Begins complete.id before.idScope after
        else
          ∃ message, after = before.reportError .metadata (some position) message := by
  have knownTitle : ("title", ([] : List Attribute).map Prod.fst) ∈ headerVocabulary := by
    simp [headerVocabulary]
  unfold processDocInfo
  simp only [isShown, Bool.false_eq_true, ↓reduceIte]
  cases completed : info.complete environment.encoding environment.moment with
  | error missing =>
      exact .updateThen (.pure ⟨_, rfl⟩)
  | ok complete =>
      have completeFits := fits.complete completed
      have given := DocInfo.isGiven_id_of_complete completed
      simp only
      apply Ends.updateThen
      show Ends ((openDocument before complete).startElement "title") _ _ _ _
      have readyTitle :
          Ready longest steps affordable ((openDocument before complete).startElement "title")
            complete.title.length 1 := by
        refine ready.alike ⟨rfl, rfl, rfl, rfl, rfl⟩ completeFits.title ?_
        have := completeFits.title
        omega
      refine (showField_ends sound position readyTitle).bind ?_
      intro _ middle title
      apply Ends.updateThen
      have titled : Shows (openDocument before complete) (middle.endElement "title") :=
        Effect.element knownTitle (shows_of_inline title)
      obtain ⟨alike, begins⟩ := begins_of_shows fresh completeFits given titled
      split
      · have readyDetails :
            Ready longest steps affordable (middle.endElement "title") longest 1 :=
          ready.alike alike (Nat.le_refl _) (Nat.le_refl _)
        refine (showDetails_ends sound position completeFits readyDetails).bind ?_
        intro _ last details
        obtain ⟨alikeLast, beginsLast⟩ :=
          begins_of_shows fresh completeFits given (titled.trans details)
        exact .pure ⟨alikeLast, complete, rfl, beginsLast⟩
      · exact .pure ⟨alike, complete, rfl, begins⟩

end DocMarkup.Compile
