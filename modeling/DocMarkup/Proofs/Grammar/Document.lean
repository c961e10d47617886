import DocMarkup.Compilation
import DocMarkup.Proofs.Compiler.Consistency
import DocMarkup.Proofs.Grammar.Header
import DocMarkup.Proofs.Grammar.Longest
import DocMarkup.Proofs.Grammar.Parser

namespace DocMarkup

open CompilerState

/-!
# How documents end

A document is read with a header, which opens it, and with blocks up to its end, where
the sections that were left open are closed, and then the document. This closes exactly
what is open. A document is read from a state in which macros may have been defined but
nothing has been read.
-/

/-! ## What is closed at the end -/

/-- The ends of sections, as many as there are identifiers. -/
def sectionClosings (identifiers : List String) : List Event :=
  identifiers.map fun _ => .closing "section"

/-- Closing all open sections leaves what is around them, and sections stay apart. -/
theorem SectionsApart.closeSections
    {events : List Event}
    {identifiers : List String}
    (outermost : Element)
    (apart : SectionsApart events)
    (opened :
      openElementsAfter? [] events = some (identifiers.map sectionElement ++ [outermost]))
    (isElsewhere : outermost.1 ∉ nestedBlockNames) :
    SectionsApart (events ++ sectionClosings identifiers) ∧
      openElementsAfter? [] (events ++ sectionClosings identifiers) = some [outermost] := by
  induction identifiers generalizing events with
  | nil =>
      simpa [sectionClosings] using ⟨apart, opened⟩
  | cons innermost outer inductionHypothesis =>
      have regrouped :
          events ++ sectionClosings (innermost :: outer) =
            (events ++ [.closing "section"]) ++ sectionClosings outer := by
        simp [sectionClosings]
      have closed :
          openElementsAfter? [] (events ++ [.closing "section"]) =
            some (outer.map sectionElement ++ [outermost]) := by
        rw [openElementsAfter?_append, opened]
        rfl
      rw [regrouped]
      refine inductionHypothesis (apart.push fun _ => ⟨_, opened, ?_⟩) closed
      intro element member
      rcases List.mem_append.mp member with isSection | isOutermost
      · obtain ⟨identifier, _, rfl⟩ := List.mem_map.mp isSection
        simp [sectionElement, nestedBlockNames, Cursor.admonitionNames]
      · rw [List.mem_singleton.mp isOutermost]
        exact isElsewhere

namespace CompilerState

/--
What holds when reading has ended: the output can be written, sections are apart
from blocks that hold blocks, and nothing is open if the document was read. If it
was not, an error was counted. Counts and identifiers are accounted for.
-/
structure Finished (parsed : Bool) (state : CompilerState) : Prop where
  writable : ∀ event ∈ state.events.toList, event.IsWritable
  apart : SectionsApart state.events.toList
  closed : parsed = true → openElementsAfter? [] state.events.toList = some []
  counted : parsed = false → state.errorCount ≠ 0
  accounted : state.Accounted

namespace Finished

variable {parsed : Bool} {before after : CompilerState}

/-- Besides the account only the output and the number of errors matter. -/
theorem of_same
    (finished : Finished parsed before)
    (same : after.events = before.events)
    (sameCount : after.errorCount = before.errorCount)
    (accounted : before.Accounted → after.Accounted) :
    Finished parsed after where
  writable := by simpa [same] using finished.writable
  apart := by simpa [same] using finished.apart
  closed := by simpa [same] using finished.closed
  counted := by simpa [sameCount] using finished.counted
  accounted := accounted finished.accounted

/-- Without output, reading may have ended with an error. -/
theorem of_events_nil
    {state : CompilerState}
    (nothing : state.events = #[])
    (counted : state.errorCount ≠ 0)
    (accounted : state.Accounted) :
    Finished false state where
  writable := by simp [nothing]
  apart := by simpa [nothing] using SectionsApart.nil
  closed := by simp
  counted := fun _ => counted
  accounted := accounted

/-- Whatever is open, reading may have ended with an error. -/
theorem of_consistent
    {nested : List Element}
    {attributes : List Attribute}
    {state : CompilerState}
    (consistent : Consistent nested attributes state)
    (counted : state.errorCount ≠ 0) :
    Finished false state where
  writable := consistent.writable
  apart := consistent.apart
  closed := by simp
  counted := fun _ => counted
  accounted := consistent.accounted

end Finished

/-- Closing the document closes exactly what is open. -/
theorem Consistent.closeDocument
    {attributes : List Attribute}
    {state : CompilerState}
    (consistent : Consistent [] attributes state) :
    Finished true state.closeDocument := by
  have replayed :
      state.closeDocument =
        state.replay (sectionClosings state.sectionIds ++ [.closing "document"]) := by
    unfold CompilerState.closeDocument closeSections sectionClosings replay
    rw [List.foldl_append, List.foldl_map]
    rfl
  have output :
      state.closeDocument.events.toList =
        state.events.toList ++ sectionClosings state.sectionIds ++ [.closing "document"] := by
    rw [replayed, replay_of_settled consistent.settled]
    simp
  obtain ⟨apart, opened⟩ :=
    SectionsApart.closeSections ("document", attributes) consistent.apart consistent.opened
      (by simp [nestedBlockNames, Cursor.admonitionNames])
  exact
    { writable := by
        rw [output]
        intro event member
        simp only [List.mem_append, List.mem_singleton, sectionClosings, List.mem_map] at member
        rcases member with (before | ⟨_, _, rfl⟩) | rfl
        · exact consistent.writable event before
        · trivial
        · trivial
      apart := by
        rw [output]
        exact apart.append (by simp [Event.IsOfSection])
      closed := by
        intro _
        rw [output, openElementsAfter?_append, opened]
        simp [openElementsAfter?, Event.openElements?]
      counted := by simp
      accounted := by
        have unnamed :
            reservedIds (sectionClosings state.sectionIds ++ [.closing "document"]) = [] := by
          simp [reservedIds, sectionClosings, Event.reservedId?]
        have appended := output
        rw [List.append_assoc] at appended
        have others := (replayed ▸ replay_eq state _)
        exact consistent.accounted.append _ appended unnamed (by rw [others]; exact id)
          (by rw [others]) (by rw [others]) }

end CompilerState

/-! ## Documents -/

/-- A document: a text that stands for a file, or the path of a file. -/
inductive Document where
  | given (file : Path) (source : Source)
  | stored (path : Path)

namespace Document

/-- Read a document with some parsers. -/
def parse (environment : Environment) (inner : Inner) : Document → Compile Bool
  | .given file source => Compile.parseUnitOf environment inner file source
  | .stored path => Compile.parseFile environment inner path

/-- The source that a document is read from, if it can be loaded. -/
def source? (files : FileTree) : Document → Option Source
  | .given _ source => some source
  | .stored path =>
      match files.loadSource path with
      | .ok text => some { text := text, name := path.shown }
      | .error _ => none

/-- The identifier that the information at the front of a source gives a document. -/
def idIn? (environment : Environment) (source : Source) : Option String :=
  match readDocInfo source.cursor with
  | .error _ => none
  | .ok (info, _) =>
      match { info with ignore := false }.complete environment.encoding environment.moment with
      | .error _ => none
      | .ok complete => complete.id

/-- The identifier of a document, if it can be loaded and its information is complete. -/
def id? (environment : Environment) (document : Document) : Option String :=
  (document.source? environment.files).bind (idIn? environment)

/-- The length of the text that a document is given with. -/
def givenLength : Document → Nat
  | .given _ source => source.text.length
  | .stored _ => 0

end Document

namespace Compile

variable {environment : Environment} {longest steps : Nat} {inner reference : Inner}
  {before : CompilerState} {affordable : Prop} {order : Order}

/-- The body of a document is read as blocks, and all that is open is closed after it. -/
private theorem parseBody_document_ends
    (sound : inner.Sound environment.files longest steps affordable reference order)
    {info : DocInfo}
    (isShown : info.ignore = false)
    {cursor : Cursor}
    (ready : Ready longest steps affordable before cursor.rest.length 3)
    (inOrder : order.holds before)
    {attributes : List Attribute}
    (consistent : Consistent [] attributes before) :
    Ends before (parseBody inner info cursor) (parseBody reference info cursor)
      (Expected environment.files affordable True)
      Finished := by
  unfold parseBody
  refine (sound.blocks false ready fun _ => inOrder).bind ?_
  rintro stop middle ⟨effect, _⟩
  have stillConsistent := Consistent.blockEffect effect consistent
  split
  · refine .updateThen (.pure ?_)
    simpa [finishDocument, isShown] using stillConsistent.closeDocument
  · refine .updateThen (.pure ?_)
    have reports : BlockEffect longest middle (middle.markupError stop.position) :=
      .flow (.reportError ..)
    exact .of_consistent (Consistent.blockEffect reports stillConsistent) (Nat.succ_ne_zero _)

/-- The text of a document is read: its information, its header and its body. -/
private theorem parseText_document_ends
    (sound : inner.Sound environment.files longest steps affordable reference order)
    (source : Source)
    (short : source.text.length ≤ longest)
    (fresh : Fresh before)
    (ready : Ready longest steps affordable before longest 3)
    (opens :
      ∀ state, Begins (Document.idIn? environment source) before.idScope state → order.holds state) :
    Ends before (parseText environment inner source false)
      (parseText environment reference source false)
      (Expected environment.files affordable True)
      Finished := by
  have atFront : source.cursor.rest.length = source.text.length := by
    simp [Source.cursor, Source.cursorAt, String.length_toList]
  unfold parseText
  split
  next info next isRead =>
    obtain ⟨fits, nearer⟩ := readDocInfo_fits isRead
    have fitsLongest : DocInfo.Fits longest { info with ignore := false } :=
      { docType := fits.docType
        title := by have := fits.title; show info.title.length ≤ longest; omega
        license := fun markup given => by have := fits.license markup given; omega
        purpose := fun markup given => by have := fits.purpose markup given; omega }
    unfold parseContent
    have readyHeader : Ready longest steps affordable before longest 1 :=
      ready.nearer (Nat.le_refl _) (by omega)
    refine Ends.bind
      (processDocInfo_ends sound (source.position 0) rfl fitsLongest fresh readyHeader) ?_
    rintro (_ | _) middle reached
    · obtain ⟨message, rfl⟩ := reached
      exact .pure (.of_events_nil fresh.events (Nat.succ_ne_zero _)
        (fresh.accounted.reportError ..))
    · obtain ⟨same, complete, completed, begins⟩ := reached
      obtain ⟨attributes, consistent⟩ := begins.opened
      have ownId : complete.id = Document.idIn? environment source := by
        simp only [Document.idIn?, isRead, completed]
      rw [ownId] at begins
      have readyBody : Ready longest steps affordable middle next.rest.length 3 :=
        ready.alike same (by omega) (by omega)
      exact parseBody_document_ends sound rfl readyBody (opens middle begins) consistent
  next fault _ =>
    simp only [Bool.false_eq_true, ↓reduceIte]
    exact .updateThen (.pure (.of_events_nil fresh.events (Nat.succ_ne_zero _)
      (fresh.accounted.reportError ..)))

/-- A unit that is a document is read with its file on the include stack. -/
private theorem parseUnitOf_document_ends
    (sound : inner.Sound environment.files longest steps affordable reference order)
    (file : Path)
    (source : Source)
    (short : source.text.length ≤ longest)
    (fresh : Fresh before)
    (ready : Ready longest steps affordable (pushFile file before) longest 3)
    (opens :
      ∀ state, Begins (Document.idIn? environment source) before.idScope state → order.holds state) :
    Ends before (parseUnitOf environment inner file source)
      (parseUnitOf environment reference file source)
      (Expected environment.files affordable True)
      Finished := by
  have freshInside : Fresh (pushFile file before) := { fresh with }
  unfold parseUnitOf
  apply Ends.updateThen
  refine Ends.thenAlways ?_
  unfold parseUnit
  refine Ends.bind
    (Ends.withFreshMemory
      (parseText_document_ends sound source short freshInside ready opens)) ?_
  intro parsed after finished
  refine .updateThen (.pure ?_)
  unfold endOfUnit
  split
  · exact finished.of_same rfl rfl id
  · exact finished.of_same rfl rfl fun accounted =>
      accounted.reportWarning .structural (some (source.position source.text.length)) _

/-- How reading a document ends if nothing has been read before. -/
theorem parse_document_ends
    (sound : inner.Sound environment.files longest steps affordable reference order)
    (filesBounded : environment.files.Bounded longest)
    (document : Document)
    (short : document.givenLength ≤ longest)
    (fresh : Fresh before)
    (ready : ∀ file, Ready longest steps affordable (pushFile file before) longest 3)
    (opens :
      ∀ state, Begins (document.id? environment) before.idScope state → order.holds state) :
    Ends before (document.parse environment inner) (document.parse environment reference)
      (Expected environment.files affordable True)
      Finished := by
  cases document with
  | given file source =>
      exact parseUnitOf_document_ends sound file source short fresh (ready file) opens
  | stored path =>
      unfold Document.parse parseFile
      apply Ends.consult
      split
      next fault loaded =>
        exact .throw (rejects_of_loadSource loaded)
      next fault loaded =>
        exact .updateThen (.pure (.of_events_nil fresh.events (Nat.succ_ne_zero _)
      (fresh.accounted.reportError ..)))
      next text loaded =>
        refine .ofPath (fun fault rejected => ⟨path, .inr rejected⟩) ?_
        intro file _
        have ownId :
            (Document.stored path).id? environment =
              Document.idIn? environment { text := text, name := path.shown } := by
          simp only [Document.id?, Document.source?, loaded, Option.bind_some]
        rw [ownId] at opens
        exact parseUnitOf_document_ends sound file _ (filesBounded path text loaded) fresh
          (ready file) opens

/-- Nothing is being expanded, read as a phrase or included yet. -/
structure Unnested (state : CompilerState) : Prop where
  expansionDepth : state.expansionDepth = 0
  phraseDepth : state.phraseDepth = 0
  includeStack : state.includeStack = []

/-- A document is read with its file as the only one on the include stack. -/
private theorem Unnested.withinLimits
    (unnested : Unnested before)
    (file : Path) :
    (pushFile file before).WithinLimits where
  expansions := by
    show before.expansionDepth ≤ expansionLimit
    rw [unnested.expansionDepth]
    exact Nat.zero_le _
  phrases := by
    show before.phraseDepth ≤ phraseLimit
    rw [unnested.phraseDepth]
    decide
  inclusions := by
    simp [pushFile, unnested.includeStack, includeLimit]
  distinct := by
    simp [pushFile, unnested.includeStack]

/-- The steps that reading texts of some length may need, with all the room there is. -/
def neededSteps (longest : Nat) : Nat :=
  (expansionLimit + includeLimit) * (2 * longest + 4) + 2 * longest + 3

/-- As many steps are computed as may be needed. -/
theorem neededSteps_le_enoughSteps (given : Nat) :
    neededSteps (longestText environment before given) ≤ enoughSteps environment before given := by
  unfold neededSteps enoughSteps nestingLevels stepsPerCharacter expansionLimit includeLimit
  omega

/-- All is ready for a short text within the limits, with as many steps as may be needed. -/
theorem ready_of_neededSteps
    {state : CompilerState}
    {longest length : Nat}
    (bounded : state.Bounded longest)
    (short : length ≤ longest)
    (enough : affordable → neededSteps longest ≤ steps)
    (limits : state.WithinLimits) :
    Ready longest steps affordable state length 3 where
  bounded := bounded
  short := short
  enough := by
    intro isAffordable
    have needed := enough isAffordable
    have someRoom : state.room ≤ expansionLimit + includeLimit := by
      unfold room
      omega
    have worth := Nat.mul_le_mul_right (2 * longest + 4) someRoom
    unfold neededSteps at needed
    omega
  limits _ := limits

/--
How reading a document ends with parsers that may be relied on for the texts that
may come to be read, if nothing has been read before.
-/
theorem document_ends
    (document : Document)
    (fresh : Fresh before)
    (unnested : Unnested before)
    (enough :
      affordable → neededSteps (longestText environment before document.givenLength) ≤ steps)
    (sound :
      inner.Sound environment.files (longestText environment before document.givenLength)
        steps affordable reference order)
    (opens :
      ∀ state, Begins (document.id? environment) before.idScope state → order.holds state) :
    Ends before (document.parse environment inner) (document.parse environment reference)
      (Expected environment.files affordable True)
      Finished :=
  parse_document_ends sound files_bounded_longestText document given_le_longestText fresh
    (fun file =>
      ready_of_neededSteps (bounded_longestText.of_same rfl rfl) (Nat.le_refl _) enough
        (unnested.withinLimits file))
    opens

end Compile

end DocMarkup
