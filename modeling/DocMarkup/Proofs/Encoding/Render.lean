import DocMarkup.Proofs.Encoding.Page

namespace DocMarkup

open Markup

/-!
# Rendering events

An event is rendered exactly if it can follow the elements that are open, up to levels
of headings that have too many digits. What is rendered keeps the page a piece of
markup, so a balanced stream of events gives a page of balanced markup.
-/

namespace Event

/-- What the encoders rely on about an event. -/
def IsTaggable : Event → Prop
  | .opening name attributes => Element.IsTaggable name attributes
  | _ => True

/-- Whether no page can be written because of an event. -/
def IsRefused (encoding : Encoding) : Event → Prop
  | .opening name attributes => encoding.Refuses name attributes
  | _ => False

/-- Markup that is passed through is balanced, and its texts are allowed. -/
def PassesThrough (allowed : List Char → Prop) : Event → Prop
  | .raw markup => Passes allowed [] [] markup.toList
  | _ => True

/-- Whether an event passes markup through. -/
def isRaw : Event → Bool
  | .raw _ => true
  | _ => false

/-- What the page shows of a text apart from line feeds; no other event has a content. -/
def content : Event → List Char
  | .text content => withoutLineFeeds content.toList
  | _ => []

/-- The encoders can write every event that occurs in documents. -/
theorem IsWritable.isTaggable
    {event : Event}
    (isWritable : event.IsWritable) :
    event.IsTaggable ∧ event.PassesThrough anyText ∧
      ∀ encoding, ¬ event.IsRefused encoding := by
  cases event with
  | opening name attributes =>
      obtain ⟨isTaggable, accepted⟩ := Element.IsWritable.isTaggable isWritable
      exact ⟨isTaggable, trivial, accepted⟩
  | raw markup =>
      exact ⟨trivial, (findError?_eq_none_iff markup).mp isWritable, fun _ => id⟩
  | _ =>
      exact ⟨trivial, trivial, fun _ => id⟩

end Event

/-- A page after the opening text of an element. -/
def Rendering.beginElement (rendering : Rendering) (name : String) (pair : TagPair) : Rendering :=
  { rendering.append pair.opening with opened := ⟨name, pair.closing⟩ :: rendering.opened }

namespace Encoding

/-- The tags of an element inside the open elements of a page. -/
def tagsInside
    (encoding : Encoding)
    (rendering : Rendering)
    (name : String)
    (attributes : List Attribute) :
    Except Text.NumeralFault TagPair :=
  match encoding with
  | .boostBook => .ok (BoostBook.tags rendering.docType name attributes)
  | .html => Html.tags rendering.openNames name attributes

/-- What an element changes on a page before its opening text is written. -/
def prepare
    (encoding : Encoding)
    (rendering : Rendering)
    (name : String)
    (attributes : List Attribute) :
    Rendering :=
  match encoding with
  | .boostBook =>
      if name = "document" then
        { rendering with docType := givenType attributes }
      else
        rendering
  | .html =>
      if name = "document" then
        Html.startPage rendering attributes
      else if name = "title" then
        Html.startTitle rendering
      else
        rendering

variable {encoding : Encoding} {allowed : List Char → Prop} {rendering next : Rendering}
  {opened : OpenNames} {content : List Char} {name : String} {attributes : List Attribute}
  {elements left : List Element} {event : Event} {events : List Event}

theorem openElement_eq
    (encoding : Encoding)
    (rendering : Rendering)
    (name : String)
    (attributes : List Attribute) :
    encoding.openElement rendering name attributes =
      match encoding.tagsInside rendering name attributes with
      | .error fault => .error (.level fault)
      | .ok pair => .ok ((encoding.prepare rendering name attributes).beginElement name pair) := by
  cases encoding with
  | boostBook =>
      unfold openElement BoostBook.openElement
      by_cases isDocument : name = "document"
      · simp only [isDocument, ↓reduceIte, tagsInside, prepare]
        rfl
      · simp only [isDocument, ↓reduceIte, tagsInside, prepare]
        rfl
  | html =>
      unfold openElement Html.openElement
      simp only [tagsInside, prepare]
      cases Html.tags rendering.openNames name attributes with
      | error fault =>
          rfl
      | ok pair =>
          by_cases isDocument : name = "document"
          · simp only [isDocument, ↓reduceIte]
            rfl
          by_cases isTitle : name = "title"
          · simp only [isTitle, ↓reduceIte]
            rfl
          · simp only [isDocument, isTitle, ↓reduceIte]
            rfl

theorem opened_prepare
    (encoding : Encoding)
    (rendering : Rendering)
    (name : String)
    (attributes : List Attribute) :
    (encoding.prepare rendering name attributes).opened = rendering.opened := by
  cases encoding with
  | boostBook =>
      unfold prepare
      by_cases isDocument : name = "document" <;> simp [isDocument]
  | html =>
      unfold prepare Html.startPage Html.startTitle
      simp only
      split
      · rfl
      split
      · split <;> rfl
      · rfl

/-! ## Which events are rendered -/

/-- An element has tags, unless it is refused. -/
theorem exists_tagsInside
    (encoding : Encoding)
    (rendering : Rendering)
    (isTaggable : Element.IsTaggable name attributes) :
    ∃ pair,
      encoding.tagsInside rendering name attributes =
        if encoding.Refuses name attributes then
          .error (.tooLong (givenLevel attributes).length)
        else
          .ok pair := by
  cases encoding with
  | boostBook =>
      have isAccepted : ¬ Encoding.boostBook.Refuses name attributes :=
        fun refuses => absurd refuses.1 (by decide)
      exact ⟨_, (if_neg isAccepted).symm⟩
  | html =>
      by_cases isDocument : name = "document"
      · subst isDocument
        have isAccepted : ¬ Encoding.html.Refuses "document" attributes :=
          fun refuses => absurd refuses.2.1 (by decide)
        exact ⟨_, (if_neg isAccepted).symm⟩
      · obtain ⟨pair, _, found⟩ := Html.exists_tags rendering.openNames isTaggable isDocument
        exact ⟨pair, found⟩

/-- An event that can follow the open elements is rendered, unless it is refused. -/
theorem exists_renderEvent
    (encoding : Encoding)
    (isTaggable : event.IsTaggable)
    (agrees : rendering.openNames = elements.map Prod.fst)
    (leads : event.openElements? elements = some left) :
    (∃ next,
      encoding.renderEvent rendering event = .ok next ∧ next.openNames = left.map Prod.fst) ∨
      event.IsRefused encoding ∧
        ∃ digits, encoding.renderEvent rendering event = .error (.level (.tooLong digits)) := by
  cases event with
  | opening name attributes =>
      obtain rfl := Option.some.inj leads
      obtain ⟨pair, found⟩ := exists_tagsInside encoding rendering isTaggable
      rw [renderEvent, openElement_eq, found]
      by_cases refused : encoding.Refuses name attributes
      · rw [if_pos refused]
        exact .inr ⟨refused, _, rfl⟩
      · rw [if_neg refused]
        refine .inl ⟨_, rfl, ?_⟩
        simp only [Rendering.beginElement, Rendering.openNames, List.map_cons, opened_prepare,
          ← agrees]
  | closing name =>
      cases elements with
      | nil =>
          simp [Event.openElements?] at leads
      | cons innermost outer =>
          simp only [Event.openElements?] at leads
          split at leads
          next same =>
            obtain rfl := Option.some.inj leads
            obtain ⟨element, others, split, isName, areOthers⟩ :=
              List.map_eq_cons_iff.mp agrees
            rw [renderEvent, closeElement, split]
            simp only [isName.trans same, ↓reduceIte]
            cases encoding with
            | boostBook =>
                exact .inl ⟨_, rfl, areOthers⟩
            | html =>
                refine .inl ⟨_, rfl, ?_⟩
                rw [Html.closeElement, Html.finishTitle]
                split
                · split <;> exact areOthers
                · exact areOthers
          next =>
            simp at leads
  | text content =>
      obtain rfl := Option.some.inj leads
      cases encoding <;> exact .inl ⟨_, rfl, agrees⟩
  | raw markup =>
      obtain rfl := Option.some.inj leads
      exact .inl ⟨_, rfl, agrees⟩

/-- An end of an element that is not the innermost open one is not rendered. -/
theorem renderEvent_of_misplaced
    (encoding : Encoding)
    (agrees : rendering.openNames = elements.map Prod.fst)
    (misplaced : event.openElements? elements = none) :
    ∃ name, encoding.renderEvent rendering event = .error (.unbalancedEnd name) := by
  cases event with
  | closing name =>
      refine ⟨name, ?_⟩
      rw [renderEvent, closeElement]
      cases elements with
      | nil =>
          rw [List.map_eq_nil_iff.mp agrees]
      | cons innermost outer =>
          obtain ⟨element, others, split, isName, _⟩ := List.map_eq_cons_iff.mp agrees
          simp only [Event.openElements?] at misplaced
          split at misplaced
          next =>
            simp at misplaced
          next different =>
            rw [split]
            simp only [isName, different, ↓reduceIte]
  | _ =>
      simp [Event.openElements?] at misplaced

theorem renderEvents_cons
    (encoding : Encoding)
    (rendering : Rendering)
    (event : Event)
    (rest : List Event) :
    encoding.renderEvents rendering (event :: rest) =
      (encoding.renderEvent rendering event).bind fun next => encoding.renderEvents next rest :=
  rfl

/-- Events that lead from open elements to others are rendered, unless one is refused. -/
theorem exists_renderEvents
    (encoding : Encoding)
    (areTaggable : ∀ event ∈ events, event.IsTaggable)
    (agrees : rendering.openNames = elements.map Prod.fst)
    (leads : openElementsAfter? elements events = some left) :
    (∃ last,
      encoding.renderEvents rendering events = .ok last ∧ last.openNames = left.map Prod.fst) ∨
      (∃ event ∈ events, event.IsRefused encoding) ∧
        ∃ digits, encoding.renderEvents rendering events = .error (.level (.tooLong digits)) := by
  induction events generalizing rendering elements with
  | nil =>
      obtain rfl := Option.some.inj leads
      exact .inl ⟨rendering, rfl, agrees⟩
  | cons event rest inductionHypothesis =>
      rw [openElementsAfter?_cons] at leads
      obtain ⟨between, leadsFirst, leadsRest⟩ := Option.bind_eq_some_iff.mp leads
      rw [renderEvents_cons]
      rcases exists_renderEvent encoding (areTaggable event (by simp)) agrees leadsFirst with
        ⟨next, rendered, nextAgrees⟩ | ⟨refused, digits, failed⟩
      · rw [rendered, Except.bind]
        have restTaggable : ∀ other ∈ rest, other.IsTaggable :=
          fun other member => areTaggable other (by simp [member])
        rcases inductionHypothesis restTaggable nextAgrees leadsRest with
          isRendered | ⟨⟨other, member, refused⟩, failed⟩
        · exact .inl isRendered
        · exact .inr ⟨⟨other, by simp [member], refused⟩, failed⟩
      · rw [failed]
        exact .inr ⟨⟨event, by simp, refused⟩, digits, rfl⟩

/-- Events with a misplaced end are not rendered. -/
theorem renderEvents_of_misplaced
    (encoding : Encoding)
    (areTaggable : ∀ event ∈ events, event.IsTaggable)
    (accepted : ∀ event ∈ events, ¬ event.IsRefused encoding)
    (agrees : rendering.openNames = elements.map Prod.fst)
    (misplaced : openElementsAfter? elements events = none) :
    ∃ name, encoding.renderEvents rendering events = .error (.unbalancedEnd name) := by
  induction events generalizing rendering elements with
  | nil =>
      simp [openElementsAfter?] at misplaced
  | cons event rest inductionHypothesis =>
      rw [openElementsAfter?_cons] at misplaced
      rw [renderEvents_cons]
      cases leadsFirst : event.openElements? elements with
      | none =>
          obtain ⟨name, failed⟩ := renderEvent_of_misplaced encoding agrees leadsFirst
          rw [failed]
          exact ⟨name, rfl⟩
      | some between =>
          rw [leadsFirst, Option.bind_some] at misplaced
          rcases exists_renderEvent encoding (areTaggable event (by simp)) agrees leadsFirst with
            ⟨next, rendered, nextAgrees⟩ | ⟨refused, _⟩
          · rw [rendered, Except.bind]
            exact inductionHypothesis (fun other member => areTaggable other (by simp [member]))
              (fun other member => accepted other (by simp [member])) nextAgrees misplaced
          · exact (accepted event (by simp) refused).elim

/-! ## What is rendered -/

/-- An element that is opened keeps the page a piece of markup. -/
theorem opens_openElement
    (opens : rendering.Opens encoding allowed opened content)
    (allowsEscaped : ∀ text, escapedCharacter text → allowed text)
    (isTaggable : Element.IsTaggable name attributes)
    (rendered : encoding.openElement rendering name attributes = .ok next) :
    ∃ inner, next.Opens encoding allowed inner content := by
  rw [openElement_eq] at rendered
  cases encoding with
  | boostBook =>
      obtain ⟨names, encloses⟩ := BoostBook.exists_tags_enclose opens.docType isTaggable
      obtain rfl := Except.ok.inj rendered
      refine ⟨names ++ opened, ?_⟩
      unfold prepare
      by_cases isDocument : name = "document"
      · have opensTyped :
            { rendering with docType := givenType attributes }.Opens
              .boostBook allowed opened content :=
          { opens with docType := isTaggable.docType isDocument }
        rw [if_pos isDocument]
        exact opensTyped.appendOpening allowsEscaped encloses (by simp) name
      · rw [if_neg isDocument]
        exact opens.appendOpening allowsEscaped encloses (by simp) name
  | html =>
      unfold prepare at rendered
      by_cases isDocument : name = "document"
      · subst isDocument
        obtain rfl := Except.ok.inj rendered
        exact Html.opens_document opens allowsEscaped attributes
      · obtain ⟨pair, ⟨names, encloses, noTitle⟩, found⟩ :=
          Html.exists_tags rendering.openNames isTaggable isDocument
        rw [tagsInside, found] at rendered
        by_cases refused : Encoding.html.Refuses name attributes
        · simp [refused] at rendered
        · simp only [refused, ↓reduceIte, isDocument] at rendered
          obtain rfl := Except.ok.inj rendered
          refine ⟨names ++ opened, ?_⟩
          by_cases isTitle : name = "title"
          · obtain ⟨opensStarted, _⟩ := Html.opens_startTitle opens
            rw [if_pos isTitle]
            exact opensStarted.appendOpening allowsEscaped encloses (fun _ => noTitle) name
          · rw [if_neg isTitle]
            exact opens.appendOpening allowsEscaped encloses (fun _ => noTitle) name

/-- An element that is closed keeps the page a piece of markup. -/
theorem opens_closeElement
    (opens : rendering.Opens encoding allowed opened content)
    (allowsEscaped : ∀ text, escapedCharacter text → allowed text)
    (rendered : encoding.closeElement rendering name = .ok next) :
    ∃ outer, next.Opens encoding allowed outer content := by
  unfold closeElement at rendered
  split at rendered
  · simp at rendered
  next innermost others isInnermost =>
    split at rendered
    · obtain ⟨outer, opensClosed⟩ := opens.appendClosing allowsEscaped isInnermost
      cases encoding with
      | boostBook =>
          obtain rfl := Except.ok.inj rendered
          exact ⟨outer, opensClosed⟩
      | html =>
          obtain rfl := Except.ok.inj rendered
          rw [Html.closeElement]
          split
          · exact ⟨outer, (Html.opens_finishTitle opensClosed allowsEscaped).1⟩
          · exact ⟨outer, opensClosed⟩
    · simp at rendered

/-- An event that is rendered keeps the page a piece of markup and adds its content. -/
theorem opens_renderEvent
    (opens : rendering.Opens encoding allowed opened content)
    (allowsEscaped : ∀ text, escapedCharacter text → allowed text)
    (isTaggable : event.IsTaggable)
    (passesThrough : event.PassesThrough allowed)
    (rendered : encoding.renderEvent rendering event = .ok next) :
    ∃ inner added,
      next.Opens encoding allowed inner (content ++ added) ∧
        (event.isRaw = false → added = event.content) := by
  cases event with
  | opening name attributes =>
      obtain ⟨inner, opensNext⟩ := opens_openElement opens allowsEscaped isTaggable rendered
      exact ⟨inner, [], by simpa using opensNext, fun _ => rfl⟩
  | closing name =>
      obtain ⟨outer, opensNext⟩ := opens_closeElement opens allowsEscaped rendered
      exact ⟨outer, [], by simpa using opensNext, fun _ => rfl⟩
  | text text =>
      have shown : Shows encoding allowed opened opened (escapeText text).toList _ :=
        .ofText allowsEscaped opened text
      rw [hides_eq_false opens.noTitle] at shown
      have opensPage := opens.append shown
      cases encoding with
      | boostBook =>
          obtain rfl := Except.ok.inj rendered
          exact ⟨opened, _, opensPage, fun _ => rfl⟩
      | html =>
          obtain rfl := Except.ok.inj rendered
          exact ⟨opened, _, opensPage.withTitleText _, fun _ => rfl⟩
  | raw markup =>
      obtain rfl := Except.ok.inj rendered
      obtain ⟨tokens, leads⟩ := passesThrough.inside opened
      exact ⟨opened, _, opens.append ⟨tokens, leads, rfl⟩, by simp [Event.isRaw]⟩

/-- Events that are rendered keep the page a piece of markup and add their contents. -/
theorem opens_renderEvents
    (opens : rendering.Opens encoding allowed opened content)
    (allowsEscaped : ∀ text, escapedCharacter text → allowed text)
    (areTaggable : ∀ event ∈ events, event.IsTaggable)
    (passThrough : ∀ event ∈ events, event.PassesThrough allowed)
    (rendered : encoding.renderEvents rendering events = .ok next) :
    ∃ inner added,
      next.Opens encoding allowed inner (content ++ added) ∧
        ((∀ event ∈ events, event.isRaw = false) → added = events.flatMap Event.content) := by
  induction events generalizing rendering opened content with
  | nil =>
      obtain rfl := Except.ok.inj rendered
      exact ⟨opened, [], by simpa using opens, fun _ => rfl⟩
  | cons event rest inductionHypothesis =>
      rw [renderEvents_cons] at rendered
      cases renderedFirst : encoding.renderEvent rendering event with
      | error fault =>
          rw [renderedFirst] at rendered
          simp [Except.bind] at rendered
      | ok between =>
          rw [renderedFirst, Except.bind] at rendered
          obtain ⟨inner, added, opensBetween, isAdded⟩ :=
            opens_renderEvent opens allowsEscaped (areTaggable event (by simp))
              (passThrough event (by simp)) renderedFirst
          obtain ⟨innermost, others, opensLast, areOthers⟩ :=
            inductionHypothesis opensBetween
              (fun other member => areTaggable other (by simp [member]))
              (fun other member => passThrough other (by simp [member])) rendered
          refine ⟨innermost, added ++ others, by simpa using opensLast, fun noRaw => ?_⟩
          rw [List.flatMap_cons, isAdded (noRaw event (by simp)),
            areOthers fun other member => noRaw other (by simp [member])]

/-- A page that is written is balanced markup and shows the contents of the events. -/
theorem shows_encode
    (allowsEscaped : ∀ text, escapedCharacter text → allowed text)
    (areTaggable : ∀ event ∈ events, event.IsTaggable)
    (passThrough : ∀ event ∈ events, event.PassesThrough allowed)
    {page : String}
    (encoded : encoding.encode events = .ok page) :
    ∃ content,
      Shows encoding allowed [] [] page.toList content ∧
        ((∀ event ∈ events, event.isRaw = false) → content = events.flatMap Event.content) := by
  unfold encode at encoded
  split at encoded
  · simp at encoded
  next last rendered =>
    obtain ⟨opened, content, opens, isContent⟩ :=
      opens_renderEvents .start allowsEscaped areTaggable passThrough rendered
    split at encoded
    · simp at encoded
    next noneOpen =>
      obtain rfl := Except.ok.inj encoded
      have closes := opens.closes
      rw [noneOpen] at closes
      cases closes with
      | nil =>
          refine ⟨content, ?_, isContent⟩
          unfold withFinalLineFeed
          split
          · exact opens.shows_output
          · rw [String.toList_append]
            simpa using opens.shows_output.trans (.of_passes allowsEscaped (.ofLineEnd []))

/-- A balanced stream of events is encoded, unless one of them is refused. -/
theorem exists_page
    (encoding : Encoding)
    (areTaggable : ∀ event ∈ events, event.IsTaggable)
    (balanced : openElementsAfter? [] events = some []) :
    (∃ page, encoding.encode events = .ok page) ∨
      (∃ event ∈ events, event.IsRefused encoding) ∧
        ∃ digits, encoding.encode events = .error (.level (.tooLong digits)) := by
  have noneOpen : ({} : Rendering).openNames = ([] : List Element).map Prod.fst := rfl
  unfold encode
  rcases exists_renderEvents encoding areTaggable noneOpen balanced with
    ⟨last, rendered, names⟩ | ⟨refused, digits, failed⟩
  · have noneLeft : last.opened = [] := List.map_eq_nil_iff.mp names
    rw [rendered]
    simp only [noneLeft]
    exact .inl ⟨_, rfl⟩
  · rw [failed]
    exact .inr ⟨refused, digits, rfl⟩

/-- A balanced stream of events that can be written gives a page of balanced markup. -/
theorem exists_encode
    (encoding : Encoding)
    (areWritable : ∀ event ∈ events, event.IsWritable)
    (balanced : openElementsAfter? [] events = some []) :
    ∃ page, encoding.encode events = .ok page ∧ Passes anyText [] [] page.toList := by
  have areTaggable := fun event member => (areWritable event member).isTaggable
  rcases exists_page encoding (fun event member => (areTaggable event member).1) balanced with
    ⟨page, encoded⟩ | ⟨⟨event, member, refused⟩, _⟩
  · have allowsEscaped : ∀ text, escapedCharacter text → anyText text := fun _ _ => trivial
    obtain ⟨_, ⟨tokens, leads, _⟩, _⟩ :=
      shows_encode allowsEscaped
        (fun event member => (areTaggable event member).1)
        (fun event member => (areTaggable event member).2.1) encoded
    exact ⟨page, encoded, tokens, leads⟩
  · exact ((areTaggable event member).2.2 encoding refused).elim

end Encoding

end DocMarkup
