import DocMarkup.Compilation
import DocMarkup.Proofs.Encoding.Render
import DocMarkup.Proofs.Markup.Kept
import DocMarkup.Proofs.Written.BlockTree

namespace DocMarkup

open Markup

/-!
# Blocks of code on pages

A block of code is written as one element whose text is escaped. It stands behind
pieces of markup in every page, as all that was written before it is made up of such,
and neither what is written later nor the layout of the page changes a character of it.
-/

/-- What opens a block of code. -/
def Encoding.codeOpening : Encoding → String
  | .boostBook => "<programlisting>"
  | .html => "<pre class=\"programlisting\">"

/-- What closes a block of code. -/
def Encoding.codeClosing : Encoding → String
  | .boostBook => "</programlisting>"
  | .html => "</pre>"

/-- A block of code as it stands on a page. -/
def Encoding.codeElement (encoding : Encoding) (content : String) : String :=
  encoding.codeOpening ++ escapeText content ++ encoding.codeClosing

/-- A text stands in markup behind pieces of it. -/
def StandsIn (text markup : List Char) : Prop :=
  ∃ front behind, ArePieces front ∧ markup = markupOf front ++ (text ++ behind)

namespace StandsIn

variable {text markup : List Char}

/-- It still does so if more is written. -/
theorem append (stands : StandsIn text markup) (more : List Char) :
    StandsIn text (markup ++ more) := by
  obtain ⟨front, behind, arePieces, rfl⟩ := stands
  exact ⟨front, behind ++ more, arePieces, by simp⟩

/-- It also does so behind further pieces. -/
theorem behind
    (stands : StandsIn text markup)
    {allowed : List Char → Prop}
    {opened left : OpenNames}
    {before : List Char}
    (passes : Passes allowed opened left before) :
    StandsIn text (before ++ markup) := by
  obtain ⟨front, behind, arePieces, rfl⟩ := stands
  obtain ⟨tokens, leads⟩ := passes
  refine ⟨tokens ++ front, behind, leads.arePieces.append arePieces, ?_⟩
  simp [markupOf, ← leads.makesUp]

/-- What is written behind pieces stands behind them. -/
theorem of_passes
    {allowed : List Char → Prop}
    {opened left : OpenNames}
    {before : List Char}
    (passes : Passes allowed opened left before)
    (text : List Char) :
    StandsIn text (before ++ text) :=
  StandsIn.behind ⟨[], [], .nil, by simp [markupOf]⟩ passes

end StandsIn

/-- What shows a content is made up of pieces. -/
theorem Shows.passes
    {encoding : Encoding}
    {allowed : List Char → Prop}
    {opened left : OpenNames}
    {markup content : List Char}
    (shows : Shows encoding allowed opened left markup content) :
    Passes allowed opened left markup := by
  obtain ⟨tokens, leads, -⟩ := shows
  exact ⟨tokens, leads⟩

/-! ## Pages that are being rendered -/

/-- A text stands in the part of a page before its title, or in the part behind it. -/
def Rendering.Holds (text : List Char) (rendering : Rendering) : Prop :=
  StandsIn text rendering.before.toList ∨ StandsIn text rendering.body.toList

namespace Rendering.Holds

variable {encoding : Encoding} {allowed : List Char → Prop} {rendering : Rendering}
  {opened : OpenNames} {text content : List Char}

/-- It stands in the whole page. -/
theorem output
    (holds : rendering.Holds text)
    (opens : rendering.Opens encoding allowed opened content) :
    StandsIn text rendering.output.toList := by
  obtain ⟨head, shownBefore, shownBody, before, headTitle, body, -, -⟩ := opens.page
  simp only [Rendering.output, String.toList_append]
  rcases holds with inFront | inBody
  · exact (inFront.append _).append _
  · exact inBody.behind (before.trans headTitle).passes

/-- It still stands there if more is written. -/
theorem append (holds : rendering.Holds text) (more : String) :
    (rendering.append more).Holds text := by
  unfold Rendering.append Holds
  rw [String.toList_append]
  exact holds.imp id fun inBody => inBody.append _

/-- It still stands there when an element is prepared for. -/
private theorem prepare
    (holds : rendering.Holds text)
    (opens : rendering.Opens encoding allowed opened content)
    (name : String)
    (attributes : List Attribute) :
    (encoding.prepare rendering name attributes).Holds text := by
  unfold Encoding.prepare
  cases encoding with
  | boostBook =>
      by_cases isDocument : name = "document"
      · simp only [isDocument, ↓reduceIte]
        exact holds
      · simp only [isDocument, ↓reduceIte]
        exact holds
  | html =>
      by_cases isDocument : name = "document"
      · simp only [isDocument, ↓reduceIte, Html.startPage]
        refine .inl ?_
        simp only [String.toList_append]
        exact (((holds.output opens).append _).append _).append _
      · have started : (Html.startTitle rendering).Holds text := by
          unfold Html.startTitle
          split <;> exact holds
        simp only [isDocument, ↓reduceIte]
        split
        · exact started
        · exact holds

/-- It still stands there after an event. -/
theorem renderEvent
    (holds : rendering.Holds text)
    (opens : rendering.Opens encoding allowed opened content)
    {event : Event}
    {next : Rendering}
    (rendered : encoding.renderEvent rendering event = .ok next) :
    next.Holds text := by
  cases event with
  | opening name attributes =>
      rw [Encoding.renderEvent, Encoding.openElement_eq] at rendered
      split at rendered
      · simp at rendered
      next pair _ =>
        obtain rfl := Except.ok.inj rendered
        exact (holds.prepare opens name attributes).append pair.opening
  | closing name =>
      rw [Encoding.renderEvent, Encoding.closeElement] at rendered
      split at rendered
      · simp at rendered
      next innermost outer _ =>
        split at rendered
        · have closed := holds.append innermost.closing
          cases encoding with
          | boostBook =>
              obtain rfl := Except.ok.inj rendered
              exact closed
          | html =>
              obtain rfl := Except.ok.inj rendered
              simp only [Html.closeElement, Html.finishTitle]
              split
              · split <;> exact closed
              · exact closed
        · simp at rendered
  | text shown =>
      have added := holds.append (escapeText shown)
      cases encoding with
      | boostBook =>
          obtain rfl := Except.ok.inj rendered
          exact added
      | html =>
          obtain rfl := Except.ok.inj rendered
          exact added
  | raw markup =>
      obtain rfl := Except.ok.inj rendered
      exact holds.append markup

/-- It still stands there after events. -/
theorem renderEvents
    (holds : rendering.Holds text)
    (opens : rendering.Opens encoding allowed opened content)
    (allowsEscaped : ∀ text, escapedCharacter text → allowed text)
    {events : List Event}
    (areTaggable : ∀ event ∈ events, event.IsTaggable)
    (passThrough : ∀ event ∈ events, event.PassesThrough allowed)
    {last : Rendering}
    (rendered : encoding.renderEvents rendering events = .ok last) :
    last.Holds text := by
  induction events generalizing rendering opened content with
  | nil =>
      obtain rfl := Except.ok.inj rendered
      exact holds
  | cons event rest inductionHypothesis =>
      rw [Encoding.renderEvents_cons] at rendered
      cases renderedFirst : encoding.renderEvent rendering event with
      | error fault =>
          simp [renderedFirst, Except.bind] at rendered
      | ok between =>
          rw [renderedFirst, Except.bind] at rendered
          obtain ⟨inner, added, opensBetween, -⟩ :=
            Encoding.opens_renderEvent opens allowsEscaped (areTaggable event (by simp))
              (passThrough event (by simp)) renderedFirst
          exact
            inductionHypothesis (holds.renderEvent opens renderedFirst) opensBetween
              (fun other member => areTaggable other (by simp [member]))
              (fun other member => passThrough other (by simp [member])) rendered

end Rendering.Holds

/-! ## Code -/

namespace Encoding

variable {encoding : Encoding}

/-- Events in a row are rendered one after the other. -/
theorem renderEvents_append
    (encoding : Encoding)
    (rendering : Rendering)
    (first second : List Event) :
    encoding.renderEvents rendering (first ++ second) =
      (encoding.renderEvents rendering first).bind fun next =>
        encoding.renderEvents next second :=
  List.foldlM_append

/-- Rendering a block of code adds it to the page. -/
theorem exists_renderEvents_codeEvents
    (encoding : Encoding)
    (rendering : Rendering)
    (content : String) :
    ∃ next,
      encoding.renderEvents rendering (codeEvents content) = .ok next ∧
        next.body = rendering.body ++ (encoding.codeElement content ++ "\n") := by
  let element : OpenElement := ⟨"programlisting", encoding.codeClosing ++ "\n"⟩
  let opened := rendering.beginElement element.name ⟨encoding.codeOpening, element.closing⟩
  have opens :
      encoding.renderEvent rendering (.opening "programlisting" []) = .ok opened := by
    rw [renderEvent, openElement_eq]
    cases encoding <;> rfl
  obtain ⟨shown, shows, stillOpen, isShown⟩ :
      ∃ shown,
        encoding.renderEvents opened (textEvents content) = .ok shown ∧
          shown.opened = element :: rendering.opened ∧
            shown.body = opened.body ++ escapeText content := by
    unfold textEvents
    split
    next isEmpty =>
      refine ⟨opened, rfl, rfl, ?_⟩
      rw [String.isEmpty_iff.mp isEmpty]
      exact String.append_empty.symm
    next =>
      cases encoding <;> exact ⟨_, rfl, rfl, rfl⟩
  obtain ⟨next, closes, isClosed⟩ :
      ∃ next,
        encoding.renderEvent shown (.closing "programlisting") = .ok next ∧
          next.body = shown.body ++ element.closing := by
    rw [renderEvent, closeElement, stillOpen]
    cases encoding <;> exact ⟨_, rfl, rfl⟩
  refine ⟨next, ?_, ?_⟩
  · rw [codeEvents, renderEvents_cons, opens, Except.bind, renderEvents_append, shows, Except.bind,
      renderEvents_cons, closes]
    rfl
  · rw [isClosed, isShown]
    simp [opened, element, Rendering.beginElement, Rendering.append, codeElement,
      String.append_assoc]

/-- Events in a row are rendered if the first of them are, and then the others. -/
private theorem exists_of_renderEvents_append
    {encoding : Encoding}
    {rendering last : Rendering}
    {first second : List Event}
    (rendered : encoding.renderEvents rendering (first ++ second) = .ok last) :
    ∃ between,
      encoding.renderEvents rendering first = .ok between ∧
        encoding.renderEvents between second = .ok last := by
  rw [renderEvents_append] at rendered
  cases renderedFirst : encoding.renderEvents rendering first with
  | error fault => simp [renderedFirst, Except.bind] at rendered
  | ok between => exact ⟨between, rfl, by rwa [renderedFirst] at rendered⟩

/-- Wherever code is among the events of a page, it stands in the page as it is. -/
theorem standsIn_encode
    {encoding : Encoding}
    {front behind : List Event}
    {content page : String}
    (areWritable : ∀ event ∈ front ++ (codeEvents content ++ behind), event.IsWritable)
    (encoded : encoding.encode (front ++ (codeEvents content ++ behind)) = .ok page) :
    StandsIn (encoding.codeElement content).toList page.toList := by
  have allowsEscaped : ∀ text, escapedCharacter text → anyText text := fun _ _ => trivial
  have areTaggable (event : Event) (member : event ∈ front ++ (codeEvents content ++ behind)) :=
    (areWritable event member).isTaggable
  unfold encode at encoded
  split at encoded
  · simp at encoded
  next last rendered =>
    obtain ⟨atCode, renderedFront, renderedRest⟩ := exists_of_renderEvents_append rendered
    obtain ⟨behindCode, renderedCode, renderedBehind⟩ :=
      exists_of_renderEvents_append renderedRest
    obtain ⟨openedFront, _, opensFront, -⟩ :=
      opens_renderEvents .start allowsEscaped
        (fun event member => (areTaggable event (by simp [member])).1)
        (fun event member => (areTaggable event (by simp [member])).2.1) renderedFront
    obtain ⟨openedCode, _, opensCode, -⟩ :=
      opens_renderEvents opensFront allowsEscaped
        (fun event member => (areTaggable event (by simp [member])).1)
        (fun event member => (areTaggable event (by simp [member])).2.1) renderedCode
    obtain ⟨openedLast, _, opensLast, -⟩ :=
      opens_renderEvents opensCode allowsEscaped
        (fun event member => (areTaggable event (by simp [member])).1)
        (fun event member => (areTaggable event (by simp [member])).2.1) renderedBehind
    have holdsCode : behindCode.Holds (encoding.codeElement content).toList := by
      obtain ⟨next, renderedSo, isBody⟩ :=
        exists_renderEvents_codeEvents encoding atCode content
      obtain rfl := Except.ok.inj (renderedCode.symm.trans renderedSo)
      obtain ⟨_, _, _, -, -, body, -, -⟩ := opensFront.page
      refine .inr ?_
      rw [isBody, String.toList_append, String.toList_append, ← List.append_assoc]
      exact (StandsIn.of_passes body.passes _).append _
    have holdsLast :=
      (holdsCode.renderEvents opensCode allowsEscaped
        (fun event member => (areTaggable event (by simp [member])).1)
        (fun event member => (areTaggable event (by simp [member])).2.1) renderedBehind).output
        opensLast
    split at encoded
    · simp at encoded
    next =>
      obtain rfl := Except.ok.inj encoded
      unfold withFinalLineFeed
      split
      · exact holdsLast
      · rw [String.toList_append]
        exact holdsLast.append _

/-- The tags of code are pieces of markup, and what is between them is kept. -/
theorem codeElement_isKept (encoding : Encoding) :
    ∃ name,
      isVerbatim name = true ∧
        Token.IsPiece ⟨.start, encoding.codeOpening.toList, name⟩ ∧
          Token.IsPiece ⟨.finish, encoding.codeClosing.toList, name⟩ := by
  cases encoding with
  | boostBook =>
      have isName : IsTagName "programlisting".toList := by decide
      have closes :
          Token.IsPiece
            ⟨.finish, (tagPair "programlisting" []).closing.toList, "programlisting".toList⟩ :=
        isPiece_closing isName
      exact ⟨_, by decide, isPiece_opening isName .nil, closes⟩
  | html =>
      have isName : IsTagName "pre".toList := by decide
      have areNamed : AreNamed [("class", "programlisting")] := .cons (by decide) _ .nil
      have closes : Token.IsPiece ⟨.finish, (tagPair "pre" []).closing.toList, "pre".toList⟩ :=
        isPiece_closing isName
      exact ⟨_, by decide, isPiece_opening isName areNamed, closes⟩

end Encoding

/-- Escaped text has no opening angle bracket. -/
theorem not_mem_escapeText (text : String) : '<' ∉ (escapeText text).toList := by
  rw [escapeText, String.toList_ofList, List.mem_flatMap]
  rintro ⟨character, -, member⟩
  exact not_mem_escapeTextCharacter character member

/--
Wherever code is among the events of a document, it stands in the output character for
character, in every encoding and however the page is laid out.
-/
theorem Options.write_keeps_code
    {options : Options}
    {front behind : List Event}
    {content output : String}
    (areWritable :
      ∀ event ∈ front ++ (codeEvents content ++ behind), event.IsWritable)
    (written : options.write (front ++ (codeEvents content ++ behind)) = .ok output) :
    (options.encoding.codeElement content).toList <:+: output.toList := by
  unfold Options.write at written
  split at written
  · simp at written
  next page encoded =>
    obtain ⟨tokens, rest, arePieces, isPage⟩ := Encoding.standsIn_encode areWritable encoded
    split at written
    · split at written
      · simp at written
      next laidOut layOut =>
        obtain rfl := Except.ok.inj written
        obtain ⟨name, verbatim, opens, closes⟩ := options.encoding.codeElement_isKept
        simp only [Encoding.codeElement, String.toList_append, List.append_assoc] at isPage ⊢
        rw [← List.append_assoc]
        exact layOut_keeps_element verbatim opens (not_mem_escapeText content) closes arePieces
          isPage layOut
    · obtain rfl := Except.ok.inj written
      rw [isPage]
      exact ⟨markupOf tokens, rest, by simp⟩

end DocMarkup
