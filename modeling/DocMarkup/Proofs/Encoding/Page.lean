import DocMarkup.Encoding.Render
import DocMarkup.Proofs.Encoding.BoostBook
import DocMarkup.Proofs.Encoding.Content

namespace DocMarkup

open Markup

/-!
# Pages that are being rendered

A page that is being rendered is a piece of markup at any time. The closing texts of
the elements that are open close what is open in it, and its content is known.
-/

/-- The closing texts of elements, innermost first, close all that is open. -/
inductive Closes : List OpenElement → OpenNames → Prop where
  | nil : Closes [] []
  | cons {element others names outer} :
      Passes lineEnd (names ++ outer) outer (OpenElement.closing element).toList →
      Closes others outer →
      Closes (element :: others) (names ++ outer)

/--
A page with some open elements, which their closing texts close, and with a content.
In a page of HTML no title of a head is open: it is written as a whole.
-/
structure Rendering.Opens
    (rendering : Rendering)
    (encoding : Encoding)
    (allowed : List Char → Prop)
    (opened : OpenNames)
    (content : List Char) :
    Prop where
  closes : Closes rendering.opened opened
  docType : IsTagName rendering.docType.toList
  noTitle : encoding = .html → Html.titleTag ∉ opened
  page :
    ∃ head shownBefore shownBody,
      Shows encoding allowed [] head rendering.before.toList shownBefore ∧
        Shows encoding allowed head head rendering.headTitle.toList [] ∧
          Shows encoding allowed head opened rendering.body.toList shownBody ∧
            (rendering.hasHead = true → head.head? = some Html.headTag) ∧
              content = shownBefore ++ shownBody

/-- Text is hidden only inside a title. -/
theorem Encoding.hides_eq_false
    {encoding : Encoding}
    {opened : OpenNames}
    (noTitle : encoding = .html → Html.titleTag ∉ opened) :
    encoding.hides opened = false := by
  cases hidden : encoding.hides opened with
  | false =>
      rfl
  | true =>
      simp only [hides, Bool.and_eq_true, beq_iff_eq] at hidden
      have inFront : Html.titleTag ∈ opened.take 2 := by
        simp [hidden.2]
      exact (noTitle hidden.1 (List.mem_of_mem_take inFront)).elim

variable {encoding : Encoding} {allowed : List Char → Prop} {rendering : Rendering}
  {opened : OpenNames} {content : List Char}

namespace Rendering.Opens

/-- Nothing is open at the start, and nothing is shown. -/
theorem start : ({} : Rendering).Opens encoding allowed [] [] where
  closes := .nil
  docType := by decide
  noTitle := by simp
  page := ⟨[], [], [], .nil [], .nil [], .nil [], by simp, rfl⟩

/-- The whole page leads from nothing to what is open. -/
theorem shows_output (opens : rendering.Opens encoding allowed opened content) :
    Shows encoding allowed [] opened rendering.output.toList content := by
  obtain ⟨head, shownBefore, shownBody, before, headTitle, body, _, rfl⟩ := opens.page
  simp only [output, String.toList_append]
  simpa using (before.trans headTitle).trans body

/-- The text that was collected for the title does not matter. -/
theorem withTitleText
    (opens : rendering.Opens encoding allowed opened content)
    (titleText : Option String) :
    { rendering with titleText := titleText }.Opens encoding allowed opened content :=
  { opens with }

/-- What leaves open what is open can be added anywhere. -/
theorem append
    (opens : rendering.Opens encoding allowed opened content)
    {text : String}
    {added : List Char}
    (shown : Shows encoding allowed opened opened text.toList added) :
    (rendering.append text).Opens encoding allowed opened (content ++ added) := by
  obtain ⟨head, shownBefore, shownBody, before, headTitle, body, hasHead, rfl⟩ := opens.page
  refine { opens with page := ?_ }
  refine ⟨head, shownBefore, shownBody ++ added, before, headTitle, ?_, hasHead, by simp⟩
  rw [Rendering.append, String.toList_append]
  exact body.trans shown

/-- An element is opened by tags that enclose it. -/
theorem appendOpening
    (opens : rendering.Opens encoding allowed opened content)
    (allowsEscaped : ∀ text, escapedCharacter text → allowed text)
    {pair : TagPair}
    {names : OpenNames}
    (encloses : pair.Encloses names)
    (noTitle : encoding = .html → Html.titleTag ∉ names)
    (name : String) :
    { rendering.append pair.opening with
      opened := ⟨name, pair.closing⟩ :: rendering.opened }.Opens
        encoding allowed (names ++ opened) content := by
  obtain ⟨head, shownBefore, shownBody, before, headTitle, body, hasHead, rfl⟩ := opens.page
  refine
    { closes := .cons (encloses.closes opened) opens.closes
      docType := opens.docType
      noTitle := fun isHtml => by simp [noTitle isHtml, opens.noTitle isHtml]
      page := ⟨head, shownBefore, shownBody, before, headTitle, ?_, hasHead, rfl⟩ }
  rw [Rendering.append, String.toList_append]
  simpa using body.trans (.of_passes allowsEscaped (encloses.opens opened))

/-- The closing text of the innermost element closes it. -/
theorem appendClosing
    (opens : rendering.Opens encoding allowed opened content)
    (allowsEscaped : ∀ text, escapedCharacter text → allowed text)
    {innermost : OpenElement}
    {others : List OpenElement}
    (isInnermost : rendering.opened = innermost :: others) :
    ∃ outer,
      { rendering.append innermost.closing with opened := others }.Opens
        encoding allowed outer content := by
  obtain ⟨head, shownBefore, shownBody, before, headTitle, body, hasHead, rfl⟩ := opens.page
  have closes := opens.closes
  have noTitle := opens.noTitle
  rw [isInnermost] at closes
  cases closes with
  | @cons _ _ names outer closing closesOthers =>
      refine ⟨outer,
        { closes := closesOthers
          docType := opens.docType
          noTitle := fun isHtml member => noTitle isHtml (by simp [member])
          page := ⟨head, shownBefore, shownBody, before, headTitle, ?_, hasHead, rfl⟩ }⟩
      rw [Rendering.append, String.toList_append]
      simpa using body.trans (.of_passes allowsEscaped closing)

end Rendering.Opens

namespace Html

variable {attributes : List Attribute}

/-- The front of a page opens the head. -/
theorem passes_pageFront
    (shownNamed : AreNamed attributes)
    (opened : OpenNames) :
    Passes lineEnd opened (headTag :: "html".toList :: opened)
      ("<!DOCTYPE html>\n<html" ++ renderAttributes attributes ++
        ">\n<head>\n<meta charset=\"utf-8\"/>\n").toList := by
  have front :
      "<!DOCTYPE html>\n<html".toList =
        ('<' :: '!' :: 'D' :: ("OCTYPE html".toList ++ ['>'])) ++
          (['\n'] ++ ("<".toList ++ "html".toList)) := by
    decide +kernel
  have behind :
      ">\n<head>\n<meta charset=\"utf-8\"/>\n".toList =
        ">".toList ++
          (['\n'] ++
            ("<head>".toList ++ (['\n'] ++ ("<meta charset=\"utf-8\"/>".toList ++ ['\n'])))) := by
    decide +kernel
  have declaration :
      Passes lineEnd opened opened ('<' :: '!' :: 'D' :: ("OCTYPE html".toList ++ ['>'])) :=
    .single (covers_declaration (by decide) (by decide)) rfl
  have page :
      Passes lineEnd opened ("html".toList :: opened)
        ("<".toList ++ "html".toList ++ (renderAttributes attributes).toList ++
          ">".toList) := by
    rw [← String.toList_append, ← String.toList_append, ← String.toList_append]
    exact passes_opening "html" attributes (by decide) shownNamed
  have head :
      Passes lineEnd ("html".toList :: opened) (headTag :: "html".toList :: opened)
        "<head>".toList :=
    passes_opening "head" [] (by decide) .nil
  have characterSet :
      ∀ around : OpenNames, Passes lineEnd around around "<meta charset=\"utf-8\"/>".toList :=
    fun around =>
      passes_emptyTag "meta" [("charset", "utf-8")] (by decide) (.cons (by decide) _ .nil)
  have whole :=
    declaration.trans ((Passes.ofLineEnd _).trans (page.trans ((Passes.ofLineEnd _).trans
      (head.trans ((Passes.ofLineEnd _).trans ((characterSet _).trans (.ofLineEnd _)))))))
  rw [String.toList_append, String.toList_append, front, behind]
  simp only [List.append_assoc] at whole ⊢
  exact whole

/-- A document ends the head of the page and opens its body. -/
theorem opens_document
    (opens : rendering.Opens .html allowed opened content)
    (allowsEscaped : ∀ text, escapedCharacter text → allowed text)
    (attributes : List Attribute) :
    ∃ inner,
      { (startPage rendering attributes).append "</head>\n<body>\n" with
        opened := ⟨"document", "</body>\n</html>\n"⟩ :: rendering.opened }.Opens
          .html allowed inner content := by
  let language := valueOf attributes "lang"
  let shown := if language.isEmpty then [] else [("lang", language)]
  have shownNamed : AreNamed shown := by
    unfold shown
    split
    · exact .nil
    · exact .cons (by decide) _ .nil
  have beginsBody :
      Passes lineEnd (headTag :: "html".toList :: opened)
        ("body".toList :: "html".toList :: opened) "</head>\n<body>\n".toList :=
    ((passes_closing "head" [] (by decide)).trans (.ofLineEnd _)).trans
      ((passes_opening "body" [] (by decide) .nil).trans (.ofLineEnd _))
  have endsBody :
      Passes lineEnd (["body".toList, "html".toList] ++ opened) opened
        "</body>\n</html>\n".toList :=
    ((passes_closing "body" [] (by decide)).trans (.ofLineEnd _)).trans
      ((passes_closing "html" [] (by decide)).trans (.ofLineEnd _))
  refine ⟨["body".toList, "html".toList] ++ opened,
    { closes := .cons endsBody opens.closes
      docType := opens.docType
      noTitle := ?_
      page := ⟨headTag :: "html".toList :: opened, content, [], ?_, .nil _, ?_, ?_, by simp⟩ }⟩
  · intro isHtml member
    rcases List.mem_append.mp member with inPage | inOpened
    · exact absurd inPage (by decide)
    · exact opens.noTitle isHtml inOpened
  · have front :=
      opens.shows_output.trans (.of_passes allowsEscaped (passes_pageFront shownNamed opened))
    rw [← String.toList_append, List.append_nil] at front
    simpa only [startPage, Rendering.append, String.append_assoc] using front
  · simpa [startPage, Rendering.append] using Shows.of_passes allowsEscaped beginsBody
  · exact fun _ => rfl

/-- Starting to collect the title of the page leaves the page as it is. -/
theorem opens_startTitle (opens : rendering.Opens encoding allowed opened content) :
    (startTitle rendering).Opens encoding allowed opened content ∧
      (startTitle rendering).opened = rendering.opened := by
  unfold startTitle
  split
  · exact ⟨opens.withTitleText _, rfl⟩
  · exact ⟨opens, rfl⟩

/-- A title in the head of a page is no part of the content. -/
theorem shows_headTitle
    (allowsEscaped : ∀ text, escapedCharacter text → allowed text)
    {head : OpenNames}
    (isHead : head.head? = some headTag)
    (title : String) :
    Shows .html allowed head head ("<title>" ++ escapeText title ++ "</title>\n").toList [] := by
  have isHidden : Encoding.html.hides (titleTag :: head) = true := by
    cases head with
    | nil =>
        simp at isHead
    | cons innermost outer =>
        obtain rfl := Option.some.inj isHead
        simp [Encoding.hides]
  have written :
      ("<title>" ++ escapeText title ++ "</title>\n").toList =
        (tagPair "title" []).opening.toList ++
          ((escapeText title).toList ++ ((tagPair "title" []).closing.toList ++ ['\n'])) := by
    simp [tagPair, renderAttributes]
  have opensTitle :
      Shows .html allowed head (titleTag :: head) (tagPair "title" []).opening.toList [] :=
    .of_passes allowsEscaped (passes_opening "title" [] (by decide) .nil)
  have closesTitle :
      Shows .html allowed (titleTag :: head) head
        ((tagPair "title" []).closing.toList ++ ['\n']) [] :=
    .of_passes allowsEscaped
      ((passes_closing "title" [] (by decide)).trans (.ofLineEnd _))
  have text :
      Shows .html allowed (titleTag :: head) (titleTag :: head) (escapeText title).toList _ :=
    .ofText allowsEscaped (titleTag :: head) title
  rw [if_pos isHidden] at text
  rw [written]
  exact opensTitle.trans (text.trans closesTitle)

/-- The title of the page is shown in its head. -/
theorem opens_finishTitle
    (opens : rendering.Opens .html allowed opened content)
    (allowsEscaped : ∀ text, escapedCharacter text → allowed text) :
    (finishTitle rendering).Opens .html allowed opened content ∧
      (finishTitle rendering).opened = rendering.opened := by
  obtain ⟨head, shownBefore, shownBody, before, headTitle, body, hasHead, sameContent⟩ :=
    opens.page
  unfold finishTitle
  split
  · exact ⟨opens, rfl⟩
  next title _ =>
    refine ⟨{ opens with
      page := ⟨head, shownBefore, shownBody, before, ?_, body, hasHead, sameContent⟩ }, rfl⟩
    simp only
    split
    next inHead =>
      exact shows_headTitle allowsEscaped (hasHead inHead) title
    next =>
      exact headTitle

end Html

end DocMarkup
