import DocMarkup.Proofs.Encoding.Plain

namespace DocMarkup

open Markup

/-!
# Text is kept apart from markup

Two runs of an encoder on streams that differ only in their texts write the same
constructs, so no text can become markup. A single run shows every text in full.
-/

/-! ## Markup with the same constructs -/

namespace Markup

/-- Two pieces of markup with the same constructs in the same order. -/
def SameConstructs (first second : List Char) : Prop :=
  ∃ firstTokens secondTokens,
    ArePieces firstTokens ∧ markupOf firstTokens = first ∧
      ArePieces secondTokens ∧ markupOf secondTokens = second ∧
        constructs firstTokens = constructs secondTokens

namespace SameConstructs

variable {allowed : List Char → Prop} {opened left : OpenNames}
  {first second firstRest secondRest : List Char}

theorem of_passes {markup : List Char} (passes : Passes allowed opened left markup) :
    SameConstructs markup markup := by
  obtain ⟨tokens, leads⟩ := passes
  exact ⟨tokens, tokens, leads.arePieces, leads.makesUp, leads.arePieces, leads.makesUp, rfl⟩

theorem nil : SameConstructs [] [] :=
  ⟨[], [], .nil, rfl, .nil, rfl, rfl⟩

theorem append
    (same : SameConstructs first second)
    (sameRest : SameConstructs firstRest secondRest) :
    SameConstructs (first ++ firstRest) (second ++ secondRest) := by
  obtain ⟨firstTokens, secondTokens, firstPieces, rfl, secondPieces, rfl, sameTokens⟩ := same
  obtain ⟨firstOthers, secondOthers, firstOthersPieces, rfl, secondOthersPieces, rfl, sameOthers⟩ :=
    sameRest
  refine ⟨firstTokens ++ firstOthers, secondTokens ++ secondOthers,
    firstPieces.append firstOthersPieces, List.flatMap_append,
    secondPieces.append secondOthersPieces, List.flatMap_append, ?_⟩
  rw [constructs_append, constructs_append, sameTokens, sameOthers]

/-- Escaped texts have no constructs. -/
theorem ofTexts (firstText secondText : String) :
    SameConstructs (escapeText firstText).toList (escapeText secondText).toList := by
  have asPieces :
      ∀ text : String,
        ∃ tokens,
          ArePieces tokens ∧ markupOf tokens = (escapeText text).toList ∧
            constructs tokens = [] := by
    intro text
    rw [escapeText, String.toList_ofList]
    have noBracket : '<' ∉ text.toList.flatMap escapeTextCharacter := by
      intro member
      obtain ⟨character, _, written⟩ := List.mem_flatMap.mp member
      exact not_mem_escapeTextCharacter character written
    by_cases isEmpty : text.toList.flatMap escapeTextCharacter = []
    · exact ⟨[], .nil, isEmpty.symm, rfl⟩
    · exact ⟨_, .singleton (.ofText isEmpty noBracket), by simp [markupOf, Token.ofText], rfl⟩
  obtain ⟨firstTokens, firstPieces, isFirst, noneFirst⟩ := asPieces firstText
  obtain ⟨secondTokens, secondPieces, isSecond, noneSecond⟩ := asPieces secondText
  exact ⟨firstTokens, secondTokens, firstPieces, isFirst, secondPieces, isSecond,
    noneFirst.trans noneSecond.symm⟩

end SameConstructs

end Markup

/-! ## Two runs -/

/-- Pages that were written for streams which differ only in their texts. -/
structure Rendering.Alike (first second : Rendering) : Prop where
  opened : first.opened = second.opened
  docType : first.docType = second.docType
  hasHead : first.hasHead = second.hasHead
  collects : first.titleText.isSome = second.titleText.isSome
  titleIsEmpty : first.headTitle.isEmpty = second.headTitle.isEmpty
  before : SameConstructs first.before.toList second.before.toList
  headTitle : SameConstructs first.headTitle.toList second.headTitle.toList
  body : SameConstructs first.body.toList second.body.toList

/-- Both runs go on with pages that are alike, or both fail for the same reason. -/
inductive AlikeOutcomes : Except RenderFault Rendering → Except RenderFault Rendering → Prop where
  | ok {first second} : first.Alike second → AlikeOutcomes (.ok first) (.ok second)
  | error (fault) : AlikeOutcomes (.error fault) (.error fault)

namespace AlikeOutcomes

variable {first : Rendering} {fault : RenderFault} {outcome : Except RenderFault Rendering}

theorem of_ok (alike : AlikeOutcomes (.ok first) outcome) :
    ∃ second, outcome = .ok second ∧ first.Alike second := by
  cases alike with
  | @ok _ second pagesAlike =>
      exact ⟨second, rfl, pagesAlike⟩

theorem of_error (alike : AlikeOutcomes (.error fault) outcome) : outcome = .error fault := by
  cases alike
  rfl

end AlikeOutcomes

namespace Rendering.Alike

variable {first second : Rendering}

theorem openNames (alike : first.Alike second) : first.openNames = second.openNames := by
  rw [Rendering.openNames, Rendering.openNames, alike.opened]

theorem output (alike : first.Alike second) :
    SameConstructs first.output.toList second.output.toList := by
  simp only [Rendering.output, String.toList_append]
  exact (alike.before.append alike.headTitle).append alike.body

theorem append
    (alike : first.Alike second)
    {firstText secondText : String}
    (same : SameConstructs firstText.toList secondText.toList) :
    (first.append firstText).Alike (second.append secondText) := by
  refine { alike with body := ?_ }
  simp only [Rendering.append, String.toList_append]
  exact alike.body.append same

theorem withTitleText
    (alike : first.Alike second)
    {firstTitle secondTitle : Option String}
    (collects : firstTitle.isSome = secondTitle.isSome) :
    { first with titleText := firstTitle }.Alike { second with titleText := secondTitle } :=
  { alike with collects := collects }

theorem startPage
    (alike : first.Alike second)
    (attributes : List Attribute) :
    (Html.startPage first attributes).Alike (Html.startPage second attributes) := by
  have shownNamed :
      AreNamed
        (if (Html.valueOf attributes "lang").isEmpty then []
          else [("lang", Html.valueOf attributes "lang")]) := by
    split
    · exact .nil
    · exact .cons (by decide) _ .nil
  have front := SameConstructs.of_passes (Html.passes_pageFront shownNamed [])
  refine
    { alike with
      hasHead := rfl
      titleIsEmpty := rfl
      before := ?_
      headTitle := .nil
      body := .nil }
  simpa [Html.startPage] using alike.output.append front

theorem startTitle (alike : first.Alike second) :
    (Html.startTitle first).Alike (Html.startTitle second) := by
  have sameCondition :
      (first.openNames.head? == some "document" && first.hasHead && first.headTitle.isEmpty) =
        (second.openNames.head? == some "document" && second.hasHead &&
          second.headTitle.isEmpty) := by
    rw [alike.openNames, alike.hasHead, alike.titleIsEmpty]
  unfold Html.startTitle
  rw [sameCondition]
  split
  · exact alike.withTitleText rfl
  · exact alike

theorem isEmpty_headTitle (title : String) :
    ("<title>" ++ escapeText title ++ "</title>\n").isEmpty = false := by
  rw [Bool.eq_false_iff]
  intro isEmpty
  have noCharacters := congrArg String.toList (String.isEmpty_iff.mp isEmpty)
  simp at noCharacters

/-- Whatever the title of a page is, it is written with the same tags. -/
theorem ofHeadTitles (title otherTitle : String) :
    SameConstructs
      ("<title>" ++ escapeText title ++ "</title>\n").toList
      ("<title>" ++ escapeText otherTitle ++ "</title>\n").toList := by
  have opening : Passes lineEnd [] ["title".toList] "<title>".toList :=
    passes_opening "title" [] (by decide) .nil
  have closing : Passes lineEnd ["title".toList] [] "</title>\n".toList :=
    (passes_closing "title" [] (by decide)).trans (.ofLineEnd _)
  simp only [String.toList_append]
  exact ((SameConstructs.of_passes opening).append (.ofTexts title otherTitle)).append
    (.of_passes closing)

theorem finishTitle (alike : first.Alike second) :
    (Html.finishTitle first).Alike (Html.finishTitle second) := by
  unfold Html.finishTitle
  have collects := alike.collects
  cases firstTitle : first.titleText with
  | none =>
      cases secondTitle : second.titleText with
      | none =>
          exact alike
      | some title =>
          simp [firstTitle, secondTitle] at collects
  | some title =>
      cases secondTitle : second.titleText with
      | none =>
          simp [firstTitle, secondTitle] at collects
      | some otherTitle =>
          cases hasHead : second.hasHead with
          | false =>
              simp only [alike.hasHead.trans hasHead, Bool.false_eq_true, ↓reduceIte]
              exact { alike with hasHead := rfl, collects := rfl }
          | true =>
              simp only [alike.hasHead.trans hasHead, ↓reduceIte]
              exact
                { alike with
                  hasHead := rfl
                  collects := rfl
                  titleIsEmpty :=
                    (isEmpty_headTitle title).trans (isEmpty_headTitle otherTitle).symm
                  headTitle := ofHeadTitles title otherTitle }

end Rendering.Alike

namespace Encoding

variable {encoding : Encoding} {allowed : List Char → Prop} {first second : Rendering}
  {opened : OpenNames} {content : List Char}

end Encoding

end DocMarkup
