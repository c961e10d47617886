import DocMarkup.Proofs.Encoding.Html

namespace DocMarkup

open Markup

/-!
# The content of pages

Entities are replaced by the characters that they stand for, in one pass from left to
right. What has been escaped is had back in this way. The content of a page is what its
texts stand for, apart from the ends of lines. The title in the head of a page of HTML is
left out, as the page shows it in its body too. Parts of a page add their contents,
whether or not their texts become one token.
-/

/-! ## Entities -/

/-- A text that stands for a character. -/
abbrev Entity :=
  List Char × Char

/-- The entities of character data. -/
def textEntities : List Entity :=
  [("&lt;".toList, '<'), ("&gt;".toList, '>'), ("&amp;".toList, '&')]

/-- Replace entities by what they stand for; what was replaced is not looked at again. -/
def decode (entities : List Entity) : List Char → List Char
  | [] => []
  | first :: rest =>
      match entities.find? fun entity => entity.1.isPrefixOf (first :: rest) with
      | some (written, meaning) => meaning :: decode entities (rest.drop (written.length - 1))
      | none => first :: decode entities rest
termination_by text => text.length
decreasing_by
  · simp only [List.length_drop, List.length_cons]
    omega
  · simp

theorem decode_nil (entities : List Entity) : decode entities [] = [] := by
  rw [decode]

/-- Entities are told from other text by the ampersand that they start with. -/
def StartWithAmpersand (entities : List Entity) : Prop :=
  ∀ entity ∈ entities, entity.1.head? = some '&'

instance (entities : List Entity) : Decidable (StartWithAmpersand entities) :=
  inferInstanceAs (Decidable (∀ entity ∈ entities, _))

theorem decode_cons_of_ne
    {entities : List Entity}
    (startWithAmpersand : StartWithAmpersand entities)
    {first : Char}
    (notAmpersand : first ≠ '&')
    (rest : List Char) :
    decode entities (first :: rest) = first :: decode entities rest := by
  have noneFound :
      (entities.find? fun entity => entity.1.isPrefixOf (first :: rest)) = none := by
    rw [List.find?_eq_none]
    rintro ⟨written, meaning⟩ member
    cases written with
    | nil =>
        exact absurd (startWithAmpersand _ member) (by simp)
    | cons second others =>
        obtain rfl : second = '&' := by
          simpa using startWithAmpersand _ member
        simpa [List.isPrefixOf] using fun same => (notAmpersand same.symm).elim
  rw [decode, noneFound]

/-- An escaped character of a text is had back, whatever follows. -/
theorem decode_escapeTextCharacter (character : Char) (rest : List Char) :
    decode textEntities (escapeTextCharacter character ++ rest) =
      character :: decode textEntities rest := by
  unfold escapeTextCharacter
  split
  next isAmpersand =>
    obtain rfl := beq_iff_eq.mp isAmpersand
    show decode textEntities ('&' :: 'a' :: 'm' :: 'p' :: ';' :: rest) = _
    rw [decode]
    simp [textEntities]
  next notAmpersand =>
    split
    next isLess =>
      obtain rfl := beq_iff_eq.mp isLess
      show decode textEntities ('&' :: 'l' :: 't' :: ';' :: rest) = _
      rw [decode]
      simp [textEntities]
    split
    next isGreater =>
      obtain rfl := beq_iff_eq.mp isGreater
      show decode textEntities ('&' :: 'g' :: 't' :: ';' :: rest) = _
      rw [decode]
      simp [textEntities]
    next =>
      exact decode_cons_of_ne (by decide) (by simpa using notAmpersand) rest

/-- A text that is one escaped character. -/
def escapedCharacter (text : List Char) : Prop :=
  ∃ character, text = escapeTextCharacter character

/-- A text apart from its line feeds. -/
def withoutLineFeeds (text : List Char) : List Char :=
  text.filter fun character => character != '\n'

/-- The tag of the head of a page. -/
def Html.headTag : List Char :=
  "head".toList

namespace Encoding

/-- Whether text inside the given elements is not part of the content. -/
def hides (encoding : Encoding) (opened : OpenNames) : Bool :=
  encoding == .html && opened.take 2 == [Html.titleTag, Html.headTag]

/-- The texts that belong to the content. -/
def shownTexts (encoding : Encoding) : OpenNames → List Token → List (List Char)
  | _, [] => []
  | opened, token :: rest =>
      let others :=
        shownTexts encoding ((openNames? token.kind token.name opened).getD opened) rest
      if token.kind == .text && !encoding.hides opened then token.text :: others else others

/-- The content of tokens inside the given elements. -/
def contentOf (encoding : Encoding) (opened : OpenNames) (tokens : List Token) : List Char :=
  withoutLineFeeds ((encoding.shownTexts opened tokens).flatMap (decode textEntities))

variable {encoding : Encoding} {opened between left : OpenNames}

theorem exists_token_of_mem_shownTexts
    {opened : OpenNames}
    {tokens : List Token}
    {text : List Char}
    (member : text ∈ encoding.shownTexts opened tokens) :
    ∃ token ∈ tokens, token.kind = .text ∧ token.text = text := by
  induction tokens generalizing opened with
  | nil =>
      simp [shownTexts] at member
  | cons token rest inductionHypothesis =>
      rw [shownTexts] at member
      split at member
      next isShown =>
        rcases List.mem_cons.mp member with rfl | inRest
        · simp only [Bool.and_eq_true, beq_iff_eq] at isShown
          exact ⟨token, by simp, isShown.1, rfl⟩
        · obtain ⟨found, inside, isText⟩ := inductionHypothesis inRest
          exact ⟨found, List.mem_cons_of_mem _ inside, isText⟩
      next =>
        obtain ⟨found, inside, isText⟩ := inductionHypothesis member
        exact ⟨found, List.mem_cons_of_mem _ inside, isText⟩

theorem shownTexts_append
    {first : List Token}
    (leads : openNamesAfter? opened first = some between)
    (second : List Token) :
    encoding.shownTexts opened (first ++ second) =
      encoding.shownTexts opened first ++ encoding.shownTexts between second := by
  induction first generalizing opened with
  | nil =>
      obtain rfl := Option.some.inj leads
      rfl
  | cons token rest inductionHypothesis =>
      obtain ⟨next, leadsFirst, leadsRest⟩ := Option.bind_eq_some_iff.mp leads
      simp only [List.cons_append, shownTexts, leadsFirst, Option.getD_some,
        inductionHypothesis leadsRest]
      split <;> rfl

theorem contentOf_append
    {first : List Token}
    (leads : openNamesAfter? opened first = some between)
    (second : List Token) :
    encoding.contentOf opened (first ++ second) =
      encoding.contentOf opened first ++ encoding.contentOf between second := by
  simp only [contentOf, shownTexts_append leads, List.flatMap_append, withoutLineFeeds,
    List.filter_append]

end Encoding

/-- Markup leads from some open elements to others and has a content. -/
def Shows
    (encoding : Encoding)
    (allowed : List Char → Prop)
    (opened left : OpenNames)
    (markup content : List Char) :
    Prop :=
  ∃ tokens, Leads allowed opened left markup tokens ∧ encoding.contentOf opened tokens = content

namespace Shows

variable {encoding : Encoding} {allowed : List Char → Prop} {opened between left : OpenNames}
  {first second firstContent secondContent : List Char}

theorem nil (opened : OpenNames) : Shows encoding allowed opened opened [] [] :=
  ⟨[], .nil opened, rfl⟩

/-- Two parts show their contents in a row. -/
theorem trans
    (firstShows : Shows encoding allowed opened between first firstContent)
    (secondShows : Shows encoding allowed between left second secondContent) :
    Shows encoding allowed opened left (first ++ second) (firstContent ++ secondContent) := by
  obtain ⟨firstTokens, firstLeads, rfl⟩ := firstShows
  obtain ⟨secondTokens, secondLeads, rfl⟩ := secondShows
  exact ⟨_, firstLeads.append secondLeads, Encoding.contentOf_append firstLeads.leads _⟩

/-- What has only line ends as texts shows nothing. -/
theorem of_passes
    (allowsEscaped : ∀ text, escapedCharacter text → allowed text)
    {markup : List Char}
    (passes : Passes lineEnd opened left markup) :
    Shows encoding allowed opened left markup [] := by
  obtain ⟨tokens, leads⟩ := passes
  have isAllowed : ∀ text, lineEnd text → allowed text := by
    intro text isLineEnd
    exact allowsEscaped text ⟨'\n', isLineEnd⟩
  have decodeLineEnd : decode textEntities ['\n'] = ['\n'] := by
    rw [decode_cons_of_ne (by decide) (by decide), decode_nil]
  refine ⟨tokens, leads.mono isAllowed, ?_⟩
  simp only [Encoding.contentOf, withoutLineFeeds, List.filter_eq_nil_iff, List.mem_flatMap]
  rintro character ⟨text, isShown, member⟩
  obtain ⟨token, inside, isText, rfl⟩ := Encoding.exists_token_of_mem_shownTexts isShown
  rw [leads.areAllowed token inside isText, decodeLineEnd, List.mem_singleton] at member
  simp [member]

/-- A character of a text is shown, unless it is hidden. -/
theorem ofCharacter
    (allowsEscaped : ∀ text, escapedCharacter text → allowed text)
    (opened : OpenNames)
    (character : Char) :
    Shows encoding allowed opened opened (escapeTextCharacter character)
      (if encoding.hides opened then [] else withoutLineFeeds [character]) := by
  have notEmpty : escapeTextCharacter character ≠ [] := by
    unfold escapeTextCharacter
    split
    · decide
    split
    · decide
    split
    · decide
    · simp
  have alone := decode_escapeTextCharacter character []
  rw [List.append_nil, decode_nil] at alone
  refine ⟨_, .ofText notEmpty (not_mem_escapeTextCharacter character)
    (allowsEscaped _ ⟨character, rfl⟩) opened, ?_⟩
  by_cases hidden : encoding.hides opened
  · simp [Encoding.contentOf, Encoding.shownTexts, Token.ofText, hidden, withoutLineFeeds]
  · simp [Encoding.contentOf, Encoding.shownTexts, Token.ofText, hidden, alone]

/-- A text is shown, unless it is hidden. -/
theorem ofText
    (allowsEscaped : ∀ text, escapedCharacter text → allowed text)
    (opened : OpenNames)
    (text : String) :
    Shows encoding allowed opened opened (escapeText text).toList
      (if encoding.hides opened then [] else withoutLineFeeds text.toList) := by
  rw [escapeText, String.toList_ofList]
  induction text.toList with
  | nil =>
      simpa [withoutLineFeeds] using Shows.nil opened
  | cons first rest inductionHypothesis =>
      have both := (ofCharacter allowsEscaped opened first).trans inductionHypothesis
      rw [List.flatMap_cons]
      by_cases hidden : encoding.hides opened
      · simpa [hidden] using both
      · simpa [hidden, withoutLineFeeds, ← List.filter_append] using both

end Shows

end DocMarkup
