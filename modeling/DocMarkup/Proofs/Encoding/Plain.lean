import DocMarkup.Proofs.Encoding.Render

namespace DocMarkup

open Markup

/-!
# Streams of plain events

The encoders are not bound to the vocabulary of the compiler. They write every balanced
stream whose names are plain, and what they write is balanced, whatever the elements
are. Streams that are not balanced are refused.
-/

/-- Characters of plain names: neither blanks nor quotes nor what markup is made of. -/
def isPlainCharacter (character : Char) : Bool :=
  !(Text.isBlank character ||
    [Text.doubleQuote, Text.singleQuote, '<', '>', '/', '!', '?', '='].contains character)

/-- A name that can stand in a tag, for an element as well as for an attribute. -/
def IsPlainName (name : String) : Prop :=
  name.toList ≠ [] ∧ name.toList.all isPlainCharacter = true

instance (name : String) : Decidable (IsPlainName name) :=
  inferInstanceAs (Decidable (_ ∧ _))

namespace Event

/-- The names in an event are plain, and the level of a heading is a numeral. -/
def IsPlain : Event → Prop
  | .opening name attributes =>
      IsPlainName name ∧
        (∀ entry ∈ attributes, IsPlainName entry.1) ∧
          (name = "document" → IsPlainName (givenType attributes)) ∧
            (name = "heading" → Text.IsNumeral (givenLevel attributes))
  | _ => True

/-- The level of a heading has at most a number of digits. -/
def HasLevelWithin (digits : Nat) : Event → Prop
  | .opening name attributes =>
      name = "heading" → (givenLevel attributes).length ≤ digits
  | _ => True

/-- Markup that is passed through is found to be balanced. -/
def IsAccepted : Event → Prop
  | .raw markup => findError? markup = none
  | _ => True

instance : DecidablePred IsPlain
  | .opening _ _ => inferInstanceAs (Decidable (_ ∧ _ ∧ _ ∧ _))
  | .closing _ | .text _ | .raw _ => .isTrue trivial

instance (digits : Nat) : DecidablePred (HasLevelWithin digits)
  | .opening _ _ => inferInstanceAs (Decidable (_ → _))
  | .closing _ | .text _ | .raw _ => .isTrue trivial

instance : DecidablePred IsAccepted
  | .raw _ => inferInstanceAs (Decidable (_ = _))
  | .opening _ _ | .closing _ | .text _ => .isTrue trivial

end Event

variable {name : String} {event : Event} {events : List Event}

theorem IsPlainName.isTagName (isPlain : IsPlainName name) : IsTagName name.toList := by
  refine ⟨isPlain.1, List.all_eq_true.mpr fun character member => ?_⟩
  have plain := List.all_eq_true.mp isPlain.2 character member
  simp_all [isPlainCharacter, isStartNameCharacter, isEndNameCharacter]

theorem IsPlainName.isAttributeName (isPlain : IsPlainName name) : IsAttributeName name := by
  refine ⟨isPlain.1, List.all_eq_true.mpr fun character member => ?_⟩
  have plain := List.all_eq_true.mp isPlain.2 character member
  simp_all [isPlainCharacter, isAttributeNameCharacter, isEndNameCharacter]

namespace Event

theorem IsPlain.isTaggable (isPlain : event.IsPlain) : event.IsTaggable := by
  cases event with
  | opening name attributes =>
      obtain ⟨isName, areNamed, docType, level⟩ := isPlain
      exact
        { isName := isName.isTagName
          areNamed := fun entry member => (areNamed entry member).isAttributeName
          level := level
          docType := fun isDocument => (docType isDocument).isTagName }
  | _ =>
      trivial

theorem IsAccepted.passesThrough (isAccepted : event.IsAccepted) : event.PassesThrough anyText := by
  cases event with
  | raw markup =>
      exact (findError?_eq_none_iff markup).mp isAccepted
  | _ =>
      trivial

/-- Levels of a few digits are never refused. -/
theorem HasLevelWithin.isAccepted
    {digits : Nat}
    (within : event.HasLevelWithin digits)
    (isFew : digits ≤ Text.numeralLimit)
    (encoding : Encoding) :
    ¬ event.IsRefused encoding := by
  cases event with
  | opening name attributes =>
      intro refused
      have := within refused.2.1
      have := refused.2.2
      omega
  | _ =>
      exact id

end Event

namespace Encoding

/--
Streams of plain events are encoded exactly if they are balanced, and the page is
balanced markup. Otherwise the fault names the end that closes nothing, or the
innermost element that is left open.
-/
theorem encode_of_plain
    (encoding : Encoding)
    (events : List Event)
    (arePlain : ∀ event ∈ events, event.IsPlain)
    (haveLevels : ∀ event ∈ events, event.HasLevelWithin 10) :
    match encoding.encode events with
    | .ok page =>
        openElementsAfter? [] events = some [] ∧
          ((∀ event ∈ events, event.IsAccepted) → findError? page = none)
    | .error fault =>
        openElementsAfter? [] events = none ∧ (∃ name, fault = .unbalancedEnd name) ∨
          ∃ innermost outer,
            openElementsAfter? [] events = some (innermost :: outer) ∧
              fault = .neverClosed innermost.1 := by
  have areTaggable : ∀ event ∈ events, event.IsTaggable :=
    fun event member => (arePlain event member).isTaggable
  have noneRefused : ∀ event ∈ events, ¬ event.IsRefused encoding :=
    fun event member => (haveLevels event member).isAccepted (by decide) encoding
  have noneOpen : ({} : Rendering).openNames = ([] : List Element).map Prod.fst := rfl
  cases leads : openElementsAfter? [] events with
  | none =>
      obtain ⟨name, failed⟩ :=
        renderEvents_of_misplaced encoding areTaggable noneRefused noneOpen leads
      rw [encode, failed]
      exact .inl ⟨rfl, name, rfl⟩
  | some left =>
      rcases exists_renderEvents encoding areTaggable noneOpen leads with
        ⟨last, rendered, names⟩ | ⟨⟨event, member, refused⟩, _⟩
      · cases left with
        | nil =>
            rcases exists_page encoding areTaggable leads with
              ⟨page, encoded⟩ | ⟨⟨event, member, refused⟩, _⟩
            · rw [encoded]
              refine ⟨rfl, fun areAccepted => ?_⟩
              have allowsEscaped : ∀ text, escapedCharacter text → anyText text :=
                fun _ _ => trivial
              obtain ⟨_, ⟨tokens, leadsPage, _⟩, _⟩ :=
                shows_encode allowsEscaped areTaggable
                  (fun event member => (areAccepted event member).passesThrough) encoded
              exact (findError?_eq_none_iff page).mpr ⟨tokens, leadsPage⟩
            · exact (noneRefused event member refused).elim
        | cons innermost outer =>
            obtain ⟨element, others, split, isName, _⟩ := List.map_eq_cons_iff.mp names
            rw [encode, rendered]
            simp only [split]
            exact .inr ⟨innermost, outer, rfl, by rw [isName]⟩
      · exact (noneRefused event member refused).elim

/-- A document with a heading and markup that is passed through. -/
theorem encode_of_plain_heading :
    ∃ page,
      Encoding.html.encode
          [.opening "document" [("doctype", "article")],
            .opening "heading" [("level", "2")], .text "A < B", .closing "heading",
            .raw "<hr/>", .closing "document"] =
        .ok page ∧
        findError? page = none := by
  have whole :=
    encode_of_plain .html
      [.opening "document" [("doctype", "article")],
        .opening "heading" [("level", "2")], .text "A < B", .closing "heading",
        .raw "<hr/>", .closing "document"]
      (by decide +kernel) (by decide +kernel)
  revert whole
  split
  next page encoded =>
    exact fun whole => ⟨page, encoded, whole.2 (by decide +kernel)⟩
  next fault failed =>
    intro whole
    rcases whole with ⟨unbalanced, _⟩ | ⟨_, _, leftOpen, _⟩
    · exact absurd unbalanced (by decide +kernel)
    · exact absurd leftOpen (by simp [openElementsAfter?, Event.openElements?])

end Encoding

end DocMarkup
