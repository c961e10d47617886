import DocMarkup.Event
import DocMarkup.Markup.Tree

namespace DocMarkup

/-!
# Fragments of event streams

A fragment is a balanced row of events whose elements belong to a vocabulary and
whose passed-through markup is balanced on its own. It can be put anywhere into a
stream without changing which elements are open around it.
-/

/-- The elements that may occur somewhere, with the keys of their attributes. -/
abbrev Vocabulary :=
  List (String × List String)

/-- An event that only uses elements of a vocabulary, and no unbalanced markup. -/
def Event.IsWithin (vocabulary : Vocabulary) : Event → Prop
  | .opening name attributes => (name, attributes.map Prod.fst) ∈ vocabulary
  | .closing name => ∃ keys, (name, keys) ∈ vocabulary
  | .text _ => True
  | .raw content => Markup.findError? content = none

instance (vocabulary : Vocabulary) : DecidablePred (Event.IsWithin vocabulary)
  | .opening name attributes =>
      inferInstanceAs (Decidable ((name, attributes.map Prod.fst) ∈ vocabulary))
  | .closing name =>
      decidable_of_iff (name ∈ vocabulary.map Prod.fst) (by simp [Event.IsWithin])
  | .text _ => isTrue trivial
  | .raw content =>
      decidable_of_iff ((Markup.findError? content).isNone = true) Option.isNone_iff_eq_none

/-- An event of a vocabulary is one of every larger vocabulary. -/
theorem Event.IsWithin.mono
    {smaller larger : Vocabulary}
    (included : smaller ⊆ larger)
    {event : Event}
    (within : event.IsWithin smaller) :
    event.IsWithin larger := by
  cases event with
  | opening name attributes =>
      exact included within
  | closing name =>
      obtain ⟨keys, known⟩ := within
      exact ⟨keys, included known⟩
  | text content =>
      trivial
  | raw content =>
      exact within

/-- Open elements after two rows of events, one after the other. -/
theorem openElementsAfter?_append
    (opened : List Element)
    (first second : List Event) :
    openElementsAfter? opened (first ++ second) =
      (openElementsAfter? opened first).bind fun between =>
        openElementsAfter? between second := by
  simp [openElementsAfter?, List.foldlM_append]

/-- Open elements after a first event and the others. -/
theorem openElementsAfter?_cons
    (opened : List Element)
    (event : Event)
    (rest : List Event) :
    openElementsAfter? opened (event :: rest) =
      (event.openElements? opened).bind fun between =>
        openElementsAfter? between rest := by
  simp [openElementsAfter?]

/-- Events that leave some elements open do so inside any further elements. -/
theorem openElementsAfter?_inside
    {opened left : List Element}
    {events : List Event}
    (reached : openElementsAfter? opened events = some left)
    (outer : List Element) :
    openElementsAfter? (opened ++ outer) events = some (left ++ outer) := by
  induction events generalizing opened with
  | nil =>
      simp_all [openElementsAfter?]
  | cons event rest inductionHypothesis =>
      rw [openElementsAfter?_cons] at reached ⊢
      obtain ⟨between, stepped, remaining⟩ := Option.bind_eq_some_iff.mp reached
      have steppedInside :
          event.openElements? (opened ++ outer) = some (between ++ outer) := by
        cases event with
        | opening name attributes =>
            obtain rfl := Option.some.inj stepped
            rfl
        | closing name =>
            cases opened with
            | nil =>
                simp [Event.openElements?] at stepped
            | cons innermost others =>
                by_cases same : innermost.1 = name
                · simp only [Event.openElements?, same, ↓reduceIte,
                    Option.some.injEq] at stepped
                  subst stepped
                  simp [Event.openElements?, same]
                · simp [Event.openElements?, same] at stepped
        | text content =>
            obtain rfl := Option.some.inj stepped
            rfl
        | raw content =>
            obtain rfl := Option.some.inj stepped
            rfl
      rw [steppedInside]
      exact inductionHypothesis remaining

/-- A row of events within a vocabulary that leads from some open elements to others. -/
structure Stretch
    (vocabulary : Vocabulary)
    (opened left : List Element)
    (events : List Event) :
    Prop where
  leads : openElementsAfter? opened events = some left
  within : ∀ event ∈ events, event.IsWithin vocabulary

instance (vocabulary : Vocabulary) (opened left : List Element) :
    DecidablePred (Stretch vocabulary opened left) :=
  fun events =>
    decidable_of_iff
      (openElementsAfter? opened events = some left ∧
        ∀ event ∈ events, event.IsWithin vocabulary)
      ⟨fun stretch => ⟨stretch.1, stretch.2⟩, fun stretch => ⟨stretch.leads, stretch.within⟩⟩

/-- A balanced row of events within a vocabulary. -/
abbrev Fragment (vocabulary : Vocabulary) (events : List Event) : Prop :=
  Stretch vocabulary [] [] events

namespace Stretch

variable {vocabulary : Vocabulary} {opened between left : List Element}

/-- Nothing leaves open what was open. -/
theorem nil : Stretch vocabulary opened opened [] where
  leads := rfl
  within := by simp

/-- Two stretches in a row, of which the second goes on where the first ends. -/
theorem append
    {first second : List Event}
    (firstStretch : Stretch vocabulary opened between first)
    (secondStretch : Stretch vocabulary between left second) :
    Stretch vocabulary opened left (first ++ second) where
  leads := by
    rw [openElementsAfter?_append, firstStretch.leads]
    exact secondStretch.leads
  within := by
    intro event member
    rcases List.mem_append.mp member with inFirst | inSecond
    · exact firstStretch.within event inFirst
    · exact secondStretch.within event inSecond

/-- A stretch is one inside any further open elements. -/
theorem inside
    {events : List Event}
    (stretch : Stretch vocabulary opened left events)
    (outer : List Element) :
    Stretch vocabulary (opened ++ outer) (left ++ outer) events where
  leads := openElementsAfter?_inside stretch.leads outer
  within := stretch.within

/-- A stretch within a vocabulary is one within every larger vocabulary. -/
theorem mono
    {larger : Vocabulary}
    (included : vocabulary ⊆ larger)
    {events : List Event}
    (stretch : Stretch vocabulary opened left events) :
    Stretch larger opened left events where
  leads := stretch.leads
  within event member := (stretch.within event member).mono included

/-- The start of an element of the vocabulary. -/
theorem opening
    {name : String}
    {attributes : List Attribute}
    (known : (name, attributes.map Prod.fst) ∈ vocabulary) :
    Stretch vocabulary opened ((name, attributes) :: opened) [.opening name attributes] where
  leads := rfl
  within := by simpa [Event.IsWithin] using known

/-- The end of the innermost element, which belongs to the vocabulary. -/
theorem closing
    {name : String}
    {keys : List String}
    (known : (name, keys) ∈ vocabulary)
    (attributes : List Attribute) :
    Stretch vocabulary ((name, attributes) :: opened) opened [.closing name] where
  leads := by simp [openElementsAfter?, Event.openElements?]
  within := by
    simp only [List.mem_singleton, forall_eq]
    exact ⟨keys, known⟩

/-- Character data leaves open what was open. -/
theorem text (content : String) : Stretch vocabulary opened opened [.text content] where
  leads := rfl
  within := by simp [Event.IsWithin]

/-- Balanced markup that is passed through leaves open what was open. -/
theorem raw
    {content : String}
    (accepted : Markup.findError? content = none) :
    Stretch vocabulary opened opened [.raw content] where
  leads := rfl
  within := by simp [Event.IsWithin, accepted]

end Stretch

/-- An element without attributes and with a fragment in it is a fragment. -/
theorem Fragment.element
    {vocabulary : Vocabulary}
    {name : String}
    (known : (name, []) ∈ vocabulary)
    {events : List Event}
    (fragment : Fragment vocabulary events) :
    Fragment vocabulary (.opening name [] :: (events ++ [.closing name])) :=
  (Stretch.opening known).append ((fragment.inside _).append (.closing known []))

/-- A fragment leaves the elements open that were open before it. -/
theorem Fragment.openElementsAfter?_eq
    {vocabulary : Vocabulary}
    {events : List Event}
    (fragment : Fragment vocabulary events)
    (opened : List Element) :
    openElementsAfter? opened events = some opened :=
  openElementsAfter?_inside fragment.leads opened

end DocMarkup
