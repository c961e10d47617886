import DocMarkup.Proofs.Event.Writable
import Mathlib.Data.List.Infix

namespace DocMarkup

/-!
# Paragraphs in event streams

How many paragraphs are open after some events is told by counting: each start adds
one and each end takes one away. Paragraphs are in order if along the way there is
never less than none nor more than one, none is left at the end, and no start has its
end directly behind it. Rows of events in order may follow one another.
-/

/-- What an event changes in the number of open paragraphs. -/
def Event.paragraphChange : Event → Int
  | .opening name _ => if name = "para" then 1 else 0
  | .closing name => if name = "para" then -1 else 0
  | .text _ => 0
  | .raw _ => 0

/-- How many more paragraphs start in some events than end there. -/
def openParagraphs : List Event → Int
  | [] => 0
  | event :: rest => event.paragraphChange + openParagraphs rest

@[simp] theorem openParagraphs_nil : openParagraphs [] = 0 :=
  rfl

@[simp] theorem openParagraphs_cons (event : Event) (rest : List Event) :
    openParagraphs (event :: rest) = event.paragraphChange + openParagraphs rest :=
  rfl

@[simp] theorem openParagraphs_append (first second : List Event) :
    openParagraphs (first ++ second) = openParagraphs first + openParagraphs second := by
  induction first with
  | nil =>
      simp
  | cons event rest inductionHypothesis =>
      simp [inductionHypothesis, Int.add_assoc]

/-- Events without paragraphs leave their number as it is. -/
theorem openParagraphs_eq_zero
    {events : List Event}
    (unmarked : ∀ event ∈ events, event.paragraphChange = 0) :
    openParagraphs events = 0 := by
  induction events with
  | nil =>
      rfl
  | cons event rest inductionHypothesis =>
      rw [List.forall_mem_cons] at unmarked
      rw [openParagraphs_cons, unmarked.1, inductionHypothesis unmarked.2, Int.add_zero]

/-- Among open elements, the number of paragraphs follows the events. -/
theorem openParagraphs_of_openElementsAfter?
    {opened left : List Element}
    {events : List Event}
    (leads : openElementsAfter? opened events = some left) :
    ((left.map Prod.fst).count "para" : Int) =
      (opened.map Prod.fst).count "para" + openParagraphs events := by
  induction events generalizing opened with
  | nil =>
      obtain rfl : opened = left := by simpa [openElementsAfter?] using leads
      simp
  | cons event rest inductionHypothesis =>
      rw [openElementsAfter?_cons] at leads
      obtain ⟨between, stepped, remaining⟩ := Option.bind_eq_some_iff.mp leads
      rw [inductionHypothesis remaining, openParagraphs_cons, ← Int.add_assoc]
      congr 1
      cases event with
      | opening name attributes =>
          obtain rfl := Option.some.inj stepped
          simp only [List.map_cons, List.count_cons, beq_iff_eq, Event.paragraphChange]
          split <;> omega
      | closing name =>
          cases opened with
          | nil =>
              simp [Event.openElements?] at stepped
          | cons innermost others =>
              by_cases same : innermost.1 = name
              · obtain rfl : others = between := by
                  simpa [Event.openElements?, same] using stepped
                simp only [List.map_cons, List.count_cons, beq_iff_eq, Event.paragraphChange, same]
                split <;> omega
              · simp [Event.openElements?, same] at stepped
      | text content =>
          obtain rfl := Option.some.inj stepped
          simp [Event.paragraphChange]
      | raw content =>
          obtain rfl := Option.some.inj stepped
          simp [Event.paragraphChange]

/--
No paragraph is empty, none starts while another is open or ends while none is, and
none is left open.
-/
structure ParagraphsInOrder (events : List Event) : Prop where
  filled :
    ∀ attributes behind,
      (.opening "para" attributes :: behind) <:+ events →
        ∃ next ∈ behind.head?, next ≠ .closing "para"
  apart : ∀ front, front <+: events → 0 ≤ openParagraphs front ∧ openParagraphs front ≤ 1
  closed : openParagraphs events = 0

/-- An event has another one behind it than the end of a paragraph if it starts one. -/
def startsFilled : List Event → Bool
  | .opening name _ :: behind =>
      name != "para" || behind.head?.any fun next => next != .closing "para"
  | _ => true

namespace ParagraphsInOrder

variable {first second events : List Event}

/-- The order can be checked front by front. -/
theorem iff_checks :
    ParagraphsInOrder events ↔
      (∀ behind ∈ events.tails, startsFilled behind = true) ∧
        (∀ front ∈ events.inits, 0 ≤ openParagraphs front ∧ openParagraphs front ≤ 1) ∧
          openParagraphs events = 0 := by
  simp only [List.mem_tails, List.mem_inits]
  constructor
  · rintro ⟨filled, apart, closed⟩
    refine ⟨?_, apart, closed⟩
    intro behind isEnd
    unfold startsFilled
    split
    next name attributes others =>
      by_cases isPara : name = "para"
      · subst isPara
        obtain ⟨next, isNext, other⟩ := filled attributes others isEnd
        rw [Option.mem_def] at isNext
        simp [isNext, other]
      · simp [isPara]
    next => rfl
  · rintro ⟨filled, apart, closed⟩
    refine ⟨?_, apart, closed⟩
    intro attributes behind isEnd
    simpa [startsFilled, Option.any_eq_true] using filled _ isEnd

instance : DecidablePred ParagraphsInOrder :=
  fun _ => decidable_of_iff _ iff_checks.symm

/-- Events without paragraphs are in order. -/
theorem of_unmarked
    (unmarked : ∀ event ∈ events, event.paragraphChange = 0) :
    ParagraphsInOrder events where
  filled attributes behind isEnd := by
    have change := unmarked _ (isEnd.subset List.mem_cons_self)
    simp [Event.paragraphChange] at change
  apart front isFront := by
    rw [openParagraphs_eq_zero fun event member => unmarked event (isFront.subset member)]
    decide
  closed := openParagraphs_eq_zero unmarked

/-- Events in order may follow others. -/
theorem append
    (firstInOrder : ParagraphsInOrder first)
    (secondInOrder : ParagraphsInOrder second) :
    ParagraphsInOrder (first ++ second) where
  filled := by
    rintro attributes behind ⟨front, shape⟩
    obtain ⟨others, inFirst, remaining⟩ | ⟨others, -, inSecond⟩ :=
      List.append_eq_append_iff.mp shape
    · cases others with
      | nil =>
          exact secondInOrder.filled attributes behind ⟨[], remaining⟩
      | cons event rest =>
          obtain ⟨rfl, rfl⟩ := List.cons.inj remaining
          obtain ⟨next, isNext, other⟩ := firstInOrder.filled attributes rest ⟨front, inFirst.symm⟩
          refine ⟨next, ?_, other⟩
          have followed : (rest ++ second).head? = some next := by
            rw [List.head?_append, Option.mem_def.mp isNext]
            rfl
          exact followed
    · exact secondInOrder.filled attributes behind ⟨others, inSecond.symm⟩
  apart := by
    intro front isFront
    obtain isShort | ⟨others, rfl⟩ :=
      List.prefix_or_prefix_of_prefix isFront (List.prefix_append first second)
    · exact firstInOrder.apart front isShort
    · rw [openParagraphs_append, firstInOrder.closed, Int.zero_add]
      exact secondInOrder.apart others ((List.prefix_append_right_inj first).mp isFront)
  closed := by
    rw [openParagraphs_append, firstInOrder.closed, secondInOrder.closed, Int.add_zero]

end ParagraphsInOrder

/-- The events of a paragraph with some content: none without any. -/
def paragraphEvents (content : List Event) : List Event :=
  if content.isEmpty then [] else .opening "para" [] :: (content ++ [.closing "para"])

/-- A paragraph with a fragment of what occurs in documents is one. -/
theorem Fragment.paragraph
    {content : List Event}
    (fragment : Fragment plainVocabulary content) :
    Fragment plainVocabulary (paragraphEvents content) := by
  unfold paragraphEvents
  split
  · exact .nil
  · exact Fragment.element (by simp [plainVocabulary, headerVocabulary]) fragment

/-- A paragraph with content that holds no other one is in order. -/
theorem ParagraphsInOrder.paragraph
    {content : List Event}
    (unmarked : ∀ event ∈ content, event.paragraphChange = 0) :
    ParagraphsInOrder (paragraphEvents content) := by
  unfold paragraphEvents
  cases content with
  | nil =>
      exact .of_unmarked (by simp)
  | cons event rest =>
      have noneInside := openParagraphs_eq_zero unmarked
      refine ⟨?_, ?_, ?_⟩
      · intro attributes behind isEnd
        obtain shape | inside := List.suffix_cons_iff.mp isEnd
        · obtain ⟨-, rfl⟩ := List.cons.inj shape
          refine ⟨event, rfl, ?_⟩
          rintro rfl
          simpa [Event.paragraphChange] using unmarked _ List.mem_cons_self
        · have isThere := inside.subset List.mem_cons_self
          rw [List.mem_append, List.mem_singleton] at isThere
          obtain inContent | isEnd := isThere
          · simpa [Event.paragraphChange] using unmarked _ inContent
          · cases isEnd
      · intro front isFront
        obtain rfl | ⟨others, rfl, isInside⟩ := List.prefix_cons_iff.mp isFront
        · decide
        · obtain rfl | inContent := List.prefix_concat_iff.mp isInside
          · rw [openParagraphs_cons, openParagraphs_append, noneInside]
            decide
          · have noneHere : openParagraphs others = 0 :=
              openParagraphs_eq_zero fun event member => unmarked event (inContent.subset member)
            rw [openParagraphs_cons, noneHere]
            decide
      · simp only [List.isEmpty_cons, Bool.false_eq_true, ↓reduceIte, openParagraphs_cons,
          openParagraphs_append]
        rw [openParagraphs_cons] at noneInside
        rw [noneInside]
        decide

/-- Events of blocks without paragraphs have none. -/
theorem Event.IsWithin.paragraphChange_eq_zero
    {event : Event}
    (within : event.IsWithin flowVocabulary) :
    event.paragraphChange = 0 := by
  have unknown : ∀ keys, ("para", keys) ∉ flowVocabulary := by
    intro keys
    simp [flowVocabulary, inlineVocabulary]
  cases event with
  | opening name attributes =>
      refine if_neg ?_
      rintro rfl
      exact unknown _ within
  | closing name =>
      refine if_neg ?_
      rintro rfl
      obtain ⟨keys, known⟩ := within
      exact unknown keys known
  | text content =>
      rfl
  | raw content =>
      rfl

end DocMarkup
