import DocMarkup.Proofs.Compiler.Entries
import DocMarkup.Proofs.Compiler.Extension
import DocMarkup.Proofs.Event.Writable

namespace DocMarkup

/-!
# What reading a phrase does to the state

Reading inside a paragraph, a title or a cell adds a fragment to the output and
may report errors. It changes nothing else: no section, definition, identifier or
depth. Templates of an inner scope stand for arguments, whose output is put into
the document as it is, so that what is added is a fragment only if those outputs
are.
-/

/-- A template whose output is known already stands for an argument: a phrase, not a block. -/
def Template.IsPhraseIfKnown (template : Template) : Prop :=
  ∀ events,
    template.events = some events →
      Fragment inlineVocabulary events ∧ template.block = false

instance : DecidablePred Template.IsPhraseIfKnown :=
  fun template =>
    decidable_of_iff
      (∀ events ∈ template.events, Fragment inlineVocabulary events ∧ template.block = false)
      Iff.rfl

namespace CompilerState

/-- All templates whose output is known already stand for arguments. -/
def Scoped (state : CompilerState) : Prop :=
  state.templates.Every Template.IsPhraseIfKnown

instance : DecidablePred Scoped :=
  fun state => inferInstanceAs (Decidable (state.templates.Every Template.IsPhraseIfKnown))

/-- The state with further diagnostics, which are counted as errors. -/
def withErrors (state : CompilerState) (errors : List Diagnostic) : CompilerState :=
  { state with
    diagnostics := state.diagnostics ++ errors.toArray
    errorCount := state.errorCount + errors.length }

/-- No errors change nothing. -/
@[simp] theorem withErrors_nil (state : CompilerState) : state.withErrors [] = state := by
  simp [withErrors]

/-- Errors that follow one another. -/
theorem withErrors_withErrors
    (state : CompilerState)
    (first second : List Diagnostic) :
    (state.withErrors first).withErrors second = state.withErrors (first ++ second) := by
  simp [withErrors, Nat.add_assoc, Array.append_assoc]

/-- Events and errors are added independently of each other. -/
theorem replay_withErrors
    (state : CompilerState)
    (errors : List Diagnostic)
    (events : List Event) :
    (state.withErrors errors).replay events = (state.replay events).withErrors errors := by
  unfold replay
  induction events generalizing state with
  | nil =>
      rfl
  | cons event rest inductionHypothesis =>
      exact inductionHypothesis (state.emit event)

/-- Adding two rows of events is adding them one after the other. -/
theorem replay_append
    (state : CompilerState)
    (first second : List Event) :
    state.replay (first ++ second) = (state.replay first).replay second :=
  List.foldl_append

/-- A change that does not matter to single events does not matter to rows of events. -/
theorem replay_of_emits
    {change : CompilerState → CompilerState}
    (emits : ∀ state event, (change state).emit event = change (state.emit event))
    (state : CompilerState)
    (events : List Event) :
    (change state).replay events = change (state.replay events) := by
  unfold replay
  induction events generalizing state with
  | nil =>
      rfl
  | cons event rest inductionHypothesis =>
      rw [List.foldl_cons, emits]
      exact inductionHypothesis _

/-- Adding events changes the output and whether a paragraph is pending, and nothing else. -/
theorem replay_eq
    (state : CompilerState)
    (events : List Event) :
    state.replay events =
      { state with
        events := (state.replay events).events
        pendingParagraph := (state.replay events).pendingParagraph } := by
  unfold replay
  induction events generalizing state with
  | nil =>
      rfl
  | cons event rest inductionHypothesis =>
      exact inductionHypothesis (state.emit event)

/-- Without a pending paragraph, added events stand at the end of the output. -/
theorem replay_of_settled
    {state : CompilerState}
    (settled : state.pendingParagraph = false)
    (events : List Event) :
    state.replay events = { state with events := state.events ++ events.toArray } := by
  unfold replay
  induction events generalizing state with
  | nil =>
      simp
  | cons event rest inductionHypothesis =>
      have emitted : state.emit event = { state with events := state.events.push event } := by
        simp [emit, settled]
      have stillSettled : (state.emit event).pendingParagraph = false :=
        rfl
      rw [List.foldl_cons, inductionHypothesis stillSettled, emitted]
      simp

/-- The first event added to a pending paragraph opens it. -/
theorem replay_of_pending
    {state : CompilerState}
    (pending : state.pendingParagraph = true)
    {events : List Event}
    (nonempty : events ≠ []) :
    state.replay events =
      { state with
        events := state.events ++ (.opening "para" [] :: events).toArray
        pendingParagraph := false } := by
  cases events with
  | nil =>
      exact (nonempty rfl).elim
  | cons event rest =>
      have emitted :
          state.emit event =
            { state with
              events := state.events ++ #[.opening "para" [], event]
              pendingParagraph := false } := by
        simp [emit, pending, ← Array.append_singleton, Array.append_assoc]
      have settled : (state.emit event).pendingParagraph = false :=
        rfl
      have afterFirst := replay_of_settled settled rest
      simp only [replay, List.foldl_cons] at afterFirst ⊢
      rw [afterFirst, emitted]
      simp

/-- Events are added at the end of the output, and open a paragraph that is pending. -/
theorem replay_eq_output
    (state : CompilerState)
    (events : List Event) :
    state.replay events =
      { state with
        events :=
          state.events ++
            (if state.pendingParagraph ∧ events ≠ [] then
              .opening "para" [] :: events
            else
              events).toArray
        pendingParagraph := state.pendingParagraph && events.isEmpty } := by
  cases pending : state.pendingParagraph with
  | false =>
      rw [replay_of_settled pending]
      simp [pending]
  | true =>
      by_cases isEmpty : events = []
      · subst isEmpty
        simp [replay, ← pending]
      · rw [replay_of_pending pending isEmpty]
        simp [isEmpty]

/--
The output of a row of events that leads from some open elements to others, with
the errors reported in it.
-/
def Passage
    (vocabulary : Vocabulary)
    (opened left : List Element)
    (before after : CompilerState) :
    Prop :=
  ∃ events errors,
    (before.Scoped → Stretch vocabulary opened left events) ∧
      (∀ error ∈ errors, error.severity = .error) ∧
        after = (before.replay events).withErrors errors

/-- The output of a balanced fragment, with the errors reported in it. -/
abbrev Effect (vocabulary : Vocabulary) (before after : CompilerState) : Prop :=
  Passage vocabulary [] [] before after

namespace Passage

variable {vocabulary : Vocabulary} {opened between left : List Element}
  {first second third before after : CompilerState}

/-- A passage changes the output, the diagnostics and the number of errors only. -/
theorem eq_with (passage : Passage vocabulary opened left before after) :
    after =
      { before with
        events := after.events
        diagnostics := after.diagnostics
        errorCount := after.errorCount
        pendingParagraph := after.pendingParagraph } := by
  obtain ⟨events, errors, _, _, rfl⟩ := passage
  rw [replay_eq]
  rfl

/-- A passage leaves the templates as they were. -/
theorem templates_eq (passage : Passage vocabulary opened left before after) :
    after.templates = before.templates := by
  rw [passage.eq_with]

/-- A passage leaves the arguments in scope as they were. -/
theorem scoped_iff (passage : Passage vocabulary opened left before after) :
    after.Scoped ↔ before.Scoped := by
  unfold Scoped
  rw [passage.templates_eq]

/-- Doing nothing leaves open what was open. -/
theorem refl (state : CompilerState) : Passage vocabulary opened opened state state :=
  ⟨[], [], fun _ => .nil, by simp, by simp [replay]⟩

/-- Two passages in a row, of which the second goes on where the first ends. -/
theorem trans
    (firstPassage : Passage vocabulary opened between first second)
    (secondPassage : Passage vocabulary between left second third) :
    Passage vocabulary opened left first third := by
  have sameScope := firstPassage.scoped_iff
  obtain ⟨early, earlyErrors, earlyStretch, areErrors, rfl⟩ := firstPassage
  obtain ⟨late, lateErrors, lateStretch, areAlsoErrors, rfl⟩ := secondPassage
  refine ⟨early ++ late, earlyErrors ++ lateErrors, ?_, ?_, ?_⟩
  · intro wellScoped
    exact (earlyStretch wellScoped).append (lateStretch (sameScope.mpr wellScoped))
  · intro error member
    rcases List.mem_append.mp member with inEarly | inLate
    · exact areErrors error inEarly
    · exact areAlsoErrors error inLate
  · rw [replay_withErrors, withErrors_withErrors, replay_append]

/-- A passage within a vocabulary is one within every larger vocabulary. -/
theorem mono
    {larger : Vocabulary}
    (included : vocabulary ⊆ larger)
    (passage : Passage vocabulary opened left before after) :
    Passage larger opened left before after := by
  obtain ⟨events, errors, stretch, areErrors, shape⟩ := passage
  exact ⟨events, errors, fun wellScoped => (stretch wellScoped).mono included, areErrors, shape⟩

/-- A passage is one inside any further open elements. -/
theorem inside
    (passage : Passage vocabulary opened left before after)
    (outer : List Element) :
    Passage vocabulary (opened ++ outer) (left ++ outer) before after := by
  obtain ⟨events, errors, stretch, areErrors, shape⟩ := passage
  exact ⟨events, errors, fun wellScoped => (stretch wellScoped).inside outer, areErrors, shape⟩

/-- Adding events that lead from some open elements to others if the arguments in scope do. -/
theorem replay
    (state : CompilerState)
    {events : List Event}
    (stretch : state.Scoped → Stretch vocabulary opened left events) :
    Passage vocabulary opened left state (state.replay events) :=
  ⟨events, [], stretch, by simp, by simp⟩

/-- Opening an element of the vocabulary. -/
theorem startElement
    (state : CompilerState)
    {name : String}
    {attributes : List Attribute}
    (known : (name, attributes.map Prod.fst) ∈ vocabulary) :
    Passage vocabulary opened ((name, attributes) :: opened) state
      (state.startElement name attributes) :=
  replay state fun _ => .opening known

/-- Closing the innermost element, which belongs to the vocabulary. -/
theorem endElement
    (state : CompilerState)
    {name : String}
    {keys : List String}
    (known : (name, keys) ∈ vocabulary)
    (attributes : List Attribute) :
    Passage vocabulary ((name, attributes) :: opened) opened state (state.endElement name) :=
  replay state fun _ => .closing known attributes

/-- Adding character data. -/
theorem text
    (state : CompilerState)
    (content : String) :
    Passage vocabulary opened opened state (state.text content) := by
  unfold CompilerState.text
  split
  · exact refl state
  · exact replay state fun _ => .text content

/-- Reporting an error. -/
theorem reportError
    (state : CompilerState)
    (kind : DiagnosticKind)
    (position : Option Position)
    (message : String) :
    Passage vocabulary opened opened state (state.reportError kind position message) := by
  refine ⟨[], (state.reportError kind position message).diagnostics.back?.toList,
    fun _ => .nil, ?_, ?_⟩
  · simp [CompilerState.reportError, diagnose]
  · simp [CompilerState.reportError, diagnose, CompilerState.replay, withErrors]

/-- Passing markup through, or keeping it as character data if it is not balanced. -/
theorem raw
    (state : CompilerState)
    (position : Option Position)
    (content : String) :
    Passage vocabulary opened opened state (state.raw position content) := by
  unfold CompilerState.raw
  split
  next accepted =>
    exact replay state fun _ => .raw accepted
  next problem _ =>
    exact (reportError ..).trans (text ..)

/--
A passage in a state that was changed on the way in and is changed back on the
way out, in parts that output and errors do not touch.
-/
theorem conjugate
    {enter leave : CompilerState → CompilerState}
    (emits : ∀ state event, (enter state).emit event = enter (state.emit event))
    (counts : ∀ state errors, (enter state).withErrors errors = enter (state.withErrors errors))
    (back : ∀ state, leave (enter state) = state)
    (known : before.Scoped → (enter before).Scoped)
    (passage : Passage vocabulary opened left (enter before) after) :
    Passage vocabulary opened left before (leave after) := by
  obtain ⟨events, errors, stretch, areErrors, rfl⟩ := passage
  refine ⟨events, errors, stretch ∘ known, areErrors, ?_⟩
  rw [replay_of_emits emits, counts, back]

/-- A state precedes the one after a passage. -/
theorem precedes (passage : Passage vocabulary opened left before after) :
    before.Precedes after := by
  obtain ⟨events, errors, _, _, rfl⟩ := passage
  refine (Precedes.replay before events).trans ?_
  refine { Precedes.refl _ with diagnostics := ?_, errorCount := Nat.le_add_right .. }
  simp [withErrors]

end Passage

/-- Nothing but errors was added to a state. -/
def AddsErrors (before after : CompilerState) : Prop :=
  ∃ errors, (∀ error ∈ errors, error.severity = .error) ∧ after = before.withErrors errors

namespace AddsErrors

variable {vocabulary : Vocabulary} {first second third before after : CompilerState}

/-- Nothing at all may have been added. -/
theorem refl (state : CompilerState) : state.AddsErrors state :=
  ⟨[], by simp, by simp⟩

/-- Errors may be added to errors. -/
theorem trans
    (firstAdds : first.AddsErrors second)
    (secondAdds : second.AddsErrors third) :
    first.AddsErrors third := by
  obtain ⟨early, areErrors, rfl⟩ := firstAdds
  obtain ⟨late, areAlsoErrors, rfl⟩ := secondAdds
  refine ⟨early ++ late, ?_, withErrors_withErrors ..⟩
  intro error member
  exact (List.mem_append.mp member).elim (areErrors error) (areAlsoErrors error)

/-- A state to which errors were added has put out an empty fragment. -/
theorem effect (adds : before.AddsErrors after) : Effect vocabulary before after := by
  obtain ⟨errors, areErrors, rfl⟩ := adds
  exact ⟨[], errors, fun _ => .nil, areErrors, rfl⟩

end AddsErrors

namespace Effect

variable {vocabulary : Vocabulary} {before after : CompilerState}

/-- What may stand in a phrase may stand in a block. -/
theorem toFlow (effect : Effect inlineVocabulary before after) :
    Effect flowVocabulary before after :=
  effect.mono inlineVocabulary_subset_flowVocabulary

/-- An effect inside an element of the vocabulary. -/
theorem element
    {name : String}
    {attributes : List Attribute}
    (known : (name, attributes.map Prod.fst) ∈ vocabulary)
    (effect : Effect vocabulary (before.startElement name attributes) after) :
    Effect vocabulary before (after.endElement name) :=
  ((Passage.startElement before known).trans (effect.inside [(name, attributes)])).trans
    (.endElement after known attributes)

/-- An element without content. -/
theorem emptyElement
    (state : CompilerState)
    {name : String}
    {attributes : List Attribute}
    (known : (name, attributes.map Prod.fst) ∈ vocabulary) :
    Effect vocabulary state (state.element name attributes) :=
  element known (.refl _)

/-- An element that holds character data. -/
theorem leaf
    (state : CompilerState)
    {name : String}
    (known : (name, []) ∈ vocabulary)
    (content : String) :
    Effect vocabulary state (state.leaf name content) := by
  have knownWithout : (name, ([] : List Attribute).map Prod.fst) ∈ vocabulary :=
    known
  exact element knownWithout (.text ..)

end Effect

end CompilerState

end DocMarkup
