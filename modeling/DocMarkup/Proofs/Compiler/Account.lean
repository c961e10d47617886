import DocMarkup.Proofs.Compiler.Effect

namespace DocMarkup

/-!
# Counts and identifiers

The number of errors and that of warnings are kept beside the diagnostics, and the
reserved identifiers beside the elements that have them in the output. An account
of a state says that they tell the same. Whatever adds to the state keeps it.
-/

/-- The number of diagnostics of a severity. -/
def countOf (severity : Severity) (diagnostics : List Diagnostic) : Nat :=
  diagnostics.countP fun diagnostic => diagnostic.severity == severity

/-- The elements whose identifiers are reserved. -/
def identifiedElements : List String :=
  ["section", "heading", "table", "informaltable"]

/-- The reserved identifier that an event shows. -/
def Event.reservedId? : Event → Option String
  | .opening name attributes =>
      if name ∈ identifiedElements then attribute? attributes "id" else none
  | .closing _ => none
  | .text _ => none
  | .raw _ => none

/-- The reserved identifiers that events show, in their order. -/
def reservedIds (events : List Event) : List String :=
  events.filterMap Event.reservedId?

/-- The identifiers of two rows of events, one after the other. -/
theorem reservedIds_append (first second : List Event) :
    reservedIds (first ++ second) = reservedIds first ++ reservedIds second :=
  List.filterMap_append

/-- No element of a vocabulary has an identifier that is reserved. -/
def Vocabulary.Anonymous (vocabulary : Vocabulary) : Prop :=
  ∀ entry ∈ vocabulary, entry.1 ∈ identifiedElements → "id" ∉ entry.2

/-- The elements of blocks without identifiers have none. -/
theorem flowVocabulary_anonymous : Vocabulary.Anonymous flowVocabulary := by
  simp [Vocabulary.Anonymous, flowVocabulary, inlineVocabulary, identifiedElements]

/-- The elements of phrases have no identifier that is reserved. -/
theorem inlineVocabulary_anonymous : Vocabulary.Anonymous inlineVocabulary :=
  fun entry member =>
    flowVocabulary_anonymous entry (inlineVocabulary_subset_flowVocabulary member)

/-- The elements of the header have no identifier that is reserved. -/
theorem headerVocabulary_anonymous : Vocabulary.Anonymous headerVocabulary := by
  simp [Vocabulary.Anonymous, headerVocabulary, inlineVocabulary, identifiedElements]

/-- What is not among the keys of attributes is not found in them. -/
theorem attribute?_eq_none
    {attributes : List Attribute}
    {key : String}
    (absent : key ∉ attributes.map Prod.fst) :
    attribute? attributes key = none := by
  simp only [attribute?, Option.map_eq_none_iff, List.find?_eq_none, beq_iff_eq]
  rintro entry member rfl
  exact absent (List.mem_map_of_mem member)

/-- Events of such a vocabulary show no identifier. -/
theorem Event.IsWithin.reservedId?_eq_none
    {vocabulary : Vocabulary}
    (anonymous : vocabulary.Anonymous)
    {event : Event}
    (within : event.IsWithin vocabulary) :
    event.reservedId? = none := by
  cases event with
  | opening name attributes =>
      simp only [Event.reservedId?, ite_eq_right_iff]
      exact fun isIdentified => attribute?_eq_none (anonymous _ within isIdentified)
  | closing name =>
      rfl
  | text content =>
      rfl
  | raw content =>
      rfl

/-- Stretches of such a vocabulary show no identifiers. -/
theorem Stretch.reservedIds_eq_nil
    {vocabulary : Vocabulary}
    (anonymous : vocabulary.Anonymous)
    {opened left : List Element}
    {events : List Event}
    (stretch : Stretch vocabulary opened left events) :
    reservedIds events = [] :=
  List.filterMap_eq_nil_iff.mpr fun event member =>
    (stretch.within event member).reservedId?_eq_none anonymous

namespace CompilerState

variable {before after : CompilerState}

/-- Errors and warnings are counted as often as they are recorded. -/
def IsCounted (state : CompilerState) : Prop :=
  state.errorCount = countOf .error state.diagnostics.toList ∧
    state.warningCount = countOf .warning state.diagnostics.toList

/--
The reserved identifiers are those that the output shows, in the same order. They
are different, and they are the ones that are looked up as taken.
-/
def IsRegistered (state : CompilerState) : Prop :=
  state.usedIds.toList = reservedIds state.events.toList ∧
    state.usedIds.toList.Nodup ∧ state.takenIds.names = state.usedIds.toList

instance : DecidablePred IsCounted :=
  fun _ => inferInstanceAs (Decidable (_ ∧ _))

instance : DecidablePred IsRegistered :=
  fun _ => inferInstanceAs (Decidable (_ ∧ _ ∧ _))

/-- The counts and the reserved identifiers of a state are accounted for. -/
def Accounted (state : CompilerState) : Prop :=
  state.IsCounted ∧ state.IsRegistered

namespace IsCounted

/-- An error is counted and recorded. -/
theorem reportError
    (counted : before.IsCounted)
    (kind : DiagnosticKind)
    (position : Option Position)
    (message : String) :
    (before.reportError kind position message).IsCounted := by
  obtain ⟨errors, warnings⟩ := counted
  constructor <;>
    simp [CompilerState.reportError, diagnose, countOf, errors, warnings]

/-- A warning is counted and recorded. -/
theorem reportWarning
    (counted : before.IsCounted)
    (kind : DiagnosticKind)
    (position : Option Position)
    (message : String) :
    (before.reportWarning kind position message).IsCounted := by
  obtain ⟨errors, warnings⟩ := counted
  constructor <;>
    simp [CompilerState.reportWarning, diagnose, countOf, errors, warnings]

/-- Further errors are counted as they are recorded. -/
theorem withErrors
    (counted : before.IsCounted)
    {errors : List Diagnostic}
    (areErrors : ∀ error ∈ errors, error.severity = .error) :
    (before.withErrors errors).IsCounted := by
  obtain ⟨wereErrors, wereWarnings⟩ := counted
  have allErrors : countOf .error errors = errors.length :=
    List.countP_eq_length.mpr fun error member => by simp [areErrors error member]
  have noWarnings : countOf .warning errors = 0 :=
    List.countP_eq_zero.mpr fun error member => by simp [areErrors error member]
  unfold countOf at allErrors noWarnings wereErrors wereWarnings
  constructor <;>
    simp [CompilerState.withErrors, countOf, wereErrors, wereWarnings, allErrors, noWarnings]

/-- Where no error was recorded none was counted. -/
theorem errorCount_eq_zero_iff (counted : before.IsCounted) :
    before.errorCount = 0 ↔
      ∀ diagnostic ∈ before.diagnostics.toList, diagnostic.severity ≠ .error := by
  rw [counted.1, countOf, List.countP_eq_zero]
  simp

end IsCounted

/-- What is written at the end of the output, without showing an identifier. -/
theorem IsRegistered.append
    (registered : before.IsRegistered)
    {events : List Event}
    (output : after.events.toList = before.events.toList ++ events)
    (anonymous : reservedIds events = [])
    (usedIds : after.usedIds = before.usedIds)
    (takenIds : after.takenIds = before.takenIds) :
    after.IsRegistered := by
  obtain ⟨shown, distinct, lookup⟩ := registered
  refine ⟨?_, by rwa [usedIds], by rwa [usedIds, takenIds]⟩
  rw [output, usedIds, shown, reservedIds_append, anonymous, List.append_nil]

/-- The list and the table hold the identifiers that the output shows. -/
theorem IsRegistered.holdsIds (registered : before.IsRegistered) :
    before.HoldsIds (reservedIds before.events.toList) := by
  obtain ⟨shown, distinct, lookup⟩ := registered
  exact ⟨shown, by rwa [← shown], by rw [lookup, shown]⟩

/-- An element that shows the identifier that was just reserved. -/
theorem IsRegistered.reserve
    (registered : before.IsRegistered)
    {candidate : String}
    {event : Event}
    (output : after.events.toList = before.events.toList ++ [event])
    (shows : event.reservedId? = some (before.reserveId candidate).1)
    (usedIds : after.usedIds = (before.reserveId candidate).2.usedIds)
    (takenIds : after.takenIds = (before.reserveId candidate).2.takenIds) :
    after.IsRegistered := by
  have holds := registered.holdsIds.reserveId candidate
  have shown : reservedIds [event] = [(before.reserveId candidate).1] := by
    simp [reservedIds, shows]
  refine ⟨?_, ?_, ?_⟩
  · rw [usedIds, holds.usedIds, output, reservedIds_append, shown]
  · rw [usedIds, holds.usedIds]
    exact holds.distinct
  · rw [takenIds, holds.names, usedIds, holds.usedIds]

namespace Accounted

/-- What is written without showing an identifier keeps the account. -/
theorem append
    (accounted : before.Accounted)
    (events : List Event)
    (output : after.events.toList = before.events.toList ++ events)
    (anonymous : reservedIds events = [])
    (counted : before.IsCounted → after.IsCounted := by exact id)
    (usedIds : after.usedIds = before.usedIds := by rfl)
    (takenIds : after.takenIds = before.takenIds := by rfl) :
    after.Accounted :=
  ⟨counted accounted.1, accounted.2.append output anonymous usedIds takenIds⟩

/-- Writing an element with the identifier that was just reserved keeps the account. -/
theorem reserve
    (accounted : before.Accounted)
    {candidate : String}
    {event : Event}
    (output : after.events.toList = before.events.toList ++ [event])
    (shows : event.reservedId? = some (before.reserveId candidate).1)
    (counted : before.IsCounted → after.IsCounted := by exact id)
    (usedIds : after.usedIds = (before.reserveId candidate).2.usedIds := by rfl)
    (takenIds : after.takenIds = (before.reserveId candidate).2.takenIds := by rfl) :
    after.Accounted :=
  ⟨counted accounted.1, accounted.2.reserve output shows usedIds takenIds⟩

/-- An error keeps the account. -/
theorem reportError
    (accounted : before.Accounted)
    (kind : DiagnosticKind)
    (position : Option Position)
    (message : String) :
    (before.reportError kind position message).Accounted :=
  ⟨accounted.1.reportError kind position message, accounted.2⟩

/-- A warning keeps the account. -/
theorem reportWarning
    (accounted : before.Accounted)
    (kind : DiagnosticKind)
    (position : Option Position)
    (message : String) :
    (before.reportWarning kind position message).Accounted :=
  ⟨accounted.1.reportWarning kind position message, accounted.2⟩

end Accounted

end CompilerState

end DocMarkup
