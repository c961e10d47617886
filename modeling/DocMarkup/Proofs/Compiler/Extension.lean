import DocMarkup.Compiler.Definition
import DocMarkup.Compiler.Structure
import DocMarkup.Proofs.Compiler.Identifiers

namespace DocMarkup.CompilerState

/-!
# States that come after one another

A state comes after an earlier one if nothing of the earlier one is lost: output,
diagnostics and identifiers were only added, definitions can be undone, and what
no checkpoint records is the same. A rollback to the earlier state then gives
exactly that state back, whatever happened in between.
-/

/-- A later state keeps everything of an earlier one, so that it can be taken back. -/
structure Precedes (earlier later : CompilerState) : Prop where
  events : earlier.events.toList <+: later.events.toList
  diagnostics : earlier.diagnostics.toList <+: later.diagnostics.toList
  usedIds : earlier.usedIds.toList <+: later.usedIds.toList
  takenIds :
    releaseIds later.takenIds (later.usedIds.toList.drop earlier.usedIds.size) =
      earlier.takenIds
  errorCount : earlier.errorCount ≤ later.errorCount
  warningCount : earlier.warningCount ≤ later.warningCount
  macros : earlier.macros.Precedes later.macros
  templates : earlier.templates.Precedes later.templates
  includeStack : later.includeStack = earlier.includeStack
  expansionDepth : later.expansionDepth = earlier.expansionDepth
  phraseDepth : later.phraseDepth = earlier.phraseDepth
  idScope : later.idScope = earlier.idScope

/-- Cutting an array at the size of one that it starts with gives that one. -/
private theorem shrink_eq_of_kept
    {earlier later : Array α}
    (kept : earlier.toList <+: later.toList) :
    later.shrink earlier.size = earlier := by
  apply Array.toList_inj.mp
  rw [Array.toList_shrink]
  exact (List.prefix_iff_eq_take.mp kept).symm

namespace Precedes

/-- A state precedes itself. -/
theorem refl (state : CompilerState) : state.Precedes state where
  events := List.prefix_refl _
  diagnostics := List.prefix_refl _
  usedIds := List.prefix_refl _
  takenIds := by rw [← Array.length_toList, List.drop_length]; rfl
  errorCount := Nat.le_refl _
  warningCount := Nat.le_refl _
  macros := .refl _
  templates := .refl _
  includeStack := rfl
  expansionDepth := rfl
  phraseDepth := rfl
  idScope := rfl

/-- Preceding is transitive. -/
theorem trans
    {first second third : CompilerState}
    (firstSecond : first.Precedes second)
    (secondThird : second.Precedes third) :
    first.Precedes third where
  events := firstSecond.events.trans secondThird.events
  diagnostics := firstSecond.diagnostics.trans secondThird.diagnostics
  usedIds := firstSecond.usedIds.trans secondThird.usedIds
  takenIds := by
    obtain ⟨early, earlyIds⟩ := firstSecond.usedIds
    obtain ⟨late, lateIds⟩ := secondThird.usedIds
    have earlyTaken := firstSecond.takenIds
    have lateTaken := secondThird.takenIds
    rw [← earlyIds, ← Array.length_toList, List.drop_left] at earlyTaken
    rw [← lateIds, ← Array.length_toList, List.drop_left] at lateTaken
    rw [← lateIds, ← earlyIds, ← Array.length_toList, List.append_assoc, List.drop_left,
      releaseIds_append, lateTaken, earlyTaken]
  errorCount := Nat.le_trans firstSecond.errorCount secondThird.errorCount
  warningCount := Nat.le_trans firstSecond.warningCount secondThird.warningCount
  macros := firstSecond.macros.trans secondThird.macros
  templates := firstSecond.templates.trans secondThird.templates
  includeStack := secondThird.includeStack.trans firstSecond.includeStack
  expansionDepth := secondThird.expansionDepth.trans firstSecond.expansionDepth
  phraseDepth := secondThird.phraseDepth.trans firstSecond.phraseDepth
  idScope := secondThird.idScope.trans firstSecond.idScope

/-- A rollback to an earlier state restores it exactly. -/
theorem rollback
    {earlier later : CompilerState}
    (precedes : earlier.Precedes later) :
    later.rollback earlier.checkpoint = earlier := by
  unfold CompilerState.rollback checkpoint
  simp only [shrink_eq_of_kept precedes.events, shrink_eq_of_kept precedes.diagnostics,
    shrink_eq_of_kept precedes.usedIds, precedes.takenIds, precedes.macros.rollback, precedes.templates.rollback,
    precedes.includeStack, precedes.expansionDepth, precedes.phraseDepth, precedes.idScope]

/-- A state precedes the one with a further event. -/
theorem emit
    (state : CompilerState)
    (event : Event) :
    state.Precedes (state.emit event) := by
  refine { refl state with events := ?_ }
  unfold CompilerState.emit
  by_cases pending : state.pendingParagraph
  · simp only [pending, ↓reduceIte, Array.toList_push, List.append_assoc]
    exact List.prefix_append ..
  · simp only [pending, Bool.false_eq_true, ↓reduceIte, Array.toList_push]
    exact List.prefix_append ..

/-- A state precedes the one with further events. -/
theorem replay
    (state : CompilerState)
    (events : List Event) :
    state.Precedes (state.replay events) := by
  unfold CompilerState.replay
  induction events generalizing state with
  | nil =>
      exact refl state
  | cons event rest inductionHypothesis =>
      exact (emit state event).trans (inductionHypothesis _)

/-- A state precedes the one with a further error. -/
theorem reportError
    (state : CompilerState)
    (kind : DiagnosticKind)
    (position : Option Position)
    (message : String) :
    state.Precedes (state.reportError kind position message) := by
  refine { refl state with diagnostics := ?_, errorCount := Nat.le_succ _ }
  simp only [CompilerState.reportError, diagnose, Array.toList_push]
  exact List.prefix_append ..

/-- A state precedes the one with a further warning. -/
theorem reportWarning
    (state : CompilerState)
    (kind : DiagnosticKind)
    (position : Option Position)
    (message : String) :
    state.Precedes (state.reportWarning kind position message) := by
  refine { refl state with diagnostics := ?_, warningCount := Nat.le_succ _ }
  simp only [CompilerState.reportWarning, diagnose, Array.toList_push]
  exact List.prefix_append ..

/-- A state precedes the one with a further identifier. -/
theorem reserveId
    (state : CompilerState)
    (candidate : String) :
    state.Precedes (state.reserveId candidate).2 := by
  refine { refl state with usedIds := ?_, takenIds := ?_ }
  · simp only [CompilerState.reserveId, Array.toList_push]
    exact List.prefix_append ..
  · have newIds :
        (state.reserveId candidate).2.usedIds.toList.drop state.usedIds.size =
          [freeId state.takenIds candidate] := by
      simp [CompilerState.reserveId]
    rw [newIds]
    exact releaseIds_freeId state.takenIds candidate

/-- A state precedes the one with a macro defined. -/
theorem defineMacro
    (state : CompilerState)
    (position : Position)
    (name body : String) :
    state.Precedes (state.defineMacro position name body) := by
  have defined :
      state.Precedes { state with macros := state.macros.define name body } :=
    { refl state with macros := .define .. }
  unfold CompilerState.defineMacro
  split
  · exact defined.trans (reportWarning ..)
  · exact defined

/-- A state precedes the one with a template defined. -/
theorem defineTemplate
    (state : CompilerState)
    (position : Position)
    (template : Template) :
    state.Precedes (state.defineTemplate position template) := by
  have defined :
      state.Precedes { state with templates := state.templates.define template } :=
    { refl state with templates := .define .. }
  unfold CompilerState.defineTemplate
  split
  · exact defined.trans (reportWarning ..)
  · exact defined

/-- A state precedes the one in which a section was opened. -/
theorem beginSection
    (state : CompilerState)
    (given : Option String)
    (title : String) :
    state.Precedes (state.beginSection given title) := by
  let reserved := (state.elementId given title).2
  let identifier := (state.elementId given title).1
  let opened :=
    { reserved with
      sectionLevel := reserved.sectionLevel + 1
      sectionIds := identifier :: reserved.sectionIds }
  have afterId : state.Precedes reserved :=
    reserveId state _
  have afterLevel : reserved.Precedes opened :=
    { refl reserved with }
  exact ((afterId.trans afterLevel).trans (emit opened _)).trans (emit _ _)

/-- A state precedes the one in which a heading was opened. -/
theorem beginHeading
    (state : CompilerState)
    (level : Option Int)
    (title : String) :
    state.Precedes (state.beginHeading level title) :=
  (reserveId state _).trans (emit _ _)

/-- A state precedes the one in which a table was opened. -/
theorem beginTable
    (state : CompilerState)
    (given : Option String)
    (title : String)
    (hasTitle : Bool) :
    state.Precedes (state.beginTable given title hasTitle) := by
  unfold CompilerState.beginTable
  split
  · exact (reserveId state _).trans (emit _ _)
  · exact emit _ _

/-- A state precedes the one in which an admonition or a block quote was opened. -/
theorem beginNestedBlock
    (state : CompilerState)
    (name : String) :
    state.Precedes (state.beginNestedBlock name) :=
  { emit state (.opening name []) with }

/-- A state precedes the one in which an admonition or a block quote was closed. -/
theorem endNestedBlock
    (state : CompilerState)
    (name : String) :
    state.Precedes (state.endNestedBlock name) :=
  { emit state (.closing name) with }

/-- A state precedes the one in which a paragraph began. -/
theorem beginParagraph (state : CompilerState) : state.Precedes state.beginParagraph :=
  { refl state with }

/-- A state precedes the one in which a paragraph ended. -/
theorem endParagraph (state : CompilerState) : state.Precedes state.endParagraph := by
  unfold CompilerState.endParagraph
  split
  · exact { refl state with }
  · exact emit _ _

end Precedes

end DocMarkup.CompilerState
