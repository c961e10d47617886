import DocMarkup.Compiler.State

namespace DocMarkup

/-!
# Undoing definitions

A table of names, of macros or of templates comes after an earlier one if
undoing the newest entries of its journal gives the earlier one back. Tables that
come after an earlier one are the ones that a rollback to it restores, also when
scopes were opened and closed in the meantime.
-/

namespace NameTable

variable {α : Type}

/-- Looking a name up in a table whose first entry has it. -/
theorem find?_cons_same
    (name : String)
    (value : α)
    (rest : List (String × α)) :
    NameTable.find? ⟨(name, value) :: rest⟩ name = some value := by
  simp [find?]

/-- Looking a name up in a table whose first entry has another one. -/
theorem find?_cons_other
    {key name : String}
    (different : key ≠ name)
    (value : α)
    (rest : List (String × α)) :
    NameTable.find? ⟨(key, value) :: rest⟩ name = NameTable.find? ⟨rest⟩ name := by
  simp [find?, different]

/-- A name that was not there is gone again after it was taken out. -/
private theorem filter_insertEntry
    {name : String}
    {entries : List (String × α)}
    (absent : NameTable.find? ⟨entries⟩ name = none)
    (value : α) :
    ((insertEntry name value entries).filter fun entry => entry.1 != name) = entries := by
  induction entries with
  | nil =>
      simp [insertEntry]
  | cons entry rest inductionHypothesis =>
      obtain ⟨key, old⟩ := entry
      by_cases same : key = name
      · subst same
        simp [find?_cons_same] at absent
      · rw [find?_cons_other same] at absent
        have kept := inductionHypothesis absent
        simpa [insertEntry, same] using kept

/-- Replacing a value and putting the old one back changes nothing. -/
private theorem insertEntry_insertEntry
    {name : String}
    {old : α}
    {entries : List (String × α)}
    (present : NameTable.find? ⟨entries⟩ name = some old)
    (value : α) :
    insertEntry name old (insertEntry name value entries) = entries := by
  induction entries with
  | nil =>
      simp [find?] at present
  | cons entry rest inductionHypothesis =>
      obtain ⟨key, kept⟩ := entry
      by_cases same : key = name
      · subst same
        rw [find?_cons_same] at present
        obtain rfl := Option.some.inj present
        simp [insertEntry]
      · rw [find?_cons_other same] at present
        simpa [insertEntry, same] using inductionHypothesis present

/-- Restoring what was under a name before it was entered gives the table from before. -/
theorem restore_insert
    (table : NameTable α)
    (name : String)
    (value : α) :
    (table.insert name value).restore name (table.find? name) = table := by
  cases found : table.find? name with
  | none =>
      simp only [restore, erase, insert]
      rw [filter_insertEntry found]
  | some old =>
      simp only [restore, insert]
      rw [insertEntry_insertEntry found]

end NameTable

namespace MacroTable

/-- Undoing some definitions and then some more is undoing them all together. -/
theorem undo_undo
    (first second : Nat)
    (table : MacroTable) :
    undo second (undo first table) = undo (first + second) table := by
  induction first generalizing table with
  | zero =>
      simp [undo]
  | succ count inductionHypothesis =>
      rw [Nat.succ_add]
      cases journal : table.journal with
      | nil =>
          have stuck : ∀ number, undo number table = table := by
            intro number
            cases number <;> simp [undo, journal]
          rw [stuck, stuck, stuck]
      | cons change older =>
          simp only [undo, journal]
          exact inductionHypothesis _

/-- A later table gives an earlier one when its newest definitions are undone. -/
def Precedes (earlier later : MacroTable) : Prop :=
  ∃ count,
    later.journal.length = earlier.journal.length + count ∧
      undo count later = earlier

namespace Precedes

/-- A table precedes itself. -/
theorem refl (table : MacroTable) : table.Precedes table :=
  ⟨0, rfl, rfl⟩

/-- Preceding is transitive. -/
theorem trans
    {first second third : MacroTable}
    (firstSecond : first.Precedes second)
    (secondThird : second.Precedes third) :
    first.Precedes third := by
  obtain ⟨early, earlyLength, earlyUndone⟩ := firstSecond
  obtain ⟨late, lateLength, lateUndone⟩ := secondThird
  refine ⟨late + early, by omega, ?_⟩
  rw [← undo_undo, lateUndone, earlyUndone]

/-- A table precedes the one with a further definition. -/
theorem define
    (table : MacroTable)
    (name body : String) :
    table.Precedes (table.define name body) := by
  refine ⟨1, rfl, ?_⟩
  simp only [MacroTable.define, undo]
  rw [NameTable.restore_insert]

/-- A rollback restores the earlier table. -/
theorem rollback
    {earlier later : MacroTable}
    (precedes : earlier.Precedes later) :
    later.rollback earlier.checkpoint = earlier := by
  obtain ⟨count, lengths, undone⟩ := precedes
  simp only [MacroTable.rollback, checkpoint, lengths]
  rw [Nat.add_sub_cancel_left, undone]

end Precedes

end MacroTable

namespace TemplateTable

/-- Changing a scope leaves the number of scopes as it was. -/
@[simp] theorem length_inner_modifyScope
    (table : TemplateTable)
    (scope : Nat)
    (change : NameTable Template → NameTable Template) :
    (table.modifyScope scope change).inner.length = table.inner.length := by
  unfold modifyScope
  split
  · rfl
  · split <;> simp

/-- Undoing definitions leaves the number of scopes as it was. -/
@[simp] theorem length_inner_undo
    (count : Nat)
    (table : TemplateTable) :
    (undo count table).inner.length = table.inner.length := by
  induction count generalizing table with
  | zero =>
      rfl
  | succ count inductionHypothesis =>
      unfold undo
      split
      · rfl
      · rw [inductionHypothesis]
        exact length_inner_modifyScope ..

/-- Undoing some definitions and then some more is undoing them all together. -/
theorem undo_undo
    (first second : Nat)
    (table : TemplateTable) :
    undo second (undo first table) = undo (first + second) table := by
  induction first generalizing table with
  | zero =>
      simp [undo]
  | succ count inductionHypothesis =>
      rw [Nat.succ_add]
      cases journal : table.journal with
      | nil =>
          have stuck : ∀ number, undo number table = table := by
            intro number
            cases number <;> simp [undo, journal]
          rw [stuck, stuck, stuck]
      | cons change older =>
          simp only [undo, journal]
          exact inductionHypothesis _

/-- The table without its innermost scope. -/
def dropScope (table : TemplateTable) : TemplateTable :=
  { table with inner := table.inner.tail }

/-- Closing the innermost scope drops it, if it is not the document's. -/
theorem popScope?_getD (table : TemplateTable) :
    table.popScope?.getD table = table.dropScope := by
  obtain ⟨document, inner, journal⟩ := table
  cases inner <;> rfl

/-- A change of any scope but the innermost is the same when the innermost is dropped. -/
private theorem dropScope_modifyScope
    {table : TemplateTable}
    (opened : table.inner ≠ [])
    (scope : Nat)
    (change : NameTable Template → NameTable Template) :
    (table.modifyScope scope change).dropScope = table.dropScope.modifyScope scope change := by
  obtain ⟨document, inner, journal⟩ := table
  cases inner with
  | nil =>
      exact (opened rfl).elim
  | cons innermost outer =>
      unfold modifyScope dropScope
      by_cases isDocument : scope = 0
      · simp [isDocument]
      · by_cases isInnermost : scope = outer.length + 1
        · subst isInnermost
          have beyond : ¬ outer.length + 1 ≤ outer.length := by
            omega
          simp [beyond]
        · by_cases inRange : scope ≤ outer.length
          · have reach : outer.length + 1 - scope = outer.length - scope + 1 := by
              omega
            have within : scope ≤ outer.length + 1 := by
              omega
            simp [isDocument, inRange, within, reach]
          · have outside : ¬ scope ≤ outer.length + 1 := by
              omega
            simp [isDocument, inRange, outside]

/-- Undoing definitions is the same with and without the innermost scope, apart from that scope. -/
theorem dropScope_undo
    (count : Nat)
    {table : TemplateTable}
    (opened : table.inner ≠ []) :
    (undo count table).dropScope = undo count table.dropScope := by
  induction count generalizing table with
  | zero =>
      rfl
  | succ count inductionHypothesis =>
      cases journal : table.journal with
      | nil =>
          simp [undo, journal, dropScope]
      | cons change older =>
          have stillOpened :
              (table.modifyScope change.scope fun scope =>
                scope.restore change.name change.previous).inner ≠ [] := by
            rw [← List.length_pos_iff, length_inner_modifyScope]
            exact List.length_pos_iff.mpr opened
          have droppedJournal : table.dropScope.journal = change :: older :=
            journal
          simp only [undo, journal, droppedJournal]
          rw [inductionHypothesis (by exact stillOpened)]
          congr 1
          rw [← dropScope_modifyScope opened]
          rfl

/-- A later table gives an earlier one when its newest definitions are undone. -/
def Precedes (earlier later : TemplateTable) : Prop :=
  ∃ count,
    later.journal.length = earlier.journal.length + count ∧
      undo count later = earlier

namespace Precedes

/-- A table precedes itself. -/
theorem refl (table : TemplateTable) : table.Precedes table :=
  ⟨0, rfl, rfl⟩

/-- Preceding is transitive. -/
theorem trans
    {first second third : TemplateTable}
    (firstSecond : first.Precedes second)
    (secondThird : second.Precedes third) :
    first.Precedes third := by
  obtain ⟨early, earlyLength, earlyUndone⟩ := firstSecond
  obtain ⟨late, lateLength, lateUndone⟩ := secondThird
  refine ⟨late + early, by omega, ?_⟩
  rw [← undo_undo, lateUndone, earlyUndone]

/-- A table that precedes another has as many scopes. -/
theorem length_inner
    {earlier later : TemplateTable}
    (precedes : earlier.Precedes later) :
    later.inner.length = earlier.inner.length := by
  obtain ⟨count, _, rfl⟩ := precedes
  simp

/-- A table precedes the one with a further definition. -/
theorem define
    (table : TemplateTable)
    (template : Template) :
    table.Precedes (table.define template) := by
  refine ⟨1, by simp [TemplateTable.define], ?_⟩
  obtain ⟨document, inner, journal⟩ := table
  cases inner with
  | nil =>
      simp [TemplateTable.define, undo, modifyScope, replaced?, innermost,
        NameTable.restore_insert]
  | cons scope outer =>
      simp [TemplateTable.define, undo, modifyScope, replaced?, innermost,
        NameTable.restore_insert]

/-- What comes after a scope was opened still comes after the table without it. -/
theorem dropScope
    {earlier later : TemplateTable}
    {bindings : NameTable Template}
    (precedes : (earlier.pushScope bindings).Precedes later) :
    earlier.Precedes later.dropScope := by
  have sameScopes := precedes.length_inner
  obtain ⟨count, lengths, undone⟩ := precedes
  have opened : later.inner ≠ [] := by
    rw [← List.length_pos_iff, sameScopes]
    simp [pushScope]
  refine ⟨count, lengths, ?_⟩
  rw [← dropScope_undo count opened, undone]
  rfl

/-- A rollback restores the earlier table. -/
theorem rollback
    {earlier later : TemplateTable}
    (precedes : earlier.Precedes later) :
    later.rollback earlier.checkpoint = earlier := by
  obtain ⟨count, lengths, undone⟩ := precedes
  simp only [TemplateTable.rollback, checkpoint, lengths]
  rw [Nat.add_sub_cancel_left, undone]

end Precedes

end TemplateTable

end DocMarkup
