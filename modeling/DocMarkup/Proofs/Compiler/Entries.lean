import DocMarkup.Proofs.Compiler.Undo

namespace DocMarkup

/-!
# Properties of everything that is defined

A property that all values of a table have is kept when a value with the property
is entered. The scopes of a table of templates are opened and closed without
touching what the others hold.
-/

namespace NameTable

variable {α : Type} {property : α → Prop}

/-- All values of a table have a property. -/
def Every (property : α → Prop) (table : NameTable α) : Prop :=
  ∀ entry ∈ table.entries, property entry.2

instance [DecidablePred property] : DecidablePred (Every property) :=
  fun table => inferInstanceAs (Decidable (∀ entry ∈ table.entries, property entry.2))

/-- Nothing is in an empty table. -/
theorem Every.empty : Every property {} := by
  simp [Every]

/-- An entry behind an insertion is the new one or one from before. -/
private theorem mem_insertEntry
    {name : String}
    {value : α}
    {entries : List (String × α)}
    {entry : String × α}
    (member : entry ∈ insertEntry name value entries) :
    entry = (name, value) ∨ entry ∈ entries := by
  induction entries with
  | nil =>
      exact .inl (List.mem_singleton.mp member)
  | cons first rest inductionHypothesis =>
      unfold insertEntry at member
      split at member
      · rcases List.mem_cons.mp member with rfl | inRest
        · exact .inl rfl
        · exact .inr (List.mem_cons_of_mem _ inRest)
      · rcases List.mem_cons.mp member with rfl | inRest
        · exact .inr (by simp)
        · rcases inductionHypothesis inRest with isNew | wasThere
          · exact .inl isNew
          · exact .inr (List.mem_cons_of_mem _ wasThere)

/-- Entering a value with the property keeps the property. -/
theorem Every.insert
    {table : NameTable α}
    (every : table.Every property)
    (name : String)
    {value : α}
    (holds : property value) :
    (table.insert name value).Every property := by
  intro entry member
  rcases mem_insertEntry member with rfl | wasThere
  · exact holds
  · exact every entry wasThere

/-- What is found in a table has the property of all values. -/
theorem Every.of_find?
    {table : NameTable α}
    (every : table.Every property)
    {name : String}
    {value : α}
    (found : table.find? name = some value) :
    property value := by
  obtain ⟨entry, isEntry, rfl⟩ := Option.map_eq_some_iff.mp found
  exact every entry (List.mem_of_find?_eq_some isEntry)

/-- What is entered under a name is found there, and nothing else is found elsewhere. -/
theorem find?_insert
    (table : NameTable α)
    (name : String)
    (value : α)
    (other : String) :
    (table.insert name value).find? other =
      if name = other then some value else table.find? other := by
  obtain ⟨entries⟩ := table
  simp only [insert, find?]
  induction entries with
  | nil => by_cases same : name = other <;> simp [insertEntry, same]
  | cons entry rest inductionHypothesis =>
      obtain ⟨key, old⟩ := entry
      unfold insertEntry
      by_cases isKey : key = name
      · subst isKey
        by_cases same : key = other <;> simp [same]
      · by_cases isFound : key = other
        · subst isFound
          simp [isKey, Ne.symm isKey]
        · simpa [isKey, isFound] using inductionHypothesis

end NameTable

namespace TemplateTable

/-- A template that is defined is what its name stands for. -/
theorem find?_define (table : TemplateTable) (template : Template) :
    (table.define template).find? template.name = some template := by
  obtain ⟨document, inner, journal⟩ := table
  cases inner <;>
    simp [define, modifyScope, find?, scopes, NameTable.find?_insert]

variable {property : Template → Prop} {table : TemplateTable}

/-- All templates of all scopes have a property. -/
def Every (property : Template → Prop) (table : TemplateTable) : Prop :=
  ∀ scope ∈ table.scopes, scope.Every property

instance [DecidablePred property] : DecidablePred (Every property) :=
  fun table => inferInstanceAs (Decidable (∀ scope ∈ table.scopes, scope.Every property))

namespace Every

/-- Nothing is defined in a new table. -/
theorem empty : Every property {} := by
  simp [Every, scopes, NameTable.Every]

/-- What a name stands for has the property of all templates. -/
theorem of_find?
    (every : table.Every property)
    {name : String}
    {template : Template}
    (found : table.find? name = some template) :
    property template := by
  obtain ⟨scope, isScope, inScope⟩ := List.exists_of_findSome?_eq_some found
  exact (every scope isScope).of_find? inScope

/-- Defining a template with the property keeps the property. -/
theorem define
    (every : table.Every property)
    {template : Template}
    (holds : property template) :
    (table.define template).Every property := by
  obtain ⟨document, inner, journal⟩ := table
  cases inner with
  | nil =>
      intro scope isScope
      have isDocument : scope = document.insert template.name template := by
        simpa [TemplateTable.define, scopes, modifyScope] using isScope
      subst isDocument
      exact (every document (by simp [scopes])).insert _ holds
  | cons innermost outer =>
      intro scope isScope
      have cases :
          scope = innermost.insert template.name template ∨ scope ∈ outer ∨ scope = document := by
        simpa [TemplateTable.define, scopes, modifyScope] using isScope
      rcases cases with rfl | inOuter | rfl
      · exact (every innermost (by simp [scopes])).insert _ holds
      · exact every scope (by simp [scopes, inOuter])
      · exact every scope (by simp [scopes])

/-- Opening a scope of templates with the property keeps the property. -/
theorem pushScope
    (every : table.Every property)
    {bindings : NameTable Template}
    (holds : bindings.Every property) :
    (table.pushScope bindings).Every property := by
  intro scope isScope
  rcases List.mem_cons.mp isScope with rfl | inOuter
  · exact holds
  · exact every scope inOuter

/-- Closing the innermost scope keeps the property. -/
theorem dropScope (every : table.Every property) : table.dropScope.Every property := by
  intro scope isScope
  refine every scope ?_
  rcases List.mem_append.mp isScope with isInner | isDocument
  · exact List.mem_append_left _ (List.mem_of_mem_tail isInner)
  · exact List.mem_append_right _ isDocument

end Every

end TemplateTable

end DocMarkup
