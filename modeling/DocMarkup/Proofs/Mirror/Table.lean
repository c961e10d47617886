import DocMarkup.Grammar.Table
import DocMarkup.Proofs.Mirror.Phrase

namespace DocMarkup

/-!
# Tables in a frame

Tables and lists of variables are read alike cell by cell. Their titles are read as
sources of their own, cut out where the blanks after the keyword end.
-/

/-- The title of a table starts with something that is neither a blank nor a line feed. -/
theorem Cursor.head?_tableTitle
    {cursor : Cursor}
    {first : Char}
    (isFirst : first ∈ cursor.skipHorizontal.tableTitle.1.toList.head?) :
    first ≠ '\n' ∧ ¬ Text.isHorizontal first := by
  simp only [tableTitle, String.toList_ofList] at isFirst
  generalize startsRow :
    (fun content : List Char => content.head? == some '[') = startsEntry at isFirst
  cases remaining : cursor.skipHorizontal.rest with
  | nil =>
      simp [remaining] at isFirst
  | cons front rest =>
      have notBlank : ¬ Text.isHorizontal front := by
        have shape : cursor.skipHorizontal.rest = cursor.rest.dropWhile Text.isHorizontal :=
          calc
            cursor.rest.drop (cursor.rest.takeWhile Text.isHorizontal).length =
                (cursor.rest.takeWhile Text.isHorizontal ++
                  cursor.rest.dropWhile Text.isHorizontal).drop
                    (cursor.rest.takeWhile Text.isHorizontal).length := by
              rw [List.takeWhile_append_dropWhile]
            _ = cursor.rest.dropWhile Text.isHorizontal := List.drop_left
        rw [shape] at remaining
        have stopped := List.head?_dropWhile_not Text.isHorizontal cursor.rest
        rw [remaining] at stopped
        simpa using stopped
      rw [remaining] at isFirst
      have notLineFeed : front ≠ '\n' := by
        rintro rfl
        cases rest <;> simp [titleLength] at isFirst
      have isFront : first = front := by
        cases taken : titleLength startsEntry 0 (front :: rest) with
        | zero =>
            simp [taken] at isFirst
        | succ count =>
            simpa [taken] using isFirst.symm
      rw [isFront]
      exact ⟨notLineFeed, notBlank⟩

open Compile

namespace Table

variable {setting : Setting} {stack : List Path} {inner reflection : Inner} {cursor : Cursor}

/-- The title of a table is read alike. -/
private theorem titlePhrase_mirrors
    (closed : setting.IsClosed)
    (mirror : inner.Mirrors setting stack reflection)
    (isIn : cursor.IsIn setting.known) :
    Mirrors setting stack
      (titlePhrase inner cursor.skipHorizontal.position cursor.skipHorizontal.tableTitle.1)
      (titlePhrase reflection cursor.skipHorizontal.position cursor.skipHorizontal.tableTitle.1)
      fun _ => True := by
  have start := isIn.leads (Cursor.Leads.refl cursor).skipHorizontal
  have isPart :
      cursor.skipHorizontal.tableTitle.1.toList <+:
        cursor.skipHorizontal.source.text.toList.drop cursor.skipHorizontal.offset := by
    rw [← cursor.skipHorizontal.rest_eq]
    simp only [Cursor.tableTitle, String.toList_ofList]
    exact List.take_prefix ..
  have isKnown :=
    closed.title _ _ _ start.source start.inside isPart fun _ => Cursor.head?_tableTitle
  rw [← Cursor.position_eq] at isKnown
  unfold titlePhrase
  split
  · exact .pure trivial
  · refine .updateThen (by simp) (by simp) ?_
    refine (expansion_mirrors mirror isKnown false).bind ?_
    rintro (_ | _) -
    · exact .pure trivial
    · exact .updateThen (by simp) (by simp) (.pure trivial)

/-- A cell is read alike. -/
private theorem cell_mirrors
    (mirror : inner.Mirrors setting stack reflection)
    (isIn : cursor.IsIn setting.known)
    (name : Option String) :
    Mirrors setting stack (cell inner name cursor) (cell reflection name cursor)
      (LeadsOn cursor) := by
  have leads : cursor.Leads (cursor.skipComments.advance 1).skipHorizontal :=
    ((Cursor.Leads.refl cursor).skipComments.advanced 1).skipHorizontal
  have content := Phrase.nested_mirrors mirror (isIn.leads leads)
  unfold cell
  cases name with
  | none =>
      refine content.bind ?_
      rintro (_ | next) leadsOn
      · exact .pure (.none cursor)
      · exact .pure (.close (leads.trans (leadsOn next rfl)))
  | some element =>
      refine .updateThen (by simp) (by simp) ?_
      refine content.bind ?_
      rintro (_ | next) leadsOn
      · exact .pure (.none cursor)
      · exact .updateThen (by simp) (by simp) (.pure (.close (leads.trans (leadsOn next rfl))))

/-- Rules that follow one another are read alike if each of them is. -/
private theorem then_mirrors
    {first firstReflection : Rule}
    {next nextReflection : Rule}
    (firstMirrors :
      Mirrors setting stack (first cursor) (firstReflection cursor) (LeadsOn cursor))
    (nextMirrors :
      ∀ middle,
        cursor.Leads middle →
          Mirrors setting stack (next middle) (nextReflection middle) (LeadsOn middle)) :
    Mirrors setting stack
      (do
        match ← first cursor with
        | some middle => next middle
        | none => return none)
      (do
        match ← firstReflection cursor with
        | some middle => nextReflection middle
        | none => return none)
      (LeadsOn cursor) := by
  refine firstMirrors.bind ?_
  rintro (_ | middle) leadsOn
  · exact .pure (.none cursor)
  · have leads := leadsOn middle rfl
    exact (nextMirrors middle leads).imp fun _ => .trans leads

/-- So are cells that follow one another. -/
private theorem cells_mirrors
    (mirror : inner.Mirrors setting stack reflection)
    (isIn : cursor.IsIn setting.known)
    (name : Option String)
    (outlined : List Nat) :
    Mirrors setting stack (cells inner name outlined cursor)
      (cells reflection name outlined cursor)
      (LeadsOn cursor) := by
  induction outlined generalizing cursor with
  | nil =>
      exact .pure (.some (.refl cursor))
  | cons start others inductionHypothesis =>
      exact then_mirrors (cell_mirrors mirror isIn name)
        fun middle leads => inductionHypothesis (isIn.leads leads)

/-- A closing bracket behind white space and comments is in the same text. -/
private theorem leads_of_closing
    {next after : Cursor}
    (leads : cursor.Leads next)
    (closes : closing next = some after) :
    cursor.Leads after :=
  leads.skipComments.trans (.close? closes)

/-- Something in a row of cells, or in a group of rows, is written around what is inside. -/
private theorem around_mirrors
    {open_ close : CompilerState → CompilerState}
    (sameOpen :
      ∀ before : CompilerState,
        open_ (before.behind setting.frame) = (open_ before).behind setting.frame)
    (keepsOpen :
      ∀ before : CompilerState,
        before.Reported setting.known stack → (open_ before).Reported setting.known stack)
    (sameClose :
      ∀ before : CompilerState,
        close (before.behind setting.frame) = (close before).behind setting.frame)
    (keepsClose :
      ∀ before : CompilerState,
        before.Reported setting.known stack → (close before).Reported setting.known stack)
    {inside insideReflection : Rule}
    {content : Cursor}
    (leads : cursor.Leads content)
    (insideMirrors :
      Mirrors setting stack (inside content) (insideReflection content) (LeadsOn content)) :
    Mirrors setting stack
      (do
        update open_
        match ← inside content with
        | none => return none
        | some next =>
            update close
            return some next)
      (do
        update open_
        match ← insideReflection content with
        | none => return none
        | some next =>
            update close
            return some next)
      (LeadsOn cursor) := by
  refine .updateThen sameOpen keepsOpen ?_
  refine insideMirrors.bind ?_
  rintro (_ | next) leadsOn
  · exact .pure (.none cursor)
  · exact .updateThen sameClose keepsClose (.pure (.some (leads.trans (leadsOn next rfl))))

/-- A row is read alike. -/
private theorem row_mirrors
    (mirror : inner.Mirrors setting stack reflection)
    (isIn : cursor.IsIn setting.known)
    (columns : Nat)
    (outline : RowOutline) :
    Mirrors setting stack (row inner columns outline cursor)
      (row reflection columns outline cursor)
      (LeadsOn cursor) := by
  have entry : cursor.Leads cursor.skipComments := (Cursor.Leads.refl cursor).skipComments
  unfold row
  refine .updateThen (by simp) (fun _ reported => ?_) ?_
  · rw [CompilerState.reported_startElement]
    exact reported.checkRow (isIn.leads entry).position _ _
  refine (cells_mirrors mirror (isIn.leads (entry.advanced 1)) _ _).bind ?_
  rintro (_ | next) leadsOn
  · exact .pure (.none cursor)
  · simp only
    split
    next =>
      exact .pure (.none cursor)
    next after closes =>
      have leads := leads_of_closing ((entry.advanced 1).trans (leadsOn next rfl)) closes
      exact .updateThen (by simp) (by simp) (.pure (.some leads))

/-- Rows that follow one another are read alike. -/
private theorem rows_mirrors
    (mirror : inner.Mirrors setting stack reflection)
    (isIn : cursor.IsIn setting.known)
    (columns : Nat)
    (outlines : List RowOutline) :
    Mirrors setting stack (rows inner columns outlines cursor)
      (rows reflection columns outlines cursor)
      (LeadsOn cursor) := by
  induction outlines generalizing cursor with
  | nil =>
      exact .pure (.some (.refl cursor))
  | cons outline others inductionHypothesis =>
      exact then_mirrors (row_mirrors mirror isIn columns outline)
        fun middle leads => inductionHypothesis (isIn.leads leads)

/-- So are groups of rows. -/
private theorem group_mirrors
    (mirror : inner.Mirrors setting stack reflection)
    (isIn : cursor.IsIn setting.known)
    (columns : Nat)
    (name : String)
    (outlines : List RowOutline) :
    Mirrors setting stack (group inner columns name outlines cursor)
      (group reflection columns name outlines cursor)
      (LeadsOn cursor) :=
  around_mirrors (by simp) (by simp) (by simp) (by simp) (.refl cursor)
    (rows_mirrors mirror isIn columns outlines)

private theorem groups_mirrors
    (mirror : inner.Mirrors setting stack reflection)
    (isIn : cursor.IsIn setting.known)
    (columns : Nat)
    (outlines : List RowOutline) :
    Mirrors setting stack (groups inner columns outlines cursor)
      (groups reflection columns outlines cursor)
      (LeadsOn cursor) := by
  unfold groups
  split
  · exact then_mirrors (group_mirrors mirror isIn columns _ _)
      fun middle leads => group_mirrors mirror (isIn.leads leads) columns _ _
  · exact group_mirrors mirror isIn columns _ _

private theorem body_mirrors
    (mirror : inner.Mirrors setting stack reflection)
    (isIn : cursor.IsIn setting.known)
    (outlines : List RowOutline) :
    Mirrors setting stack (body inner outlines cursor) (body reflection outlines cursor)
      (LeadsOn cursor) := by
  unfold body
  split
  · exact .pure (.some (.refl cursor))
  · exact around_mirrors (by simp) (by simp) (by simp) (by simp) (.refl cursor)
      (groups_mirrors mirror isIn _ _)

/-- A table is read alike. -/
theorem rule_mirrors
    (closed : setting.IsClosed)
    (mirror : inner.Mirrors setting stack reflection)
    (isIn : cursor.IsIn setting.known) :
    Mirrors setting stack (rule inner cursor) (rule reflection cursor) (LeadsOn cursor) := by
  unfold rule
  split
  next =>
    exact .pure (.none cursor)
  next given afterKeyword read =>
    have toKeyword := Cursor.Leads.keywordWithId? read
    have toBody := toKeyword.skipHorizontal.trans (.tableTitle _)
    simp only
    split
    next =>
      exact .pure (.none cursor)
    next outline _ =>
      refine .updateThen (by simp) (by simp) ?_
      refine (titlePhrase_mirrors closed mirror (isIn.leads toKeyword)).bind ?_
      rintro (_ | _) -
      · exact .pure (.none cursor)
      · simp only [↓reduceIte]
        refine (body_mirrors mirror (isIn.leads toBody) outline.rows).bind ?_
        rintro (_ | next) leadsOn
        · exact .pure (.none cursor)
        · simp only
          split
          next =>
            exact .pure (.none cursor)
          next after closes =>
            have leads := leads_of_closing (toBody.trans (leadsOn next rfl)) closes
            exact .updateThen (by simp) (by simp) (.pure (.some leads))

/-- An entry of a list of variables is read alike. -/
private theorem variableEntry_mirrors
    (mirror : inner.Mirrors setting stack reflection)
    (isIn : cursor.IsIn setting.known)
    (outline : RowOutline) :
    Mirrors setting stack (variableEntry inner outline cursor)
      (variableEntry reflection outline cursor)
      (LeadsOn cursor) := by
  have entry : cursor.Leads cursor.skipComments := (Cursor.Leads.refl cursor).skipComments
  unfold variableEntry
  refine .updateThen (by simp) (fun _ reported => ?_) ?_
  · simp only [CompilerState.reported_startElement]
    exact reported.checkVariable (isIn.leads entry).position _
  refine (cells_mirrors mirror (isIn.leads (entry.advanced 1)) none _).bind ?_
  rintro (_ | afterTerm) leadsOn
  · exact .pure (.none cursor)
  have toMeaning := (entry.advanced 1).trans (leadsOn afterTerm rfl)
  refine .updateThen (by simp) (by simp) ?_
  refine (cells_mirrors mirror (isIn.leads toMeaning) none _).bind ?_
  rintro (_ | next) meaningLeadsOn
  · exact .pure (.none cursor)
  refine .updateThen (by simp) (by simp) (.pure fun after closes => ?_)
  exact leads_of_closing (toMeaning.trans (meaningLeadsOn next rfl)) closes

private theorem variableEntries_mirrors
    (mirror : inner.Mirrors setting stack reflection)
    (isIn : cursor.IsIn setting.known)
    (outlines : List RowOutline) :
    Mirrors setting stack (variableEntries inner outlines cursor)
      (variableEntries reflection outlines cursor)
      (LeadsOn cursor) := by
  induction outlines generalizing cursor with
  | nil =>
      exact .pure (.some (.refl cursor))
  | cons outline others inductionHypothesis =>
      exact then_mirrors (variableEntry_mirrors mirror isIn outline)
        fun middle leads => inductionHypothesis (isIn.leads leads)

/-- A list of variables is read alike. -/
theorem variableList_mirrors
    (closed : setting.IsClosed)
    (mirror : inner.Mirrors setting stack reflection)
    (isIn : cursor.IsIn setting.known) :
    Mirrors setting stack (variableList inner cursor) (variableList reflection cursor)
      (LeadsOn cursor) := by
  unfold variableList
  split
  next =>
    exact .pure (.none cursor)
  next afterKeyword read =>
    have toKeyword := Cursor.Leads.keyword? read
    have toBody := toKeyword.skipHorizontal.trans (.tableTitle _)
    simp only
    split
    next =>
      exact .pure (.none cursor)
    next outline _ =>
      refine .updateThen (by simp) (by simp) ?_
      refine (titlePhrase_mirrors closed mirror (isIn.leads toKeyword)).bind ?_
      rintro (_ | _) -
      · exact .pure (.none cursor)
      · simp only [↓reduceIte]
        refine (variableEntries_mirrors mirror (isIn.leads toBody) outline.rows).bind ?_
        rintro (_ | next) leadsOn
        · exact .pure (.none cursor)
        · simp only
          split
          next =>
            exact .pure (.none cursor)
          next after closes =>
            have leads := leads_of_closing (toBody.trans (leadsOn next rfl)) closes
            exact .updateThen (by simp) (by simp) (.pure (.some leads))

end Table

end DocMarkup
