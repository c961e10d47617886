import DocMarkup.Grammar.Phrase

namespace DocMarkup

/-!
# Tables and lists of variables

The rows and cells of a table are outlined before any of them is read, since the
width of the table and its head depend on all rows. Rows and cells are brackets,
with white space and comments between them.
-/

/-- Where a row starts and is closed, and where each of its cells starts. -/
structure RowOutline where
  start : Nat
  cells : List Nat
  closing : Nat
deriving DecidableEq, Repr

/-- The rows of a table, and where it is closed. -/
structure TableOutline where
  rows : List RowOutline
  closing : Nat
deriving DecidableEq, Repr

namespace Cursor

/-- Reading through a bracket never adds to what remains. -/
theorem length_rest_balancedThrough?_le
    {cursor next : Cursor}
    {content : String}
    (read : cursor.balancedThrough? = some (content, next)) :
    next.rest.length ≤ cursor.rest.length := by
  unfold balancedThrough? at read
  split at read
  · simp at read
  · next text atBracket balanced =>
      have toBracket := length_rest_balanced?_le balanced
      simp only [close?, character?] at read
      split at read
      · simp only [Option.map_some, Option.some.injEq, Prod.mk.injEq] at read
        obtain ⟨_, rfl⟩ := read
        simp only [rest_advance, List.length_drop]
        omega
      · simp at read

/-- Outline the cells of a row, up to its closing bracket, and read that bracket. -/
def outlineCells? (cursor : Cursor) : Option (List Nat × Nat × Cursor) :=
  let entry := cursor.skipComments
  match _opened : entry.rest with
  | ']' :: _ => some ([], entry.offset, entry.advance 1)
  | '[' :: _ =>
      match _read : (entry.advance 1).balancedThrough? with
      | none => none
      | some (_, next) =>
          (outlineCells? next).map fun (cells, closing, after) =>
            (entry.offset :: cells, closing, after)
  | _ => none
termination_by cursor.rest.length
decreasing_by
  have throughCell := length_rest_balancedThrough?_le _read
  have toEntry : entry.rest.length ≤ cursor.rest.length :=
    cursor.length_rest_skipComments_le
  have total := congrArg List.length _opened
  simp only [rest_advance, List.length_drop, List.length_cons] at *
  omega

/-- Outlining the cells of a row never adds to what remains. -/
theorem length_rest_outlineCells?_le
    {cursor after : Cursor}
    {cells : List Nat}
    {closing : Nat}
    (outlined : cursor.outlineCells? = some (cells, closing, after)) :
    after.rest.length ≤ cursor.rest.length := by
  fun_induction outlineCells? cursor generalizing cells closing after with
  | case1 cursor entry rest =>
      simp only [Option.some.injEq, Prod.mk.injEq] at outlined
      obtain ⟨_, _, rfl⟩ := outlined
      have toEntry : entry.rest.length ≤ cursor.rest.length :=
        cursor.length_rest_skipComments_le
      simp only [rest_advance, List.length_drop]
      omega
  | case2 => simp at outlined
  | case3 cursor entry rest opened content next read =>
      rename_i inductionHypothesis
      simp only [Option.map_eq_some_iff, Prod.mk.injEq] at outlined
      obtain ⟨⟨innerCells, innerClosing, last⟩, innerOutlined, _, rfl, rfl⟩ := outlined
      have toEntry : entry.rest.length ≤ cursor.rest.length :=
        cursor.length_rest_skipComments_le
      have throughCell := length_rest_balancedThrough?_le read
      have throughOthers := inductionHypothesis innerOutlined
      simp only [rest_advance, List.length_drop] at throughCell
      exact Nat.le_trans throughOthers (by omega)
  | case4 => simp at outlined

/-- Outline the rows of a table, up to the bracket that closes it. -/
def outlineRows? (cursor : Cursor) : Option TableOutline :=
  let entry := cursor.skipComments
  match _opened : entry.rest with
  | ']' :: _ => some { rows := [], closing := entry.offset }
  | '[' :: _ =>
      match _outlined : (entry.advance 1).outlineCells? with
      | none => none
      | some (cells, closing, next) =>
          (outlineRows? next).map fun table =>
            { table with
              rows := { start := entry.offset, cells := cells, closing := closing } :: table.rows }
  | _ => none
termination_by cursor.rest.length
decreasing_by
  have throughRow := length_rest_outlineCells?_le _outlined
  have toEntry : entry.rest.length ≤ cursor.rest.length :=
    cursor.length_rest_skipComments_le
  have total := congrArg List.length _opened
  simp only [rest_advance, List.length_drop, List.length_cons] at *
  omega

/-- Read the title of a table, up to the end of the line or the first row with a cell. -/
def tableTitle (cursor : Cursor) : String × Cursor :=
  let startsRow (content : List Char) : Bool := content.head? == some '['
  let length := titleLength startsRow 0 cursor.rest
  (String.ofList (cursor.rest.take length), cursor.advance length)

/-- Characters of an identifier that is given behind a colon. -/
def isIdCharacter (character : Char) : Bool :=
  !(Text.isBlank character || character == ']')

/-- Read an identifier behind a colon, if there is a colon. -/
def givenId? (cursor : Cursor) : Option (Option String × Cursor) :=
  match cursor.character? ':' with
  | some next =>
      (next.runOf? isIdCharacter).map fun (identifier, after) => (some identifier, after)
  | none => some (none, cursor)

/-- Read a keyword that may be followed by an identifier. -/
def keywordWithId? (cursor : Cursor) (expected : String) : Option (Option String × Cursor) :=
  ((cursor.literal? expected).bind givenId?).filter fun (_, next) => next.isAfterKeyword

end Cursor

namespace Table

open Compile

/-- The title of a table as a phrase of its own, if it is not blank. -/
def titlePhrase (inner : Inner) (position : Position) (title : String) : Compile Bool := do
  if Text.isBlankText title then
    return true
  else
    update fun state => state.startElement "title"
    let source : Source :=
      { text := Text.trimmed title, name := position.file, origin := some position }
    if ← inner.expansion source then
      update fun state => state.endElement "title"
      return true
    else
      return false

/-- A cell, inside an element or not. -/
def cell (inner : Inner) (name : Option String) : Rule := fun cursor => do
  let content := (cursor.skipComments.advance 1).skipHorizontal
  match name with
  | some element => update fun state => state.startElement element
  | none => pure ()
  match ← Phrase.nested inner content with
  | none => return none
  | some next =>
      match name with
      | some element => update fun state => state.endElement element
      | none => pure ()
      return next.close?

/-- Cells that follow one another, as many as are outlined. -/
def cells (inner : Inner) (name : Option String) : List Nat → Rule
  | [], cursor => return some cursor
  | _ :: others, cursor => do
      match ← cell inner name cursor with
      | some next => cells inner name others next
      | none => return none

/-- The closing bracket that comes after white space and comments. -/
def closing (cursor : Cursor) : Option Cursor :=
  cursor.skipComments.close?

/-- A row of a table with as many columns as its first row has cells. -/
def row (inner : Inner) (columns : Nat) (outline : RowOutline) : Rule := fun cursor => do
  let entry := cursor.skipComments
  update fun state =>
    (state.checkRow entry.position outline.cells.length columns).startElement "row"
  match ← cells inner (some "entry") outline.cells (entry.advance 1) with
  | none => return none
  | some next =>
      match closing next with
      | none => return none
      | some after =>
          update fun state => state.endElement "row"
          return some after

/-- Rows that follow one another. -/
def rows (inner : Inner) (columns : Nat) : List RowOutline → Rule
  | [], cursor => return some cursor
  | outline :: others, cursor => do
      match ← row inner columns outline cursor with
      | some next => rows inner columns others next
      | none => return none

/-- A group of rows. -/
def group (inner : Inner) (columns : Nat) (name : String) (outlines : List RowOutline) : Rule :=
  fun cursor => do
    update fun state => state.startElement name
    match ← rows inner columns outlines cursor with
    | none => return none
    | some next =>
        update fun state => state.endElement name
        return some next

/-- The groups of a table: its first row is the head if there are others. -/
def groups (inner : Inner) (columns : Nat) (outlines : List RowOutline) : Rule := fun cursor => do
  match outlines with
  | first :: second :: others =>
      match ← group inner columns "thead" [first] cursor with
      | some next => group inner columns "tbody" (second :: others) next
      | none => return none
  | _ => group inner columns "tbody" outlines cursor

/-- The rows of a table, in groups; without rows there is nothing. -/
def body (inner : Inner) (outlines : List RowOutline) : Rule := fun cursor => do
  match outlines with
  | [] => return some cursor
  | first :: _ =>
      let columns := first.cells.length
      update fun state => state.startElement "tgroup" [("cols", toString columns)]
      match ← groups inner columns outlines cursor with
      | none => return none
      | some next =>
          update fun state => state.endElement "tgroup"
          return some next

/-- A table. -/
def rule (inner : Inner) : Rule := fun cursor => do
  match cursor.keywordWithId? "[table" with
  | none => return none
  | some (given, afterKeyword) =>
      let titleStart := afterKeyword.skipHorizontal
      let (title, afterTitle) := titleStart.tableTitle
      match afterTitle.outlineRows? with
      | none => return none
      | some outline =>
          let hasTitle := !Text.isBlankText title
          update fun state => state.beginTable given (Text.trimmed title) hasTitle
          if ← titlePhrase inner titleStart.position title then
            match ← body inner outline.rows afterTitle with
            | none => return none
            | some next =>
                match closing next with
                | none => return none
                | some after =>
                    update fun state => state.endElement (CompilerState.tableElement hasTitle)
                    return some after
          else
            return none

/-- An entry of a list of variables: a term, and what it means. -/
def variableEntry (inner : Inner) (outline : RowOutline) : Rule := fun cursor => do
  let entry := cursor.skipComments
  update fun state =>
    ((state.checkVariable entry.position outline.cells.length).startElement
      "varlistentry").startElement "term"
  match ← cells inner none (outline.cells.take 1) (entry.advance 1) with
  | none => return none
  | some afterTerm =>
      update fun state =>
        ((state.endElement "term").startElement "listitem").startElement "simpara"
      match ← cells inner none (outline.cells.drop 1) afterTerm with
      | none => return none
      | some next =>
          update fun state =>
            ((state.endElement "simpara").endElement "listitem").endElement "varlistentry"
          return closing next

/-- Entries of a list of variables that follow one another. -/
def variableEntries (inner : Inner) : List RowOutline → Rule
  | [], cursor => return some cursor
  | outline :: others, cursor => do
      match ← variableEntry inner outline cursor with
      | some next => variableEntries inner others next
      | none => return none

/-- A list of variables. -/
def variableList (inner : Inner) : Rule := fun cursor => do
  match cursor.keyword? "[variablelist" with
  | none => return none
  | some afterKeyword =>
      let titleStart := afterKeyword.skipHorizontal
      let (title, afterTitle) := titleStart.tableTitle
      match afterTitle.outlineRows? with
      | none => return none
      | some outline =>
          update fun state => state.startElement "variablelist"
          if ← titlePhrase inner titleStart.position title then
            match ← variableEntries inner outline.rows afterTitle with
            | none => return none
            | some next =>
                match closing next with
                | none => return none
                | some after =>
                    update fun state => state.endElement "variablelist"
                    return some after
          else
            return none

end Table

end DocMarkup
