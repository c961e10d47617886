import DocMarkup.Grammar.Table
import DocMarkup.Proofs.Compiler.Ends
import DocMarkup.Proofs.Grammar.Alignment
import DocMarkup.Proofs.Grammar.Leading

namespace DocMarkup

/-!
# Reading along an outline

The rows and cells of a table are found by counting brackets, and then read as
phrases without another look at the brackets that open them. A watch compares the
two: it looks for the bracket of the outline wherever a row or a cell is to start
and wherever a row or the whole table is to be closed. The watch is never alarmed if
the brackets in the cells are read as they are counted, so reading goes exactly along
the outline then.
-/

/-- The cells of an outlined row count as they are read. -/
def RowOutline.CountsAlike (source : Source) (outline : RowOutline) : Prop :=
  ∀ start ∈ outline.cells, (source.cursorAt (start + 1)).ContentCountsAlike

/-- The cells of an outlined table count as they are read. -/
def TableOutline.CountsAlike (source : Source) (outline : TableOutline) : Prop :=
  ∀ row ∈ outline.rows, row.CountsAlike source

instance (source : Source) (outline : RowOutline) : Decidable (outline.CountsAlike source) :=
  List.decidableBAll _ _

instance (source : Source) (outline : TableOutline) : Decidable (outline.CountsAlike source) :=
  List.decidableBAll _ _

namespace Cursor

variable {cursor next last : Cursor} {starts : List Nat}

/-- Behind white space and comments, a bracket comes next at an offset. -/
def StandsBefore (bracket : Char) (offset : Nat) (cursor : Cursor) : Prop :=
  cursor.skipComments.offset = offset ∧ cursor.skipComments.isBefore bracket = true

instance (bracket : Char) (offset : Nat) (cursor : Cursor) :
    Decidable (cursor.StandsBefore bracket offset) :=
  inferInstanceAs (Decidable (_ ∧ _))

/-- Cells that count as they are read follow one another, from one cursor to another. -/
inductive HoldsCells : Cursor → List Nat → Cursor → Prop where
  | nil (cursor : Cursor) : HoldsCells cursor [] cursor
  | cons
      {cursor next last : Cursor}
      {start : Nat}
      {starts : List Nat}
      {content : String}
      (stands : cursor.StandsBefore '[' start)
      (alike : (cursor.skipComments.advance 1).ContentCountsAlike)
      (read : (cursor.skipComments.advance 1).balancedThrough? = some (content, next))
      (others : HoldsCells next starts last) :
      HoldsCells cursor (start :: starts) last

/-- A row of such cells is opened and closed at the places of its outline. -/
structure HoldsRow (outline : RowOutline) (cursor last next : Cursor) : Prop where
  start : cursor.StandsBefore '[' outline.start
  cells : HoldsCells (cursor.skipComments.advance 1) outline.cells last
  closing : last.StandsBefore ']' outline.closing
  next : next = last.skipComments.advance 1

/-- Such rows follow one another, from one cursor to another. -/
inductive HoldsRows : Cursor → List RowOutline → Cursor → Prop where
  | nil (cursor : Cursor) : HoldsRows cursor [] cursor
  | cons
      {cursor behindCells next last : Cursor}
      {outline : RowOutline}
      {outlines : List RowOutline}
      (row : HoldsRow outline cursor behindCells next)
      (others : HoldsRows next outlines last) :
      HoldsRows cursor (outline :: outlines) last

/-- A bracket that remains stands there at its own offset. -/
theorem standsBefore_of_rest
    {bracket : Char}
    {rest : List Char}
    (remaining : cursor.skipComments.rest = bracket :: rest) :
    cursor.StandsBefore bracket cursor.skipComments.offset :=
  ⟨rfl, by simp [isBefore, remaining]⟩

/-- One character further on, the offset is one more. -/
private theorem eq_cursorAt_of_rest
    {first : Char}
    {rest : List Char}
    (remaining : cursor.rest = first :: rest) :
    cursor.advance 1 = cursor.source.cursorAt (cursor.offset + 1) :=
  eq_of_offset rfl (by simp [advance, remaining, Source.cursorAt])

/-- The closing bracket that is there is read. -/
theorem closing_of_standsBefore
    {offset : Nat}
    (stands : cursor.StandsBefore ']' offset) :
    Table.closing cursor = some (cursor.skipComments.advance 1) := by
  simp [Table.closing, close?, character?, stands.2]

/-- The outline of the table that starts at a cursor, if there is one. -/
def tableOutline? (cursor : Cursor) : Option TableOutline :=
  (cursor.keywordWithId? "[table").bind fun found =>
    found.2.skipHorizontal.tableTitle.2.outlineRows?

/-- The outline of the list of variables that starts at a cursor, if there is one. -/
def variableOutline? (cursor : Cursor) : Option TableOutline :=
  (cursor.keyword? "[variablelist").bind fun afterKeyword =>
    afterKeyword.skipHorizontal.tableTitle.2.outlineRows?

/-- What is outlined as the cells of a row follows one another, up to the end of the row. -/
theorem exists_holdsCells
    {closing : Nat}
    (outlined : cursor.outlineCells? = some (starts, closing, next))
    (alike : ∀ start ∈ starts, (cursor.source.cursorAt (start + 1)).ContentCountsAlike) :
    ∃ last,
      HoldsCells cursor starts last ∧ last.StandsBefore ']' closing ∧
        next = last.skipComments.advance 1 := by
  fun_induction outlineCells? cursor generalizing starts closing next with
  | case1 cursor entry rest =>
      rename_i opened
      simp only [Option.some.injEq, Prod.mk.injEq] at outlined
      obtain ⟨rfl, rfl, rfl⟩ := outlined
      exact ⟨cursor, .nil cursor, standsBefore_of_rest opened, rfl⟩
  | case2 => simp at outlined
  | case3 cursor entry rest opened content behind read =>
      rename_i inductionHypothesis
      simp only [Option.map_eq_some_iff, Prod.mk.injEq] at outlined
      obtain ⟨⟨others, innerClosing, after⟩, innerOutlined, rfl, rfl, rfl⟩ := outlined
      rw [List.forall_mem_cons] at alike
      have sameSource : behind.source = cursor.source :=
        (Leads.balancedThrough? read).source
      rw [sameSource] at inductionHypothesis
      obtain ⟨last, holds, stands, isNext⟩ := inductionHypothesis innerOutlined alike.2
      refine ⟨last, .cons (standsBefore_of_rest opened) ?_ read holds, stands, isNext⟩
      rw [eq_cursorAt_of_rest opened]
      exact alike.1
  | case4 => simp at outlined

/-- Cells lead to a cursor of the same source. -/
theorem HoldsCells.source (holds : HoldsCells cursor starts last) :
    last.source = cursor.source := by
  induction holds with
  | nil => rfl
  | cons _ _ read _ inductionHypothesis =>
      exact inductionHypothesis.trans (Leads.balancedThrough? read).source

/-- What is outlined as the rows of a table follows one another, up to the end of the table. -/
theorem exists_holdsRows
    {outline : TableOutline}
    (outlined : cursor.outlineRows? = some outline)
    (alike : outline.CountsAlike cursor.source) :
    ∃ last, HoldsRows cursor outline.rows last ∧ last.StandsBefore ']' outline.closing := by
  fun_induction outlineRows? cursor generalizing outline with
  | case1 cursor entry rest =>
      rename_i opened
      obtain rfl := Option.some.inj outlined
      exact ⟨cursor, .nil cursor, standsBefore_of_rest opened⟩
  | case2 => simp at outlined
  | case3 cursor entry rest opened cells closing behind cellsOutlined =>
      rename_i inductionHypothesis
      obtain ⟨table, othersOutlined, rfl⟩ := Option.map_eq_some_iff.mp outlined
      have alikeRows := List.forall_mem_cons.mp alike
      obtain ⟨last, holdsCells, stands, rfl⟩ := exists_holdsCells cellsOutlined alikeRows.1
      have sameSource : (last.skipComments.advance 1).source = cursor.source :=
        holdsCells.source
      rw [sameSource] at inductionHypothesis
      obtain ⟨lastRow, holdsRows, standsRow⟩ := inductionHypothesis othersOutlined alikeRows.2
      exact
        ⟨lastRow, .cons ⟨standsBefore_of_rest opened, holdsCells, stands, rfl⟩ holdsRows, standsRow⟩
  | case4 => simp at outlined

end Cursor

namespace Table

open Compile Cursor

/-! ## The rules under a watch -/

/-- Go on only if a bracket comes next at an offset; raise the alarm otherwise. -/
def expect (bracket : Char) (offset : Nat) (cursor : Cursor) : Compile Unit :=
  if cursor.StandsBefore bracket offset then pure () else throw alarm

/-- What is expected and there makes no difference. -/
theorem expect_bind
    {bracket : Char}
    {offset : Nat}
    {cursor : Cursor}
    (stands : cursor.StandsBefore bracket offset)
    (next : Unit → Compile α) :
    (expect bracket offset cursor >>= next) = next () := by
  rw [expect, if_pos stands]
  rfl

namespace Watched

/-- Cells that start where they are outlined. -/
def cells (inner : Inner) (name : Option String) : List Nat → Rule
  | [], cursor => return some cursor
  | start :: others, cursor => do
      expect '[' start cursor
      match ← cell inner name cursor with
      | some next => cells inner name others next
      | none => return none

/-- A row that starts and is closed where it is outlined, and so are its cells. -/
def row (inner : Inner) (columns : Nat) (outline : RowOutline) : Rule := fun cursor => do
  expect '[' outline.start cursor
  let entry := cursor.skipComments
  update fun state =>
    (state.checkRow entry.position outline.cells.length columns).startElement "row"
  match ← cells inner (some "entry") outline.cells (entry.advance 1) with
  | none => return none
  | some next => do
      expect ']' outline.closing next
      match closing next with
      | none => return none
      | some after =>
          update fun state => state.endElement "row"
          return some after

/-- Such rows, one after another. -/
def rows (inner : Inner) (columns : Nat) : List RowOutline → Rule
  | [], cursor => return some cursor
  | outline :: others, cursor => do
      match ← row inner columns outline cursor with
      | some next => rows inner columns others next
      | none => return none

/-- A group of such rows. -/
def group (inner : Inner) (columns : Nat) (name : String) (outlines : List RowOutline) : Rule :=
  fun cursor => do
    update fun state => state.startElement name
    match ← rows inner columns outlines cursor with
    | none => return none
    | some next =>
        update fun state => state.endElement name
        return some next

/-- The groups of such rows. -/
def groups (inner : Inner) (columns : Nat) (outlines : List RowOutline) : Rule := fun cursor => do
  match outlines with
  | first :: second :: others =>
      match ← group inner columns "thead" [first] cursor with
      | some next => group inner columns "tbody" (second :: others) next
      | none => return none
  | _ => group inner columns "tbody" outlines cursor

/-- All rows of a table. -/
def body (inner : Inner) (outlines : List RowOutline) : Rule := fun cursor => do
  match outlines with
  | [] => return some cursor
  | first :: _ =>
      let columns := first.cells.length
      update fun state => state.startElement "tgroup" [("cols", toString columns)]
      match ← groups inner columns outlines cursor with
      | none => return none
      | some next =>
          update fun state => state.endElement "tgroup"
          return some next

/-- A table that is closed where it is outlined, as are its rows and cells. -/
def rule (inner : Inner) : Rule := fun cursor => do
  match cursor.keywordWithId? "[table" with
  | none => return none
  | some (given, afterKeyword) =>
      let titleStart := afterKeyword.skipHorizontal
      let (title, afterTitle) := titleStart.tableTitle
      match afterTitle.outlineRows? with
      | none => return none
      | some outline =>
          let hasTitle := !Text.isBlankText title
          update fun state => state.beginTable given (Text.trimmed title) hasTitle
          if ← titlePhrase inner titleStart.position title then
            match ← body inner outline.rows afterTitle with
            | none => return none
            | some next => do
                expect ']' outline.closing next
                match closing next with
                | none => return none
                | some after =>
                    update fun state => state.endElement (CompilerState.tableElement hasTitle)
                    return some after
          else
            return none

/-- An entry of a list of variables that is read along its outline. -/
def variableEntry (inner : Inner) (outline : RowOutline) : Rule := fun cursor => do
  expect '[' outline.start cursor
  let entry := cursor.skipComments
  update fun state =>
    ((state.checkVariable entry.position outline.cells.length).startElement
      "varlistentry").startElement "term"
  match ← cells inner none (outline.cells.take 1) (entry.advance 1) with
  | none => return none
  | some afterTerm =>
      update fun state =>
        ((state.endElement "term").startElement "listitem").startElement "simpara"
      match ← cells inner none (outline.cells.drop 1) afterTerm with
      | none => return none
      | some next => do
          expect ']' outline.closing next
          update fun state =>
            ((state.endElement "simpara").endElement "listitem").endElement "varlistentry"
          return closing next

/-- Such entries, one after another. -/
def variableEntries (inner : Inner) : List RowOutline → Rule
  | [], cursor => return some cursor
  | outline :: others, cursor => do
      match ← variableEntry inner outline cursor with
      | some next => variableEntries inner others next
      | none => return none

/-- A list of variables that is closed where it is outlined, as are its entries. -/
def variableList (inner : Inner) : Rule := fun cursor => do
  match cursor.keyword? "[variablelist" with
  | none => return none
  | some afterKeyword =>
      let titleStart := afterKeyword.skipHorizontal
      let (title, afterTitle) := titleStart.tableTitle
      match afterTitle.outlineRows? with
      | none => return none
      | some outline =>
          update fun state => state.startElement "variablelist"
          if ← titlePhrase inner titleStart.position title then
            match ← variableEntries inner outline.rows afterTitle with
            | none => return none
            | some next => do
                expect ']' outline.closing next
                match closing next with
                | none => return none
                | some after =>
                    update fun state => state.endElement "variablelist"
                    return some after
          else
            return none

end Watched

/-! ## Cells and rows end where they are outlined -/

variable {inner : Inner} {cursor next last : Cursor} {name : Option String} {starts : List Nat}
  {columns : Nat} {outline : RowOutline} {outlines : List RowOutline}

/-- A cell ends behind the bracket that is counted for it. -/
theorem cell_goesTo
    {content : String}
    (follows : inner.FollowsCount)
    (alike : (cursor.skipComments.advance 1).ContentCountsAlike)
    (read : (cursor.skipComments.advance 1).balancedThrough? = some (content, next)) :
    GoesTo (cell inner name cursor) next := by
  obtain ⟨atBracket, closed, rfl⟩ := IsClosedAt.exists_of_balancedThrough? alike read
  have contentGoes :=
    Phrase.nested_goesTo follows (closed.passes (Passes.refl _).skipHorizontal)
  unfold cell
  cases name with
  | none =>
      exact contentGoes.bind GoesTo.none (Phrase.close_goesTo closed)
  | some element =>
      exact .then_ fun _ => contentGoes.bind GoesTo.none
        (.then_ fun _ => Phrase.close_goesTo closed)

/-- Cells lead where they are outlined to end. -/
theorem cells_goesTo
    (follows : inner.FollowsCount)
    (holds : HoldsCells cursor starts last) :
    GoesTo (cells inner name starts cursor) last := by
  induction holds with
  | nil => exact .some
  | cons _ alike read _ inductionHypothesis =>
      exact (cell_goesTo follows alike read).bind GoesTo.none inductionHypothesis

/-- A watch on cells is not alarmed. -/
theorem watchedCells_eq
    (follows : inner.FollowsCount)
    (holds : HoldsCells cursor starts last) :
    Watched.cells inner name starts cursor = cells inner name starts cursor := by
  induction holds with
  | nil => rfl
  | cons stands alike read _ inductionHypothesis =>
      rw [Watched.cells, cells, expect_bind stands]
      exact (cell_goesTo follows alike read).bind_congr rfl inductionHypothesis

/-- A row leads behind its closing bracket. -/
theorem row_goesTo
    (follows : inner.FollowsCount)
    (holds : HoldsRow outline cursor last next) :
    GoesTo (row inner columns outline cursor) next := by
  refine .then_ fun _ => (cells_goesTo follows holds.cells).bind GoesTo.none ?_
  simp only [closing_of_standsBefore holds.closing, holds.next]
  exact .then_ fun _ => GoesTo.some

/-- A watch on a row is not alarmed. -/
theorem watchedRow_eq
    (follows : inner.FollowsCount)
    (holds : HoldsRow outline cursor last next) :
    Watched.row inner columns outline cursor = row inner columns outline cursor := by
  rw [Watched.row, row, expect_bind holds.start]
  simp only [watchedCells_eq follows holds.cells]
  congr 1
  funext _
  exact (cells_goesTo follows holds.cells).bind_congr rfl (expect_bind holds.closing _)

/-- Rows lead where they are outlined to end. -/
theorem rows_goesTo
    (follows : inner.FollowsCount)
    (holds : HoldsRows cursor outlines last) :
    GoesTo (rows inner columns outlines cursor) last := by
  induction holds with
  | nil => exact .some
  | cons row _ inductionHypothesis =>
      exact (row_goesTo follows row).bind GoesTo.none inductionHypothesis

/-- A watch on rows is not alarmed. -/
theorem watchedRows_eq
    (follows : inner.FollowsCount)
    (holds : HoldsRows cursor outlines last) :
    Watched.rows inner columns outlines cursor = rows inner columns outlines cursor := by
  induction holds with
  | nil => rfl
  | cons row _ inductionHypothesis =>
      rw [Watched.rows, rows, watchedRow_eq follows row]
      exact (row_goesTo follows row).bind_congr rfl inductionHypothesis

/-! ## Tables -/

/-- A group of rows leads where the rows lead. -/
theorem group_goesTo
    {element : String}
    (follows : inner.FollowsCount)
    (holds : HoldsRows cursor outlines last) :
    GoesTo (group inner columns element outlines cursor) last :=
  .then_ fun _ => (rows_goesTo follows holds).bind GoesTo.none (.then_ fun _ => GoesTo.some)

/-- A watch on a group of rows is not alarmed. -/
theorem watchedGroup_eq
    {element : String}
    (follows : inner.FollowsCount)
    (holds : HoldsRows cursor outlines last) :
    Watched.group inner columns element outlines cursor =
      group inner columns element outlines cursor := by
  simp only [Watched.group, watchedRows_eq follows holds]
  rfl

/-- The rows of a table lead where they lead without their groups. -/
theorem groups_goesTo
    (follows : inner.FollowsCount)
    (holds : HoldsRows cursor outlines last) :
    GoesTo (groups inner columns outlines cursor) last := by
  match outlines, holds with
  | [], holds => exact group_goesTo follows holds
  | [_], holds => exact group_goesTo follows holds
  | _ :: _ :: _, .cons row others =>
      exact (group_goesTo follows (.cons row (.nil _))).bind GoesTo.none
        (group_goesTo follows others)

/-- A watch on the groups is not alarmed. -/
theorem watchedGroups_eq
    (follows : inner.FollowsCount)
    (holds : HoldsRows cursor outlines last) :
    Watched.groups inner columns outlines cursor = groups inner columns outlines cursor := by
  match outlines, holds with
  | [], holds => exact watchedGroup_eq follows holds
  | [_], holds => exact watchedGroup_eq follows holds
  | _ :: _ :: _, .cons row others =>
      have head := HoldsRows.cons row (.nil _)
      simp only [Watched.groups, groups, watchedGroup_eq follows head]
      exact (group_goesTo follows head).bind_congr rfl (watchedGroup_eq follows others)

/-- The body of a table leads where its rows lead. -/
theorem body_goesTo
    (follows : inner.FollowsCount)
    (holds : HoldsRows cursor outlines last) :
    GoesTo (body inner outlines cursor) last := by
  unfold body
  split
  next =>
    cases holds
    exact .some
  next first others =>
    exact .then_ fun _ => (groups_goesTo follows holds).bind GoesTo.none
      (.then_ fun _ => GoesTo.some)

/-- A watch on the body is not alarmed. -/
theorem watchedBody_eq
    (follows : inner.FollowsCount)
    (holds : HoldsRows cursor outlines last) :
    Watched.body inner outlines cursor = body inner outlines cursor := by
  unfold Watched.body
  split
  next => rfl
  next first others =>
    simp only [watchedGroups_eq follows holds]
    rfl

/-- A watch on a table is not alarmed if the cells count as they are read. -/
theorem watchedRule_eq
    (follows : inner.FollowsCount)
    (alike : ∀ outline ∈ cursor.tableOutline?, outline.CountsAlike cursor.source) :
    Watched.rule inner cursor = rule inner cursor := by
  unfold Watched.rule rule
  cases opened : cursor.keywordWithId? "[table" with
  | none => rfl
  | some found =>
      simp only
      cases outlined : found.2.skipHorizontal.tableTitle.2.outlineRows? with
      | none => rfl
      | some outline =>
          have sameSource : found.2.skipHorizontal.tableTitle.2.source = cursor.source :=
            (((Leads.keywordWithId? opened).skipHorizontal).trans (Leads.tableTitle _)).source
          have isOutline : cursor.tableOutline? = some outline := by
            rw [tableOutline?, opened, Option.bind_some, outlined]
          obtain ⟨last, holds, stands⟩ :=
            exists_holdsRows outlined (sameSource ▸ alike outline isOutline)
          simp only [watchedBody_eq follows holds]
          refine Gives.bind_congr (Gives.any _) fun _ _ => ?_
          refine Gives.bind_congr (Gives.any _) fun titled _ => ?_
          cases titled with
          | false => rfl
          | true => exact (body_goesTo follows holds).bind_congr rfl (expect_bind stands _)

/-! ## Lists of variables -/

/-- The first cell of an entry is its term, the others are its meaning. -/
private theorem HoldsCells.exists_term (holds : HoldsCells cursor starts last) :
    ∃ behindTerm,
      HoldsCells cursor (starts.take 1) behindTerm ∧
        HoldsCells behindTerm (starts.drop 1) last := by
  cases holds with
  | nil => exact ⟨cursor, .nil _, .nil _⟩
  | cons stands alike read others => exact ⟨_, .cons stands alike read (.nil _), others⟩

/-- An entry leads behind its closing bracket. -/
theorem variableEntry_goesTo
    (follows : inner.FollowsCount)
    (holds : HoldsRow outline cursor last next) :
    GoesTo (variableEntry inner outline cursor) next := by
  obtain ⟨behindTerm, term, meaning⟩ := HoldsCells.exists_term holds.cells
  refine .then_ fun _ => (cells_goesTo follows term).bind GoesTo.none ?_
  refine .then_ fun _ => (cells_goesTo follows meaning).bind GoesTo.none ?_
  simp only [closing_of_standsBefore holds.closing, holds.next]
  exact .then_ fun _ => GoesTo.some

/-- A watch on an entry is not alarmed. -/
theorem watchedVariableEntry_eq
    (follows : inner.FollowsCount)
    (holds : HoldsRow outline cursor last next) :
    Watched.variableEntry inner outline cursor = variableEntry inner outline cursor := by
  obtain ⟨behindTerm, term, meaning⟩ := HoldsCells.exists_term holds.cells
  rw [Watched.variableEntry, variableEntry, expect_bind holds.start]
  simp only [watchedCells_eq follows term]
  refine Gives.bind_congr (Gives.any _) fun _ _ => ?_
  refine (cells_goesTo follows term).bind_congr rfl ?_
  simp only [watchedCells_eq follows meaning]
  refine Gives.bind_congr (Gives.any _) fun _ _ => ?_
  exact (cells_goesTo follows meaning).bind_congr rfl (expect_bind holds.closing _)

/-- Entries lead where they are outlined to end. -/
theorem variableEntries_goesTo
    (follows : inner.FollowsCount)
    (holds : HoldsRows cursor outlines last) :
    GoesTo (variableEntries inner outlines cursor) last := by
  induction holds with
  | nil => exact .some
  | cons row _ inductionHypothesis =>
      exact (variableEntry_goesTo follows row).bind GoesTo.none inductionHypothesis

/-- A watch on entries is not alarmed. -/
theorem watchedVariableEntries_eq
    (follows : inner.FollowsCount)
    (holds : HoldsRows cursor outlines last) :
    Watched.variableEntries inner outlines cursor = variableEntries inner outlines cursor := by
  induction holds with
  | nil => rfl
  | cons row _ inductionHypothesis =>
      rw [Watched.variableEntries, variableEntries, watchedVariableEntry_eq follows row]
      exact (variableEntry_goesTo follows row).bind_congr rfl inductionHypothesis

/-- A watch on a list of variables is not alarmed if the cells count as they are read. -/
theorem watchedVariableList_eq
    (follows : inner.FollowsCount)
    (alike : ∀ outline ∈ cursor.variableOutline?, outline.CountsAlike cursor.source) :
    Watched.variableList inner cursor = variableList inner cursor := by
  unfold Watched.variableList variableList
  cases opened : cursor.keyword? "[variablelist" with
  | none => rfl
  | some afterKeyword =>
      simp only
      cases outlined : afterKeyword.skipHorizontal.tableTitle.2.outlineRows? with
      | none => rfl
      | some outline =>
          have sameSource :
              afterKeyword.skipHorizontal.tableTitle.2.source = cursor.source :=
            (((Leads.keyword? opened).skipHorizontal).trans (Leads.tableTitle _)).source
          have isOutline : cursor.variableOutline? = some outline := by
            rw [variableOutline?, opened, Option.bind_some, outlined]
          obtain ⟨last, holds, stands⟩ :=
            exists_holdsRows outlined (sameSource ▸ alike outline isOutline)
          simp only [watchedVariableEntries_eq follows holds]
          refine Gives.bind_congr (Gives.any _) fun _ _ => ?_
          refine Gives.bind_congr (Gives.any _) fun titled _ => ?_
          cases titled with
          | false => rfl
          | true =>
              exact (variableEntries_goesTo follows holds).bind_congr rfl (expect_bind stands _)

/-! ## Tables and lists of variables -/

/--
Tables and lists of variables of which the cells count as they are read are read along
their outlines: a watch on every place where a row or a cell starts and where a row or
the whole is closed makes no difference, from no workspace.
-/
theorem tables_follow_outlines (environment : Environment) (steps : Nat) (cursor : Cursor) :
    ((∀ outline ∈ cursor.tableOutline?, outline.CountsAlike cursor.source) →
        Watched.rule (.within environment steps) cursor =
          rule (.within environment steps) cursor) ∧
      ((∀ outline ∈ cursor.variableOutline?, outline.CountsAlike cursor.source) →
        Watched.variableList (.within environment steps) cursor =
          variableList (.within environment steps) cursor) :=
  ⟨watchedRule_eq (Inner.within_followsCount environment steps),
    watchedVariableList_eq (Inner.within_followsCount environment steps)⟩

/-- Styles, code without brackets, brackets behind backslashes and comments are no obstacle. -/
theorem table_with_styles_follows_outline :
    let source : Source :=
      { text := "[table T\n[[[*a]][`b` \\]]]\n[[/ c][d [e]][]]\n]", name := "main" }
    source.cursor.tableOutline? =
        some
          { rows :=
              [{ start := 9, cells := [10, 16], closing := 24 },
                { start := 26, cells := [32, 39], closing := 41 }]
            closing := 43 } ∧
      Watched.rule (.within withoutFiles 60) source.cursor =
          rule (.within withoutFiles 60) source.cursor ∧
        destination? {} (rule (.within withoutFiles 60) source.cursor) = some 44 := by
  intro source
  refine ⟨by decide +kernel, ?_, by decide +kernel⟩
  exact (tables_follow_outlines withoutFiles 60 source.cursor).1 (by decide +kernel)

/--
Code that holds a closing bracket is passed by a phrase and not by the count: two cells
are outlined, the first of them is read far beyond the bracket that closes the table, and
the table is read to its end all the same.
-/
theorem table_is_read_beyond_outline :
    let source : Source := { text := "[table [[`] [`]]\n]\n]\n]\n", name := "main" }
    source.cursor.tableOutline? =
        some { rows := [{ start := 7, cells := [8, 12], closing := 15 }], closing := 17 } ∧
      destination? {} (rule (.within withoutFiles 60) source.cursor) = some 22 ∧
        destination? {} (Watched.rule (.within withoutFiles 60) source.cursor) = none := by
  decide +kernel

end Table

end DocMarkup
