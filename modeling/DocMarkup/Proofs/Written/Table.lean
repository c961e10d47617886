import DocMarkup.Proofs.Written.Element

namespace DocMarkup

open Compile Text

/-!
# Tables where they are written

A table is written as a row of cells on each line, with a backslash before every
character of a cell. The rows are outlined as they are written, and reading along
the outline gives every cell with its text. The first row is the head if there are
others; it tells the number of columns, and every row of another length is an error.
-/

/-! ## Writing -/

namespace WrittenTable

/-- A cell as it is written. -/
def cell (content : String) : List Char :=
  ['['] ++ (backslashed content.toList ++ [']'])

/-- A row of cells as it is written on a line. -/
def line (cells : List String) : List Char :=
  ['['] ++ (cells.flatMap cell ++ [']', '\n'])

/-- A table as it is written: a keyword, a line for each row, and a bracket. -/
def table (rows : List (List String)) : List Char :=
  "[table\n".toList ++ (rows.flatMap line ++ [']'])

/-- A row of cells with the line feed before it instead of the one behind it. -/
def row (cells : List String) : List Char :=
  ['\n', '['] ++ (cells.flatMap cell ++ [']'])

/-- Each row takes the line feed before it, and the last one is before the bracket. -/
theorem table_eq_rows (rows : List (List String)) :
    table rows = "[table".toList ++ (rows.flatMap row ++ ['\n', ']']) := by
  have shifted : '\n' :: (rows.flatMap line ++ [']']) = rows.flatMap row ++ ['\n', ']'] := by
    induction rows with
    | nil =>
        rfl
    | cons first others inductionHypothesis =>
        rw [List.flatMap_cons, List.flatMap_cons, List.append_assoc, List.append_assoc,
          ← inductionHypothesis]
        simp [line, row]
  rw [← shifted]
  rfl

/-! ## What is written stands for -/

/-- The events of a cell. -/
def cellEvents (content : String) : List Event :=
  .opening "entry" [] :: (textEvents content ++ [.closing "entry"])

/-- The events of a row. -/
def rowEvents (cells : List String) : List Event :=
  .opening "row" [] :: (cells.flatMap cellEvents ++ [.closing "row"])

/-- The events of a group of rows. -/
def groupEvents (name : String) (rows : List (List String)) : List Event :=
  .opening name [] :: (rows.flatMap rowEvents ++ [.closing name])

/-- The events of the rows: the first one is the head if there are others. -/
def groupsEvents : List (List String) → List Event
  | first :: second :: others =>
      groupEvents "thead" [first] ++ groupEvents "tbody" (second :: others)
  | rows => groupEvents "tbody" rows

/-- The events of the body of a table: without rows there are none. -/
def bodyEvents : List (List String) → List Event
  | [] => []
  | first :: others =>
      .opening "tgroup" [("cols", toString first.length)] ::
        (groupsEvents (first :: others) ++ [.closing "tgroup"])

/-- The events of a table. -/
def events (rows : List (List String)) : List Event :=
  .opening "informaltable" [] :: (bodyEvents rows ++ [.closing "informaltable"])

/-- What is reported about a row at a position, if it has not as many cells as there are columns. -/
def rowErrors (position : Position) (cells columns : Nat) : List Diagnostic :=
  if cells = columns then
    []
  else
    [{ severity := .error
       kind := .structural
       message := "Table row has " ++ toString cells ++ " cells, expected " ++ toString columns
       file := position.file
       position := some position }]

/-- What is reported about rows in a source, the first of which starts at an offset. -/
def errors (source : Source) (columns : Nat) : Nat → List (List String) → List Diagnostic
  | _, [] => []
  | offset, cells :: others =>
      rowErrors (source.position (offset + 1)) cells.length columns ++
        errors source columns (offset + (row cells).length) others

/-- There is one error for each row of another length. -/
theorem length_errors (source : Source) (columns offset : Nat) (rows : List (List String)) :
    (errors source columns offset rows).length =
      rows.countP fun cells => cells.length != columns := by
  induction rows generalizing offset with
  | nil =>
      rfl
  | cons first others inductionHypothesis =>
      rw [errors, List.length_append, inductionHypothesis, List.countP_cons, Nat.add_comm]
      congr 1
      unfold rowErrors
      split <;> simp [*]

end WrittenTable

open WrittenTable

variable {environment : Environment} {before middle after : CompilerState} {inner : Inner}
  {cursor next : Cursor} {steps : Nat}

/-! ## Outlining -/

namespace Cursor

/-- At the closing bracket, a row has no more cells. -/
theorem outlineCells?_of_closing
    {rest : List Char}
    (remaining : cursor.skipComments.rest = ']' :: rest) :
    cursor.outlineCells? =
      some ([], cursor.skipComments.offset, cursor.skipComments.advance 1) := by
  rw [outlineCells?]
  simp only
  split
  next => rfl
  next opened => simp [remaining] at opened
  next => simp_all

/-- At an opening bracket, a cell is outlined, and then those behind it. -/
theorem outlineCells?_of_opening
    {rest : List Char}
    {content : String}
    (remaining : cursor.skipComments.rest = '[' :: rest)
    (read : (cursor.skipComments.advance 1).balancedThrough? = some (content, next)) :
    cursor.outlineCells? =
      (outlineCells? next).map fun (cells, closing, after) =>
        (cursor.skipComments.offset :: cells, closing, after) := by
  rw [outlineCells?]
  simp only
  split
  next closed => simp [remaining] at closed
  next =>
    split
    next notRead => simp [read] at notRead
    next found =>
      obtain ⟨_, rfl⟩ := Prod.mk.inj (Option.some.inj (read.symm.trans found))
      rfl
  next => simp_all

/-- At the closing bracket, a table has no more rows. -/
theorem outlineRows?_of_closing
    {rest : List Char}
    (remaining : cursor.skipComments.rest = ']' :: rest) :
    cursor.outlineRows? = some { rows := [], closing := cursor.skipComments.offset } := by
  rw [outlineRows?]
  split
  next => rfl
  next opened => simp [remaining] at opened
  next => simp_all

/-- At an opening bracket, a row is outlined, and then those behind it. -/
theorem outlineRows?_of_opening
    {rest : List Char}
    {starts : List Nat}
    {closing : Nat}
    (remaining : cursor.skipComments.rest = '[' :: rest)
    (outlined : (cursor.skipComments.advance 1).outlineCells? = some (starts, closing, next)) :
    cursor.outlineRows? =
      (outlineRows? next).map fun table =>
        { table with
          rows :=
            { start := cursor.skipComments.offset, cells := starts, closing := closing } ::
              table.rows } := by
  rw [outlineRows?]
  split
  next closed => simp [remaining] at closed
  next =>
    split
    next notOutlined => simp [outlined] at notOutlined
    next found =>
      obtain ⟨rfl, rest⟩ := Prod.mk.inj (Option.some.inj (outlined.symm.trans found))
      obtain ⟨rfl, rfl⟩ := Prod.mk.inj rest
      rfl
  next => simp_all

/-- Where a cell is written, how it is read. -/
structure ReadsCell (cursor : Cursor) (content : String) (next : Cursor) where
  inside : Cursor
  atBracket : Cursor
  skipped : cursor.skipComments = cursor
  readsBracket : cursor.Reads ['['] inside
  readsContent : inside.Reads (backslashed content.toList) atBracket
  closes : atBracket.Reads [']'] next

/-- What is behind the opening bracket of a cell is no blank and starts no comment. -/
private theorem stops_of_backslashed
    {behind : List Char}
    (content : String) :
    Stops isBlank (backslashed content.toList ++ ']' :: behind) ∧
      Stops isHorizontal (backslashed content.toList ++ ']' :: behind) ∧
        ['/'].isPrefixOf (backslashed content.toList ++ ']' :: behind) = false := by
  cases content.toList with
  | nil => exact ⟨.cons rfl _, .cons rfl _, rfl⟩
  | cons first rest => exact ⟨.cons rfl _, .cons rfl _, rfl⟩

/-- A cell is read as it is written. -/
theorem exists_readsCell
    {content : String}
    (reads : cursor.Reads (cell content) next) :
    Nonempty (ReadsCell cursor content next) := by
  obtain ⟨inside, readsBracket, readsInside⟩ := reads.split
  obtain ⟨atBracket, readsContent, closes⟩ := readsInside.split
  have remaining : cursor.rest = '[' :: (backslashed content.toList ++ ']' :: next.rest) := by
    simp [reads.rest_eq, cell]
  have skipped : cursor.skipComments = cursor := by
    refine (Reads.nil cursor).skipComments_eq rfl ?_ ?_
    · rw [remaining]
      exact .cons rfl _
    · rw [remaining, List.isPrefixOf_cons_cons, (stops_of_backslashed content).2.2, Bool.and_false]
  exact ⟨⟨inside, atBracket, skipped, readsBracket, readsContent, closes⟩⟩

/-- A cell ends behind its bracket by counting. -/
theorem ReadsCell.balancedThrough?_eq
    {content : String}
    (reads : ReadsCell cursor content next) :
    (cursor.skipComments.advance 1).balancedThrough? =
      some (String.ofList (backslashed content.toList), next) := by
  have closes : reads.atBracket.rest.head? = some ']' := by
    rw [reads.closes.rest_eq]
    rfl
  have isInside : cursor.skipComments.advance 1 = reads.inside := by
    rw [reads.skipped]
    exact reads.readsBracket.advance_eq
  rw [isInside, balancedThrough?,
    (isClosedByNext_backslashed content.toList).balanced?_eq reads.readsContent closes]
  simp only [reads.closes.close?_eq, Option.map_some]

/-- The cells of a row are outlined, up to the bracket that closes the row. -/
theorem outlineCells?_of_reads
    {contents : List String}
    (reads : cursor.Reads (contents.flatMap cell ++ [']']) next) :
    ∃ starts closing,
      cursor.outlineCells? = some (starts, closing, next) ∧ starts.length = contents.length := by
  induction contents generalizing cursor with
  | nil =>
      have reads : cursor.Reads [']'] next := reads
      have skipped : cursor.skipComments = cursor := by
        refine (Reads.nil cursor).skipComments_eq rfl ?_ ?_
        · rw [reads.rest_eq]
          exact .cons rfl _
        · rw [reads.rest_eq]
          rfl
      refine ⟨[], cursor.offset, ?_, rfl⟩
      have remaining : cursor.skipComments.rest = ']' :: next.rest := by
        rw [skipped, reads.rest_eq]
        rfl
      rw [outlineCells?_of_closing remaining, skipped]
      exact congrArg (fun after => some ([], cursor.offset, after)) reads.advance_eq
  | cons content others inductionHypothesis =>
      rw [List.flatMap_cons, List.append_assoc] at reads
      obtain ⟨behind, readsCell, readsOthers⟩ := reads.split
      obtain ⟨isCell⟩ := exists_readsCell readsCell
      obtain ⟨starts, closing, outlined, sameLength⟩ := inductionHypothesis readsOthers
      refine ⟨cursor.offset :: starts, closing, ?_, by simp [sameLength]⟩
      have opens : cursor.skipComments.rest = '[' :: isCell.inside.rest := by
        rw [isCell.skipped]
        exact isCell.readsBracket.rest_eq
      rw [outlineCells?_of_opening opens isCell.balancedThrough?_eq, outlined, isCell.skipped]
      rfl

/-- Where a row is written, how it is read. -/
structure ReadsRow (cursor : Cursor) (contents : List String) (next : Cursor) where
  entry : Cursor
  inside : Cursor
  behindCells : Cursor
  skipped : cursor.skipComments = entry
  offset : entry.offset = cursor.offset + 1
  source : entry.source = cursor.source
  readsBracket : entry.Reads ['['] inside
  readsCells : inside.Reads (contents.flatMap cell) behindCells
  closes : behindCells.Reads [']'] next

/-- A row is read as it is written. -/
theorem exists_readsRow
    {contents : List String}
    (reads : cursor.Reads (row contents) next) :
    Nonempty (ReadsRow cursor contents next) := by
  have reads : cursor.Reads (['\n'] ++ (['['] ++ (contents.flatMap cell ++ [']']))) next := reads
  obtain ⟨entry, readsLineFeed, readsRow⟩ := reads.split
  obtain ⟨inside, readsBracket, readsInside⟩ := readsRow.split
  obtain ⟨behindCells, readsCells, closes⟩ := readsInside.split
  refine
    ⟨⟨entry, inside, behindCells, readsLineFeed.skipComments_eq rfl ?_ ?_, readsLineFeed.offset,
      readsLineFeed.source, readsBracket, readsCells, closes⟩⟩
  · rw [readsBracket.rest_eq]
    exact .cons rfl _
  · rw [readsRow.rest_eq]
    cases contents <;> rfl

/-- What comes behind the rows of a table: a bracket on a line of its own. -/
theorem skipComments_closing
    {atBracket : Cursor}
    (readsLineFeed : cursor.Reads ['\n'] atBracket)
    (closes : atBracket.Reads [']'] next) :
    cursor.skipComments = atBracket := by
  refine readsLineFeed.skipComments_eq rfl ?_ ?_
  · rw [closes.rest_eq]
    exact .cons rfl _
  · rw [closes.rest_eq]
    rfl

/-- The rows of a table are outlined with as many cells as they have. -/
theorem outlineRows?_of_reads
    {rows : List (List String)}
    (reads : cursor.Reads (rows.flatMap row ++ ['\n', ']']) next) :
    ∃ outline,
      cursor.outlineRows? = some outline ∧
        outline.rows.map (·.cells.length) = rows.map List.length := by
  induction rows generalizing cursor with
  | nil =>
      have reads : cursor.Reads (['\n'] ++ [']']) next := reads
      obtain ⟨atBracket, readsLineFeed, closes⟩ := reads.split
      have opens : cursor.skipComments.rest = ']' :: next.rest := by
        rw [skipComments_closing readsLineFeed closes]
        exact closes.rest_eq
      exact ⟨_, outlineRows?_of_closing opens, rfl⟩
  | cons contents others inductionHypothesis =>
      rw [List.flatMap_cons, List.append_assoc] at reads
      obtain ⟨behind, readsRow, readsOthers⟩ := reads.split
      obtain ⟨isRow⟩ := exists_readsRow readsRow
      obtain ⟨outline, outlined, sameLengths⟩ := inductionHypothesis readsOthers
      obtain ⟨starts, closing, cellsOutlined, sameLength⟩ :=
        outlineCells?_of_reads (isRow.readsCells.append isRow.closes)
      have opens : cursor.skipComments.rest = '[' :: isRow.inside.rest := by
        rw [isRow.skipped]
        exact isRow.readsBracket.rest_eq
      rw [← isRow.readsBracket.advance_eq, List.length_singleton, ← isRow.skipped] at cellsOutlined
      refine ⟨_, by rw [outlineRows?_of_opening opens cellsOutlined, outlined]; rfl, ?_⟩
      simp [sameLengths, sameLength]

end Cursor

/-! ## Reading along the outline -/

namespace WrittenTable

/-- A cell adds an entry with its text. -/
theorem cell_yields
    {content : String}
    (reads : Cursor.ReadsCell cursor content next)
    (room : before.phraseDepth < phraseLimit)
    (enough : (cell content).length < steps) :
    Yields before (Table.cell (Inner.within environment steps) (some "entry") cursor) (some next)
      (before.replay (cellEvents content)) := by
  have closes : reads.atBracket.rest.head? = some ']' := by
    rw [reads.closes.rest_eq]
    rfl
  have skipped : (cursor.skipComments.advance 1).skipHorizontal = reads.inside := by
    have isInside : cursor.skipComments.advance 1 = reads.inside := by
      rw [reads.skipped]
      exact reads.readsBracket.advance_eq
    rw [isInside]
    refine Cursor.skip_eq_self ?_
    rw [reads.readsContent.rest_eq, reads.closes.rest_eq]
    exact (Cursor.stops_of_backslashed content).2.1
  have isShorter : (BlockTree.writtenTitle content).length < steps := by
    simp only [cell, List.length_append, List.length_singleton] at enough
    rw [BlockTree.writtenTitle]
    omega
  let opened := before.startElement "entry"
  have isRead :
      Yields opened (Phrase.nested (Inner.within environment steps) reads.inside)
        (some reads.atBracket) (opened.text content) :=
    Phrase.nested_yields_text room
      ((Block.IsTitle.of_backslashed before.macros content).isRead environment reads.readsContent
        closes rfl isShorter)
  simp only [Table.cell, skipped]
  refine Yields.updateThen (isRead.bind (Yields.updateThen ?_))
  rw [reads.closes.close?_eq, cellEvents, ← CompilerState.leaf_eq_replay]
  exact .pure _

/-- Adding events leaves the depth of brackets. -/
private theorem phraseDepth_replay (state : CompilerState) (events : List Event) :
    (state.replay events).phraseDepth = state.phraseDepth := by
  rw [CompilerState.replay_eq]

/-- Adding events and reporting errors leaves the depth of brackets. -/
private theorem phraseDepth_withErrors
    (state : CompilerState)
    (events : List Event)
    (errors : List Diagnostic) :
    ((state.replay events).withErrors errors).phraseDepth = state.phraseDepth :=
  phraseDepth_replay state events

/-- As many cells as are outlined add their entries. -/
theorem cells_yields
    {contents : List String}
    {starts : List Nat}
    (sameLength : starts.length = contents.length)
    (reads : cursor.Reads (contents.flatMap cell) next)
    (room : before.phraseDepth < phraseLimit)
    (enough : (contents.flatMap cell).length < steps) :
    Yields before (Table.cells (Inner.within environment steps) (some "entry") starts cursor)
      (some next) (before.replay (contents.flatMap cellEvents)) := by
  induction contents generalizing starts cursor before with
  | nil =>
      obtain rfl := List.length_eq_zero_iff.mp sameLength
      rw [reads.unique (.nil cursor)]
      exact .pure _
  | cons content others inductionHypothesis =>
      obtain ⟨start, starts, rfl⟩ := List.exists_cons_of_length_eq_add_one sameLength
      rw [List.flatMap_cons] at reads enough
      rw [List.length_append] at enough
      obtain ⟨behind, readsCell, readsOthers⟩ := reads.split
      obtain ⟨isCell⟩ := Cursor.exists_readsCell readsCell
      rw [List.flatMap_cons, CompilerState.replay_append]
      refine (cell_yields isCell room (by omega)).bind ?_
      exact
        inductionHypothesis (Nat.succ.inj sameLength) readsOthers
          (by rwa [phraseDepth_replay]) (by omega)

/-- Checking a row reports what there is to be reported. -/
theorem checkRow_eq_withErrors
    (state : CompilerState)
    (position : Position)
    (cells columns : Nat) :
    state.checkRow position cells columns =
      state.withErrors (rowErrors position cells columns) := by
  unfold CompilerState.checkRow rowErrors
  split
  · rw [CompilerState.withErrors_nil]
  · simp [CompilerState.error, CompilerState.reportError, CompilerState.diagnose,
      CompilerState.withErrors]

/-- An element around events, of which some errors were reported. -/
private theorem endElement_withErrors
    (state : CompilerState)
    (name : String)
    (attributes : List Attribute)
    (events : List Event)
    (errors : List Diagnostic) :
    (((state.startElement name attributes).replay events).withErrors errors).endElement name =
      (state.replay (.opening name attributes :: (events ++ [.closing name]))).withErrors
        errors := by
  let inside := (state.startElement name attributes).replay events
  calc
    (inside.withErrors errors).replay [.closing name] =
        (inside.replay [.closing name]).withErrors errors :=
      CompilerState.replay_withErrors inside errors [.closing name]
    _ = _ := by
      rw [← CompilerState.replay_append]
      rfl

/-- A row adds its cells, and an error if it has another length than the first one. -/
theorem row_yields
    (environment : Environment)
    (before : CompilerState)
    (columns : Nat)
    {contents : List String}
    {outline : RowOutline}
    (sameLength : outline.cells.length = contents.length)
    (reads : Cursor.ReadsRow cursor contents next)
    (room : before.phraseDepth < phraseLimit)
    (enough : (row contents).length < steps) :
    Yields before (Table.row (Inner.within environment steps) columns outline cursor) (some next)
      ((before.replay (rowEvents contents)).withErrors
        (rowErrors (cursor.source.position (cursor.offset + 1)) contents.length columns)) := by
  have position : reads.entry.position = cursor.source.position (cursor.offset + 1) := by
    rw [Cursor.position_eq, reads.source, reads.offset]
  have isShorter : (contents.flatMap cell).length < steps := by
    simp only [row, List.length_append] at enough
    omega
  have isBehind : reads.behindCells.skipComments = reads.behindCells := by
    refine (Cursor.Reads.nil _).skipComments_eq rfl ?_ ?_
    · rw [reads.closes.rest_eq]
      exact .cons rfl _
    · rw [reads.closes.rest_eq]
      rfl
  let found := rowErrors (cursor.source.position (cursor.offset + 1)) contents.length columns
  have cells :
      Yields ((before.withErrors found).startElement "row")
        (Table.cells (Inner.within environment steps) (some "entry") outline.cells reads.inside)
        (some reads.behindCells) _ :=
    cells_yields sameLength reads.readsCells room isShorter
  have opened :
      (before.withErrors found).startElement "row" =
        (before.startElement "row").withErrors found :=
    CompilerState.replay_withErrors before found [.opening "row" []]
  rw [opened, CompilerState.replay_withErrors] at cells
  have isInside : reads.entry.advance 1 = reads.inside := reads.readsBracket.advance_eq
  simp only [Table.row, reads.skipped, position, sameLength, checkRow_eq_withErrors, isInside]
  refine Yields.updateThen ?_
  rw [opened]
  refine cells.bind ?_
  simp only [Table.closing, isBehind, reads.closes.close?_eq]
  refine Yields.updateThen ?_
  rw [endElement_withErrors]
  exact .pure _

/-- Rows add what each of them adds, and report what each of them reports. -/
theorem rows_yields
    (environment : Environment)
    (before : CompilerState)
    (columns : Nat)
    {rows : List (List String)}
    {outlines : List RowOutline}
    (sameLengths : outlines.map (·.cells.length) = rows.map List.length)
    (reads : cursor.Reads (rows.flatMap row) next)
    (room : before.phraseDepth < phraseLimit)
    (enough : (rows.flatMap row).length < steps) :
    Yields before (Table.rows (Inner.within environment steps) columns outlines cursor) (some next)
      ((before.replay (rows.flatMap rowEvents)).withErrors
        (errors cursor.source columns cursor.offset rows)) := by
  induction rows generalizing outlines cursor before with
  | nil =>
      obtain rfl := List.map_eq_nil_iff.mp sameLengths
      rw [reads.unique (.nil cursor), errors, CompilerState.withErrors_nil]
      exact .pure _
  | cons contents others inductionHypothesis =>
      obtain ⟨outline, outlines, rfl, sameLength, sameLengths⟩ :=
        List.map_eq_cons_iff.mp sameLengths
      rw [List.flatMap_cons] at reads enough
      rw [List.length_append] at enough
      obtain ⟨behind, readsRow, readsOthers⟩ := reads.split
      obtain ⟨isRow⟩ := Cursor.exists_readsRow readsRow
      have rowYields :=
        row_yields environment before columns sameLength isRow room
          (by omega : (row contents).length < steps)
      have othersYield :=
        inductionHypothesis
          ((before.replay (rowEvents contents)).withErrors
            (rowErrors (cursor.source.position (cursor.offset + 1)) contents.length columns))
          sameLengths readsOthers (by rwa [phraseDepth_withErrors]) (by omega)
      rw [CompilerState.replay_withErrors, ← CompilerState.replay_append,
        CompilerState.withErrors_withErrors, readsRow.source, readsRow.offset] at othersYield
      exact rowYields.bind othersYield

/-- A group of rows adds an element with these rows in it. -/
theorem group_yields
    (environment : Environment)
    (before : CompilerState)
    (columns : Nat)
    (name : String)
    {rows : List (List String)}
    {outlines : List RowOutline}
    (sameLengths : outlines.map (·.cells.length) = rows.map List.length)
    (reads : cursor.Reads (rows.flatMap row) next)
    (room : before.phraseDepth < phraseLimit)
    (enough : (rows.flatMap row).length < steps) :
    Yields before (Table.group (Inner.within environment steps) columns name outlines cursor)
      (some next)
      ((before.replay (groupEvents name rows)).withErrors
        (errors cursor.source columns cursor.offset rows)) := by
  have rowsYield :=
    rows_yields environment (before.startElement name) columns sameLengths reads room enough
  refine Yields.updateThen (rowsYield.bind (Yields.updateThen ?_))
  rw [endElement_withErrors]
  exact .pure _

/-- The rows of a table add their groups. -/
theorem groups_yields
    (environment : Environment)
    (before : CompilerState)
    (columns : Nat)
    {rows : List (List String)}
    {outlines : List RowOutline}
    (sameLengths : outlines.map (·.cells.length) = rows.map List.length)
    (reads : cursor.Reads (rows.flatMap row) next)
    (room : before.phraseDepth < phraseLimit)
    (enough : (rows.flatMap row).length < steps) :
    Yields before (Table.groups (Inner.within environment steps) columns outlines cursor)
      (some next)
      ((before.replay (groupsEvents rows)).withErrors
        (errors cursor.source columns cursor.offset rows)) := by
  match rows with
  | [] =>
      obtain rfl := List.map_eq_nil_iff.mp sameLengths
      exact group_yields environment before columns "tbody" sameLengths reads room enough
  | [_] =>
      obtain ⟨outline, outlines, rfl, _, noOthers⟩ := List.map_eq_cons_iff.mp sameLengths
      obtain rfl := List.map_eq_nil_iff.mp noOthers
      exact group_yields environment before columns "tbody" sameLengths reads room enough
  | first :: second :: others =>
      obtain ⟨outline, _, rfl, sameLength, sameLengths⟩ := List.map_eq_cons_iff.mp sameLengths
      obtain ⟨outlineSecond, outlines, rfl, _⟩ := List.map_eq_cons_iff.mp sameLengths
      rw [List.flatMap_cons] at reads enough
      rw [List.length_append] at enough
      obtain ⟨behind, readsFirst, readsOthers⟩ := reads.split
      have onlyFirst : [first].flatMap row = row first := List.append_nil _
      have sameLengthFirst :
          [outline].map (·.cells.length) = [first].map List.length := by
        rw [List.map_singleton, List.map_singleton, sameLength]
      have headYields :=
        group_yields environment before columns "thead" sameLengthFirst
          (by rwa [onlyFirst]) room (by rw [onlyFirst]; omega : _ < steps)
      have bodyYields :=
        group_yields environment
          ((before.replay (groupEvents "thead" [first])).withErrors
            (errors cursor.source columns cursor.offset [first]))
          columns "tbody" sameLengths readsOthers (by rwa [phraseDepth_withErrors])
          (by omega : _ < steps)
      rw [CompilerState.replay_withErrors, ← CompilerState.replay_append,
        CompilerState.withErrors_withErrors, readsFirst.source, readsFirst.offset] at bodyYields
      have inOrder :
          errors cursor.source columns cursor.offset (first :: second :: others) =
            errors cursor.source columns cursor.offset [first] ++
              errors cursor.source columns (cursor.offset + (row first).length)
                (second :: others) := by
        simp [errors]
      rw [inOrder]
      exact headYields.bind bodyYields

/-- The body of a table adds its groups, with as many columns as the first row has cells. -/
theorem body_yields
    (environment : Environment)
    (before : CompilerState)
    {rows : List (List String)}
    {outlines : List RowOutline}
    (sameLengths : outlines.map (·.cells.length) = rows.map List.length)
    (reads : cursor.Reads (rows.flatMap row) next)
    (room : before.phraseDepth < phraseLimit)
    (enough : (rows.flatMap row).length < steps) :
    Yields before (Table.body (Inner.within environment steps) outlines cursor) (some next)
      ((before.replay (bodyEvents rows)).withErrors
        (errors cursor.source (rows.headD []).length cursor.offset rows)) := by
  cases rows with
  | nil =>
      obtain rfl := List.map_eq_nil_iff.mp sameLengths
      rw [reads.unique (.nil cursor), errors, CompilerState.withErrors_nil]
      exact .pure _
  | cons first others =>
      obtain ⟨outline, outlines, rfl, sameLength, _⟩ := List.map_eq_cons_iff.mp sameLengths
      have groupsYield :=
        groups_yields environment
          (before.startElement "tgroup" [("cols", toString first.length)]) first.length
          sameLengths reads room enough
      simp only [Table.body, sameLength]
      refine Yields.updateThen (groupsYield.bind (Yields.updateThen ?_))
      rw [endElement_withErrors]
      exact .pure _

/-- Behind the keyword, the title of a table ends at the end of the line. -/
theorem tableTitle_eq
    {second : Char}
    {rest : List Char}
    (remaining : cursor.rest = '\n' :: second :: rest) :
    cursor.tableTitle = ("", cursor) := by
  have noTitle (startsRow : List Char → Bool) :
      titleLength startsRow 0 cursor.rest = 0 := by
    rw [remaining, titleLength]
    rfl
  simp only [Cursor.tableTitle, noTitle, List.take_zero]
  exact congrArg (Prod.mk "") (Cursor.Reads.nil cursor).advance_eq

/-- A table is read up to its closing bracket, and nothing else is reported about it. -/
theorem rule_yields
    (environment : Environment)
    {rows : List (List String)}
    (reads : cursor.Reads (table rows) next)
    (room : before.phraseDepth < phraseLimit)
    (enough : (table rows).length < steps) :
    Yields before (Table.rule (Inner.within environment steps) cursor) (some next)
      ((before.replay (events rows)).withErrors
        (errors cursor.source (rows.headD []).length (cursor.offset + 6) rows)) := by
  rw [table_eq_rows] at reads enough
  obtain ⟨afterKeyword, readsKeyword, readsRest⟩ := reads.split
  obtain ⟨behindRows, readsRows, readsClosing⟩ := readsRest.split
  have readsClosing : behindRows.Reads (['\n'] ++ [']']) next := readsClosing
  obtain ⟨atBracket, readsLineFeed, closes⟩ := readsClosing.split
  obtain ⟨outline, outlined, sameLengths⟩ := Cursor.outlineRows?_of_reads readsRest
  obtain ⟨second, rest, remaining⟩ :
      ∃ second rest, afterKeyword.rest = '\n' :: second :: rest := by
    rw [readsRest.rest_eq]
    cases rows with
    | nil => exact ⟨']', next.rest, rfl⟩
    | cons first others => exact ⟨'[', _, rfl⟩
  have isOpened : cursor.keywordWithId? "[table" = some (none, afterKeyword) := by
    have noId : afterKeyword.character? ':' = none :=
      Cursor.character?_eq_none (by simp [remaining])
    have ends : afterKeyword.isAfterKeyword = true := by
      rw [Cursor.isAfterKeyword, remaining]
      rfl
    simp [Cursor.keywordWithId?, readsKeyword.literal?_eq, Cursor.givenId?, noId, ends]
  have noBlanks : afterKeyword.skipHorizontal = afterKeyword := by
    refine Cursor.skip_eq_self ?_
    rw [remaining]
    exact .cons rfl _
  have isShorter : (rows.flatMap row).length < steps := by
    simp only [List.length_append] at enough
    omega
  have bodyYields :=
    body_yields environment (before.startElement "informaltable") sameLengths readsRows room
      isShorter
  rw [readsKeyword.source, readsKeyword.offset] at bodyYields
  simp only [Table.rule, isOpened, noBlanks, tableTitle_eq remaining, outlined]
  refine Yields.updateThen ((Yields.pure true).bind (bodyYields.bind ?_))
  simp only [Table.closing, Cursor.skipComments_closing readsLineFeed closes, closes.close?_eq]
  refine Yields.updateThen ?_
  rw [show CompilerState.tableElement (!isBlankText "") = "informaltable" from rfl,
    endElement_withErrors]
  exact .pure _

/-- Whatever templates are defined, a table is the first block that applies where it stands. -/
theorem elements_yields
    (environment : Environment)
    {rows : List (List String)}
    (reads : cursor.Reads (table rows) next)
    (room : before.phraseDepth < phraseLimit)
    (enough : (table rows).length < steps) :
    Yields before (firstOf (Block.elements (Inner.within environment steps)) cursor) (some next)
      ((before.replay (events rows)).withErrors
        (errors cursor.source (rows.headD []).length (cursor.offset + 6) rows)) := by
  obtain ⟨afterKeyword, readsKeyword, -⟩ := reads.split
  refine Yields.firstOf
    [Block.comment, Block.sectionStart _, Block.sectionEnd, Block.heading _,
      Block.macroDefinition, Block.templateDefinition, Block.inclusion _,
      Block.externalInclusion, Block.admonition _, Block.quotation _, Block.preformatted _] ?_
    (rule_yields environment reads room enough)
  simp only [List.forall_mem_cons, List.not_mem_nil, false_implies, implies_true, and_true]
  exact
    ⟨Block.comment_yields_none readsKeyword (by decide),
      Block.sectionStart_yields_none readsKeyword (by decide),
      Block.sectionEnd_yields_none readsKeyword (by decide),
      Block.heading_yields_none readsKeyword (by decide),
      Block.macroDefinition_yields_none readsKeyword (by decide),
      Block.templateDefinition_yields_none readsKeyword (by decide),
      Block.inclusion_yields_none readsKeyword (by decide),
      Block.externalInclusion_yields_none readsKeyword (by decide),
      Block.admonition_yields_none readsKeyword (by decide),
      Block.quotation_yields_none readsKeyword (by decide),
      Block.preformatted_yields_none readsKeyword (by decide)⟩

/-- At the end of the text, and before a line feed, the line of a table ends. -/
private theorem lineEnd?_of_ending
    {ending : List Char}
    (isEnding : ending = [] ∨ ending = ['\n'])
    (reads : cursor.Reads ending next)
    (atEnd : next.rest = []) :
    cursor.skipHorizontal.lineEnd? = some next := by
  obtain rfl | rfl := isEnding
  · obtain rfl := reads.unique (.nil cursor)
    have noBlanks : next.skipHorizontal = next :=
      Cursor.skip_eq_self (by rw [atEnd]; rfl)
    simp [Cursor.lineEnd?, noBlanks, Cursor.isAtEnd, atEnd]
  · have noBlanks : cursor.skipHorizontal = cursor := by
      refine Cursor.skip_eq_self ?_
      rw [reads.rest_eq]
      exact .cons rfl _
    rw [noBlanks, reads.lineEnd?_eq]

/--
Reading a written table consumes all of its text and adds exactly one table with every
cell in it. One error is reported for each row that is not as long as the first one, at
the place of that row, and nothing else changes, whatever macros and templates are
defined and whatever brackets were found to be unclosed before.
-/
theorem written_table_reads_back
    (environment : Environment)
    (rows : List (List String))
    (ending : List Char)
    (isEnding : ending = [] ∨ ending = ['\n'])
    (source : Source)
    (isWritten : source.text = String.ofList (table rows ++ ending))
    (workspace : Workspace)
    (settled : workspace.state.pendingParagraph = false)
    (room : workspace.state.phraseDepth < phraseLimit) :
    let found := errors source (rows.headD []).length 6 rows
    (∃ after,
      withFreshMemory
          (parsing environment source.text.length fun inner => inner.blocks false source.cursor)
          workspace =
        .ok (source.cursorAt source.text.length) after ∧
        after.unclosed = workspace.unclosed ∧
        after.state =
          (workspace.state.withOutput { events := events rows }).withErrors found) ∧
      found.length = rows.countP fun cells => cells.length != (rows.headD []).length := by
  intro found
  refine ⟨?_, length_errors ..⟩
  have isRead (steps : Nat)
      (enough : (table rows ++ ending).length < steps)
      (reads :
        source.cursor.Reads (table rows ++ ending) (source.cursorAt source.text.length)) :
      Yields workspace.state
        (Block.step (Inner.within environment (steps + 1)) false source.cursor)
        (source.cursorAt source.text.length)
        ((workspace.state.replay (events rows)).withErrors found) := by
    obtain ⟨afterTable, readsTable, readsEnding⟩ := reads.split
    have atEnd := Cursor.Reads.rest_end source
    have opens : source.cursor.rest.head? = some '[' := by
      rw [readsTable.rest_eq]
      rfl
    rw [List.length_append] at enough
    have isShorter : (table rows).length < steps + 1 := by
      omega
    exact
      Block.step_of_element_of_lineEnd opens (elements_yields environment readsTable room isShorter)
        (lineEnd?_of_ending isEnding readsEnding atEnd)
        (Block.blocks_at_end environment steps atEnd)
  obtain ⟨after, reached, sameUnclosed, sameState⟩ :=
    Block.exists_blocks_of_source environment source isWritten workspace isRead
  rw [CompilerState.replay_eq_withOutput settled] at sameState
  exact ⟨after, reached, sameUnclosed, sameState⟩

/-- A table with an empty row and an empty cell is read back inside a bracket of phrases. -/
theorem written_table_reads_back_ragged :
    let rows := [["[a]", ""], [], ["`", "\n", "]"], ["c", "d"]]
    let source : Source := { text := String.ofList (table rows ++ ['\n']), name := "table" }
    let environment : Environment :=
      { files := ⟨[], [], []⟩, encoding := .html, moment := .fixed }
    let state : CompilerState := { phraseDepth := 99 }
    let found := errors source 2 6 rows
    (∃ after,
      withFreshMemory
          (parsing environment source.text.length fun inner => inner.blocks false source.cursor)
          { state := state } =
        .ok (source.cursorAt source.text.length) after ∧
        after.unclosed = [] ∧
        after.state = (state.withOutput { events := events rows }).withErrors found) ∧
      found.length = 2 := by
  intro rows source environment state found
  obtain ⟨isRead, counted⟩ :=
    written_table_reads_back environment rows ['\n'] (.inr rfl) source rfl { state := state } rfl
      (by decide)
  exact ⟨isRead, counted⟩

end WrittenTable

end DocMarkup
