import DocMarkup.Proofs.Written.Block
import DocMarkup.Proofs.Written.ListNesting

namespace DocMarkup

open Compile Text

/-!
# Lists where they are written

Each item of a list is written on a line: its blanks, its marker, a space, and its
text with a backslash before every character. A blank line ends the list. Reading
closes lists, opens them and joins them as the indentation of each item demands, so
that what is output is the tree in which the items are nested by their indentation.
-/

variable {environment : Environment} {before after : CompilerState} {inner : Inner}
  {cursor next : Cursor} {levels : List Level} {item : NumberedItem}

/-! ## Writing -/

namespace ListItem

/-- The marker of an item, which tells whether it is numbered. -/
def marker (item : ListItem) : Char :=
  if item.ordered then '#' else '*'

/-- What is written before the text of an item. -/
def lead (item : ListItem) : List Char :=
  item.indent ++ [item.marker, ' ']

/-- An item as it is written on a line. -/
def written (item : ListItem) : List Char :=
  item.lead ++ (backslashed item.content.toList ++ ['\n'])

theorem length_written (item : ListItem) :
    item.written.length = item.indent.length + 2 * item.content.length + 3 := by
  simp only [written, lead, List.length_append, length_backslashed, String.length_toList,
    List.length_cons, List.length_nil]
  omega

/-- Items as they are written, line by line. -/
def writtenAll (items : List ListItem) : List Char :=
  items.flatMap written

/-- What an item is told by in a text. -/
def listMarker (item : ListItem) : ListMarker :=
  { indent := item.indent, ordered := item.ordered, length := item.lead.length }

/-- An item behind no blanks is not indented. -/
theorem width_eq_zero {item : ListItem} (unindented : item.indent = []) : item.width = 0 := by
  rw [width, unindented]
  rfl

/-- There are two markers. -/
theorem marker_eq (item : ListItem) : item.marker = '*' ∨ item.marker = '#' := by
  unfold marker
  split
  · exact .inr rfl
  · exact .inl rfl

/-- No blanks come behind the marker of an item but the one that is written. -/
theorem stops_backslashed (characters behind : List Char) :
    Stops isHorizontal (backslashed characters ++ ['\n'] ++ behind) := by
  cases characters with
  | nil => exact .cons rfl _
  | cons first rest => exact .cons (by decide) _

/-- Where an item is written, its marker is found. -/
theorem listMarker?_eq
    (item : ListItem)
    {behind : List Char}
    (stops : Stops isHorizontal behind) :
    listMarker? (item.lead ++ behind) = some item.listMarker := by
  have written :
      item.lead ++ behind = item.indent ++ (item.marker :: ([' '] ++ behind)) := by
    simp [lead]
  have notBlank : isHorizontal item.marker = false := by
    obtain isMarker | isMarker := item.marker_eq <;> rw [isMarker] <;> decide
  have isIndent :
      (item.lead ++ behind).takeWhile isHorizontal = item.indent := by
    rw [written]
    exact takeWhile_run item.areBlanks (.cons notBlank _)
  have oneBlank : runLength isHorizontal ([' '] ++ behind) = 1 :=
    runLength_run rfl stops
  have isMarker : (item.marker == '*' || item.marker == '#') = true := by
    simpa using item.marker_eq
  have isOrdered : (item.marker == '#') = item.ordered := by
    unfold marker
    cases item.ordered <;> decide
  simp only [DocMarkup.listMarker?, isIndent]
  rw [written, List.drop_left]
  simp only [oneBlank, isMarker]
  simp [isOrdered, listMarker, lead]

/-- The front of an item is read by its marker. -/
theorem cursor_listMarker?_eq
    (item : ListItem)
    (reads : cursor.Reads item.lead next)
    (stops : Stops isHorizontal next.rest) :
    cursor.listMarker? = some (item.listMarker, next) := by
  rw [Cursor.listMarker?, reads.rest_eq, item.listMarker?_eq stops, Option.map_some]
  exact congrArg (fun behind => some (item.listMarker, behind)) reads.advance_eq

/-- No item goes on with the line of another one. -/
theorem lineContinues_lead
    (templates : TemplateTable)
    (item : ListItem)
    {behind : List Char}
    (stops : Stops isHorizontal behind) :
    lineContinues templates .listItem (item.lead ++ behind) = false := by
  simp [lineContinues, item.listMarker?_eq stops]

/-- There is no line feed among blanks. -/
private theorem lineFeed_notMem
    {blanks : List Char}
    (areBlanks : blanks.all isHorizontal = true) :
    '\n' ∉ blanks := by
  intro isBlank
  have horizontal := List.all_eq_true.mp areBlanks _ isBlank
  revert horizontal
  decide

/-- Behind a line feed, no item goes on: another one comes, or a blank line. -/
theorem lineContinues_writtenAll
    (templates : TemplateTable)
    {items : List ListItem}
    {blanks : List Char}
    (areBlanks : blanks.all isHorizontal = true)
    (reads : cursor.Reads (writtenAll items ++ (blanks ++ ['\n'])) next) :
    lineContinues templates .listItem cursor.restOfLine = false := by
  cases items with
  | nil =>
      have reads : cursor.Reads (blanks ++ ['\n']) next := reads
      obtain ⟨atLineFeed, readsBlanks, readsLineFeed⟩ := reads.split
      have emptyLine : atLineFeed.restOfLine = [] := by
        simp [Cursor.restOfLine, readsLineFeed.rest_eq]
      rw [readsBlanks.restOfLine_eq (lineFeed_notMem areBlanks), emptyLine, List.append_nil]
      exact Block.lineContinues_blanks templates .listItem areBlanks
  | cons item others =>
      rw [writtenAll, List.flatMap_cons, written, List.append_assoc, List.append_assoc] at reads
      obtain ⟨atText, readsLead, readsText⟩ := reads.split
      have noLineFeed : '\n' ∉ item.lead := by
        obtain isMarker | isMarker := item.marker_eq <;>
          simp [lead, isMarker, lineFeed_notMem item.areBlanks]
      have stops : Stops isHorizontal atText.rest := by
        rw [readsText.rest_eq, List.append_assoc]
        exact stops_backslashed item.content.toList _
      rw [readsLead.restOfLine_eq noLineFeed]
      exact item.lineContinues_lead templates (stops.takeWhile _)

end ListItem

/-! ## Open lists -/

namespace Level

/-- An open list as it is kept while the items of a list are read. -/
def openList (level : Level) : OpenList :=
  { indent := level.opener.1.width, name := level.opener.1.listName }

end Level

/-- Closing lists adds the events that close them. -/
theorem closeAll_eq_replay (state : CompilerState) (levels : List Level) :
    Listing.closeAll state (levels.map Level.openList) = state.replay (closings levels) := by
  induction levels generalizing state with
  | nil =>
      rfl
  | cons level others inductionHypothesis =>
      have closed : closings (level :: others) =
          [.closing "listitem", .closing level.opener.1.listName] ++ closings others := rfl
      rw [closed, CompilerState.replay_append, ← inductionHypothesis]
      rfl

/-- Items come where a list without indentation is around them, or the first one starts one. -/
def Fits (levels : List Level) (items : List NumberedItem) : Prop :=
  HasOutermost levels ∨ levels = [] ∧ ∀ first ∈ items.head?, first.1.width = 0

/-- Behind an item, a list without indentation is around the others. -/
theorem Fits.behind {others : List NumberedItem} (fits : Fits levels (item :: others)) :
    HasOutermost (placeAfter levels item).levels := by
  obtain outermost | ⟨rfl, unindented⟩ := fits
  · exact outermost.placeAfter item
  · exact ⟨_, List.mem_cons_self, unindented item rfl⟩

/-- The lists that are closed before an item are those that are indented further than it is. -/
theorem splitAtIndent_eq (outermost : HasOutermost levels) (item : NumberedItem) :
    Listing.splitAtIndent item.1.width (levels.map Level.openList) =
      ((levels.takeWhile (Level.isWider item)).map Level.openList,
        (levels.dropWhile (Level.isWider item)).map Level.openList) := by
  -- The last list is never closed there. It is not indented, so that no item would close it.
  induction levels with
  | nil =>
      rfl
  | cons level outer inductionHypothesis =>
      obtain ⟨unindentedLevel, isOpen, unindented⟩ := outermost
      cases outer with
      | nil =>
          obtain rfl := List.mem_singleton.mp isOpen
          simp [Listing.splitAtIndent, Level.isWider, unindented]
      | cons around rest =>
          by_cases wider : item.1.width < level.opener.1.width
          · have isAround : unindentedLevel ∈ around :: rest := by
              obtain rfl | isAround := List.mem_cons.mp isOpen
              · omega
              · exact isAround
            have others := inductionHypothesis ⟨unindentedLevel, isAround, unindented⟩
            rw [List.map_cons] at others
            have closes : Level.isWider item level = true := decide_eq_true wider
            simp only [List.map_cons, Listing.splitAtIndent]
            rw [others, List.takeWhile_cons_of_pos closes, List.dropWhile_cons_of_pos closes]
            simp [Level.openList, wider]
          · simp [Listing.splitAtIndent, Level.openList, Level.isWider, wider]

/-- Before an item, lists are closed, and one is opened or the item before it is closed. -/
theorem beginItem_eq
    {others : List NumberedItem}
    (fits : Fits levels (item :: others))
    (state : CompilerState) :
    Listing.beginItem state { indent := item.1.width, name := item.1.listName }
        (levels.map Level.openList) =
      (state.replay
        (closings (levels.takeWhile (Level.isWider item)) ++
          [separation (levels.dropWhile (Level.isWider item)) item, .opening "listitem" [],
            .opening "simpara" []]),
        (placeAfter levels item).levels.map Level.openList) := by
  have split :
      Listing.splitAtIndent item.1.width (levels.map Level.openList) =
        ((levels.takeWhile (Level.isWider item)).map Level.openList,
          (levels.dropWhile (Level.isWider item)).map Level.openList) := by
    obtain outermost | ⟨rfl, _⟩ := fits
    · exact splitAtIndent_eq outermost item
    · rfl
  simp only [Listing.beginItem, split, closeAll_eq_replay]
  rw [CompilerState.replay_append]
  unfold placeAfter
  cases kept : levels.dropWhile (Level.isWider item) with
  | nil => rfl
  | cons level outer =>
      by_cases opens : level.opener.1.width < item.1.width
      · simp only [List.map_cons, Listing.opensList, Level.openList, separation, opens,
          decide_true, ↓reduceIte]
        rfl
      · simp only [List.map_cons, Listing.opensList, Level.openList, separation, opens,
          decide_false, Bool.false_eq_true, ↓reduceIte]
        rfl

/-! ## Reading -/

namespace Listing

variable {value : Cursor} {steps : Nat} {blanks : List Char}

/-- An item closes lists and opens or joins one, and adds its text; others come behind it. -/
theorem step_of_item
    {others : List NumberedItem}
    (fits : Fits levels (item :: others))
    (reads : cursor.Reads item.1.written next)
    (ends : ∀ templates, lineContinues templates .listItem next.restOfLine = false)
    (enough : item.1.content.length < steps)
    (goesOn :
      Yields (before.replay (itemEvents levels item))
        ((Inner.within environment steps).items
          ((placeAfter levels item).levels.map Level.openList) next)
        value after) :
    Yields before
      (step (Inner.within environment steps) (levels.map Level.openList) cursor) value after := by
  obtain ⟨atText, readsLead, readsLine⟩ := reads.split
  obtain ⟨atLineFeed, readsText, readsLineFeed⟩ := readsLine.split
  have stops : Stops isHorizontal atText.rest := by
    rw [readsLine.rest_eq]
    exact ListItem.stops_backslashed item.1.content.toList next.rest
  let opened :=
    before.replay
      (closings (levels.takeWhile (Level.isWider item)) ++
        [separation (levels.dropWhile (Level.isWider item)) item, .opening "listitem" [],
          .opening "simpara" []])
  have begun :
      beginItem before
          { indent := blankWidth 0 item.1.listMarker.indent
            name := if item.1.listMarker.ordered then "orderedlist" else "itemizedlist" }
          (levels.map Level.openList) =
        (opened, (placeAfter levels item).levels.map Level.openList) :=
    beginItem_eq fits before
  have isRead :
      Yields opened ((Inner.within environment steps).phrase .listItem atText)
        (true, atLineFeed) (opened.text item.1.content) :=
    Block.phrase_yields_text environment (.inr rfl) readsText readsLineFeed (ends _) enough
  have ended :
      (opened.text item.1.content).endElement "simpara" =
        before.replay (itemEvents levels item) := by
    calc
      _ = (opened.replay (textEvents item.1.content)).replay [.closing "simpara"] := by
        rw [CompilerState.text_eq_replay]
        rfl
      _ = _ := by
        rw [← CompilerState.replay_append, ← CompilerState.replay_append, List.append_assoc]
        rfl
  rw [← ended] at goesOn
  simp only [step, item.1.cursor_listMarker?_eq readsLead stops]
  refine Yields.state (Yields.updateThen ?_)
  rw [begun]
  refine isRead.bind (Yields.updateThen ?_)
  simp only [readsLineFeed.character?_eq]
  exact goesOn

/-- On a blank line, there is no item. -/
theorem listMarker?_eq_none
    (areBlanks : blanks.all isHorizontal = true)
    (reads : cursor.Reads (blanks ++ ['\n']) next) :
    cursor.listMarker? = none := by
  have isIndent : cursor.rest.takeWhile isHorizontal = blanks := by
    rw [reads.rest_eq, List.append_assoc]
    exact takeWhile_run areBlanks (.cons rfl _)
  have behind : cursor.rest.drop blanks.length = '\n' :: next.rest := by
    rw [reads.rest_eq, List.append_assoc, List.drop_left]
    rfl
  simp [Cursor.listMarker?, DocMarkup.listMarker?, isIndent, behind]

/-- Items are read up to a blank line, where all lists are closed. -/
theorem items_yields
    (environment : Environment)
    (before : CompilerState)
    {items : List NumberedItem}
    {atBlanks : Cursor}
    (fits : Fits levels items)
    (reads : cursor.Reads (ListItem.writtenAll (items.map Prod.fst)) atBlanks)
    (areBlanks : blanks.all isHorizontal = true)
    (readsBlanks : atBlanks.Reads (blanks ++ ['\n']) next)
    (enough : (ListItem.writtenAll (items.map Prod.fst)).length < steps) :
    Yields before
      ((Inner.within environment steps).items (levels.map Level.openList) cursor) atBlanks
      (before.replay (eventsFrom levels items)) := by
  -- Each item takes one step, and each step leaves fewer characters than steps.
  induction items generalizing levels cursor before steps with
  | nil =>
      obtain ⟨fewer, rfl⟩ : ∃ fewer, steps = fewer + 1 := Nat.exists_eq_add_of_le' enough
      obtain rfl := reads.unique (.nil cursor)
      show Yields before (step _ (levels.map Level.openList) atBlanks) _ _
      simp only [step, listMarker?_eq_none areBlanks readsBlanks, closeAll_eq_replay]
      exact Yields.updateThen (.pure _)
  | cons item others inductionHypothesis =>
      rw [List.map_cons, ListItem.writtenAll, List.flatMap_cons] at reads enough
      rw [List.length_append, item.1.length_written] at enough
      obtain ⟨nextLine, readsItem, readsOthers⟩ := reads.split
      obtain ⟨fewer, rfl⟩ : ∃ fewer, steps = fewer + 1 := Nat.exists_eq_add_of_le' (by omega)
      have isShorter : (ListItem.writtenAll (others.map Prod.fst)).length < fewer := by
        rw [ListItem.writtenAll]
        omega
      have ends (templates : TemplateTable) :
          lineContinues templates .listItem nextLine.restOfLine = false :=
        ListItem.lineContinues_writtenAll templates areBlanks (readsOthers.append readsBlanks)
      have goesOn :=
        inductionHypothesis (before.replay (itemEvents levels item)) (.inl fits.behind)
          readsOthers isShorter
      rw [← CompilerState.replay_append] at goesOn
      exact step_of_item fits readsItem ends (by omega) goesOn

/-- A list that starts without indentation is read up to the blank line behind it. -/
theorem rule_yields
    {first : ListItem}
    {others : List ListItem}
    {atBlanks : Cursor}
    (unindented : first.indent = [])
    (reads : cursor.Reads (ListItem.writtenAll (first :: others)) atBlanks)
    (areBlanks : blanks.all isHorizontal = true)
    (readsBlanks : atBlanks.Reads (blanks ++ ['\n']) next)
    (enough : (ListItem.writtenAll (first :: others)).length < steps) :
    Yields before (rule (Inner.within environment steps) cursor) (some atBlanks)
      (before.replay (eventsFrom [] (first :: others).zipIdx)) := by
  have readsLine := reads
  rw [ListItem.writtenAll, List.flatMap_cons] at readsLine
  obtain ⟨nextLine, readsFirst, -⟩ := readsLine.split
  obtain ⟨atText, readsLead, readsText⟩ := readsFirst.split
  have stops : Stops isHorizontal atText.rest := by
    rw [readsText.rest_eq]
    exact ListItem.stops_backslashed first.content.toList nextLine.rest
  have noIndent : first.listMarker.indent.isEmpty = true := by
    rw [ListItem.listMarker, unindented]
    rfl
  have fits : Fits [] (first :: others).zipIdx := by
    refine .inr ⟨rfl, ?_⟩
    simp [ListItem.width_eq_zero unindented]
  have items : ((first :: others).zipIdx).map Prod.fst = first :: others :=
    List.zipIdx_map_fst 0 _
  have isRead :=
    items_yields environment before fits (by rwa [items]) areBlanks readsBlanks
      (by rwa [items] : _ < steps)
  simp only [rule, first.cursor_listMarker?_eq readsLead stops, noIndent, ↓reduceIte]
  exact isRead.bind (.pure _)

end Listing

namespace Block

/-- A list is read where it is written, and then the blank line and the blocks behind it. -/
theorem step_of_listing
    {first : ListItem}
    {others : List ListItem}
    {atBlanks value : Cursor}
    {steps : Nat}
    {blanks : List Char}
    {nested : Bool}
    (unindented : first.indent = [])
    (reads : cursor.Reads (ListItem.writtenAll (first :: others)) atBlanks)
    (areBlanks : blanks.all isHorizontal = true)
    (readsBlanks : atBlanks.Reads (blanks ++ ['\n']) next)
    (enough : (ListItem.writtenAll (first :: others)).length < steps + 1)
    (goesOn :
      Yields (before.replay (eventsFrom [] (first :: others).zipIdx))
        ((Inner.within environment steps).blocks nested next) value after) :
    Yields before (Block.step (Inner.within environment (steps + 1)) nested cursor) value
      after := by
  have starts : cursor.rest.head? = some first.marker := by
    simp [reads.rest_eq, ListItem.writtenAll, ListItem.written, ListItem.lead, unindented]
  have isOther :
      isHorizontal first.marker = false ∧ first.marker ≠ '\n' ∧ first.marker ≠ ']' ∧
        first.marker ≠ '[' ∧ first.marker ≠ codeQuote := by
    obtain isMarker | isMarker := first.marker_eq <;> rw [isMarker] <;> decide
  obtain ⟨notHorizontal, notLineFeed, notClosing, notOpening, notQuote⟩ := isOther
  refine
    step_of_front starts notHorizontal notLineFeed notClosing ?_
      (step_of_blanks areBlanks readsBlanks goesOn)
  refine Yields.firstOf [element _ nested, fencedCode] ?_
    (Listing.rule_yields unindented reads areBlanks readsBlanks enough)
  simp only [List.forall_mem_cons, List.not_mem_nil, false_implies, implies_true, and_true]
  exact
    ⟨element_yields_none (by rw [starts]; simpa using notOpening),
      fencedCode_yields_none starts notQuote⟩

end Block

/-! ## The whole list -/

namespace ListItem

/--
Reading a written list consumes all of its text and adds one list, whose elements are
balanced and hold the text of every item once, in their order. Items are nested in it
by their indentation. Nothing else changes, whatever macros and templates are defined
and whatever brackets were found to be unclosed before.
-/
theorem written_list_reads_back
    (environment : Environment)
    (first : ListItem)
    (others : List ListItem)
    (unindented : first.indent = [])
    (blanks : List Char)
    (areBlanks : blanks.all isHorizontal = true)
    (source : Source)
    (isWritten :
      source.text = String.ofList (writtenAll (first :: others) ++ (blanks ++ ['\n'])))
    (workspace : Workspace)
    (settled : workspace.state.pendingParagraph = false) :
    ∃ (after : Workspace) (tree : ListTree),
      withFreshMemory
          (parsing environment source.text.length fun inner => inner.blocks false source.cursor)
          workspace =
        .ok (source.cursorAt source.text.length) after ∧
        after.unclosed = workspace.unclosed ∧
        after.state = workspace.state.withOutput { events := tree.events } ∧
        Fragment listVocabulary tree.events ∧
        tree.Nests (first :: others) := by
  obtain ⟨tree, sameEvents, nests⟩ := exists_listTree_nests (width_eq_zero unindented) others
  have isRead (steps : Nat)
      (enough : (writtenAll (first :: others) ++ (blanks ++ ['\n'])).length < steps)
      (reads :
        source.cursor.Reads (writtenAll (first :: others) ++ (blanks ++ ['\n']))
          (source.cursorAt source.text.length)) :
      Yields workspace.state
        (Block.step (Inner.within environment (steps + 1)) false source.cursor)
        (source.cursorAt source.text.length) (workspace.state.replay tree.events) := by
    obtain ⟨atBlanks, readsItems, readsBlanks⟩ := reads.split
    rw [List.length_append] at enough
    obtain ⟨fewer, rfl⟩ : ∃ fewer, steps = fewer + 1 :=
      Nat.exists_eq_add_of_le' (Nat.zero_lt_of_lt enough)
    have isShorter : (writtenAll (first :: others)).length < fewer + 1 + 1 := by
      omega
    rw [sameEvents]
    exact
      Block.step_of_listing unindented readsItems areBlanks readsBlanks isShorter
        (Block.blocks_at_end environment fewer (Cursor.Reads.rest_end source))
  obtain ⟨after, reached, sameUnclosed, sameState⟩ :=
    Block.exists_blocks_of_source environment source isWritten workspace isRead
  rw [CompilerState.replay_eq_withOutput settled] at sameState
  exact ⟨after, tree, reached, sameUnclosed, sameState, tree.isFragment, nests⟩

/-- Items are nested that are indented by tabs, and less than one before but more than others. -/
theorem written_list_reads_back_uneven :
    let first : ListItem := { indent := [], ordered := false, content := "N" }
    let others : List ListItem :=
      [{ indent := ['\t'], ordered := true, content := "]\n" },
        { indent := [' ', ' '], ordered := false, content := "`" },
        { indent := [' ', '\t'], ordered := true, content := "* a" },
        { indent := [' ', ' ', ' '], ordered := false, content := "[b" },
        { indent := [], ordered := true, content := "\\" }]
    let source : Source :=
      { text := String.ofList (writtenAll (first :: others) ++ [' ', '\n']), name := "list" }
    let environment : Environment :=
      { files := ⟨[], [], []⟩, encoding := .html, moment := .fixed }
    let state : CompilerState :=
      { macros := MacroTable.define {} "N" "name", phraseDepth := phraseLimit }
    ∃ (after : Workspace) (tree : ListTree),
      withFreshMemory
          (parsing environment source.text.length fun inner => inner.blocks false source.cursor)
          { state := state } =
        .ok (source.cursorAt source.text.length) after ∧
        after.unclosed = [] ∧
        after.state = state.withOutput { events := tree.events } ∧
        Fragment listVocabulary tree.events ∧
        tree.Nests (first :: others) := by
  intro first others source environment state
  exact
    written_list_reads_back environment first others rfl [' '] rfl source rfl { state := state } rfl

end ListItem

end DocMarkup
