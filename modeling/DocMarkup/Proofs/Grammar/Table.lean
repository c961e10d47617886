import DocMarkup.Proofs.Grammar.Phrase

namespace DocMarkup.Table

open Compile CompilerState

/-!
# How tables end

Cells, rows and groups add their elements around the phrases in them. The first
cell, row or title that cannot be read ends the table, which then does not apply.
-/

variable {files : FileTree} {longest steps : Nat} {inner reference : Inner}
  {before middle : CompilerState} {affordable calm : Prop} {order : Order} {cursor next : Cursor}

/-- A part of a table has added a fragment and has not gone back in the text. -/
def Filled (before : CompilerState) (cursor next : Cursor) (after : CompilerState) : Prop :=
  Effect flowVocabulary before after ∧ next.rest.length ≤ cursor.rest.length

/-- Two parts of a table, one after the other. -/
theorem Filled.trans
    {last : Cursor}
    {after : CompilerState}
    (first : Filled before cursor next middle)
    (second : Filled middle next last after) :
    Filled before cursor last after :=
  ⟨first.1.trans second.1, Nat.le_trans second.2 first.2⟩

/-- What is ready for a table is ready for the parts behind its first ones. -/
theorem Filled.ready
    (ready : Ready longest steps affordable before cursor.rest.length 1)
    (filled : Filled before cursor next middle) :
    Ready longest steps affordable middle next.rest.length 1 := by
  have nearer := filled.2
  exact ready.alike filled.1.alike nearer (by omega)

/-- A part of a table followed by another one, if the first can be read. -/
private theorem followed_ends
    {first firstReference : Compile (Option Cursor)}
    {second secondReference : Rule}
    (firstEnds :
      Ends before first firstReference (Expected files affordable calm)
        (Settled before (Filled before cursor)))
    (secondEnds :
      ∀ next middle,
        Filled before cursor next middle →
        Ends middle (second next) (secondReference next) (Expected files affordable calm)
          (Settled middle (Filled middle next))) :
    Ends before
      (first >>= fun found =>
        match found with
        | some next => second next
        | none => return none)
      (firstReference >>= fun found =>
        match found with
        | some next => secondReference next
        | none => return none)
      (Expected files affordable calm)
      (Settled before (Filled before cursor)) := by
  refine firstEnds.bind ?_
  rintro (_ | next) middle settled
  · exact .pure settled
  · refine (secondEnds next middle settled).imp (fun _ => id) ?_
    rintro (_ | last) after later
    · exact settled.1.precedes.trans later
    · exact Filled.trans settled later

/-- A title that is not blank adds an element, if it can be read to its end. -/
theorem titlePhrase_ends
    (sound : inner.Sound files longest steps affordable reference order)
    (position : Position)
    {title : String}
    (ready : Ready longest steps affordable before title.length 1) :
    Ends before (titlePhrase inner position title) (titlePhrase reference position title)
      (Expected files affordable calm)
      fun finished after =>
        if finished then Effect flowVocabulary before after else before.Precedes after := by
  have trimmedShort := Text.length_trimmed_le title
  have known : ("title", ([] : List Attribute).map Prod.fst) ∈ flowVocabulary := by
    simp [flowVocabulary]
  unfold titlePhrase
  split
  · exact .pure (.refl before)
  · apply Ends.updateThen
    have readyInside :
        Ready longest steps affordable (before.startElement "title")
          (Text.trimmed title).length 1 :=
      ready.alike ⟨rfl, rfl, rfl, rfl, rfl⟩ trimmedShort (by omega)
    refine Ends.bind (expansion_ends sound _ readyInside) ?_
    rintro (_ | _) middle effect
    · exact .pure ((Precedes.emit before _).trans effect.precedes)
    · exact .updateThen (.pure (Effect.element known effect.toFlow))

/-- The content of a cell is a phrase. -/
private theorem cellContent_ends
    (sound : inner.Sound files longest steps affordable reference order)
    (ready : Ready longest steps affordable before cursor.rest.length 1) :
    Ends before
      (Phrase.nested inner (cursor.skipComments.advance 1).skipHorizontal)
      (Phrase.nested reference (cursor.skipComments.advance 1).skipHorizontal)
      (Expected files affordable calm)
      (Settled before (Filled before cursor)) := by
  have toEntry := cursor.length_rest_skipComments_le
  have blanks := (cursor.skipComments.advance 1).length_rest_skipHorizontal_le
  simp only [Cursor.rest_advance, List.length_drop] at blanks
  have readyInside :
      Ready longest steps affordable before
        (cursor.skipComments.advance 1).skipHorizontal.rest.length 1 :=
    ready.nearer (by omega) (by omega)
  refine (Phrase.nested_ends sound readyInside).imp (fun _ => id) ?_
  rintro (_ | next) after settled
  · exact settled
  · obtain ⟨effect, nearer⟩ := settled
    exact ⟨effect.toFlow, by omega⟩

/-- A cell adds a phrase, inside an element or not. -/
theorem cell_ends
    (sound : inner.Sound files longest steps affordable reference order)
    {name : Option String}
    (known : ∀ element, name = some element → (element, []) ∈ flowVocabulary)
    (ready : Ready longest steps affordable before cursor.rest.length 1) :
    Ends before (cell inner name cursor) (cell reference name cursor)
      (Expected files affordable calm)
      (Settled before (Filled before cursor)) := by
  unfold cell
  cases name with
  | none =>
      refine (cellContent_ends sound ready).bind ?_
      rintro (_ | next) middle settled
      · exact .pure settled
      · obtain ⟨effect, nearer⟩ := settled
        refine .pure (.of_last effect.precedes ?_)
        intro last closed
        have afterBracket := Cursor.length_rest_close? closed
        exact ⟨effect, by omega⟩
  | some element =>
      have knownElement :
          (element, ([] : List Attribute).map Prod.fst) ∈ flowVocabulary :=
        known element rfl
      apply Ends.updateThen
      have readyInside :
          Ready longest steps affordable (before.startElement element) cursor.rest.length 1 :=
        ready.alike ⟨rfl, rfl, rfl, rfl, rfl⟩ (Nat.le_refl _) (Nat.le_refl _)
      refine (cellContent_ends sound readyInside).bind ?_
      rintro (_ | next) middle settled
      · exact .pure ((Precedes.emit before _).trans settled)
      · obtain ⟨inside, nearer⟩ := settled
        have effect : Effect flowVocabulary before (middle.endElement element) :=
          Effect.element knownElement inside
        refine .updateThen (.pure (.of_last effect.precedes ?_))
        intro last closed
        have afterBracket := Cursor.length_rest_close? closed
        exact ⟨effect, by omega⟩

/-- Cells in a row add one fragment after the other. -/
theorem cells_ends
    (sound : inner.Sound files longest steps affordable reference order)
    {name : Option String}
    (known : ∀ element, name = some element → (element, []) ∈ flowVocabulary)
    {places : List Nat}
    (ready : Ready longest steps affordable before cursor.rest.length 1) :
    Ends before (cells inner name places cursor) (cells reference name places cursor)
      (Expected files affordable calm)
      (Settled before (Filled before cursor)) := by
  induction places generalizing before cursor with
  | nil =>
      exact .pure ⟨.refl before, Nat.le_refl _⟩
  | cons place others inductionHypothesis =>
      unfold cells
      refine followed_ends (cell_ends sound known ready) ?_
      intro next middle filled
      exact inductionHypothesis (filled.ready ready)

/-- The bracket that closes a row or a table takes at least itself. -/
theorem length_rest_closing_lt
    (closed : closing cursor = some next) :
    next.rest.length < cursor.rest.length := by
  have toBracket := cursor.length_rest_skipComments_le
  have afterBracket := Cursor.length_rest_close? closed
  omega

/-- A row adds its cells inside its element. -/
theorem row_ends
    (sound : inner.Sound files longest steps affordable reference order)
    (columns : Nat)
    (outline : RowOutline)
    (ready : Ready longest steps affordable before cursor.rest.length 1) :
    Ends before (row inner columns outline cursor) (row reference columns outline cursor)
      (Expected files affordable calm)
      (Settled before (Filled before cursor)) := by
  have knownRow : ("row", ([] : List Attribute).map Prod.fst) ∈ flowVocabulary := by
    simp [flowVocabulary]
  have knownEntry :
      ∀ element, some "entry" = some element → (element, []) ∈ flowVocabulary := by
    rintro element ⟨⟩
    simp [flowVocabulary]
  have toEntry := cursor.length_rest_skipComments_le
  have opened :
      Passage flowVocabulary [] [("row", [])] before
        ((before.checkRow cursor.skipComments.position outline.cells.length
          columns).startElement "row") := by
    refine Passage.trans ?_ (.startElement _ knownRow)
    unfold checkRow
    split
    · exact .refl before
    · exact .reportError ..
  unfold row
  apply Ends.updateThen
  have readyInside :
      Ready longest steps affordable
        ((before.checkRow cursor.skipComments.position outline.cells.length
          columns).startElement "row")
        (cursor.skipComments.advance 1).rest.length 1 := by
    simp only [Cursor.rest_advance, List.length_drop]
    exact ready.alike opened.alike (by omega) (by omega)
  refine (cells_ends sound knownEntry readyInside).bind ?_
  rintro (_ | next) middle settled
  · exact .pure (opened.precedes.trans settled)
  · obtain ⟨inside, nearer⟩ := settled
    simp only [Cursor.rest_advance, List.length_drop] at nearer
    have filled := opened.trans (inside.inside [("row", [])])
    simp only
    cases closed : closing next with
    | none =>
        exact .pure filled.precedes
    | some after =>
        have afterBracket := length_rest_closing_lt closed
        refine .updateThen (.pure ⟨?_, by omega⟩)
        exact filled.trans (.endElement middle knownRow [])

/-- Rows one after the other add one fragment after the other. -/
theorem rows_ends
    (sound : inner.Sound files longest steps affordable reference order)
    (columns : Nat)
    {outlines : List RowOutline}
    (ready : Ready longest steps affordable before cursor.rest.length 1) :
    Ends before (rows inner columns outlines cursor) (rows reference columns outlines cursor)
      (Expected files affordable calm)
      (Settled before (Filled before cursor)) := by
  induction outlines generalizing before cursor with
  | nil =>
      exact .pure ⟨.refl before, Nat.le_refl _⟩
  | cons outline others inductionHypothesis =>
      unfold rows
      refine followed_ends (row_ends sound columns outline ready) ?_
      intro next middle filled
      exact inductionHypothesis (filled.ready ready)

/-- A part of a table inside an element adds the element. -/
private theorem enclosed_ends
    {name : String}
    {attributes : List Attribute}
    {content contentReference : Rule}
    (known : (name, attributes.map Prod.fst) ∈ flowVocabulary)
    (ready : Ready longest steps affordable before cursor.rest.length 1)
    (contentEnds :
      ∀ middle,
        Ready longest steps affordable middle cursor.rest.length 1 →
        Ends middle (content cursor) (contentReference cursor) (Expected files affordable calm)
          (Settled middle (Filled middle cursor))) :
    Ends before
      (do
        update fun state => state.startElement name attributes
        match ← content cursor with
        | none => return none
        | some next =>
            update fun state => state.endElement name
            return some next)
      (do
        update fun state => state.startElement name attributes
        match ← contentReference cursor with
        | none => return none
        | some next =>
            update fun state => state.endElement name
            return some next)
      (Expected files affordable calm)
      (Settled before (Filled before cursor)) := by
  apply Ends.updateThen
  have readyInside :
      Ready longest steps affordable (before.startElement name attributes)
        cursor.rest.length 1 :=
    ready.alike ⟨rfl, rfl, rfl, rfl, rfl⟩ (Nat.le_refl _) (Nat.le_refl _)
  refine (contentEnds _ readyInside).bind ?_
  rintro (_ | next) middle settled
  · exact .pure ((Precedes.emit before _).trans settled)
  · obtain ⟨inside, nearer⟩ := settled
    exact .updateThen (.pure ⟨Effect.element known inside, nearer⟩)

/-- A group of rows adds them inside its element. -/
theorem group_ends
    (sound : inner.Sound files longest steps affordable reference order)
    (columns : Nat)
    {name : String}
    (known : (name, []) ∈ flowVocabulary)
    (outlines : List RowOutline)
    (ready : Ready longest steps affordable before cursor.rest.length 1) :
    Ends before (group inner columns name outlines cursor)
      (group reference columns name outlines cursor)
      (Expected files affordable calm)
      (Settled before (Filled before cursor)) := by
  have knownGroup : (name, ([] : List Attribute).map Prod.fst) ∈ flowVocabulary :=
    known
  exact enclosed_ends knownGroup ready fun middle readyInside =>
    rows_ends sound columns readyInside

/-- The groups of a table add one or two elements. -/
theorem groups_ends
    (sound : inner.Sound files longest steps affordable reference order)
    (columns : Nat)
    (outlines : List RowOutline)
    (ready : Ready longest steps affordable before cursor.rest.length 1) :
    Ends before (groups inner columns outlines cursor)
      (groups reference columns outlines cursor)
      (Expected files affordable calm)
      (Settled before (Filled before cursor)) := by
  have knownHead : ("thead", []) ∈ flowVocabulary := by
    simp [flowVocabulary]
  have knownBody : ("tbody", []) ∈ flowVocabulary := by
    simp [flowVocabulary]
  unfold groups
  split
  next first second others =>
    refine followed_ends (group_ends sound columns knownHead [first] ready) ?_
    intro next middle filled
    exact group_ends sound columns knownBody (second :: others) (filled.ready ready)
  next =>
    exact group_ends sound columns knownBody outlines ready

/-- The rows of a table add its groups inside one element, or nothing. -/
theorem body_ends
    (sound : inner.Sound files longest steps affordable reference order)
    (outlines : List RowOutline)
    (ready : Ready longest steps affordable before cursor.rest.length 1) :
    Ends before (body inner outlines cursor) (body reference outlines cursor)
      (Expected files affordable calm)
      (Settled before (Filled before cursor)) := by
  unfold body
  split
  next =>
    exact .pure ⟨.refl before, Nat.le_refl _⟩
  next first others =>
    have known :
        ("tgroup", ([("cols", toString first.cells.length)] : List Attribute).map Prod.fst) ∈
          flowVocabulary := by
      simp [flowVocabulary]
    exact enclosed_ends known ready fun middle readyInside =>
      groups_ends sound first.cells.length (first :: others) readyInside

/-- A title, what is inside a table, and the bracket that closes the table. -/
private theorem titled_ends
    (sound : inner.Sound files longest steps affordable reference order)
    (position : Position)
    {title name : String}
    {content contentReference : Rule}
    (readyTitle : Ready longest steps affordable before title.length 1)
    (ready : Ready longest steps affordable before cursor.rest.length 1)
    (contentEnds :
      ∀ middle,
        Ready longest steps affordable middle cursor.rest.length 1 →
        Ends middle (content cursor) (contentReference cursor) (Expected files affordable calm)
          (Settled middle (Filled middle cursor))) :
    Ends before
      (do
        if ← titlePhrase inner position title then
          match ← content cursor with
          | none => return none
          | some next =>
              match closing next with
              | none => return none
              | some after =>
                  update fun state => state.endElement name
                  return some after
        else
          return none)
      (do
        if ← titlePhrase reference position title then
          match ← contentReference cursor with
          | none => return none
          | some next =>
              match closing next with
              | none => return none
              | some after =>
                  update fun state => state.endElement name
                  return some after
        else
          return none)
      (Expected files affordable calm)
      (Settled before fun next after =>
        ∃ inside,
          Effect flowVocabulary before inside ∧
            after = inside.endElement name ∧ next.rest.length < cursor.rest.length) := by
  refine (titlePhrase_ends sound position readyTitle).bind ?_
  rintro (_ | _) middle finished
  · exact .pure finished
  · have titled : Effect flowVocabulary before middle := finished
    have readyContent : Ready longest steps affordable middle cursor.rest.length 1 :=
      ready.alike titled.alike (Nat.le_refl _) (Nat.le_refl _)
    refine (contentEnds middle readyContent).bind ?_
    rintro (_ | next) inside settled
    · exact .pure (titled.precedes.trans settled)
    · obtain ⟨effect, nearer⟩ := settled
      have filled : Effect flowVocabulary before inside := titled.trans effect
      simp only
      cases closed : closing next with
      | none =>
          exact .pure filled.precedes
      | some after =>
          have afterBracket := length_rest_closing_lt closed
          exact .updateThen (.pure ⟨inside, filled, rfl, by omega⟩)

/-- How a table ends. -/
theorem rule_ends
    (sound : inner.Sound files longest steps affordable reference order)
    (ready : Ready longest steps affordable before cursor.rest.length 2) :
    Ends before (rule inner cursor) (rule reference cursor)
      (Expected files affordable calm)
      (Settled before (Block.Applied longest before cursor)) := by
  unfold rule
  cases read : cursor.keywordWithId? "[table" with
  | none =>
      exact .pure (Precedes.refl before)
  | some found =>
      obtain ⟨given, afterKeyword⟩ := found
      have pastKeyword := Cursor.length_rest_keywordWithId?_le read
      have keywordLength : "[table".length = 6 := rfl
      have blanks := afterKeyword.length_rest_skipHorizontal_le
      have titleShort := afterKeyword.skipHorizontal.length_tableTitle_le
      have pastTitle := afterKeyword.skipHorizontal.length_rest_tableTitle_le
      simp only
      generalize afterKeyword.skipHorizontal.tableTitle = titled at titleShort pastTitle
      obtain ⟨title, afterTitle⟩ := titled
      simp only at titleShort pastTitle ⊢
      cases afterTitle.outlineRows? with
      | none =>
          exact .pure (Precedes.refl before)
      | some outline =>
          have opens :
              before.Precedes
                (before.beginTable given (Text.trimmed title) (!Text.isBlankText title)) :=
            .beginTable ..
          have same :=
            Alike.beginTable before given (Text.trimmed title) (!Text.isBlankText title)
          apply Ends.updateThen
          refine
            (titled_ends sound _ (ready.alike same (by omega) (by omega))
              (ready.alike same (by omega) (by omega)) fun middle readyInside =>
                body_ends sound outline.rows readyInside).imp (fun _ => id) ?_
          rintro (_ | next) after settled
          · exact opens.trans settled
          · obtain ⟨inside, effect, rfl, nearer⟩ := settled
            exact ⟨.table given (Text.trimmed title) (!Text.isBlankText title) effect, by omega⟩

/-! ## Lists of variables -/

/-- How an entry of a list of variables ends. -/
theorem variableEntry_ends
    (sound : inner.Sound files longest steps affordable reference order)
    (outline : RowOutline)
    (ready : Ready longest steps affordable before cursor.rest.length 1) :
    Ends before (variableEntry inner outline cursor) (variableEntry reference outline cursor)
      (Expected files affordable calm)
      (Settled before (Filled before cursor)) := by
  have toEntry := cursor.length_rest_skipComments_le
  have knownEntry : ("varlistentry", ([] : List Attribute).map Prod.fst) ∈ flowVocabulary := by
    simp [flowVocabulary]
  have knownTerm : ("term", ([] : List Attribute).map Prod.fst) ∈ flowVocabulary := by
    simp [flowVocabulary]
  have knownItem : ("listitem", ([] : List Attribute).map Prod.fst) ∈ flowVocabulary := by
    simp [flowVocabulary]
  have knownPara : ("simpara", ([] : List Attribute).map Prod.fst) ∈ flowVocabulary := by
    simp [flowVocabulary]
  have bare : ∀ element, none = some element → (element, []) ∈ flowVocabulary := by
    rintro element ⟨⟩
  have opened :
      Passage flowVocabulary [] [("term", []), ("varlistentry", [])] before
        (((before.checkVariable cursor.skipComments.position
          outline.cells.length).startElement "varlistentry").startElement "term") := by
    refine Passage.trans ?_ ((Passage.startElement _ knownEntry).trans
      (.startElement _ knownTerm))
    unfold checkVariable
    split
    · exact .refl before
    · exact .reportError ..
  unfold variableEntry
  apply Ends.updateThen
  have readyTerm :
      Ready longest steps affordable
        (((before.checkVariable cursor.skipComments.position
          outline.cells.length).startElement "varlistentry").startElement "term")
        (cursor.skipComments.advance 1).rest.length 1 := by
    simp only [Cursor.rest_advance, List.length_drop]
    exact ready.alike opened.alike (by omega) (by omega)
  refine (cells_ends sound bare readyTerm).bind ?_
  rintro (_ | afterTerm) middle settled
  · exact .pure (opened.precedes.trans settled)
  · obtain ⟨term, nearer⟩ := settled
    have turned :
        Passage flowVocabulary [("term", []), ("varlistentry", [])]
          [("simpara", []), ("listitem", []), ("varlistentry", [])] middle
          (((middle.endElement "term").startElement "listitem").startElement "simpara") :=
      ((Passage.endElement middle knownTerm []).trans (.startElement _ knownItem)).trans
        (.startElement _ knownPara)
    have soFar := (opened.trans (term.inside _)).trans turned
    have readyMeaning :
        Ready longest steps affordable
          (((middle.endElement "term").startElement "listitem").startElement "simpara")
          afterTerm.rest.length 1 := by
      have readyMiddle := Filled.ready readyTerm ⟨term, nearer⟩
      exact readyMiddle.alike turned.alike (Nat.le_refl _) (Nat.le_refl _)
    apply Ends.updateThen
    refine (cells_ends sound bare readyMeaning).bind ?_
    rintro (_ | next) last settledLast
    · exact .pure (soFar.precedes.trans settledLast)
    · obtain ⟨meaning, nearerLast⟩ := settledLast
      simp only [Cursor.rest_advance, List.length_drop] at nearer
      have closes :
          Passage flowVocabulary [("simpara", []), ("listitem", []), ("varlistentry", [])] [] last
            (((last.endElement "simpara").endElement "listitem").endElement "varlistentry") :=
        ((Passage.endElement last knownPara []).trans (.endElement _ knownItem [])).trans
          (.endElement _ knownEntry [])
      have effect := (soFar.trans (meaning.inside _)).trans closes
      refine .updateThen (.pure (.of_last effect.precedes ?_))
      intro after closed
      have afterBracket := length_rest_closing_lt closed
      exact ⟨effect, by omega⟩

/-- Entries one after the other add one fragment after the other. -/
theorem variableEntries_ends
    (sound : inner.Sound files longest steps affordable reference order)
    {outlines : List RowOutline}
    (ready : Ready longest steps affordable before cursor.rest.length 1) :
    Ends before (variableEntries inner outlines cursor)
      (variableEntries reference outlines cursor)
      (Expected files affordable calm)
      (Settled before (Filled before cursor)) := by
  induction outlines generalizing before cursor with
  | nil =>
      exact .pure ⟨.refl before, Nat.le_refl _⟩
  | cons outline others inductionHypothesis =>
      unfold variableEntries
      refine followed_ends (variableEntry_ends sound outline ready) ?_
      intro next middle filled
      exact inductionHypothesis (filled.ready ready)

/-- How a list of variables ends. -/
theorem variableList_ends
    (sound : inner.Sound files longest steps affordable reference order)
    (ready : Ready longest steps affordable before cursor.rest.length 2) :
    Ends before (variableList inner cursor) (variableList reference cursor)
      (Expected files affordable calm)
      (Settled before (Block.Applied longest before cursor)) := by
  have known : ("variablelist", ([] : List Attribute).map Prod.fst) ∈ flowVocabulary := by
    simp [flowVocabulary]
  unfold variableList
  cases read : cursor.keyword? "[variablelist" with
  | none =>
      exact .pure (Precedes.refl before)
  | some afterKeyword =>
      have pastKeyword := Cursor.length_rest_keyword? read
      have keywordLength : "[variablelist".length = 13 := rfl
      have blanks := afterKeyword.length_rest_skipHorizontal_le
      have titleShort := afterKeyword.skipHorizontal.length_tableTitle_le
      have pastTitle := afterKeyword.skipHorizontal.length_rest_tableTitle_le
      simp only
      generalize afterKeyword.skipHorizontal.tableTitle = titled at titleShort pastTitle
      obtain ⟨title, afterTitle⟩ := titled
      simp only at titleShort pastTitle ⊢
      cases afterTitle.outlineRows? with
      | none =>
          exact .pure (Precedes.refl before)
      | some outline =>
          have same : before.Alike (before.startElement "variablelist") :=
            ⟨rfl, rfl, rfl, rfl, rfl⟩
          apply Ends.updateThen
          refine
            (titled_ends sound _ (ready.alike same (by omega) (by omega))
              (ready.alike same (by omega) (by omega)) fun middle readyInside =>
                variableEntries_ends sound readyInside).imp (fun _ => id) ?_
          rintro (_ | next) after settled
          · exact (Precedes.emit before _).trans settled
          · obtain ⟨inside, effect, rfl, nearer⟩ := settled
            exact ⟨.flow (Effect.element known effect), by omega⟩

end DocMarkup.Table
