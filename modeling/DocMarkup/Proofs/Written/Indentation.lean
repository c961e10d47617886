import DocMarkup.Proofs.Written.Block

namespace DocMarkup

open Compile Text

/-!
# Indented code read back

Lines that are written behind one margin are read as code told by its indentation,
and what is kept is the lines as they were before. The margin that the lines share is
no longer than the one they were written behind as soon as one of them starts right
behind it. The first line keeps every other block from starting there: it starts with
a blank, and something stands on it.
-/

namespace Text

variable {margin line : List Char} {codeLines : List (List Char)}

/-! ## Lines -/

/-- A text without line feeds is one line. -/
theorem linesFrom_of_notMem
    {characters : List Char}
    (oneLine : '\n' ∉ characters)
    (front : List Char) :
    linesFrom front characters = [front.reverse ++ characters] := by
  induction characters generalizing front with
  | nil =>
      simp [linesFrom]
  | cons first rest inductionHypothesis =>
      rw [List.mem_cons, not_or] at oneLine
      rw [linesFrom, if_neg (by simpa using Ne.symm oneLine.1), inductionHypothesis oneLine.2]
      simp

/-- Lines that each end with a line feed are those of the text, with an empty one behind them. -/
theorem lines_flatMap_lineFeed
    (areLines : ∀ line ∈ codeLines, '\n' ∉ line) :
    lines (codeLines.flatMap fun line => line ++ ['\n']) = codeLines ++ [[]] := by
  induction codeLines with
  | nil =>
      rfl
  | cons line others inductionHypothesis =>
      rw [List.forall_mem_cons] at areLines
      calc
        lines ((line :: others).flatMap fun line => line ++ ['\n']) =
            linesFrom [] (line ++ '\n' :: others.flatMap fun line => line ++ ['\n']) := by
          simp [lines]
        _ = linesFrom [] line ++ lines (others.flatMap fun line => line ++ ['\n']) :=
          linesFrom_append_cons [] line _
        _ = (line :: others) ++ [[]] := by
          rw [linesFrom_of_notMem areLines.1, inductionHypothesis areLines.2]
          rfl

/-! ## Margins -/

/-- What is put behind a margin starts with it and goes on as it did. -/
theorem commonStart_append (margin first second : List Char) :
    commonStart (margin ++ first) (margin ++ second) = margin ++ commonStart first second := by
  induction margin with
  | nil =>
      rfl
  | cons character rest inductionHypothesis =>
      simp [commonStart, inductionHypothesis]

/-- Nothing is at the front of no text. -/
@[simp] theorem commonStart_nil (text : List Char) : commonStart text [] = [] := by
  cases text <;> rfl

/-- Texts behind a margin start with it and with what they shared. -/
theorem foldl_commonStart_append (margin first : List Char) (others : List (List Char)) :
    (others.map (margin ++ ·)).foldl commonStart (margin ++ first) =
      margin ++ others.foldl commonStart first := by
  induction others generalizing first with
  | nil =>
      rfl
  | cons second others inductionHypothesis =>
      rw [List.map_cons, List.foldl_cons, List.foldl_cons, commonStart_append,
        inductionHypothesis]

/-- Texts of which one is empty share nothing. -/
theorem foldl_commonStart_eq_nil
    {first : List Char}
    {others : List (List Char)}
    (oneIsEmpty : first = [] ∨ [] ∈ others) :
    others.foldl commonStart first = [] := by
  induction others generalizing first with
  | nil =>
      simpa using oneIsEmpty
  | cons second others inductionHypothesis =>
      refine inductionHypothesis ?_
      rw [List.mem_cons] at oneIsEmpty
      obtain rfl | rfl | later := oneIsEmpty
      · exact .inl (by cases second <;> rfl)
      · exact .inl (commonStart_nil first)
      · exact .inr later

/-- A line behind a margin; one without characters has none. -/
def indentedLine (margin line : List Char) : List Char :=
  if line.isEmpty then [] else margin ++ line

/-- Lines behind a margin, each with its line feed. -/
def indentedText (margin : List Char) (codeLines : List (List Char)) : List Char :=
  (codeLines.map (indentedLine margin)).flatMap fun line => line ++ ['\n']

/-- A line with something on it that is not white space. -/
def IsVisible (line : List Char) : Prop :=
  ∃ character ∈ line, isBlank character = false

instance : DecidablePred IsVisible :=
  fun line =>
    decidable_of_iff ((line.any fun character => !isBlank character) = true)
      (by simp [IsVisible])

/--
Lines of code that indentation can tell: they are empty or visible, visible at both
ends of the code, and one of them starts without a blank.
-/
structure IsIndentable (codeLines : List (List Char)) : Prop where
  areLines : ∀ line ∈ codeLines, '\n' ∉ line
  areEmptyOrVisible : ∀ line ∈ codeLines, line = [] ∨ IsVisible line
  firstIsSome : ∃ first ∈ codeLines.head?, first ≠ []
  lastIsSome : ∃ last ∈ codeLines.getLast?, last ≠ []
  oneTouchesMargin :
    ∃ line ∈ codeLines, ∃ first ∈ line.head?, isHorizontal first = false

/-- A visible line has a first character that is neither a space nor a tab. -/
theorem IsVisible.exists_front
    (visible : IsVisible line) :
    ∃ front first rest,
      line = front ++ first :: rest ∧ front.all isHorizontal = true ∧
        isHorizontal first = false := by
  obtain ⟨front, behind, rfl, areBlanks, stops⟩ := exists_run isHorizontal line
  cases behind with
  | nil =>
      obtain ⟨character, member, notBlank⟩ := visible
      rw [List.append_nil] at member
      have horizontal := List.all_eq_true.mp areBlanks character member
      simp [isBlank_of_isHorizontal character horizontal] at notBlank
  | cons first rest =>
      refine ⟨front, first, rest, rfl, areBlanks, ?_⟩
      cases horizontal : isHorizontal first with
      | false => rfl
      | true => simp [Stops, horizontal] at stops

/-- A visible line is not blank, wherever it is put. -/
theorem IsVisible.not_all
    (visible : IsVisible line)
    (margin : List Char) :
    (margin ++ line).all isBlank = false ∧ isBlankLine (margin ++ line) = false := by
  obtain ⟨character, member, notBlank⟩ := visible
  have isThere : character ∈ margin ++ line := List.mem_append_right margin member
  refine ⟨List.all_eq_false.mpr ⟨character, isThere, by simp [notBlank]⟩,
    List.all_eq_false.mpr ⟨character, isThere, fun horizontal => ?_⟩⟩
  simp [isBlank_of_isHorizontal character horizontal] at notBlank

/-- A line that is not empty is visible. -/
theorem IsIndentable.isVisible
    (indentable : IsIndentable codeLines)
    (listed : line ∈ codeLines)
    (notEmpty : line ≠ []) :
    IsVisible line :=
  (indentable.areEmptyOrVisible line listed).resolve_left notEmpty

/-- Code behind a margin starts with blanks, and goes on with something else on its first line. -/
theorem IsIndentable.exists_front
    (indentable : IsIndentable codeLines)
    (margin : List Char) :
    ∃ front first behind,
      indentedText margin codeLines = margin ++ (front ++ first :: behind) ∧
        front.all isHorizontal = true ∧ isHorizontal first = false ∧ first ≠ '\n' := by
  obtain ⟨line, isFirst, notEmpty⟩ := indentable.firstIsSome
  obtain ⟨others, rfl⟩ := List.head?_eq_some_iff.mp isFirst
  obtain ⟨front, first, rest, rfl, areBlanks, notHorizontal⟩ :=
    (indentable.isVisible List.mem_cons_self notEmpty).exists_front
  refine ⟨front, first, rest ++ '\n' :: indentedText margin others, ?_, areBlanks,
    notHorizontal, ?_⟩
  · simp [indentedText, indentedLine]
  · rintro rfl
    exact indentable.areLines _ List.mem_cons_self (by simp)

/-- The blanks at the front of a line behind a margin are the margin and those of the line. -/
theorem takeWhile_append_margin
    (areBlanks : margin.all isHorizontal = true) :
    (margin ++ line).takeWhile isHorizontal = margin ++ line.takeWhile isHorizontal :=
  List.takeWhile_append_of_pos (List.all_eq_true.mp areBlanks)

/-- The margins of the lines behind a margin are those that they had, behind it. -/
theorem margins_indented
    (areBlanks : margin.all isHorizontal = true)
    (areEmptyOrVisible : ∀ line ∈ codeLines, line = [] ∨ IsVisible line) :
    ((codeLines.map (indentedLine margin)).filter fun line => !isBlankLine line).map
        (·.takeWhile isHorizontal) =
      ((codeLines.filter fun line => !line.isEmpty).map (·.takeWhile isHorizontal)).map
        (margin ++ ·) := by
  induction codeLines with
  | nil =>
      rfl
  | cons line others inductionHypothesis =>
      rw [List.forall_mem_cons] at areEmptyOrVisible
      have later := inductionHypothesis areEmptyOrVisible.2
      obtain rfl | visible := areEmptyOrVisible.1
      · simpa [indentedLine, isBlankLine] using later
      · have notEmpty : line.isEmpty = false := by
          obtain ⟨character, member, -⟩ := visible
          simpa using List.ne_nil_of_mem member
        simp only [List.map_cons, indentedLine, notEmpty, Bool.false_eq_true, ↓reduceIte,
          List.filter_cons, (visible.not_all margin).2, Bool.not_false,
          takeWhile_append_margin areBlanks]
        rw [later]

/-- Lines that are written behind a margin share it, and no more. -/
theorem IsIndentable.sharedMargin_eq
    (indentable : IsIndentable codeLines)
    (areBlanks : margin.all isHorizontal = true) :
    sharedMargin (codeLines.map (indentedLine margin)) = margin := by
  have touches :
      [] ∈ (codeLines.filter fun line => !line.isEmpty).map (·.takeWhile isHorizontal) := by
    obtain ⟨line, listed, first, starts, notHorizontal⟩ := indentable.oneTouchesMargin
    obtain ⟨rest, rfl⟩ := List.head?_eq_some_iff.mp starts
    exact List.mem_map.mpr
      ⟨first :: rest, List.mem_filter.mpr ⟨listed, rfl⟩, by simp [notHorizontal]⟩
  unfold sharedMargin
  rw [margins_indented areBlanks indentable.areEmptyOrVisible]
  cases margins : (codeLines.filter fun line => !line.isEmpty).map (·.takeWhile isHorizontal) with
  | nil =>
      simp [margins] at touches
  | cons first others =>
      rw [margins, List.mem_cons] at touches
      have sharesNothing : others.foldl commonStart first = [] :=
        foldl_commonStart_eq_nil (touches.imp_left Eq.symm)
      rw [List.map_cons]
      show List.foldl commonStart (margin ++ first) (others.map (margin ++ ·)) = margin
      rw [foldl_commonStart_append, sharesNothing, List.append_nil]

/-- What the shared margin is taken off from are the lines that were put behind it. -/
theorem IsIndentable.dedentLines_eq
    (indentable : IsIndentable codeLines)
    (areBlanks : margin.all isHorizontal = true) :
    dedentLines (codeLines.map (indentedLine margin)) = codeLines := by
  unfold dedentLines
  rw [indentable.sharedMargin_eq areBlanks, List.map_map]
  refine (List.map_congr_left fun line listed => ?_).trans (List.map_id _)
  cases line with
  | nil =>
      rfl
  | cons first rest =>
      have visible := indentable.isVisible listed (List.cons_ne_nil first rest)
      simp [indentedLine, (visible.not_all margin).2]

end Text

namespace Cursor

variable {margin : List Char} {codeLines : List (List Char)} {cursor next : Cursor}

/-- Lines behind a margin, and an empty one, all belong to indented code. -/
theorem takeWhile_continuesCode
    (areBlanks : margin.all isHorizontal = true)
    (isMargin : margin ≠ []) :
    (codeLines.map (indentedLine margin) ++ [[]]).takeWhile continuesCode =
      codeLines.map (indentedLine margin) ++ [[]] := by
  obtain ⟨first, rest, rfl⟩ := List.exists_cons_of_ne_nil isMargin
  rw [List.all_cons, Bool.and_eq_true] at areBlanks
  refine (List.takeWhile_append_of_pos ?_).trans (by simp [continuesCode])
  intro written listed
  obtain ⟨line, -, rfl⟩ := List.mem_map.mp listed
  unfold indentedLine
  split <;> simp [continuesCode, areBlanks.1]

/-- Behind a visible line, only the empty lines at the end are dropped. -/
theorem withoutFinalBlanks_indented
    (indentable : IsIndentable codeLines)
    (margin : List Char) :
    withoutFinalBlanks (codeLines.map (indentedLine margin) ++ [[]]) =
      codeLines.map (indentedLine margin) := by
  obtain ⟨last, isLast, notEmpty⟩ := indentable.lastIsSome
  obtain ⟨front, rfl⟩ := List.getLast?_eq_some_iff.mp isLast
  have visible := indentable.isVisible (by simp) notEmpty
  simp [withoutFinalBlanks, indentedLine, notEmpty, List.dropWhile_cons, (visible.not_all margin).1]

/-- Lines behind a margin are read as the code that they were. -/
theorem indentedCode?_eq
    (indentable : IsIndentable codeLines)
    (areBlanks : margin.all isHorizontal = true)
    (isMargin : margin ≠ [])
    (atLineStart : cursor.isAtLineStart = true)
    (reads : cursor.Reads (indentedText margin codeLines) next)
    (ends : next.rest = []) :
    cursor.indentedCode? = some (String.ofList (unlines codeLines), next) := by
  have remaining : cursor.rest = indentedText margin codeLines := by
    rw [reads.rest_eq, ends, List.append_nil]
  have areLines : ∀ line ∈ codeLines.map (indentedLine margin), '\n' ∉ line := by
    intro written listed
    obtain ⟨line, isLine, rfl⟩ := List.mem_map.mp listed
    unfold indentedLine
    split
    · exact List.not_mem_nil
    · rw [List.mem_append, not_or]
      refine ⟨fun inMargin => ?_, indentable.areLines line isLine⟩
      exact absurd (List.all_eq_true.mp areBlanks _ inMargin) (by decide)
  have taken :
      (lines cursor.rest).takeWhile continuesCode =
        codeLines.map (indentedLine margin) ++ [[]] := by
    rw [remaining, indentedText, lines_flatMap_lineFeed areLines,
      takeWhile_continuesCode areBlanks isMargin]
  have startsHorizontal : cursor.rest.head?.any isHorizontal = true := by
    obtain ⟨line, isFirst, notEmpty⟩ := indentable.firstIsSome
    obtain ⟨others, rfl⟩ := List.head?_eq_some_iff.mp isFirst
    obtain ⟨first, rest, rfl⟩ := List.exists_cons_of_ne_nil isMargin
    rw [List.all_cons, Bool.and_eq_true] at areBlanks
    simp [remaining, indentedText, indentedLine, notEmpty, areBlanks.1]
  have isSome : (codeLines.map (indentedLine margin)).isEmpty = false := by
    obtain ⟨line, isFirst, -⟩ := indentable.firstIsSome
    obtain ⟨others, rfl⟩ := List.head?_eq_some_iff.mp isFirst
    rfl
  -- The empty line behind the last line feed counts one character that is not there.
  have isAfter :
      cursor.advance (lengthOfLines (codeLines.map (indentedLine margin) ++ [[]])) = next := by
    rw [← lines_flatMap_lineFeed areLines, ← indentedText, ← remaining, lines,
      lengthOfLines_linesFrom]
    refine eq_of_offset reads.source.symm ?_
    rw [reads.offset, ← remaining]
    simp [advance]
  simp only [indentedCode?, atLineStart, startsHorizontal, taken,
    withoutFinalBlanks_indented indentable, isSome, indentable.dedentLines_eq areBlanks,
    isAfter, Bool.and_self, Bool.false_eq_true, ↓reduceIte]

/-- Where blanks stand before something else on the line, the line is not blank. -/
theorem blankLine?_eq_none_of_blanks
    {blanks rest : List Char}
    {first : Char}
    (areBlanks : blanks.all isHorizontal = true)
    (remaining : cursor.rest = blanks ++ first :: rest)
    (notHorizontal : isHorizontal first = false)
    (notLineFeed : first ≠ '\n') :
    cursor.blankLine? = none := by
  have reads := Reads.of_rest remaining
  have behind := reads.rest_of remaining
  generalize cursor.advance blanks.length = middle at reads behind
  have afterBlanks : cursor.skipHorizontal = middle :=
    reads.skip_eq areBlanks (by rw [behind]; exact .cons notHorizontal _)
  have notAtEnd : middle.isAtEnd = false := by
    simp [isAtEnd, behind]
  have notRead : middle.character? '\n' = none :=
    character?_eq_none (by simp [behind, notLineFeed])
  simp [blankLine?, lineEnd?, afterBlanks, notAtEnd, notRead]

end Cursor

namespace Block

variable {environment : Environment} {before after : CompilerState} {inner : Inner}
  {cursor next value : Cursor} {first : Char}

/-- Where a blank stands, no list starts. -/
theorem listing_yields_none_of_horizontal
    (starts : cursor.rest.head? = some first)
    (horizontal : isHorizontal first = true) :
    Yields before (Listing.rule inner cursor) none before := by
  obtain ⟨rest, remaining⟩ := List.head?_eq_some_iff.mp starts
  unfold Listing.rule
  cases marked : cursor.listMarker? with
  | none =>
      exact .pure none
  | some found =>
      obtain ⟨marker, content⟩ := found
      have isIndented : marker.indent = cursor.rest.takeWhile isHorizontal := by
        simp only [Cursor.listMarker?, Option.map_eq_some_iff] at marked
        obtain ⟨found, isMarker, shown⟩ := marked
        simp only [Prod.mk.injEq] at shown
        obtain ⟨rfl, -⟩ := shown
        unfold DocMarkup.listMarker? at isMarker
        grind
      simp only [isIndented, remaining, List.takeWhile_cons, horizontal, ↓reduceIte,
        List.isEmpty_cons, Bool.false_eq_true]
      exact .pure none

/-- Code behind a margin is read where no other block may start, and then what follows it. -/
theorem step_of_indentedCode
    {margin : List Char}
    {codeLines : List (List Char)}
    (indentable : IsIndentable codeLines)
    (areBlanks : margin.all isHorizontal = true)
    (isMargin : margin ≠ [])
    (atLineStart : cursor.isAtLineStart = true)
    (reads : cursor.Reads (indentedText margin codeLines) next)
    (ends : next.rest = [])
    (settled : before.pendingParagraph = false)
    (goesOn :
      Yields (before.withOutput { events := codeEvents (String.ofList (unlines codeLines)) })
        (inner.blocks false next) value after) :
    Yields before (Block.step inner false cursor) value after := by
  obtain ⟨front, visibleCharacter, behind, shape, frontBlanks, notHorizontal, notLineFeed⟩ :=
    indentable.exists_front margin
  have remaining : cursor.rest = (margin ++ front) ++ visibleCharacter :: behind := by
    rw [reads.rest_eq, ends, shape]
    simp
  have notBlank : cursor.blankLine? = none :=
    Cursor.blankLine?_eq_none_of_blanks (by rw [List.all_append, areBlanks, frontBlanks]; rfl)
      remaining notHorizontal notLineFeed
  have notAtEnd : cursor.isAtEnd = false := by
    simp [Cursor.isAtEnd, remaining]
  have isRead := Cursor.indentedCode?_eq indentable areBlanks isMargin atLineStart reads ends
  obtain ⟨first, blanks, rfl⟩ := List.exists_cons_of_ne_nil isMargin
  rw [List.all_cons, Bool.and_eq_true] at areBlanks
  have starts : cursor.rest.head? = some first := by
    rw [remaining]
    rfl
  have otherBlock : first ≠ '[' ∧ first ≠ codeQuote := by
    constructor <;> rintro rfl <;> exact absurd areBlanks.1 (by decide)
  have applies :
      Yields before (firstOf (rules inner false) cursor) (some next)
        (before.withOutput { events := codeEvents (String.ofList (unlines codeLines)) }) := by
    refine Yields.firstOf [element inner false, fencedCode, Listing.rule inner] ?_ ?_
    · simp only [List.forall_mem_cons, List.not_mem_nil, false_implies, implies_true, and_true]
      exact
        ⟨element_yields_none (by simp [starts, otherBlock.1]),
          fencedCode_yields_none starts otherBlock.2,
          listing_yields_none_of_horizontal starts areBlanks.1⟩
    · simp only [indentedCode, isRead]
      rw [← CompilerState.codeBlock_eq_withOutput settled]
      exact Yields.updateThen (.pure _)
  simp only [step, notAtEnd, notBlank, Bool.false_eq_true, Bool.false_and, ↓reduceIte]
  exact applies.bind goesOn

/-- Code with a line that is not empty is output as a text. -/
theorem textEvents_unlines
    {codeLines : List (List Char)}
    (indentable : IsIndentable codeLines) :
    textEvents (String.ofList (unlines codeLines)) =
      [.text (String.ofList (unlines codeLines))] := by
  obtain ⟨line, isFirst, notEmpty⟩ := indentable.firstIsSome
  obtain ⟨others, rfl⟩ := List.head?_eq_some_iff.mp isFirst
  have isSome : String.ofList (unlines (line :: others)) ≠ "" := by
    intro isEmpty
    have nothing : unlines (line :: others) = [] := String.ofList_inj.mp isEmpty
    cases others with
    | nil => simp [unlines, notEmpty] at nothing
    | cons second rest => simp [unlines, List.intercalate_cons_cons] at nothing
  simp [textEvents, isSome]

/--
Code is read back as the lines that were written behind a margin of spaces, however many
they are: the whole text is read, and all that is output is the lines between the marks
of a block of code.
-/
theorem indented_code_reads_back
    (environment : Environment)
    {width : Nat}
    (isIndented : 1 ≤ width)
    {codeLines : List (List Char)}
    (indentable : IsIndentable codeLines)
    (source : Source)
    (isWritten :
      source.text = String.ofList (indentedText (List.replicate width ' ') codeLines))
    (workspace : Workspace)
    (settled : workspace.state.pendingParagraph = false) :
    ∃ after : Workspace,
      withFreshMemory
          (parsing environment source.text.length fun inner => inner.blocks false source.cursor)
          workspace =
        .ok (source.cursorAt source.text.length) after ∧
        after.unclosed = workspace.unclosed ∧
        after.state =
          workspace.state.withOutput
            { events :=
                [.opening "programlisting" [],
                  .text (String.ofList (unlines codeLines)),
                  .closing "programlisting"] } := by
  have areBlanks : (List.replicate width ' ').all isHorizontal = true := by
    rw [List.all_replicate]
    split <;> rfl
  have isMargin : List.replicate width ' ' ≠ [] := by
    rw [ne_eq, List.replicate_eq_nil_iff]
    omega
  refine exists_blocks_of_source environment source isWritten workspace ?_
  intro steps enough reads
  have ends : (source.cursorAt source.text.length).rest = [] := Cursor.Reads.rest_end source
  refine
    step_of_indentedCode indentable areBlanks isMargin rfl reads ends settled ?_
  obtain ⟨fewer, rfl⟩ : ∃ fewer, steps = fewer + 1 :=
    Nat.exists_eq_add_of_le' (Nat.zero_lt_of_lt enough)
  rw [codeEvents, textEvents_unlines indentable]
  exact blocks_at_end environment (fewer + 1) ends

/-- The first line reads like a list item, the last one like a fence, and tabs stand in one. -/
theorem indented_code_reads_back_uneven :
    let codeLines : List (List Char) :=
      ["* item".toList, [], "\t[section]\t".toList, [], [], "  end".toList, fence]
    let source : Source :=
      { text := String.ofList (indentedText (List.replicate 2 ' ') codeLines), name := "code" }
    let environment : Environment :=
      { files := ⟨[], [], []⟩, encoding := .html, moment := .fixed }
    let state : CompilerState :=
      { macros := MacroTable.define {} "item" "name", phraseDepth := phraseLimit }
    1 ≤ 2 ∧ IsIndentable codeLines ∧
      ∃ after : Workspace,
        withFreshMemory
            (parsing environment source.text.length fun inner => inner.blocks false source.cursor)
            { state := state } =
          .ok (source.cursorAt source.text.length) after ∧
          after.unclosed = [] ∧
          after.state =
            state.withOutput
              { events :=
                  [.opening "programlisting" [],
                    .text (String.ofList (unlines codeLines)),
                    .closing "programlisting"] } := by
  intro codeLines source environment state
  have indentable : IsIndentable codeLines :=
    { areLines := by decide
      areEmptyOrVisible := by decide
      firstIsSome := ⟨"* item".toList, rfl, by decide⟩
      lastIsSome := ⟨fence, rfl, by decide⟩
      oneTouchesMargin := ⟨"* item".toList, List.mem_cons_self, '*', rfl, rfl⟩ }
  exact
    ⟨by decide, indentable,
      indented_code_reads_back environment (by decide) indentable source rfl { state := state } rfl⟩

end Block

end DocMarkup
