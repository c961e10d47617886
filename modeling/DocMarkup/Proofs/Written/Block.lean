import DocMarkup.Proofs.Written.Code
import DocMarkup.Proofs.Written.Output
import DocMarkup.Proofs.Written.Phrase

namespace DocMarkup

open Compile Text

/-!
# Blocks where they are written

Each line that a block is written with is read by the rule that it is meant for:
the rules tried before that one do not apply. What a rule gives is the output of
its block, and the blank line behind it is passed over.
-/

variable {environment : Environment} {before middle after : CompilerState} {inner : Inner}
  {cursor next : Cursor} {nested : Bool}

namespace Block

/-! ## Rules that do not apply -/

section NotApplicable

variable {front : List Char}

theorem comment_yields_none
    (reads : cursor.Reads front next)
    (differ : Differ "[/".toList front) :
    Yields before (comment cursor) none before := by
  simp only [comment, Cursor.comment?, reads.literal?_eq_none differ, Option.bind_none,
    Option.map_none]
  exact .pure none

theorem sectionStart_yields_none
    (reads : cursor.Reads front next)
    (differ : Differ "[section".toList front) :
    Yields before (sectionStart inner cursor) none before := by
  apply Yields.state
  split
  · exact .pure none
  · simp only [Cursor.keywordWithId?, reads.literal?_eq_none differ, Option.bind_none,
      Option.filter_none]
    exact .pure none

theorem sectionEnd_yields_none
    (reads : cursor.Reads front next)
    (differ : Differ "[endsect".toList front) :
    Yields before (sectionEnd cursor) none before := by
  apply Yields.state
  split
  · exact .pure none
  · simp only [Cursor.sectionEnd?, reads.literal?_eq_none differ, Option.bind_none]
    exact .pure none

theorem heading_yields_none
    (reads : cursor.Reads front next)
    (differ : ∀ entry ∈ Cursor.headingKeywords, Differ entry.1.toList front) :
    Yields before (heading inner cursor) none before := by
  have notRead : cursor.heading? = none := by
    refine List.findSome?_eq_none_iff.mpr ?_
    intro entry listed
    simp [reads.keyword?_eq_none (differ entry listed)]
  simp only [heading, notRead]
  exact .pure none

theorem macroDefinition_yields_none
    (reads : cursor.Reads front next)
    (differ : Differ "[def".toList front) :
    Yields before (macroDefinition cursor) none before := by
  simp only [macroDefinition, Cursor.macroHead?, reads.literal?_eq_none differ, Option.bind_none,
    Option.filter_none]
  exact .pure none

theorem templateDefinition_yields_none
    (reads : cursor.Reads front next)
    (differ : Differ "[template".toList front) :
    Yields before (templateDefinition cursor) none before := by
  simp only [templateDefinition, Cursor.templateHead?, reads.literal?_eq_none differ,
    Option.bind_none, Option.filter_none]
  exact .pure none

theorem inclusion_yields_none
    (reads : cursor.Reads front next)
    (differ : Differ "[include".toList front) :
    Yields before (inclusion inner cursor) none before := by
  simp only [inclusion, Cursor.inclusionHead?, reads.literal?_eq_none differ, Option.bind_none]
  exact .pure none

theorem externalInclusion_yields_none
    (reads : cursor.Reads front next)
    (differ : Differ "[xinclude".toList front) :
    Yields before (externalInclusion cursor) none before := by
  simp only [externalInclusion, reads.literal?_eq_none differ, Option.bind_none]
  exact .pure none

theorem admonition_yields_none
    (reads : cursor.Reads front next)
    (differ : ∀ name ∈ Cursor.admonitionNames, Differ ("[" ++ name).toList front) :
    Yields before (admonition inner cursor) none before := by
  have notRead : cursor.admonition? = none := by
    refine List.findSome?_eq_none_iff.mpr ?_
    intro name listed
    simp [reads.keyword?_eq_none (differ name listed)]
  simp only [admonition, notRead]
  exact .pure none

theorem quotation_yields_none
    (reads : cursor.Reads front next)
    (differ : Differ "[:".toList front) :
    Yields before (quotation inner cursor) none before := by
  simp only [quotation, reads.literal?_eq_none differ]
  exact .pure none

theorem preformatted_yields_none
    (reads : cursor.Reads front next)
    (differ : Differ "[pre".toList front) :
    Yields before (preformatted inner cursor) none before := by
  simp only [preformatted, reads.keyword?_eq_none differ]
  exact .pure none

end NotApplicable

/-! ## Steps -/

section Steps

variable {value : Cursor}

/-- A line with nothing but blanks on it is passed over. -/
theorem step_of_blanks
    {blanks : List Char}
    (areBlanks : blanks.all isHorizontal = true)
    (reads : cursor.Reads (blanks ++ ['\n']) next)
    (goesOn : Yields before (inner.blocks nested next) value after) :
    Yields before (Block.step inner nested cursor) value after := by
  obtain ⟨atLineFeed, readsBlanks, readsLineFeed⟩ := reads.split
  have notAtEnd : cursor.isAtEnd = false := by
    simp [Cursor.isAtEnd, reads.rest_eq]
  have afterBlanks : cursor.skipHorizontal = atLineFeed := by
    refine readsBlanks.skip_eq areBlanks ?_
    rw [readsLineFeed.rest_eq]
    exact .cons rfl _
  have noBracket : atLineFeed.isBefore ']' = false := by
    simp [Cursor.isBefore, readsLineFeed.rest_eq]
  have isBlank := Cursor.Reads.blankLine?_of_blanks areBlanks reads
  have restIsBlank := Cursor.Reads.blankLine?_of_blanks List.all_nil readsLineFeed
  cases nested with
  | false => simpa [step, notAtEnd, isBlank] using goesOn
  | true => simpa [step, notAtEnd, afterBlanks, noBracket, restIsBlank] using goesOn

/-- A blank line is passed over. -/
theorem step_of_blankLine
    (reads : cursor.Reads ['\n'] next)
    (goesOn : Yields before (inner.blocks nested next) value after) :
    Yields before (Block.step inner nested cursor) value after :=
  step_of_blanks List.all_nil reads goesOn

/-- At the end of the text, and inside a block at the bracket that closes it, no block follows. -/
theorem step_of_end
    (ends : cursor.rest = [] ∨ nested = true ∧ cursor.rest.head? = some ']') :
    Yields before (Block.step inner nested cursor) cursor before := by
  obtain atEnd | ⟨rfl, atBracket⟩ := ends
  · simp only [step, Cursor.isAtEnd, atEnd, List.isEmpty_nil, ↓reduceIte]
    exact .pure cursor
  · obtain ⟨rest, remaining⟩ := List.head?_eq_some_iff.mp atBracket
    have noBlanks : cursor.skipHorizontal = cursor := by
      refine Cursor.skip_eq_self ?_
      rw [remaining]
      exact .cons rfl _
    simp only [step, Cursor.isAtEnd, noBlanks, remaining, List.isEmpty_cons, Bool.false_eq_true,
      ↓reduceIte, Cursor.isBefore, List.head?_cons, BEq.rfl, Bool.and_self]
    exact .pure cursor

/-- At the end of the text, there are no more blocks. -/
theorem blocks_at_end
    (environment : Environment)
    (steps : Nat)
    (atEnd : cursor.rest = []) :
    Yields before ((Inner.within environment (steps + 1)).blocks nested cursor) cursor before := by
  show Yields before (Block.step (Inner.within environment steps) nested cursor) cursor before
  exact step_of_end (.inl atEnd)

/-- A source is read as a whole if its blocks are, with more steps than it has characters. -/
theorem exists_blocks_of_source
    (environment : Environment)
    {text : List Char}
    (source : Source)
    (isWritten : source.text = String.ofList text)
    (workspace : Workspace)
    (yields :
      ∀ steps,
        text.length < steps →
          source.cursor.Reads text (source.cursorAt source.text.length) →
            Yields workspace.state
              (Block.step (Inner.within environment (steps + 1)) false source.cursor)
              (source.cursorAt source.text.length) after) :
    ∃ final : Workspace,
      withFreshMemory
          (parsing environment source.text.length fun inner => inner.blocks false source.cursor)
          workspace =
        .ok (source.cursorAt source.text.length) final ∧
        final.unclosed = workspace.unclosed ∧ final.state = after := by
  have reads := Cursor.Reads.whole source
  rw [isWritten, String.toList_ofList, ← isWritten] at reads
  have length : source.text.length = text.length := by
    rw [isWritten, String.length_ofList]
  have enough :=
    inclusions_lt_enoughSteps environment workspace.state source.text.length 0
      (Nat.le_refl _) CompilerState.given_le_longestText
  obtain ⟨steps, isEnough⟩ :
      ∃ steps, enoughSteps environment workspace.state source.text.length = steps + 2 :=
    Nat.exists_eq_add_of_le' (by unfold includeLimit at enough; omega)
  have isRead :
      Yields workspace.state ((Inner.within environment (steps + 2)).blocks false source.cursor)
        (source.cursorAt source.text.length) after :=
    yields steps (by unfold includeLimit at enough; omega) reads
  rw [← isEnough] at isRead
  have parsed := Yields.parsing (fun inner => inner.blocks false source.cursor) isRead
  obtain ⟨consulted, reached⟩ := parsed.run_withFreshMemory workspace
  exact ⟨_, reached, rfl, rfl⟩

/-- Where no blank and no bracket is in the way, a block is read, and then those behind it. -/
theorem step_of_front
    {first : Char}
    (starts : cursor.rest.head? = some first)
    (notHorizontal : isHorizontal first = false)
    (notLineFeed : first ≠ '\n')
    (notBracket : first ≠ ']')
    (applies : Yields before (firstOf (rules inner nested) cursor) (some next) middle)
    (goesOn : Yields middle (inner.blocks nested next) value after) :
    Yields before (Block.step inner nested cursor) value after := by
  obtain ⟨rest, remaining⟩ := List.head?_eq_some_iff.mp starts
  have noBlanks : cursor.skipHorizontal = cursor := by
    refine Cursor.skip_eq_self ?_
    rw [remaining]
    exact .cons notHorizontal _
  have notBlank := Cursor.blankLine?_eq_none remaining notHorizontal notLineFeed
  simp only [step, Cursor.isAtEnd, Cursor.isBefore, noBlanks, ite_self, notBlank, remaining,
    List.isEmpty_cons, List.head?_cons, Option.some_beq_some, beq_eq_false_iff_ne.mpr notBracket,
    Bool.and_false, Bool.false_eq_true, ↓reduceIte]
  exact applies.bind goesOn

/-- Characters that blocks are written with at their front. -/
def IsBlockStart (first : Char) : Prop :=
  first = '\\' ∨ first = codeQuote ∨ first = '['

/-- Where a block starts, it is read, and then the blocks behind it. -/
theorem step_of_rule
    {first : Char}
    (starts : cursor.rest.head? = some first)
    (isStart : IsBlockStart first)
    (applies : Yields before (firstOf (rules inner nested) cursor) (some next) middle)
    (goesOn : Yields middle (inner.blocks nested next) value after) :
    Yields before (Block.step inner nested cursor) value after := by
  have notHorizontal : isHorizontal first = false := by
    obtain rfl | rfl | rfl := isStart <;> decide
  have notLineFeed : first ≠ '\n' := by
    obtain rfl | rfl | rfl := isStart <;> decide
  have notBracket : first ≠ ']' := by
    obtain rfl | rfl | rfl := isStart <;> decide
  exact step_of_front starts notHorizontal notLineFeed notBracket applies goesOn

/-- A block in brackets that applies is read if its line ends there. -/
theorem step_of_element_of_lineEnd
    {afterBlock : Cursor}
    (opens : cursor.rest.head? = some '[')
    (applies : Yields before (firstOf (elements inner) cursor) (some afterBlock) middle)
    (lineEnds : afterBlock.skipHorizontal.lineEnd? = some next)
    (goesOn : Yields middle (inner.blocks nested next) value after) :
    Yields before (Block.step inner nested cursor) value after := by
  refine step_of_rule opens (.inr (.inr rfl)) ?_ goesOn
  refine Yields.firstOf [] (by simp) ?_
  have isBracket : cursor.isBefore '[' = true := by
    simp [Cursor.isBefore, opens]
  simp only [element, isBracket, ↓reduceIte]
  refine applies.bind ?_
  simp only [lineEnds]
  exact .pure _

/-- A block in brackets that applies is read with the line feed behind it. -/
theorem step_of_element
    {afterBlock : Cursor}
    (opens : cursor.rest.head? = some '[')
    (applies : Yields before (firstOf (elements inner) cursor) (some afterBlock) middle)
    (lineEnds : afterBlock.Reads ['\n'] next)
    (goesOn : Yields middle (inner.blocks nested next) value after) :
    Yields before (Block.step inner nested cursor) value after := by
  refine step_of_element_of_lineEnd opens applies ?_ goesOn
  have noBlanks : afterBlock.skipHorizontal = afterBlock := by
    refine Cursor.skip_eq_self ?_
    rw [lineEnds.rest_eq]
    exact .cons rfl _
  rw [noBlanks, lineEnds.lineEnd?_eq]

/-- Outside brackets, no block in brackets starts. -/
theorem element_yields_none
    (other : cursor.rest.head? ≠ some '[') :
    Yields before (element inner nested cursor) none before := by
  have noBracket : cursor.isBefore '[' = false := by
    simp [Cursor.isBefore, other]
  simp only [element, noBracket]
  exact .pure none

end Steps

/-! ## Paragraphs and code -/

section Plain

variable {first : Char}

/-- Outside fences, no fenced code starts. -/
theorem fencedCode_yields_none
    (starts : cursor.rest.head? = some first)
    (other : first ≠ codeQuote) :
    Yields before (fencedCode cursor) none before := by
  obtain ⟨rest, remaining⟩ := List.head?_eq_some_iff.mp starts
  have notOpened : cursor.fencedCode? = none := by
    simp [Cursor.fencedCode?, Cursor.fenceOpening?, remaining, fence, List.isPrefixOf,
      List.replicate, Ne.symm other]
  simp only [fencedCode, notOpened]
  split <;> exact .pure none

/-- Where no list marker stands, no list starts. -/
theorem listing_yields_none
    (starts : cursor.rest.head? = some first)
    (isStart : IsBlockStart first) :
    Yields before (Listing.rule inner cursor) none before := by
  obtain ⟨rest, remaining⟩ := List.head?_eq_some_iff.mp starts
  have notMarked : cursor.listMarker? = none := by
    obtain rfl | rfl | rfl := isStart <;>
      simp [Cursor.listMarker?, listMarker?, remaining, isHorizontal, codeQuote]
  simp only [Listing.rule, notMarked]
  exact .pure none

/-- Where no blank stands, no code starts that is told by its indentation. -/
theorem indentedCode_yields_none
    (starts : cursor.rest.head? = some first)
    (isStart : IsBlockStart first) :
    Yields before (indentedCode cursor) none before := by
  have notHorizontal : isHorizontal first = false := by
    obtain rfl | rfl | rfl := isStart <;> decide
  have notRead : cursor.indentedCode? = none := by
    simp [Cursor.indentedCode?, starts, notHorizontal]
  simp only [indentedCode, notRead]
  exact .pure none

end Plain

/-- Before a line that it does not go on with, a phrase ends. -/
theorem phrase_ends_at_lineFeed
    {mode : PhraseMode}
    {atLineFeed afterLineFeed : Cursor}
    (isByLines : mode = .paragraph ∨ mode = .listItem)
    (reads : atLineFeed.Reads ['\n'] afterLineFeed)
    (ends : lineContinues before.templates mode afterLineFeed.restOfLine = false)
    (depth : Nat)
    (buffer : String) :
    Yields before (Phrase.step inner mode depth buffer atLineFeed) (true, atLineFeed)
      (before.text buffer) := by
  have advanced : atLineFeed.advance 1 = afterLineFeed := reads.advance_eq
  have stops : Yields before (Phrase.stopsAtLineFeed mode atLineFeed) true before := by
    have stopsAt : (mode == .paragraph || mode == .listItem) = true := by
      simpa using isByLines
    simp only [Phrase.stopsAtLineFeed, stopsAt, ↓reduceIte, advanced]
    apply Yields.state
    rw [ends]
    exact .pure true
  unfold Phrase.step
  rw [reads.rest_eq]
  exact stops.bind (Yields.updateThen (.pure _))

/-- No phrase goes on with a line that has nothing but blanks on it. -/
theorem lineContinues_blanks
    (templates : TemplateTable)
    (mode : PhraseMode)
    {blanks : List Char}
    (areBlanks : blanks.all isHorizontal = true) :
    lineContinues templates mode blanks = false := by
  have noneLeft : blanks.dropWhile isHorizontal = [] := by
    rw [← List.append_nil blanks]
    exact dropWhile_run areBlanks rfl
  simp [lineContinues, noneLeft]

/-- A text is read up to the line feed before a line that its phrase does not go on with. -/
theorem phrase_yields_text
    (environment : Environment)
    {mode : PhraseMode}
    {content : String}
    {steps : Nat}
    {atLineFeed afterLineFeed : Cursor}
    (isByLines : mode = .paragraph ∨ mode = .listItem)
    (readsText : cursor.Reads (Text.backslashed content.toList) atLineFeed)
    (readsLineFeed : atLineFeed.Reads ['\n'] afterLineFeed)
    (ends : lineContinues before.templates mode afterLineFeed.restOfLine = false)
    (enough : content.length < steps) :
    Yields before ((Inner.within environment steps).phrase mode cursor) (true, atLineFeed)
      (before.text content) := by
  obtain ⟨fewer, rfl⟩ : ∃ fewer, steps = fewer + 1 + content.toList.length :=
    ⟨steps - 1 - content.length, by rw [String.length_toList]; omega⟩
  have collected := phraseWithin_backslashed environment mode readsText (fewer + 1) 0 ""
  rw [String.ofList_toList, String.empty_append] at collected
  show Yields _ (phraseWithin _ _ _ _ _ _) _ _
  rw [collected]
  exact phrase_ends_at_lineFeed isByLines readsLineFeed ends 0 content

/-- A paragraph starts with a backslash. -/
theorem head?_of_paragraphText
    {content : String}
    (notEmpty : content ≠ "")
    (reads : cursor.Reads (BlockTree.paragraphText content) next) :
    cursor.rest.head? = some '\\' := by
  obtain ⟨first, rest, shape⟩ :=
    List.exists_cons_of_ne_nil (mt String.toList_eq_nil_iff.mp notEmpty)
  simp [reads.rest_eq, BlockTree.paragraphText, shape]

/-- The text of a paragraph is read up to its line feed, before a blank line. -/
theorem paragraph_yields
    (environment : Environment)
    {content : String}
    {steps : Nat}
    {atLineFeed afterLine : Cursor}
    (notEmpty : content ≠ "")
    (readsText : cursor.Reads (Text.backslashed content.toList) atLineFeed)
    (readsLineFeed : atLineFeed.Reads ['\n'] afterLine)
    (readsBlankLine : afterLine.Reads ['\n'] next)
    (settled : before.pendingParagraph = false)
    (enough : content.length < steps) :
    Yields before (paragraph (Inner.within environment steps) cursor) (some afterLine)
      (before.withOutput
        { events := [.opening "para" [], .text content, .closing "para"] }) := by
  have emptyLine : afterLine.restOfLine = [] := by
    simp [Cursor.restOfLine, readsBlankLine.rest_eq]
  have isRead :
      Yields before.beginParagraph
        ((Inner.within environment steps).phrase .paragraph cursor) (true, atLineFeed)
        (before.beginParagraph.text content) := by
    refine phrase_yields_text environment (.inl rfl) readsText readsLineFeed ?_ enough
    rw [emptyLine]
    exact lineContinues_blanks _ .paragraph rfl
  have goesOn : atLineFeed.offset ≠ cursor.offset := by
    rw [readsText.offset, length_backslashed]
    have isLong := List.length_pos_iff.mpr (mt String.toList_eq_nil_iff.mp notEmpty)
    omega
  have output :
      (before.beginParagraph.text content).endParagraph =
        before.withOutput
          { events := [.opening "para" [], .text content, .closing "para"] } := by
    rw [← CompilerState.replay_eq_withOutput settled]
    simp [CompilerState.beginParagraph, CompilerState.text, notEmpty, CompilerState.emit,
      CompilerState.endParagraph, CompilerState.endElement, CompilerState.replay, settled]
  refine Yields.updateThen (isRead.bind ?_)
  simp only [goesOn, ↓reduceIte]
  rw [← output, show atLineFeed.skipLineFeed = afterLine by
    simp [Cursor.skipLineFeed, readsLineFeed.character?_eq]]
  exact Yields.updateThen (.pure _)

/-- A paragraph is read up to the blank line behind it. -/
theorem rules_paragraph
    (environment : Environment)
    (nested : Bool)
    {content : String}
    {steps : Nat}
    (notEmpty : content ≠ "")
    (reads : cursor.Reads (BlockTree.paragraphText content) next)
    (settled : before.pendingParagraph = false)
    (enough : content.length < steps) :
    ∃ afterLine,
      afterLine.Reads ['\n'] next ∧
        Yields before (firstOf (rules (Inner.within environment steps) nested) cursor)
          (some afterLine)
          (before.withOutput
            { events := [.opening "para" [], .text content, .closing "para"] }) := by
  have starts := head?_of_paragraphText notEmpty reads
  obtain ⟨atLineFeed, readsText, readsEnd⟩ := reads.split
  have readsEnd : atLineFeed.Reads (['\n'] ++ ['\n']) next := readsEnd
  obtain ⟨afterLine, readsLineFeed, readsBlankLine⟩ := readsEnd.split
  refine ⟨afterLine, readsBlankLine, ?_⟩
  have applies :=
    paragraph_yields environment notEmpty readsText readsLineFeed readsBlankLine settled enough
  have notBracket : cursor.rest.head? ≠ some '[' := by simp [starts]
  cases nested with
  | false =>
      refine Yields.firstOf
        [element _ false, fencedCode, Listing.rule _, indentedCode] ?_ applies
      simp only [List.forall_mem_cons, List.not_mem_nil, false_implies, implies_true, and_true]
      exact
        ⟨element_yields_none notBracket, fencedCode_yields_none starts (by decide),
          listing_yields_none starts (.inl rfl), indentedCode_yields_none starts (.inl rfl)⟩
  | true =>
      refine Yields.firstOf
        [element _ true, fencedCode, Listing.rule _] ?_ applies
      simp only [List.forall_mem_cons, List.not_mem_nil, false_implies, implies_true, and_true]
      exact
        ⟨element_yields_none notBracket, fencedCode_yields_none starts (by decide),
          listing_yields_none starts (.inl rfl)⟩

/-- Fenced code is read with the line that closes its fence. -/
theorem rules_fenced
    {language : List Char}
    (isLanguage : language.all Cursor.isLanguageCharacter = true)
    {content : String}
    (opens : (lines content.toList).all (fun line => !Cursor.isFenceLine line) = true)
    (reads : cursor.Reads (BlockTree.fencedText language content) next)
    (atLineStart : cursor.isAtLineStart = true)
    (settled : before.pendingParagraph = false) :
    Yields before (firstOf (rules inner nested) cursor) (some next)
      (before.withOutput { events := codeEvents content }) := by
  obtain ⟨inside, readsOpening, readsCode⟩ := reads.split
  have regrouped :
      content.toList ++ (['\n'] ++ (fence ++ ['\n'])) =
        (content.toList ++ ('\n' :: fence)) ++ ['\n'] := by
    simp
  rw [regrouped] at readsCode
  obtain ⟨afterCode, readsCode, readsLineFeed⟩ := readsCode.split
  have isCode := Cursor.fencedCode?_eq isLanguage opens readsOpening readsCode readsLineFeed
  have starts : cursor.rest.head? = some codeQuote := by
    rw [readsOpening.rest_eq]
    rfl
  refine Yields.firstOf [element inner nested] ?_ ?_
  · rintro rule isElement
    obtain rfl := List.mem_singleton.mp isElement
    exact element_yields_none (by rw [starts]; decide)
  · simp only [fencedCode, mayStartFence, atLineStart, Bool.true_or, ↓reduceIte, isCode]
    rw [← CompilerState.codeBlock_eq_withOutput settled]
    exact Yields.updateThen (.pure _)

end Block

end DocMarkup
