import DocMarkup.Proofs.Written.Element

namespace DocMarkup

open Compile Text BlockTree

/-!
# Blocks in a row

Texts of blocks that follow one another are read one after the other. Wherever such a
text comes next, its output is added, and reading goes on behind it. What the output
is may depend on the identifiers that are taken, so it is a function of the naming.
-/

/-! ## Output -/

/-- Identifiers that follow one another are taken one after another. -/
theorem Naming.reserve_append
    (naming : Naming)
    (first second : List String) :
    naming.reserve (first ++ second) = (naming.reserve first).reserve second := by
  simp [reserve]

namespace BlockOutput

/-- Output in which the second follows the first. -/
def inTurn (first second : Naming → BlockOutput) (naming : Naming) : BlockOutput :=
  let others := second (naming.reserve (first naming).identifiers)
  { events := (first naming).events ++ others.events
    identifiers := (first naming).identifiers ++ others.identifiers }

/-- Output in the element of enclosed blocks. -/
def enclosed (frame : BlockFrame) (inside : Naming → BlockOutput) (naming : Naming) :
    BlockOutput :=
  { events := .opening frame.element [] :: ((inside naming).events ++ [.closing frame.element])
    identifiers := (inside naming).identifiers }

/-- Output in a section with a title, whose identifier is put after the others. -/
def sectioned
    (localId title : String)
    (inside : Naming → BlockOutput)
    (naming : Naming) :
    BlockOutput :=
  let identifier := naming.qualified localId
  let content := inside (naming.inSection identifier)
  { events :=
      .opening "section" [("id", identifier)] :: .opening "title" [] ::
        (textEvents title ++ .closing "title" :: (content.events ++ [.closing "section"]))
    identifiers := identifier :: content.identifiers }

end BlockOutput

namespace BlockTree

/-- Rows of blocks that follow one another stand for one row. -/
theorem outputOfAll_append (first second : List BlockTree) :
    (outputOfAll · (first ++ second)) =
      BlockOutput.inTurn (outputOfAll · first) (outputOfAll · second) := by
  funext naming
  induction first generalizing naming with
  | nil =>
      simp [outputOfAll, BlockOutput.inTurn, Naming.reserve]
  | cons tree rest inductionHypothesis =>
      simp only [BlockOutput.inTurn] at inductionHypothesis
      simp only [List.cons_append, outputOfAll, inductionHypothesis, BlockOutput.inTurn,
        Naming.reserve_append, List.append_assoc]

/-- One block is a row of blocks. -/
theorem outputOfAll_singleton (tree : BlockTree) :
    (outputOfAll · [tree]) = (tree.output ·) := by
  simp [outputOfAll]

/-- Enclosed blocks stand for their element around what is inside. -/
theorem output_enclosed (frame : BlockFrame) (content : List BlockTree) :
    (BlockTree.output · (.enclosed frame content)) =
      BlockOutput.enclosed frame (outputOfAll · content) := by
  simp [BlockTree.output, BlockOutput.enclosed, funext_iff]

/-- Sections stand for their element around what is inside. -/
theorem output_sectioned (title : String) (content : List BlockTree) :
    (BlockTree.output · (.sectioned title content)) =
      BlockOutput.sectioned (CompilerState.localId none (String.ofList (writtenTitle title))) title
        (outputOfAll · content) := by
  simp [BlockTree.output, BlockOutput.sectioned, CompilerState.localId, Naming.identifier,
    Naming.qualified, funext_iff]

end BlockTree

namespace CompilerState

/-- Output that follows other output is output in turn. -/
theorem withOutput_inTurn
    (state : CompilerState)
    (first second : Naming → BlockOutput) :
    (state.withOutput (first state.naming)).withOutput
        (second (state.withOutput (first state.naming)).naming) =
      state.withOutput (BlockOutput.inTurn first second state.naming) := by
  rw [withOutput_withOutput]
  rfl

/-! ## States in which blocks are read -/

/-- A state with some macros in which blocks may come next, in the innermost of some files. -/
structure Accepts
    (macros : MacroTable)
    (stack : List Path)
    (outside : Bool)
    (state : CompilerState) :
    Prop where
  macros : state.macros = macros
  settled : state.pendingParagraph = false
  room : state.phraseDepth < phraseLimit
  stack : state.includeStack = stack
  outside : outside = true → state.isInNestedBlock = false

/-- Output does not change what may come next. -/
theorem Accepts.withOutput
    {macros : MacroTable}
    {stack : List Path}
    {outside : Bool}
    {state : CompilerState}
    (accepts : state.Accepts macros stack outside)
    (output : BlockOutput) :
    (state.withOutput output).Accepts macros stack outside :=
  ⟨accepts.macros, accepts.settled, accepts.room, accepts.stack, accepts.outside⟩

end CompilerState

/-! ## Reading on behind blocks -/

/--
Wherever a text comes next, it is read for its output: whatever is read behind it in
the state with that output is read from where the text started.
-/
def ReadsTo
    (environment : Environment)
    (longest : Nat)
    (macros : MacroTable)
    (stack : List Path)
    (outside : Bool)
    (output : Naming → BlockOutput)
    (text : List Char) :
    Prop :=
  ∀ (before after : CompilerState) (steps : Nat) (nested : Bool) (cursor next value : Cursor),
    cursor.Reads text next →
    cursor.isAtLineStart = true →
    before.Accepts macros stack outside →
    (includeLimit - stack.length) * (longest + 4) + text.length < steps →
    (∀ left,
      steps ≤ left + text.length →
      next.isAtLineStart = true →
      Yields (before.withOutput (output before.naming))
        (blocksWithin environment left nested next) value after) →
    Yields before (blocksWithin environment steps nested cursor) value after

namespace ReadsTo

variable {environment : Environment} {longest : Nat} {macros : MacroTable} {stack : List Path}
  {outside : Bool} {first second inside : Naming → BlockOutput}
  {firstText secondText text written : List Char}

/-- No text leaves no output. -/
theorem nil : ReadsTo environment longest macros stack outside (fun _ => {}) [] := by
  intro before after steps nested cursor next value reads atLineStart accepts enough goesOn
  obtain rfl : next = cursor := reads.unique (.nil cursor)
  have isRead := goesOn steps (by simp) atLineStart
  rw [CompilerState.withOutput_nothing] at isRead
  exact isRead

/-- Texts that follow one another are read one after the other. -/
theorem append
    (firstIsRead : ReadsTo environment longest macros stack outside first firstText)
    (secondIsRead : ReadsTo environment longest macros stack outside second secondText) :
    ReadsTo environment longest macros stack outside (.inTurn first second)
      (firstText ++ secondText) := by
  intro before after steps nested cursor next value reads atLineStart accepts enough goesOn
  rw [List.length_append] at enough
  obtain ⟨middle, readsFirst, readsSecond⟩ := reads.split
  refine firstIsRead before after steps nested cursor middle value readsFirst atLineStart accepts
    (by omega) ?_
  intro left stepsLeft middleAtLineStart
  refine secondIsRead _ after left nested middle next value readsSecond middleAtLineStart
    (accepts.withOutput _) (by omega) ?_
  intro fewer fewerLeft nextAtLineStart
  rw [CompilerState.withOutput_inTurn]
  exact goesOn fewer (by rw [List.length_append]; omega) nextAtLineStart

/-- A text is read to its end where no block follows. -/
theorem toEnd
    {before : CompilerState}
    {steps : Nat}
    {cursor next : Cursor}
    (isRead : ReadsTo environment longest macros stack outside inside text)
    (nested : Bool)
    (reads : cursor.Reads text next)
    (ends : next.rest = [] ∨ nested = true ∧ next.rest.head? = some ']')
    (atLineStart : cursor.isAtLineStart = true)
    (accepts : before.Accepts macros stack outside)
    (enough : (includeLimit - stack.length) * (longest + 4) + text.length < steps) :
    Yields before (blocksWithin environment steps nested cursor) next
      (before.withOutput (inside before.naming)) := by
  refine isRead before _ steps nested cursor next next reads atLineStart accepts enough ?_
  intro left stepsLeft _
  obtain ⟨rest, rfl⟩ := Nat.exists_eq_succ_of_ne_zero (show left ≠ 0 by omega)
  exact Block.step_of_end ends

/-! ## Blocks -/

/-- A blank line leaves no output. -/
theorem blankLine : ReadsTo environment longest macros stack outside (fun _ => {}) ['\n'] := by
  intro before after steps nested cursor next value reads atLineStart accepts enough goesOn
  obtain ⟨left, rfl⟩ := Nat.exists_eq_succ_of_ne_zero (show steps ≠ 0 by omega)
  have isRead := goesOn left (by simp) reads.isAtLineStart
  rw [CompilerState.withOutput_nothing] at isRead
  exact Block.step_of_blankLine reads isRead

/-- A blank line may stand behind what is read. -/
theorem beforeBlankLine
    (isRead : ReadsTo environment longest macros stack outside first text) :
    ReadsTo environment longest macros stack outside first (text ++ ['\n']) := by
  have inTurn := isRead.append (.blankLine)
  have same : BlockOutput.inTurn first (fun _ => {}) = first := by
    funext naming
    simp [BlockOutput.inTurn]
  rwa [same] at inTurn

/-- A blank line may stand before what is read. -/
theorem behindBlankLine
    (isRead : ReadsTo environment longest macros stack outside first text) :
    ReadsTo environment longest macros stack outside first ('\n' :: text) := by
  have inTurn := ReadsTo.blankLine.append isRead
  have same : BlockOutput.inTurn (fun _ => {}) first = first := by
    funext naming
    simp [BlockOutput.inTurn, Naming.reserve]
  rwa [same] at inTurn

/-- Fenced code is read. -/
theorem fenced
    {language : List Char}
    (isLanguage : language.all Cursor.isLanguageCharacter = true)
    {content : String}
    (opens : (lines content.toList).all (fun line => !Cursor.isFenceLine line) = true) :
    ReadsTo environment longest macros stack outside (fun _ => { events := codeEvents content })
      (fencedText language content) := by
  intro before after steps nested cursor next value reads atLineStart accepts enough goesOn
  have isLong : 1 ≤ (fencedText language content).length := by
    simp [fencedText, fence]
  obtain ⟨left, rfl⟩ : ∃ left, steps = left + 1 := ⟨steps - 1, by omega⟩
  have applies :
      Yields before (firstOf (Block.rules (Inner.within environment left) nested) cursor)
        (some next) (before.withOutput { events := codeEvents content }) :=
    Block.rules_fenced isLanguage opens reads atLineStart accepts.settled
  have starts : cursor.rest.head? = some codeQuote := by
    rw [reads.rest_eq]
    rfl
  have nextAtLineStart : next.isAtLineStart = true := by
    obtain ⟨_, -, readsCode⟩ := reads.split
    obtain ⟨_, -, readsEnd⟩ := readsCode.split
    obtain ⟨_, -, readsEnd⟩ := readsEnd.split
    obtain ⟨_, -, readsLineFeed⟩ := readsEnd.split
    exact readsLineFeed.isAtLineStart
  exact
    Block.step_of_rule starts (.inr (.inl rfl)) applies (goesOn left (by omega) nextAtLineStart)

/-- Enclosed blocks are read if the blocks inside are. -/
theorem enclosed
    (frame : BlockFrame)
    (contentIsRead : ReadsTo environment longest macros stack false inside text) :
    ReadsTo environment longest macros stack outside (.enclosed frame inside)
      ((frame.keyword.toList ++ ['\n']) ++ (text ++ ([']'] ++ ['\n']))) := by
  intro before after steps nested cursor next value reads atLineStart accepts enough goesOn
  simp only [List.length_append, List.length_cons, List.length_nil] at enough
  obtain ⟨left, rfl⟩ : ∃ left, steps = left + 2 := ⟨steps - 2, by omega⟩
  obtain ⟨atContent, readsOpening, reads⟩ := reads.split
  obtain ⟨atBracket, readsContent, readsClosing⟩ := reads.split
  obtain ⟨afterKeyword, readsKeyword, readsLineFeed⟩ := readsOpening.split
  obtain ⟨afterBlock, closes, readsLineEnd⟩ := readsClosing.split
  let opened := before.beginNestedBlock frame.element
  have openedAccepts : opened.Accepts macros stack false :=
    ⟨accepts.macros, rfl, accepts.room, accepts.stack, by simp⟩
  have contentYields :
      Yields opened (blocksWithin environment left true atContent) atBracket
        (opened.withOutput (inside opened.naming)) :=
    contentIsRead.toEnd true readsContent (.inr ⟨rfl, by rw [closes.rest_eq]; rfl⟩)
      readsLineFeed.isAtLineStart openedAccepts (by omega)
  have insideYields :
      Yields opened (blocksWithin environment (left + 1) true afterKeyword) atBracket
        (opened.withOutput (inside opened.naming)) :=
    Block.step_of_blankLine readsLineFeed contentYields
  have applies :
      Yields before (firstOf (Block.elements (Inner.within environment (left + 1))) cursor)
        (some afterBlock) _ :=
    Block.elements_enclosed readsKeyword (by rw [readsLineFeed.rest_eq]; rfl) insideYields closes
  rw [CompilerState.withOutput_enclosed accepts.settled] at applies
  have opens : cursor.rest.head? = some '[' := by
    rw [readsKeyword.rest_eq]
    cases frame <;> simp [BlockFrame.keyword]
  have isRead := goesOn (left + 1) (by simp; omega) readsLineEnd.isAtLineStart
  exact Block.step_of_element opens applies readsLineEnd isRead

/-- The start of a section opens it, and reading goes on with the blocks inside. -/
theorem of_sectionStart
    {given : Option String}
    {title : String}
    {before after : CompilerState}
    {steps : Nat}
    {nested : Bool}
    {cursor next value : Cursor}
    (isGiven : ∀ identifier ∈ given, Block.IsGivenId identifier)
    (isTitle : Block.IsTitle macros written title)
    (reads : cursor.Reads (titleLine (sectionKeyword given) written) next)
    (accepts : before.Accepts macros stack true)
    (enough : written.length < steps)
    (goesOn :
      let identifier :=
        before.naming.qualified (CompilerState.localId given (String.ofList written))
      next.isAtLineStart = true →
      Yields
        ((before.inSection identifier).withOutput
          { events :=
              .opening "section" [("id", identifier)] :: .opening "title" [] ::
                (textEvents title ++ [.closing "title"])
            identifiers := [identifier] })
        (blocksWithin environment steps nested next) value after) :
    Yields before (blocksWithin environment (steps + 1) nested cursor) value after := by
  obtain ⟨afterBlock, ⟨readsTitle⟩, readsLineFeed⟩ :=
    Block.ReadsTitle.exists_of_reads reads isTitle.stops
  have opens : cursor.rest.head? = some '[' := by
    rw [readsTitle.readsKeyword.rest_eq]
    cases given <;> simp [sectionKeyword]
  have applies :=
    Block.elements_sectionStart environment readsTitle isGiven (accepts.macros ▸ isTitle)
      accepts.settled accepts.room (accepts.outside rfl) enough
  exact
    Block.step_of_element opens applies readsLineFeed (goesOn readsLineFeed.isAtLineStart)

/-- The end of a section closes it, and reading goes on outside with its output. -/
theorem of_sectionEnd
    (identifier : String)
    (output : BlockOutput)
    {before after : CompilerState}
    {steps : Nat}
    {nested : Bool}
    {cursor next value : Cursor}
    (reads : cursor.Reads ("[endsect".toList ++ ([']'] ++ ['\n'])) next)
    (accepts : before.Accepts macros stack true)
    (goesOn :
      next.isAtLineStart = true →
      Yields
        (before.withOutput { output with events := output.events ++ [.closing "section"] })
        (blocksWithin environment steps nested next) value after) :
    Yields ((before.inSection identifier).withOutput output)
      (blocksWithin environment (steps + 1) nested cursor) value after := by
  obtain ⟨atBracket, readsKeyword, readsEnd⟩ := reads.split
  obtain ⟨afterBlock, closes, readsLineFeed⟩ := readsEnd.split
  have opens : cursor.rest.head? = some '[' := by
    rw [readsKeyword.rest_eq]
    simp
  have applies :
      Yields ((before.inSection identifier).withOutput output)
        (firstOf (Block.elements (Inner.within environment steps)) cursor) (some afterBlock) _ :=
    Block.elements_sectionEnd identifier output readsKeyword closes accepts.settled
      (accepts.outside rfl)
  exact
    Block.step_of_element opens applies readsLineFeed (goesOn readsLineFeed.isAtLineStart)

/-- A section is read if the blocks inside are. -/
theorem sectioned
    {given : Option String}
    {title : String}
    (isGiven : ∀ identifier ∈ given, Block.IsGivenId identifier)
    (isTitle : Block.IsTitle macros written title)
    (contentIsRead : ReadsTo environment longest macros stack true inside text) :
    ReadsTo environment longest macros stack true
      (.sectioned (CompilerState.localId given (String.ofList written)) title inside)
      (titleLine (sectionKeyword given) written ++ (text ++ ("[endsect".toList ++ ([']'] ++ ['\n'])))) := by
  intro before after steps nested cursor next value reads atLineStart accepts enough goesOn
  have isLong : written.length + 1 ≤ (titleLine (sectionKeyword given) written).length := by
    simp only [titleLine, List.length_append, List.length_cons, List.length_nil]
    omega
  have isLongEnd : 1 ≤ ("[endsect".toList ++ ([']'] ++ ['\n'])).length := by
    decide
  rw [List.length_append, List.length_append] at enough
  obtain ⟨left, rfl⟩ : ∃ left, steps = left + 1 := ⟨steps - 1, by omega⟩
  obtain ⟨atContent, readsTitleLine, reads⟩ := reads.split
  obtain ⟨atEnd, readsContent, readsEndLine⟩ := reads.split
  refine of_sectionStart isGiven isTitle readsTitleLine accepts (by omega) ?_
  intro identifier contentAtLineStart
  have opened : (before.inSection identifier).Accepts macros stack true :=
    ⟨accepts.macros, accepts.settled, accepts.room, accepts.stack, accepts.outside⟩
  refine contentIsRead _ after left nested atContent atEnd value readsContent contentAtLineStart
    (opened.withOutput _) (by omega) ?_
  intro fewer fewerLeft _
  obtain ⟨rest, rfl⟩ : ∃ rest, fewer = rest + 1 := ⟨fewer - 1, by omega⟩
  rw [CompilerState.withOutput_withOutput]
  let body := inside (before.naming.inSection identifier)
  refine of_sectionEnd identifier
    { events := _ ++ body.events, identifiers := _ ++ body.identifiers } readsEndLine accepts
    fun nextAtLineStart => ?_
  have isRead :=
    goesOn rest (by rw [List.length_append, List.length_append]; omega) nextAtLineStart
  simpa [BlockOutput.sectioned, body, identifier] using isRead

end ReadsTo

end DocMarkup
