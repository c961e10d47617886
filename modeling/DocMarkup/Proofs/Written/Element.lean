import DocMarkup.Proofs.Written.Block

namespace DocMarkup

open Compile Text

/-!
# Blocks in brackets where they are written

Headings, sections, enclosed blocks and inclusions are told by their keywords.
Each of them is the first construct that applies where it stands, and reads what
is inside it up to its bracket.
-/

variable {environment : Environment} {before middle : CompilerState} {inner : Inner}
  {cursor next : Cursor}

/-- A phrase in brackets that is read as a text adds that text. -/
theorem Phrase.nested_yields_text
    {atBracket : Cursor}
    {content : String}
    (room : before.phraseDepth < phraseLimit)
    (reads :
      Yields { before with phraseDepth := before.phraseDepth + 1 }
        (inner.phrase .bracketed cursor) (true, atBracket)
        ({ before with phraseDepth := before.phraseDepth + 1 }.text content)) :
    Yields before (Phrase.nested inner cursor) (some atBracket) (before.text content) := by
  have isNested := Phrase.nested_yields room reads
  rw [CompilerState.text_eq_replay, CompilerState.leavePhrase_replay,
    ← CompilerState.text_eq_replay] at isNested
  exact isNested

namespace Block

/-! ## Titles -/

/--
A text that stands for a title in its brackets. Where some macros are defined, it is
read up to the bracket behind it, and leaves the title as text.
-/
structure IsTitle (macros : MacroTable) (written : List Char) (title : String) : Prop where
  isClosed : Cursor.IsClosedByNext written
  stops : ∀ behind, Stops isHorizontal (written ++ ']' :: behind)
  isRead :
    ∀ (environment : Environment) {before : CompilerState} {steps : Nat}
      {cursor atBracket : Cursor},
      cursor.Reads written atBracket →
      atBracket.rest.head? = some ']' →
      before.macros = macros →
      written.length < steps →
      Yields before (phraseWithin environment steps .bracketed 0 "" cursor) (true, atBracket)
        (before.text title)

/-- Behind backslashes, any text stands for itself as a title. -/
theorem IsTitle.of_backslashed (macros : MacroTable) (title : String) :
    IsTitle macros (BlockTree.writtenTitle title) title where
  isClosed := Cursor.isClosedByNext_backslashed title.toList
  stops behind := by
    rw [BlockTree.writtenTitle]
    cases title.toList <;> exact .cons (by decide) _
  isRead environment _ steps _ _ reads closes _ enough := by
    rw [BlockTree.writtenTitle, length_backslashed] at enough
    obtain ⟨fewer, rfl⟩ : ∃ fewer, steps = fewer + 1 + title.toList.length :=
      ⟨steps - 1 - title.toList.length, by omega⟩
    have collected := phraseWithin_backslashed environment .bracketed reads (fewer + 1) 0 ""
    rw [String.ofList_toList, String.empty_append] at collected
    rw [collected]
    exact Phrase.step_of_endsAt (.inl closes) title

/-- Where a keyword and a title come next, what the readers of titles make of them. -/
structure ReadsTitle
    (cursor : Cursor)
    (keyword : String)
    (written : List Char)
    (afterBlock : Cursor) where
  afterKeyword : Cursor
  content : Cursor
  atBracket : Cursor
  readsKeyword : cursor.Reads keyword.toList afterKeyword
  followed : afterKeyword.rest.head? = some ' '
  skipped : afterKeyword.skipHorizontal = content
  readsTitle : content.Reads written atBracket
  closes : atBracket.Reads [']'] afterBlock

namespace ReadsTitle

variable {keyword : String} {written : List Char} {afterBlock : Cursor}

/-- A line with a title is a keyword, the title in its bracket, and the line feed. -/
theorem exists_of_reads
    (reads : cursor.Reads (BlockTree.titleLine keyword written) next)
    (stops : ∀ behind, Stops isHorizontal (written ++ ']' :: behind)) :
    ∃ afterBlock,
      Nonempty (ReadsTitle cursor keyword written afterBlock) ∧ afterBlock.Reads ['\n'] next := by
  obtain ⟨afterKeyword, readsKeyword, reads⟩ := reads.split
  obtain ⟨content, readsBlank, reads⟩ := reads.split
  obtain ⟨atBracket, readsTitle, reads⟩ := reads.split
  obtain ⟨afterBlock, closes, readsLineFeed⟩ := reads.split
  have titleStops : Stops isHorizontal content.rest := by
    rw [readsTitle.rest_eq, closes.rest_eq]
    exact stops _
  exact
    ⟨afterBlock,
      ⟨{ afterKeyword := afterKeyword
         content := content
         atBracket := atBracket
         readsKeyword := readsKeyword
         followed := by rw [readsBlank.rest_eq]; rfl
         skipped := readsBlank.skip_eq rfl titleStops
         readsTitle := readsTitle
         closes := closes }⟩,
      readsLineFeed⟩

/-- The keyword of a title ends where it should. -/
theorem isAfterKeyword (reads : ReadsTitle cursor keyword written afterBlock) :
    reads.afterKeyword.isAfterKeyword = true := by
  obtain ⟨rest, remaining⟩ := List.head?_eq_some_iff.mp reads.followed
  rw [Cursor.isAfterKeyword, remaining]
  rfl

/-- The title ends before its bracket. -/
theorem isBeforeBracket (reads : ReadsTitle cursor keyword written afterBlock) :
    reads.atBracket.rest.head? = some ']' := by
  rw [reads.closes.rest_eq]
  rfl

variable {macros : MacroTable} {title : String}

/-- A title is found as it is written. -/
theorem balanced?_eq
    (reads : ReadsTitle cursor keyword written afterBlock)
    (isTitle : IsTitle macros written title) :
    reads.content.balanced? = some (String.ofList written, reads.atBracket) :=
  isTitle.isClosed.balanced?_eq reads.readsTitle reads.isBeforeBracket

/-- A title is read as the text that it stands for. -/
theorem nested_yields
    (reads : ReadsTitle cursor keyword written afterBlock)
    (isTitle : IsTitle macros written title)
    (sameMacros : before.macros = macros)
    {steps : Nat}
    (room : before.phraseDepth < phraseLimit)
    (enough : written.length < steps) :
    Yields before (Phrase.nested (Inner.within environment steps) reads.content)
      (some reads.atBracket) (before.text title) := by
  exact
    Phrase.nested_yields_text room
      (isTitle.isRead environment reads.readsTitle reads.isBeforeBracket sameMacros enough)

end ReadsTitle

/-- In a table of keywords that differ, the one that comes next is found. -/
theorem findSome?_keyword
    {table : List α}
    (keyword : α → String)
    (build : α → Cursor → β)
    {entry : α}
    (listed : entry ∈ table)
    (reads : cursor.Reads (keyword entry).toList next)
    (ends : next.isAfterKeyword = true)
    (differ :
      ∀ other ∈ table, other = entry ∨ Differ (keyword other).toList (keyword entry).toList) :
    table.findSome? (fun other => (cursor.keyword? (keyword other)).map (build other)) =
      some (build entry next) := by
  induction table with
  | nil =>
      simp at listed
  | cons first others inductionHypothesis =>
      simp only [List.forall_mem_cons] at differ
      rw [List.findSome?_cons]
      by_cases isFirst : first = entry
      · rw [isFirst, reads.keyword?_eq ends]
        rfl
      · rw [reads.keyword?_eq_none (differ.1.resolve_left isFirst)]
        exact inductionHypothesis (List.mem_of_ne_of_mem (Ne.symm isFirst) listed) differ.2

/-- The keyword of a heading stands for its level, and no other keyword is confused with it. -/
theorem headingKeyword_listed :
    ∀ level : Fin 6,
      (BlockTree.headingKeyword level, some (Int.ofNat (level.val + 1))) ∈
          Cursor.headingKeywords ∧
        ∀ other ∈ Cursor.headingKeywords,
          other = (BlockTree.headingKeyword level, some (Int.ofNat (level.val + 1))) ∨
            Differ other.1.toList (BlockTree.headingKeyword level).toList := by
  decide

/-- The keyword of a heading is no keyword that is tried before it. -/
theorem headingKeyword_differs :
    ∀ level : Fin 6,
      ∀ earlier ∈ ["[/", "[section", "[endsect"],
        Differ earlier.toList (BlockTree.headingKeyword level).toList := by
  decide

/-- A heading is read in its brackets. -/
theorem elements_heading
    (environment : Environment)
    {level : Fin 6}
    {title : String}
    {steps : Nat}
    {afterBlock : Cursor}
    (reads :
      ReadsTitle cursor (BlockTree.headingKeyword level) (BlockTree.writtenTitle title) afterBlock)
    (settled : before.pendingParagraph = false)
    (room : before.phraseDepth < phraseLimit)
    (enough : (BlockTree.writtenTitle title).length < steps) :
    Yields before (firstOf (elements (Inner.within environment steps)) cursor) (some afterBlock)
      (before.withOutput ((BlockTree.heading level title).output before.naming)) := by
  obtain ⟨listed, differ⟩ := headingKeyword_listed level
  have isHeading :
      cursor.heading? = some (some (Int.ofNat (level.val + 1)), reads.afterKeyword) :=
    findSome?_keyword Prod.fst (fun entry next => (entry.2, next)) listed reads.readsKeyword
      reads.isAfterKeyword differ
  have earlierDiffer := headingKeyword_differs level
  simp only [List.forall_mem_cons, List.not_mem_nil, false_implies, implies_true,
    and_true] at earlierDiffer
  obtain ⟨noComment, noSection, noSectionEnd⟩ := earlierDiffer
  have output :=
    CompilerState.beginHeading_text_endHeading settled (Int.ofNat (level.val + 1)) title
      (String.ofList (BlockTree.writtenTitle title))
  let opened :=
    before.beginHeading (some (Int.ofNat (level.val + 1)))
      (String.ofList (BlockTree.writtenTitle title))
  have stillRoom : opened.phraseDepth < phraseLimit := room
  have sameMacros : opened.macros = before.macros := rfl
  have isTitle : IsTitle before.macros (BlockTree.writtenTitle title) title :=
    .of_backslashed before.macros title
  refine Yields.firstOf [comment, sectionStart _, sectionEnd] ?_ ?_
  · simp only [List.forall_mem_cons, List.not_mem_nil, false_implies, implies_true, and_true]
    exact
      ⟨comment_yields_none reads.readsKeyword noComment,
        sectionStart_yields_none reads.readsKeyword noSection,
        sectionEnd_yields_none reads.readsKeyword noSectionEnd⟩
  · simp only [heading, isHeading, reads.skipped, reads.balanced?_eq isTitle]
    refine Yields.updateThen ?_
    refine (reads.nested_yields isTitle sameMacros stillRoom enough).bind ?_
    simp only [reads.closes.close?_eq]
    refine Yields.updateThen ?_
    rw [output]
    exact .pure _

/-! ## Sections -/

/-- An identifier that may be given for a section. -/
structure IsGivenId (given : String) : Prop where
  notEmpty : given ≠ ""
  areNaming : given.toList.all Cursor.isIdCharacter = true

/-- What opens a section is read with the identifier that is given for it. -/
theorem ReadsTitle.keywordWithId?_eq
    {given : Option String}
    {written : List Char}
    {afterBlock : Cursor}
    (reads : ReadsTitle cursor (BlockTree.sectionKeyword given) written afterBlock)
    (isGiven : ∀ identifier ∈ given, IsGivenId identifier) :
    cursor.keywordWithId? "[section" = some (given, reads.afterKeyword) := by
  have readsKeyword := reads.readsKeyword
  cases given with
  | none =>
      have noId : reads.afterKeyword.character? ':' = none :=
        Cursor.character?_eq_none (by rw [reads.followed]; decide)
      have isKeyword : cursor.literal? "[section" = some reads.afterKeyword :=
        readsKeyword.literal?_eq
      simp [Cursor.keywordWithId?, isKeyword, Cursor.givenId?, noId, reads.isAfterKeyword]
  | some identifier =>
      obtain ⟨notEmpty, areNaming⟩ := isGiven identifier rfl
      have readsKeyword :
          cursor.Reads ("[section".toList ++ ([':'] ++ identifier.toList)) reads.afterKeyword := by
        simpa [BlockTree.sectionKeyword] using readsKeyword
      obtain ⟨atColon, readsSection, readsRest⟩ := readsKeyword.split
      obtain ⟨atId, readsColon, readsId⟩ := readsRest.split
      obtain ⟨rest, followed⟩ := List.head?_eq_some_iff.mp reads.followed
      have ends : Stops Cursor.isIdCharacter reads.afterKeyword.rest := by
        rw [followed]
        exact .cons (by decide) _
      have isRun : atId.runOf? Cursor.isIdCharacter = some (identifier, reads.afterKeyword) := by
        rw [readsId.runOf?_eq areNaming ends (mt String.toList_eq_nil_iff.mp notEmpty),
          String.ofList_toList]
      simp [Cursor.keywordWithId?, readsSection.literal?_eq, Cursor.givenId?,
        readsColon.character?_eq, isRun, reads.isAfterKeyword]

/-- The start of a section is read in its brackets, outside other blocks. -/
theorem elements_sectionStart
    (environment : Environment)
    {given : Option String}
    {written : List Char}
    {title : String}
    {steps : Nat}
    {afterBlock : Cursor}
    (reads : ReadsTitle cursor (BlockTree.sectionKeyword given) written afterBlock)
    (isGiven : ∀ identifier ∈ given, IsGivenId identifier)
    (isTitle : IsTitle before.macros written title)
    (settled : before.pendingParagraph = false)
    (room : before.phraseDepth < phraseLimit)
    (outside : before.isInNestedBlock = false)
    (enough : written.length < steps) :
    let identifier :=
      before.naming.qualified (CompilerState.localId given (String.ofList written))
    Yields before (firstOf (elements (Inner.within environment steps)) cursor) (some afterBlock)
      ((before.inSection identifier).withOutput
        { events :=
            .opening "section" [("id", identifier)] :: .opening "title" [] ::
              (textEvents title ++ [.closing "title"])
          identifiers := [identifier] }) := by
  intro identifier
  have isSection := reads.keywordWithId?_eq isGiven
  have output :=
    CompilerState.beginSection_text_endSectionTitle settled given title (String.ofList written)
  let opened := before.beginSection given (String.ofList written)
  have stillRoom : opened.phraseDepth < phraseLimit := room
  have sameMacros : opened.macros = before.macros := rfl
  have noComment : Differ "[/".toList (BlockTree.sectionKeyword given).toList := by
    cases given with
    | none => decide
    | some identifier => simp [BlockTree.sectionKeyword, Differ]
  refine Yields.firstOf [comment] ?_ ?_
  · rintro rule isComment
    obtain rfl := List.mem_singleton.mp isComment
    exact comment_yields_none reads.readsKeyword noComment
  · apply Yields.state
    simp only [outside, Bool.false_eq_true, ↓reduceIte, isSection, reads.skipped,
      reads.balanced?_eq isTitle]
    refine Yields.updateThen ?_
    refine (reads.nested_yields isTitle sameMacros stillRoom enough).bind ?_
    simp only [reads.closes.close?_eq]
    refine Yields.updateThen ?_
    rw [output]
    exact .pure _

/-- Closing a section goes back to where it was opened, and keeps what was output in it. -/
theorem closeSection_yields
    {identifier : String}
    {output : BlockOutput}
    (settled : before.pendingParagraph = false)
    (position : Position) :
    Yields ((before.inSection identifier).withOutput output) (closeSection position) ()
      (before.withOutput
        { output with events := output.events ++ [.closing "section"] }) := by
  have stillSettled : (before.withOutput output).pendingParagraph = false := settled
  have closed :
      (before.withOutput output).endElement "section" =
        before.withOutput
          { output with events := output.events ++ [.closing "section"] } := by
    have replayed := CompilerState.replay_eq_withOutput stillSettled [.closing "section"]
    rw [CompilerState.withOutput_withOutput, List.append_nil] at replayed
    exact replayed
  have isOpen : ((before.inSection identifier).withOutput output).sectionLevel ≠ 0 :=
    Nat.succ_ne_zero _
  apply Yields.state
  rw [if_neg isOpen]
  refine Yields.updateThen ?_
  rw [← closed]
  exact Yields.update _

/-- The end of a section is read in its brackets, and closes the innermost section. -/
theorem elements_sectionEnd
    (identifier : String)
    (output : BlockOutput)
    {atBracket afterBlock : Cursor}
    (reads : cursor.Reads "[endsect".toList atBracket)
    (closes : atBracket.Reads [']'] afterBlock)
    (settled : before.pendingParagraph = false)
    (outside : before.isInNestedBlock = false) :
    Yields ((before.inSection identifier).withOutput output) (firstOf (elements inner) cursor)
      (some afterBlock)
      (before.withOutput
        { output with events := output.events ++ [.closing "section"] }) := by
  have noBlanks : atBracket.skipHorizontal = atBracket := by
    refine Cursor.skip_eq_self ?_
    rw [closes.rest_eq]
    exact .cons rfl _
  have isEnd : cursor.sectionEnd? = some afterBlock := by
    simp [Cursor.sectionEnd?, reads.literal?_eq, noBlanks, closes.close?_eq]
  refine Yields.firstOf [comment, sectionStart inner] ?_ ?_
  · simp only [List.forall_mem_cons, List.not_mem_nil, false_implies, implies_true, and_true]
    exact
      ⟨comment_yields_none reads (by decide), sectionStart_yields_none reads (by decide)⟩
  · apply Yields.state
    have stillOutside :
        ((before.inSection identifier).withOutput output).isInNestedBlock = false :=
      outside
    simp only [stillOutside, Bool.false_eq_true, ↓reduceIte, isEnd]
    exact (closeSection_yields settled cursor.position).bind (.pure _)

/-! ## Enclosed blocks -/

/-- The keyword of enclosed blocks is no keyword that is tried before it. -/
theorem frameKeyword_differs
    (frame : BlockFrame) :
    (∀ earlier ∈
        ["[/", "[section", "[endsect", "[def", "[template", "[include", "[xinclude"],
      Differ earlier.toList frame.keyword.toList) ∧
      (∀ entry ∈ Cursor.headingKeywords, Differ entry.1.toList frame.keyword.toList) ∧
        ∀ name ∈ Cursor.admonitionNames,
          name = frame.element ∨ Differ ("[" ++ name).toList frame.keyword.toList := by
  cases frame <;> decide

/-- An element around blocks that are read up to the bracket that closes them. -/
theorem nestedBlocks_yields
    {name : String}
    {atBracket afterBlock : Cursor}
    (content :
      Yields (before.beginNestedBlock name) (inner.blocks true cursor) atBracket middle)
    (closes : atBracket.Reads [']'] afterBlock) :
    Yields before (nestedBlocks inner name cursor) (some afterBlock)
      (middle.endNestedBlock name) := by
  refine Yields.updateThen (content.bind ?_)
  simp only [closes.close?_eq]
  exact Yields.updateThen (.pure _)

/-- Enclosed blocks are read in their brackets. -/
theorem elements_enclosed
    {frame : BlockFrame}
    {inside atBracket afterBlock : Cursor}
    (reads : cursor.Reads frame.keyword.toList inside)
    (followed : inside.rest.head? = some '\n')
    (content :
      Yields (before.beginNestedBlock frame.element) (inner.blocks true inside) atBracket middle)
    (closes : atBracket.Reads [']'] afterBlock) :
    Yields before (firstOf (elements inner) cursor) (some afterBlock)
      (middle.endNestedBlock frame.element) := by
  obtain ⟨earlier, headings, admonitions⟩ := frameKeyword_differs frame
  simp only [List.forall_mem_cons, List.not_mem_nil, false_implies, implies_true,
    and_true] at earlier
  obtain ⟨noComment, noSection, noSectionEnd, noMacro, noTemplate, noInclusion, noExternal⟩ :=
    earlier
  have applies := nestedBlocks_yields content closes
  have notEarlier :
      ∀ rule ∈
        [comment, sectionStart inner, sectionEnd, heading inner, macroDefinition,
          templateDefinition, inclusion inner, externalInclusion],
        Yields before (rule cursor) none before := by
    simp only [List.forall_mem_cons, List.not_mem_nil, false_implies, implies_true, and_true]
    exact
      ⟨comment_yields_none reads noComment, sectionStart_yields_none reads noSection,
        sectionEnd_yields_none reads noSectionEnd, heading_yields_none reads headings,
        macroDefinition_yields_none reads noMacro, templateDefinition_yields_none reads noTemplate,
        inclusion_yields_none reads noInclusion, externalInclusion_yields_none reads noExternal⟩
  -- The rule for block quotes is tried after the one for admonitions, which then refuses.
  by_cases isQuotation : frame = .quotation
  · subst isQuotation
    have isQuoted : cursor.literal? "[:" = some inside := reads.literal?_eq
    have noAdmonition :
        ∀ name ∈ Cursor.admonitionNames, Differ ("[" ++ name).toList "[:".toList := by
      decide
    refine Yields.firstOf
      ([comment, sectionStart inner, sectionEnd, heading inner, macroDefinition,
        templateDefinition, inclusion inner, externalInclusion] ++ [admonition inner]) ?_ ?_
    · intro rule isEarlier
      obtain isEarlier | isAdmonition := List.mem_append.mp isEarlier
      · exact notEarlier rule isEarlier
      · obtain rfl := List.mem_singleton.mp isAdmonition
        exact admonition_yields_none reads noAdmonition
    · simp only [quotation, isQuoted]
      exact applies
  · have isListed :
        frame.element ∈ Cursor.admonitionNames ∧ "[" ++ frame.element = frame.keyword := by
      cases frame <;> first | decide | exact (isQuotation rfl).elim
    have isAdmonition : cursor.admonition? = some (frame.element, inside) := by
      refine findSome?_keyword ("[" ++ ·) Prod.mk isListed.1 (by rw [isListed.2]; exact reads) ?_
        (by rw [isListed.2]; exact admonitions)
      obtain ⟨rest, remaining⟩ := List.head?_eq_some_iff.mp followed
      rw [Cursor.isAfterKeyword, remaining]
      rfl
    refine Yields.firstOf
      [comment, sectionStart inner, sectionEnd, heading inner, macroDefinition,
        templateDefinition, inclusion inner, externalInclusion] notEarlier ?_
    simp only [admonition, isAdmonition]
    exact applies

end Block

end DocMarkup
