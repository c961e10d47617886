import DocMarkup.Proofs.Written.Inclusion
import DocMarkup.Proofs.Written.Row

namespace DocMarkup

open Compile Text BlockTree

/-!
# Documents read back, with their files

Blocks are written one after another, and any of them that follow one another may
be written in a file of their own that is included in their place. Wherever such a
text comes next, it is read as its blocks: their output is added, and reading goes
on behind them as if the blocks had been written there.
-/

/--
A text stands for blocks, in a file that is open inside others, outside or inside
other blocks. Blocks in a row may be replaced by the inclusion of a file with them.
-/
inductive IsWritten (files : FileTree) (includePaths : List String) :
    List Path → Bool → List BlockTree → List Char → Prop where
  | nil {stack outside} :
      IsWritten files includePaths stack outside [] []
  | paragraph {stack outside content trees text} :
      content ≠ "" →
      IsWritten files includePaths stack outside trees text →
      IsWritten files includePaths stack outside (.paragraph content :: trees)
        (paragraphText content ++ text)
  | code {stack outside content trees text} :
      (lines content.toList).all (fun line => !Cursor.isFenceLine line) = true →
      IsWritten files includePaths stack outside trees text →
      IsWritten files includePaths stack outside (.code content :: trees)
        (codeText content ++ text)
  | heading {stack outside level title trees text} :
      IsWritten files includePaths stack outside trees text →
      IsWritten files includePaths stack outside (.heading level title :: trees)
        (titledLine (headingKeyword level) title ++ text)
  | enclosed {stack outside frame content inside trees text} :
      IsWritten files includePaths stack false content inside →
      IsWritten files includePaths stack outside trees text →
      IsWritten files includePaths stack outside (.enclosed frame content :: trees)
        ((openingLine frame ++ (inside ++ closingLine)) ++ text)
  | sectioned {stack title content inside trees text} :
      IsWritten files includePaths stack true content inside →
      IsWritten files includePaths stack true trees text →
      IsWritten files includePaths stack true (.sectioned title content :: trees)
        ((titledLine "[section" title ++ (inside ++ keywordLine "[endsect")) ++ text)
  | included {stack outside name file path part inside trees text} :
      IsFileName name →
      files.Includes includePaths stack name file path inside →
      IsWritten files includePaths (file :: stack) outside part inside →
      IsWritten files includePaths stack outside trees text →
      IsWritten files includePaths stack outside (part ++ trees) (namedLine "[include" name ++ text)

/-- A text in which an inclusion stands alone stands for the blocks in its file. -/
theorem IsWritten.inclusion
    {files : FileTree}
    {includePaths : List String}
    {stack : List Path}
    {outside : Bool}
    {name : String}
    {file path : Path}
    {part : List BlockTree}
    {inside : List Char}
    (isName : IsFileName name)
    (includes : files.Includes includePaths stack name file path inside)
    (isWritten : IsWritten files includePaths (file :: stack) outside part inside) :
    IsWritten files includePaths stack outside part (namedLine "[include" name) := by
  have isRow := IsWritten.included isName includes isWritten .nil
  rwa [List.append_nil, List.append_nil] at isRow

/-- Blocks that can be written are written as one text. -/
theorem isWritten_writtenAll
    (files : FileTree)
    (includePaths : List String)
    (stack : List Path)
    (trees : List BlockTree) :
    ∀ outside,
      areWritable outside trees = true →
      IsWritten files includePaths stack outside trees (writtenAll trees) := by
  induction trees using BlockTree.rowInduction with
  | nil =>
      intro outside writable
      exact .nil
  | paragraph content rest inductionHypothesis =>
      intro outside writable
      simp only [areWritable, isWritable, Bool.and_eq_true, Bool.not_eq_true',
        String.isEmpty_eq_false_iff] at writable
      exact .paragraph writable.1 (inductionHypothesis outside writable.2)
  | code content rest inductionHypothesis =>
      intro outside writable
      simp only [areWritable, isWritable, Bool.and_eq_true] at writable
      exact .code writable.1 (inductionHypothesis outside writable.2)
  | heading level title rest inductionHypothesis =>
      intro outside writable
      simp only [areWritable, isWritable, Bool.true_and] at writable
      exact .heading (inductionHypothesis outside writable)
  | enclosed frame content rest insideHypothesis inductionHypothesis =>
      intro outside writable
      simp only [areWritable, isWritable, Bool.and_eq_true] at writable
      exact
        .enclosed (insideHypothesis false writable.1) (inductionHypothesis outside writable.2)
  | sectioned title content rest insideHypothesis inductionHypothesis =>
      intro outside writable
      simp only [areWritable, isWritable, Bool.and_eq_true] at writable
      obtain ⟨⟨rfl, writableInside⟩, writableRest⟩ := writable
      exact
        .sectioned (insideHypothesis true writableInside)
          (inductionHypothesis true writableRest)

/-! ## Blocks are no document information -/

/-- A front with which neither white space nor a comment nor document information starts. -/
def OpensBlock (front : List Char) : Prop :=
  (∀ first ∈ front.head?, first.val.toNat < 0x80) ∧ front.takeWhile isBlank = [] ∧
    Differ ['[', '/'] front ∧
      ∀ docType ∈ documentTypes, Differ ("[" ++ docType).toList front

instance (front : List Char) : Decidable (OpensBlock front) :=
  have : Decidable (∀ first ∈ front.head?, first.val.toNat < 0x80) :=
    Option.decidableForallMem _
  inferInstanceAs (Decidable (_ ∧ _))

/-- A text in front of which there is neither white space nor a comment nor document information. -/
structure StartsWithBlock (text : List Char) : Prop where
  startsAscii : ∀ first ∈ text.head?, first.val.toNat < 0x80
  stops : Stops isBlank text
  noComment : ['[', '/'].isPrefixOf text = false
  noInfo : ∀ docType ∈ documentTypes, ("[" ++ docType).toList.isPrefixOf text = false

/-- Nothing is in front of no text at all. -/
theorem StartsWithBlock.nil : StartsWithBlock [] where
  startsAscii := by simp
  stops := rfl
  noComment := rfl
  noInfo := by decide

/-- A text starts as its front does. -/
theorem StartsWithBlock.of_front
    {front text : List Char}
    (opens : OpensBlock front)
    (isFront : front <+: text) :
    StartsWithBlock text := by
  obtain ⟨startsAscii, stops, noComment, noInfo⟩ := opens
  obtain ⟨behind, rfl⟩ := isFront
  have notEmpty : front ≠ [] := by
    rintro rfl
    simp [Differ] at noComment
  exact
    { startsAscii := by rwa [List.head?_append_of_ne_nil _ notEmpty]
      stops := Stops.append stops notEmpty behind
      noComment := noComment.isPrefixOf_eq_false behind
      noInfo := fun docType isType => (noInfo docType isType).isPrefixOf_eq_false behind }

/-- Where a block starts, no document information is read. -/
theorem StartsWithBlock.readDocInfo_eq
    {cursor : Cursor}
    (starts : StartsWithBlock cursor.rest) :
    readDocInfo cursor = .error ⟨cursor.offset⟩ := by
  have noComments : cursor.skipComments = cursor :=
    (Cursor.Reads.nil cursor).skipComments_eq rfl starts.stops starts.noComment
  have notOpened :
      documentTypes.findSome? (fun docType =>
        (cursor.keyword? ("[" ++ docType)).map fun next => (docType, next)) = none := by
    rw [List.findSome?_eq_none_iff]
    intro docType isType
    simp only [Cursor.keyword?, Cursor.literal?, starts.noInfo docType isType,
      Bool.false_eq_true, ↓reduceIte, Option.filter_none, Option.map_none]
  simp only [readDocInfo, noComments, notOpened]

/-- What stands for blocks starts with a block if there is one. -/
theorem IsWritten.startsWithBlock
    {files : FileTree}
    {includePaths : List String}
    {stack : List Path}
    {outside : Bool}
    {trees : List BlockTree}
    {text : List Char}
    (isWritten : IsWritten files includePaths stack outside trees text) :
    StartsWithBlock text := by
  have opens {front block : List Char} (behind : List Char) (isOpening : OpensBlock front)
      (isFront : front <+: block) : StartsWithBlock (block ++ behind) :=
    .of_front isOpening (isFront.trans (List.prefix_append block behind))
  cases isWritten with
  | nil => exact .nil
  | @paragraph _ _ content _ _ notEmpty =>
      refine opens _ (show OpensBlock ['\\'] by decide) ?_
      obtain ⟨first, more, shape⟩ :=
        List.exists_cons_of_ne_nil (mt String.toList_eq_nil_iff.mp notEmpty)
      rw [paragraphText, shape]
      exact List.prefix_append ['\\'] _
  | code =>
      refine opens _ (show OpensBlock fence by decide) ?_
      rw [codeText, List.append_assoc]
      exact List.prefix_append _ _
  | @heading _ _ level title =>
      refine opens _ ?_ (List.prefix_append (headingKeyword level).toList _)
      revert level
      decide
  | @enclosed _ _ frame =>
      refine opens _ (show OpensBlock frame.keyword.toList by cases frame <;> decide) ?_
      rw [openingLine, List.append_assoc]
      exact List.prefix_append _ _
  | sectioned =>
      refine opens _ (show OpensBlock "[section".toList by decide) ?_
      rw [titledLine, List.append_assoc]
      exact List.prefix_append _ _
  | included =>
      exact opens _ (show OpensBlock "[include".toList by decide) (List.prefix_append _ _)

/-- What stands for blocks is loaded as it is from its bytes if it has no carriage returns. -/
theorem IsWritten.loadSource_eq
    {files : FileTree}
    {includePaths : List String}
    {stack : List Path}
    {outside : Bool}
    {trees : List BlockTree}
    {text : List Char}
    (isWritten : IsWritten files includePaths stack outside trees text)
    {path : Path}
    (noNull : path.hasNull = false)
    (stored : files.read path = .ok (encodeUtf8 text))
    (noReturn : '\r' ∉ text) :
    files.loadSource path = .ok (String.ofList text) :=
  FileTree.loadSource_eq noNull stored noReturn isWritten.startsWithBlock.startsAscii

/-! ## Reading on behind blocks -/

/--
Wherever a text comes next, it is read as the given blocks, whatever macros are
defined: whatever is read behind them in the state with their output is read from
where the text started.
-/
def ReadsAs
    (environment : Environment)
    (longest : Nat)
    (stack : List Path)
    (outside : Bool)
    (trees : List BlockTree)
    (text : List Char) :
    Prop :=
  ∀ macros, ReadsTo environment longest macros stack outside (outputOfAll · trees) text

namespace ReadsAs

variable {environment : Environment} {longest : Nat} {stack : List Path} {outside : Bool}
  {first second content trees : List BlockTree} {firstText secondText inside : List Char}

/-- No text stands for no blocks. -/
theorem nil : ReadsAs environment longest stack outside [] [] :=
  fun _ => ReadsTo.nil

/-- Texts that follow one another are read one after the other. -/
theorem append
    (firstIsRead : ReadsAs environment longest stack outside first firstText)
    (secondIsRead : ReadsAs environment longest stack outside second secondText) :
    ReadsAs environment longest stack outside (first ++ second) (firstText ++ secondText) := by
  intro macros
  rw [outputOfAll_append]
  exact (firstIsRead macros).append (secondIsRead macros)

/-! ## Blocks -/

/-- A paragraph is read. -/
theorem paragraph
    {content : String}
    (notEmpty : content ≠ "") :
    ReadsAs environment longest stack outside [.paragraph content] (paragraphText content) := by
  intro macros before after steps nested cursor next value reads atLineStart accepts enough goesOn
  have isLong : (paragraphText content).length = 2 * content.length + 2 := by
    simp [paragraphText, length_backslashed, String.length_toList]
  obtain ⟨left, rfl⟩ : ∃ left, steps = left + 2 := ⟨steps - 2, by omega⟩
  obtain ⟨afterLine, readsBlankLine, applies⟩ :=
    Block.rules_paragraph environment nested notEmpty reads accepts.settled
      (show content.length < left + 1 by omega)
  have isRead := goesOn left (by omega) readsBlankLine.isAtLineStart
  exact
    Block.step_of_rule (Block.head?_of_paragraphText notEmpty reads) (.inl rfl) applies
      (Block.step_of_blankLine readsBlankLine isRead)

/-- Fenced code is read. -/
theorem code
    {content : String}
    (opens : (lines content.toList).all (fun line => !Cursor.isFenceLine line) = true) :
    ReadsAs environment longest stack outside [.code content] (codeText content) := by
  intro macros
  rw [codeText_eq, outputOfAll_singleton]
  exact (ReadsTo.fenced List.all_nil opens).beforeBlankLine

/-- A heading is read. -/
theorem heading
    {level : Fin 6}
    {title : String} :
    ReadsAs environment longest stack outside [.heading level title]
      (titledLine (headingKeyword level) title) := by
  intro macros
  rw [titledLine_eq, outputOfAll_singleton]
  refine ReadsTo.beforeBlankLine ?_
  intro before after steps nested cursor next value reads atLineStart accepts enough goesOn
  have isLong :
      (writtenTitle title).length + 1 ≤
        (titleLine (headingKeyword level) (writtenTitle title)).length := by
    simp only [titleLine, List.length_append, List.length_cons, List.length_nil]
    omega
  obtain ⟨left, rfl⟩ : ∃ left, steps = left + 1 := ⟨steps - 1, by omega⟩
  obtain ⟨afterBlock, ⟨readsTitle⟩, readsLineFeed⟩ :=
    Block.ReadsTitle.exists_of_reads reads (Block.IsTitle.of_backslashed macros title).stops
  have opens : cursor.rest.head? = some '[' := by
    rw [readsTitle.readsKeyword.rest_eq]
    simp [headingKeyword]
  have applies :=
    Block.elements_heading environment readsTitle accepts.settled accepts.room
      (show (writtenTitle title).length < left by omega)
  exact
    Block.step_of_element opens applies readsLineFeed
      (goesOn left (by omega) readsLineFeed.isAtLineStart)

/-- Enclosed blocks are read if the blocks inside are. -/
theorem enclosed
    {frame : BlockFrame}
    (contentIsRead : ReadsAs environment longest stack false content inside) :
    ReadsAs environment longest stack outside [.enclosed frame content]
      (openingLine frame ++ (inside ++ closingLine)) := by
  intro macros
  have isEnclosed :
      ReadsTo environment longest macros stack outside (.enclosed frame (outputOfAll · content)) _ :=
    .enclosed frame (contentIsRead macros).behindBlankLine
  have isRead := isEnclosed.beforeBlankLine
  rw [outputOfAll_singleton, output_enclosed]
  simpa [openingLine, closingLine] using isRead

/-- A section is read if the blocks inside are. -/
theorem sectioned
    {title : String}
    (contentIsRead : ReadsAs environment longest stack true content inside) :
    ReadsAs environment longest stack true [.sectioned title content]
      (titledLine "[section" title ++ (inside ++ keywordLine "[endsect")) := by
  intro macros
  have noneGiven : ∀ identifier ∈ none, Block.IsGivenId identifier := by
    simp
  have isRead :=
    (ReadsTo.sectioned noneGiven (.of_backslashed macros title)
      (contentIsRead macros).behindBlankLine).beforeBlankLine
  rw [outputOfAll_singleton, output_sectioned, titledLine_eq]
  simpa [keywordLine, sectionKeyword] using isRead

/-- An included file leaves the output of the blocks in it. -/
theorem includeFile_within
    {name : String}
    {file path : Path}
    {part : List BlockTree}
    {before : CompilerState}
    {steps : Nat}
    (includes :
      environment.files.Includes environment.includePaths stack name file path inside)
    (bounded : environment.files.Bounded longest)
    (starts : StartsWithBlock inside)
    (partIsRead : ReadsAs environment longest (file :: stack) outside part inside)
    {macros : MacroTable}
    (accepts : before.Accepts macros stack outside)
    (enough : (includeLimit - stack.length) * (longest + 4) ≤ steps)
    (position : Position) :
    Yields before (includeFile environment (Inner.within environment steps) position name none) ()
      (before.withOutput (outputOfAll before.naming part)) := by
  let source : Source := { text := String.ofList inside, name := path.shown }
  have atFront : source.cursor.rest = inside := by
    rw [source.rest_cursor]
    exact String.toList_ofList
  have isShort : inside.length ≤ longest := by
    have fits := bounded _ _ includes.loaded
    rwa [String.length_ofList] at fits
  have isRoom :
      (includeLimit - stack.length) * (longest + 4) =
        (includeLimit - (file :: stack).length) * (longest + 4) + (longest + 4) := by
    have room := includes.room
    rw [← Nat.succ_mul, List.length_cons]
    congr 1
    omega
  have reads := Cursor.Reads.whole source
  rw [← source.rest_cursor, atFront] at reads
  have openedAccepts : (pushFile file before).Accepts macros (file :: stack) outside :=
    ⟨accepts.macros, accepts.settled, accepts.room, congrArg _ accepts.stack, accepts.outside⟩
  have content :=
    (partIsRead macros).toEnd false reads (.inl (Cursor.Reads.rest_end source)) rfl openedAccepts
      (show (includeLimit - (file :: stack).length) * (longest + 4) + inside.length < steps by
        omega)
  have atEnd : (source.cursorAt source.text.length).isAtEnd = true := by
    simp [Cursor.isAtEnd, Cursor.Reads.rest_end]
  rw [← accepts.stack] at includes
  rw [← atFront] at starts
  exact includeFile_yields includes rfl starts.readDocInfo_eq content atEnd position

/-- The inclusion of a file is read if the blocks in it are. -/
theorem included
    {name : String}
    {file path : Path}
    {part : List BlockTree}
    (isName : IsFileName name)
    (includes :
      environment.files.Includes environment.includePaths stack name file path inside)
    (bounded : environment.files.Bounded longest)
    (starts : StartsWithBlock inside)
    (partIsRead : ReadsAs environment longest (file :: stack) outside part inside) :
    ReadsAs environment longest stack outside part (namedLine "[include" name) := by
  intro macros before after steps nested cursor next value reads atLineStart accepts enough goesOn
  have isLong := length_namedLine_ge "[include" name
  obtain ⟨left, rfl⟩ : ∃ left, steps = left + 2 := ⟨steps - 2, by omega⟩
  have isIncluded :
      Yields before
        ((Inner.within environment (left + 1)).includeFile cursor.position name none) ()
        (before.withOutput (outputOfAll before.naming part)) :=
    includeFile_within includes bounded starts partIsRead accepts (by omega) cursor.position
  obtain ⟨afterKeyword, readsKeyword, -⟩ := reads.split
  have opens : cursor.rest.head? = some '[' := by
    rw [readsKeyword.rest_eq]
    simp
  obtain ⟨afterBlock, afterLine, applies, readsLineFeed, readsBlankLine⟩ :=
    Block.elements_inclusion isName reads isIncluded
  exact
    Block.step_of_element opens applies readsLineFeed
      (Block.step_of_blankLine readsBlankLine
        (goesOn left (by omega) readsBlankLine.isAtLineStart))

end ReadsAs

/-! ## Documents -/

/-- What stands for blocks is read as those blocks. -/
theorem IsWritten.readsAs
    {environment : Environment}
    {longest : Nat}
    {stack : List Path}
    {outside : Bool}
    {trees : List BlockTree}
    {text : List Char}
    (bounded : environment.files.Bounded longest)
    (isWritten :
      IsWritten environment.files environment.includePaths stack outside trees text) :
    ReadsAs environment longest stack outside trees text := by
  -- The induction is on how the blocks are cut: in a file, the stack has one more entry.
  induction isWritten with
  | nil => exact .nil
  | paragraph notEmpty _ restIsRead => exact (ReadsAs.paragraph notEmpty).append restIsRead
  | code opens _ restIsRead => exact (ReadsAs.code opens).append restIsRead
  | heading _ restIsRead => exact ReadsAs.heading.append restIsRead
  | enclosed _ _ contentIsRead restIsRead =>
      exact (ReadsAs.enclosed contentIsRead).append restIsRead
  | sectioned _ _ contentIsRead restIsRead =>
      exact (ReadsAs.sectioned contentIsRead).append restIsRead
  | included isName includes partIsWritten _ partIsRead restIsRead =>
      exact
        (ReadsAs.included isName includes bounded partIsWritten.startsWithBlock
          partIsRead).append restIsRead

/--
Reading the markup of blocks consumes all of it and adds exactly their events to the
output, and their identifiers to those that are taken. Nothing else changes, whatever
macros and templates are defined and whatever brackets were found to be unclosed before.
-/
theorem written_blocks_read_back
    (environment : Environment)
    {trees : List BlockTree}
    (writable : areWritable true trees = true)
    (source : Source)
    (isWritten : source.text = String.ofList (writtenAll trees))
    (workspace : Workspace)
    (settled : workspace.state.pendingParagraph = false)
    (room : workspace.state.phraseDepth < phraseLimit)
    (outside : workspace.state.isInNestedBlock = false) :
    ∃ after,
      withFreshMemory
          (parsing environment source.text.length fun inner => inner.blocks false source.cursor)
          workspace =
        .ok (source.cursorAt source.text.length) after ∧
        after.unclosed = workspace.unclosed ∧
        after.state =
          workspace.state.withOutput (outputOfAll workspace.state.naming trees) := by
  have reads := Cursor.Reads.whole source
  have length : source.text.length = (writtenAll trees).length := by
    rw [isWritten, String.length_ofList]
  have enough :=
    inclusions_lt_enoughSteps environment workspace.state source.text.length
      workspace.state.includeStack.length (Nat.le_refl _) CompilerState.given_le_longestText
  rw [isWritten, String.toList_ofList, ← isWritten] at reads
  have bounded :
      environment.files.Bounded
        (longestText environment workspace.state source.text.length) :=
    CompilerState.files_bounded_longestText
  have isReadAs :=
    (isWritten_writtenAll environment.files environment.includePaths
      workspace.state.includeStack trees true writable).readsAs bounded
  have isRead :=
    (isReadAs workspace.state.macros).toEnd false reads (.inl (Cursor.Reads.rest_end source)) rfl
      ⟨rfl, settled, room, rfl, fun _ => outside⟩ (by rw [← length]; exact enough)
  have parsed := Yields.parsing (fun inner => inner.blocks false source.cursor) isRead
  obtain ⟨consulted, reached⟩ := parsed.run_withFreshMemory workspace
  exact ⟨_, reached, rfl, rfl⟩

/-- A note in a section is read back where macros are defined and brackets are open. -/
theorem written_blocks_read_back_with_macro :
    let trees : List BlockTree :=
      [.sectioned "N [1]"
          [.enclosed .note [.paragraph "[endsect]"], .code "```N", .heading 2 ""],
        .paragraph "\n\nN"]
    let source : Source := { text := String.ofList (writtenAll trees), name := "note" }
    let environment : Environment :=
      { files := ⟨[], [], []⟩, encoding := .html, moment := .fixed }
    let state : CompilerState := { macros := MacroTable.define {} "N" "name", phraseDepth := 99 }
    ∃ after,
      withFreshMemory
          (parsing environment source.text.length fun inner => inner.blocks false source.cursor)
          { state := state } =
        .ok (source.cursorAt source.text.length) after ∧
        after.unclosed = [] ∧
        after.state = state.withOutput (outputOfAll state.naming trees) := by
  intro trees source environment state
  exact
    written_blocks_read_back environment (by decide +kernel) source rfl { state := state } rfl
      (by decide) rfl

end DocMarkup
