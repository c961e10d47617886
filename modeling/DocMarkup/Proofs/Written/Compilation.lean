import DocMarkup.Proofs.Compilation.Completion
import DocMarkup.Proofs.Written.Document
import DocMarkup.Proofs.Written.Header

namespace DocMarkup

open Compile Text BlockTree

/-!
# Documents compiled from one file or from several

A document is written as its information and its blocks. Any blocks of it that follow
one another may stand in files of their own. What comes out of a compilation is made
from the information and the blocks alone, wherever they stand.
-/

/-- A document as markup: its information, and the markup of its blocks behind it. -/
def documentText (info : DocInfo) (lines : List DocInfoLine) (body : List Char) : List Char :=
  writtenDocInfo info lines ++ (['\n'] ++ body)

/-! ## Information -/

/-- Document information with a title and an identifier, in which no macro is named. -/
structure DocInfo.IsTitled (macros : MacroTable) (info : DocInfo) : Prop where
  title : info.title ≠ ""
  id : ∃ id, info.id = some id ∧ id ≠ ""
  quietTitle : NamesNoMacro macros info.title.toList
  quietLicense : ∀ markup, info.license = some markup → NamesNoMacro macros markup.toList
  quietPurpose : ∀ markup, info.purpose = some markup → NamesNoMacro macros markup.toList

section Information

variable {macros : MacroTable} {info : DocInfo} {lines : List DocInfoLine}

/-- A text that stands as it is has something in it if it is not empty. -/
theorem IsPlain.not_isBlankText
    {text : String}
    (isPlain : IsPlain text)
    (notEmpty : text ≠ "") :
    ¬ isBlankText text = true := by
  intro blank
  have stops := isPlain.stops
  obtain ⟨first, rest, shape⟩ :=
    List.exists_cons_of_ne_nil (mt String.toList_eq_nil_iff.mp notEmpty)
  rw [isBlankText, shape, List.all_cons, Bool.and_eq_true] at blank
  rw [shape] at stops
  simp [Stops, blank.1] at stops

/-- A single value that is written stands as it is. -/
theorem DocInfo.IsWrittenAs.isPlain
    (isWritten : info.IsWrittenAs lines)
    {field : DocInfoField}
    {text : String}
    (given : info.value? field = some text) :
    IsPlain text :=
  (isWritten.writable _ ((isWritten.values field text).mpr given)).1

/-- A text that stands as it is and names no macro is quiet. -/
theorem IsPlain.isQuiet
    {text : String}
    (isPlain : IsPlain text)
    (noMacro : NamesNoMacro macros text.toList) :
    IsQuiet macros text.toList where
  areUncounted := isPlain.areUncounted
  noQuotes := isPlain.noQuotes
  noMacro := noMacro

/-- A name that stands as it is can be given by an inclusion if it is not empty. -/
theorem IsPlain.isFileName
    {name : String}
    (isPlain : IsPlain name)
    (notEmpty : name ≠ "") :
    IsFileName name where
  notEmpty := notEmpty
  isTrimmed := isPlain.isTrimmed
  isClosed := (Cursor.IsBalanced.of_plain isPlain.areUncounted isPlain.noQuotes).isClosedByNext

/-- A title and an identifier are written on one line each. -/
theorem DocInfo.IsWrittenAs.titled
    {docType title id : String}
    (isType : docType ∈ documentTypes)
    (isPlain : IsPlain title)
    (oneLine : '\n' ∉ title.toList)
    (isWritable : (DocInfoLine.value .id id).IsWritable) :
    ({ docType := docType, title := title, id := some id } : DocInfo).IsWrittenAs
      [.value .id id] where
  isType := isType
  title := isPlain
  oneLine := oneLine
  writable := by simpa using isWritable
  once := by simp [DocInfoLine.field?]
  values field text := by cases field <;> simp [DocInfo.value?, eq_comm]
  authors := rfl
  copyrights := rfl
  isShown := rfl

/-- The phrases of information that is written are not longer than the whole. -/
theorem DocInfo.IsWrittenAs.fits (isWritten : info.IsWrittenAs lines) :
    info.Fits (writtenDocInfo info lines).length := by
  let source : Source := { text := String.ofList (writtenDocInfo info lines), name := "" }
  have reads := Cursor.Reads.whole source
  have remaining : source.cursor.rest = writtenDocInfo info lines := by
    rw [source.rest_cursor]
    exact String.toList_ofList
  rw [← source.rest_cursor, remaining] at reads
  have fits := (readDocInfo_fits (readDocInfo_eq isWritten reads rfl)).1
  rwa [remaining] at fits

/--
Writing the header of a document that is titled sets its identifier and adds output,
the same in all states with the given macros, as soon as there are enough steps.
-/
theorem DocInfo.IsWrittenAs.exists_header
    (environment : Environment)
    (isWritten : info.IsWrittenAs lines)
    (isTitled : info.IsTitled macros)
    (position : Position) :
    ∃ docId events,
      ∀ (steps : Nat) (before : CompilerState),
        before.macros = macros →
        (writtenDocInfo info lines).length < steps →
        Yields before (processDocInfo environment (Inner.within environment steps) info position)
          true ({ before with docId := docId }.replay events) := by
  obtain ⟨id, isId, idNotEmpty⟩ := isTitled.id
  have idPlain : IsPlain id := isWritten.isPlain (show info.value? .id = some id from isId)
  have idNotBlank : ¬ isBlankText (trimmed id) = true := by
    rw [idPlain.isTrimmed]
    exact idPlain.not_isBlankText idNotEmpty
  obtain ⟨complete, isComplete, sameTitle, sameLicense, samePurpose⟩ :=
    DocInfo.exists_complete (isWritten.title.not_isBlankText isTitled.title)
      isWritten.title.isTrimmed isId idNotBlank environment.encoding environment.moment
  have quiet : complete.IsQuietIn macros :=
    { title := by
        rw [sameTitle]
        exact isWritten.title.isQuiet isTitled.quietTitle
      license := by
        rw [sameLicense]
        intro markup given
        exact
          (isWritten.isPlain (show info.value? .license = some markup from given)).isQuiet
            (isTitled.quietLicense markup given)
      purpose := by
        rw [samePurpose]
        intro markup given
        exact
          (isWritten.isPlain (show info.value? .purpose = some markup from given)).isQuiet
            (isTitled.quietPurpose markup given) }
  obtain ⟨events, isHeader⟩ :=
    DocMarkup.exists_header isWritten.isShown isComplete quiet (isWritten.fits.complete isComplete)
      position
  exact ⟨complete.id, events, isHeader⟩

end Information

/-! ## Reading documents -/

section Reading

variable {environment : Environment} {longest steps : Nat} {file : Path} {info : DocInfo}
  {lines : List DocInfoLine} {macros : MacroTable} {output : Naming → BlockOutput}
  {text : List Char} {source : Source}

/-- A document of which the header is known is read with its blocks, and is closed. -/
theorem parseText_yields
    {before titled : CompilerState}
    (isWritten : info.IsWrittenAs lines)
    (isRead : ReadsTo environment longest macros [file] true output text)
    (isText : source.text.toList = documentText info lines text)
    (header :
      Yields before
        (processDocInfo environment (Inner.within environment steps) info (source.position 0))
        true titled)
    (accepts : titled.Accepts macros [file] true)
    (enough : (includeLimit - 1) * (longest + 4) + source.text.length < steps) :
    Yields before (parseText environment (Inner.within environment steps) source false) true
      ((titled.withOutput (output titled.naming)).closeDocument) := by
  have reads := Cursor.Reads.whole source
  rw [isText] at reads
  have length : text.length ≤ source.text.length := by
    rw [← String.length_toList, isText]
    simp only [documentText, List.length_append]
    omega
  obtain ⟨afterInfo, readsInfo, readsBody⟩ := reads.split
  obtain ⟨atBlocks, readsLineFeed, readsBlocks⟩ := readsBody.split
  have infoRead : readDocInfo source.cursor = .ok (info, atBlocks) :=
    readDocInfo_eq isWritten readsInfo (by rw [readsLineFeed.lineEnd?_eq]; rfl)
  have isShown : { info with ignore := false } = info := by
    rw [← isWritten.isShown]
  have atEnd : (source.cursorAt source.text.length).rest = [] := Cursor.Reads.rest_end source
  have blocksYield :=
    isRead.toEnd false readsBlocks (.inl atEnd) readsLineFeed.isAtLineStart accepts
      (show (includeLimit - [file].length) * (longest + 4) + text.length < steps by
        simp only [List.length_singleton]
        omega)
  simp only [parseText, infoRead, isShown]
  refine header.bind ?_
  simp only [↓reduceIte]
  refine blocksYield.bind ?_
  simp only [Cursor.isAtEnd, atEnd, List.isEmpty_nil, ↓reduceIte]
  refine Yields.updateThen ?_
  simp only [finishDocument, isWritten.isShown, Bool.false_eq_true, ↓reduceIte]
  exact .pure true

/-- Where no section is open, the document is closed by its end alone. -/
theorem CompilerState.closeDocument_of_noSections
    {state : CompilerState}
    (noSections : state.sectionIds = []) :
    state.closeDocument = state.endElement "document" := by
  rw [closeDocument, noSections]
  rfl

/-- At the start of a compilation, the blocks of the first file are accepted. -/
theorem Compile.Fresh.accepts
    {before : CompilerState}
    (fresh : Fresh before)
    (unnested : Unnested before)
    (file : Path) :
    (pushFile file before).Accepts before.macros [file] true where
  macros := rfl
  settled := fresh.settled
  room := by
    show before.phraseDepth < phraseLimit
    rw [unnested.phraseDepth]
    decide
  stack := congrArg _ unnested.includeStack
  outside := by
    intro _
    show decide (0 < before.blockNesting) = false
    rw [fresh.blockNesting]
    rfl

/--
What reading a document comes to is settled by its information, its name and the
output of its blocks, however they are written and however many steps there are.
-/
theorem exists_yields_parseUnitOf
    {before : CompilerState}
    (file : Path)
    (name : String)
    (isWritten : info.IsWrittenAs lines)
    (isTitled : info.IsTitled before.macros)
    (fresh : Fresh before)
    (unnested : Unnested before)
    (output : Naming → BlockOutput) :
    ∃ final : CompilerState,
      (final.diagnostics = before.diagnostics ∧ final.errorCount = before.errorCount ∧
        final.sectionLevel = 0 ∧
          ∃ front naming,
            final.events.toList =
              front ++ ((output naming).events ++ [.closing "document"])) ∧
        ∀ (text : List Char) (steps : Nat),
          ReadsTo environment longest before.macros [file] true output text →
          (includeLimit - 1) * (longest + 4) + (documentText info lines text).length < steps →
          Yields before
            (parseUnitOf environment (Inner.within environment steps) file
              { text := String.ofList (documentText info lines text), name := name })
            true final := by
  let position : Position := { file := name, offset := 0, line := 1, column := 1 }
  obtain ⟨docId, events, header⟩ := isWritten.exists_header environment isTitled position
  let pushed := pushFile file before
  let titled : CompilerState :=
    { pushed with docId := docId, events := pushed.events ++ events.toArray }
  let named : CompilerState := { pushed with docId := docId }
  have isTitledState : named.replay events = titled :=
    CompilerState.replay_of_settled (show named.pendingParagraph = false from fresh.settled) events
  -- The state at the end is made from the output before it is said how that is written.
  let closed := (titled.withOutput (output titled.naming)).endElement "document"
  have noSections : closed.sectionLevel = 0 := fresh.sectionLevel
  have settled : (titled.withOutput (output titled.naming)).pendingParagraph = false :=
    fresh.settled
  have isClosed :
      (popFile closed).events.toList =
        titled.events.toList ++ ((output titled.naming).events ++ [.closing "document"]) := by
    have replayed := CompilerState.replay_eq_withOutput settled [.closing "document"]
    rw [CompilerState.withOutput_withOutput] at replayed
    show closed.events.toList = _
    rw [show closed = _ from replayed]
    simp [CompilerState.withOutput]
  refine ⟨popFile closed, ⟨rfl, rfl, noSections, titled.events.toList, titled.naming, isClosed⟩, ?_⟩
  intro text steps isRead enough
  let source : Source := { text := String.ofList (documentText info lines text), name := name }
  have isText : source.text.toList = documentText info lines text := String.toList_ofList
  have length : source.text.length = (documentText info lines text).length :=
    String.length_ofList
  have isPosition : source.position 0 = position := by
    simp [source, position, Source.position, Source.positionAfter, distanceFromLineStart]
  have opened := fresh.accepts unnested file
  have accepts : titled.Accepts before.macros [file] true :=
    ⟨opened.macros, opened.settled, opened.room, opened.stack, opened.outside⟩
  have headerYields :
      Yields pushed
        (processDocInfo environment (Inner.within environment steps) info (source.position 0))
        true titled := by
    rw [isPosition, ← isTitledState]
    refine header steps pushed rfl ?_
    simp only [documentText, List.length_append] at enough
    omega
  have textYields :=
    parseText_yields isWritten isRead isText headerYields accepts (by rwa [length])
  rw [CompilerState.closeDocument_of_noSections
    (show (titled.withOutput (output titled.naming)).sectionIds = [] from fresh.sectionIds)]
    at textYields
  have ended (place : Position) : closed.endOfUnit place = closed := by
    rw [CompilerState.endOfUnit, if_pos noSections]
  have unitYields :
      Yields pushed (parseUnit environment (Inner.within environment steps) source false) true
        closed := by
    refine textYields.withFreshMemory.bind ?_
    simp only [Bool.false_eq_true, ↓reduceIte]
    refine Yields.updateThen ?_
    rw [ended]
    exact .pure true
  exact Yields.updateThen (unitYields.thenAlways popFile)

end Reading

/-! ## Compilations -/

namespace Options

/-- What a run comes to is the result of the state that its document is read to. -/
theorem run_of_yields
    (options : Options)
    (files : FileTree)
    (document : Document)
    {parsed : Bool}
    {final : CompilerState}
    (yields :
      Yields options.initialState
        (document.parse (options.environment files)
          (Inner.within (options.environment files) (options.stepsFor files document)))
        parsed final) :
    (options.run
        (parsing (options.environment files) document.givenLength fun inner =>
          document.parse (options.environment files) inner)).result =
        options.result parsed final ∧
      CompilerState.Finished parsed final := by
  obtain ⟨consulted, reached⟩ := yields []
  have ends :=
    options.parse_ends files document (fun _ : True => Nat.le_refl _)
      (Inner.within_sound (options.files_bounded files document)
        (options.stepsFor files document))
  refine ⟨?_, ends.of_ok rfl reached⟩
  unfold run
  rw [parsing_apply]
  unfold stepsFor at reached
  rw [reached]

end Options

section Files

variable (options : Options) {files : FileTree} {file : Path} {info : DocInfo}
  {lines : List DocInfoLine} {text : List Char} {final : CompilerState} {longest : Nat}

/-- Enough steps are computed for a document that is given as a text. -/
theorem compileSource_of_yields
    {given name : String}
    (isFile : files.resolve (Path.ofText name) = .ok file)
    (isText : pairedLineEnds given.toList = text)
    (bounds : longest ≤ longestText (options.environment files) options.initialState 0)
    (yields :
      ∀ steps,
        (includeLimit - 1) * (longest + 4) + text.length < steps →
        Yields options.initialState
          (parseUnitOf (options.environment files)
            (Inner.within (options.environment files) steps) file
            { text := String.ofList text, name := name })
          true final) :
    compileSource options files given name = options.result true final ∧
      CompilerState.Finished true final := by
  let source : Source := { text := String.ofList text, name := name }
  have length : source.text.length = text.length := String.length_ofList
  have enough :=
    inclusions_lt_enoughSteps (options.environment files) options.initialState source.text.length 1
      (show longest ≤ _ from
        Nat.le_trans bounds (by unfold longestText; omega))
      (show text.length ≤ _ from length ▸ CompilerState.given_le_longestText)
  have run := options.run_of_yields files (.given file source) (yields _ enough)
  simp only [compileSource, Options.runSource, isFile, isText]
  exact run

/-- Enough steps are computed for a document that is stored in a file. -/
theorem compileFile_of_yields
    {path : Path}
    (isFile : files.resolve path = .ok file)
    (loaded : files.loadSource path = .ok (String.ofList text))
    (bounds : longest ≤ longestText (options.environment files) options.initialState 0)
    (yields :
      ∀ steps,
        (includeLimit - 1) * (longest + 4) + text.length < steps →
        Yields options.initialState
          (parseUnitOf (options.environment files)
            (Inner.within (options.environment files) steps) file
            { text := String.ofList text, name := path.shown })
          true final) :
    compileFile options files path = options.result true final := by
  have fits :
      text.length ≤ longestText (options.environment files) options.initialState 0 := by
    rw [← String.length_ofList (l := text)]
    exact CompilerState.files_bounded_longestText _ _ loaded
  have enough :=
    inclusions_lt_enoughSteps (options.environment files) options.initialState 0 1 bounds fits
  have parsed :
      Yields options.initialState
        ((Document.stored path).parse (options.environment files)
          (Inner.within (options.environment files) (options.stepsFor files (.stored path))))
        true final := by
    refine (Yields.consult [path]).bind ?_
    simp only [show (options.environment files).files.loadSource path = _ from loaded]
    exact (Yields.ofPath isFile).bind (yields _ enough)
  exact (options.run_of_yields files (.stored path) parsed).1

end Files

/--
A document of which blocks stand in files of their own, at any depth, compiles to the
same result as the document in one text, whether it is given as a text or stored in a
file. Nothing is reported, and no section is left open. The line ends in a text that is
given are paired, those in a file are unified, before either is read as a document.
-/
theorem inclusion_is_pasting
    (options : Options)
    {files : FileTree}
    {name : String}
    {file : Path}
    (isFile : files.resolve (Path.ofText name) = .ok file)
    {info : DocInfo}
    {lines : List DocInfoLine}
    (isWritten : info.IsWrittenAs lines)
    (isTitled : info.IsTitled options.initialState.macros)
    {trees : List BlockTree}
    (writable : areWritable true trees = true)
    {text : List Char}
    (isCut : IsWritten files options.includePaths [file] true trees text)
    {whole cut : String}
    (isWholeText : pairedLineEnds whole.toList = documentText info lines (writtenAll trees))
    (isCutText : pairedLineEnds cut.toList = documentText info lines text) :
    ∃ result,
      compileSource options files whole name = .ok result ∧
        compileSource options files cut name = .ok result ∧
        (∀ path,
          path.shown = name →
          files.resolve path = .ok file →
          files.loadSource path = .ok (String.ofList (documentText info lines text)) →
          compileFile options files path = .ok result) ∧
        result.diagnostics = options.initialState.diagnostics.toList ∧
        result.sectionLevel = 0 := by
  let environment := options.environment files
  let longest := longestText environment options.initialState 0
  have bounded : environment.files.Bounded longest := CompilerState.files_bounded_longestText
  obtain ⟨final, ⟨sameDiagnostics, -, noSections, -⟩, areRead⟩ :=
    exists_yields_parseUnitOf file name isWritten isTitled options.fresh_initialState
      options.unnested_initialState (outputOfAll · trees)
  have isWhole :=
    isWritten_writtenAll files options.includePaths [file] trees true writable
  obtain ⟨wholeIs, finished⟩ :=
    compileSource_of_yields options isFile isWholeText (Nat.le_refl longest) fun steps =>
      areRead (writtenAll trees) steps (isWhole.readsAs bounded _)
  have cutIs :=
    (compileSource_of_yields options isFile isCutText (Nat.le_refl longest) fun steps =>
      areRead text steps (isCut.readsAs bounded _)).1
  have storedIs :
      ∀ path,
        path.shown = name →
        files.resolve path = .ok file →
        files.loadSource path = .ok (String.ofList (documentText info lines text)) →
        compileFile options files path = options.result true final := by
    rintro path rfl isPath loaded
    exact compileFile_of_yields options isPath loaded (Nat.le_refl longest) fun steps =>
      areRead text steps (isCut.readsAs bounded _)
  obtain ⟨result, isResult⟩ := options.exists_result finished
  obtain ⟨resultDiagnostics, resultSections⟩ := options.parts_of_result isResult
  rw [isResult] at wholeIs cutIs storedIs
  refine ⟨result, wholeIs, cutIs, storedIs, ?_, ?_⟩
  · rw [resultDiagnostics, sameDiagnostics]
  · rw [resultSections, noSections]

/-- The blocks in a section and in a note of it stand in files of their own. -/
theorem inclusion_is_pasting_in_note_in_section :
    let info : DocInfo := { docType := "article", title := "T", id := some "t" }
    let lines : List DocInfoLine := [.value .id "t"]
    let inNote : List BlockTree := [.paragraph "b"]
    let inSection : List BlockTree := [.paragraph "a", .enclosed .note inNote]
    let noteText := writtenAll inNote
    let partText :=
      paragraphText "a" ++
        ((openingLine .note ++ (namedLine "[include" "sub/note.qbk" ++ closingLine)) ++ [])
    let mainText :=
      (titledLine "[section" "One" ++
          (namedLine "[include" "part.qbk" ++ keywordLine "[endsect")) ++
        writtenAll [.code "c"]
    let files : FileTree :=
      { entries :=
          [(["doc", "main.qbk"], .file (encodeUtf8 (documentText info lines mainText))),
            (["doc", "part.qbk"], .file (encodeUtf8 partText)),
            (["doc", "sub", "note.qbk"], .file (encodeUtf8 noteText))]
        workingDirectory := ["doc"]
        homeDirectory := [] }
    let whole := documentText info lines (writtenAll [.sectioned "One" inSection, .code "c"])
    let cut := documentText info lines mainText
    ∃ result,
      compileSource {} files (String.ofList whole) "main.qbk" = .ok result ∧
        compileSource {} files (String.ofList cut) "main.qbk" = .ok result ∧
        compileFile {} files (Path.ofText "main.qbk") = .ok result ∧
        result.diagnostics = [] ∧
        result.sectionLevel = 0 := by
  intro info lines inNote inSection noteText partText mainText files whole cut
  let main : Path := ⟨.slash, ["doc", "main.qbk"]⟩
  let part : Path := ⟨.slash, ["doc", "part.qbk"]⟩
  let note : Path := ⟨.slash, ["doc", "sub", "note.qbk"]⟩
  have isWritten : info.IsWrittenAs lines :=
    .titled (by decide) (by decide +kernel) (by decide) ⟨by decide +kernel, by simp⟩
  have isTitled : info.IsTitled ({} : Options).initialState.macros :=
    { title := by decide
      id := ⟨"t", rfl, by decide⟩
      quietTitle := fun _ isMacro => (Bool.false_ne_true isMacro).elim
      quietLicense := by simp [info]
      quietPurpose := by simp [info] }
  have noteIsWritten :=
    isWritten_writtenAll files [] [note, part, main] inNote false (by decide +kernel)
  have noteIsName : IsFileName "sub/note.qbk" :=
    IsPlain.isFileName (by decide +kernel) (by decide)
  have noteIncludes : files.Includes [] [part, main] "sub/note.qbk" note note noteText :=
    { found := by decide +kernel
      resolved := by decide +kernel
      loaded := noteIsWritten.loadSource_eq rfl rfl (by decide +kernel)
      notOpen := by decide
      room := by decide }
  have partIsWritten : IsWritten files [] [part, main] true inSection partText :=
    .paragraph (by decide)
      (.enclosed (.inclusion noteIsName noteIncludes noteIsWritten) .nil)
  have partIsName : IsFileName "part.qbk" := IsPlain.isFileName (by decide +kernel) (by decide)
  have partIncludes : files.Includes [] [main] "part.qbk" part part partText :=
    { found := by decide +kernel
      resolved := by decide +kernel
      loaded := partIsWritten.loadSource_eq rfl rfl (by decide +kernel)
      notOpen := by decide
      room := by decide }
  have isCut :
      IsWritten files [] [main] true [.sectioned "One" inSection, .code "c"] mainText :=
    .sectioned (.inclusion partIsName partIncludes partIsWritten)
      (isWritten_writtenAll files [] [main] [.code "c"] true (by decide +kernel))
  have isFile : files.resolve (Path.ofText "main.qbk") = .ok main := by
    decide +kernel
  have isWholeText : pairedLineEnds (String.ofList whole).toList = whole := by
    rw [String.toList_ofList, pairedLineEnds_eq_self (by decide +kernel)]
  have isCutText : pairedLineEnds (String.ofList cut).toList = cut := by
    rw [String.toList_ofList, pairedLineEnds_eq_self (by decide +kernel)]
  obtain ⟨result, wholeIs, cutIs, storedIs, isClean⟩ :=
    inclusion_is_pasting {} isFile isWritten isTitled (by decide +kernel) isCut isWholeText
      isCutText
  exact
    ⟨result, wholeIs, cutIs,
      storedIs (Path.ofText "main.qbk") rfl isFile (by decide +kernel), isClean⟩

/--
A carriage return that is alone is a line end in a file, but not in a text that is
given: where a paragraph with one stands in a file, another text comes out.
-/
theorem carriage_return_is_line_end_in_included_file :
    let info : DocInfo := { docType := "article", title := "T", id := some "t" }
    let lines : List DocInfoLine := [.value .id "t"]
    let trees : List BlockTree := [.paragraph "a\rb"]
    let files : FileTree :=
      { entries := [(["doc", "part.qbk"], .file (encodeUtf8 (writtenAll trees)))]
        workingDirectory := ["doc"]
        homeDirectory := [] }
    let options : Options := { prettyPrint := false }
    let compiled (body : List Char) : Option (List Event) :=
      let source := String.ofList (documentText info lines body)
      (compileSource options files source "main.qbk").toOption.map CompilationResult.events
    let shown (text : String) : List Event :=
      [.opening "document"
          [("doctype", "article"), ("id", "t"), ("dirname", "t"),
            ("last-revision", "$Date: 2000/12/20 12:00:00 $")],
        .opening "title" [], .text "T", .closing "title", .opening "para" [], .text text,
        .closing "para", .closing "document"]
    areWritable true trees = true ∧
      files.resolveInclude "part.qbk" (some ⟨.slash, ["doc", "main.qbk"]⟩) [] =
          .ok ⟨.slash, ["doc", "part.qbk"]⟩ ∧
        compiled (writtenAll trees) = some (shown "a\rb") ∧
          compiled (namedLine "[include" "part.qbk") = some (shown "a\nb") := by
  decide +kernel

end DocMarkup
