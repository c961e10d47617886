import DocMarkup.Proofs.Encoding.CodeBlock
import DocMarkup.Proofs.Written.Compilation
import DocMarkup.Proofs.Written.Title

namespace DocMarkup

open Compile Text BlockTree

/-!
# Code comes out as it is written

Code between fences may hold anything but a line that closes its fence. Wherever it
stands in the sections and the enclosed blocks of a document, it is read as it is, its
text is escaped once, and the layout of the page leaves it alone.
-/

/-- How a title may be written: as it stands if it is plain, or behind backslashes. -/
inductive IsWrittenTitle (macros : MacroTable) (title : String) : List Char → Prop where
  | plain :
      IsPlainTitle macros title →
      IsWrittenTitle macros title title.toList
  | backslashed :
      IsWrittenTitle macros title (writtenTitle title)

/--
A text with some lines in it, inside any number of sections and enclosed blocks, with
blank lines and other blocks before and behind them. Sections open only outside
enclosed blocks.
-/
inductive IsAround (macros : MacroTable) (inner : List Char) : Bool → List Char → Prop where
  | here {outside} :
      IsAround macros inner outside inner
  | behindBlankLine {outside text} :
      IsAround macros inner outside text →
      IsAround macros inner outside ('\n' :: text)
  | beforeBlankLine {outside text} :
      IsAround macros inner outside text →
      IsAround macros inner outside (text ++ ['\n'])
  | among {outside front behind text} :
      areWritable outside front = true →
      areWritable outside behind = true →
      IsAround macros inner outside text →
      IsAround macros inner outside (writtenAll front ++ (text ++ writtenAll behind))
  | enclosed {outside frame text} :
      IsAround macros inner false text →
      IsAround macros inner outside
        ((BlockFrame.keyword frame).toList ++ ['\n'] ++ (text ++ ([']'] ++ ['\n'])))
  | sectioned {given title written text} :
      (∀ identifier ∈ given, Block.IsGivenId identifier) →
      IsWrittenTitle macros title written →
      IsAround macros inner true text →
      IsAround macros inner true
        (titleLine (sectionKeyword given) written ++ (text ++ ("[endsect".toList ++ ([']'] ++ ['\n']))))

/-- A title is read as it may be written. -/
theorem IsWrittenTitle.isTitle
    {macros : MacroTable}
    {title : String}
    {written : List Char}
    (isWritten : IsWrittenTitle macros title written) :
    Block.IsTitle macros written title := by
  cases isWritten with
  | plain isPlain => exact isPlain.isTitle
  | backslashed => exact .of_backslashed macros title

/-- What is among some events is among these with others around them. -/
theorem isInfix_between
    {events inside : List Event}
    (among : events <:+: inside)
    (front behind : List Event) :
    events <:+: front ++ (inside ++ behind) :=
  among.trans ⟨front, behind, List.append_assoc ..⟩

section Reading

variable {environment : Environment} {longest : Nat} {macros : MacroTable} {outside : Bool}
  {language text : List Char} {content : String}

/-- Fenced code is read wherever it is nested, and its events are among those of the text. -/
theorem IsAround.exists_readsTo
    (stack : List Path)
    (bounded : environment.files.Bounded longest)
    (isLanguage : language.all Cursor.isLanguageCharacter = true)
    (opens : (lines content.toList).all (fun line => !Cursor.isFenceLine line) = true)
    (isAround : IsAround macros (fencedText language content) outside text) :
    ∃ output,
      ReadsTo environment longest macros stack outside output text ∧
        ∀ naming, codeEvents content <:+: (output naming).events := by
  have areRead {outside : Bool} (trees : List BlockTree)
      (writable : areWritable outside trees = true) :
      ReadsTo environment longest macros stack outside (outputOfAll · trees)
        (writtenAll trees) :=
    (isWritten_writtenAll environment.files environment.includePaths stack trees outside
      writable).readsAs bounded macros
  -- The induction goes from the code outwards, and every block around it only adds events.
  induction isAround with
  | here =>
      exact ⟨_, .fenced isLanguage opens, fun _ => List.infix_refl _⟩
  | behindBlankLine _ inductionHypothesis =>
      obtain ⟨output, isRead, among⟩ := inductionHypothesis
      exact ⟨output, isRead.behindBlankLine, among⟩
  | beforeBlankLine _ inductionHypothesis =>
      obtain ⟨output, isRead, among⟩ := inductionHypothesis
      exact ⟨output, isRead.beforeBlankLine, among⟩
  | among frontWritable behindWritable _ inductionHypothesis =>
      obtain ⟨output, isRead, among⟩ := inductionHypothesis
      refine
        ⟨_, (areRead _ frontWritable).append (isRead.append (areRead _ behindWritable)),
          fun naming => ?_⟩
      exact isInfix_between (among _) _ _
  | enclosed _ inductionHypothesis =>
      obtain ⟨output, isRead, among⟩ := inductionHypothesis
      exact ⟨_, .enclosed _ isRead, fun naming => isInfix_between (among naming) [_] _⟩
  | @sectioned given title written _ isGiven isTitle _ inductionHypothesis =>
      obtain ⟨output, isRead, among⟩ := inductionHypothesis
      refine ⟨_, .sectioned isGiven isTitle.isTitle isRead, fun naming => ?_⟩
      let identifier :=
        naming.qualified (CompilerState.localId given (String.ofList written))
      have inSection :=
        isInfix_between (among (naming.inSection identifier))
          (.opening "section" [("id", identifier)] :: .opening "title" [] ::
            (textEvents title ++ [.closing "title"]))
          [.closing "section"]
      simpa [BlockOutput.sectioned] using inSection

end Reading

namespace Options

/-- Without errors, what was read comes out with the code in it as it is. -/
theorem exists_result_keeping_code
    (options : Options)
    {state : CompilerState}
    {content : String}
    (finished : CompilerState.Finished true state)
    (noErrors : state.errorCount = 0)
    (among : codeEvents content <:+: state.events.toList) :
    ∃ result output,
      options.result true state = .ok result ∧
        result.success = true ∧ result.errorCount = 0 ∧
          result.diagnostics = state.diagnostics.toList ∧
            result.output = some output ∧
              (options.encoding.codeElement content).toList <:+: output.toList := by
  obtain ⟨result, isResult⟩ := options.exists_result finished
  obtain ⟨front, behind, areEvents⟩ := among
  rw [List.append_assoc] at areEvents
  have areWritable := finished.writable
  unfold Options.result at isResult ⊢
  simp only [noErrors, BEq.rfl, Bool.and_self, ↓reduceIte] at isResult ⊢
  cases written : options.write state.events.toList with
  | error fault => simp [written] at isResult
  | ok output =>
      refine ⟨_, output, rfl, rfl, rfl, rfl, rfl, ?_⟩
      rw [← areEvents] at written areWritable
      exact write_keeps_code areWritable written

/--
Fenced code comes out character for character, in every encoding and however the page
is laid out, wherever it is nested in a document with a title and an identifier. The
compilation reports nothing, whether the document is given as a text or in a file.
-/
theorem fenced_code_survives
    (options : Options)
    (noErrors : options.initialState.errorCount = 0)
    {files : FileTree}
    {name : String}
    {file : Path}
    (isFile : files.resolve (Path.ofText name) = .ok file)
    {info : DocInfo}
    {lines : List DocInfoLine}
    (isWritten : info.IsWrittenAs lines)
    (isTitled : info.IsTitled options.initialState.macros)
    {language : List Char}
    (isLanguage : language.all Cursor.isLanguageCharacter = true)
    {content : String}
    (opens : (Text.lines content.toList).all (fun line => !Cursor.isFenceLine line) = true)
    {text : List Char}
    (isAround :
      IsAround options.initialState.macros (fencedText language content) true text)
    {given : String}
    (isText : pairedLineEnds given.toList = documentText info lines text) :
    ∃ result output,
      compileSource options files given name = .ok result ∧
        (∀ path,
          path.shown = name →
          files.resolve path = .ok file →
          files.loadSource path = .ok (String.ofList (documentText info lines text)) →
          compileFile options files path = .ok result) ∧
        result.success = true ∧ result.errorCount = 0 ∧
          result.diagnostics = options.initialState.diagnostics.toList ∧
            result.output = some output ∧
              (options.encoding.codeElement content).toList <:+: output.toList := by
  let environment := options.environment files
  let longest := longestText environment options.initialState 0
  have bounded : environment.files.Bounded longest := CompilerState.files_bounded_longestText
  obtain ⟨blocks, isRead, among⟩ := isAround.exists_readsTo [file] bounded isLanguage opens
  obtain ⟨final, ⟨sameDiagnostics, sameErrors, -, front, naming, areEvents⟩, areRead⟩ :=
    exists_yields_parseUnitOf file name isWritten isTitled options.fresh_initialState
      options.unnested_initialState blocks
  obtain ⟨givenIs, finished⟩ :=
    compileSource_of_yields options isFile isText (Nat.le_refl longest) fun steps =>
      areRead text steps isRead
  have storedIs :
      ∀ path,
        path.shown = name →
        files.resolve path = .ok file →
        files.loadSource path = .ok (String.ofList (documentText info lines text)) →
        compileFile options files path = options.result true final := by
    rintro path rfl isPath loaded
    exact compileFile_of_yields options isPath loaded (Nat.le_refl longest) fun steps =>
      areRead text steps isRead
  obtain ⟨result, output, isResult, success, noneCounted, resultDiagnostics, isOutput, kept⟩ :=
    options.exists_result_keeping_code finished (by rw [sameErrors, noErrors])
      (by rw [areEvents]; exact isInfix_between (among naming) front _)
  rw [isResult] at givenIs storedIs
  exact
    ⟨result, output, givenIs, storedIs, success, noneCounted,
      by rw [resultDiagnostics, sameDiagnostics], isOutput, kept⟩

/-- Code in a note of a section, on lines that are wider than those of the page. -/
theorem fenced_code_survives_in_note_in_section :
    let info : DocInfo := { docType := "article", title := "T", id := some "t" }
    let lines : List DocInfoLine := [.value .id "t"]
    let code := "if (a < b) [x]\n\n  '''&''' \\```"
    let noteText :=
      BlockFrame.note.keyword.toList ++ ['\n'] ++
        (fencedText "c++".toList code ++ ([']'] ++ ['\n']))
    let text :=
      titleLine (sectionKeyword (some "one")) "One".toList ++
        (('\n' :: noteText) ++ ("[endsect".toList ++ ([']'] ++ ['\n'])))
    let files : FileTree := { entries := [], workingDirectory := ["doc"], homeDirectory := [] }
    let options : Options := { encoding := .html, lineWidth := some 8 }
    ∃ result output,
      compileSource options files (String.ofList (documentText info lines text)) "main.qbk" =
          .ok result ∧
        result.success = true ∧ result.diagnostics = [] ∧ result.output = some output ∧
          ("<pre class=\"programlisting\">" ++
                "if (a &lt; b) [x]\n\n  '''&amp;''' \\```" ++ "</pre>").toList <:+:
            output.toList := by
  intro info lines code noteText text files options
  have isWritten : info.IsWrittenAs lines :=
    .titled (by decide) (by decide +kernel) (by decide) ⟨by decide +kernel, by simp⟩
  have isTitled : info.IsTitled options.initialState.macros :=
    { title := by decide
      id := ⟨"t", rfl, by decide⟩
      quietTitle := fun _ isMacro => (Bool.false_ne_true isMacro).elim
      quietLicense := by simp [info]
      quietPurpose := by simp [info] }
  have isPlain : IsPlainTitle options.initialState.macros "One" :=
    { quiet :=
        { areUncounted := by simp [Cursor.IsUncounted]
          noQuotes := by decide
          noMacro := fun _ isMacro => (Bool.false_ne_true isMacro).elim }
      noCode := by decide
      stops := rfl }
  have isGiven : ∀ identifier ∈ some "one", Block.IsGivenId identifier := by
    rintro _ ⟨⟩
    exact ⟨by decide, by decide⟩
  have isFile : files.resolve (Path.ofText "main.qbk") = .ok ⟨.slash, ["doc", "main.qbk"]⟩ := by
    decide +kernel
  have isText :
      pairedLineEnds (String.ofList (documentText info lines text)).toList =
        documentText info lines text := by
    rw [String.toList_ofList, pairedLineEnds_eq_self (by decide +kernel)]
  have noErrors : options.initialState.errorCount = 0 := by decide +kernel
  have isLanguage : "c++".toList.all Cursor.isLanguageCharacter = true :=
    Cursor.all_isLanguageCharacter_of_ascii (by simp) (by simp)
  have opens : (Text.lines code.toList).all (fun line => !Cursor.isFenceLine line) = true := by
    decide +kernel
  have inNote : IsAround options.initialState.macros (fencedText "c++".toList code) true noteText :=
    .enclosed .here
  have isAround : IsAround options.initialState.macros (fencedText "c++".toList code) true text :=
    .sectioned isGiven (.plain isPlain) (.behindBlankLine inNote)
  have survives :=
    fenced_code_survives options noErrors isFile isWritten isTitled isLanguage opens isAround isText
  obtain ⟨result, output, isResult, -, success, -, reported, isOutput, kept⟩ := survives
  have isElement :
      options.encoding.codeElement code =
        "<pre class=\"programlisting\">" ++
            "if (a &lt; b) [x]\n\n  '''&amp;''' \\```" ++ "</pre>" := by
    decide +kernel
  rw [isElement] at kept
  exact ⟨result, output, isResult, success, reported, isOutput, kept⟩

end Options

end DocMarkup
