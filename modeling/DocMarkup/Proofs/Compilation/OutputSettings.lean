import DocMarkup.Proofs.Compilation.Completion
import DocMarkup.Proofs.Compilation.EntryPoints
import Mathlib.Data.List.DropRight

namespace DocMarkup

/-!
# Settings of the output

The encoding, the layout and the moment of a compilation decide what its output looks
like, and which attributes of a document are required and supplied. Nothing of that
reaches the parsers: a document that names itself is read alike, and only the
attributes of its element, which is the first thing that is written, are different.
-/

namespace Text

/-- Trimming does not take away what is not a blank. -/
theorem isBlankText_trimmed (text : String) : isBlankText (trimmed text) = isBlankText text := by
  have kept (characters : List Char) :
      (characters.dropWhile isBlank).all isBlank = characters.all isBlank := by
    rw [Bool.eq_iff_iff, List.all_eq_true, List.all_eq_true, ← List.dropWhile_eq_nil_iff,
      List.dropWhile_idempotent, List.dropWhile_eq_nil_iff]
  rw [isBlankText, trimmed, String.toList_ofList, trim, trimEnd, List.all_reverse, kept,
    List.all_reverse, trimStart, kept, isBlankText]

/-- What is trimmed and not blank is not empty. -/
theorem isEmpty_trimmed
    {text : String}
    (notBlank : isBlankText text = false) :
    (trimmed text).isEmpty = false := by
  cases isEmpty : (trimmed text).isEmpty with
  | false =>
      rfl
  | true =>
      rw [← isBlankText_trimmed, String.isEmpty_iff.mp isEmpty] at notBlank
      simp [isBlankText] at notBlank

end Text

namespace DocInfo

/-- A document that says what its title and its identifier are. -/
def hasIdentity (info : DocInfo) : Bool :=
  !Text.isBlankText info.title && !Text.isBlankText (info.id.getD "")

/-- The information of a document with its title and its identifier trimmed. -/
def identified (info : DocInfo) : DocInfo :=
  { info with title := Text.trimmed info.title, id := info.id.map Text.trimmed }

/--
The information of a document that names itself is completed for every encoding and
at every moment, by no more than attributes of its element.
-/
theorem complete_of_hasIdentity
    {info : DocInfo}
    (named : info.hasIdentity = true)
    (encoding : Encoding)
    (moment : Moment) :
    ∃ lastRevision dirname lang,
      info.complete encoding moment =
        .ok
          { info.identified with
            lastRevision := lastRevision
            dirname := dirname
            lang := lang } := by
  obtain ⟨title, id⟩ :
      Text.isBlankText info.title = false ∧ Text.isBlankText (info.id.getD "") = false := by
    simpa [hasIdentity] using named
  obtain ⟨given, isId⟩ : ∃ given, info.id = some given := by
    cases isId : info.id with
    | none => simp [isId, Text.isBlankText] at id
    | some given => exact ⟨given, rfl⟩
  rw [isId, Option.getD_some] at id
  have nothingMissing : info.identified.missingNames encoding = [] := by
    cases encoding <;> simp [missingNames, identified, Text.isBlankText_trimmed, title, isId, id]
  have isGivenTrimmed : isGiven info.identified.id = true := by
    simp [isGiven, identified, isId, Text.isEmpty_trimmed id]
  unfold identified at nothingMissing isGivenTrimmed
  unfold complete
  simp only [nothingMissing, List.isEmpty_nil, isGivenTrimmed, ↓reduceIte]
  exact ⟨_, _, _, rfl⟩

end DocInfo

/-- A source that names itself, unless what it says about itself cannot be read. -/
def Source.hasIdentity (source : Source) : Bool :=
  match readDocInfo source.cursor with
  | .ok (info, _) => info.hasIdentity
  | .error _ => true

/-- Events without the attributes of the document element, if that comes first. -/
def withoutDocumentAttributes : List Event → List Event
  | .opening "document" _ :: rest => .opening "document" [] :: rest
  | events => events

namespace Compile

variable {environment otherEnvironment : Environment}

/-- Where nothing was written, the document element comes before everything else. -/
private theorem startHeader_eq
    {state : CompilerState}
    (noEvents : state.events = #[])
    (settled : state.pendingParagraph = false)
    (info : DocInfo) :
    startHeader info state =
      ({ state with docId := info.id }.startElement "title").behind
        { events := [.opening "document" info.documentAttributes] } := by
  simp [startHeader, CompilerState.startElement, CompilerState.emit, CompilerState.behind,
    noEvents, settled]

/--
Outcomes that are the same behind what is written first, which differs at most in the
attributes of the document element.
-/
def AgreesWith (first second : EStateM.Result Fault Workspace Bool) : Prop :=
  ∃ outcome start otherStart,
    first = framed { events := start } outcome ∧
      second = framed { events := otherStart } outcome ∧
        ∀ events,
          withoutDocumentAttributes (start ++ events) =
            withoutDocumentAttributes (otherStart ++ events)

/-- An outcome agrees with itself. -/
private theorem AgreesWith.refl (outcome : EStateM.Result Fault Workspace Bool) :
    AgreesWith outcome outcome := by
  have bare : outcome = framed { events := [] } outcome := by
    cases outcome <;> simp [framed, Workspace.framed]
  exact ⟨outcome, [], [], bare, bare, fun _ => rfl⟩

/-- What follows the start of a document is read alike behind every document element. -/
private theorem restOfUnit_behind
    (frame : Frame)
    (sameFiles : otherEnvironment.files = environment.files)
    (samePaths : otherEnvironment.includePaths = environment.includePaths)
    {file : Path}
    {workspace : Workspace}
    (reported : workspace.state.Reported (fun _ => True) [file])
    (source : Source)
    (info complete : DocInfo)
    {cursor : Cursor}
    (isIn : cursor.IsIn fun _ => True)
    (steps : Nat) :
    thenAlways (restOfUnit (Inner.within otherEnvironment steps) source info complete cursor)
        popFile (workspace.framed frame) =
      framed frame
        (thenAlways (restOfUnit (Inner.within environment steps) source info complete cursor)
          popFile workspace) :=
  restOfUnit_framed
    (Inner.within_mirrors (Setting.isClosed_of_all frame) sameFiles samePaths
      (Setting.knowsFiles_of_all frame environment.files environment.includePaths) steps [file]
      (List.nil_subset _) fun _ _ => trivial)
    trivial (Setting.knowsFields_of_all frame _ complete) info isIn reported

/-- A document that names itself is read alike for every encoding and at every moment. -/
theorem parseUnitOf_agreesWith
    (sameFiles : otherEnvironment.files = environment.files)
    (samePaths : otherEnvironment.includePaths = environment.includePaths)
    (workspace : Workspace)
    (fresh : Fresh workspace.state)
    (reported : workspace.state.Reported (fun _ => True) [])
    (file : Path)
    {source : Source}
    (named : source.hasIdentity = true)
    (steps : Nat) :
    AgreesWith
      ((parseUnitOf environment (Inner.within environment steps) file source) workspace)
      ((parseUnitOf otherEnvironment (Inner.within otherEnvironment steps) file source)
        workspace) := by
  unfold Source.hasIdentity at named
  split at named
  next info next read =>
    let shown : DocInfo := { info with ignore := false }
    let start : Workspace :=
      { workspace with
        state :=
          { pushFile file workspace.state with docId := shown.identified.id }.startElement
            "title" }
    have startReported : start.state.Reported (fun _ => True) [file] :=
      (CompilerState.reported_startElement ..).mpr
        ⟨congrArg (file :: ·) reported.1, reported.2⟩
    -- However the information is completed, only the attributes that are written differ.
    have reads (reader : Environment) :
        reader.files = environment.files →
        reader.includePaths = environment.includePaths →
          ∃ attributes,
            (parseUnitOf reader (Inner.within reader steps) file source) workspace =
              framed { events := [.opening "document" attributes] }
                (thenAlways
                  (restOfUnit (Inner.within environment steps) source shown shown.identified next)
                  popFile start) := by
      intro sameFiles samePaths
      obtain ⟨lastRevision, dirname, lang, isComplete⟩ :=
        DocInfo.complete_of_hasIdentity (show shown.hasIdentity = true from named) reader.encoding
          reader.moment
      let complete : DocInfo :=
        { shown.identified with lastRevision := lastRevision, dirname := dirname, lang := lang }
      have isIn : next.IsIn fun _ => True :=
        (Cursor.IsIn.start trivial).leads (readDocInfo_leads read).2
      refine ⟨complete.documentAttributes, ?_⟩
      rw [parseUnitOf_of_complete read isComplete,
        ← restOfUnit_behind _ sameFiles samePaths startReported source shown _ isIn]
      have begins :=
        startHeader_eq (show (pushFile file workspace.state).events = #[] from fresh.events)
          fresh.settled complete
      rw [begins]
      simp only [Workspace.framed, List.append_nil]
      rfl
    obtain ⟨attributes, first⟩ := reads environment rfl rfl
    obtain ⟨otherAttributes, second⟩ := reads otherEnvironment sameFiles samePaths
    exact ⟨_, _, _, first, second, fun _ => rfl⟩
  next fault read =>
    have unread (reader : Environment) (inner : Inner) :
        parseText reader inner source false = (do
          update fun state => state.docInfoError (source.position fault.offset)
          return false) := by
      unfold parseText
      simp only [read, Bool.false_eq_true, ↓reduceIte]
    unfold parseUnitOf parseUnit
    simp only [unread]
    exact .refl _

end Compile

/-- Results that differ at most in the output and in the attributes of the document element. -/
structure CompilationResult.AgreesWith (result other : CompilationResult) : Prop where
  success : result.success = other.success
  errorCount : result.errorCount = other.errorCount
  warningCount : result.warningCount = other.warningCount
  sectionLevel : result.sectionLevel = other.sectionLevel
  diagnostics : result.diagnostics = other.diagnostics
  events : withoutDocumentAttributes result.events = withoutDocumentAttributes other.events

/-- Runs that report the same and ask for the same files, with results that agree. -/
structure CompilationRun.AgreesWith (run other : CompilationRun) : Prop where
  diagnostics : run.diagnostics = other.diagnostics
  errorCount : run.errorCount = other.errorCount
  consulted : run.consulted = other.consulted
  result :
    match run.result, other.result with
    | .ok result, .ok otherResult => result.AgreesWith otherResult
    | .error fault, .error otherFault => fault = otherFault
    | _, _ => False

namespace Options

open CompilerState

/-- The result of a state in which reading has ended says what the state says. -/
private theorem exists_output
    (options : Options)
    {parsed : Bool}
    {state : CompilerState}
    (finished : Finished parsed state) :
    ∃ output,
      options.result parsed state =
        .ok
          { success := parsed && state.errorCount == 0
            output := output
            errorCount := state.errorCount
            warningCount := state.warningCount
            sectionLevel := state.sectionLevel
            diagnostics := state.diagnostics.toList
            events := state.events.toList } := by
  obtain ⟨compiled, made⟩ := options.exists_result finished
  unfold result at made ⊢
  simp only at made ⊢
  split at made
  next success =>
    split at made
    next =>
      simp at made
    next output written =>
      exact ⟨some output, by simp only [success, ↓reduceIte]⟩
  next failure =>
    exact ⟨none, by simp only [failure, Bool.false_eq_true, ↓reduceIte]⟩

variable {first second : Options}

/-- Runs agree if what is read in them does. -/
private theorem run_agreesWith
    {parse otherParse : Compile Bool}
    (agrees :
      Compile.AgreesWith (parse { state := first.initialState })
        (otherParse { state := second.initialState }))
    (finished :
      ∀ parsed after,
        parse { state := first.initialState } = .ok parsed after → Finished parsed after.state)
    (otherFinished :
      ∀ parsed after,
        otherParse { state := second.initialState } = .ok parsed after →
          Finished parsed after.state) :
    (first.run parse).AgreesWith (second.run otherParse) := by
  obtain ⟨outcome, start, otherStart, isFirst, isSecond, same⟩ := agrees
  unfold run
  rw [isFirst] at finished ⊢
  rw [isSecond] at otherFinished ⊢
  cases outcome with
  | error fault after =>
      exact { diagnostics := rfl, errorCount := rfl, consulted := rfl, result := rfl }
  | ok parsed after =>
      obtain ⟨output, made⟩ := first.exists_output (finished _ _ rfl)
      obtain ⟨otherOutput, otherMade⟩ := second.exists_output (otherFinished _ _ rfl)
      refine { diagnostics := rfl, errorCount := rfl, consulted := rfl, result := ?_ }
      simp only [Compile.framed, made, otherMade]
      refine
        { success := rfl
          errorCount := rfl
          warningCount := rfl
          sectionLevel := rfl
          diagnostics := rfl
          events := ?_ }
      simpa [Workspace.framed] using same after.state.events.toList

/-- Runs on a document agree if it is read in agreement. -/
private theorem run_document_agreesWith
    (sameDefines : first.defines = second.defines)
    (files : FileTree)
    (document : Document)
    (agrees :
      ∀ steps,
        Compile.AgreesWith
          (document.parse (first.environment files)
            (Inner.within (first.environment files) steps) { state := first.initialState })
          (document.parse (second.environment files)
            (Inner.within (second.environment files) steps) { state := first.initialState })) :
    (first.run
        (Compile.parsing (first.environment files) document.givenLength fun inner =>
          document.parse (first.environment files) inner)).AgreesWith
      (second.run
        (Compile.parsing (second.environment files) document.givenLength fun inner =>
          document.parse (second.environment files) inner)) := by
  have ends (options : Options) :=
    options.parse_ends files document (fun _ : True => Nat.le_refl _)
      (Inner.within_sound (options.files_bounded files document)
        (options.stepsFor files document))
  have sameStart : second.initialState = first.initialState := by
    unfold initialState
    rw [sameDefines]
  have sameSteps : second.stepsFor files document = first.stepsFor files document := by
    unfold stepsFor
    rw [sameStart]
    rfl
  refine run_agreesWith ?_ (fun _ _ => (ends first).of_ok rfl) (fun _ _ => (ends second).of_ok rfl)
  rw [Compile.parsing_apply, Compile.parsing_apply]
  show
    Compile.AgreesWith _
      (document.parse _ (Inner.within _ (second.stepsFor files document))
        { state := second.initialState })
  rw [sameSteps, sameStart]
  exact agrees _

/-- A document that names itself is read in agreement, given as a text or in a file. -/
private theorem parse_agreesWith
    (samePaths : first.includePaths = second.includePaths)
    (files : FileTree)
    (document : Document)
    (named :
      match document with
      | .given _ source => source.hasIdentity = true
      | .stored path =>
          ∀ text,
            files.loadSource path = .ok text →
              ({ text := text, name := path.shown } : Source).hasIdentity = true)
    (steps : Nat) :
    Compile.AgreesWith
      (document.parse (first.environment files)
        (Inner.within (first.environment files) steps) { state := first.initialState })
      (document.parse (second.environment files)
        (Inner.within (second.environment files) steps) { state := first.initialState }) := by
  have given
      (file : Path)
      {source : Source}
      (named : source.hasIdentity = true)
      (consulted : List Path) :=
    Compile.parseUnitOf_agreesWith
      (show (second.environment files).files = (first.environment files).files from rfl)
      (show (second.environment files).includePaths = (first.environment files).includePaths
        from samePaths.symm)
      { state := first.initialState, consulted := consulted }
      first.fresh_initialState first.reported_initialState file named steps
  cases document with
  | given file source =>
      exact given file named []
  | stored path =>
      cases loaded : files.loadSource path with
      | error fault =>
          have unread (options : Options) (inner : Inner) :
              Compile.parseFile (options.environment files) inner path = (do
                Compile.consult [path]
                match fault with
                | .path fault => throw (.path fault)
                | .load fault =>
                    Compile.update fun state => state.loadFailed fault none
                    return false) := by
            have loadedHere : (options.environment files).files.loadSource path = .error fault :=
              loaded
            unfold Compile.parseFile
            rw [loadedHere]
            cases fault <;> rfl
          show
            Compile.AgreesWith
              ((Compile.parseFile (first.environment files) _ path) _)
              ((Compile.parseFile (second.environment files) _ path) _)
          rw [unread, unread]
          exact .refl _
      | ok text =>
          obtain ⟨file, resolved⟩ := FileTree.exists_resolve_of_loadSource loaded
          rw [first.stored_eq_given files resolved loaded,
            second.stored_eq_given files resolved loaded]
          exact given file (named text loaded) [path]

/--
Runs with the same predefinitions and the same include paths agree, however they
encode and lay out their output and whenever they are made, on every document that
names itself: they report the same, ask for the same files and come to results that
differ only in the output and in the attributes of the document element.
-/
theorem runs_agree_for_all_outputs
    (sameDefines : first.defines = second.defines)
    (samePaths : first.includePaths = second.includePaths)
    (files : FileTree) :
    (∀ text name,
      ({ text := String.ofList (Text.pairedLineEnds text.toList), name := name } :
          Source).hasIdentity = true →
        (first.runSource files text name).AgreesWith (second.runSource files text name)) ∧
      ∀ path,
        (∀ text,
          files.loadSource path = .ok text →
            ({ text := text, name := path.shown } : Source).hasIdentity = true) →
          (first.runFile files path).AgreesWith (second.runFile files path) := by
  constructor
  · intro text name named
    unfold runSource
    cases resolved : files.resolve (Path.ofText name) with
    | error fault =>
        exact { diagnostics := rfl, errorCount := rfl, consulted := rfl, result := rfl }
    | ok file =>
        exact run_document_agreesWith sameDefines files (.given file _)
          (parse_agreesWith samePaths files (.given file _) named)
  · intro path named
    exact run_document_agreesWith sameDefines files (.stored path)
      (parse_agreesWith samePaths files (.stored path) named)

/-- A document that leaves a section open is read alike for pages and for books. -/
theorem runs_agree_for_html_and_boostBook :
    let text := "[article T\n[id t]\n]\n\n[section A]\n\n__B__\n"
    let files : FileTree :=
      { entries := [(["doc", "main.qbk"], .file (Text.encodeUtf8 text.toList))]
        workingDirectory := ["doc"]
        homeDirectory := [] }
    let html : Options :=
      { encoding := .html, prettyPrint := false, lineWidth := some 40, ideStyle := true }
    let path := Path.ofText "main.qbk"
    (({} : Options).runSource files text "main.qbk").AgreesWith
        (html.runSource files text "main.qbk") ∧
      (({} : Options).runFile files path).AgreesWith (html.runFile files path) := by
  intro text files html path
  have named : ({ text := text, name := "main.qbk" } : Source).hasIdentity = true := by
    decide +kernel
  have onlyText : files.loadSource path = .ok text := by decide +kernel
  have sameDefines : ({} : Options).defines = html.defines := rfl
  have samePaths : ({} : Options).includePaths = html.includePaths := rfl
  obtain ⟨given, stored⟩ := runs_agree_for_all_outputs sameDefines samePaths files
  refine ⟨given text "main.qbk" ?_, stored path fun other loaded => ?_⟩
  · have sameText : String.ofList (Text.pairedLineEnds text.toList) = text := by decide +kernel
    rw [sameText]
    exact named
  · obtain rfl := Except.ok.inj (onlyText.symm.trans loaded)
    exact named

end Options

end DocMarkup
