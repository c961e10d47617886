import DocMarkup.Proofs.Compilation.Termination
import DocMarkup.Proofs.Mirror.Parser
import DocMarkup.Proofs.Path

namespace DocMarkup

/-!
# Two ways into a compilation

A document may be given as a text or read from a file. The text of a file is decoded,
and all its line ends are unified; in a given text only pairs of a carriage return and
a line feed are. Apart from that it makes no difference where the text comes from: the
file is only noted as one more that was asked for.
-/

/-- A run that asked for some paths before everything else. -/
def CompilationRun.after (run : CompilationRun) (consulted : List Path) : CompilationRun :=
  { run with consulted := run.consulted ++ consulted }

/-- A path from which a file can be loaded can be resolved. -/
theorem FileTree.exists_resolve_of_loadSource
    {files : FileTree}
    {path : Path}
    {text : String}
    (loaded : files.loadSource path = .ok text) :
    ∃ file, files.resolve path = .ok file := by
  have noNull : path.hasNull = false := by
    cases isNull : path.hasNull with
    | false => rfl
    | true => simp [loadSource, isNull] at loaded
  simp [resolve, Path.resolve, noNull]

namespace Options

variable (options : Options) (files : FileTree)

/-- Nothing is reported about a source that is not known if all sources are. -/
theorem reported_initialState : options.initialState.Reported (fun _ => True) [] :=
  CompilerState.reported_predefineAll ⟨rfl, by simp⟩ fun _ _ => trivial

/-- What is asked for before reading is asked for before everything else in the run. -/
theorem run_framed
    {parse parseBehind : Compile Bool}
    {consulted : List Path}
    (same :
      parseBehind { state := options.initialState } =
        Compile.framed { consulted := consulted } (parse { state := options.initialState })) :
    options.run parseBehind = (options.run parse).after consulted := by
  unfold run
  rw [same]
  cases parse { state := options.initialState } with
  | ok parsed workspace => simp [Compile.framed, Workspace.framed, CompilationRun.after]
  | error fault workspace => simp [Compile.framed, Workspace.framed, CompilationRun.after]

/-- A document is read the same with any number of steps that was computed to be enough. -/
private theorem descending_eq
    (document : Document)
    {workspace : Workspace}
    (starts : workspace.state = options.initialState) :
    document.parse (options.environment files)
        (Inner.descending (options.environment files) .most) workspace =
      document.parse (options.environment files)
        (Inner.within (options.environment files) (options.stepsFor files document))
        workspace := by
  have sound :=
    Inner.descending_sound (options.files_bounded files document) .most
      (Work.covers_most (options.longestWith files document))
      (Compile.neededSteps_le_enoughSteps document.givenLength)
  have ends :=
    Compile.document_ends document options.fresh_initialState options.unnested_initialState
      (fun _ : True => Nat.le_refl _) sound fun _ begins => begins.isConsistent
  exact ends.eq_reference (fun raised => raised trivial) starts

/-- What was asked for before a given text is read makes no difference to reading it. -/
private theorem given_framed
    (file : Path)
    (source : Source)
    (steps : Nat)
    (consulted : List Path) :
    let environment := options.environment files
    (Document.given file source).parse environment (Inner.within environment steps)
        { state := options.initialState, consulted := consulted } =
      Compile.framed { consulted := consulted }
        ((Document.given file source).parse environment (Inner.within environment steps)
          { state := options.initialState }) := by
  intro environment
  have mirrors :
      Compile.Mirrors { frame := { consulted := consulted } } []
        ((Document.given file source).parse environment (Inner.within environment steps))
        ((Document.given file source).parse environment (Inner.within environment steps))
        fun _ => True :=
    Compile.parseUnitOf_document_mirrors (Setting.isClosed_of_all _)
      (Setting.knowsFiles_of_all _ files options.includePaths) (List.nil_subset _)
      (fun _ _ => trivial) trivial (fun _ _ _ _ _ => Setting.knowsFields_of_all _ _ _) steps
  have framed :
      ({ state := options.initialState } : Workspace).framed { consulted := consulted } =
        { state := options.initialState, consulted := consulted } := by
    simp [Workspace.framed]
  rw [← framed]
  exact (mirrors _ options.reported_initialState).1

/-- A file that can be loaded is read as its text is, once it has been asked for. -/
theorem stored_eq_given
    {path file : Path}
    {text : String}
    (resolved : files.resolve path = .ok file)
    (loaded : files.loadSource path = .ok text)
    (inner : Inner)
    (workspace : Workspace) :
    let environment := options.environment files
    (Document.stored path).parse environment inner workspace =
      (Document.given file { text := text, name := path.shown }).parse environment inner
        { workspace with consulted := [path] ++ workspace.consulted } := by
  intro environment
  have parsed :
      Compile.parseFile environment inner path = (do
        Compile.consult [path]
        Compile.parseUnitOf environment inner file { text := text, name := path.shown }) := by
    have loadedHere : environment.files.loadSource path = .ok text := loaded
    have resolvedHere : environment.files.resolve path = .ok file := resolved
    unfold Compile.parseFile
    rw [loadedHere, resolvedHere]
    rfl
  show (Compile.parseFile environment inner path) workspace = _
  rw [parsed]
  rfl

/--
A file is compiled as a given text is in which pairs of a carriage return and a line
feed, and nothing else, have yet to become what the line ends of the file became.
-/
private theorem runFile_eq_runSource_of_paired
    {path : Path}
    (normal : path.IsNormal)
    {text given : String}
    (loaded : files.loadSource path = .ok text)
    (paired : Text.pairedLineEnds given.toList = text.toList) :
    options.runFile files path = (options.runSource files given path.shown).after [path] := by
  obtain ⟨file, resolved⟩ := FileTree.exists_resolve_of_loadSource loaded
  let source : Source := { text := text, name := path.shown }
  let environment := options.environment files
  let start : Workspace := { state := options.initialState }
  have readSource :
      options.runSource files given path.shown =
        options.run
          (Compile.parsing environment source.text.length fun inner =>
            Compile.parseUnitOf environment inner file source) := by
    unfold runSource
    rw [Path.ofText_shown normal, resolved, paired, String.ofList_toList]
  rw [readSource]
  refine options.run_framed ?_
  -- The steps that are computed for the file need not be those for the text.
  calc
    (Document.stored path).parse environment
        (Inner.within environment (options.stepsFor files (.stored path))) start =
      (Document.stored path).parse environment (Inner.descending environment .most) start :=
        (options.descending_eq files (.stored path) rfl).symm
    _ = (Document.given file source).parse environment (Inner.descending environment .most)
          { start with consulted := [path] } :=
        options.stored_eq_given files resolved loaded _ start
    _ = (Document.given file source).parse environment
          (Inner.within environment (options.stepsFor files (.given file source)))
          { start with consulted := [path] } :=
        options.descending_eq files (.given file source) rfl
    _ = Compile.framed { consulted := [path] }
          ((Document.given file source).parse environment
            (Inner.within environment (options.stepsFor files (.given file source))) start) :=
        options.given_framed files file source _ [path]

/-- A path that no file can have ends both runs at once. -/
private theorem runFile_eq_runSource_of_hasNull
    {path : Path}
    (normal : path.IsNormal)
    (isNull : path.hasNull = true)
    (given : String) :
    options.runFile files path = (options.runSource files given path.shown).after [path] := by
  have parsed :
      ∀ inner,
        Compile.parseFile (options.environment files) inner path = (do
          Compile.consult [path]
          throw (.path .embeddedNull)) := by
    intro inner
    have refused :
        (options.environment files).files.loadSource path = .error (.path .embeddedNull) := by
      simp [FileTree.loadSource, isNull]
    unfold Compile.parseFile
    rw [refused]
  unfold runFile runSource
  simp only [parsed, Path.ofText_shown normal, FileTree.resolve, Path.resolve, isNull, ↓reduceIte]
  rfl

/--
A file with a text in UTF-8 is compiled in the same way as its text with unified line
ends, given with the path of the file as its name: the runs report the same, count the
same errors and have the same result. Unless the text starts with a byte order mark or
has a carriage return on its own, it need not be changed at all.
-/
theorem runFile_eq_runSource
    {name text : String}
    (stored : files.read (Path.ofText name) = .ok (Text.encodeUtf8 text.toList))
    (unmarked : text.toList.head? ≠ some Text.byteOrderMark) :
    let path := Path.ofText name
    let unified := String.ofList (Text.unifyLineEnds text.toList)
    options.runFile files path = (options.runSource files unified path.shown).after [path] ∧
      ('\r' ∉ Text.pairedLineEnds text.toList →
        options.runFile files path = (options.runSource files text path.shown).after [path]) := by
  intro path unified
  have normal : path.IsNormal := Path.isNormal_ofText name
  by_cases isNull : path.hasNull = true
  · exact
      ⟨options.runFile_eq_runSource_of_hasNull files normal isNull unified,
        fun _ => options.runFile_eq_runSource_of_hasNull files normal isNull text⟩
  · have loaded : files.loadSource path = .ok unified := by
      simp only [FileTree.loadSource, isNull, Bool.false_eq_true, ↓reduceIte, path, stored,
        FileTree.decodeSource, Text.decodeUtf8_encodeUtf8 unmarked]
      rfl
    refine ⟨?_, fun paired => ?_⟩
    · refine options.runFile_eq_runSource_of_paired files normal loaded ?_
      rw [String.toList_ofList]
      exact Text.pairedLineEnds_eq_self (Text.not_mem_unifyLineEnds _)
    · refine options.runFile_eq_runSource_of_paired files normal loaded ?_
      rw [String.toList_ofList, Text.unifyLineEnds_eq_pairedLineEnds paired]

/-- A document with line ends of both kinds is the same from a file and as a text. -/
theorem runFile_eq_runSource_of_mixed_line_ends :
    let text := "[article T\r\n[id t]\n]\r\n\nText.\r\n"
    let files : FileTree :=
      { entries := [(["doc", "main.qbk"], .file (Text.encodeUtf8 text.toList))]
        workingDirectory := ["doc"]
        homeDirectory := [] }
    ({} : Options).runFile files (Path.ofText "main.qbk") =
      (({} : Options).runSource files text "main.qbk").after [Path.ofText "main.qbk"] := by
  intro text files
  have stored : files.read (Path.ofText "main.qbk") = .ok (Text.encodeUtf8 text.toList) := by
    decide +kernel
  exact (runFile_eq_runSource {} files stored (by decide)).2 (by decide)

/-- A carriage return on its own ends a line of a file, but not of a text that is given. -/
theorem lone_return_ends_line_of_file_only :
    let text := "[article T\n[id t]\n]\n\na\r\rb\n"
    let files : FileTree :=
      { entries := [(["doc", "main.qbk"], .file (Text.encodeUtf8 text.toList))]
        workingDirectory := ["doc"]
        homeDirectory := [] }
    let options : Options := { prettyPrint := false }
    let path := Path.ofText "main.qbk"
    let texts (compiled : Except CompilationFault CompilationResult) : List Event :=
      (compiled.toOption.toList.flatMap CompilationResult.events).drop 4
    files.read path = .ok (Text.encodeUtf8 text.toList) ∧
      text.toList.head? ≠ some Text.byteOrderMark ∧
        texts (compileFile options files path) =
            [.opening "para" [], .text "a", .closing "para", .opening "para" [], .text "b",
              .closing "para", .closing "document"] ∧
          texts (compileSource options files text path.shown) =
            [.opening "para" [], .text "a\r\rb", .closing "para", .closing "document"] := by
  decide +kernel

end Options

end DocMarkup
