import Mathlib.Data.List.Infix
import DocMarkup.Proofs.Compilation.Completion
import DocMarkup.Proofs.Mirror.Parser
import DocMarkup.Proofs.Path
import DocMarkup.Proofs.Source

namespace DocMarkup

open Compile Text

/-!
# The places that diagnostics are about

Every diagnostic that names the source of a document is about a place in its text. The
titles of tables are cut out where they stand and keep their places. The phrases in
which a document tells about itself are not: each of them is taken to start where the
document does, so that their places are counted in the phrase alone.
-/

/-! ## Places in a text -/

/-- A position counts the characters and the lines in front of a place in a text. -/
structure Position.IsPlaceIn (characters : List Char) (position : Position) : Prop where
  inside : position.offset ≤ characters.length
  line : position.line = (characters.take position.offset).count '\n' + 1
  column :
    position.column =
      ((characters.take position.offset).reverse.takeWhile (· != '\n')).length + 1

/--
A diagnostic is about the place of a position in a text. A name that is reported to
stand for nothing stands at that place behind its bracket.
-/
structure Diagnostic.IsAbout
    (characters : List Char)
    (position : Position)
    (diagnostic : Diagnostic) :
    Prop where
  isPlace : position.IsPlaceIn characters
  stands :
    ∀ name,
      diagnostic.message = undefinedMessage name →
        '[' :: name.toList <+: characters.drop position.offset

/-- The phrases in which a document tells about itself, as they are read. -/
def DocInfo.phrases (info : DocInfo) : List String :=
  trimmed info.title :: (info.license.toList ++ info.purpose.toList)

/-- Completing the information leaves the phrases, with the title trimmed. -/
theorem DocInfo.phrases_of_complete
    {info complete : DocInfo}
    {encoding : Encoding}
    {moment : Moment}
    (isComplete : info.complete encoding moment = .ok complete) :
    complete.title :: (complete.license.toList ++ complete.purpose.toList) = info.phrases := by
  unfold DocInfo.complete at isComplete
  simp only at isComplete
  split at isComplete
  · obtain rfl := Except.ok.inj isComplete
    rfl
  · simp at isComplete

namespace Source

/-- A phrase in which the document in a source tells about itself. -/
def HasPhrase (main : Source) (phrase : String) : Prop :=
  ∃ info next, readDocInfo main.cursor = .ok (info, next) ∧ phrase ∈ info.phrases

/-- Texts in which places are counted: that of a source, and its phrases each for itself. -/
def Counts (main : Source) (text : String) : Prop :=
  text = main.text ∨ main.HasPhrase text

/-- Such texts are pieces of the source. -/
theorem Counts.isInfix {main : Source} {text : String} (counts : main.Counts text) :
    text.toList <:+: main.text.toList := by
  rcases counts with rfl | ⟨info, next, read, isPhrase⟩
  · exact List.infix_refl _
  · obtain ⟨title, license, purpose⟩ := (readDocInfo_leads read).1
    rcases List.mem_cons.mp isPhrase with rfl | isOther
    · rw [trimmed, String.toList_ofList]
      exact (trim_isInfix _).trans title
    · rcases List.mem_append.mp isOther with isLicense | isPurpose
      · exact license text (by simpa [eq_comm] using isLicense)
      · exact purpose text (by simpa [eq_comm] using isPurpose)

/-- A source is a piece of another one, and its positions are those of the piece in there. -/
def IsCutFrom (whole source : Source) : Prop :=
  ∃ start,
    start ≤ whole.text.length ∧
      source.text.toList <+: whole.text.toList.drop start ∧
        ∀ offset ≤ source.text.length, source.position offset = whole.position (start + offset)

/-- A source that is named like a main one is a piece of a text that is counted in it. -/
def IsPlacedIn (main source : Source) : Prop :=
  (source.position 0).file = main.name →
    ∃ text, main.Counts text ∧ ({ text := text, name := main.name } : Source).IsCutFrom source

/-- What is cut out of a piece where it starts is a piece. -/
theorem IsCutFrom.cut
    {whole source : Source}
    (isCut : whole.IsCutFrom source)
    {offset : Nat}
    (inside : offset ≤ source.text.length)
    {text : String}
    (isPart : text.toList <+: source.text.toList.drop offset)
    (name : String) :
    whole.IsCutFrom
      { text := text, name := name, origin := some (source.position offset) } := by
  obtain ⟨start, starts, isPiece, samePlaces⟩ := isCut
  have short := isPiece.length_le
  rw [List.length_drop, String.length_toList, String.length_toList] at short
  have isPartOfWhole : text.toList <+: whole.text.toList.drop (start + offset) := by
    rw [← List.drop_drop]
    exact isPart.trans (List.IsPrefix.drop isPiece offset)
  refine ⟨start + offset, by omega, isPartOfWhole, fun further within => ?_⟩
  rw [samePlaces offset inside]
  exact position_cut name isPartOfWhole within

end Source

/-! ## Sources that are placed -/

section Placement

variable {main : Source}

/-- A setting that knows the sources that are placed in a main one. -/
def placement (main : Source) : Setting where
  known := main.IsPlacedIn

/-- A title without a blank at its front is cut out where it stands. -/
private theorem trimmed_isPrefix
    {title : String}
    (starts : ∀ first ∈ title.toList.head?, isBlank first = false) :
    (trimmed title).toList <+: title.toList := by
  have noBlanks : trimStart title.toList = title.toList := by
    unfold trimStart
    cases shape : title.toList with
    | nil => rfl
    | cons first rest => rw [List.dropWhile_cons_of_neg (by simp [starts first (by simp [shape])])]
  have front := trim_isPrefix title.toList
  rwa [noBlanks, ← String.toList_ofList (l := trim title.toList)] at front

/-- Expansions are named otherwise, and titles are cut out where they stand. -/
theorem isClosed_placement
    (isNoExpansion : ¬ IsExpansionName main.name)
    (plainBlanks :
      ∀ character ∈ main.text.toList,
        isBlank character = true → isHorizontal character = true ∨ character = '\n') :
    (placement main).IsClosed where
  expansion := by
    intro name isExpansion text isNamed
    have sameName : name = main.name := isNamed
    exact (isNoExpansion (sameName ▸ isExpansion)).elim
  title source offset title isKnown inside isPart notPlain isNamed := by
    have named : (source.position offset).file = main.name := isNamed
    obtain ⟨text, counts, isCut⟩ := isKnown ((source.file_position offset).symm.trans named)
    refine ⟨text, counts, isCut.cut inside ?_ _⟩
    refine (trimmed_isPrefix fun first isFirst => ?_).trans isPart
    obtain ⟨start, -, isPiece, -⟩ := isCut
    have member : first ∈ main.text.toList :=
      counts.isInfix.subset
        ((List.drop_subset start _)
          (isPiece.subset ((List.drop_subset offset _)
            (isPart.subset (List.mem_of_mem_head? isFirst)))))
    obtain ⟨notLineFeed, notHorizontal⟩ := notPlain first isFirst
    rw [Bool.eq_false_iff]
    intro blank
    exact (plainBlanks first member blank).elim notHorizontal notLineFeed

/-- A file that is shown by the name of the main source is the main one. -/
theorem knowsFiles_placement
    {files : FileTree}
    (normal : files.IsNormal)
    {file : Path}
    (isFile : files.resolve (Path.ofText main.name) = .ok file)
    (includePaths : List String) :
    (placement main).KnowsFiles files includePaths Path.IsNormal [file] where
  leads fromNormal named resolved :=
    normal.resolve (normal.resolveInclude fromNormal named) resolved
  known := by
    intro name including path other text fromNormal named resolved isOther loaded isNamed
    have isNormal : path.IsNormal := normal.resolveInclude fromNormal named
    have sameName : path.shown = main.name := isNamed
    rw [← sameName, Path.ofText_shown isNormal, resolved] at isFile
    obtain rfl := Except.ok.inj isFile
    simp at isOther

/-- Each phrase is read as if the main source started with it. -/
theorem knowsFields_placement
    (isMain : main.origin = none)
    {info complete : DocInfo}
    {next : Cursor}
    (read : readDocInfo main.cursor = .ok (info, next))
    {encoding : Encoding}
    {moment : Moment}
    (isComplete : { info with ignore := false }.complete encoding moment = .ok complete) :
    (placement main).KnowsFields (main.position 0) complete := by
  have isKnown :
      ∀ markup ∈ info.phrases,
        main.IsPlacedIn
          { text := markup, name := (main.position 0).file, origin := some (main.position 0) } := by
    intro markup isPhrase _
    let whole : Source := { text := markup, name := main.name }
    have samePosition : main.position 0 = whole.position 0 := by
      simp [whole, Source.position, Source.positionAfter, isMain]
    have itself : whole.IsCutFrom whole :=
      ⟨0, Nat.zero_le _, List.prefix_refl _, fun offset _ => by rw [Nat.zero_add]⟩
    rw [samePosition]
    exact
      ⟨markup, .inr ⟨info, next, read, isPhrase⟩,
        itself.cut (Nat.zero_le _) (List.prefix_refl _) _⟩
  have samePhrases := DocInfo.phrases_of_complete isComplete
  change _ = info.phrases at samePhrases
  rw [← samePhrases] at isKnown
  simp only [List.forall_mem_cons, List.mem_append, Option.mem_toList] at isKnown
  exact
    { title := isKnown.1
      license := fun markup given => isKnown.2 markup (.inl given)
      purpose := fun markup given => isKnown.2 markup (.inr given) }

/-- A diagnostic that has its place in such a source is about a place in a counted text. -/
theorem Diagnostic.IsPlaced.exists_isAbout
    {diagnostic : Diagnostic}
    (isPlaced : diagnostic.IsPlaced main.IsPlacedIn)
    {position : Position}
    (isPosition : diagnostic.position = some position)
    (isNamed : position.file = main.name) :
    ∃ text, main.Counts text ∧ diagnostic.IsAbout text.toList position := by
  obtain ⟨source, offset, isKnown, inside, isPlace, shown⟩ := isPlaced
  obtain rfl := Option.some.inj (isPosition.symm.trans isPlace)
  obtain ⟨text, counts, start, starts, isPiece, samePlaces⟩ :=
    isKnown ((source.file_position offset).symm.trans isNamed)
  have whole : start ≤ text.length := starts
  have short : source.text.length ≤ text.length - start := by
    simpa only [List.length_drop, String.length_toList] using isPiece.length_le
  have place := samePlaces offset inside
  have within : start + offset ≤ text.toList.length := by
    rw [String.length_toList]
    omega
  refine ⟨text, counts, ?_⟩
  rw [place] at isPosition ⊢
  refine ⟨⟨within, ?_, ?_⟩, fun name isMessage => ?_⟩
  · simp [Source.position, Source.positionAfter]
  · simp only [Source.position, Source.positionAfter, List.length_reverse, List.length_take,
      Nat.min_eq_left within, Nat.sub_self, Nat.add_zero, distanceFromLineStart]
  · have behind := (shown name isMessage).trans (List.IsPrefix.drop isPiece offset)
    rw [List.drop_drop] at behind
    exact behind

end Placement

/-- A main source whose name no other one has is read so that diagnostics have their places. -/
theorem parseUnitOf_placement
    (main : Source)
    (environment : Environment)
    (normal : environment.files.IsNormal)
    (isMain : main.origin = none)
    {file : Path}
    (isFile : environment.files.resolve (Path.ofText main.name) = .ok file)
    (isNoExpansion : ¬ IsExpansionName main.name)
    (plainBlanks :
      ∀ character ∈ main.text.toList,
        isBlank character = true → isHorizontal character = true ∨ character = '\n')
    (steps : Nat) :
    Mirrors (placement main) []
      (parseUnitOf environment (Inner.within environment steps) file main)
      (parseUnitOf environment (Inner.within environment steps) file main)
      fun _ => True := by
  have isNormal : ∀ source ∈ [file], source.IsNormal :=
    List.forall_mem_singleton.mpr (normal.resolve (Path.isNormal_ofText main.name) isFile)
  have itself : main.IsPlacedIn main := fun _ =>
    ⟨main.text, .inl rfl, 0, Nat.zero_le _, List.prefix_refl _, fun offset _ => by
      simp [Source.position, Source.positionAfter, isMain]⟩
  exact
    parseUnitOf_document_mirrors (isClosed_placement isNoExpansion plainBlanks)
      (knowsFiles_placement normal isFile environment.includePaths) (List.Subset.refl _)
      isNormal itself (fun _ _ _ read => knowsFields_placement isMain read) steps

/-! ## Compilations -/

namespace Options

/-- Whatever a result reports is about sources that are known while the document is read. -/
theorem isPlaced_of_run
    (options : Options)
    {known : Source → Prop}
    {parse : Compile Bool}
    (reports :
      ∀ parsed after,
        parse { state := options.initialState } = .ok parsed after →
          after.state.Reported known [])
    {result : CompilationResult}
    (made : (options.run parse).result = .ok result) :
    ∀ diagnostic ∈ result.diagnostics, diagnostic.IsPlaced known := by
  unfold run at made
  split at made
  next parsed workspace outcome =>
    rw [(options.parts_of_result made).1]
    exact (reports parsed workspace outcome).2
  next => simp at made

/--
Whatever a compilation reports about the source of its document is about the place in
the text that the position says, or else about a place in one of the phrases in which
the document tells about itself, counted from the front of that phrase. The name of the
source must not be that of an expansion or of predefinitions, and spaces, tabs and line
feeds are the only blanks.
-/
theorem diagnostics_are_placed
    (options : Options)
    {files : FileTree}
    (normal : files.IsNormal)
    {given name : String}
    (isNoExpansion : ¬ IsExpansionName name)
    (isNoPredefinition : name ≠ predefinitionSource)
    (plainBlanks :
      ∀ character ∈ pairedLineEnds given.toList,
        isBlank character = true → isHorizontal character = true ∨ character = '\n')
    {result : CompilationResult}
    (compiled : compileSource options files given name = .ok result)
    {diagnostic : Diagnostic}
    (reported : diagnostic ∈ result.diagnostics)
    {position : Position}
    (isPosition : diagnostic.position = some position)
    (isNamed : position.file = name) :
    let main : Source := { text := String.ofList (pairedLineEnds given.toList), name := name }
    diagnostic.IsAbout (pairedLineEnds given.toList) position ∨
      ∃ phrase, main.HasPhrase phrase ∧ diagnostic.IsAbout phrase.toList position := by
  intro main
  have mainText : main.text.toList = pairedLineEnds given.toList := String.toList_ofList
  unfold compileSource runSource at compiled
  split at compiled
  next => simp at compiled
  next file isFile =>
    have starts : options.initialState.Reported main.IsPlacedIn [] :=
      CompilerState.reported_predefineAll ⟨rfl, by simp⟩ fun _ _ isNamed =>
        (isNoPredefinition isNamed.symm).elim
    have reports :
        ∀ parsed after,
          Compile.parsing (options.environment files) main.text.length
              (fun inner => parseUnitOf (options.environment files) inner file main)
              { state := options.initialState } =
            .ok parsed after →
            after.state.Reported main.IsPlacedIn [] := by
      intro parsed after outcome
      rw [Compile.parsing_apply] at outcome
      have mirrors :=
        parseUnitOf_placement main (options.environment files) normal rfl isFile isNoExpansion
          (by rwa [mainText])
          (enoughSteps (options.environment files) options.initialState main.text.length)
      exact ((mirrors { state := options.initialState } starts).2 parsed after outcome).2
    have isPlaced := options.isPlaced_of_run reports compiled diagnostic reported
    obtain ⟨text, counts, isAbout⟩ := isPlaced.exists_isAbout isPosition isNamed
    rcases counts with rfl | isPhrase
    · rw [mainText] at isAbout
      exact .inl isAbout
    · exact .inr ⟨text, isPhrase, isAbout⟩

/-- A name in the title of a table is reported where it stands. -/
theorem diagnostics_are_placed_in_table_title :
    let given := "[article T\n[id t]\n]\n\n[table A [foo]\n[[x]]\n]\n"
    let files : FileTree := { entries := [], workingDirectory := ["doc"], homeDirectory := [] }
    let main : Source :=
      { text := String.ofList (pairedLineEnds given.toList), name := "doc.qbk" }
    let position : Position := { file := "doc.qbk", offset := 30, line := 5, column := 10 }
    ∃ result diagnostic,
      compileSource { prettyPrint := false } files given "doc.qbk" = .ok result ∧
        diagnostic ∈ result.diagnostics ∧
          diagnostic.message = undefinedMessage "foo" ∧
            diagnostic.position = some position ∧
              (diagnostic.IsAbout (pairedLineEnds given.toList) position ∨
                ∃ phrase, main.HasPhrase phrase ∧ diagnostic.IsAbout phrase.toList position) := by
  intro given files main position
  let diagnostic : Diagnostic :=
    { severity := .error
      kind := .structural
      message := "Undefined template or macro 'foo'"
      file := "doc.qbk"
      position := some position }
  have reports :
      (compileSource { prettyPrint := false } files given "doc.qbk").toOption.map
          CompilationResult.diagnostics = some [diagnostic] := by
    decide +kernel
  obtain ⟨result, isResult, isReported⟩ := Option.map_eq_some_iff.mp reports
  have compiled : compileSource { prettyPrint := false } files given "doc.qbk" = .ok result := by
    cases outcome : compileSource { prettyPrint := false } files given "doc.qbk" with
    | error fault => simp [outcome, Except.toOption] at isResult
    | ok other => simpa [outcome, Except.toOption] using isResult
  have member : diagnostic ∈ result.diagnostics := by simp [isReported]
  have isName : Path.IsName "doc" := Path.isNormal_ofText "doc" "doc" (by decide)
  have normal : files.IsNormal :=
    { workingDirectory := List.forall_mem_singleton.mpr isName
      homeDirectory := by simp [files] }
  have isNoExpansion : ¬ IsExpansionName "doc.qbk" := fun isExpansion =>
    absurd isExpansion.last_eq (by decide)
  have plainBlanks :
      ∀ character ∈ pairedLineEnds given.toList,
        isBlank character = true → isHorizontal character = true ∨ character = '\n' := by
    have checked :
        (pairedLineEnds given.toList).all
          (fun character =>
            !isBlank character || (isHorizontal character || character == '\n')) = true := by
      decide +kernel
    intro character member blank
    simpa [blank] using List.all_eq_true.mp checked character member
  exact
    ⟨result, diagnostic, compiled, member, rfl, rfl,
      diagnostics_are_placed { prettyPrint := false } normal isNoExpansion (by decide) plainBlanks
        compiled member rfl rfl⟩

/-- A name in the title of a document is reported as if the title stood at the front. -/
theorem title_of_document_is_not_placed :
    let given := "[article T [foo]\n[id t]\n]\n"
    let files : FileTree := { entries := [], workingDirectory := ["doc"], homeDirectory := [] }
    let position : Position := { file := "doc.qbk", offset := 2, line := 1, column := 3 }
    let diagnostic : Diagnostic :=
      { severity := .error
        kind := .structural
        message := undefinedMessage "foo"
        file := "doc.qbk"
        position := some position }
    (compileSource { prettyPrint := false } files given "doc.qbk").toOption.map
          CompilationResult.diagnostics = some [diagnostic] ∧
      ¬ diagnostic.IsAbout (pairedLineEnds given.toList) position := by
  intro given files position diagnostic
  refine ⟨by decide +kernel, fun isAbout => ?_⟩
  have stands := isAbout.stands "foo" rfl
  revert stands
  decide

end Options

end DocMarkup
