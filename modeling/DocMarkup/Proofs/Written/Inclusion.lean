import DocMarkup.Grammar.Unit
import DocMarkup.Proofs.Text.Trimming
import DocMarkup.Proofs.Text.Utf8
import DocMarkup.Proofs.Written.Element

namespace DocMarkup

open Compile Text

/-!
# Inclusions where they are written

An inclusion names its file as it stands between its brackets. The file is looked
up and read like a document of its own without document information, in the state
that there is where it is included, and leaves its output there.
-/

variable {environment : Environment} {before : CompilerState} {inner : Inner}
  {cursor next : Cursor}

/-- A name that an inclusion gives as it is written: it is trimmed and keeps its brackets closed. -/
structure IsFileName (name : String) : Prop where
  notEmpty : name ≠ ""
  isTrimmed : trimmed name = name
  isClosed : Cursor.IsClosedByNext name.toList

/-- A block on a line of its own that names something as it stands, with its keyword. -/
def namedLine (keyword name : String) : List Char :=
  keyword.toList ++ ([' '] ++ (name.toList ++ ([']'] ++ ['\n', '\n'])))

/-- Such a block is not empty without its keyword and its name. -/
theorem length_namedLine_ge (keyword name : String) :
    4 ≤ (namedLine keyword name).length := by
  simp only [namedLine, List.length_append, List.length_cons, List.length_nil]
  omega

/--
A file that is loaded as a text, and to which an inclusion in the innermost of some
open files leads. It is not open itself, and one more may be opened.
-/
structure FileTree.Includes
    (files : FileTree)
    (includePaths : List String)
    (stack : List Path)
    (name : String)
    (file path : Path)
    (text : List Char) :
    Prop where
  found : files.resolveInclude name stack.head? includePaths = .ok path
  resolved : files.resolve path = .ok file
  loaded : files.loadSource path = .ok (String.ofList text)
  notOpen : file ∉ stack
  room : stack.length < includeLimit

/-- A text without carriage returns is loaded from its bytes as it is. -/
theorem FileTree.loadSource_eq
    {files : FileTree}
    {path : Path}
    {text : List Char}
    (noNull : path.hasNull = false)
    (stored : files.read path = .ok (encodeUtf8 text))
    (noReturn : '\r' ∉ text)
    (startsAscii : ∀ first ∈ text.head?, first.val.toNat < 0x80) :
    files.loadSource path = .ok (String.ofList text) := by
  have unmarked : text.head? ≠ some byteOrderMark := by
    intro isMark
    exact absurd (startsAscii byteOrderMark isMark) (by decide)
  simp only [loadSource, noNull, Bool.false_eq_true, ↓reduceIte, stored, decodeSource,
    decodeUtf8_encodeUtf8 unmarked, unifyLineEnds_eq_self noReturn]

namespace Block

/-- An inclusion is read in its brackets, and its file is included. -/
theorem elements_inclusion
    {name : String}
    {output : BlockOutput}
    (isName : IsFileName name)
    (reads : cursor.Reads (namedLine "[include" name) next)
    (included :
      Yields before (inner.includeFile cursor.position name none) () (before.withOutput output)) :
    ∃ afterBlock afterLine,
      Yields before (firstOf (elements inner) cursor) (some afterBlock)
        (before.withOutput output) ∧
        afterBlock.Reads ['\n'] afterLine ∧ afterLine.Reads ['\n'] next := by
  obtain ⟨afterKeyword, readsKeyword, reads⟩ := reads.split
  obtain ⟨atName, readsBlank, reads⟩ := reads.split
  obtain ⟨atBracket, readsName, reads⟩ := reads.split
  obtain ⟨afterBlock, closes, readsEnd⟩ := reads.split
  have readsEnd : afterBlock.Reads (['\n'] ++ ['\n']) next := readsEnd
  obtain ⟨afterLine, readsLineFeed, readsBlankLine⟩ := readsEnd.split
  refine ⟨afterBlock, afterLine, ?_, readsLineFeed, readsBlankLine⟩
  have isTrimmed := trimmed_eq_iff.mp isName.isTrimmed
  have notEmpty : name.toList ≠ [] := mt String.toList_eq_nil_iff.mp isName.notEmpty
  have gapStops :
      Stops (fun character => isHorizontal character || character == '\n') atName.rest := by
    obtain ⟨first, rest, shape⟩ := List.exists_cons_of_ne_nil notEmpty
    have stops := (stops_of_trim_eq_self isTrimmed).1
    rw [shape] at stops
    rw [readsName.rest_eq, shape]
    refine .cons ?_ _
    by_contra isGap
    simp only [Bool.not_eq_false, Bool.or_eq_true, isHorizontal, beq_iff_eq] at isGap
    obtain (rfl | rfl) | rfl := isGap <;> simp [Stops, isBlank] at stops
  have isHead : cursor.inclusionHead? = some (none, atName) := by
    have noId : afterKeyword.character? ':' = none :=
      Cursor.character?_eq_none (by rw [readsBlank.rest_eq]; simp)
    simp [Cursor.inclusionHead?, readsKeyword.literal?_eq, Cursor.givenId?, noId, Cursor.gap?,
      readsBlank.runOf?_eq rfl gapStops (by simp)]
  have isFile : atName.fileName? = some (name, afterBlock) := by
    have balanced :=
      isName.isClosed.balanced?_eq readsName (by rw [closes.rest_eq]; rfl)
    rw [String.ofList_toList] at balanced
    simp [Cursor.fileName?, Cursor.balancedThrough?, balanced, closes.close?_eq,
      isName.isTrimmed, isName.notEmpty]
  refine Yields.firstOf
    [comment, sectionStart inner, sectionEnd, heading inner, macroDefinition,
      templateDefinition] ?_ ?_
  · simp only [List.forall_mem_cons, List.not_mem_nil, false_implies, implies_true, and_true]
    exact
      ⟨comment_yields_none readsKeyword (by decide),
        sectionStart_yields_none readsKeyword (by decide),
        sectionEnd_yields_none readsKeyword (by decide),
        heading_yields_none readsKeyword (by decide),
        macroDefinition_yields_none readsKeyword (by decide),
        templateDefinition_yields_none readsKeyword (by decide)⟩
  · simp only [inclusion, isHead, isFile]
    exact included.bind (.pure _)

end Block

/-- A name that leads to a file is the name of a path, and the file is the first one for it. -/
theorem FileTree.exists_requested
    {files : FileTree}
    {name : String}
    {including : Option Path}
    {includePaths : List String}
    {path : Path}
    (found : files.resolveInclude name including includePaths = .ok path) :
    ∃ requested,
      (Path.ofText name).expandHome files.homeDirectory = .ok requested ∧
        files.firstFile requested (files.includePlaces requested including includePaths) =
          path := by
  unfold resolveInclude at found
  cases expanded : (Path.ofText name).expandHome files.homeDirectory with
  | error fault =>
      simp [expanded] at found
  | ok requested =>
      simp only [expanded, Except.ok.injEq] at found
      exact ⟨requested, rfl, found⟩

section Files

variable {name : String} {file path : Path} {text : List Char} {output : BlockOutput}
  {source : Source} {fault : DocInfoFault} {stop : Cursor}

/-- A file without document information is read as its blocks. -/
theorem parseFile_yields
    (includes :
      environment.files.Includes environment.includePaths before.includeStack name file path text)
    (isSource : source = { text := String.ofList text, name := path.shown })
    (noInfo : readDocInfo source.cursor = .error fault)
    (content :
      Yields (pushFile file before) (inner.blocks false source.cursor) stop
        ((pushFile file before).withOutput output))
    (atEnd : stop.isAtEnd = true)
    (position : Position) :
    Yields before (parseFile environment inner path true (some position)) true
      (before.withOutput output) := by
  have bodyYields :
      Yields (pushFile file before)
        (parseBody inner { ignore := true } source.cursor) true
        ((pushFile file before).withOutput output) := by
    refine content.bind ?_
    simp only [atEnd, ↓reduceIte]
    exact Yields.updateThen (.pure true)
  have textYields :
      Yields (pushFile file before) (parseText environment inner source true) true
        ((pushFile file before).withOutput output) := by
    simp only [parseText, noInfo, ↓reduceIte]
    exact Yields.bind (.pure true) bodyYields
  have unitYields :
      Yields before (parseUnitOf environment inner file source true) true
        (before.withOutput output) := by
    have unit := textYields.withFreshMemory.bind (.pure true)
    exact Yields.updateThen (unit.thenAlways popFile)
  refine (Yields.consult [path]).bind ?_
  simp only [includes.loaded, ← isSource]
  exact (Yields.ofPath includes.resolved).bind unitYields

/-- An included file without document information leaves the output of its blocks. -/
theorem includeFile_yields
    (includes :
      environment.files.Includes environment.includePaths before.includeStack name file path text)
    (isSource : source = { text := String.ofList text, name := path.shown })
    (noInfo : readDocInfo source.cursor = .error fault)
    (content :
      Yields (pushFile file before) (inner.blocks false source.cursor) stop
        ((pushFile file before).withOutput output))
    (atEnd : stop.isAtEnd = true)
    (position : Position) :
    Yields before (includeFile environment inner position name none) ()
      (before.withOutput output) := by
  obtain ⟨requested, expanded, isPath⟩ := FileTree.exists_requested includes.found
  have fileYields := parseFile_yields includes isSource noInfo content atEnd position
  have includedYields :
      Yields before (parseIncluded environment inner position path none) ()
        (before.withOutput output) := by
    apply Yields.state
    simp only [isGiven, Bool.false_eq_true, ↓reduceIte]
    exact (fileYields.thenAlways _).bind (.pure ())
  unfold includeFile
  apply Yields.state
  refine (Yields.ofPath expanded).bind ?_
  simp only [isPath]
  refine (Yields.consult _).bind ((Yields.ofPath includes.resolved).bind ?_)
  have notOpen : before.includeStack.contains file = false := by
    simp [includes.notOpen]
  have room : ¬ includeLimit ≤ before.includeStack.length :=
    Nat.not_le_of_lt includes.room
  simp only [notOpen, Bool.false_eq_true, ↓reduceIte, room]
  exact includedYields

end Files

end DocMarkup
