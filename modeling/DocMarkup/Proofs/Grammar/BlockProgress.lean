import DocMarkup.Proofs.Grammar.Progress
import DocMarkup.Proofs.Text.Trimming

namespace DocMarkup

/-!
# Progress of the readers of blocks

The fronts of blocks take at least their bracket or their mark. What is cut out
of a text, such as an argument, a body or a title, is never longer than it.
-/

/-! ## Pieces of texts -/

namespace Text

/-- Dropping blanks at both ends never makes a text longer. -/
theorem length_trim_le (characters : List Char) : (trim characters).length ≤ characters.length :=
  (trim_isInfix characters).length_le

/-- Dropping blanks at both ends never makes a text longer. -/
theorem length_trimmed_le (text : String) : (trimmed text).length ≤ text.length := by
  have shorter := length_trim_le text.toList
  rwa [← String.length_ofList, String.length_toList] at shorter

/-- Without cuts, a text is one word. -/
theorem eq_trim_of_mem_wordsAtMost
    {characters word : List Char}
    (member : word ∈ wordsAtMost 0 characters) :
    word = trim characters := by
  unfold wordsAtMost at member
  simp only at member
  split at member
  · cases member
  · exact List.mem_singleton.mp member

/-- With a cut, a text is its first word and those behind it. -/
theorem eq_or_mem_of_mem_wordsAtMost
    {cuts : Nat}
    {characters word : List Char}
    (member : word ∈ wordsAtMost (cuts + 1) characters) :
    word = (trimStart characters).takeWhile (fun character => !isBlank character) ∨
      word ∈
        wordsAtMost cuts
          ((trimStart characters).dropWhile fun character => !isBlank character) := by
  unfold wordsAtMost at member
  simp only at member
  split at member
  · cases member
  · exact List.mem_cons.mp member

/-- The words of a text are pieces of it. -/
theorem isInfix_of_mem_wordsAtMost
    {cuts : Nat}
    {characters word : List Char}
    (member : word ∈ wordsAtMost cuts characters) :
    word <:+: characters := by
  have front : trimStart characters <:+: characters := (List.dropWhile_suffix _).isInfix
  induction cuts generalizing characters with
  | zero =>
      rw [eq_trim_of_mem_wordsAtMost member]
      exact trim_isInfix characters
  | succ cuts inductionHypothesis =>
      obtain rfl | inOthers := eq_or_mem_of_mem_wordsAtMost member
      · exact (List.takeWhile_prefix _).isInfix.trans front
      · have inRest := inductionHypothesis inOthers (List.dropWhile_suffix _).isInfix
        exact inRest.trans ((List.dropWhile_suffix _).isInfix.trans front)

end Text

/-- Every text is cut into at least one piece. -/
theorem argumentPieces_ne_nil (depth : Int) (piece characters : List Char) :
    argumentPieces depth piece characters ≠ [] := by
  fun_induction argumentPieces depth piece characters <;> simp_all

/-- The pieces of a text, with the separators between them, are that text. -/
theorem intercalate_argumentPieces (depth : Int) (piece characters : List Char) :
    List.intercalate ['.', '.'] (argumentPieces depth piece characters) =
      piece.reverse ++ characters := by
  fun_induction argumentPieces depth piece characters with
  | case6 depth piece first second rest _ _ _ separated inductionHypothesis =>
      simp only [Bool.and_eq_true, beq_iff_eq] at separated
      obtain ⟨⟨rfl, rfl⟩, rfl⟩ := separated
      rw [List.intercalate_cons_of_ne_nil (argumentPieces_ne_nil _ _ _), inductionHypothesis]
      simp
  | _ => simp_all

/-- A text is a piece of the one it is joined to others in. -/
theorem isInfix_intercalate_of_mem
    {separator text : List Char}
    {texts : List (List Char)}
    (member : text ∈ texts) :
    text <:+: List.intercalate separator texts := by
  induction texts with
  | nil => cases member
  | cons first others inductionHypothesis =>
      cases others with
      | nil =>
          obtain rfl := List.mem_singleton.mp member
          exact ⟨[], [], by simp⟩
      | cons next behind =>
          rw [List.intercalate_cons_cons]
          rcases List.mem_cons.mp member with rfl | inOthers
          · exact (List.prefix_append _ _).isInfix.trans (List.prefix_append _ _).isInfix
          · exact (inductionHypothesis inOthers).trans (List.suffix_append _ _).isInfix

/-- What a text is cut into are pieces of it. -/
theorem isInfix_of_mem_argumentPieces
    {characters argument : List Char}
    (member : argument ∈ argumentPieces 0 [] characters) :
    argument <:+: characters := by
  have joinedAgain := intercalate_argumentPieces 0 [] characters
  rw [List.reverse_nil, List.nil_append] at joinedAgain
  exact joinedAgain ▸ isInfix_intercalate_of_mem member

/-- As many arguments are given as are asked for. -/
theorem length_of_splitArguments?
    {raw : String}
    {count : Nat}
    {arguments : List String}
    (areSplit : splitArguments? raw count = some arguments) :
    arguments.length = count := by
  unfold splitArguments? at areSplit
  split at areSplit
  next isZero =>
    split at areSplit
    · obtain rfl := Option.some.inj areSplit
      exact isZero.symm
    · cases areSplit
  next =>
    dsimp only at areSplit
    split at areSplit
    next sameLength =>
      obtain rfl := Option.some.inj areSplit
      rw [List.length_map, sameLength]
    next => cases areSplit

/--
Every argument of a call is a trimmed piece between separators or, where there is a
single piece for several parameters, one of its words.
-/
theorem exists_piece_of_mem_splitArguments?
    {raw argument : String}
    {count : Nat}
    {arguments : List String}
    (areSplit : splitArguments? raw count = some arguments)
    (member : argument ∈ arguments) :
    ∃ piece ∈ argumentPieces 0 [] raw.toList,
      argument.toList = Text.trim piece ∨
        (argumentPieces 0 [] raw.toList).length ≠ count ∧
          argument.toList ∈ Text.wordsAtMost (count - 1) (Text.trim piece) := by
  have areWords :
      argument.toList ∈
        wordArguments count ((argumentPieces 0 [] raw.toList).map Text.trim) := by
    unfold splitArguments? at areSplit
    split at areSplit
    · split at areSplit
      · obtain rfl := Option.some.inj areSplit
        cases member
      · cases areSplit
    · dsimp only at areSplit
      split at areSplit
      · obtain rfl := Option.some.inj areSplit
        obtain ⟨word, isWord, rfl⟩ := List.mem_map.mp member
        rwa [String.toList_ofList]
      · cases areSplit
  have isTrimmed :
      argument.toList ∈ (argumentPieces 0 [] raw.toList).map Text.trim →
        ∃ piece ∈ argumentPieces 0 [] raw.toList, argument.toList = Text.trim piece := by
    intro inPieces
    obtain ⟨piece, isPiece, same⟩ := List.mem_map.mp inPieces
    exact ⟨piece, isPiece, same.symm⟩
  unfold wordArguments at areWords
  split at areWords
  next single onlyPiece =>
    obtain ⟨piece, pieces, rfl⟩ := List.map_eq_singleton_iff.mp onlyPiece
    dsimp only at areWords
    split at areWords
    next several =>
      simp only [Bool.and_eq_true, decide_eq_true_eq] at several
      refine ⟨piece, by simp [pieces], .inr ⟨?_, areWords⟩⟩
      rw [pieces, List.length_singleton]
      omega
    next =>
      obtain ⟨piece, isPiece, same⟩ := isTrimmed areWords
      exact ⟨piece, isPiece, .inl same⟩
  next =>
    obtain ⟨piece, isPiece, same⟩ := isTrimmed areWords
    exact ⟨piece, isPiece, .inl same⟩

/-- Every argument of a call is a piece of the text of the call. -/
theorem isInfix_of_mem_splitArguments?
    {raw argument : String}
    {count : Nat}
    {arguments : List String}
    (areSplit : splitArguments? raw count = some arguments)
    (member : argument ∈ arguments) :
    argument.toList <:+: raw.toList := by
  obtain ⟨piece, isPiece, source⟩ := exists_piece_of_mem_splitArguments? areSplit member
  have trimmedPiece : Text.trim piece <:+: raw.toList :=
    (Text.trim_isInfix piece).trans (isInfix_of_mem_argumentPieces isPiece)
  obtain same | ⟨_, isWord⟩ := source
  · exact same ▸ trimmedPiece
  · exact (Text.isInfix_of_mem_wordsAtMost isWord).trans trimmedPiece

/-- Every argument of a call is at most as long as the text of the call. -/
theorem length_le_of_mem_splitArguments?
    {raw argument : String}
    {count : Nat}
    {arguments : List String}
    (areSplit : splitArguments? raw count = some arguments)
    (member : argument ∈ arguments) :
    argument.length ≤ raw.length := by
  rw [← String.length_toList, ← String.length_toList]
  exact (isInfix_of_mem_splitArguments? areSplit member).length_le

/-- A template has the name and the parameters of its definition, and its output is not known. -/
theorem Block.templateOf_fields
    (name : String)
    (params : List String)
    (body : String) :
    (Block.templateOf name params body).name = name ∧
      (Block.templateOf name params body).params = params ∧
        (Block.templateOf name params body).events = none := by
  unfold Block.templateOf
  split <;> exact ⟨rfl, rfl, rfl⟩

/-- The body of a template is at most as long as the text it is taken from. -/
theorem Block.length_templateOf_body_le
    (name : String)
    (params : List String)
    (body : String) :
    (Block.templateOf name params body).body.length ≤ body.length := by
  have shorter := (List.dropWhile_sublist Text.isHorizontal (l := body.toList)).length_le
  rw [String.length_toList] at shorter
  unfold Block.templateOf
  split
  next rest shape =>
    rw [shape, List.length_cons] at shorter
    rw [String.length_ofList]
    omega
  next =>
    rw [String.length_ofList]
    exact shorter

/-! ## Fronts of blocks -/

namespace Cursor

variable {cursor next : Cursor}

/-- Reading the front of a list item reads its mark at least. -/
theorem length_rest_listMarker?_lt
    {marker : ListMarker}
    (read : cursor.listMarker? = some (marker, next)) :
    next.rest.length < cursor.rest.length := by
  unfold Cursor.listMarker? at read
  obtain ⟨found, isMarker, shape⟩ := Option.map_eq_some_iff.mp read
  obtain ⟨_, rfl⟩ := Prod.mk.inj shape
  simp only [DocMarkup.listMarker?] at isMarker
  split at isMarker
  next mark rest remaining =>
    split at isMarker
    · obtain rfl := Option.some.inj isMarker
      have someLeft := congrArg List.length remaining
      simp only [List.length_drop, List.length_cons] at someLeft
      simp only [rest_advance, List.length_drop]
      omega
    · simp at isMarker
  next =>
    simp at isMarker

/-- Reading the bracket that closes a section reads its keyword at least. -/
theorem length_rest_sectionEnd?_lt (read : cursor.sectionEnd? = some next) :
    next.rest.length < cursor.rest.length := by
  unfold sectionEnd? at read
  obtain ⟨inside, opened, closed⟩ := Option.bind_eq_some_iff.mp read
  have afterOpening := length_rest_literal? opened
  have blanks := length_rest_skipHorizontal_le inside
  have afterClosing := length_rest_close? closed
  omega

/-- Reading the front of a heading reads its keyword at least. -/
theorem length_rest_heading?_lt
    {level : Option Int}
    (read : cursor.heading? = some (level, next)) :
    next.rest.length < cursor.rest.length := by
  unfold heading? at read
  obtain ⟨⟨keyword, ownLevel⟩, isKeyword, found⟩ := List.exists_of_findSome?_eq_some read
  obtain ⟨after, keywordRead, shape⟩ := Option.map_eq_some_iff.mp found
  obtain ⟨_, rfl⟩ := Prod.mk.inj shape
  have afterKeyword := length_rest_keyword? keywordRead
  have notEmpty : ∀ entry ∈ headingKeywords, 0 < entry.1.length := by decide
  have positive := notEmpty _ isKeyword
  simp only at positive
  omega

/-- Reading the front of an admonition reads its bracket at least. -/
theorem length_rest_admonition?_lt
    {name : String}
    (read : cursor.admonition? = some (name, next)) :
    next.rest.length < cursor.rest.length := by
  unfold admonition? at read
  obtain ⟨element, _, found⟩ := List.exists_of_findSome?_eq_some read
  obtain ⟨after, keywordRead, shape⟩ := Option.map_eq_some_iff.mp found
  obtain ⟨_, rfl⟩ := Prod.mk.inj shape
  have afterKeyword := length_rest_keyword? keywordRead
  rw [String.length_append] at afterKeyword
  have bracket : "[".length = 1 := rfl
  omega

/-- The element of an admonition is one of those that draw attention to a remark. -/
theorem mem_admonitionNames_of_admonition?
    {name : String}
    (read : cursor.admonition? = some (name, next)) :
    name ∈ admonitionNames := by
  unfold admonition? at read
  obtain ⟨element, isName, found⟩ := List.exists_of_findSome?_eq_some read
  obtain ⟨after, _, shape⟩ := Option.map_eq_some_iff.mp found
  obtain ⟨rfl, _⟩ := Prod.mk.inj shape
  exact isName

/-- A keyword, a gap and a name are longer than nothing. -/
private theorem length_rest_keywordGapName_lt
    {keyword name : String}
    {accepts : String × Cursor → Bool}
    (read :
      (((cursor.literal? keyword).bind gap?).bind name?).filter accepts = some (name, next)) :
    next.rest.length < cursor.rest.length := by
  obtain ⟨afterGap, gapRead, named⟩ :=
    Option.bind_eq_some_iff.mp (Option.filter_eq_some_iff.mp read).1
  obtain ⟨inside, opened, gap⟩ := Option.bind_eq_some_iff.mp gapRead
  have afterOpening := length_rest_literal? opened
  have pastGap := length_rest_gap?_lt gap
  have afterName := length_rest_name?_lt named
  omega

/-- Reading the front of the definition of a macro reads its keyword at least. -/
theorem length_rest_macroHead?_lt
    {name : String}
    (read : cursor.macroHead? = some (name, next)) :
    next.rest.length < cursor.rest.length :=
  length_rest_keywordGapName_lt read

/-- Reading the front of the definition of a template reads its keyword at least. -/
theorem length_rest_templateHead?_lt
    {name : String}
    (read : cursor.templateHead? = some (name, next)) :
    next.rest.length < cursor.rest.length :=
  length_rest_keywordGapName_lt read

/-- Reading the parameters of a template never adds to what remains. -/
theorem length_rest_templateParams_le (cursor : Cursor) :
    cursor.templateParams.2.rest.length ≤ cursor.rest.length := by
  unfold templateParams
  split
  · exact Nat.le_refl _
  next inside opened =>
    have blanks := length_rest_skipHorizontal_le cursor
    have afterOpening := length_rest_character? opened
    simp only
    split
    next after closed =>
      have afterClosing := length_rest_close? closed
      simp only [rest_advance, List.length_drop] at afterClosing
      split
      · simp only
        omega
      · exact Nat.le_refl _
    next =>
      exact Nat.le_refl _

/-- Reading an identifier behind a colon never adds to what remains. -/
theorem length_rest_givenId?_le
    {given : Option String}
    (read : cursor.givenId? = some (given, next)) :
    next.rest.length ≤ cursor.rest.length := by
  unfold givenId? at read
  split at read
  next inside opened =>
    obtain ⟨⟨identifier, after⟩, run, shape⟩ := Option.map_eq_some_iff.mp read
    obtain ⟨_, rfl⟩ := Prod.mk.inj shape
    have afterColon := length_rest_character? opened
    have afterRun := length_rest_runOf?_lt run
    omega
  next =>
    simp only [Option.some.injEq, Prod.mk.injEq] at read
    obtain ⟨_, rfl⟩ := read
    exact Nat.le_refl _

/-- Reading a keyword that may have an identifier takes as many characters as it has at least. -/
theorem length_rest_keywordWithId?_le
    {expected : String}
    {given : Option String}
    (read : cursor.keywordWithId? expected = some (given, next)) :
    next.rest.length + expected.length ≤ cursor.rest.length := by
  unfold keywordWithId? at read
  obtain ⟨inside, opened, identified⟩ :=
    Option.bind_eq_some_iff.mp (Option.filter_eq_some_iff.mp read).1
  have afterOpening := length_rest_literal? opened
  have afterId := length_rest_givenId?_le identified
  omega

/-- Reading the front of an inclusion reads its keyword at least. -/
theorem length_rest_inclusionHead?_lt
    {given : Option String}
    (read : cursor.inclusionHead? = some (given, next)) :
    next.rest.length < cursor.rest.length := by
  unfold inclusionHead? at read
  split at read
  next found afterId front =>
    obtain ⟨after, gap, shape⟩ := Option.map_eq_some_iff.mp read
    obtain ⟨_, rfl⟩ := Prod.mk.inj shape
    obtain ⟨inside, opened, identified⟩ := Option.bind_eq_some_iff.mp front
    have afterOpening := length_rest_literal? opened
    have pastId := length_rest_givenId?_le identified
    have pastGap := length_rest_gap?_lt gap
    omega
  next =>
    simp at read

/-- Reading a file name reads the bracket behind it at least. -/
theorem length_rest_fileName?_lt
    {name : String}
    (read : cursor.fileName? = some (name, next)) :
    next.rest.length < cursor.rest.length := by
  unfold fileName? at read
  obtain ⟨⟨content, after⟩, through, shape⟩ :=
    Option.map_eq_some_iff.mp (Option.filter_eq_some_iff.mp read).1
  obtain ⟨_, rfl⟩ := Prod.mk.inj shape
  exact length_rest_balancedThrough?_lt through

/-- Reading the title of a table never adds to what remains. -/
theorem length_rest_tableTitle_le (cursor : Cursor) :
    cursor.tableTitle.2.rest.length ≤ cursor.rest.length := by
  simp [tableTitle]

/-- The title of a table is part of what remained. -/
theorem length_tableTitle_le (cursor : Cursor) :
    cursor.tableTitle.1.length ≤ cursor.rest.length := by
  simp only [tableTitle, String.length_ofList, List.length_take]
  exact Nat.min_le_right ..

/-! ## Code -/

/-- Reading the line that opens a fence reads the fence at least. -/
theorem length_rest_fenceOpening?_lt (read : cursor.fenceOpening? = some next) :
    next.rest.length < cursor.rest.length := by
  simp only [fenceOpening?] at read
  split at read
  · have afterOpening := length_rest_character? read
    have language :=
      length_rest_skip_le (cursor.advance fence.length).skipHorizontal isLanguageCharacter
    have blanksBefore := length_rest_skipHorizontal_le (cursor.advance fence.length)
    have blanksBehind :=
      length_rest_skipHorizontal_le
        ((cursor.advance fence.length).skipHorizontal.skip isLanguageCharacter)
    simp only [rest_advance, List.length_drop] at blanksBefore
    omega
  · simp at read

/-- Reading fenced code reads its fences at least. -/
theorem length_rest_fencedCode?_lt
    {code : String}
    (read : cursor.fencedCode? = some (code, next)) :
    next.rest.length < cursor.rest.length := by
  unfold fencedCode? at read
  split at read
  · simp at read
  next content opened =>
    obtain ⟨⟨textLines, last⟩, _, shape⟩ := Option.map_eq_some_iff.mp read
    obtain ⟨_, rfl⟩ := Prod.mk.inj shape
    have afterOpening := length_rest_fenceOpening?_lt opened
    have throughFence :=
      length_rest_skipLineFeed_le (content.advance (lengthOfLines textLines + last.length))
    simp only [rest_advance, List.length_drop] at throughFence
    omega

/-- Reading indented code reads one line at least. -/
theorem length_rest_indentedCode?_lt
    {code : String}
    (read : cursor.indentedCode? = some (code, next)) :
    next.rest.length < cursor.rest.length := by
  simp only [indentedCode?] at read
  split at read
  next starts =>
    split at read
    · simp at read
    next someCode =>
      simp only [Option.some.injEq, Prod.mk.injEq] at read
      obtain ⟨_, rfl⟩ := read
      have someLine : (Text.lines cursor.rest).takeWhile continuesCode ≠ [] := by
        intro noLine
        simp [noLine, withoutFinalBlanks] at someCode
      have someLength :
          0 < lengthOfLines ((Text.lines cursor.rest).takeWhile continuesCode) := by
        cases taken : (Text.lines cursor.rest).takeWhile continuesCode with
        | nil =>
            exact (someLine taken).elim
        | cons line rest =>
            simp only [lengthOfLines]
            omega
      have someLeft : 0 < cursor.rest.length := by
        cases remaining : cursor.rest with
        | nil =>
            simp [remaining] at starts
        | cons first rest =>
            simp
      simp only [rest_advance, List.length_drop]
      omega
  next =>
    simp at read

end Cursor

end DocMarkup
