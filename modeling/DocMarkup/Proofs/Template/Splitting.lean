import DocMarkup.Proofs.Grammar.BlockProgress
import DocMarkup.Proofs.Written.Cursor
import Mathlib.Data.List.Infix

namespace DocMarkup

/-!
# Arguments that are joined and split again

Arguments in which nothing could be taken for a separator are joined by separators,
with any blanks around each of them. The text is cut at these separators and nowhere
else, and the blanks are trimmed, so the arguments are found again. Another number of
them is not found, unless a single one is cut into words.
-/

/-! ## Trimmed texts -/

namespace Text

variable {before content after : List Char}

/-- Trimming takes away the blanks that were put around a trimmed text. -/
theorem trim_padded
    (blanksBefore : before.all isBlank = true)
    (blanksAfter : after.all isBlank = true)
    (isTrimmed : trim content = content) :
    trim (before ++ content ++ after) = content := by
  obtain ⟨frontStops, backStops⟩ := stops_of_trim_eq_self isTrimmed
  have blanksBack : after.reverse.all isBlank = true := by rwa [List.all_reverse]
  rw [trim, trimStart, List.append_assoc]
  cases content with
  | nil =>
      have allBlank : (before ++ after).all isBlank = true := by
        rw [List.all_append, blanksBefore, blanksAfter]
        rfl
      have noneBehind : Stops isBlank [] := rfl
      have dropped := dropWhile_run allBlank noneBehind
      rw [List.append_nil] at dropped
      rw [List.nil_append, dropped]
      rfl
  | cons first rest =>
      rw [dropWhile_run blanksBefore (frontStops.append (List.cons_ne_nil _ _) after), trimEnd,
        List.reverse_append, dropWhile_run blanksBack backStops, List.reverse_reverse]

/-- The words of a text are trimmed. -/
theorem trim_of_mem_wordsAtMost
    {cuts : Nat}
    {characters word : List Char}
    (member : word ∈ wordsAtMost cuts characters) :
    trim word = word := by
  induction cuts generalizing characters with
  | zero =>
      rw [eq_trim_of_mem_wordsAtMost member]
      exact trim_trim characters
  | succ cuts inductionHypothesis =>
      obtain rfl | inOthers := eq_or_mem_of_mem_wordsAtMost member
      · refine trim_eq_self_of_forall fun character inWord => ?_
        simpa using List.mem_takeWhile_imp inWord
      · exact inductionHypothesis inOthers

end Text

/-! ## Texts without separators -/

/-- The brackets open behind a text that is read with some open; there may be fewer than none. -/
def openAfter (depth : Int) (text : List Char) : Int :=
  depth + text.count '[' - text.count ']'

/--
Nothing in a text is cut when it is read with some brackets open: two dots stand inside
brackets only, and no dot at the end could make a separator with what follows. There is
no backslash either, which would keep a character from counting.
-/
structure IsUncut (depth : Int) (text : List Char) : Prop where
  noBackslash : '\\' ∉ text
  noSeparator : ∀ front, front ++ ['.', '.'] <+: text → openAfter depth front ≠ 0
  noDotAtEnd : text.getLast? ≠ some '.'

section Uncut

variable {depth : Int} {piece text behind : List Char} {first : Char} {rest : List Char}

@[simp] theorem openAfter_nil : openAfter depth [] = depth := by
  simp [openAfter]

/-- The brackets of a text are counted character by character. -/
theorem openAfter_cons :
    openAfter depth (first :: rest) = openAfter (openAfter depth [first]) rest := by
  simp only [openAfter, List.count_cons, List.count_nil]
  omega

/-- A character that is no backslash and starts no separator goes to the piece. -/
theorem argumentPieces_cons
    (isCounted : first ≠ '\\')
    (noSeparator : depth = 0 → first = '.' → rest.head? ≠ some '.') :
    argumentPieces depth piece (first :: rest) =
      argumentPieces (openAfter depth [first]) (first :: piece) rest := by
  cases rest with
  | nil => simp [argumentPieces]
  | cons second others =>
      by_cases opens : first = '['
      · subst opens
        simp [argumentPieces, openAfter]
      · by_cases closes : first = ']'
        · subst closes
          simp [argumentPieces, openAfter]
        · have together : ¬((depth = 0 ∧ first = '.') ∧ second = '.') := by
            intro ⟨⟨outside, isDot⟩, alsoDot⟩
            exact noSeparator outside isDot (by rw [alsoDot]; rfl)
          have sameDepth : openAfter depth [first] = depth := by
            simp [openAfter, opens, closes]
          rw [argumentPieces, sameDepth]
          simp [isCounted, opens, closes, together]

/-- Behind a first character, a text is as little cut as before. -/
theorem IsUncut.tail (isUncut : IsUncut depth (first :: rest)) :
    IsUncut (openAfter depth [first]) rest where
  noBackslash := fun member => isUncut.noBackslash (List.mem_cons_of_mem first member)
  noSeparator front isCut := by
    rw [← openAfter_cons]
    exact isUncut.noSeparator (first :: front) (List.cons_prefix_cons.mpr ⟨rfl, isCut⟩)
  noDotAtEnd := by
    have atEnd := isUncut.noDotAtEnd
    cases rest with
    | nil => simp
    | cons second others => rwa [List.getLast?_cons_cons] at atEnd

/-- A text that is not cut goes to the piece, whatever follows it. -/
theorem IsUncut.argumentPieces_append
    (isUncut : IsUncut depth text)
    (piece behind : List Char) :
    argumentPieces depth piece (text ++ behind) =
      argumentPieces (openAfter depth text) (text.reverse ++ piece) behind := by
  induction text generalizing depth piece with
  | nil => simp
  | cons first rest inductionHypothesis =>
      have isCounted : first ≠ '\\' := by
        rintro rfl
        exact isUncut.noBackslash List.mem_cons_self
      have noSeparator : depth = 0 → first = '.' → (rest ++ behind).head? ≠ some '.' := by
        rintro outside rfl
        cases rest with
        | nil => exact (isUncut.noDotAtEnd rfl).elim
        | cons second others =>
            rw [List.cons_append, List.head?_cons]
            intro isDot
            obtain rfl := Option.some.inj isDot
            exact isUncut.noSeparator [] (by simp) (by simpa using outside)
      rw [List.cons_append, argumentPieces_cons isCounted noSeparator,
        inductionHypothesis isUncut.tail, ← openAfter_cons, List.reverse_cons, List.append_assoc]
      rfl

/-- Blanks are neither brackets nor dots nor backslashes. -/
theorem isUncut_of_blanks
    (depth : Int)
    (blanks : text.all Text.isBlank = true) :
    IsUncut depth text ∧ openAfter depth text = depth := by
  have others : ∀ character, Text.isBlank character = false → character ∉ text := by
    intro character notBlank member
    rw [List.all_eq_true.mp blanks character member] at notBlank
    cases notBlank
  refine ⟨⟨others '\\' (by decide), ?_, ?_⟩, ?_⟩
  · intro front isCut
    exact (others '.' (by decide) (isCut.subset (by simp))).elim
  · intro atEnd
    exact others '.' (by decide) (List.mem_of_getLast? atEnd)
  · rw [openAfter, List.count_eq_zero.mpr (others '[' (by decide)),
      List.count_eq_zero.mpr (others ']' (by decide))]
    simp

/-- A separator outside brackets ends a piece. -/
theorem argumentPieces_separator (piece behind : List Char) :
    argumentPieces 0 piece ('.' :: '.' :: behind) = piece.reverse :: argumentPieces 0 [] behind := by
  rw [argumentPieces]
  simp

end Uncut

/-! ## Joining and splitting -/

/--
An argument as it may be written: without blanks at its ends, without backslashes, its
brackets balanced, two dots inside brackets only, and no dot at its end.
-/
structure IsArgument (content : List Char) : Prop where
  isTrimmed : Text.trim content = content
  noBackslash : '\\' ∉ content
  neverBelow : ∀ front, front <+: content → front.count ']' ≤ front.count '['
  isBalanced : content.count '[' = content.count ']'
  noSeparator : ∀ front, front ++ ['.', '.'] <+: content → front.count '[' ≠ front.count ']'
  noDotAtEnd : content.getLast? ≠ some '.'

instance (content : List Char) : Decidable (IsArgument content) :=
  decidable_of_iff
    (Text.trim content = content ∧
      '\\' ∉ content ∧
      (∀ front ∈ content.inits, front.count ']' ≤ front.count '[') ∧
      content.count '[' = content.count ']' ∧
      (∀ front ∈ content.inits,
        front ++ ['.', '.'] <+: content → front.count '[' ≠ front.count ']') ∧
      content.getLast? ≠ some '.')
    ⟨fun ⟨isTrimmed, noBackslash, neverBelow, isBalanced, noSeparator, noDotAtEnd⟩ =>
      ⟨isTrimmed, noBackslash,
        fun front isFront => neverBelow front ((List.mem_inits front content).mpr isFront),
        isBalanced,
        fun front isCut =>
          noSeparator front
            ((List.mem_inits front content).mpr ((List.prefix_append front _).trans isCut)) isCut,
        noDotAtEnd⟩,
    fun isArgument =>
      ⟨isArgument.isTrimmed, isArgument.noBackslash,
        fun front isFront =>
          isArgument.neverBelow front ((List.mem_inits front content).mp isFront),
        isArgument.isBalanced, fun front _ => isArgument.noSeparator front,
        isArgument.noDotAtEnd⟩⟩

/-- An argument with blanks around it. -/
structure PaddedArgument where
  before : List Char
  content : List Char
  after : List Char
  blanksBefore : before.all Text.isBlank = true
  blanksAfter : after.all Text.isBlank = true
  isArgument : IsArgument content

namespace PaddedArgument

/-- The argument and the blanks around it. -/
def written (argument : PaddedArgument) : List Char :=
  argument.before ++ argument.content ++ argument.after

/-- The text of a call with some arguments. -/
def joined (arguments : List PaddedArgument) : String :=
  String.ofList (List.intercalate ['.', '.'] (arguments.map written))

/-- An argument with its blanks goes to the piece, whatever follows it. -/
theorem argumentPieces_append
    (argument : PaddedArgument)
    (piece behind : List Char) :
    argumentPieces 0 piece (argument.written ++ behind) =
      argumentPieces 0 (argument.written.reverse ++ piece) behind := by
  obtain ⟨uncutBefore, openBefore⟩ := isUncut_of_blanks 0 argument.blanksBefore
  obtain ⟨uncutAfter, openAfterwards⟩ := isUncut_of_blanks 0 argument.blanksAfter
  have isUncut : IsUncut 0 argument.content :=
    { noBackslash := argument.isArgument.noBackslash
      noSeparator := fun front isCut => by
        have unbalanced := argument.isArgument.noSeparator front isCut
        rw [openAfter]
        omega
      noDotAtEnd := argument.isArgument.noDotAtEnd }
  have isBalanced : openAfter 0 argument.content = 0 := by
    rw [openAfter, argument.isArgument.isBalanced]
    omega
  rw [written, List.append_assoc, List.append_assoc, uncutBefore.argumentPieces_append,
    openBefore, isUncut.argumentPieces_append, isBalanced, uncutAfter.argumentPieces_append,
    openAfterwards]
  simp

/-- The text of a call is cut at the separators that were put between its arguments. -/
theorem argumentPieces_joined
    {arguments : List PaddedArgument}
    (notEmpty : arguments ≠ []) :
    argumentPieces 0 [] (joined arguments).toList = arguments.map written := by
  rw [joined, String.toList_ofList]
  induction arguments with
  | nil => exact (notEmpty rfl).elim
  | cons argument others inductionHypothesis =>
      cases others with
      | nil =>
          have onlyOne := argument.argumentPieces_append [] []
          rw [List.append_nil, List.append_nil] at onlyOne
          rw [List.map_singleton, List.intercalate_singleton, onlyOne]
          simp [argumentPieces]
      | cons next behind =>
          rw [List.map_cons, List.map_cons, List.intercalate_cons_cons, List.append_assoc,
            argument.argumentPieces_append, List.append_nil, List.cons_append, List.cons_append,
            List.nil_append, argumentPieces_separator, List.reverse_reverse, ← List.map_cons,
            inductionHypothesis (List.cons_ne_nil _ _)]

/-- Trimming leaves of the arguments what was written between the blanks. -/
theorem trimmed_joined
    {arguments : List PaddedArgument}
    (notEmpty : arguments ≠ []) :
    (argumentPieces 0 [] (joined arguments).toList).map Text.trim = arguments.map content := by
  rw [argumentPieces_joined notEmpty, List.map_map]
  refine List.map_congr_left fun argument _ => ?_
  exact Text.trim_padded argument.blanksBefore argument.blanksAfter argument.isArgument.isTrimmed

end PaddedArgument

/-- Only a single argument is cut into words, and only if there are several parameters. -/
theorem wordArguments_eq_self
    {count : Nat}
    {arguments : List (List Char)}
    (notCut : arguments.length = 1 → count ≤ 1) :
    wordArguments count arguments = arguments := by
  unfold wordArguments
  split
  next single =>
    have notSeveral : ¬1 < count := Nat.not_lt.mpr (notCut rfl)
    simp [notSeveral]
  next => rfl

/-- What a call is split into is trimmed. -/
theorem trimmed_of_mem_splitArguments?
    {raw argument : String}
    {count : Nat}
    {arguments : List String}
    (areSplit : splitArguments? raw count = some arguments)
    (member : argument ∈ arguments) :
    Text.trimmed argument = argument := by
  obtain ⟨piece, _, same | ⟨_, isWord⟩⟩ := exists_piece_of_mem_splitArguments? areSplit member
  · rw [Text.trimmed_eq_iff, same]
    exact Text.trim_trim piece
  · exact Text.trimmed_eq_iff.mpr (Text.trim_of_mem_wordsAtMost isWord)

/--
The text of a call whose arguments were joined by separators, with any blanks around
them, is split into these arguments. It is not split into another number of them, unless
it is a single one. Whatever is split into arguments gives as many as were asked for,
without blanks at their ends.
-/
theorem splitting_undoes_joining
    (arguments : List PaddedArgument)
    (notEmpty : arguments ≠ []) :
    splitArguments? (PaddedArgument.joined arguments) arguments.length =
        some (arguments.map fun argument => String.ofList argument.content) ∧
      (∀ count, 1 ≤ count → count ≠ arguments.length → ¬(arguments.length = 1 ∧ 1 < count) →
        splitArguments? (PaddedArgument.joined arguments) count = none) ∧
      ∀ raw count results, splitArguments? raw count = some results →
        results.length = count ∧ ∀ result ∈ results, Text.trimmed result = result := by
  have given : 0 < arguments.length := List.length_pos_iff.mpr notEmpty
  have splitInto : ∀ count, 1 ≤ count → (arguments.length = 1 → count ≤ 1) →
      splitArguments? (PaddedArgument.joined arguments) count =
        if arguments.length = count then
          some (arguments.map fun argument => String.ofList argument.content)
        else
          none := by
    intro count some notCut
    have notZero : count ≠ 0 := by omega
    have keptWhole :
        wordArguments count (arguments.map PaddedArgument.content) =
          arguments.map PaddedArgument.content :=
      wordArguments_eq_self (by rwa [List.length_map])
    simp only [splitArguments?, notZero, if_false, PaddedArgument.trimmed_joined notEmpty,
      keptWhole, List.length_map, List.map_map]
    rfl
  refine ⟨?_, ?_, ?_⟩
  · rw [splitInto arguments.length given (fun single => Nat.le_of_eq single), if_pos rfl]
  · intro count some other notSingle
    rw [splitInto count some (by omega), if_neg (Ne.symm other)]
  · intro raw count results areSplit
    exact ⟨length_of_splitArguments? areSplit,
      fun result member => trimmed_of_mem_splitArguments? areSplit member⟩

/-- An argument with dots in brackets, an empty one between blanks, and one with a dot in front. -/
def dottedArguments : List PaddedArgument :=
  [⟨[' '], "a[x..y]".toList, [' '], rfl, rfl, by decide⟩,
    ⟨[], [], ['\t', '\n'], rfl, rfl, by decide⟩,
    ⟨[], ".b c".toList, [], rfl, rfl, by decide⟩]

theorem splitting_undoes_joining_of_dotted :
    dottedArguments ≠ [] ∧
      PaddedArgument.joined dottedArguments = " a[x..y] ..\t\n...b c" ∧
      splitArguments? (PaddedArgument.joined dottedArguments) 3 =
        some ["a[x..y]", "", ".b c"] ∧
      splitArguments? (PaddedArgument.joined dottedArguments) 4 = none := by
  have notEmpty : dottedArguments ≠ [] := List.cons_ne_nil _ _
  obtain ⟨isSplit, notOtherwise, _⟩ := splitting_undoes_joining dottedArguments notEmpty
  refine ⟨notEmpty, by decide +kernel, isSplit, ?_⟩
  exact notOtherwise 4 (by decide) (by decide) (by decide)

end DocMarkup
