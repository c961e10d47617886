import DocMarkup.Grammar.Code
import DocMarkup.Proofs.Written.Cursor

namespace DocMarkup

open Text

/-!
# Fenced code read back

Code between two fences is read up to the first line that holds a fence and
nothing else. If there is no such line in the code, the code that was written is
the code that is read.
-/

namespace Text

/-- A character before all places of change is not in a set. -/
theorem CodePointSet.contains_eq_false
    {set : CodePointSet}
    {character : Char}
    (isBefore : ∀ change ∈ set.changes.toList, character.toNat < change) :
    set.contains character = false := by
  unfold CodePointSet.contains
  rw [← Array.foldl_toList]
  generalize set.changes.toList = changes at isBefore
  induction changes with
  | nil =>
      rfl
  | cons first rest inductionHypothesis =>
      simp only [List.forall_mem_cons] at isBefore
      rw [List.foldl_cons, if_neg (by omega)]
      exact inductionHypothesis isBefore.2

/-- Among the ASCII characters, letters and digits are those of ASCII. -/
theorem isAlphanumeric_of_ascii
    {character : Char}
    (isAscii : character.toNat < 128) :
    isAlphanumeric character = character.isAlphanum := by
  have beyond : ∀ change ∈ foreignAlphanumerics.changes.toList, 127 < change := by
    decide +kernel
  have notForeign : foreignAlphanumerics.contains character = false :=
    CodePointSet.contains_eq_false fun change listed => by
      have later := beyond change listed
      omega
  simp [isAlphanumeric, notForeign]

/-- The lines of a text before a line feed are followed by those behind it. -/
theorem linesFrom_append_cons (line front behind : List Char) :
    linesFrom line (front ++ '\n' :: behind) = linesFrom line front ++ lines behind := by
  induction front generalizing line with
  | nil =>
      simp [linesFrom, lines]
  | cons first rest inductionHypothesis =>
      rw [List.cons_append, linesFrom, linesFrom]
      split
      · rw [inductionHypothesis, List.cons_append]
      · rw [inductionHypothesis]

/-- A text has at least one line. -/
theorem linesFrom_ne_nil (line characters : List Char) : linesFrom line characters ≠ [] := by
  induction characters generalizing line with
  | nil =>
      simp [linesFrom]
  | cons first rest inductionHypothesis =>
      rw [linesFrom]
      split
      · simp
      · exact inductionHypothesis _

/-- The lines of a text, joined again, are the text. -/
theorem unlines_linesFrom (line characters : List Char) :
    unlines (linesFrom line characters) = line.reverse ++ characters := by
  induction characters generalizing line with
  | nil =>
      simp [linesFrom, unlines]
  | cons first rest inductionHypothesis =>
      rw [linesFrom]
      split
      next isLineFeed =>
        obtain rfl : first = '\n' := by simpa using isLineFeed
        obtain ⟨second, others, shape⟩ := List.exists_cons_of_ne_nil (linesFrom_ne_nil [] rest)
        have joined := inductionHypothesis []
        rw [shape] at joined ⊢
        unfold unlines at joined ⊢
        rw [List.intercalate_cons_cons, joined]
        simp
      next =>
        rw [inductionHypothesis]
        simp

end Text

namespace Cursor

/-- The lines of a text have as many characters as the text and a last line feed. -/
theorem lengthOfLines_linesFrom (line characters : List Char) :
    lengthOfLines (linesFrom line characters) = line.length + characters.length + 1 := by
  induction characters generalizing line with
  | nil =>
      simp [linesFrom, lengthOfLines]
  | cons first rest inductionHypothesis =>
      rw [linesFrom]
      split
      · rw [lengthOfLines, inductionHypothesis, List.length_reverse, List.length_cons,
          List.length_nil]
        omega
      · rw [inductionHypothesis, List.length_cons, List.length_cons]
        omega

/-- A line closes a fence if it is a fence with spaces and tabs around it. -/
theorem isFenceLine_iff {line : List Char} :
    isFenceLine line = true ↔
      ∃ front behind,
        line = front ++ (fence ++ behind) ∧ front.all isHorizontal = true ∧
          behind.all isHorizontal = true := by
  have fenceStops : ∀ behind, Stops isHorizontal (fence ++ behind) := fun behind =>
    .cons (by decide) _
  constructor
  · intro isFence
    obtain ⟨front, behind, rfl, areBlanks, stops⟩ := exists_run isHorizontal line
    have dropped : (front ++ behind).dropWhile isHorizontal = behind :=
      dropWhile_run areBlanks stops
    simp only [isFenceLine, dropped, Bool.and_eq_true] at isFence
    obtain ⟨rest, rfl⟩ := List.isPrefixOf_iff_prefix.mp isFence.1
    rw [List.drop_left] at isFence
    exact ⟨front, rest, rfl, areBlanks, isFence.2⟩
  · rintro ⟨front, behind, rfl, areBlanks, alsoBlanks⟩
    have dropped : (front ++ (fence ++ behind)).dropWhile isHorizontal = fence ++ behind :=
      dropWhile_run areBlanks (fenceStops behind)
    simp only [isFenceLine, dropped, List.drop_left, alsoBlanks, Bool.and_true]
    exact List.isPrefixOf_iff_prefix.mpr (List.prefix_append _ _)

/-- The lines before a closing fence are those of the code, if none of them closes it. -/
theorem linesBeforeFence?_append
    {code others : List (List Char)}
    {closing : List Char}
    (opens : code.all (fun line => !isFenceLine line) = true)
    (closes : isFenceLine closing = true) :
    linesBeforeFence? (code ++ closing :: others) = some (code, closing) := by
  induction code with
  | nil =>
      simp [linesBeforeFence?, closes]
  | cons line rest inductionHypothesis =>
      simp only [List.all_cons, Bool.and_eq_true, Bool.not_eq_true'] at opens
      rw [List.cons_append, linesBeforeFence?, opens.1, inductionHypothesis opens.2]
      rfl

variable {cursor inside afterCode next : Cursor}

/-- Among the ASCII characters, a language is named with letters, digits and a few signs. -/
theorem isLanguageCharacter_of_ascii
    {character : Char}
    (isAscii : character.toNat < 128) :
    isLanguageCharacter character =
      (character.isAlphanum || "_+#.-".toList.contains character) := by
  rw [isLanguageCharacter, isWordCharacter, isAlphanumeric_of_ascii isAscii]
  simp only [Bool.or_assoc, String.reduceToList, List.contains_cons, List.contains_nil, Bool.or_false]

/-- ASCII letters, digits and a few signs name a language. -/
theorem all_isLanguageCharacter_of_ascii
    {language : List Char}
    (areAscii : ∀ character ∈ language, character.toNat < 128)
    (areNaming :
      ∀ character ∈ language,
        (character.isAlphanum || "_+#.-".toList.contains character) = true) :
    language.all isLanguageCharacter = true := by
  rw [List.all_eq_true]
  intro character member
  rw [isLanguageCharacter_of_ascii (areAscii character member)]
  exact areNaming character member

/-- No language starts with a blank. -/
theorem isHorizontal_of_isLanguageCharacter
    {character : Char}
    (isLanguage : isLanguageCharacter character = true) :
    isHorizontal character = false := by
  cases isBlank : isHorizontal character with
  | false => rfl
  | true =>
      have isSpaceOrTab : character = ' ' ∨ character = '\t' := by
        simpa [isHorizontal] using isBlank
      obtain rfl | rfl := isSpaceOrTab <;>
        rw [isLanguageCharacter_of_ascii (by decide)] at isLanguage <;>
        exact absurd isLanguage (by decide)

/-- The line that opens a fence is read, with the language named on it. -/
theorem fenceOpening?_eq
    {language : List Char}
    (isLanguage : language.all isLanguageCharacter = true)
    (reads : cursor.Reads (fence ++ (language ++ ['\n'])) next) :
    cursor.fenceOpening? = some next := by
  obtain ⟨afterFence, readsFence, readsRest⟩ := reads.split
  obtain ⟨afterLanguage, readsLanguage, readsLineFeed⟩ := readsRest.split
  have isFence : fence.isPrefixOf cursor.rest = true := by
    rw [readsFence.rest_eq]
    exact List.isPrefixOf_iff_prefix.mpr (List.prefix_append _ _)
  have lineFeedStops : Stops isLanguageCharacter afterLanguage.rest := by
    rw [readsLineFeed.rest_eq]
    refine .cons ?_ _
    rw [isLanguageCharacter_of_ascii (by decide)]
    decide
  have noBlanks : afterFence.skipHorizontal = afterFence := by
    refine skip_eq_self ?_
    rw [readsLanguage.rest_eq]
    cases language with
    | nil =>
        rw [readsLineFeed.rest_eq]
        exact .cons rfl _
    | cons first rest =>
        rw [List.all_cons, Bool.and_eq_true] at isLanguage
        exact .cons (isHorizontal_of_isLanguageCharacter isLanguage.1) _
  have isSkipped : afterFence.skip isLanguageCharacter = afterLanguage :=
    readsLanguage.skip_eq isLanguage lineFeedStops
  have stillNoBlanks : afterLanguage.skipHorizontal = afterLanguage := by
    refine skip_eq_self ?_
    rw [readsLineFeed.rest_eq]
    exact .cons rfl _
  simp [fenceOpening?, isFence, readsFence.advance_eq, noBlanks, isSkipped, stillNoBlanks,
    readsLineFeed.character?_eq]

/-- Code between fences is read through the line that closes its fence. -/
theorem fencedCode?_eq
    {language : List Char}
    (isLanguage : language.all isLanguageCharacter = true)
    {content : String}
    (opens : (lines content.toList).all (fun line => !isFenceLine line) = true)
    (readsOpening : cursor.Reads (fence ++ (language ++ ['\n'])) inside)
    (readsCode : inside.Reads (content.toList ++ ('\n' :: fence)) afterCode)
    (readsLineFeed : afterCode.Reads ['\n'] next) :
    cursor.fencedCode? = some (content, next) := by
  have isClosed :
      linesBeforeFence? (lines inside.rest) = some (lines content.toList, fence) := by
    have cut :
        lines (content.toList ++ '\n' :: (fence ++ '\n' :: next.rest)) =
          lines content.toList ++ fence :: lines next.rest := by
      simp only [lines]
      rw [linesFrom_append_cons]
      rfl
    rw [readsCode.rest_eq, readsLineFeed.rest_eq]
    simp only [List.append_assoc, List.cons_append, List.nil_append]
    rw [cut]
    exact linesBeforeFence?_append opens (by decide)
  have isCode : String.ofList (unlines (lines content.toList)) = content := by
    rw [lines, unlines_linesFrom, List.reverse_nil, List.nil_append, String.ofList_toList]
  have isAfter :
      inside.advance (lengthOfLines (lines content.toList) + fence.length) = afterCode := by
    rw [lines, lengthOfLines_linesFrom, ← readsCode.advance_eq]
    congr 1
    simp [fence]
  simp only [fencedCode?, fenceOpening?_eq isLanguage readsOpening, isClosed, Option.map_some,
    isCode, isAfter, skipLineFeed, readsLineFeed.character?_eq, Option.getD_some]

end Cursor

end DocMarkup
