import DocMarkup.Proofs.Bracket
import DocMarkup.Proofs.Template.Splitting

namespace DocMarkup

open Text

/-!
# Brackets of arguments

The text of a call goes up to the bracket that closes it, which is found by counting.
The same text is then cut into arguments by a count of its own, which knows nothing of
three quotes. Where there are none, and blanks are neither kept by a backslash nor cut
at inside brackets, every argument is closed by a bracket behind it again.
-/

/-! ## Pieces between separators -/

/-- A piece of a text that starts where no bracket is open and leaves none open. -/
structure IsBalancedPart (text part : List Char) : Prop where
  opens : openBehind? 0 part = some 0
  isPart : ∃ before after, text = before ++ part ++ after ∧ openBehind? 0 before = some 0

/-- A text that leaves no bracket open is cut where none is open. -/
theorem isBalancedPart_of_mem_argumentPieces
    {depth : Nat}
    {piece text argument : List Char}
    (opensPiece : openBehind? 0 piece.reverse = some depth)
    (opens : openBehind? depth text = some 0)
    (member : argument ∈ argumentPieces depth piece text) :
    IsBalancedPart (piece.reverse ++ text) argument := by
  generalize isDepth : (depth : Int) = signedDepth at member
  fun_induction argumentPieces signedDepth piece text generalizing depth with
  | case1 _ piece =>
      obtain rfl := List.mem_singleton.mp member
      obtain rfl := Option.some.inj opens
      exact ⟨opensPiece, [], [], by simp, rfl⟩
  | case2 _ piece character =>
      obtain rfl := List.mem_singleton.mp member
      refine ⟨?_, [], [], by simp, rfl⟩
      rw [List.reverse_cons, openBehind?_append opensPiece]
      exact opens
  | case3 _ piece first second rest escaped inductionHypothesis =>
      obtain rfl := beq_iff_eq.mp escaped
      rw [List.append_cons, ← List.reverse_cons, List.append_cons, ← List.reverse_cons]
      refine inductionHypothesis ?_ opens isDepth member
      rw [List.reverse_cons, List.reverse_cons, List.append_assoc, openBehind?_append opensPiece]
      rfl
  | case4 _ piece first second rest _ isOpening inductionHypothesis =>
      obtain rfl := beq_iff_eq.mp isOpening
      have opensRest : openBehind? (depth + 1) (second :: rest) = some 0 := opens
      rw [List.append_cons, ← List.reverse_cons]
      refine inductionHypothesis ?_ opensRest (by omega) member
      rw [List.reverse_cons, openBehind?_append opensPiece]
      rfl
  | case5 _ piece first second rest _ _ isClosing inductionHypothesis =>
      obtain rfl := beq_iff_eq.mp isClosing
      cases depth with
      | zero => cases opens
      | succ fewer =>
          have opensRest : openBehind? fewer (second :: rest) = some 0 := opens
          rw [List.append_cons, ← List.reverse_cons]
          refine inductionHypothesis ?_ opensRest (by omega) member
          rw [List.reverse_cons, openBehind?_append opensPiece]
          rfl
  | case6 _ piece first second rest _ _ _ separated inductionHypothesis =>
      simp only [Bool.and_eq_true, beq_iff_eq] at separated
      obtain ⟨⟨rfl, rfl⟩, rfl⟩ := separated
      obtain rfl : depth = 0 := by omega
      have uncounted : openBehind? 0 ['.', '.'] = some 0 := rfl
      rcases List.mem_cons.mp member with rfl | inOthers
      · exact ⟨opensPiece, [], '.' :: '.' :: rest, by simp, rfl⟩
      · have opensRest : openBehind? 0 rest = some 0 := by
          rw [← openBehind?_append uncounted]
          exact opens
        obtain ⟨opensArgument, before, after, rfl, opensBefore⟩ :=
          inductionHypothesis rfl opensRest rfl inOthers
        refine ⟨opensArgument, piece.reverse ++ (['.', '.'] ++ before), after, by simp, ?_⟩
        rw [openBehind?_append opensPiece, openBehind?_append uncounted, opensBefore]
  | case7 _ piece first second rest notBackslash notOpening notClosing _ inductionHypothesis =>
      simp only [beq_iff_eq] at notBackslash notOpening notClosing
      have uncounted : openBehind? depth [first] = some depth :=
        openBehind?_of_uncounted (by simp [Cursor.IsUncounted, notBackslash, notOpening, notClosing])
      have opensRest : openBehind? depth (second :: rest) = some 0 := by
        rw [← openBehind?_append uncounted]
        exact opens
      rw [List.append_cons, ← List.reverse_cons]
      refine inductionHypothesis ?_ opensRest isDepth member
      rw [List.reverse_cons, openBehind?_append opensPiece, uncounted]

/-! ## Trimming and words -/

/--
Every blank of a text counts as a character of its own, and the number of brackets open
before it is allowed.
-/
def CountsBlanks (allowed : Nat → Prop) (text : List Char) : Prop :=
  ∀ front blank behind, text = front ++ blank :: behind → isBlank blank = true →
    ∃ depth, openBehind? 0 front = some depth ∧ allowed depth

instance (allowed : Nat → Prop) [DecidablePred allowed] (text : List Char) :
    Decidable (CountsBlanks allowed text) :=
  decidable_of_iff
    (∀ index : Fin text.length, isBlank text[index] = true →
      (openBehind? 0 (text.take index)).any (fun depth => decide (allowed depth)) = true)
    (by
      simp only [Option.any_eq_true, decide_eq_true_eq]
      constructor
      · rintro counted front blank behind rfl isBlankHere
        have here := counted ⟨front.length, by simp⟩ (by simpa using isBlankHere)
        simpa using here
      · intro countsBlanks index isBlankHere
        refine countsBlanks (text.take index) text[index] (text.drop (index + 1)) ?_ isBlankHere
        rw [Fin.getElem_fin, List.getElem_cons_drop, List.take_append_drop])

section Blanks

variable {allowed : Nat → Prop} {text part before after : List Char}

/-- Behind a front that leaves no bracket open, blanks count as they do in the whole text. -/
theorem CountsBlanks.of_append
    (countsBlanks : CountsBlanks allowed text)
    (whole : text = before ++ part ++ after)
    (opensBefore : openBehind? 0 before = some 0) :
    CountsBlanks allowed part := by
  rintro front blank behind rfl isBlank
  obtain ⟨depth, opens, isAllowed⟩ :=
    countsBlanks (before ++ front) blank (behind ++ after) (by simp [whole]) isBlank
  rw [openBehind?_append opensBefore] at opens
  exact ⟨depth, opens, isAllowed⟩

/-- Blanks at the front leave the count as it is. -/
theorem openBehind?_trimStart (depth : Nat) (text : List Char) :
    openBehind? depth (trimStart text) = openBehind? depth text := by
  have split := List.takeWhile_append_dropWhile (p := isBlank) (l := text)
  have blanks : openBehind? depth (text.takeWhile isBlank) = some depth :=
    openBehind?_of_blanks List.all_takeWhile
  rw [trimStart, ← openBehind?_append blanks, split]

/-- Behind the blanks at the front, the others count as before. -/
theorem CountsBlanks.afterTrimStart (countsBlanks : CountsBlanks allowed text) :
    CountsBlanks allowed (trimStart text) := by
  have whole : text = text.takeWhile isBlank ++ trimStart text ++ [] := by
    rw [List.append_nil]
    exact List.takeWhile_append_dropWhile.symm
  exact countsBlanks.of_append whole (openBehind?_of_blanks List.all_takeWhile)

/-- The blanks that trimming leaves count as before. -/
theorem CountsBlanks.afterTrim (countsBlanks : CountsBlanks allowed text) :
    CountsBlanks allowed (trim text) := by
  obtain ⟨after, whole⟩ := trim_isPrefix text
  have split : trimStart text = [] ++ trim text ++ after := whole.symm
  exact countsBlanks.afterTrimStart.of_append split rfl

/-- Blanks at the back take nothing with them that counts. -/
theorem CountsBlanks.openBehind?_trimEnd
    (countsBlanks : CountsBlanks allowed text)
    (opens : openBehind? 0 text = some 0) :
    openBehind? 0 (trimEnd text) = some 0 := by
  have split : trimEnd text ++ (text.reverse.takeWhile isBlank).reverse = text := by
    rw [trimEnd, ← List.reverse_append, List.takeWhile_append_dropWhile, List.reverse_reverse]
  have areBlank : (text.reverse.takeWhile isBlank).reverse.all isBlank = true := by
    rw [List.all_reverse]
    exact List.all_takeWhile
  generalize (text.reverse.takeWhile isBlank).reverse = blanks at split areBlank
  cases blanks with
  | nil =>
      rw [List.append_nil] at split
      rwa [split]
  | cons blank others =>
      -- The first blank behind what is left is counted, so what is left is counted by itself.
      have isBlankHere := List.all_eq_true.mp areBlank blank List.mem_cons_self
      obtain ⟨depth, opensFront, _⟩ := countsBlanks _ blank others split.symm isBlankHere
      rw [← split, openBehind?_append opensFront, openBehind?_of_blanks areBlank] at opens
      rw [opensFront, opens]

/-- Trimming takes away nothing that counts. -/
theorem CountsBlanks.openBehind?_trim
    (countsBlanks : CountsBlanks allowed text)
    (opens : openBehind? 0 text = some 0) :
    openBehind? 0 (trim text) = some 0 :=
  countsBlanks.afterTrimStart.openBehind?_trimEnd ((openBehind?_trimStart 0 text).trans opens)

/-- A first word leaves no bracket open if the blank behind it is outside brackets. -/
theorem CountsBlanks.openBehind?_takeWhile
    (countsBlanks : CountsBlanks (· = 0) text)
    (opens : openBehind? 0 text = some 0) :
    openBehind? 0 (text.takeWhile fun character => !isBlank character) = some 0 := by
  have split := List.takeWhile_append_dropWhile
    (p := fun character => !isBlank character) (l := text)
  have isNext := List.head?_dropWhile_not (fun character => !isBlank character) text
  cases behind : text.dropWhile fun character => !isBlank character with
  | nil =>
      rw [behind, List.append_nil] at split
      rw [split, opens]
  | cons blank others =>
      have isBlankHere : isBlank blank = true := by simpa [behind] using isNext
      rw [behind] at split
      obtain ⟨_, opensFront, rfl⟩ := countsBlanks _ blank others split.symm isBlankHere
      exact opensFront

/-- Words between blanks outside brackets leave no bracket open. -/
theorem CountsBlanks.openBehind?_of_mem_wordsAtMost
    {cuts : Nat}
    {word : List Char}
    (countsBlanks : CountsBlanks (· = 0) text)
    (opens : openBehind? 0 text = some 0)
    (member : word ∈ wordsAtMost cuts text) :
    openBehind? 0 word = some 0 := by
  induction cuts generalizing text with
  | zero =>
      rw [eq_trim_of_mem_wordsAtMost member]
      exact countsBlanks.openBehind?_trim opens
  | succ cuts inductionHypothesis =>
      have fromWord := countsBlanks.afterTrimStart
      have opensFromWord := (openBehind?_trimStart 0 text).trans opens
      have isFirst := eq_or_mem_of_mem_wordsAtMost member
      generalize trimStart text = start at isFirst fromWord opensFromWord
      have opensWord := fromWord.openBehind?_takeWhile opensFromWord
      obtain rfl | inOthers := isFirst
      · exact opensWord
      · have whole : start = start.takeWhile (fun character => !isBlank character) ++
            start.dropWhile (fun character => !isBlank character) ++ [] := by
          rw [List.append_nil, List.takeWhile_append_dropWhile]
        rw [whole, List.append_nil, openBehind?_append opensWord] at opensFromWord
        exact inductionHypothesis (fromWord.of_append whole opensWord) opensFromWord inOthers

end Blanks

/-! ## Arguments -/

/--
The arguments of a call whose text is delimited by brackets are closed by a bracket
behind them again. This needs that no three quotes stand in the text, that no backslash
keeps a blank, and, where a single piece is cut into words, that blanks stand outside
brackets.
-/
theorem arguments_are_balanced
    {cursor next : Cursor}
    {raw argument : String}
    {count : Nat}
    {arguments : List String}
    (isDelimited : cursor.balanced? = some (raw, next))
    (noQuotes : ¬ escapeQuotes <:+: raw.toList)
    (countsBlanks :
      CountsBlanks (fun depth => (argumentPieces 0 [] raw.toList).length ≠ count → depth = 0)
        raw.toList)
    (areSplit : splitArguments? raw count = some arguments)
    (member : argument ∈ arguments)
    {atArgument : Cursor}
    {following : List Char}
    (isAhead : atArgument.rest = argument.toList ++ ']' :: following) :
    atArgument.balanced? = some (argument, atArgument.advance argument.length) := by
  have noQuotesInside : ¬ escapeQuotes <:+: argument.toList := fun quoted =>
    noQuotes (quoted.trans (isInfix_of_mem_splitArguments? areSplit member))
  have opens : openBehind? 0 argument.toList = some 0 := by
    obtain ⟨piece, isPiece, source⟩ := exists_piece_of_mem_splitArguments? areSplit member
    obtain ⟨opensPiece, before, after, isPart, opensBefore⟩ :=
      isBalancedPart_of_mem_argumentPieces rfl (openBehind?_of_balanced? noQuotes isDelimited)
        isPiece
    have inPiece := countsBlanks.of_append isPart opensBefore
    have opensTrimmed := inPiece.openBehind?_trim opensPiece
    obtain same | ⟨isCut, isWord⟩ := source
    · rw [same, opensTrimmed]
    · have outside : CountsBlanks (· = 0) piece := by
        intro front blank behind here isBlank
        obtain ⟨depth, opensFront, noneOpen⟩ := inPiece front blank behind here isBlank
        exact ⟨depth, opensFront, noneOpen isCut⟩
      exact outside.afterTrim.openBehind?_of_mem_wordsAtMost opensTrimmed isWord
  have reads : atArgument.Reads argument.toList (atArgument.advance argument.length) := by
    rw [← String.length_toList]
    exact .of_rest isAhead
  have isRead := ((isClosedByNext_iff noQuotesInside).mpr opens).balanced?_eq reads (by
    rw [reads.rest_of isAhead, List.head?_cons])
  rwa [String.ofList_toList] at isRead

/-- A text with a closing bracket behind it. -/
def beforeBracket (text : String) : Source where
  name := "call"
  text := text ++ "]"

/-- Words are cut at blanks outside brackets, and two dots inside them separate nothing. -/
theorem arguments_are_balanced_of_words :
    ∃ next,
      (beforeBracket "[a..b] c").cursor.balanced? = some ("[a..b] c", next) ∧
        splitArguments? "[a..b] c" 2 = some ["[a..b]", "c"] ∧
          (beforeBracket "[a..b]").cursor.balanced? =
            some ("[a..b]", (beforeBracket "[a..b]").cursor.advance 6) := by
  have isDelimited :
      (beforeBracket "[a..b] c").cursor.balanced? =
        some ("[a..b] c", (beforeBracket "[a..b] c").cursor.advance 8) := by
    have distance : closingDistance? 0 (beforeBracket "[a..b] c").text.toList = some 8 := by
      decide +kernel
    rw [Cursor.balanced?, Source.rest_cursor, distance]
    rfl
  have areSplit : splitArguments? "[a..b] c" 2 = some ["[a..b]", "c"] := by decide +kernel
  refine ⟨_, isDelimited, areSplit, ?_⟩
  exact arguments_are_balanced isDelimited (by decide +kernel) (by decide +kernel) areSplit
    List.mem_cons_self rfl

/-- Separators are counted between three quotes too, and blanks are cut at inside brackets. -/
theorem arguments_are_cut_in_quotes_and_brackets :
    ((beforeBracket "'''..]'''").cursor.balanced?.map Prod.fst = some "'''..]'''" ∧
        splitArguments? "'''..]'''" 2 = some ["'''", "]'''"] ∧
          (beforeBracket "]'''").cursor.balanced?.map Prod.fst ≠ some "]'''") ∧
      (beforeBracket "[*a b]").cursor.balanced?.map Prod.fst = some "[*a b]" ∧
        splitArguments? "[*a b]" 2 = some ["[*a", "b]"] ∧
          (beforeBracket "[*a").cursor.balanced? = none := by
  decide +kernel

end DocMarkup
