import DocMarkup.Grammar.Phrase
import DocMarkup.Proofs.Text.Words
import DocMarkup.Proofs.Written.Cursor

namespace DocMarkup

open Text

/-!
# Counting brackets

The bracket that closes the current one is found by counting, and the count can be
taken up anywhere on the way to it. What stands for no bracket leaves the count as
it is. Inside a bracket the count goes on to the end of that bracket first, and
then from there.
-/

namespace Cursor

variable {cursor next atBracket : Cursor} {first : Char} {rest : List Char} {depth : Nat}

/-- Going on twice is going on as many characters as both times together. -/
theorem advance_advance (cursor : Cursor) (first second : Nat) :
    (cursor.advance first).advance second = cursor.advance (first + second) := by
  refine eq_of_offset rfl ?_
  simp only [advance, List.length_take, List.length_drop]
  omega

/-- The bracket that closes the current one, with some brackets open inside it. -/
def closingBracket? (depth : Nat) (cursor : Cursor) : Option Cursor :=
  (closingDistance? depth cursor.rest).map cursor.advance

/-- What is read up to a bracket ends at the bracket that is found by counting. -/
theorem closingBracket?_of_balanced?
    {content : String}
    (read : cursor.balanced? = some (content, atBracket)) :
    cursor.closingBracket? 0 = some atBracket := by
  simp only [balanced?, Option.map_eq_some_iff, Prod.mk.injEq] at read
  obtain ⟨length, found, _, rfl⟩ := read
  simp [closingBracket?, found]

/-- A bracket that is found stands in the same text, not before the place it is looked for from. -/
theorem offset_le_of_closingBracket?
    (closes : cursor.closingBracket? depth = some atBracket) :
    atBracket.source = cursor.source ∧ cursor.offset ≤ atBracket.offset := by
  obtain ⟨length, _, rfl⟩ := Option.map_eq_some_iff.mp closes
  exact ⟨rfl, Nat.le_add_right ..⟩

/-! ## One step of the count -/

/-- What is counted from a place is what is counted from a later one, if the distances say so. -/
theorem closingBracket?_advance
    {laterDepth count : Nat}
    (same :
      closingDistance? depth cursor.rest =
        (closingDistance? laterDepth (cursor.rest.drop count)).map (· + count)) :
    cursor.closingBracket? depth = (cursor.advance count).closingBracket? laterDepth := by
  rw [closingBracket?, same, closingBracket?, rest_advance, Option.map_map]
  congr 1
  funext length
  rw [advance_advance, Function.comp_apply, Nat.add_comm]

/-- At the end of the text, there is no bracket. -/
theorem closingBracket?_of_end (atEnd : cursor.rest = []) :
    cursor.closingBracket? depth = none := by
  simp [closingBracket?, atEnd, closingDistance?]

/-- Three quotes start with a quote. -/
private theorem quotedLengthAfter?_eq_none (noQuote : first ≠ singleQuote) :
    quotedLengthAfter? first rest = none := by
  have otherQuote := noQuote.symm
  simp [quotedLengthAfter?, escapeQuotes, List.replicate, List.isPrefixOf_cons_cons, otherQuote]

/-- A bracket that opens is to be closed first. -/
theorem closingBracket?_of_opening (remaining : cursor.rest = '[' :: rest) :
    cursor.closingBracket? depth = (cursor.advance 1).closingBracket? (depth + 1) := by
  apply closingBracket?_advance
  rw [remaining, closingDistance?, quotedLengthAfter?_eq_none (by decide)]
  simp

/-- A bracket that closes is the one looked for, if no other is open. -/
theorem closingBracket?_of_closing (remaining : cursor.rest = ']' :: rest) :
    cursor.closingBracket? 0 = some cursor := by
  rw [closingBracket?, remaining, closingDistance?, quotedLengthAfter?_eq_none (by decide)]
  simp only [Char.reduceBEq, Bool.false_eq_true, ↓reduceIte, BEq.rfl, Option.map_some,
    Option.some.injEq]
  exact (Reads.nil cursor).advance_eq

/-- Otherwise it closes the innermost of those. -/
theorem closingBracket?_of_closing_succ (remaining : cursor.rest = ']' :: rest) :
    cursor.closingBracket? (depth + 1) = (cursor.advance 1).closingBracket? depth := by
  apply closingBracket?_advance
  rw [remaining, closingDistance?, quotedLengthAfter?_eq_none (by decide)]
  simp

/-- A backslash and the character behind it do not count. -/
theorem closingBracket?_of_backslash (remaining : cursor.rest = '\\' :: rest) :
    cursor.closingBracket? depth = (cursor.advance 2).closingBracket? depth := by
  apply closingBracket?_advance
  rw [remaining, closingDistance?]
  cases rest <;> simp [closingDistance?]

/-- A character that is no bracket and no backslash, and starts no three quotes, does not count. -/
theorem closingBracket?_of_uncounted
    (remaining : cursor.rest = first :: rest)
    (uncounted : IsUncounted first)
    (noQuotes : ¬ escapeQuotes <+: cursor.rest) :
    cursor.closingBracket? depth = (cursor.advance 1).closingBracket? depth := by
  obtain ⟨notOpening, notClosing, notBackslash⟩ := uncounted
  have notQuoted : quotedLengthAfter? first rest = none := by
    have noPrefix : escapeQuotes.isPrefixOf (first :: rest) = false := by
      rw [Bool.eq_false_iff, ← remaining]
      exact fun quoted => noQuotes (List.isPrefixOf_iff_prefix.mp quoted)
    simp [quotedLengthAfter?, noPrefix]
  apply closingBracket?_advance
  rw [remaining, closingDistance?, notQuoted]
  simp [notOpening, notClosing, notBackslash]

/-- What is passed through between quotes does not count. -/
theorem exists_advance_of_rawEscape?
    {content : String}
    (read : cursor.rawEscape? = some (content, next)) :
    ∃ count,
      next = cursor.advance (count + 1) ∧
        ∀ depth, cursor.closingBracket? depth = next.closingBracket? depth := by
  unfold rawEscape? at read
  split at read
  next quoted =>
    obtain ⟨length, found, opened⟩ := Option.map_eq_some_iff.mp read
    obtain ⟨_, rfl⟩ := Prod.mk.inj opened
    obtain ⟨behind, remaining⟩ := List.isPrefixOf_iff_prefix.mp quoted
    have shape : cursor.rest = singleQuote :: singleQuote :: singleQuote :: behind :=
      remaining.symm
    rw [shape] at found quoted
    have passed :
        quotedLengthAfter? singleQuote (singleQuote :: singleQuote :: behind) =
          some (length + 5) := by
      have found : distanceToQuotes? behind = some length := found
      simp [quotedLengthAfter?, quoted, found]
    refine ⟨length + 5, rfl, fun depth => closingBracket?_advance ?_⟩
    rw [shape, closingDistance?, passed]
    rfl
  next => simp at read

/-- Three quotes without a partner do not count either. -/
theorem closingBracket?_of_unpaired
    (remaining : cursor.rest = singleQuote :: rest)
    (notRead : cursor.rawEscape? = none) :
    cursor.closingBracket? depth = (cursor.advance 1).closingBracket? depth := by
  have notPassed : quotedLengthAfter? singleQuote rest = none := by
    rw [quotedLengthAfter?, ← remaining]
    split
    next quoted =>
      have notFound : distanceToQuotes? (cursor.rest.drop 3) = none := by
        simpa [rawEscape?, quoted] using notRead
      have noPartner : distanceToQuotes? (rest.drop 2) = none := by
        simpa [remaining] using notFound
      rw [noPartner]
      rfl
    next => rfl
  apply closingBracket?_advance
  rw [remaining, closingDistance?, notPassed]
  simp [singleQuote]

/-! ## Where the count goes on -/

/-- A place further on in the same text, from which the same brackets are found as from here. -/
structure Passes (cursor next : Cursor) : Prop where
  source : next.source = cursor.source
  offset : cursor.offset ≤ next.offset
  closing : ∀ depth, cursor.closingBracket? depth = next.closingBracket? depth

/-- Characters that do not count among brackets, where no three quotes stand together. -/
structure IsUncountedText (text : List Char) : Prop where
  uncounted : ∀ character ∈ text, IsUncounted character
  noQuotes : ¬ escapeQuotes <:+: text

namespace Passes

variable {last : Cursor} {text : List Char}

/-- The count goes on here. -/
theorem refl (cursor : Cursor) : cursor.Passes cursor :=
  ⟨rfl, Nat.le_refl _, fun _ => rfl⟩

/-- The count goes on from place to place. -/
theorem trans (first : cursor.Passes next) (second : next.Passes last) : cursor.Passes last where
  source := second.source.trans first.source
  offset := Nat.le_trans first.offset second.offset
  closing depth := (first.closing depth).trans (second.closing depth)

/-- The count goes on some characters further, if it does so at all depths. -/
theorem of_advance
    {count : Nat}
    (closing :
      ∀ depth, cursor.closingBracket? depth = (cursor.advance count).closingBracket? depth) :
    cursor.Passes (cursor.advance count) :=
  ⟨rfl, Nat.le_add_right .., closing⟩

/-- The count goes on behind a text without brackets in which no three quotes start. -/
private theorem of_reads_of_noQuotes
    (reads : cursor.Reads text next)
    (uncounted : ∀ character ∈ text, IsUncounted character)
    (noQuotes : ∀ part, part <:+ text → part ≠ [] → ¬ escapeQuotes <+: part ++ next.rest) :
    cursor.Passes next := by
  induction text generalizing cursor with
  | nil =>
      rw [reads.unique (.nil cursor)]
      exact refl cursor
  | cons first others inductionHypothesis =>
      rw [List.forall_mem_cons] at uncounted
      have remaining : cursor.rest = first :: (others ++ next.rest) := reads.rest_eq
      have noPrefix : ¬ escapeQuotes <+: cursor.rest := by
        rw [remaining]
        exact noQuotes _ (List.suffix_refl _) (List.cons_ne_nil _ _)
      refine .trans (of_advance fun _ => ?_)
        (inductionHypothesis reads.tail uncounted.2 fun part isPart =>
          noQuotes part (isPart.trans (List.suffix_cons first others)))
      exact closingBracket?_of_uncounted remaining uncounted.1 noPrefix

/-- The count goes on behind a text without brackets and quotes. -/
theorem of_reads
    (reads : cursor.Reads text next)
    (uncounted : ∀ character ∈ text, IsUncounted character ∧ character ≠ singleQuote) :
    cursor.Passes next := by
  refine of_reads_of_noQuotes reads (fun character isIn => (uncounted character isIn).1) ?_
  rintro (_ | ⟨first, others⟩) isPart notEmpty quoted
  · exact notEmpty rfl
  · have isQuote := (List.cons_prefix_cons.mp quoted).1
    exact (uncounted first (isPart.subset List.mem_cons_self)).2 isQuote.symm

/-- The count goes on behind a text without brackets, unless quotes go on behind it. -/
theorem of_readsUncounted
    (reads : cursor.Reads text next)
    (isUncounted : IsUncountedText text)
    (noQuote : next.rest.head? ≠ some singleQuote) :
    cursor.Passes next := by
  refine of_reads_of_noQuotes reads isUncounted.uncounted ?_
  intro part isPart _ quoted
  apply isUncounted.noQuotes
  refine List.IsInfix.trans ?_ isPart.isInfix
  cases behind : next.rest with
  | nil =>
      rw [behind, List.append_nil] at quoted
      exact quoted.isInfix
  | cons following rest =>
      rw [behind] at quoted noQuote
      have otherCharacter : following ≠ singleQuote := by simpa using noQuote
      exact
        (escapeQuotes_isPrefixOf otherCharacter
          (List.isPrefixOf_iff_prefix.mpr quoted)).isInfix

end Passes

/-- A count meets the end, a bracket that opens or closes, or something that it passes. -/
theorem closingBracket?_cases (cursor : Cursor) :
    cursor.rest = [] ∨ (∃ rest, cursor.rest = '[' :: rest) ∨ (∃ rest, cursor.rest = ']' :: rest) ∨
      ∃ next, cursor.Passes next ∧ next.rest.length < cursor.rest.length := by
  cases remaining : cursor.rest with
  | nil =>
      exact .inl rfl
  | cons first rest =>
      have isShorter (count : Nat) :
          (cursor.advance (count + 1)).rest.length < (first :: rest).length := by
        rw [rest_advance, remaining, List.length_drop, List.length_cons]
        omega
      by_cases isOpening : first = '['
      · exact .inr (.inl ⟨rest, by rw [isOpening]⟩)
      by_cases isClosing : first = ']'
      · exact .inr (.inr (.inl ⟨rest, by rw [isClosing]⟩))
      refine .inr (.inr (.inr ?_))
      by_cases isBackslash : first = '\\'
      · subst isBackslash
        exact ⟨_, .of_advance fun _ => closingBracket?_of_backslash remaining, isShorter 1⟩
      by_cases isQuote : first = singleQuote
      · subst isQuote
        cases read : cursor.rawEscape? with
        | none =>
            exact ⟨_, .of_advance fun _ => closingBracket?_of_unpaired remaining read, isShorter 0⟩
        | some found =>
            obtain ⟨count, isNext, closing⟩ := exists_advance_of_rawEscape? read
            rw [isNext] at closing
            exact ⟨_, .of_advance closing, isShorter count⟩
      · have noQuotes : ¬ escapeQuotes <+: cursor.rest := by
          rw [remaining]
          intro quoted
          exact isQuote (List.cons_prefix_cons.mp quoted).1.symm
        exact
          ⟨_,
            .of_advance fun _ =>
              closingBracket?_of_uncounted remaining ⟨isOpening, isClosing, isBackslash⟩ noQuotes,
            isShorter 0⟩

/-- Brackets inside are closed first, and those around them from there on. -/
theorem closingBracket?_add (cursor : Cursor) (inner outer : Nat) :
    cursor.closingBracket? (inner + (outer + 1)) =
      (cursor.closingBracket? inner).bind fun atBracket =>
        (atBracket.advance 1).closingBracket? outer := by
  induction length : cursor.rest.length using Nat.strongRecOn generalizing cursor inner with
  | ind length inductionHypothesis =>
      subst length
      obtain atEnd | ⟨rest, opens⟩ | ⟨rest, closes⟩ | ⟨next, passes, isShorter⟩ :=
        cursor.closingBracket?_cases
      · rw [closingBracket?_of_end atEnd, closingBracket?_of_end atEnd]
        rfl
      · have isShorter : (cursor.advance 1).rest.length < cursor.rest.length := by
          simp [opens]
        rw [closingBracket?_of_opening opens, closingBracket?_of_opening opens,
          Nat.add_right_comm, inductionHypothesis _ isShorter _ _ rfl]
      · cases inner with
        | zero =>
            rw [Nat.zero_add, closingBracket?_of_closing closes,
              closingBracket?_of_closing_succ closes]
            rfl
        | succ fewer =>
            have isShorter : (cursor.advance 1).rest.length < cursor.rest.length := by
              simp [closes]
            rw [Nat.add_right_comm, closingBracket?_of_closing_succ closes,
              closingBracket?_of_closing_succ closes, inductionHypothesis _ isShorter _ _ rfl]
      · rw [passes.closing, passes.closing, inductionHypothesis _ isShorter _ _ rfl]

/-- What is found by counting is a bracket that closes. -/
theorem exists_rest_of_closingBracket?
    {cursor : Cursor}
    {depth : Nat}
    (closes : cursor.closingBracket? depth = some atBracket) :
    ∃ rest, atBracket.rest = ']' :: rest := by
  induction length : cursor.rest.length using Nat.strongRecOn generalizing cursor depth with
  | ind length inductionHypothesis =>
      subst length
      obtain atEnd | ⟨rest, opens⟩ | ⟨rest, here⟩ | ⟨next, passes, isShorter⟩ :=
        cursor.closingBracket?_cases
      · rw [closingBracket?_of_end atEnd] at closes
        cases closes
      · rw [closingBracket?_of_opening opens] at closes
        exact inductionHypothesis _ (by simp [opens]) closes rfl
      · cases depth with
        | zero =>
            rw [closingBracket?_of_closing here] at closes
            obtain rfl := Option.some.inj closes
            exact ⟨rest, here⟩
        | succ fewer =>
            rw [closingBracket?_of_closing_succ here] at closes
            exact inductionHypothesis _ (by simp [here]) closes rfl
      · rw [passes.closing] at closes
        exact inductionHypothesis _ isShorter closes rfl

/-! ## Readers -/

/-- A fixed text that was read comes next. -/
theorem reads_of_literal?
    {expected : String}
    (read : cursor.literal? expected = some next) :
    cursor.Reads expected.toList next := by
  unfold literal? at read
  split at read
  next isFront =>
    obtain ⟨behind, remaining⟩ := List.isPrefixOf_iff_prefix.mp isFront
    obtain rfl := Option.some.inj read
    rw [← String.length_toList]
    exact .of_rest remaining.symm
  next => simp at read

/-- What is skipped comes next, and does not go on. -/
theorem reads_skip (cursor : Cursor) (belongs : Char → Bool) :
    cursor.Reads (cursor.run belongs) (cursor.skip belongs) ∧
      Stops belongs (cursor.skip belongs).rest := by
  obtain ⟨front, behind, remaining, isRun, stops⟩ := exists_run belongs cursor.rest
  have isFront : cursor.run belongs = front := by
    rw [run, remaining, takeWhile_run isRun stops]
  have reads : cursor.Reads front (cursor.skip belongs) := by
    rw [skip, isFront]
    exact .of_rest remaining
  rw [isFront]
  exact ⟨reads, by rwa [reads.rest_of remaining]⟩

/-- A run of characters that was read comes next, and does not go on. -/
theorem reads_of_runOf?
    {belongs : Char → Bool}
    {text : String}
    (read : cursor.runOf? belongs = some (text, next)) :
    cursor.Reads text.toList next ∧ text.toList.all belongs = true ∧ Stops belongs next.rest := by
  obtain ⟨reads, stops⟩ := cursor.reads_skip belongs
  unfold runOf? at read
  simp only at read
  split at read
  · simp at read
  · obtain ⟨rfl, rfl⟩ := Prod.mk.inj (Option.some.inj read)
    rw [String.toList_ofList]
    exact ⟨reads, List.all_takeWhile, stops⟩

/-- A character that was read comes next. -/
theorem reads_of_character?
    {expected : Char}
    (read : cursor.character? expected = some next) :
    cursor.Reads [expected] next := by
  unfold character? at read
  split at read
  next isNext =>
    obtain ⟨rest, remaining⟩ := List.head?_eq_some_iff.mp (beq_iff_eq.mp isNext)
    obtain rfl := Option.some.inj read
    exact .of_cons remaining
  next => simp at read

/-- A name is read where it starts. -/
theorem reads_of_name?
    {word : String}
    (read : cursor.name? = some (word, next)) :
    cursor.Reads word.toList next ∧
      ∃ first rest,
        cursor.rest = first :: rest ∧
          isNameStart first = true ∧
            word.toList = first :: rest.takeWhile isNameCharacter := by
  unfold name? at read
  split at read
  next first rest remaining =>
    split at read
    next starts =>
      obtain ⟨rfl, rfl⟩ := Prod.mk.inj (Option.some.inj read)
      have split :
          cursor.rest =
            (first :: rest.takeWhile isNameCharacter) ++ rest.dropWhile isNameCharacter := by
        rw [remaining, List.cons_append, List.takeWhile_append_dropWhile]
      rw [String.toList_ofList]
      exact ⟨.of_rest split, first, rest, remaining, starts, rfl⟩
    next => simp at read
  next => simp at read

/-- It stands in the text. -/
theorem infix_of_name?
    {word : String}
    (read : cursor.name? = some (word, next)) :
    word.toList <:+: cursor.rest := by
  rw [(reads_of_name? read).1.rest_eq]
  exact (List.prefix_append _ _).isInfix

/-- The characters of names are neither brackets nor quotes. -/
theorem isUncounted_of_isNameCharacter
    {character : Char}
    (isOfName : isNameCharacter character = true) :
    IsUncounted character ∧ character ≠ singleQuote := by
  refine ⟨⟨?_, ?_, ?_⟩, ?_⟩ <;> rintro rfl <;> simp [isNameCharacter, singleQuote] at isOfName

/-- The characters of a name that starts here are neither brackets nor quotes. -/
theorem areUncounted_of_isNameStart
    (isStart : isNameStart first = true) :
    ∀ character ∈ first :: rest.takeWhile isNameCharacter,
      IsUncounted character ∧ character ≠ singleQuote := by
  rw [List.forall_mem_cons]
  refine ⟨isUncounted_of_isNameCharacter (isNameCharacter_of_isNameStart isStart),
    fun character isIn => ?_⟩
  exact isUncounted_of_isNameCharacter
    (List.all_eq_true.mp List.all_takeWhile character isIn)

namespace Passes

/-- Behind the bracket that opens a construct, the count goes on behind its keyword. -/
theorem literal?
    {keyword : String}
    (word : List Char)
    (isOpened : keyword.toList = '[' :: word)
    (uncounted :
      (word.all fun character => decide (IsUncounted character ∧ character ≠ singleQuote)) = true)
    (read : cursor.literal? keyword = some next) :
    (cursor.advance 1).Passes next := by
  have reads := reads_of_literal? read
  rw [isOpened] at reads
  refine .of_reads reads.tail fun character isIn => ?_
  exact of_decide_eq_true (List.all_eq_true.mp uncounted character isIn)

/-- The count goes on behind skipped characters that are neither brackets nor quotes. -/
theorem skip
    {belongs : Char → Bool}
    (uncounted :
      ∀ character, belongs character = true → IsUncounted character ∧ character ≠ singleQuote)
    (passes : cursor.Passes next) :
    cursor.Passes (next.skip belongs) := by
  refine passes.trans (.of_reads (next.reads_skip belongs).1 fun character isIn => ?_)
  exact uncounted character (List.all_eq_true.mp List.all_takeWhile character isIn)

/-- White space is neither a bracket nor a quote. -/
theorem skipBlank (passes : cursor.Passes next) : cursor.Passes next.skipBlank :=
  passes.skip fun _ => isUncounted_of_isBlank

/-- Nor are spaces and tabs. -/
theorem skipHorizontal (passes : cursor.Passes next) : cursor.Passes next.skipHorizontal :=
  passes.skip fun character isSpace =>
    isUncounted_of_isBlank (isBlank_of_isHorizontal character isSpace)

/-- The count goes on behind a name. -/
theorem name?
    {name : String}
    (passes : cursor.Passes next)
    {last : Cursor}
    (read : next.name? = some (name, last)) :
    cursor.Passes last := by
  obtain ⟨reads, first, rest, _, isStart, isName⟩ := reads_of_name? read
  rw [isName] at reads
  exact passes.trans (.of_reads reads (areUncounted_of_isNameStart isStart))

/-- Behind the bracket that opens a template call, the count goes on behind its name. -/
theorem templateCall?
    {name : String}
    (read : cursor.templateCall? = some (name, next)) :
    (cursor.advance 1).Passes next := by
  unfold Cursor.templateCall? at read
  split at read
  next content remaining =>
    obtain ⟨found, called, shape⟩ := Option.map_eq_some_iff.mp read
    obtain ⟨rfl, rfl⟩ := Prod.mk.inj shape
    unfold calledName? at called
    split at called
    next first rest =>
      simp only at called
      split at called
      next follows =>
        split at called
        next isName =>
          obtain rfl := Option.some.inj called
          rw [Bool.and_eq_true] at isName
          have split :
              (cursor.advance 1).rest =
                (first :: rest.takeWhile isNameCharacter) ++ rest.dropWhile isNameCharacter := by
            simp [remaining, List.takeWhile_append_dropWhile]
          have passes :=
            of_reads (.of_rest split) (areUncounted_of_isNameStart isName.1)
          rw [advance_advance, Nat.add_comm] at passes
          rwa [String.length_ofList]
        next => simp at called
      next => simp at called
    next => simp at called
  next => simp at read

end Passes

/-! ## Where the count leads -/

/-- Something ends behind the bracket that is found by counting from a cursor on. -/
def ClosesBehind (cursor next : Cursor) : Prop :=
  ∃ atBracket, cursor.closingBracket? 0 = some atBracket ∧ next = atBracket.advance 1

namespace ClosesBehind

/-- The bracket that is found is read. -/
theorem of_closingBracket?
    (found : cursor.closingBracket? 0 = some atBracket)
    (read : atBracket.close? = some next) :
    cursor.ClosesBehind next :=
  ⟨atBracket, found, (reads_of_character? read).advance_eq.symm⟩

/-- A bracket that comes next is the one that is found. -/
theorem of_close? (read : cursor.close? = some next) : cursor.ClosesBehind next :=
  .of_closingBracket? (closingBracket?_of_closing (reads_of_character? read).rest_eq) read

/-- What is read up to and through a bracket ends there. -/
theorem of_balancedThrough?
    {content : String}
    (read : cursor.balancedThrough? = some (content, next)) :
    cursor.ClosesBehind next := by
  unfold balancedThrough? at read
  split at read
  next => simp at read
  next text atBracket balanced =>
    obtain ⟨after, closes, shape⟩ := Option.map_eq_some_iff.mp read
    obtain ⟨_, rfl⟩ := Prod.mk.inj shape
    exact .of_closingBracket? (closingBracket?_of_balanced? balanced) closes

/-- The count goes on to the same bracket from a later place. -/
theorem of_passes
    {later : Cursor}
    (passes : cursor.Passes later)
    (closes : later.ClosesBehind next) :
    cursor.ClosesBehind next := by
  obtain ⟨atBracket, found, rfl⟩ := closes
  exact ⟨atBracket, (passes.closing 0).trans found, rfl⟩

end ClosesBehind

/-- Without a bracket to be found, nothing can be read up to one. -/
theorem closingBracket?_eq_none (notRead : cursor.balanced? = none) :
    cursor.closingBracket? 0 = none := by
  simpa [balanced?, closingBracket?] using notRead

/-- The count from a cursor on is the one from a later cursor on, with other brackets open there. -/
structure CountsOn (depth laterDepth : Nat) (cursor next : Cursor) : Prop where
  source : next.source = cursor.source
  offset : cursor.offset ≤ next.offset
  closing : cursor.closingBracket? depth = next.closingBracket? laterDepth

/-- Where the count passes, it goes on with the same brackets open. -/
theorem Passes.countsOn (passes : cursor.Passes next) (depth : Nat) :
    CountsOn depth depth cursor next :=
  ⟨passes.source, passes.offset, passes.closing depth⟩

/-- Some characters further on, other brackets may be open. -/
theorem CountsOn.of_advance
    {count laterDepth : Nat}
    (closing :
      cursor.closingBracket? depth = (cursor.advance count).closingBracket? laterDepth) :
    CountsOn depth laterDepth cursor (cursor.advance count) :=
  ⟨rfl, Nat.le_add_right .., closing⟩

/-- Behind a bracket that opens, the count goes on from behind the one that closes it. -/
theorem CountsOn.of_enclosed
    (remaining : cursor.rest = '[' :: rest)
    (closes : (cursor.advance 1).ClosesBehind next) :
    CountsOn depth depth cursor next := by
  obtain ⟨atBracket, found, rfl⟩ := closes
  obtain ⟨sameSource, notBefore⟩ := offset_le_of_closingBracket? found
  refine ⟨sameSource, ?_, ?_⟩
  · exact Nat.le_trans (Nat.le_add_right ..) (Nat.le_trans notBefore (Nat.le_add_right ..))
  · rw [closingBracket?_of_opening remaining, ← Nat.zero_add (depth + 1), closingBracket?_add,
      found, Option.bind_some]

end Cursor

end DocMarkup
