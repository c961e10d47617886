import DocMarkup.Bracket
import DocMarkup.Proofs.Markup.Attribute

namespace DocMarkup

/-!
# Reading what is known to come next

Text that was written is known, so what a reader does with it can be told: a
text comes next at a cursor and leads to another one. Readers of fixed texts, of
runs of characters and of brackets then go from the one cursor to the other, and
fixed texts that differ from what comes next are not read.
-/

namespace Text

/-- Two texts have different characters at some place that both of them have. -/
def Differ (first second : List Char) : Prop :=
  (first.zip second).any (fun pair => pair.1 != pair.2) = true

instance (first second : List Char) : Decidable (Differ first second) :=
  inferInstanceAs (Decidable (_ = true))

/-- A text is not at the front of one that starts with a text that differs from it. -/
theorem Differ.isPrefixOf_eq_false
    {first second : List Char}
    (differ : Differ first second)
    (behind : List Char) :
    first.isPrefixOf (second ++ behind) = false := by
  unfold Differ at differ
  induction first generalizing second with
  | nil =>
      simp at differ
  | cons character others inductionHypothesis =>
      cases second with
      | nil =>
          simp at differ
      | cons other rest =>
          simp only [List.zip_cons_cons, List.any_cons, Bool.or_eq_true, bne_iff_ne] at differ
          rw [List.cons_append, List.isPrefixOf, Bool.and_eq_false_iff]
          obtain here | later := differ
          · exact .inl (beq_eq_false_iff_ne.mpr here)
          · exact .inr (inductionHypothesis later)

/-- Behind a run of which the end is known, there is what follows it. -/
theorem dropWhile_run
    {belongs : Char → Bool}
    {front behind : List Char}
    (isRun : front.all belongs = true)
    (stops : Stops belongs behind) :
    (front ++ behind).dropWhile belongs = behind := by
  have split :=
    List.takeWhile_append_dropWhile (p := belongs) (l := front ++ behind)
  rw [takeWhile_run isRun stops] at split
  exact List.append_cancel_left split

/-- A text stops where another one stops that it starts with. -/
theorem Stops.append
    {belongs : Char → Bool}
    {front : List Char}
    (stops : Stops belongs front)
    (notEmpty : front ≠ [])
    (behind : List Char) :
    Stops belongs (front ++ behind) := by
  cases front with
  | nil =>
      exact (notEmpty rfl).elim
  | cons first rest =>
      cases same : belongs first with
      | true =>
          simp [Stops, same] at stops
      | false =>
          exact .cons same _

/-- Two texts that stop do so together, also where there is nothing in the first. -/
theorem Stops.append_stops
    {belongs : Char → Bool}
    {front behind : List Char}
    (stops : Stops belongs front)
    (behindStops : Stops belongs behind) :
    Stops belongs (front ++ behind) := by
  cases front with
  | nil =>
      exact behindStops
  | cons first rest =>
      exact stops.append (List.cons_ne_nil first rest) behind

/-- Where a text stops, so does what it starts with. -/
theorem Stops.takeWhile
    {belongs : Char → Bool}
    {text : List Char}
    (stops : Stops belongs text)
    (kept : Char → Bool) :
    Stops belongs (text.takeWhile kept) := by
  cases text with
  | nil =>
      exact stops
  | cons first rest =>
      have other : belongs first = false := by
        simpa [Stops, List.takeWhile_cons] using stops
      rw [List.takeWhile_cons]
      split
      · exact .cons other _
      · rfl

/-- Spaces and tabs are white space. -/
theorem isBlank_of_isHorizontal
    (character : Char)
    (horizontal : isHorizontal character = true) :
    isBlank character = true := by
  simp only [isHorizontal, Bool.or_eq_true, beq_iff_eq] at horizontal
  obtain rfl | rfl := horizontal <;> decide

/-- Every character of a text with a backslash before it. -/
def backslashed (characters : List Char) : List Char :=
  characters.flatMap fun character => ['\\', character]

@[simp] theorem backslashed_nil : backslashed [] = [] :=
  rfl

@[simp] theorem backslashed_cons (first : Char) (rest : List Char) :
    backslashed (first :: rest) = '\\' :: first :: backslashed rest :=
  rfl

theorem length_backslashed (characters : List Char) :
    (backslashed characters).length = 2 * characters.length := by
  induction characters with
  | nil =>
      rfl
  | cons first rest inductionHypothesis =>
      simp [inductionHypothesis, Nat.mul_add]

end Text

/-- At the front of a source, all of its text remains. -/
theorem Source.rest_cursor (source : Source) : source.cursor.rest = source.text.toList :=
  rfl

namespace Cursor

open Text

/-- A cursor is known by its source and its offset. -/
theorem eq_of_offset
    {first second : Cursor}
    (sameSource : first.source = second.source)
    (sameOffset : first.offset = second.offset) :
    first = second := by
  obtain ⟨source, offset, before, rest, rfl, rfl⟩ := first
  obtain ⟨otherSource, otherOffset, otherBefore, otherRest, rfl, rfl⟩ := second
  cases sameSource
  cases sameOffset
  rfl

instance : DecidableEq Cursor := fun first second =>
  decidable_of_iff (first.source = second.source ∧ first.offset = second.offset)
    ⟨fun same => eq_of_offset same.1 same.2, fun same => same ▸ ⟨rfl, rfl⟩⟩

/-- A text comes next at a cursor, and another cursor is the one after it. -/
structure Reads (cursor : Cursor) (text : List Char) (next : Cursor) : Prop where
  advance_eq : cursor.advance text.length = next
  rest_eq : cursor.rest = text ++ next.rest

namespace Reads

variable {cursor middle next : Cursor} {text front behind : List Char}

/-- What remains at a cursor tells what it reads. -/
theorem of_rest (remaining : cursor.rest = text ++ behind) :
    cursor.Reads text (cursor.advance text.length) where
  advance_eq := rfl
  rest_eq := by rw [rest_advance, remaining, List.drop_left]

/-- What remains after a text is what came after it. -/
theorem rest_of
    (reads : cursor.Reads text next)
    (remaining : cursor.rest = text ++ behind) :
    next.rest = behind :=
  List.append_cancel_left (reads.rest_eq.symm.trans remaining)

/-- Nothing leads nowhere. -/
theorem nil (cursor : Cursor) : cursor.Reads [] cursor where
  advance_eq := eq_of_offset rfl (by simp [advance])
  rest_eq := rfl

/-- A text leads to a cursor in the same source. -/
theorem source (reads : cursor.Reads text next) : next.source = cursor.source := by
  rw [← reads.advance_eq, source_advance]

/-- A text leads as many characters further as it has. -/
theorem offset (reads : cursor.Reads text next) :
    next.offset = cursor.offset + text.length := by
  have remaining := reads.rest_eq
  rw [← reads.advance_eq]
  simp [advance, remaining]

/-- What was read stands before the cursor after it. -/
theorem before (reads : cursor.Reads text next) :
    next.before = text.reverse ++ cursor.before := by
  have remaining := reads.rest_eq
  rw [← reads.advance_eq]
  simp [advance, remaining]

/-- The text of a source leads from its front to its end. -/
theorem whole (source : Source) :
    source.cursor.Reads source.text.toList (source.cursorAt source.text.length) := by
  have remaining : source.cursor.rest = source.text.toList ++ [] := by
    rw [source.rest_cursor, List.append_nil]
  have reads := of_rest remaining
  have same :
      source.cursor.advance source.text.toList.length = source.cursorAt source.text.length :=
    eq_of_offset rfl
      (by rw [reads.offset, String.length_toList]; simp [Source.cursor, Source.cursorAt])
  rw [same] at reads
  exact reads

/-- Nothing remains at the end of a source. -/
theorem rest_end (source : Source) : (source.cursorAt source.text.length).rest = [] :=
  (whole source).rest_of (by rw [source.rest_cursor, List.append_nil])

/-- The text after a text leads there with all of it. -/
theorem append
    (first : cursor.Reads front middle)
    (second : middle.Reads behind next) :
    cursor.Reads (front ++ behind) next := by
  have remaining : cursor.rest = (front ++ behind) ++ next.rest := by
    rw [first.rest_eq, second.rest_eq, List.append_assoc]
  refine ⟨eq_of_offset ?_ ?_, remaining⟩
  · rw [source_advance, second.source, first.source]
  · rw [(of_rest remaining).offset, second.offset, first.offset, List.length_append,
      Nat.add_assoc]

/-- A text of two parts is read part by part. -/
theorem split (reads : cursor.Reads (front ++ behind) next) :
    ∃ middle, cursor.Reads front middle ∧ middle.Reads behind next := by
  have toMiddle : cursor.Reads front (cursor.advance front.length) :=
    .of_rest (by rw [reads.rest_eq, List.append_assoc])
  have remaining : (cursor.advance front.length).rest = behind ++ next.rest :=
    toMiddle.rest_of (by rw [reads.rest_eq, List.append_assoc])
  have toNext := of_rest remaining
  have same := (toMiddle.append toNext).advance_eq.symm.trans reads.advance_eq
  rw [same] at toNext
  exact ⟨_, toMiddle, toNext⟩

/-- A single character comes next. -/
theorem of_cons
    {first : Char}
    (remaining : cursor.rest = first :: behind) :
    cursor.Reads [first] (cursor.advance 1) :=
  of_rest (show cursor.rest = [first] ++ behind from remaining)

/-- Behind its first character, the others of a text are read. -/
theorem tail
    {first : Char}
    (reads : cursor.Reads (first :: behind) next) :
    (cursor.advance 1).Reads behind next := by
  have reads : cursor.Reads ([first] ++ behind) next := reads
  obtain ⟨middle, readsFirst, readsOthers⟩ := reads.split
  rwa [← show cursor.advance 1 = middle from readsFirst.advance_eq] at readsOthers

/-- A text leads to one cursor only. -/
theorem unique
    {other : Cursor}
    (reads : cursor.Reads text next)
    (readsOther : cursor.Reads text other) :
    next = other :=
  reads.advance_eq.symm.trans readsOther.advance_eq

/-- After a line feed there is the start of a line. -/
theorem isAtLineStart (reads : cursor.Reads ['\n'] next) : next.isAtLineStart = true := by
  have previous : next.previous? = some '\n' := by
    rw [previous?, reads.before]
    rfl
  simp [Cursor.isAtLineStart, previous]

/-! ## Fixed texts -/

/-- A fixed text that comes next is read. -/
theorem literal?_eq
    {expected : String}
    (reads : cursor.Reads expected.toList next) :
    cursor.literal? expected = some next := by
  have isFront : expected.toList.isPrefixOf cursor.rest = true := by
    rw [reads.rest_eq]
    exact List.isPrefixOf_iff_prefix.mpr (List.prefix_append _ _)
  simp only [literal?, isFront, ↓reduceIte, Option.some.injEq]
  exact reads.advance_eq

/-- A fixed text is not read where something else comes next. -/
theorem literal?_eq_none
    {expected : String}
    (reads : cursor.Reads text next)
    (differ : Differ expected.toList text) :
    cursor.literal? expected = none := by
  simp [literal?, reads.rest_eq, differ.isPrefixOf_eq_false]

/-- A character that comes next is read. -/
theorem character?_eq
    {expected : Char}
    (reads : cursor.Reads [expected] next) :
    cursor.character? expected = some next := by
  have isNext : cursor.isBefore expected = true := by
    simp [isBefore, reads.rest_eq]
  simp only [character?, isNext, ↓reduceIte, Option.some.injEq]
  exact reads.advance_eq

/-- A closing bracket that comes next is read. -/
theorem close?_eq (reads : cursor.Reads [']'] next) : cursor.close? = some next :=
  reads.character?_eq

/-- A keyword that comes next and ends there is read. -/
theorem keyword?_eq
    {expected : String}
    (reads : cursor.Reads expected.toList next)
    (ends : next.isAfterKeyword = true) :
    cursor.keyword? expected = some next := by
  simp [keyword?, reads.literal?_eq, ends]

/-- A keyword is not read where something else comes next. -/
theorem keyword?_eq_none
    {expected : String}
    (reads : cursor.Reads text next)
    (differ : Differ expected.toList text) :
    cursor.keyword? expected = none := by
  simp [keyword?, reads.literal?_eq_none differ]

/-! ## Runs of characters -/

/-- Skipping goes to the end of a run. -/
theorem skip_eq
    {belongs : Char → Bool}
    (reads : cursor.Reads text next)
    (isRun : text.all belongs = true)
    (stops : Stops belongs next.rest) :
    cursor.skip belongs = next := by
  rw [skip, run, reads.rest_eq, takeWhile_run isRun stops]
  exact reads.advance_eq

/-- A run of characters is read up to its end. -/
theorem runOf?_eq
    {belongs : Char → Bool}
    (reads : cursor.Reads text next)
    (isRun : text.all belongs = true)
    (stops : Stops belongs next.rest)
    (notEmpty : text ≠ []) :
    cursor.runOf? belongs = some (String.ofList text, next) := by
  have isFront : cursor.run belongs = text := by
    rw [run, reads.rest_eq, takeWhile_run isRun stops]
  simp only [runOf?, isFront, List.isEmpty_iff, notEmpty, ↓reduceIte, Option.some.injEq,
    Prod.mk.injEq, true_and]
  exact reads.advance_eq

/-- The rest of a line with nothing but blanks on it is read through its line feed. -/
theorem lineEnd?_of_blanks
    (areBlanks : text.all isHorizontal = true)
    (reads : cursor.Reads (text ++ ['\n']) next) :
    cursor.lineEnd? = some next := by
  obtain ⟨atLineFeed, readsBlanks, readsLineFeed⟩ := reads.split
  have afterBlanks : cursor.skipHorizontal = atLineFeed := by
    refine readsBlanks.skip_eq areBlanks ?_
    rw [readsLineFeed.rest_eq]
    exact .cons rfl _
  have notAtEnd : atLineFeed.isAtEnd = false := by
    simp [isAtEnd, readsLineFeed.rest_eq]
  simp [lineEnd?, afterBlanks, notAtEnd, readsLineFeed.character?_eq]

/-- The rest of a line without anything on it is read through its line feed. -/
theorem lineEnd?_eq (reads : cursor.Reads ['\n'] next) : cursor.lineEnd? = some next :=
  lineEnd?_of_blanks List.all_nil reads

/-- A line with nothing but blanks on it is a blank line. -/
theorem blankLine?_of_blanks
    (areBlanks : text.all isHorizontal = true)
    (reads : cursor.Reads (text ++ ['\n']) next) :
    cursor.blankLine? = some next := by
  have notAtEnd : cursor.isAtEnd = false := by
    simp [isAtEnd, reads.rest_eq]
  simp [blankLine?, notAtEnd, lineEnd?_of_blanks areBlanks reads]

/-- What remains of a line starts with what is read on it. -/
theorem restOfLine_eq
    (reads : cursor.Reads text next)
    (noLineFeed : '\n' ∉ text) :
    cursor.restOfLine = text ++ next.restOfLine := by
  rw [restOfLine, reads.rest_eq, List.takeWhile_append_of_pos]
  · rfl
  · intro character isRead
    simpa using ne_of_mem_of_not_mem isRead noLineFeed

/-- Behind some characters, less remains. -/
theorem length_rest_lt
    (reads : cursor.Reads text next)
    (notEmpty : text ≠ []) :
    next.rest.length < cursor.rest.length := by
  have isRead := List.length_pos_iff.mpr notEmpty
  rw [reads.rest_eq, List.length_append]
  omega

end Reads

section Stopping

variable {cursor : Cursor} {belongs : Char → Bool}

/-- Where no character of a kind comes next, none is skipped. -/
theorem skip_eq_self (stops : Stops belongs cursor.rest) : cursor.skip belongs = cursor :=
  (Reads.nil cursor).skip_eq rfl stops

/-- Where another character comes next, the given one is not read. -/
theorem character?_eq_none
    {expected : Char}
    (other : cursor.rest.head? ≠ some expected) :
    cursor.character? expected = none := by
  simp [character?, isBefore, other]

/-- Where something stands on the line, it is not blank. -/
theorem blankLine?_eq_none
    {first : Char}
    {rest : List Char}
    (remaining : cursor.rest = first :: rest)
    (notBlank : isHorizontal first = false)
    (notLineFeed : first ≠ '\n') :
    cursor.blankLine? = none := by
  have noBlanks : cursor.skipHorizontal = cursor :=
    skip_eq_self (by rw [remaining]; exact .cons notBlank _)
  have notAtEnd : cursor.isAtEnd = false := by
    simp [isAtEnd, remaining]
  have notRead : cursor.character? '\n' = none :=
    character?_eq_none (by simp [remaining, notLineFeed])
  simp [blankLine?, lineEnd?, noBlanks, notAtEnd, notRead]

end Stopping

/-! ## Brackets -/

/-- A text before a closing bracket goes on up to that bracket, whatever is behind it. -/
def IsClosedByNext (text : List Char) : Prop :=
  ∀ behind, closingDistance? 0 (text ++ ']' :: behind) = some text.length

/-- A text that is closed by the bracket behind it is read up to that bracket. -/
theorem IsClosedByNext.balanced?_eq
    {text : List Char}
    {cursor next : Cursor}
    (isClosed : IsClosedByNext text)
    (reads : cursor.Reads text next)
    (closes : next.rest.head? = some ']') :
    cursor.balanced? = some (String.ofList text, next) := by
  obtain ⟨behind, remaining⟩ := List.head?_eq_some_iff.mp closes
  have distance : closingDistance? 0 cursor.rest = some text.length := by
    rw [reads.rest_eq, remaining, isClosed]
  simp only [balanced?, distance, Option.map_some, Option.some.injEq, Prod.mk.injEq]
  exact ⟨by rw [reads.rest_eq, List.take_left], reads.advance_eq⟩

/-- A bracket closes what is open where no other bracket is. -/
private theorem closingDistance?_zero (behind : List Char) :
    closingDistance? 0 (']' :: behind) = some 0 := by
  rw [closingDistance?]
  simp [quotedLengthAfter?, escapeQuotes, singleQuote]

/-- Backslashes take the brackets behind them out of the count. -/
theorem isClosedByNext_backslashed (characters : List Char) :
    IsClosedByNext (backslashed characters) := by
  intro behind
  induction characters with
  | nil =>
      exact closingDistance?_zero behind
  | cons first rest inductionHypothesis =>
      rw [backslashed_cons, List.cons_append, List.cons_append, closingDistance?]
      simp [inductionHypothesis]

/-- Three quotes at the front of a text with another character behind it are all in the text. -/
theorem escapeQuotes_isPrefixOf
    {text behind : List Char}
    {next : Char}
    (noQuote : next ≠ singleQuote)
    (quoted : escapeQuotes.isPrefixOf (text ++ next :: behind) = true) :
    escapeQuotes <+: text := by
  have otherQuote := noQuote.symm
  match text with
  | [] => simp [escapeQuotes, List.replicate, otherQuote] at quoted
  | [_] => simp [escapeQuotes, List.replicate, otherQuote] at quoted
  | [_, _] => simp [escapeQuotes, List.replicate, otherQuote] at quoted
  | first :: second :: third :: rest =>
      simp only [escapeQuotes, List.replicate, List.cons_append, List.isPrefixOf_cons_cons,
        Bool.and_eq_true, beq_iff_eq] at quoted
      obtain ⟨rfl, rfl, rfl, _⟩ := quoted
      exact List.prefix_append escapeQuotes rest

/-- Characters that do not count among brackets, unless three quotes stand together. -/
def IsUncounted (character : Char) : Prop :=
  character ≠ '[' ∧ character ≠ ']' ∧ character ≠ '\\'

instance (character : Char) : Decidable (IsUncounted character) :=
  inferInstanceAs (Decidable (_ ∧ _))

/-- White space does not count among brackets, and is no quote. -/
theorem isUncounted_of_isBlank {character : Char} (blank : isBlank character = true) :
    IsUncounted character ∧ character ≠ singleQuote := by
  refine ⟨⟨?_, ?_, ?_⟩, ?_⟩ <;> rintro rfl <;> simp [isBlank, singleQuote] at blank

/-- A text that leaves as many brackets open as it found, whatever follows it but a quote. -/
def IsBalanced (text : List Char) : Prop :=
  ∀ depth next behind,
    next ≠ singleQuote →
    closingDistance? depth (text ++ next :: behind) =
      (closingDistance? depth (next :: behind)).map (· + text.length)

namespace IsBalanced

variable {first : Char} {text rest : List Char}

/-- Where no three quotes start, nothing is passed over. -/
private theorem quotedLengthAfter?_eq_none
    {behind : List Char}
    (noQuotes : escapeQuotes.isPrefixOf (first :: behind) = false) :
    quotedLengthAfter? first behind = none := by
  simp [quotedLengthAfter?, noQuotes]

/-- Where another character comes first, no three quotes start. -/
private theorem isPrefixOf_eq_false
    {behind : List Char}
    (noQuote : first ≠ singleQuote) :
    escapeQuotes.isPrefixOf (first :: behind) = false := by
  simp [escapeQuotes, List.replicate, List.isPrefixOf_cons_cons, noQuote.symm]

/-- No text at all is balanced. -/
theorem nil : IsBalanced [] := by
  intro depth next behind noQuote
  simp

/-- A character that does not count may stand before a balanced text. -/
theorem cons
    (uncounted : IsUncounted first)
    (noQuote : first ≠ singleQuote)
    (isBalanced : IsBalanced rest) :
    IsBalanced (first :: rest) := by
  intro depth next behind nextNoQuote
  obtain ⟨notOpening, notClosing, notBackslash⟩ := uncounted
  rw [List.cons_append, closingDistance?,
    quotedLengthAfter?_eq_none (isPrefixOf_eq_false noQuote),
    isBalanced depth next behind nextNoQuote]
  simp only [beq_iff_eq, notBackslash, notOpening, notClosing, ↓reduceIte, Option.map_map,
    List.length_cons]
  rfl

/-- Characters that do not count may stand before a balanced text. -/
theorem append_front
    {front : List Char}
    (uncounted : ∀ character ∈ front, IsUncounted character ∧ character ≠ singleQuote)
    (isBalanced : IsBalanced rest) :
    IsBalanced (front ++ rest) := by
  induction front with
  | nil =>
      exact isBalanced
  | cons first others inductionHypothesis =>
      simp only [List.forall_mem_cons] at uncounted
      exact cons uncounted.1.1 uncounted.1.2 (inductionHypothesis uncounted.2)

/-- Two balanced texts make one, if the second does not start with a quote. -/
theorem append
    (firstBalanced : IsBalanced text)
    (secondBalanced : IsBalanced rest)
    (noQuote : rest.head? ≠ some singleQuote) :
    IsBalanced (text ++ rest) := by
  cases rest with
  | nil =>
      rw [List.append_nil]
      exact firstBalanced
  | cons first others =>
      intro depth next behind nextNoQuote
      have firstNoQuote : first ≠ singleQuote := by
        simpa using noQuote
      have distance := firstBalanced depth first (others ++ next :: behind) firstNoQuote
      rw [List.append_assoc, List.cons_append, distance, ← List.cons_append,
        secondBalanced depth next behind nextNoQuote, Option.map_map, List.length_append]
      congr 1
      funext length
      simp only [Function.comp_apply]
      omega

/-- A balanced text in brackets is balanced. -/
theorem enclosed (isBalanced : IsBalanced text) : IsBalanced ('[' :: (text ++ [']'])) := by
  intro depth next behind nextNoQuote
  have notQuote : ']' ≠ singleQuote := by decide
  have inside := isBalanced (depth + 1) ']' (next :: behind) notQuote
  have afterwards :
      closingDistance? (depth + 1) (']' :: next :: behind) =
        (closingDistance? depth (next :: behind)).map (· + 1) := by
    rw [closingDistance?, quotedLengthAfter?_eq_none (isPrefixOf_eq_false notQuote)]
    simp
  rw [List.cons_append, List.append_assoc, List.singleton_append, closingDistance?,
    quotedLengthAfter?_eq_none (isPrefixOf_eq_false (by decide)), inside, afterwards]
  simp only [Char.reduceBEq, Bool.false_eq_true, ↓reduceIte, BEq.rfl, Option.map_map,
    List.length_cons, List.length_append, List.length_nil]
  congr 1
  funext length
  simp only [Function.comp_apply]
  omega

/-- A text without brackets, backslashes and three quotes in a row is balanced. -/
theorem of_plain
    (areUncounted : ∀ character ∈ text, IsUncounted character)
    (noQuotes : ¬ escapeQuotes <:+: text) :
    IsBalanced text := by
  induction text with
  | nil =>
      exact nil
  | cons first rest inductionHypothesis =>
      intro depth next behind nextNoQuote
      simp only [List.forall_mem_cons] at areUncounted
      obtain ⟨⟨notOpening, notClosing, notBackslash⟩, restUncounted⟩ := areUncounted
      have noPrefix : escapeQuotes.isPrefixOf (first :: (rest ++ next :: behind)) = false := by
        rw [← List.cons_append, Bool.eq_false_iff]
        exact fun quoted =>
          noQuotes (escapeQuotes_isPrefixOf nextNoQuote quoted).isInfix
      have restNoQuotes : ¬ escapeQuotes <:+: rest := fun inRest =>
        noQuotes (inRest.trans (List.suffix_cons first rest).isInfix)
      rw [List.cons_append, closingDistance?, quotedLengthAfter?_eq_none noPrefix,
        inductionHypothesis restUncounted restNoQuotes depth next behind nextNoQuote]
      simp only [beq_iff_eq, notBackslash, notOpening, notClosing, ↓reduceIte, Option.map_map,
        List.length_cons]
      rfl

/-- A balanced text is closed by the bracket behind it. -/
theorem isClosedByNext (isBalanced : IsBalanced text) : IsClosedByNext text := by
  intro behind
  rw [isBalanced 0 ']' behind (by decide), closingDistance?_zero]
  simp

end IsBalanced

/-- Before something that is neither white space nor a comment, only white space is skipped. -/
theorem Reads.skipComments_eq
    {blanks : List Char}
    {cursor next : Cursor}
    (reads : cursor.Reads blanks next)
    (areBlank : blanks.all isBlank = true)
    (stops : Stops isBlank next.rest)
    (noComment : ['[', '/'].isPrefixOf next.rest = false) :
    cursor.skipComments = next := by
  have isRun : runLength isBlank (blanks ++ next.rest) = blanks.length :=
    congrArg List.length (takeWhile_run areBlank stops)
  have length : commentsLength (blanks ++ next.rest) = blanks.length := by
    rw [commentsLength]
    split
    next rest isComment =>
      rw [isRun, List.drop_left] at isComment
      simp [isComment] at noComment
    next => exact isRun
  rw [skipComments, reads.rest_eq, length]
  exact reads.advance_eq

end Cursor

end DocMarkup
