import DocMarkup.Proofs.Grammar.Counting

namespace DocMarkup

open Text

/-!
# Matching brackets

The bracket that closes a text is found with a count of the brackets that are open. Where
three quotes do not come in between, the count comes back to nothing open exactly behind
texts whose brackets match, with characters that a backslash keeps left out. So what is
read up to a closing bracket is a text with matching brackets, and every such text is
read as a whole.
-/

/-! ## Brackets open behind a text -/

/-- The brackets open behind a character, if it does not close one that was not open. -/
def openBehindCharacter? (depth : Nat) (character : Char) : Option Nat :=
  if character = '[' then
    some (depth + 1)
  else if character = ']' then
    if depth = 0 then none else some (depth - 1)
  else
    some depth

/--
The brackets open behind a text without three quotes, if none is closed that was not open
and no backslash at the end is still to keep a character from counting.
-/
def openBehind? (depth : Nat) : List Char → Option Nat
  | [] => some depth
  | first :: rest =>
      if first = '\\' then
        match rest with
        | [] => none
        | _ :: others => openBehind? depth others
      else
        (openBehindCharacter? depth first).bind fun next => openBehind? next rest

section OpenBehind

variable {depth behind : Nat} {first : Char} {text front rest others : List Char}

/-- A character that is no backslash counts. -/
theorem openBehind?_cons (isCounted : first ≠ '\\') :
    openBehind? depth (first :: rest) =
      (openBehindCharacter? depth first).bind fun next => openBehind? next rest := by
  rw [openBehind?.eq_def]
  simp [isCounted]

/-- The count goes on behind a text where it left it. -/
theorem openBehind?_append
    (opens : openBehind? depth front = some behind)
    (rest : List Char) :
    openBehind? depth (front ++ rest) = openBehind? behind rest := by
  fun_induction openBehind? depth front with
  | case1 depth =>
      obtain rfl := Option.some.inj opens
      rfl
  | case2 depth => cases opens
  | case3 depth skipped others inductionHypothesis => exact inductionHypothesis opens
  | case4 depth first others isCounted inductionHypothesis =>
      obtain ⟨next, isNext, opensOthers⟩ := Option.bind_eq_some_iff.mp opens
      rw [List.cons_append, openBehind?_cons isCounted, isNext, Option.bind_some]
      exact inductionHypothesis next opensOthers

/-- Characters that do not count leave the brackets open that were open. -/
theorem openBehind?_of_uncounted
    (areUncounted : ∀ character ∈ text, Cursor.IsUncounted character) :
    openBehind? depth text = some depth := by
  induction text with
  | nil => rfl
  | cons first rest inductionHypothesis =>
      rw [List.forall_mem_cons] at areUncounted
      obtain ⟨⟨notOpening, notClosing, notBackslash⟩, others⟩ := areUncounted
      rw [openBehind?_cons notBackslash, openBehindCharacter?, if_neg notOpening,
        if_neg notClosing, Option.bind_some]
      exact inductionHypothesis others

/-- Blanks leave the brackets open that were open. -/
theorem openBehind?_of_blanks (areBlank : text.all isBlank = true) :
    openBehind? depth text = some depth :=
  openBehind?_of_uncounted fun character member =>
    (Cursor.isUncounted_of_isBlank (List.all_eq_true.mp areBlank character member)).1

/-! ## The bracket that closes a text -/

/-- Where no three quotes come next, a character counts as it does in the count of brackets. -/
theorem closingDistance?_cons
    (isCounted : first ≠ '\\')
    (noQuotes : ¬ escapeQuotes <+: first :: rest) :
    closingDistance? depth (first :: rest) =
      match openBehindCharacter? depth first with
      | none => some 0
      | some next => (closingDistance? next rest).map (· + 1) := by
  have notQuoted : quotedLengthAfter? first rest = none := by
    have noPrefix : escapeQuotes.isPrefixOf (first :: rest) = false := by
      rw [Bool.eq_false_iff]
      exact fun quoted => noQuotes (List.isPrefixOf_iff_prefix.mp quoted)
    simp [quotedLengthAfter?, noPrefix]
  rw [closingDistance?, notQuoted]
  by_cases opens : first = '['
  · simp [opens, openBehindCharacter?]
  · by_cases closes : first = ']'
    · by_cases noneOpen : depth = 0 <;> simp [closes, openBehindCharacter?, noneOpen]
    · simp [isCounted, opens, closes, openBehindCharacter?]

/-- Three quotes in the rest of a text are in the text. -/
private theorem noQuotes_of_suffix
    (noQuotes : ¬ escapeQuotes <:+: text)
    (isSuffix : rest <:+ text) :
    ¬ escapeQuotes <:+: rest := fun inRest =>
  noQuotes (inRest.trans isSuffix.isInfix)

/-- Three quotes in front of a text and a bracket are in the text. -/
private theorem noQuotes_of_closing
    (noQuotes : ¬ escapeQuotes <:+: text)
    (following : List Char) :
    ¬ escapeQuotes <+: text ++ ']' :: following := fun quoted =>
  noQuotes (Cursor.escapeQuotes_isPrefixOf (by decide)
    (List.isPrefixOf_iff_prefix.mpr quoted)).isInfix

/-- The bracket behind a text is looked for with the brackets open that the text leaves open. -/
theorem closingDistance?_append
    (noQuotes : ¬ escapeQuotes <:+: text)
    (opens : openBehind? depth text = some behind)
    (following : List Char) :
    closingDistance? depth (text ++ ']' :: following) =
      (closingDistance? behind (']' :: following)).map (· + text.length) := by
  fun_induction openBehind? depth text with
  | case1 depth =>
      obtain rfl := Option.some.inj opens
      simp
  | case2 depth => cases opens
  | case3 depth skipped others inductionHypothesis =>
      have noQuotesBehind :=
        noQuotes_of_suffix noQuotes (List.suffix_append ['\\', skipped] others)
      have others := inductionHypothesis noQuotesBehind opens
      rw [List.cons_append, List.cons_append, closingDistance?]
      simp [others, Function.comp_def, Nat.add_assoc]
  | case4 depth first others isCounted inductionHypothesis =>
      obtain ⟨next, isNext, opensOthers⟩ := Option.bind_eq_some_iff.mp opens
      have noQuotesBehind := noQuotes_of_suffix noQuotes (List.suffix_cons first others)
      have others := inductionHypothesis next noQuotesBehind opensOthers
      have noPrefix := noQuotes_of_closing noQuotes following
      rw [List.cons_append] at noPrefix ⊢
      rw [closingDistance?_cons isCounted noPrefix, isNext]
      simp [others, Function.comp_def, Nat.add_assoc]

/-- A text that is closed by the bracket behind it leaves none open. -/
theorem openBehind?_of_closingDistance?
    {following : List Char}
    (noQuotes : ¬ escapeQuotes <:+: text)
    (closes : closingDistance? depth (text ++ ']' :: following) = some text.length) :
    openBehind? depth text = some 0 := by
  fun_induction openBehind? depth text with
  | case1 depth =>
      have noPrefix := noQuotes_of_closing noQuotes following
      rw [List.nil_append] at noPrefix closes
      rw [closingDistance?_cons (by decide) noPrefix] at closes
      cases depth with
      | zero => rfl
      | succ fewer => simp [openBehindCharacter?] at closes
  | case2 depth =>
      rw [List.singleton_append, closingDistance?] at closes
      simp at closes
  | case3 depth skipped others inductionHypothesis =>
      have noQuotesBehind :=
        noQuotes_of_suffix noQuotes (List.suffix_append ['\\', skipped] others)
      refine inductionHypothesis noQuotesBehind ?_
      rw [List.cons_append, List.cons_append, closingDistance?] at closes
      simpa using closes
  | case4 depth first others isCounted inductionHypothesis =>
      have noPrefix := noQuotes_of_closing noQuotes following
      rw [List.cons_append] at noPrefix closes
      rw [closingDistance?_cons isCounted noPrefix] at closes
      cases isNext : openBehindCharacter? depth first with
      | none => simp [isNext] at closes
      | some next =>
          have noQuotesBehind := noQuotes_of_suffix noQuotes (List.suffix_cons first others)
          refine inductionHypothesis next noQuotesBehind ?_
          simpa [isNext] using closes

/-- Without three quotes, the bracket behind a text closes it if the text leaves none open. -/
theorem isClosedByNext_iff (noQuotes : ¬ escapeQuotes <:+: text) :
    Cursor.IsClosedByNext text ↔ openBehind? 0 text = some 0 := by
  constructor
  · intro isClosed
    exact openBehind?_of_closingDistance? noQuotes (isClosed [])
  · intro noneOpen following
    have noPrefix : ¬ escapeQuotes <+: ']' :: following := by
      intro quoted
      exact absurd (List.cons_prefix_cons.mp quoted).1 (by decide)
    rw [closingDistance?_append noQuotes noneOpen, closingDistance?_cons (by decide) noPrefix]
    simp [openBehindCharacter?]

/-- What is read up to a closing bracket is all that comes before it. -/
theorem Cursor.balanced?_eq_some_iff
    {cursor next : Cursor}
    {content : String} :
    cursor.balanced? = some (content, next) ↔
      closingDistance? 0 cursor.rest = some content.toList.length ∧
        cursor.Reads content.toList next ∧ next.rest.head? = some ']' := by
  constructor
  · intro read
    obtain ⟨following, atBracket⟩ :=
      exists_rest_of_closingBracket? (closingBracket?_of_balanced? read)
    simp only [balanced?, Option.map_eq_some_iff, Prod.mk.injEq] at read
    obtain ⟨length, closes, rfl, rfl⟩ := read
    rw [rest_advance] at atBracket
    have inText : length < cursor.rest.length := by
      have remaining := congrArg List.length atBracket
      rw [List.length_drop, List.length_cons] at remaining
      omega
    have sameLength : (cursor.rest.take length).length = length :=
      List.length_take_of_le (Nat.le_of_lt inText)
    have reads := Reads.of_rest (List.take_append_drop length cursor.rest).symm
    rw [sameLength] at reads
    rw [String.toList_ofList, sameLength, rest_advance, atBracket]
    exact ⟨closes, reads, rfl⟩
  · rintro ⟨closes, reads, -⟩
    rw [balanced?, closes, Option.map_some, reads.advance_eq, reads.rest_eq, List.take_left,
      String.ofList_toList]

/-- A text that is delimited by brackets leaves none open. -/
theorem openBehind?_of_balanced?
    {cursor next : Cursor}
    {raw : String}
    (noQuotes : ¬ escapeQuotes <:+: raw.toList)
    (isDelimited : cursor.balanced? = some (raw, next)) :
    openBehind? 0 raw.toList = some 0 := by
  obtain ⟨closes, reads, atBracket⟩ := Cursor.balanced?_eq_some_iff.mp isDelimited
  obtain ⟨following, remaining⟩ := List.head?_eq_some_iff.mp atBracket
  rw [reads.rest_eq, remaining] at closes
  exact openBehind?_of_closingDistance? noQuotes closes

end OpenBehind

/-! ## Texts with matching brackets -/

/--
Texts whose brackets match. They are made of characters kept by a backslash, of other
characters that are no brackets, and of texts of the same kind between brackets.
-/
inductive HasMatchingBrackets : List Char → Prop where
  | nil : HasMatchingBrackets []
  | kept (character : Char) {rest} :
      HasMatchingBrackets rest →
      HasMatchingBrackets ('\\' :: character :: rest)
  | plain {first rest} :
      Cursor.IsUncounted first →
      HasMatchingBrackets rest →
      HasMatchingBrackets (first :: rest)
  | bracketed {inside rest} :
      HasMatchingBrackets inside →
      HasMatchingBrackets rest →
      HasMatchingBrackets ('[' :: (inside ++ ']' :: rest))

/-- Texts that close some brackets, with nothing but matching brackets before and behind each. -/
inductive ClosesBrackets : Nat → List Char → Prop where
  | nothing {text} :
      HasMatchingBrackets text →
      ClosesBrackets 0 text
  | bracket {depth inside rest} :
      HasMatchingBrackets inside →
      ClosesBrackets depth rest →
      ClosesBrackets (depth + 1) (inside ++ ']' :: rest)

section Matching

variable {depth : Nat} {text front : List Char}

/-- Matching brackets leave those open that were open. -/
theorem HasMatchingBrackets.openBehind?_eq
    (matching : HasMatchingBrackets text)
    (depth : Nat) :
    openBehind? depth text = some depth := by
  induction matching generalizing depth with
  | nil => rfl
  | kept character _ restOpens =>
      rw [openBehind?]
      exact restOpens depth
  | @plain first rest uncounted _ restOpens =>
      have stays : openBehind? depth [first] = some depth :=
        openBehind?_of_uncounted (by simpa using uncounted)
      rw [← List.singleton_append, openBehind?_append stays, restOpens]
  | @bracketed inside rest _ _ insideOpens restOpens =>
      have opened : openBehind? depth ['['] = some (depth + 1) := rfl
      have closed : openBehind? (depth + 1) [']'] = some depth := rfl
      rw [← List.singleton_append, openBehind?_append opened, openBehind?_append (insideOpens _),
        ← List.singleton_append, openBehind?_append closed, restOpens]

/-- What may stand in front of matching brackets may stand in front of those before the first. -/
theorem ClosesBrackets.behind
    (closes : ClosesBrackets depth text)
    (mayPrecede : ∀ part, HasMatchingBrackets part → HasMatchingBrackets (front ++ part)) :
    ClosesBrackets depth (front ++ text) := by
  cases closes with
  | nothing matching => exact .nothing (mayPrecede _ matching)
  | bracket insideMatches restCloses =>
      rw [← List.append_assoc]
      exact .bracket (mayPrecede _ insideMatches) restCloses

/-- A character that counts opens or closes a bracket in front of a text, or is part of it. -/
theorem ClosesBrackets.cons
    {next : Nat}
    {first : Char}
    (isCounted : first ≠ '\\')
    (isNext : openBehindCharacter? depth first = some next)
    (closes : ClosesBrackets next text) :
    ClosesBrackets depth (first :: text) := by
  unfold openBehindCharacter? at isNext
  split at isNext
  next isOpening =>
    obtain rfl := isOpening
    obtain rfl := Option.some.inj isNext
    cases closes with
    | @bracket _ inside rest insideMatches restCloses =>
        have closed : '[' :: (inside ++ ']' :: rest) = '[' :: (inside ++ [']']) ++ rest := by simp
        rw [closed]
        refine restCloses.behind fun part matching => ?_
        simpa using HasMatchingBrackets.bracketed insideMatches matching
  next notOpening =>
    split at isNext
    next isClosing =>
      obtain rfl := isClosing
      cases depth with
      | zero => simp at isNext
      | succ fewer =>
          obtain rfl := Option.some.inj isNext
          exact .bracket .nil closes
    next notClosing =>
      obtain rfl := Option.some.inj isNext
      rw [← List.singleton_append]
      exact closes.behind fun part => .plain ⟨notOpening, notClosing, isCounted⟩

/-- A text behind which nothing is open has closed what was open before it. -/
theorem closesBrackets_of_openBehind? (opens : openBehind? depth text = some 0) :
    ClosesBrackets depth text := by
  fun_induction openBehind? depth text with
  | case1 depth =>
      obtain rfl := Option.some.inj opens
      exact .nothing .nil
  | case2 depth => cases opens
  | case3 depth character others inductionHypothesis =>
      have split : '\\' :: character :: others = ['\\', character] ++ others := rfl
      rw [split]
      exact (inductionHypothesis opens).behind fun part => .kept character
  | case4 depth first others isCounted inductionHypothesis =>
      obtain ⟨next, isNext, opensOthers⟩ := Option.bind_eq_some_iff.mp opens
      exact (inductionHypothesis next opensOthers).cons isCounted isNext

/-- The count is back where nothing is open exactly behind texts with matching brackets. -/
theorem hasMatchingBrackets_iff : HasMatchingBrackets text ↔ openBehind? 0 text = some 0 := by
  constructor
  · intro matching
    exact matching.openBehind?_eq 0
  · intro opens
    cases closesBrackets_of_openBehind? opens with
    | nothing matching => exact matching

end Matching

/-! ## Reading up to the closing bracket -/

namespace Cursor

/-- Where a cursor is after reading up to the closing bracket: there, or where it was. -/
def afterBalanced (cursor : Cursor) : Cursor :=
  match cursor.balanced? with
  | some (_, next) => next
  | none => cursor

/-- With the same text remaining, the same is read up to the closing bracket. -/
theorem balanced?_eq_map_of_rest
    {cursor other : Cursor}
    (sameRest : other.rest = cursor.rest) :
    other.balanced? =
      cursor.balanced?.map fun read => (read.1, other.advance read.1.length) := by
  cases read : cursor.balanced? with
  | none =>
      have notClosed : closingDistance? 0 cursor.rest = none := by
        simpa [balanced?] using read
      simp [balanced?, sameRest, notClosed]
  | some found =>
      obtain ⟨content, next⟩ := found
      obtain ⟨closes, reads, atBracket⟩ := balanced?_eq_some_iff.mp read
      have readsOther : other.Reads content.toList (other.advance content.length) := by
        rw [← String.length_toList]
        exact .of_rest (sameRest.trans reads.rest_eq)
      refine balanced?_eq_some_iff.mpr ⟨by rwa [sameRest], readsOther, ?_⟩
      rw [readsOther.rest_of (sameRest.trans reads.rest_eq)]
      exact atBracket

/-- With a text put in front of a source, the same is read that much further on. -/
theorem balanced?_cursorAt_append (source : Source) (front : String) (offset : Nat) :
    let longer : Source := { source with text := front ++ source.text }
    (longer.cursorAt (front.length + offset)).balanced? =
      (source.cursorAt offset).balanced?.map fun read =>
        (read.1, longer.cursorAt (front.length + offset + read.1.length)) := by
  intro longer
  have sameRest :
      (longer.cursorAt (front.length + offset)).rest = (source.cursorAt offset).rest := by
    simp [longer, Source.cursorAt, ← String.length_toList, List.drop_append]
  have same := balanced?_eq_map_of_rest sameRest
  rw [same]
  cases read : (source.cursorAt offset).balanced? with
  | none => rfl
  | some found =>
      obtain ⟨content, next⟩ := found
      rw [read] at same
      have reads := (balanced?_eq_some_iff.mp same).2.1
      have sameCursor :
          (longer.cursorAt (front.length + offset)).advance content.length =
            longer.cursorAt (front.length + offset + content.length) :=
        eq_of_offset rfl (by rw [reads.offset, String.length_toList]; rfl)
      rw [Option.map_some, Option.map_some, sameCursor]

/-- Before a closing bracket, a text without three quotes is read if its brackets match. -/
theorem balanced?_eq_some_iff_hasMatchingBrackets
    {cursor next : Cursor}
    {text following : List Char}
    (isAhead : cursor.rest = text ++ ']' :: following)
    (noQuotes : ¬ escapeQuotes <:+: text) :
    cursor.balanced? = some (String.ofList text, next) ↔
      HasMatchingBrackets text ∧ next = cursor.advance text.length := by
  rw [hasMatchingBrackets_iff]
  constructor
  · intro read
    have opens := openBehind?_of_balanced? (by rwa [String.toList_ofList]) read
    have reads := (balanced?_eq_some_iff.mp read).2.1
    rw [String.toList_ofList] at opens reads
    exact ⟨opens, reads.advance_eq.symm⟩
  · rintro ⟨opens, rfl⟩
    have reads := Reads.of_rest isAhead
    refine ((isClosedByNext_iff noQuotes).mpr opens).balanced?_eq reads ?_
    rw [reads.rest_of isAhead, List.head?_cons]

end Cursor

/--
Reading up to the closing bracket finds exactly that bracket. In front of a closing
bracket, a text without three quotes is read as a whole if and only if its brackets
match. Whatever the text, with three quotes too: what is read ends in front of a closing
bracket, a cursor without such a bracket stays where it is, and nothing but the text that
remains counts, neither the one before it nor its source.
-/
theorem closing_bracket_is_found_exactly :
    (∀ (cursor next : Cursor) (text following : List Char),
        cursor.rest = text ++ ']' :: following →
          ¬ escapeQuotes <:+: text →
            (cursor.balanced? = some (String.ofList text, next) ↔
              HasMatchingBrackets text ∧ next = cursor.advance text.length)) ∧
      (∀ (cursor next : Cursor) (content : String),
        cursor.balanced? = some (content, next) →
          cursor.afterBalanced = next ∧
            cursor.Reads content.toList next ∧ next.rest.head? = some ']') ∧
      (∀ cursor : Cursor, cursor.balanced? = none → cursor.afterBalanced = cursor) ∧
      (∀ cursor other : Cursor,
        other.rest = cursor.rest →
          other.balanced? =
            cursor.balanced?.map fun read => (read.1, other.advance read.1.length)) ∧
      ∀ (source : Source) (front : String) (offset : Nat),
        let longer : Source := { source with text := front ++ source.text }
        (longer.cursorAt (front.length + offset)).balanced? =
          (source.cursorAt offset).balanced?.map fun read =>
            (read.1, longer.cursorAt (front.length + offset + read.1.length)) := by
  refine ⟨?_, ?_, ?_, ?_, ?_⟩
  · intro cursor next text following isAhead noQuotes
    exact Cursor.balanced?_eq_some_iff_hasMatchingBrackets isAhead noQuotes
  · intro cursor next content read
    obtain ⟨-, reads, atBracket⟩ := Cursor.balanced?_eq_some_iff.mp read
    exact ⟨by rw [Cursor.afterBalanced, read], reads, atBracket⟩
  · intro cursor nothing
    rw [Cursor.afterBalanced, nothing]
  · intro cursor other sameRest
    exact Cursor.balanced?_eq_map_of_rest sameRest
  · exact Cursor.balanced?_cursorAt_append

end DocMarkup
