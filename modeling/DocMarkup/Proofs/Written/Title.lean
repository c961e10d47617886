import DocMarkup.Proofs.Written.Element
import DocMarkup.Proofs.Written.Header

namespace DocMarkup

open Compile Text BlockTree

/-!
# Titles that stand as they are

In a title without brackets, backslashes and quotes of code, in which no macro is
named, nothing has a meaning of its own. It is collected word by word up to the
bracket behind it.
-/

/--
A title that stands as it is: a quiet text without quotes of code, in front of which
there are no blanks.
-/
structure IsPlainTitle (macros : MacroTable) (title : String) : Prop where
  quiet : IsQuiet macros title.toList
  noCode : codeQuote ∉ title.toList
  stops : Stops isHorizontal title.toList

namespace Phrase

variable {macros : MacroTable} {cursor atBracket : Cursor} {first : Char} {rest text : List Char}

/-- In brackets, a front of what comes next is collected in all states with some macros. -/
def Collects (macros : MacroTable) (cursor next : Cursor) (front : List Char) : Prop :=
  ∀ (inner : Inner) (buffer : String) (before after : CompilerState) (value : Bool × Cursor),
    before.macros = macros →
    Yields before (inner.phraseFrom .bracketed 0 (buffer ++ String.ofList front) next) value after →
    Yields before (Phrase.step inner .bracketed 0 buffer cursor) value after

/-- A word that is not the name of a macro is collected. -/
theorem collects_word
    {next : Cursor}
    {others behind : List Char}
    (remaining : cursor.rest = first :: rest)
    (isMeaningless : IsMeaningless first rest)
    (startsName : isNameStart first = true)
    (areName : others.all isNameCharacter = true)
    (ends : Stops isNameCharacter behind)
    (isWord : rest = others ++ behind)
    (reads : cursor.Reads (first :: others) next)
    (noMacro : macros.contains (String.ofList (first :: others)) = false) :
    Collects macros cursor next (first :: others) := by
  have isName : cursor.name? = some (String.ofList (first :: others), next) := by
    unfold Cursor.name?
    simp only [remaining, startsName, ↓reduceIte, isWord, takeWhile_run areName ends,
      reads.advance_eq]
  intro inner buffer before after value sameMacros goesOn
  rw [step_of_isMeaningless remaining isMeaningless]
  simp only [isName, name]
  apply Yields.state
  simp only [sameMacros, noMacro, Bool.false_and, Bool.false_eq_true, ↓reduceIte]
  exact goesOn

/-- In front of a bracket, some of a text is collected. -/
def CollectsFront (macros : MacroTable) (cursor atBracket : Cursor) (text : List Char) : Prop :=
  ∃ front behind next,
    front ≠ [] ∧ text = front ++ behind ∧ next.Reads behind atBracket ∧
      Collects macros cursor next front

/-- A name is collected as a whole. -/
theorem collectsFront_of_name
    {more : List Char}
    (atEnd : atBracket.rest = ']' :: more)
    (quiet : IsQuiet macros (first :: rest))
    (isMeaningless : IsMeaningless first (rest ++ ']' :: more))
    (startsName : isNameStart first = true)
    (reads : cursor.Reads (first :: rest) atBracket) :
    CollectsFront macros cursor atBracket (first :: rest) := by
  have remaining : cursor.rest = first :: (rest ++ ']' :: more) := by
    rw [reads.rest_eq, atEnd, List.cons_append]
  obtain ⟨others, behind, rfl, areName, stops⟩ := exists_run isNameCharacter rest
  have readsSplit : cursor.Reads ((first :: others) ++ behind) atBracket := reads
  obtain ⟨next, readsWord, readsBehind⟩ := readsSplit.split
  have isInfix : first :: others <:+: first :: (others ++ behind) :=
    (List.prefix_append (first :: others) behind).isInfix
  have noMacro : macros.contains (String.ofList (first :: others)) = false := by
    rw [Bool.eq_false_iff]
    exact fun isMacro => quiet.noMacro _ isMacro (by rwa [String.toList_ofList])
  have ends : Stops isNameCharacter (behind ++ ']' :: more) :=
    stops.append_stops (.cons (by decide) more)
  exact
    ⟨first :: others, behind, next, by simp, rfl, readsBehind,
      collects_word remaining isMeaningless startsName areName ends (List.append_assoc ..)
        readsWord noMacro⟩

/-- A character that starts no name is collected, with the plain characters behind it. -/
theorem collectsFront_of_noName
    {more : List Char}
    (atEnd : atBracket.rest = ']' :: more)
    (isMeaningless : IsMeaningless first (rest ++ ']' :: more))
    (startsNoName : isNameStart first = false)
    (reads : cursor.Reads (first :: rest) atBracket) :
    CollectsFront macros cursor atBracket (first :: rest) := by
  have remaining : cursor.rest = first :: (rest ++ ']' :: more) := by
    rw [reads.rest_eq, atEnd, List.cons_append]
  have noName : cursor.name? = none := by
    simp [Cursor.name?, remaining, startsNoName]
  have step (inner : Inner) (buffer : String) :
      Phrase.step inner .bracketed 0 buffer cursor =
        plain inner .bracketed 0 buffer cursor first := by
    rw [step_of_isMeaningless remaining isMeaningless, noName]
  cases isPlain : Cursor.isPlain first with
  | true =>
      obtain ⟨run, behind, shape, areRun, stops⟩ := exists_run Cursor.isPlain (first :: rest)
      have notEmpty : run ≠ [] := by
        rintro rfl
        rw [List.nil_append] at shape
        simp [Stops, ← shape, isPlain] at stops
      rw [shape] at reads ⊢
      obtain ⟨next, readsRun, readsBehind⟩ := reads.split
      have ends : Stops Cursor.isPlain next.rest := by
        rw [readsBehind.rest_eq, atEnd]
        exact stops.append_stops (.cons (by decide) more)
      have isRun : cursor.plainRun? = some (String.ofList run, next) :=
        readsRun.runOf?_eq areRun ends notEmpty
      refine ⟨run, behind, next, notEmpty, rfl, readsBehind, ?_⟩
      intro inner buffer before after value sameMacros goesOn
      simp only [step, plain, isRun]
      exact goesOn
  | false =>
      have noRun : cursor.plainRun? = none := by
        simp [Cursor.plainRun?, Cursor.runOf?, Cursor.run, remaining, isPlain]
      have readsSplit : cursor.Reads ([first] ++ rest) atBracket := reads
      obtain ⟨next, readsFirst, readsRest⟩ := readsSplit.split
      refine ⟨[first], rest, next, by simp, rfl, readsRest, ?_⟩
      intro inner buffer before after value sameMacros goesOn
      rw [← String.singleton_eq_ofList, ← String.push_eq_append, ← readsFirst.advance_eq] at goesOn
      simp only [step, plain, noRun]
      exact goesOn

/-- Some of a quiet text without quotes of code is collected. -/
theorem collectsFront_of_quiet
    (quiet : IsQuiet macros (first :: rest))
    (noCode : codeQuote ∉ first :: rest)
    (reads : cursor.Reads (first :: rest) atBracket)
    (closes : atBracket.rest.head? = some ']') :
    CollectsFront macros cursor atBracket (first :: rest) := by
  obtain ⟨more, atEnd⟩ := List.head?_eq_some_iff.mp closes
  by_cases isLineFeed : first = '\n'
  · subst isLineFeed
    have remaining : cursor.rest = '\n' :: (rest ++ ']' :: more) := by
      rw [reads.rest_eq, atEnd, List.cons_append]
    have readsSplit : cursor.Reads (['\n'] ++ rest) atBracket := reads
    obtain ⟨next, readsFirst, readsRest⟩ := readsSplit.split
    refine ⟨['\n'], rest, next, by simp, rfl, readsRest, ?_⟩
    intro inner buffer before after value sameMacros goesOn
    rw [← String.singleton_eq_ofList, ← String.push_eq_append, ← readsFirst.advance_eq] at goesOn
    unfold Phrase.step
    simp only [remaining]
    exact goesOn
  · have isMeaningless : IsMeaningless first (rest ++ ']' :: more) :=
      { isUncounted := quiet.areUncounted first List.mem_cons_self
        noLineFeed := isLineFeed
        noCodeQuote := fun same => noCode (same ▸ List.mem_cons_self)
        noQuotes := by
          rw [← List.cons_append, Bool.eq_false_iff]
          exact fun quoted =>
            quiet.noQuotes (Cursor.escapeQuotes_isPrefixOf (by decide) quoted).isInfix }
    cases startsName : isNameStart first with
    | true => exact collectsFront_of_name atEnd quiet isMeaningless startsName reads
    | false => exact collectsFront_of_noName atEnd isMeaningless startsName reads

/-- A quiet text without quotes of code is read up to its bracket and left as it is. -/
theorem phraseWithin_quiet
    (environment : Environment)
    {before : CompilerState}
    {steps : Nat}
    (quiet : IsQuiet before.macros text)
    (noCode : codeQuote ∉ text)
    (reads : cursor.Reads text atBracket)
    (closes : atBracket.rest.head? = some ']')
    (buffer : String)
    (enough : text.length < steps) :
    Yields before (phraseWithin environment steps .bracketed 0 buffer cursor) (true, atBracket)
      (before.text (buffer ++ String.ofList text)) := by
  induction steps generalizing cursor text buffer with
  | zero => omega
  | succ steps inductionHypothesis =>
      cases text with
      | nil =>
          rw [reads.unique (.nil cursor)] at closes ⊢
          rw [String.ofList_nil, String.append_empty]
          exact step_of_endsAt (.inl closes) buffer
      | cons first rest =>
          obtain ⟨front, behind, next, notEmpty, shape, readsBehind, collects⟩ :=
            collectsFront_of_quiet quiet noCode reads closes
          rw [shape] at quiet noCode enough ⊢
          have isLong : 1 ≤ front.length := List.length_pos_iff.mpr notEmpty
          rw [List.length_append] at enough
          refine collects _ buffer before _ _ rfl ?_
          have isRead :=
            inductionHypothesis (quiet.of_suffix (List.suffix_append front behind))
              (fun member => noCode (List.mem_append_right front member)) readsBehind
              (buffer ++ String.ofList front) (by omega)
          rw [String.append_assoc, ← String.ofList_append] at isRead
          exact isRead

end Phrase

/-- A plain title stands for itself. -/
theorem IsPlainTitle.isTitle
    {macros : MacroTable}
    {title : String}
    (isPlain : IsPlainTitle macros title) :
    Block.IsTitle macros title.toList title where
  isClosed :=
    (Cursor.IsBalanced.of_plain isPlain.quiet.areUncounted isPlain.quiet.noQuotes).isClosedByNext
  stops behind := isPlain.stops.append_stops (.cons (by decide) behind)
  isRead environment _ _ _ _ reads closes sameMacros enough := by
    have isRead :=
      Phrase.phraseWithin_quiet environment (sameMacros ▸ isPlain.quiet) isPlain.noCode reads closes
        "" enough
    rwa [String.empty_append, String.ofList_toList] at isRead

end DocMarkup
