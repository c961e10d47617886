import DocMarkup.Proofs.Grammar.Counting
import DocMarkup.Proofs.Grammar.Leading
import DocMarkup.Proofs.Written.Output
import DocMarkup.Proofs.Written.Phrase

namespace DocMarkup

/-!
# Text in phrases

Where nothing is quoted, brackets and names are all that may be more than text. Other
characters are collected as they stand, in a phrase that does not end with a line, and
are added to the output as character data.
-/

/-- A text in which nothing is quoted: no backslash, no code quote, no three quotes in a row. -/
structure IsUnquoted (text : List Char) : Prop where
  noBackslash : '\\' ∉ text
  noCodeQuote : codeQuote ∉ text
  noQuotes : ¬ escapeQuotes <:+: text

/-- What remains of such a text is such a text. -/
theorem IsUnquoted.of_suffix
    {text rest : List Char}
    (unquoted : IsUnquoted text)
    (isSuffix : rest <:+ text) :
    IsUnquoted rest where
  noBackslash inRest := unquoted.noBackslash (isSuffix.subset inRest)
  noCodeQuote inRest := unquoted.noCodeQuote (isSuffix.subset inRest)
  noQuotes inRest := unquoted.noQuotes (inRest.trans isSuffix.isInfix)

/-- No macro is named in a text. -/
def NamesNoMacro (macros : MacroTable) (text : List Char) : Prop :=
  ∀ name, macros.contains name = true → ¬ name.toList <:+: text

namespace NamesNoMacro

variable {macros : MacroTable} {text rest : List Char}

/-- No macro is named in what remains of such a text. -/
theorem of_suffix (noMacro : NamesNoMacro macros text) (isSuffix : rest <:+ text) :
    NamesNoMacro macros rest :=
  fun name isMacro inRest => noMacro name isMacro (inRest.trans isSuffix.isInfix)

/-- What stands in the text is the name of no macro. -/
theorem not_contains
    {name : String}
    (noMacro : NamesNoMacro macros text)
    (inText : name.toList <:+: text) :
    macros.contains name = false := by
  rw [Bool.eq_false_iff]
  exact fun isMacro => noMacro name isMacro inText

end NamesNoMacro

namespace CompilerState

/-- Character data that makes up a text was added to a state, and nothing else. -/
def AddsText (before : CompilerState) (content : String) (after : CompilerState) : Prop :=
  ∃ pieces : List String,
    String.join pieces = content ∧ after = before.replay (pieces.map .text)

namespace AddsText

variable {before middle after : CompilerState} {front behind content : String}

/-- Nothing is added. -/
theorem refl (state : CompilerState) : state.AddsText "" state :=
  ⟨[], rfl, rfl⟩

/-- One text is added, unless it is empty. -/
theorem text (state : CompilerState) (content : String) :
    state.AddsText content (state.text content) := by
  by_cases isEmpty : content = ""
  · subst isEmpty
    exact refl state
  · exact ⟨[content], by simp, text_of_ne_empty state isEmpty⟩

/-- One text is added after another. -/
theorem trans
    (first : before.AddsText front middle)
    (second : middle.AddsText behind after) :
    before.AddsText (front ++ behind) after := by
  obtain ⟨pieces, rfl, rfl⟩ := first
  obtain ⟨more, rfl, rfl⟩ := second
  refine ⟨pieces ++ more, by simp, ?_⟩
  rw [List.map_append, replay_append]

/-- A state precedes the one with the text. -/
theorem precedes (added : before.AddsText content after) : before.Precedes after := by
  obtain ⟨pieces, _, rfl⟩ := added
  exact .replay before _

/-- The macros stay as they are. -/
theorem macros_eq (added : before.AddsText content after) : after.macros = before.macros := by
  obtain ⟨pieces, _, rfl⟩ := added
  rw [replay_eq]

/-- The depth of expansions stays as it is. -/
theorem expansionDepth_eq (added : before.AddsText content after) :
    after.expansionDepth = before.expansionDepth := by
  obtain ⟨pieces, _, rfl⟩ := added
  rw [replay_eq]

/-- Without a pending paragraph, the text is all that is added to the output. -/
theorem exists_pieces
    (added : before.AddsText content after)
    (settled : before.pendingParagraph = false) :
    ∃ pieces : List String,
      String.join pieces = content ∧
        after =
          { before with events := before.events ++ (pieces.map Event.text).toArray } := by
  obtain ⟨pieces, isContent, rfl⟩ := added
  exact ⟨pieces, isContent, replay_of_settled settled _⟩

end AddsText

end CompilerState

namespace Phrase

open Compile Cursor

variable {mode : PhraseMode} {cursor next : Cursor} {first : Char} {rest : List Char}

/-- A phrase is read to the end of its text, and some text is added. -/
structure ReadsToEnd
    (before : CompilerState)
    (cursor : Cursor)
    (closed : Bool)
    (content : String)
    (result : Bool × Cursor)
    (after : CompilerState) :
    Prop where
  isClosed : result.1 = closed
  reads : cursor.Reads cursor.rest result.2
  adds : before.AddsText content after

/--
What is read first goes in front of the rest of a phrase. Some of what is shown of it was
added, and the rest of the phrase starts with what was kept of it.
-/
theorem ReadsToEnd.behind
    {before middle after : CompilerState}
    {closed : Bool}
    {run shown content : List Char}
    {buffer collected kept : String}
    {result : Bool × Cursor}
    (readsToEnd : ReadsToEnd middle next closed (kept ++ String.ofList content) result after)
    (readsRun : cursor.Reads run next)
    (added : before.AddsText collected middle)
    (same : collected ++ kept = buffer ++ String.ofList shown) :
    ReadsToEnd before cursor closed (buffer ++ String.ofList (shown ++ content)) result
      after where
  isClosed := readsToEnd.isClosed
  reads := by
    have whole := readsRun.append readsToEnd.reads
    rwa [← readsRun.rest_eq] at whole
  adds := by
    rw [String.ofList_append, ← String.append_assoc, ← same, String.append_assoc]
    exact added.trans readsToEnd.adds

/-- At the end of the text, what was collected is added. -/
theorem step_readsToEnd
    (atEnd : cursor.rest = [])
    (inner : Inner)
    (mode : PhraseMode)
    (depth : Nat)
    (before : CompilerState)
    (buffer : String) :
    Finishes before (Phrase.step inner mode depth buffer cursor)
      (ReadsToEnd before cursor (mode != .bracketed) buffer) := by
  unfold Phrase.step
  simp only [atEnd]
  refine .updateThen (.pure ⟨rfl, ?_, .text before buffer⟩)
  rw [atEnd]
  exact .nil cursor

/-- Phrases in brackets and expansions do not stop at a line feed. -/
theorem stopsAtLineFeed_eq
    (inOne : mode = .bracketed ∨ mode = .expansion)
    (cursor : Cursor) :
    stopsAtLineFeed mode cursor = pure false := by
  obtain rfl | rfl := inOne <;> rfl

/-- At a bracket, all that it may start is tried; if nothing applies, it is text. -/
theorem step_of_opening
    (remaining : cursor.rest = '[' :: rest)
    (inner : Inner)
    (mode : PhraseMode)
    (depth : Nat)
    (buffer : String) :
    Phrase.step inner mode depth buffer cursor = (do
      flush buffer
      match ← firstOf (elements inner) cursor with
      | some next => inner.phraseFrom mode depth "" next
      | none => inner.phraseFrom mode (depth + 1) (String.singleton '[') (cursor.advance 1)) := by
  unfold Phrase.step
  simp only [remaining]
  rfl

/-- Names start with no character that means something. -/
theorem isMeaningless_of_isNameStart
    (starts : Text.isNameStart first = true)
    (rest : List Char) :
    IsMeaningless first rest := by
  have other {character : Char} (noStart : Text.isNameStart character = false) :
      first ≠ character := by
    rintro rfl
    simp [noStart] at starts
  refine ⟨⟨other (by decide), other (by decide), other (by decide)⟩, other (by decide),
    other (by decide), ?_⟩
  have noQuote : Text.singleQuote ≠ first := (other (by decide)).symm
  simp [escapeQuotes, List.replicate, List.isPrefixOf_cons_cons, noQuote]

/-- A name is looked up wherever it stands. -/
theorem step_of_name
    {word : String}
    (read : cursor.name? = some (word, next))
    (inner : Inner)
    (mode : PhraseMode)
    (depth : Nat)
    (buffer : String) :
    Phrase.step inner mode depth buffer cursor =
      name inner mode depth buffer cursor word next := by
  obtain ⟨_, first, rest, remaining, starts, _⟩ := reads_of_name? read
  rw [step_of_isMeaningless remaining (isMeaningless_of_isNameStart starts rest), read]

/--
Where nothing is quoted and neither a bracket nor a name comes next, some characters are
collected, with which no name starts.
-/
theorem exists_step_of_noName
    (unquoted : IsUnquoted cursor.rest)
    (inOne : mode = .bracketed ∨ mode = .expansion)
    (remaining : cursor.rest = first :: rest)
    (notOpening : first ≠ '[')
    (notClosing : first ≠ ']')
    (noName : cursor.name? = none) :
    ∃ run next,
      run ≠ [] ∧
        (∀ character ∈ run, Text.isNameStart character = false) ∧
          cursor.Reads run next ∧
            ∀ inner depth buffer,
              Phrase.step inner mode depth buffer cursor =
                inner.phraseFrom mode depth (buffer ++ String.ofList run) next := by
  have noStart : Text.isNameStart first = false := by
    simpa [name?, remaining] using noName
  have one (buffer : String) : buffer.push first = buffer ++ String.ofList [first] := by
    apply String.toList_inj.mp
    simp
  by_cases isLineFeed : first = '\n'
  · subst isLineFeed
    refine ⟨['\n'], _, by simp, by simpa using noStart, .of_cons remaining, ?_⟩
    intro inner depth buffer
    unfold Phrase.step
    simp only [remaining, stopsAtLineFeed_eq inOne, one]
    rfl
  have isMeaningless : IsMeaningless first rest :=
    { isUncounted :=
        ⟨notOpening, notClosing, by
          rintro rfl
          exact unquoted.noBackslash (by simp [remaining])⟩
      noLineFeed := isLineFeed
      noCodeQuote := by
        rintro rfl
        exact unquoted.noCodeQuote (by simp [remaining])
      noQuotes := by
        rw [Bool.eq_false_iff, ← remaining]
        exact fun isPrefix =>
          unquoted.noQuotes (List.isPrefixOf_iff_prefix.mp isPrefix).isInfix }
  cases read : cursor.plainRun? with
  | some found =>
      obtain ⟨run, next⟩ := found
      obtain ⟨reads, arePlain, _⟩ := reads_of_runOf? read
      have notEmpty : run.toList ≠ [] := by
        intro isEmpty
        have shorter := length_rest_plainRun?_lt read
        rw [reads.rest_eq, isEmpty, List.nil_append] at shorter
        exact Nat.lt_irrefl _ shorter
      refine ⟨run.toList, next, notEmpty, ?_, reads, ?_⟩
      · intro character member
        have isPlain := List.all_eq_true.mp arePlain character member
        simp only [Cursor.isPlain, Bool.not_eq_true', Bool.or_eq_false_iff] at isPlain
        rw [Text.isNameStart, isPlain.1.2, isPlain.2, Bool.or_self]
      · intro inner depth buffer
        rw [step_of_isMeaningless remaining isMeaningless, noName, String.ofList_toList]
        simp only [plain, read]
  | none =>
      refine ⟨[first], _, by simp, by simpa using noStart, .of_cons remaining, ?_⟩
      intro inner depth buffer
      rw [step_of_isMeaningless remaining isMeaningless, noName, ← one]
      simp only [plain, read]

end Phrase

end DocMarkup
