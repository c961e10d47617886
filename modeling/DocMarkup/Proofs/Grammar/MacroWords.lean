import Mathlib.Data.List.TakeWhile
import DocMarkup.Proofs.Grammar.Unclosed
import DocMarkup.Proofs.Text.Words

namespace DocMarkup

/-!
# Macros in words

Where there are no brackets and nothing is quoted, only names may be more than text. A
name is looked up where a word starts, and reaches as far as the characters of names do.
A macro at the front of a word therefore gives way to its body, and what is left of the
word, which is spelled with other letters or numerals, stays behind it. No macro is
expanded further on in a word.
-/

open Compile

/-- A text without brackets in which nothing is quoted. -/
structure IsUnmarked (text : List Char) : Prop extends IsUnquoted text where
  noOpening : '[' ∉ text
  noClosing : ']' ∉ text

/-- What remains of such a text is such a text. -/
theorem IsUnmarked.of_suffix
    {text rest : List Char}
    (unmarked : IsUnmarked text)
    (isSuffix : rest <:+ text) :
    IsUnmarked rest where
  toIsUnquoted := unmarked.toIsUnquoted.of_suffix isSuffix
  noOpening inRest := unmarked.noOpening (isSuffix.subset inRest)
  noClosing inRest := unmarked.noClosing (isSuffix.subset inRest)

namespace MacroTable

variable (macros : MacroTable)

/-- A word as it is shown: a macro whose name is at its front gives way to its body. -/
def expandWord : List Char → List Char
  | [] => []
  | first :: rest =>
      if Text.isNameStart first then
        match macros.find? (String.ofList (first :: rest.takeWhile Text.isNameCharacter)) with
        | some body => body.toList ++ rest.dropWhile Text.isNameCharacter
        | none => first :: rest
      else
        first :: rest

/-- A word as it is to be shown: a macro whose name is the word gives way to its body. -/
def expandWholeWord (word : List Char) : List Char :=
  match macros.find? (String.ofList word) with
  | some body => body.toList
  | none => word

/-- The bodies of macros are plain: without brackets, quotes and names of macros. -/
def HasPlainBodies : Prop :=
  ∀ name body,
    macros.find? name = some body → IsUnmarked body.toList ∧ NamesNoMacro macros body.toList

variable {macros}

/-- A word that starts like no name is kept. -/
theorem expandWord_of_noName
    {first : Char}
    (noStart : Text.isNameStart first = false)
    (rest : List Char) :
    macros.expandWord (first :: rest) = first :: rest := by
  simp [expandWord, noStart]

/-- A name at the front of a word is looked up. -/
theorem expandWord_of_name
    {first : Char}
    {front behind : List Char}
    (starts : Text.isNameStart first = true)
    (areOfName : front.all Text.isNameCharacter = true)
    (stops : Text.Stops Text.isNameCharacter behind) :
    macros.expandWord (first :: (front ++ behind)) =
      macros.expandWholeWord (first :: front) ++ behind := by
  rw [expandWord, if_pos starts, Text.takeWhile_run areOfName stops,
    Text.dropWhile_run areOfName stops, expandWholeWord]
  split <;> rfl

/-- In words that are spelled with the characters of names, whole words are replaced. -/
theorem expandWord_eq_expandWholeWord
    (areNames : ∀ name, macros.contains name = true → Text.isName name.toList = true)
    {word : List Char}
    (areOfName : ∀ character ∈ word, Text.isNameCharacter character = true)
    (notEmpty : word ≠ []) :
    macros.expandWord word = macros.expandWholeWord word := by
  obtain ⟨first, rest, rfl⟩ := List.exists_cons_of_ne_nil notEmpty
  cases starts : Text.isNameStart first with
  | true =>
      have areOfName : rest.all Text.isNameCharacter = true :=
        List.all_eq_true.mpr fun character member =>
          areOfName character (List.mem_cons_of_mem _ member)
      have noMore : Text.Stops Text.isNameCharacter [] := rfl
      have shown : macros.expandWord (first :: (rest ++ [])) = _ :=
        expandWord_of_name starts areOfName noMore
      rwa [List.append_nil, List.append_nil] at shown
  | false =>
      have notDefined : macros.find? (String.ofList (first :: rest)) = none := by
        by_contra isDefined
        have isName := areNames (String.ofList (first :: rest))
          (Option.isSome_iff_ne_none.mpr isDefined)
        simp [Text.isName, starts] at isName
      rw [expandWord_of_noName starts, expandWholeWord, notDefined]

end MacroTable

/-! ## What remains at a cursor, as it is shown -/

namespace Cursor

open Phrase

variable {macros : MacroTable} {cursor next : Cursor}

/-- The text from a cursor on as it is shown. -/
def expanded (macros : MacroTable) (cursor : Cursor) : List Char :=
  Text.mapWordsFrom macros.expandWord (!startsWord cursor) cursor.rest

/-- Behind a character, a word starts if that belongs to none. -/
theorem startsWord_advance
    {first : Char}
    {rest : List Char}
    (remaining : cursor.rest = first :: rest) :
    startsWord (cursor.advance 1) = !Text.isWordCharacter first := by
  have previous : (cursor.advance 1).previous? = some first := by
    rw [previous?, (Reads.of_cons remaining).before]
    rfl
  rw [startsWord, previous]

/-- Characters with which no name starts are shown as they are. -/
theorem expanded_of_noName
    {run : List Char}
    (reads : cursor.Reads run next)
    (noStart : ∀ character ∈ run, Text.isNameStart character = false) :
    cursor.expanded macros = run ++ next.expanded macros := by
  induction run generalizing cursor with
  | nil => rw [reads.unique (.nil cursor), List.nil_append]
  | cons first rest inductionHypothesis =>
      rw [List.forall_mem_cons] at noStart
      have remaining : cursor.rest = first :: (rest ++ next.rest) := reads.rest_eq
      have behind : (cursor.advance 1).rest = rest ++ next.rest := reads.tail.rest_eq
      rw [expanded, remaining,
        Text.mapWordsFrom_of_kept (MacroTable.expandWord_of_noName noStart.1), List.cons_append,
        ← inductionHypothesis reads.tail noStart.2, expanded, behind,
        startsWord_advance remaining, Bool.not_not]

/-- Behind characters of a word, that word goes on. -/
theorem startsWord_of_word
    {word : List Char}
    (reads : cursor.Reads word next)
    (notEmpty : word ≠ [])
    (areOfWord : ∀ character ∈ word, Text.isWordCharacter character = true) :
    startsWord next = false := by
  obtain ⟨last, front, isReversed⟩ :=
    List.exists_cons_of_ne_nil (List.reverse_ne_nil_iff.mpr notEmpty)
  have previous : next.previous? = some last := by
    rw [previous?, reads.before, isReversed]
    rfl
  have isLast : last ∈ word := by
    rw [← List.mem_reverse, isReversed]
    exact List.mem_cons_self
  simp only [startsWord, previous, areOfWord last isLast, Bool.not_true]

/-- A name is shown as it is inside a word, and at the front of a word it is looked up. -/
theorem expanded_of_name?
    {word : String}
    (read : cursor.name? = some (word, next)) :
    cursor.expanded macros =
      (if startsWord cursor then macros.expandWholeWord word.toList else word.toList) ++
        next.expanded macros := by
  obtain ⟨reads, first, rest, remaining, starts, isWord⟩ := reads_of_name? read
  obtain ⟨front, behind, split, areOfName, stops⟩ :=
    Text.exists_run Text.isNameCharacter rest
  have isName : word.toList = first :: front := by
    rw [isWord, split, Text.takeWhile_run areOfName stops]
  have isBehind : next.rest = behind :=
    reads.rest_of (by rw [remaining, split, isName, List.cons_append])
  have firstOfWord : Text.isWordCharacter first = true :=
    Text.isWordCharacter_of_isNameCharacter (Text.isNameCharacter_of_isNameStart starts)
  have areOfWord : ∀ character ∈ front, Text.isWordCharacter character = true :=
    fun character member =>
      Text.isWordCharacter_of_isNameCharacter (List.all_eq_true.mp areOfName character member)
  have goesOn : startsWord next = false :=
    startsWord_of_word reads (by simp [isName])
      (by rw [isName]; exact List.forall_mem_cons.mpr ⟨firstOfWord, areOfWord⟩)
  rw [expanded, expanded, goesOn, isBehind, remaining, split, isName]
  cases startsWord cursor with
  | false =>
      exact Text.mapWordsFrom_append (List.forall_mem_cons.mpr ⟨firstOfWord, areOfWord⟩) behind
  | true =>
      rw [Bool.not_true, Text.mapWordsFrom_false firstOfWord,
        List.takeWhile_append_of_pos areOfWord, List.dropWhile_append_of_pos areOfWord,
        MacroTable.expandWord_of_name starts areOfName (stops.takeWhile _), List.append_assoc]
      rfl

end Cursor

/-! ## Expansions -/

namespace CompilerState

/-- Text that is added one level deeper in expansions is added. -/
theorem AddsText.surface
    {before after : CompilerState}
    {content : String}
    (added : before.deepen.AddsText content after) :
    before.AddsText content after.surface := by
  obtain ⟨pieces, isContent, rfl⟩ := added
  refine ⟨pieces, isContent, ?_⟩
  rw [replay_of_emits fun _ _ => rfl]
  rfl

end CompilerState

namespace Compile

variable {inner : Inner} {length : Nat} {before : CompilerState}

/-- A text in which nothing means anything is read as the text of an expansion. -/
theorem expansion_finishes
    (reads : inner.ReadsUnclosed length)
    {source : Source}
    (unclosed : IsUnclosed before.macros source.text.toList)
    (short : source.text.length < length) :
    Finishes before (inner.expansion source) fun succeeded after =>
      succeeded = true ∧ before.AddsText source.text after := by
  refine (reads .expansion 0 "" source.cursor before (.inr rfl) unclosed
    (by rwa [source.rest_cursor, String.length_toList])).bind ?_
  rintro ⟨_, stop⟩ after ⟨_, reads, added⟩
  have atEnd : stop.rest = [] := reads.rest_of (List.append_nil _).symm
  rw [source.rest_cursor, String.ofList_toList, String.empty_append] at added
  exact .pure ⟨by simp [Cursor.isAtEnd, atEnd], added⟩

/-- A macro with such a body is expanded to its body. -/
theorem expandMacro_finishes
    (reads : inner.ReadsUnclosed length)
    {name body : String}
    (found : before.macros.find? name = some body)
    (unclosed : IsUnclosed before.macros body.toList)
    (short : body.length < length)
    (room : before.expansionDepth < expansionLimit)
    (position : Position) :
    Finishes before (expandMacro inner position name) fun _ after =>
      before.AddsText body after := by
  have isRead (source : Source) (isBody : source.text = body) :
      Finishes before.deepen (inner.expansion source) fun succeeded after =>
        succeeded = true ∧ before.AddsText body after.surface := by
    subst isBody
    have ended : Finishes before.deepen (inner.expansion source) _ :=
      expansion_finishes reads unclosed short
    exact ended.imp (fun _ => id) fun _ _ ended => ended.imp_right .surface
  unfold expandMacro
  apply Ends.state
  simp only [found]
  refine (mayExpand_finishes room position _).bind ?_
  rintro _ _ ⟨rfl, rfl⟩
  rw [if_pos rfl]
  exact expand_finishes (isRead _ rfl) position ("macro '" ++ name ++ "'")

end Compile

/-! ## Phrases -/

/--
What remains at a cursor can be expanded word by word: it is without brackets and quotes, and
shorter than some length even with the longest body of a macro behind it.
-/
structure Cursor.IsExpandable
    (macros : MacroTable)
    (longest length : Nat)
    (before : CompilerState)
    (cursor : Cursor) :
    Prop where
  sameMacros : before.macros = macros
  room : before.expansionDepth < expansionLimit
  unmarked : IsUnmarked cursor.rest
  short : cursor.rest.length + longest < length

/-- With the parsers inside, such a text is read to its end, and is added as it is shown. -/
def Inner.ExpandsWords (inner : Inner) (macros : MacroTable) (longest length : Nat) : Prop :=
  ∀ (buffer : String) (cursor : Cursor) (before : CompilerState),
    cursor.IsExpandable macros longest length before →
      Finishes before (inner.phraseFrom .expansion 0 buffer cursor)
        (Phrase.ReadsToEnd before cursor true
          (buffer ++ String.ofList (cursor.expanded macros)))

namespace Phrase

variable {inner : Inner} {macros : MacroTable} {longest length : Nat}
  {before middle : CompilerState} {cursor next : Cursor}

section Step

variable (expands : inner.ExpandsWords macros longest length)
  (expandable : cursor.IsExpandable macros longest (length + 1) before)

include expands expandable

/-- Behind some text of which it is known how it is shown, the rest is read. -/
theorem phraseFrom_expandsWords
    {run shown : List Char}
    (readsRun : cursor.Reads run next)
    (notEmpty : run ≠ [])
    (isShown : cursor.expanded macros = shown ++ next.expanded macros)
    {buffer collected kept : String}
    (added : before.AddsText collected middle)
    (same : collected ++ kept = buffer ++ String.ofList shown) :
    Finishes middle (inner.phraseFrom .expansion 0 kept next)
      (ReadsToEnd before cursor true
        (buffer ++ String.ofList (cursor.expanded macros))) := by
  have shorter := readsRun.length_rest_lt notEmpty
  have short := expandable.short
  have stillExpandable : next.IsExpandable macros longest length middle :=
    { sameMacros := added.macros_eq.trans expandable.sameMacros
      room := by rw [added.expansionDepth_eq]; exact expandable.room
      unmarked := expandable.unmarked.of_suffix ⟨run, readsRun.rest_eq.symm⟩
      short := by omega }
  rw [isShown]
  exact (expands kept next middle stillExpandable).imp (fun _ => id)
    fun _ _ readsToEnd => readsToEnd.behind readsRun added same

variable (reads : inner.ReadsUnclosed length)
  (plain : macros.HasPlainBodies)
  (areShort : ∀ name body, macros.find? name = some body → body.length ≤ longest)

include reads plain areShort

/-- A macro is expanded where a word starts with its name, and other names are text. -/
theorem name_expandsWords
    {word : String}
    (read : cursor.name? = some (word, next))
    (buffer : String) :
    Finishes before (name inner .expansion 0 buffer cursor word next)
      (ReadsToEnd before cursor true
        (buffer ++ String.ofList (cursor.expanded macros))) := by
  obtain ⟨readsWord, _, _, _, _, isWord⟩ := Cursor.reads_of_name? read
  have notEmpty : word.toList ≠ [] := by simp [isWord]
  have isShown : cursor.expanded macros = _ := Cursor.expanded_of_name? read
  unfold name
  apply Ends.state
  rw [expandable.sameMacros]
  split
  next isCall =>
    obtain ⟨isMacro, starts⟩ := Bool.and_eq_true_iff.mp isCall
    obtain ⟨body, found⟩ : ∃ body, macros.find? word = some body :=
      Option.isSome_iff_exists.mp isMacro
    have isBody : macros.expandWholeWord word.toList = body.toList := by
      simp only [MacroTable.expandWholeWord, String.ofList_toList, found]
    rw [starts, if_pos rfl, isBody] at isShown
    have flushed := CompilerState.AddsText.text before buffer
    have sameMacros := flushed.macros_eq.trans expandable.sameMacros
    obtain ⟨unmarkedBody, noMacro⟩ := plain word body found
    have unclosedBody : IsUnclosed (before.text buffer).macros body.toList :=
      ⟨unmarkedBody.toIsUnquoted, unmarkedBody.noClosing, by rwa [sameMacros]⟩
    have shortBody : body.length < length := by
      have short := expandable.short
      have isShort := areShort word body found
      have shorter := readsWord.length_rest_lt notEmpty
      omega
    apply Ends.updateThen
    refine Ends.bind (expandMacro_finishes reads (by rwa [sameMacros]) unclosedBody shortBody
      (by rw [flushed.expansionDepth_eq]; exact expandable.room) _) ?_
    intro _ middle added
    exact phraseFrom_expandsWords expands expandable readsWord notEmpty isShown
      (flushed.trans added) (by rw [String.append_empty, String.ofList_toList])
  next noCall =>
    have kept : cursor.expanded macros = word.toList ++ next.expanded macros := by
      rw [isShown]
      split
      next starts =>
        have notDefined : macros.find? word = none := by
          rw [starts, Bool.and_true] at noCall
          exact Option.not_isSome_iff_eq_none.mp noCall
        simp only [MacroTable.expandWholeWord, String.ofList_toList, notDefined]
      next => rfl
    exact phraseFrom_expandsWords expands expandable readsWord notEmpty kept (.refl before)
      (by rw [String.empty_append, String.ofList_toList])

/-- If the parsers inside expand the words of a text that is shorter, a step does so. -/
theorem step_expandsWords (buffer : String) :
    Finishes before (Phrase.step inner .expansion 0 buffer cursor)
      (ReadsToEnd before cursor true
        (buffer ++ String.ofList (cursor.expanded macros))) := by
  have unmarked := expandable.unmarked
  cases remaining : cursor.rest with
  | nil =>
      have ends : Finishes before _ (ReadsToEnd before cursor true buffer) :=
        step_readsToEnd remaining inner .expansion 0 before buffer
      simpa [Cursor.expanded, remaining] using ends
  | cons first rest =>
      cases read : cursor.name? with
      | none =>
          have notOpening : first ≠ '[' := by
            rintro rfl
            exact unmarked.noOpening (by simp [remaining])
          have notClosing : first ≠ ']' := by
            rintro rfl
            exact unmarked.noClosing (by simp [remaining])
          obtain ⟨run, next, notEmpty, noStart, readsRun, isStep⟩ :=
            exists_step_of_noName unmarked.toIsUnquoted (.inr rfl) remaining notOpening
              notClosing read
          rw [isStep]
          exact phraseFrom_expandsWords expands expandable readsRun notEmpty
            (Cursor.expanded_of_noName readsRun noStart) (.refl before) (String.empty_append ..)
      | some found =>
          rw [step_of_name read]
          exact name_expandsWords expands expandable reads plain areShort read buffer

end Step

end Phrase

/-- With enough steps, the parsers expand the macros of such a text. -/
theorem Inner.within_expandsWords
    {macros : MacroTable}
    {longest : Nat}
    (plain : macros.HasPlainBodies)
    (areShort : ∀ name body, macros.find? name = some body → body.length ≤ longest)
    (environment : Environment)
    (steps : Nat) :
    (Inner.within environment steps).ExpandsWords macros longest steps := by
  induction steps with
  | zero =>
      intro buffer cursor before expandable
      exact absurd expandable.short (Nat.not_lt_zero _)
  | succ steps inductionHypothesis =>
      intro buffer cursor before expandable
      exact Phrase.step_expandsWords inductionHypothesis expandable
        (within_readsUnclosed environment steps) plain areShort buffer

/--
In a text without brackets and quotes, a macro gives way to its body at the front of
every word that starts with its name, and everything else stands as it is, if the bodies
of macros are without brackets, quotes and names of macros. The whole text is read, and
only character data is added. If all words of the text are spelled with the characters of
names, only whole words give way.
-/
theorem macros_expand_at_front_of_words
    (environment : Environment)
    (source : Source)
    (unmarked : IsUnmarked source.text.toList)
    (workspace : Workspace)
    (plain : workspace.state.macros.HasPlainBodies)
    (room : workspace.state.expansionDepth < expansionLimit)
    (settled : workspace.state.pendingParagraph = false) :
    (∃ pieces after,
      parsing environment source.text.length (fun inner => inner.phrase .expansion source.cursor)
          workspace =
        .ok (true, source.cursorAt source.text.length) after ∧
        String.join pieces =
            String.ofList (Text.mapWords workspace.state.macros.expandWord source.text.toList) ∧
          after.state =
            { workspace.state with
              events := workspace.state.events ++ (pieces.map Event.text).toArray }) ∧
      ((∀ character ∈ source.text.toList,
          Text.isWordCharacter character = true → Text.isNameCharacter character = true) →
        (∀ name, workspace.state.macros.contains name = true → Text.isName name.toList = true) →
          Text.mapWords workspace.state.macros.expandWord source.text.toList =
            Text.mapWords workspace.state.macros.expandWholeWord source.text.toList) := by
  constructor
  · let longest := longestText environment workspace.state source.text.length
    have areShort :
        ∀ name body, workspace.state.macros.find? name = some body → body.length ≤ longest :=
      fun _ _ found => CompilerState.bounded_longestText.macros.of_find? found
    have enough :
        source.text.length + longest <
          enoughSteps environment workspace.state source.text.length :=
      add_longestText_lt_enoughSteps CompilerState.given_le_longestText
    have isRead :
        Finishes workspace.state
          (parsing environment source.text.length fun inner =>
            inner.phrase .expansion source.cursor) _ :=
      .state <|
        Inner.within_expandsWords plain areShort environment _ "" source.cursor workspace.state
          ⟨rfl, room, unmarked, by rwa [source.rest_cursor, String.length_toList]⟩
    obtain ⟨⟨closed, stop⟩, after, ended, rfl, reads, added⟩ := isRead.exists_ok
    obtain rfl := reads.unique (Cursor.Reads.whole source)
    obtain ⟨pieces, isText, isAfter⟩ := added.exists_pieces settled
    refine ⟨pieces, after, ended, ?_, isAfter⟩
    rw [isText, String.empty_append]
    rfl
  · intro areOfName areNames
    refine Text.mapWords_congr fun word notEmpty areOfWord => ?_
    refine MacroTable.expandWord_eq_expandWholeWord areNames ?_ notEmpty
    intro character member
    exact areOfName character (areOfWord character member).1 (areOfWord character member).2

/-- In words of English letters, a macro gives way to its body where it is the whole word. -/
theorem macros_expand_at_front_of_words_of_names :
    let source : Source := { text := "caf cafe (_caf caf_)\n9caf caf9 caf", name := "note" }
    let environment : Environment :=
      { files := ⟨[], [], []⟩, encoding := .html, moment := .fixed }
    let state : CompilerState :=
      { macros := MacroTable.define {} "caf" "an X"
        expansionDepth := 49 }
    IsUnmarked source.text.toList ∧
      state.macros.HasPlainBodies ∧
        ∃ pieces after,
          parsing environment source.text.length
              (fun inner => inner.phrase .expansion source.cursor) { state := state } =
            .ok (true, source.cursorAt source.text.length) after ∧
            String.join pieces =
                String.ofList (Text.mapWords state.macros.expandWholeWord source.text.toList) ∧
              after.state =
                { state with events := state.events ++ (pieces.map Event.text).toArray } := by
  intro source environment state
  have unmarked : IsUnmarked source.text.toList :=
    ⟨⟨by decide +kernel, by decide +kernel, by decide +kernel⟩, by decide +kernel,
      by decide +kernel⟩
  have isNamed (name : String) (isMacro : state.macros.contains name = true) : "caf" = name := by
    simpa [state, MacroTable.contains, MacroTable.define, NameTable.contains, NameTable.find?,
      NameTable.insert, NameTable.insertEntry] using isMacro
  have plain : state.macros.HasPlainBodies := by
    intro name body found
    obtain rfl := isNamed name (Option.isSome_of_mem found)
    obtain rfl : "an X" = body := Option.some.inj found
    refine ⟨⟨⟨by decide +kernel, by decide +kernel, by decide +kernel⟩, by decide +kernel,
      by decide +kernel⟩, ?_⟩
    intro name isMacro
    obtain rfl := isNamed name isMacro
    decide +kernel
  have areNames (name : String) (isMacro : state.macros.contains name = true) :
      Text.isName name.toList = true := by
    obtain rfl := isNamed name isMacro
    decide +kernel
  have areOfName :
      ∀ character ∈ source.text.toList,
        Text.isWordCharacter character = true → Text.isNameCharacter character = true := by
    intro character member isOfWord
    have areAll :
        (source.text.toList.all fun character =>
          !Text.isWordCharacter character || Text.isNameCharacter character) = true := by
      simp only [Text.isWordCharacter, Text.isAlphanumeric, Text.CodePointSet.contains_eq_foldl]
      decide +kernel
    simpa [isOfWord] using List.all_eq_true.mp areAll character member
  obtain ⟨⟨pieces, after, ended, isText, isAfter⟩, isWhole⟩ :=
    macros_expand_at_front_of_words environment source unmarked { state := state } plain
      (by decide) rfl
  rw [isWhole areOfName areNames] at isText
  exact ⟨unmarked, plain, pieces, after, ended, isText, isAfter⟩

/--
A macro is expanded in front of a letter that is no English one, though the word that it
starts goes on with that letter.
-/
theorem macro_is_expanded_in_part_of_word :
    let source : Source := { text := "café", name := "note" }
    let environment : Environment :=
      { files := ⟨[], [], []⟩, encoding := .html, moment := .fixed }
    let state : CompilerState := { macros := MacroTable.define {} "caf" "X" }
    eventsAfter?
        (parsing environment source.text.length
          (fun inner => inner.phrase .expansion source.cursor) { state := state }) =
        some [.text "X", .text "é"] ∧
      Text.mapWords state.macros.expandWholeWord source.text.toList = source.text.toList := by
  intro source environment state
  refine ⟨by decide +kernel, ?_⟩
  have isForeign : Text.isWordCharacter 'é' = true := by
    simp only [Text.isWordCharacter, Text.isAlphanumeric, Text.CodePointSet.contains_eq_foldl]
    decide +kernel
  have isText : source.text.toList = ['c', 'a', 'f', 'é'] := by decide +kernel
  have areOfWord : ∀ character ∈ ['a', 'f', 'é'], Text.isWordCharacter character = true := by
    simp only [List.forall_mem_cons]
    exact ⟨by decide, by decide, isForeign, List.forall_mem_nil _⟩
  have kept : state.macros.expandWholeWord ['c', 'a', 'f', 'é'] = ['c', 'a', 'f', 'é'] := by
    decide +kernel
  rw [isText, Text.mapWords, if_pos (by decide), List.takeWhile_eq_self_iff.mpr areOfWord, kept,
    List.dropWhile_eq_nil_iff.mpr areOfWord, Text.mapWords, List.append_nil]

end DocMarkup
