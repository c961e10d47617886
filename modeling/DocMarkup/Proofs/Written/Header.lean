import DocMarkup.Grammar.Header
import DocMarkup.Proofs.DocInfo.Reader
import DocMarkup.Proofs.Grammar.Progress
import DocMarkup.Proofs.Grammar.Wording
import DocMarkup.Proofs.Written.DocInfo
import DocMarkup.Proofs.Written.Output
import DocMarkup.Proofs.Written.Phrase

namespace DocMarkup

open Compile Text

/-!
# Headers in which no macro is named

A phrase without brackets, backslashes and three quotes in a row is read to its end,
and if no macro is named in it, reading it does nothing but to add output. So does
writing the header of a document whose phrases are like that. What is added does not
depend on the number of steps that there are.
-/

/-! ## Phrases that only add output -/

/-- A text without brackets, backslashes and three quotes in a row, in which no macro is named. -/
structure IsQuiet (macros : MacroTable) (text : List Char) : Prop where
  areUncounted : ∀ character ∈ text, Cursor.IsUncounted character
  noQuotes : ¬ escapeQuotes <:+: text
  noMacro : NamesNoMacro macros text

/-- What remains of such a text is such a text. -/
theorem IsQuiet.of_suffix
    {macros : MacroTable}
    {text rest : List Char}
    (quiet : IsQuiet macros text)
    (isSuffix : rest <:+ text) :
    IsQuiet macros rest where
  areUncounted character member := quiet.areUncounted character (isSuffix.subset member)
  noQuotes inRest := quiet.noQuotes (inRest.trans isSuffix.isInfix)
  noMacro := quiet.noMacro.of_suffix isSuffix

namespace Cursor

variable {cursor next : Cursor}

/-- Without three quotes there is no markup to be passed through. -/
theorem rawEscape?_eq_none (noQuotes : ¬ escapeQuotes <:+: cursor.rest) :
    cursor.rawEscape? = none := by
  have noPrefix : ¬ escapeQuotes.isPrefixOf cursor.rest = true := fun isPrefix =>
    noQuotes (List.isPrefixOf_iff_prefix.mp isPrefix).isInfix
  rw [rawEscape?, if_neg noPrefix]

end Cursor

namespace Phrase

/--
A step of a phrase adds some output and goes on further on with another buffer. It
does so for all parsers and in all states with the given macros.
-/
structure StepsTo
    (macros : MacroTable)
    (buffer : String)
    (cursor : Cursor)
    (events : List Event)
    (nextBuffer : String)
    (next : Cursor) :
    Prop where
  isSuffix : next.rest <:+ cursor.rest
  isShorter : next.rest.length < cursor.rest.length
  goesOn :
    ∀ (inner : Inner) (before after : CompilerState) (value : Bool × Cursor),
      before.macros = macros →
      Yields (before.replay events) (inner.phraseFrom .expansion 0 nextBuffer next) value after →
      Yields before (Phrase.step inner .expansion 0 buffer cursor) value after

section Steps

variable {macros : MacroTable} {buffer : String} {cursor next : Cursor} {first : Char}
  {rest : List Char}

/-- One character further on, less remains. -/
theorem isShorter_advance_one (remaining : cursor.rest = first :: rest) :
    (cursor.advance 1).rest.length < cursor.rest.length := by
  simp [remaining]

/-- A line feed is collected. -/
theorem stepsTo_lineFeed (remaining : cursor.rest = '\n' :: rest) :
    StepsTo macros buffer cursor [] (buffer.push '\n') (cursor.advance 1) where
  isSuffix := (Cursor.Leads.advance cursor 1).rest_suffix
  isShorter := isShorter_advance_one remaining
  goesOn inner before after value sameMacros goesOn := by
    unfold Phrase.step
    simp only [remaining]
    exact goesOn

/-- Code is added to the output. -/
theorem stepsTo_code
    {code : String}
    (opens : cursor.rest.head? = some codeQuote)
    (read : cursor.inlineCode? = some (code, next)) :
    StepsTo macros buffer cursor
      (textEvents buffer ++ .opening "code" [] :: (textEvents code ++ [.closing "code"])) ""
      next where
  isSuffix := (Cursor.Leads.inlineCode? read).rest_suffix
  isShorter := Cursor.length_rest_inlineCode?_lt read
  goesOn inner before after value sameMacros goesOn := by
    rw [CompilerState.replay_append, ← CompilerState.text_eq_replay,
      ← CompilerState.leaf_eq_replay] at goesOn
    refine step_of_quotation opens (Yields.firstOf [] (by simp) ?_) goesOn
    simp only [inlineCode, read]
    exact Yields.updateThen (.pure _)

/-- A quote that opens no code is text. -/
theorem stepsTo_codeQuote
    (remaining : cursor.rest = codeQuote :: rest)
    (noCode : cursor.inlineCode? = none)
    (noQuotes : ¬ escapeQuotes <:+: cursor.rest) :
    StepsTo macros buffer cursor (textEvents buffer) (String.singleton codeQuote)
      (cursor.advance 1) where
  isSuffix := (Cursor.Leads.advance cursor 1).rest_suffix
  isShorter := isShorter_advance_one remaining
  goesOn inner before after value sameMacros goesOn := by
    rw [← CompilerState.text_eq_replay] at goesOn
    have codeYields :
        Yields (before.text buffer) (inlineCode cursor) none (before.text buffer) := by
      simp only [inlineCode, noCode]
      exact .pure none
    have rawYields : Yields (before.text buffer) (rawEscape cursor) none (before.text buffer) := by
      simp only [rawEscape, Cursor.rawEscape?_eq_none noQuotes]
      exact .pure none
    have noneYields :
        Yields (before.text buffer) (firstOf quotations cursor) none (before.text buffer) :=
      (Yields.attempt_none codeYields (.refl _)).bind
        ((Yields.attempt_none rawYields (.refl _)).bind (.pure none))
    unfold Phrase.step
    simp only [remaining]
    exact Yields.updateThen (noneYields.bind goesOn)

/-- A word that is not the name of a macro is collected. -/
theorem stepsTo_word
    {word : String}
    (noMacro : NamesNoMacro macros cursor.rest)
    (read : cursor.name? = some (word, next)) :
    StepsTo macros buffer cursor [] (buffer ++ word) next where
  isSuffix := (Cursor.Leads.name? read).rest_suffix
  isShorter := Cursor.length_rest_name?_lt read
  goesOn inner before after value sameMacros goesOn := by
    have notDefined : before.macros.contains word = false := by
      rw [sameMacros]
      exact noMacro.not_contains (Cursor.infix_of_name? read)
    rw [step_of_name read]
    unfold name
    apply Yields.state
    simp only [notDefined, Bool.false_and, Bool.false_eq_true, ↓reduceIte]
    exact goesOn

/-- Text that means nothing is collected. -/
theorem exists_stepsTo_plain
    (remaining : cursor.rest = first :: rest)
    (isMeaningless : IsMeaningless first rest)
    (noName : cursor.name? = none) :
    ∃ nextBuffer next, StepsTo macros buffer cursor [] nextBuffer next := by
  have step (inner : Inner) :
      Phrase.step inner .expansion 0 buffer cursor =
        plain inner .expansion 0 buffer cursor first := by
    rw [step_of_isMeaningless remaining isMeaningless, noName]
  cases read : cursor.plainRun? with
  | some found =>
      obtain ⟨run, next⟩ := found
      refine ⟨buffer ++ run, next, (Cursor.Leads.plainRun? read).rest_suffix,
        Cursor.length_rest_plainRun?_lt read, ?_⟩
      intro inner before after value sameMacros goesOn
      simp only [step, plain, read]
      exact goesOn
  | none =>
      refine ⟨buffer.push first, cursor.advance 1, (Cursor.Leads.advance cursor 1).rest_suffix,
        isShorter_advance_one remaining, ?_⟩
      intro inner before after value sameMacros goesOn
      simp only [step, plain, read]
      exact goesOn

/-- Every step of a quiet phrase goes on further on. -/
theorem exists_stepsTo
    (quiet : IsQuiet macros cursor.rest)
    (remaining : cursor.rest = first :: rest)
    (buffer : String) :
    ∃ events nextBuffer next, StepsTo macros buffer cursor events nextBuffer next := by
  by_cases isLineFeed : first = '\n'
  · subst isLineFeed
    exact ⟨_, _, _, stepsTo_lineFeed remaining⟩
  by_cases isCodeQuote : first = codeQuote
  · subst isCodeQuote
    cases read : cursor.inlineCode? with
    | some found =>
        exact ⟨_, _, _, stepsTo_code (by rw [remaining]; rfl) read⟩
    | none =>
        exact ⟨_, _, _, stepsTo_codeQuote remaining read quiet.noQuotes⟩
  have isMeaningless : IsMeaningless first rest :=
    { isUncounted := quiet.areUncounted first (by simp [remaining])
      noLineFeed := isLineFeed
      noCodeQuote := isCodeQuote
      noQuotes := by
        rw [Bool.eq_false_iff, ← remaining]
        exact fun isPrefix => quiet.noQuotes (List.isPrefixOf_iff_prefix.mp isPrefix).isInfix }
  cases read : cursor.name? with
  | some found =>
      exact ⟨_, _, _, stepsTo_word quiet.noMacro read⟩
  | none =>
      obtain ⟨nextBuffer, next, stepsTo⟩ := exists_stepsTo_plain remaining isMeaningless read
      exact ⟨_, _, _, stepsTo⟩

/-- A quiet phrase is read to its end, and all that it does is to add output. -/
theorem exists_yields_of_isQuiet
    (quiet : IsQuiet macros cursor.rest)
    (buffer : String) :
    ∃ events stop,
      stop.rest = [] ∧
        ∀ (environment : Environment) (steps : Nat) (before : CompilerState),
          before.macros = macros →
          cursor.rest.length < steps →
          Yields before (phraseWithin environment steps .expansion 0 buffer cursor) (true, stop)
            (before.replay events) := by
  -- Every step leaves less to read, whatever it reads, so the induction is on the length.
  obtain ⟨length, isLength⟩ : ∃ length, length = cursor.rest.length := ⟨_, rfl⟩
  induction length using Nat.strongRecOn generalizing cursor buffer with
  | ind length inductionHypothesis =>
      cases remaining : cursor.rest with
      | nil =>
          refine ⟨textEvents buffer, cursor, remaining, ?_⟩
          intro environment steps before sameMacros enough
          obtain ⟨left, rfl⟩ := Nat.exists_eq_succ_of_ne_zero (show steps ≠ 0 by omega)
          rw [← CompilerState.text_eq_replay]
          exact step_of_endsAt (.inr ⟨remaining, by decide⟩) buffer
      | cons first rest =>
          obtain ⟨events, nextBuffer, next, isSuffix, isShorter, goesOn⟩ :=
            exists_stepsTo quiet remaining buffer
          obtain ⟨more, stop, atEnd, isRead⟩ :=
            inductionHypothesis next.rest.length (by omega) (quiet.of_suffix isSuffix) nextBuffer
              rfl
          refine ⟨events ++ more, stop, atEnd, ?_⟩
          intro environment steps before sameMacros enough
          rw [← remaining] at enough
          obtain ⟨left, rfl⟩ := Nat.exists_eq_succ_of_ne_zero (show steps ≠ 0 by omega)
          refine goesOn _ before _ _ sameMacros ?_
          rw [CompilerState.replay_append]
          refine isRead environment left (before.replay events) ?_ (by omega)
          rw [CompilerState.replay_eq]
          exact sameMacros

end Steps

end Phrase

/-! ## Computations that only add output -/

/-- A change that adds the same output to every state. -/
def Emits (change : CompilerState → CompilerState) : Prop :=
  ∃ events, ∀ state : CompilerState, change state = state.replay events

namespace Emits

variable {first second : CompilerState → CompilerState}

/-- A state that is left as it is. -/
theorem refl : Emits fun state => state :=
  ⟨[], fun _ => rfl⟩

/-- One change after another. -/
theorem comp
    (secondEmits : Emits second)
    (firstEmits : Emits first) :
    Emits fun state => second (first state) := by
  obtain ⟨firstEvents, isFirst⟩ := firstEmits
  obtain ⟨secondEvents, isSecond⟩ := secondEmits
  refine ⟨firstEvents ++ secondEvents, fun state => ?_⟩
  rw [CompilerState.replay_append, ← isFirst, ← isSecond]

/-- The start of an element. -/
theorem startElement (name : String) (attributes : List Attribute) :
    Emits fun state => state.startElement name attributes :=
  ⟨[.opening name attributes], fun _ => rfl⟩

/-- The end of an element. -/
theorem endElement (name : String) : Emits fun state => state.endElement name :=
  ⟨[.closing name], fun _ => rfl⟩

/-- An element that holds character data. -/
theorem leaf (name content : String) : Emits fun state => state.leaf name content :=
  ⟨_, fun state => state.leaf_eq_replay name content⟩

/-- The same kind of change for every entry of a list. -/
theorem foldl
    {change : CompilerState → α → CompilerState}
    (emits : ∀ entry, Emits fun state => change state entry)
    (entries : List α) :
    Emits fun state => entries.foldl change state := by
  induction entries with
  | nil => exact refl
  | cons entry rest inductionHypothesis => exact inductionHypothesis.comp (emits entry)

/-- Authors are shown. -/
theorem showAuthors (authors : List Author) : Emits (Compile.showAuthors authors) := by
  have one (author : Author) : Emits fun state => Compile.showAuthor state author :=
    (endElement "author").comp
      ((leaf "surname" author.surname).comp
        ((leaf "firstname" author.firstname).comp (startElement "author" [])))
  unfold Compile.showAuthors
  split
  · exact refl
  · exact (endElement "authorgroup").comp ((foldl one authors).comp (startElement _ []))

/-- A copyright is shown. -/
theorem showCopyright (notice : Copyright) :
    Emits fun state => Compile.showCopyright state notice :=
  (endElement "copyright").comp
    ((leaf "holder" notice.holder).comp
      ((foldl (fun year => leaf "year" year) notice.years).comp (startElement "copyright" [])))

/-- The category is shown. -/
theorem showCategory (info : DocInfo) : Emits (Compile.showCategory info) := by
  unfold Compile.showCategory
  split
  · exact leaf _ _
  · exact refl

end Emits

/--
A computation with enough steps only adds output to states with the given macros, the
same output to all of them.
-/
def Adds
    (environment : Environment)
    (macros : MacroTable)
    (needed : Nat)
    (use : Inner → Compile α)
    (value : α) :
    Prop :=
  ∃ events,
    ∀ (steps : Nat) (before : CompilerState),
      before.macros = macros →
      needed < steps →
      Yields before (use (Inner.within environment steps)) value (before.replay events)

namespace Adds

variable {environment : Environment} {macros : MacroTable} {needed : Nat}

/-- A value is given without any output. -/
theorem pure (value : α) : Adds environment macros needed (fun _ => Pure.pure value) value :=
  ⟨[], fun _ _ _ _ => .pure value⟩

/-- A change that adds output. -/
theorem update
    {change : CompilerState → CompilerState}
    (emits : Emits change) :
    Adds environment macros needed (fun _ => Compile.update change) () := by
  obtain ⟨events, isChange⟩ := emits
  refine ⟨events, fun steps before _ _ => ?_⟩
  rw [← isChange]
  exact .update change

/-- One computation after another. -/
theorem bind
    {first : Inner → Compile Unit}
    {next : Inner → Compile α}
    {value : α}
    (firstAdds : Adds environment macros needed first ())
    (nextAdds : Adds environment macros needed next value) :
    Adds environment macros needed (fun inner => first inner >>= fun _ => next inner) value := by
  obtain ⟨firstEvents, isFirst⟩ := firstAdds
  obtain ⟨nextEvents, isNext⟩ := nextAdds
  refine ⟨firstEvents ++ nextEvents, fun steps before sameMacros enough => ?_⟩
  rw [CompilerState.replay_append]
  refine (isFirst steps before sameMacros enough).bind (isNext steps _ ?_ enough)
  rw [CompilerState.replay_eq]
  exact sameMacros

/-- A quiet phrase of the document information is shown. -/
theorem showField
    (position : Position)
    {markup : String}
    (quiet : IsQuiet macros markup.toList)
    (short : markup.length ≤ needed) :
    Adds environment macros needed (fun inner => Compile.showField inner position markup) () := by
  let source : Source := { text := markup, name := position.file, origin := some position }
  obtain ⟨events, stop, atEnd, isRead⟩ :=
    Phrase.exists_yields_of_isQuiet (show IsQuiet macros source.cursor.rest from quiet) ""
  refine ⟨events, fun steps before sameMacros enough => ?_⟩
  have isShort : source.cursor.rest.length < steps := by
    rw [source.rest_cursor, String.length_toList]
    exact Nat.lt_of_le_of_lt short enough
  have expanded :
      Yields before ((Inner.within environment steps).expansion source) true
        (before.replay events) := by
    refine (isRead environment steps before sameMacros isShort).bind ?_
    simp only [Cursor.isAtEnd, atEnd, List.isEmpty_nil]
    exact .pure true
  exact Yields.state (expanded.bind (.pure ()))

end Adds

/-! ## Headers -/

/-- Document information with phrases that are quiet. -/
structure DocInfo.IsQuietIn (macros : MacroTable) (info : DocInfo) : Prop where
  title : IsQuiet macros info.title.toList
  license : ∀ markup, info.license = some markup → IsQuiet macros markup.toList
  purpose : ∀ markup, info.purpose = some markup → IsQuiet macros markup.toList

section Headers

variable {environment : Environment} {macros : MacroTable} {needed : Nat} {info : DocInfo}

/-- The licence is shown. -/
theorem adds_showLicense
    (position : Position)
    (quiet : info.IsQuietIn macros)
    (fits : info.Fits needed) :
    Adds environment macros needed (fun inner => showLicense inner position info) () := by
  by_cases given : isGiven info.license = true
  · have isThere := eq_some_of_isGiven given
    simp only [showLicense, given, ↓reduceIte]
    exact
      (Adds.update ((Emits.startElement "para" []).comp (.startElement "legalnotice" []))).bind
        ((Adds.showField position (quiet.license _ isThere) (fits.license _ isThere)).bind
          (.update ((Emits.endElement "legalnotice").comp (.endElement "para"))))
  · simp only [showLicense, given, Bool.false_eq_true, ↓reduceIte]
    exact .pure ()

/-- The purpose is shown. -/
theorem adds_showPurpose
    (position : Position)
    (quiet : info.IsQuietIn macros)
    (fits : info.Fits needed) :
    Adds environment macros needed (fun inner => showPurpose inner position info) () := by
  by_cases given : isGiven info.purpose = true
  · have isThere := eq_some_of_isGiven given
    simp only [showPurpose, given, ↓reduceIte]
    exact
      (Adds.update (.startElement "purpose" [])).bind
        ((Adds.showField position (quiet.purpose _ isThere) (fits.purpose _ isThere)).bind
          (.update (.endElement "purpose")))
  · simp only [showPurpose, given, Bool.false_eq_true, ↓reduceIte]
    exact .pure ()

/-- All that stands beside the title is shown. -/
theorem adds_showDetails
    (position : Position)
    (quiet : info.IsQuietIn macros)
    (fits : info.Fits needed) :
    Adds environment macros needed (fun inner => showDetails inner position info) () := by
  have front :
      Emits fun state =>
        info.copyrights.foldl showCopyright
          (showAuthors info.authors (state.startElement "docinfo")) :=
    (Emits.foldl Emits.showCopyright info.copyrights).comp
      ((Emits.showAuthors info.authors).comp (.startElement "docinfo" []))
  exact
    (Adds.update front).bind
      ((adds_showLicense position quiet fits).bind
        ((Adds.update (.endElement "docinfo")).bind
          ((adds_showPurpose position quiet fits).bind (.update (.showCategory info)))))

/-- Information with a title and an identifier is complete, and its phrases stay as they are. -/
theorem DocInfo.exists_complete
    {id : String}
    (title : ¬ isBlankText info.title = true)
    (isTrimmed : trimmed info.title = info.title)
    (isId : info.id = some id)
    (idNotBlank : ¬ isBlankText (trimmed id) = true)
    (encoding : Encoding)
    (moment : Moment) :
    ∃ complete,
      info.complete encoding moment = .ok complete ∧
        complete.title = info.title ∧ complete.license = info.license ∧
          complete.purpose = info.purpose := by
  have nothingMissing :
      ({ info with title := trimmed info.title, id := info.id.map trimmed } :
        DocInfo).missingNames encoding = [] := by
    cases encoding <;>
      simp [missingNames, isTrimmed, title, isId, idNotBlank]
  simp only [complete, nothingMissing, List.isEmpty_nil, ↓reduceIte]
  exact ⟨_, rfl, isTrimmed, rfl, rfl⟩

/-- Writing a header with quiet phrases sets the identifier of the document and adds output. -/
theorem exists_header
    {complete : DocInfo}
    (isShown : info.ignore = false)
    (isComplete : info.complete environment.encoding environment.moment = .ok complete)
    (quiet : complete.IsQuietIn macros)
    (fits : complete.Fits needed)
    (position : Position) :
    ∃ events,
      ∀ (steps : Nat) (before : CompilerState),
        before.macros = macros →
        needed < steps →
        Yields before (processDocInfo environment (Inner.within environment steps) info position)
          true ({ before with docId := complete.id }.replay events) := by
  have shown :
      Adds environment macros needed
        (fun inner => do
          update fun state =>
            (state.startElement "document" complete.documentAttributes).startElement "title"
          showField inner position complete.title
          update fun state => state.endElement "title"
          if hasDetails complete then
            showDetails inner position complete
            return true
          else
            return true)
        true := by
    refine (Adds.update ((Emits.startElement "title" []).comp (.startElement "document" _))).bind ?_
    refine (Adds.showField position quiet.title fits.title).bind ?_
    refine (Adds.update (.endElement "title")).bind ?_
    by_cases details : hasDetails complete = true
    · simp only [details, ↓reduceIte]
      exact (adds_showDetails position quiet fits).bind (.pure true)
    · simp only [details, Bool.false_eq_true, ↓reduceIte]
      exact .pure true
  obtain ⟨events, isShownSo⟩ := shown
  refine ⟨events, fun steps before sameMacros enough => ?_⟩
  simp only [processDocInfo, isShown, Bool.false_eq_true, ↓reduceIte, isComplete]
  exact isShownSo steps { before with docId := complete.id } sameMacros enough

end Headers

end DocMarkup
