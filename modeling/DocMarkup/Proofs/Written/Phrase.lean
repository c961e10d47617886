import DocMarkup.Proofs.Grammar.Longest
import DocMarkup.Proofs.Written.PhraseTree
import DocMarkup.Proofs.Written.Run

namespace DocMarkup

open Compile PhraseTree Text

/-!
# Phrases read back

A phrase that was written from a tree is read as that tree: its events are added
to the output and nothing else happens. Texts are collected in the buffer, and
every other part is the first construct that applies where it stands.
-/

namespace CompilerState

/-- Leaving a bracket takes the state back to the depth at which events were added. -/
theorem leavePhrase_replay
    (state : CompilerState)
    (events : List Event) :
    leavePhrase ({ state with phraseDepth := state.phraseDepth + 1 }.replay events) =
      state.replay events := by
  let enter : CompilerState → CompilerState := fun state =>
    { state with phraseDepth := state.phraseDepth + 1 }
  show leavePhrase ((enter state).replay events) = _
  rw [replay_of_emits fun _ _ => rfl]
  simp [enter, leavePhrase]

/-- Adding a text is adding its event, if there is any text. -/
theorem text_of_ne_empty
    (state : CompilerState)
    {content : String}
    (notEmpty : content ≠ "") :
    state.text content = state.emit (.text content) := by
  simp [text, notEmpty]

@[simp] theorem text_empty (state : CompilerState) : state.text "" = state :=
  rfl

end CompilerState

variable {environment : Environment} {before middle after : CompilerState} {inner : Inner}
  {cursor inside atBracket next : Cursor} {mode : PhraseMode}

/-! ## Texts -/

/-- A text with backslashes is collected character by character. -/
theorem phraseWithin_backslashed
    (environment : Environment)
    (mode : PhraseMode)
    {characters : List Char}
    (reads : cursor.Reads (Text.backslashed characters) next)
    (steps depth : Nat)
    (buffer : String) :
    phraseWithin environment (steps + characters.length) mode depth buffer cursor =
      phraseWithin environment steps mode depth (buffer ++ String.ofList characters) next := by
  induction characters generalizing cursor buffer with
  | nil =>
      rw [reads.unique (.nil cursor)]
      simp
  | cons first rest inductionHypothesis =>
      have reads : cursor.Reads (['\\', first] ++ Text.backslashed rest) next := reads
      obtain ⟨middle, readsFirst, readsRest⟩ := reads.split
      have collected :
          phraseWithin environment (steps + rest.length + 1) mode depth buffer cursor =
            phraseWithin environment (steps + rest.length) mode depth (buffer.push first)
              middle := by
        rw [← readsFirst.advance_eq]
        simp [phraseWithin, Phrase.step, readsFirst.rest_eq]
      rw [List.length_cons, ← Nat.add_assoc, collected, inductionHypothesis readsRest]
      congr 1
      apply String.toList_inj.mp
      simp

/-! ## Steps -/

namespace Phrase

/-- A phrase ends at a bracket that it did not open, or with the text of an expansion. -/
def EndsAt (mode : PhraseMode) (cursor : Cursor) : Prop :=
  cursor.rest.head? = some ']' ∨ cursor.rest = [] ∧ mode ≠ .bracketed

/-- Where a phrase ends, the text collected so far is added to the output. -/
theorem step_of_endsAt
    (ends : EndsAt mode cursor)
    (buffer : String) :
    Yields before (Phrase.step inner mode 0 buffer cursor) (true, cursor)
      (before.text buffer) := by
  unfold Phrase.step
  obtain atBracket | ⟨atEnd, notBracketed⟩ := ends
  · obtain ⟨rest, remaining⟩ := List.head?_eq_some_iff.mp atBracket
    rw [remaining]
    exact Yields.updateThen (.pure _)
  · rw [atEnd]
    have isEnd : (mode != .bracketed) = true := bne_iff_ne.mpr notBracketed
    simp only [isEnd]
    exact Yields.updateThen (.pure _)

/-- A construct in brackets that applies is read, and then the rest of the phrase. -/
theorem step_of_element
    {depth : Nat}
    {buffer : String}
    {result : Bool × Cursor}
    (opens : cursor.rest.head? = some '[')
    (applies : Yields (before.text buffer) (firstOf (elements inner) cursor) (some next) middle)
    (goesOn : Yields middle (inner.phraseFrom mode depth "" next) result after) :
    Yields before (Phrase.step inner mode depth buffer cursor) result after := by
  obtain ⟨rest, remaining⟩ := List.head?_eq_some_iff.mp opens
  unfold Phrase.step
  rw [remaining]
  exact Yields.updateThen (applies.bind goesOn)

/-- A construct in quotes that applies is read, and then the rest of the phrase. -/
theorem step_of_quotation
    {depth : Nat}
    {buffer : String}
    {result : Bool × Cursor}
    (opens : cursor.rest.head? = some codeQuote)
    (applies : Yields (before.text buffer) (firstOf quotations cursor) (some next) middle)
    (goesOn : Yields middle (inner.phraseFrom mode depth "" next) result after) :
    Yields before (Phrase.step inner mode depth buffer cursor) result after := by
  obtain ⟨rest, remaining⟩ := List.head?_eq_some_iff.mp opens
  unfold Phrase.step
  rw [remaining]
  exact Yields.updateThen (applies.bind goesOn)

/-- A character that means nothing in a phrase, unless it belongs to a word. -/
structure IsMeaningless (first : Char) (rest : List Char) : Prop where
  isUncounted : Cursor.IsUncounted first
  noLineFeed : first ≠ '\n'
  noCodeQuote : first ≠ codeQuote
  noQuotes : escapeQuotes.isPrefixOf (first :: rest) = false

/-- Before such a character, a word is read or else plain text. -/
theorem step_of_isMeaningless
    {first : Char}
    {rest : List Char}
    (remaining : cursor.rest = first :: rest)
    (isMeaningless : IsMeaningless first rest)
    (inner : Inner)
    (mode : PhraseMode)
    (depth : Nat)
    (buffer : String) :
    Phrase.step inner mode depth buffer cursor =
      match cursor.name? with
      | some (word, next) => name inner mode depth buffer cursor word next
      | none => plain inner mode depth buffer cursor first := by
  obtain ⟨⟨notOpening, notClosing, notBackslash⟩, noLineFeed, noCodeQuote, noQuotes⟩ :=
    isMeaningless
  unfold Phrase.step
  cases cursor.name? <;>
    simp only [remaining, beq_iff_eq, notOpening, notClosing, notBackslash, noLineFeed,
      ↓reduceIte, beq_eq_false_iff_ne.mpr noCodeQuote, noQuotes, Bool.or_self,
      Bool.false_eq_true]

/-- A phrase in brackets that is read up to its end is one that may be nested. -/
theorem nested_yields
    (room : before.phraseDepth < phraseLimit)
    (reads :
      Yields { before with phraseDepth := before.phraseDepth + 1 }
        (inner.phrase .bracketed cursor) (true, atBracket) after) :
    Yields before (Phrase.nested inner cursor) (some atBracket) (leavePhrase after) := by
  refine (Yields.isKnownUnclosed cursor).bind ?_
  refine (Yields.enterPhrase cursor room).bind ?_
  exact (reads.thenAlways leavePhrase).bind (.pure _)

/-! ## Constructs that do not apply -/

section NotApplicable

variable {front : List Char}

theorem comment_yields_none
    (reads : cursor.Reads front next)
    (differ : Differ "[/".toList front) :
    Yields before (Phrase.comment cursor) none before := by
  simp only [Phrase.comment, Cursor.comment?, reads.literal?_eq_none differ, Option.bind_none,
    Option.map_none]
  exact .pure none

theorem styled_yields_none
    (reads : cursor.Reads front next)
    (noStyle : (front.drop 1).head?.map Cursor.styleElement? = some none) :
    Yields before (Phrase.styled inner cursor) none before := by
  have notRead : cursor.style? = none := by
    rw [Cursor.style?, reads.rest_eq]
    match front with
    | [] => simp at noStyle
    | [_] => simp at noStyle
    | _ :: mark :: _ =>
        have unmarked : Cursor.styleElement? mark = none := by simpa using noStyle
        split
        next shape =>
          simp only [List.cons_append, List.cons.injEq] at shape
          simp [← shape.2.1, unmarked]
        next => rfl
  simp only [Phrase.styled, notRead]
  exact .pure none

theorem url_yields_none
    (reads : cursor.Reads front next)
    (differ : Differ "[@".toList front) :
    Yields before (Phrase.url inner cursor) none before := by
  simp only [Phrase.url, Cursor.url?, reads.literal?_eq_none differ, Option.bind_none]
  exact .pure none

theorem link_yields_none
    (reads : cursor.Reads front next)
    (differ : Differ "[link".toList front) :
    Yields before (Phrase.link inner cursor) none before := by
  simp only [Phrase.link, Cursor.link?, reads.literal?_eq_none differ, Option.bind_none]
  exact .pure none

theorem anchor_yields_none
    (reads : cursor.Reads front next)
    (differ : Differ "[#".toList front) :
    Yields before (Phrase.anchor cursor) none before := by
  simp only [Phrase.anchor, Cursor.anchor?, reads.literal?_eq_none differ, Option.bind_none]
  exact .pure none

theorem image_yields_none
    (reads : cursor.Reads front next)
    (differ : Differ "[$".toList front) :
    Yields before (Phrase.image cursor) none before := by
  simp only [Phrase.image, Cursor.image?, reads.literal?_eq_none differ]
  exact .pure none

theorem footnote_yields_none
    (reads : cursor.Reads front next)
    (differ : Differ "[footnote".toList front) :
    Yields before (Phrase.footnote inner cursor) none before := by
  simp only [Phrase.footnote, reads.keyword?_eq_none differ]
  exact .pure none

end NotApplicable

/-! ## Constructs that apply -/

/-- An element around a phrase that is nested. -/
theorem bracketed_yields
    {name : String}
    {attributes : List Attribute}
    (content :
      Yields (before.startElement name attributes) (Phrase.nested inner cursor)
        (some atBracket) after)
    (closes : atBracket.Reads [']'] next) :
    Yields before (Phrase.bracketed inner name attributes cursor) (some next)
      (after.endElement name) := by
  refine Yields.updateThen (content.bind (Yields.updateThen ?_))
  rw [closes.close?_eq]
  exact .pure _

/-- A link with content of its own. -/
theorem linked_yields
    {name key target : String}
    (separated : cursor.Reads [' '] inside)
    (noBlanks : Stops isBlank inside.rest)
    (hasContent : inside.rest.head? ≠ some ']')
    (content :
      Yields (before.startElement name [(key, target)]) (Phrase.nested inner inside)
        (some atBracket) after)
    (closes : atBracket.Reads [']'] next) :
    Yields before (Phrase.linked inner name key target cursor) (some next)
      (after.endElement name) := by
  have skipped : cursor.skipBlank = inside := separated.skip_eq rfl noBlanks
  have notEmpty : inside.isBefore ']' = false := by
    simp [Cursor.isBefore, hasContent]
  simp only [Phrase.linked, skipped, notEmpty]
  exact bracketed_yields content closes

/-- Every character of a target is one, and there is one. -/
theorem isTarget_iff {target : String} :
    isTarget target = true ↔
      target.toList.all Cursor.isTargetCharacter = true ∧ target.toList ≠ [] := by
  simp [isTarget]

/-- A target does not start with a blank. -/
theorem stops_of_isTarget
    {target : String}
    (isOne : isTarget target = true)
    (behind : List Char) :
    Stops (fun character => isHorizontal character || character == '\n')
      (target.toList ++ behind) := by
  obtain ⟨areTarget, notEmpty⟩ := isTarget_iff.mp isOne
  cases characters : target.toList with
  | nil =>
      exact (notEmpty characters).elim
  | cons first rest =>
      rw [characters] at areTarget
      have isFirst : Cursor.isTargetCharacter first = true :=
        List.all_eq_true.mp areTarget first List.mem_cons_self
      refine .cons ?_ _
      by_contra isGap
      simp only [Bool.not_eq_false, Bool.or_eq_true, isHorizontal, beq_iff_eq] at isGap
      obtain (rfl | rfl) | rfl := isGap <;> exact absurd isFirst (by decide)

/-- The mark of a style is read behind its bracket. -/
theorem style?_eq
    {style : PhraseStyle}
    (reads : cursor.Reads (String.ofList ['[', style.mark]).toList inside) :
    cursor.style? = some (style.element, inside) := by
  have front := reads.rest_eq
  simp only [String.toList_ofList, List.cons_append, List.nil_append] at front
  rw [Cursor.style?, front, ← reads.advance_eq]
  cases style <;> rfl

section Targets

variable {target : String} {atTarget afterTarget : Cursor}

/-- A target that is followed by something else is read. -/
theorem runOf?_target_eq
    {behind : Char}
    (isOne : isTarget target = true)
    (readsTarget : atTarget.Reads target.toList afterTarget)
    (follows : afterTarget.Reads [behind] inside)
    (isOther : Cursor.isTargetCharacter behind = false) :
    atTarget.runOf? Cursor.isTargetCharacter = some (target, afterTarget) := by
  obtain ⟨isRun, notEmpty⟩ := isTarget_iff.mp isOne
  have stops : Stops Cursor.isTargetCharacter afterTarget.rest := by
    rw [follows.rest_eq]
    exact .cons isOther _
  rw [readsTarget.runOf?_eq isRun stops notEmpty, String.ofList_toList]

/-- An address is read behind its mark. -/
theorem url?_eq
    (isOne : isTarget target = true)
    (readsKeyword : cursor.Reads "[@".toList atTarget)
    (readsTarget : atTarget.Reads target.toList afterTarget)
    (readsBlank : afterTarget.Reads [' '] inside) :
    cursor.url? = some (target, afterTarget) := by
  rw [Cursor.url?, readsKeyword.literal?_eq, Option.bind_some,
    runOf?_target_eq isOne readsTarget readsBlank rfl]

/-- The target of a link is read behind the keyword and a blank. -/
theorem link?_eq
    {afterKeyword : Cursor}
    (isOne : isTarget target = true)
    (readsKeyword : cursor.Reads "[link".toList afterKeyword)
    (readsGap : afterKeyword.Reads [' '] atTarget)
    (readsTarget : atTarget.Reads target.toList afterTarget)
    (readsBlank : afterTarget.Reads [' '] inside) :
    cursor.link? = some (target, afterTarget) := by
  have gapStops :
      Stops (fun character => isHorizontal character || character == '\n') atTarget.rest := by
    rw [readsTarget.rest_eq]
    exact stops_of_isTarget isOne _
  have isGap : afterKeyword.gap? = some atTarget := by
    rw [Cursor.gap?, readsGap.runOf?_eq rfl gapStops (by simp), Option.map_some]
  rw [Cursor.link?, readsKeyword.literal?_eq, Option.bind_some, isGap, Option.bind_some,
    runOf?_target_eq isOne readsTarget readsBlank rfl]

end Targets

/-- An enclosed phrase is the first construct that applies where it is opened. -/
theorem elements_framed
    {frame : PhraseFrame}
    {content : List PhraseTree}
    (isFit : fits content frame = true)
    (reads : cursor.Reads frame.front inside)
    (noBlanks : Stops isBlank inside.rest)
    (hasContent : content ≠ [] → inside.rest.head? ≠ some ']')
    (isRead :
      Yields (before.startElement frame.element frame.attributes) (Phrase.nested inner inside)
        (some atBracket) after)
    (closes : atBracket.Reads [']'] next) :
    Yields before (firstOf (elements inner) cursor) (some next)
      (after.endElement frame.element) := by
  obtain ⟨afterKeyword, readsKeyword, readsArgument⟩ := reads.split
  cases frame with
  | styled style =>
      obtain rfl : inside = afterKeyword := readsArgument.unique (.nil afterKeyword)
      have isStyle : cursor.style? = some (style.element, inside) := style?_eq readsKeyword
      refine Yields.firstOf [comment] ?_ ?_
      · rintro rule isComment
        obtain rfl := List.mem_singleton.mp isComment
        exact comment_yields_none readsKeyword (by cases style <;> decide)
      · simp only [styled, isStyle]
        exact bracketed_yields isRead closes
  | footnote =>
      have isKeyword : cursor.keyword? "[footnote" = some afterKeyword :=
        readsKeyword.keyword?_eq (by rw [Cursor.isAfterKeyword, readsArgument.rest_eq]; rfl)
      have skipped : afterKeyword.skipBlank = inside := readsArgument.skip_eq rfl noBlanks
      refine Yields.firstOf
        [comment, styled inner, url inner, link inner, anchor, image] ?_ ?_
      · simp only [List.forall_mem_cons, List.not_mem_nil, false_implies, implies_true, and_true]
        exact
          ⟨comment_yields_none readsKeyword (by decide),
            styled_yields_none readsKeyword (by decide),
            url_yields_none readsKeyword (by decide),
            link_yields_none readsKeyword (by decide),
            anchor_yields_none readsKeyword (by decide),
            image_yields_none readsKeyword (by decide)⟩
      · simp only [footnote, isKeyword, skipped]
        exact bracketed_yields isRead closes
  | url target =>
      simp only [fits, Bool.and_eq_true, Bool.not_eq_true', List.isEmpty_eq_false_iff] at isFit
      obtain ⟨afterTarget, readsTarget, readsBlank⟩ := readsArgument.split
      have readsKeyword : cursor.Reads "[@".toList afterKeyword := readsKeyword
      have isUrl := url?_eq isFit.1 readsKeyword readsTarget readsBlank
      refine Yields.firstOf [comment, styled inner] ?_ ?_
      · simp only [List.forall_mem_cons, List.not_mem_nil, false_implies, implies_true, and_true]
        exact
          ⟨comment_yields_none readsKeyword (by decide),
            styled_yields_none readsKeyword (by decide)⟩
      · simp only [url, isUrl]
        exact linked_yields readsBlank noBlanks (hasContent isFit.2) isRead closes
  | link target =>
      simp only [fits, Bool.and_eq_true, Bool.not_eq_true', List.isEmpty_eq_false_iff] at isFit
      obtain ⟨atTarget, readsGap, readsRest⟩ := readsArgument.split
      obtain ⟨afterTarget, readsTarget, readsBlank⟩ := readsRest.split
      have readsKeyword : cursor.Reads "[link".toList afterKeyword := readsKeyword
      have isLink := link?_eq isFit.1 readsKeyword readsGap readsTarget readsBlank
      refine Yields.firstOf [comment, styled inner, url inner] ?_ ?_
      · simp only [List.forall_mem_cons, List.not_mem_nil, false_implies, implies_true, and_true]
        exact
          ⟨comment_yields_none readsKeyword (by decide),
            styled_yields_none readsKeyword (by decide),
            url_yields_none readsKeyword (by decide)⟩
      · simp only [link, isLink]
        exact linked_yields readsBlank noBlanks (hasContent isFit.2) isRead closes

/-- An anchor is the first construct that applies where it stands. -/
theorem elements_anchor
    {identifier : String}
    (isOne : isTarget identifier = true)
    (reads : cursor.Reads "[#".toList inside)
    (readsIdentifier : inside.Reads identifier.toList atBracket)
    (closes : atBracket.Reads [']'] next) :
    Yields before (firstOf (elements inner) cursor) (some next)
      (before.element "anchor" [("id", identifier)]) := by
  have noBlanks : atBracket.skipHorizontal = atBracket := by
    refine Cursor.skip_eq_self ?_
    rw [closes.rest_eq]
    exact .cons rfl _
  have isAnchor : cursor.anchor? = some (identifier, next) := by
    simp [Cursor.anchor?, reads.literal?_eq,
      runOf?_target_eq isOne readsIdentifier closes rfl, noBlanks, closes.close?_eq]
  refine Yields.firstOf [comment, styled inner, url inner, link inner] ?_ ?_
  · simp only [List.forall_mem_cons, List.not_mem_nil, false_implies, implies_true, and_true]
    exact
      ⟨comment_yields_none reads (by decide),
        styled_yields_none reads (by decide),
        url_yields_none reads (by decide),
        link_yields_none reads (by decide)⟩
  · simp only [anchor, isAnchor]
    exact Yields.updateThen (.pure _)

/-- A line break is the first construct that applies where it stands. -/
theorem elements_lineBreak
    (reads : cursor.Reads "[br".toList atBracket)
    (closes : atBracket.Reads [']'] next) :
    Yields before (firstOf (elements inner) cursor) (some next)
      (before.element "linebreak") := by
  have noBlanks : atBracket.skipHorizontal = atBracket := by
    refine Cursor.skip_eq_self ?_
    rw [closes.rest_eq]
    exact .cons rfl _
  have isLineBreak : cursor.lineBreak? = some next := by
    simp [Cursor.lineBreak?, reads.literal?_eq, noBlanks, closes.close?_eq]
  refine Yields.firstOf
    [comment, styled inner, url inner, link inner, anchor, image, footnote inner] ?_ ?_
  · simp only [List.forall_mem_cons, List.not_mem_nil, false_implies, implies_true, and_true]
    exact
      ⟨comment_yields_none reads (by decide),
        styled_yields_none reads (by decide),
        url_yields_none reads (by decide),
        link_yields_none reads (by decide),
        anchor_yields_none reads (by decide),
        image_yields_none reads (by decide),
        footnote_yields_none reads (by decide)⟩
  · simp only [lineBreak, isLineBreak]
    exact Yields.updateThen (.pure _)

/-- Code without quotes goes on up to the next two quotes. -/
theorem distanceToCodeQuotes?_eq
    {characters : List Char}
    (noQuotes : codeQuote ∉ characters)
    (behind : List Char) :
    Cursor.distanceToCodeQuotes? (characters ++ codeQuote :: codeQuote :: behind) =
      some characters.length := by
  induction characters with
  | nil =>
      simp [Cursor.distanceToCodeQuotes?]
  | cons first rest inductionHypothesis =>
      simp only [List.mem_cons, not_or] at noQuotes
      have otherFirst : (first == codeQuote) = false := by
        simp [Ne.symm noQuotes.1]
      rw [List.cons_append, Cursor.distanceToCodeQuotes?, otherFirst,
        inductionHypothesis noQuotes.2]
      rfl

/-- Code between two pairs of quotes is the first construct that applies where it stands. -/
theorem quotations_code
    {content : String}
    (notEmpty : content.toList ≠ [])
    (noQuotes : codeQuote ∉ content.toList)
    (reads :
      cursor.Reads
        ([codeQuote, codeQuote] ++ (content.toList ++ [codeQuote, codeQuote])) next) :
    Yields before (firstOf quotations cursor) (some next) (before.inlineCode content) := by
  have isCode : cursor.inlineCode? = some (content, next) := by
    obtain ⟨first, rest, shape⟩ := List.exists_cons_of_ne_nil notEmpty
    have remaining := reads.rest_eq
    have advanced := reads.advance_eq
    simp only [shape, List.mem_cons, not_or] at noQuotes
    simp only [shape, List.cons_append, List.nil_append, List.append_assoc] at remaining
    simp only [shape, List.cons_append, List.nil_append, List.length_cons, List.length_append,
      List.length_nil] at advanced
    simp only [Cursor.inlineCode?, Cursor.doublyQuotedCode?, remaining, beq_self_eq_true,
      Bool.and_self, ↓reduceIte, distanceToCodeQuotes?_eq noQuotes.2, Option.map_some,
      List.take_left, ← shape, String.ofList_toList, Option.some_or]
    rw [show rest.length + 5 = rest.length + (0 + 1 + 1) + 1 + 1 + 1 by omega, advanced]
  refine Yields.firstOf [] (by simp) ?_
  simp only [inlineCode, isCode]
  exact Yields.updateThen (.pure _)

end Phrase

/-! ## Phrases -/

/-- Parts that can be written are a first one and others that can. -/
theorem areWritable_cons
    {tree : PhraseTree}
    {rest : List PhraseTree}
    (writable : areWritable (tree :: rest) = true) :
    tree.isWritable = true ∧ areWritable rest = true := by
  cases tree <;> simp_all [areWritable]

/-- The markup of a phrase starts with a backslash, a bracket or a quote. -/
theorem exists_cons_writtenAll
    {trees : List PhraseTree}
    (writable : areWritable trees = true)
    (notEmpty : trees ≠ []) :
    ∃ first rest,
      writtenAll trees = first :: rest ∧ (first = '\\' ∨ first = '[' ∨ first = codeQuote) := by
  obtain ⟨tree, others, rfl⟩ := List.exists_cons_of_ne_nil notEmpty
  have isFirst := (areWritable_cons writable).1
  cases tree with
  | text content =>
      cases characters : content.toList with
      | nil =>
          simp [isWritable, String.toList_eq_nil_iff.mp characters] at isFirst
      | cons first rest =>
          simp [writtenAll, written, characters]
  | framed frame content =>
      cases frame <;>
        simp [writtenAll, written, PhraseFrame.front, PhraseFrame.keyword]
  | anchor identifier =>
      simp [writtenAll, written]
  | lineBreak =>
      simp [writtenAll, written]
  | code content =>
      simp [writtenAll, written]

/-- The markup of a phrase with a bracket behind it does not start with a blank. -/
theorem stops_writtenAll
    {trees : List PhraseTree}
    (writable : areWritable trees = true)
    {behind : List Char}
    (closes : behind.head? = some ']') :
    Stops isBlank (writtenAll trees ++ behind) := by
  by_cases isEmpty : trees = []
  · obtain ⟨rest, rfl⟩ := List.head?_eq_some_iff.mp closes
    rw [isEmpty]
    exact .cons (by decide) _
  · obtain ⟨first, rest, shape, isFirst⟩ := exists_cons_writtenAll writable isEmpty
    rw [shape]
    refine .cons ?_ _
    obtain rfl | rfl | rfl := isFirst <;> decide

/-- Wherever parts of a phrase come next, they are read as what they stand for. -/
def AreReadBack (environment : Environment) (trees : List PhraseTree) : Prop :=
  ∀ (before : CompilerState) (mode : PhraseMode) (steps : Nat) (buffer : String)
    (cursor next : Cursor),
    cursor.Reads (writtenAll trees) next →
    Phrase.EndsAt mode next →
    before.phraseDepth + nestingOfAll trees ≤ phraseLimit →
    (writtenAll trees).length < steps →
    (startsWithText trees = true → buffer = "") →
    Yields before (phraseWithin environment steps mode 0 buffer cursor) (true, next)
      ((before.text buffer).replay (eventsOfAll trees))

/-- Wherever a part of a phrase comes next, one of the given rules reads it as written. -/
def IsReadBy
    (environment : Environment)
    (rules : Inner → List Rule)
    (tree : PhraseTree) :
    Prop :=
  ∀ (before : CompilerState) (steps : Nat) (cursor next : Cursor),
    cursor.Reads tree.written next →
    before.phraseDepth + tree.nesting ≤ phraseLimit →
    tree.written.length ≤ steps →
    Yields before (firstOf (rules (Inner.within environment steps)) cursor) (some next)
      (before.replay tree.events)

namespace AreReadBack

variable {tree : PhraseTree} {rest : List PhraseTree}

/-- No parts are the end of the phrase. -/
theorem nil : AreReadBack environment [] := by
  intro before mode steps buffer cursor next reads ends shallow enough settled
  obtain rfl : next = cursor := reads.unique (.nil cursor)
  obtain ⟨fewer, rfl⟩ := Nat.exists_eq_succ_of_ne_zero (Nat.ne_zero_of_lt enough)
  exact Phrase.step_of_endsAt ends buffer

/-- A text is collected, and added when something else comes. -/
theorem text
    {content : String}
    (notEmpty : content ≠ "")
    (isLast : startsWithText rest = false)
    (areRead : AreReadBack environment rest) :
    AreReadBack environment (.text content :: rest) := by
  intro before mode steps buffer cursor next reads ends shallow enough settled
  obtain rfl := settled rfl
  rw [writtenAll, written] at reads enough
  obtain ⟨middle, readsText, readsRest⟩ := reads.split
  simp only [List.length_append, length_backslashed] at enough
  simp only [nestingOfAll, nesting] at shallow
  obtain ⟨fewer, rfl⟩ : ∃ fewer, steps = fewer + content.toList.length :=
    ⟨steps - content.toList.length, by omega⟩
  rw [phraseWithin_backslashed environment mode readsText, String.ofList_toList,
    String.empty_append]
  have others :=
    areRead before mode fewer content middle next readsRest ends (by omega) (by omega)
      (by simp [isLast])
  rw [CompilerState.text_of_ne_empty before notEmpty] at others
  exact others

/-- After a part that is a construct of its own, the others are read. -/
theorem cons
    {rules : Inner → List Rule}
    (isRead : IsReadBy environment rules tree)
    (areRead : AreReadBack environment rest)
    (isFirst :
      ∀ {before middle after inner mode buffer cursor next result},
        cursor.Reads tree.written next →
        Yields (before.text buffer) (firstOf (rules inner) cursor) (some next) middle →
        Yields middle (inner.phraseFrom mode 0 "" next) result after →
        Yields before (Phrase.step inner mode 0 buffer cursor) result after)
    (notEmpty : tree.written ≠ []) :
    AreReadBack environment (tree :: rest) := by
  intro before mode steps buffer cursor next reads ends shallow enough settled
  rw [writtenAll] at reads enough
  obtain ⟨middle, readsTree, readsRest⟩ := reads.split
  have isLong := List.length_pos_iff.mpr notEmpty
  simp only [List.length_append] at enough
  simp only [nestingOfAll] at shallow
  obtain ⟨fewer, rfl⟩ := Nat.exists_eq_succ_of_ne_zero (Nat.ne_zero_of_lt enough)
  have sameDepth : (before.text buffer).phraseDepth = before.phraseDepth := by
    unfold CompilerState.text
    split <;> rfl
  have first :=
    isRead (before.text buffer) fewer cursor middle readsTree (by omega) (by omega)
  have others :=
    areRead ((before.text buffer).replay tree.events) mode fewer "" middle next readsRest ends
      (by rw [CompilerState.replay_eq]; simp only [sameDepth]; omega) (by omega) (fun _ => rfl)
  rw [CompilerState.text_empty, ← CompilerState.replay_append] at others
  exact isFirst readsTree first others

/-- After a part in brackets, the others are read. -/
theorem bracket
    (isRead : IsReadBy environment Phrase.elements tree)
    (opens : tree.written.head? = some '[')
    (areRead : AreReadBack environment rest) :
    AreReadBack environment (tree :: rest) := by
  obtain ⟨others, shape⟩ := List.head?_eq_some_iff.mp opens
  refine cons isRead areRead ?_ (by simp [shape])
  intro before middle after inner mode buffer cursor next result reads applies goesOn
  exact Phrase.step_of_element (by simp [reads.rest_eq, shape]) applies goesOn

end AreReadBack

/-- An enclosed phrase is read if what it holds is. -/
theorem isReadBy_framed
    {frame : PhraseFrame}
    {content : List PhraseTree}
    (isFit : fits content frame = true)
    (writable : areWritable content = true)
    (areRead : AreReadBack environment content) :
    IsReadBy environment Phrase.elements (.framed frame content) := by
  intro before steps cursor next reads shallow enough
  rw [written] at reads enough
  obtain ⟨inside, readsFront, readsContent⟩ := reads.split
  obtain ⟨atBracket, readsContent, readsBracket⟩ := readsContent.split
  have closes : atBracket.rest.head? = some ']' := by
    rw [readsBracket.rest_eq]
    rfl
  simp only [List.length_append, List.length_cons, List.length_nil] at enough
  simp only [nesting] at shallow
  let opened := before.startElement frame.element frame.attributes
  have sameDepth : opened.phraseDepth = before.phraseDepth := rfl
  have isInside :=
    areRead { opened with phraseDepth := opened.phraseDepth + 1 } .bracketed steps "" inside
      atBracket readsContent (.inl closes) (by simp only [sameDepth]; omega) (by omega)
      (fun _ => rfl)
  have isNested :
      Yields opened (Phrase.nested (Inner.within environment steps) inside) (some atBracket) _ :=
    Phrase.nested_yields (by omega) isInside
  rw [CompilerState.text_empty, CompilerState.leavePhrase_replay] at isNested
  have noBlanks : Stops isBlank inside.rest := by
    rw [readsContent.rest_eq]
    exact stops_writtenAll writable closes
  have hasContent : content ≠ [] → inside.rest.head? ≠ some ']' := by
    intro notEmpty
    obtain ⟨first, rest, shape, isFirst⟩ := exists_cons_writtenAll writable notEmpty
    rw [readsContent.rest_eq, shape, List.cons_append, List.head?_cons]
    obtain rfl | rfl | rfl := isFirst <;> decide
  have replayed :=
    CompilerState.replay_append opened (eventsOfAll content) [.closing frame.element]
  change Yields before _ _ (opened.replay (eventsOfAll content ++ [.closing frame.element]))
  rw [replayed]
  exact Phrase.elements_framed isFit readsFront noBlanks hasContent isNested readsBracket

/-- An anchor is read. -/
theorem isReadBy_anchor
    {identifier : String}
    (isOne : isTarget identifier = true) :
    IsReadBy environment Phrase.elements (.anchor identifier) := by
  intro before steps cursor next reads shallow enough
  rw [written] at reads
  obtain ⟨inside, readsKeyword, readsIdentifier⟩ := reads.split
  obtain ⟨atBracket, readsIdentifier, readsBracket⟩ := readsIdentifier.split
  have isKeyword : "[#".toList = ['[', '#'] := by decide
  rw [← isKeyword] at readsKeyword
  exact Phrase.elements_anchor isOne readsKeyword readsIdentifier readsBracket

/-- A line break is read. -/
theorem isReadBy_lineBreak : IsReadBy environment Phrase.elements .lineBreak := by
  intro before steps cursor next reads shallow enough
  rw [written] at reads
  obtain ⟨atBracket, readsKeyword, readsBracket⟩ := reads.split
  have isKeyword : "[br".toList = ['[', 'b', 'r'] := by decide
  rw [← isKeyword] at readsKeyword
  exact Phrase.elements_lineBreak readsKeyword readsBracket

/-- Code is read. -/
theorem isReadBy_code
    {content : String}
    (writable : (PhraseTree.code content).isWritable = true) :
    IsReadBy environment (fun _ => Phrase.quotations) (.code content) := by
  intro before steps cursor next reads shallow enough
  simp only [isWritable, Bool.and_eq_true, Bool.not_eq_true', String.isEmpty_eq_false_iff,
    List.contains_eq_mem, decide_eq_false_iff_not] at writable
  have applies : Yields before _ _ _ :=
    Phrase.quotations_code (by simpa using writable.1) writable.2 reads
  have replayed : before.inlineCode content = before.replay (PhraseTree.code content).events := by
    simp only [CompilerState.inlineCode, CompilerState.leaf,
      CompilerState.text_of_ne_empty _ writable.1]
    rfl
  rw [← replayed]
  exact applies

/-- A phrase that can be written is read as what it was written from. -/
theorem areReadBack_of_areWritable
    (environment : Environment)
    (trees : List PhraseTree)
    (writable : areWritable trees = true) :
    AreReadBack environment trees := by
  induction trees using rowInduction with
  | nil =>
      exact .nil
  | text content rest inductionHypothesis =>
      simp only [areWritable, isWritable, Bool.and_eq_true, Bool.not_eq_true',
        String.isEmpty_eq_false_iff] at writable
      exact .text writable.1.1 writable.1.2 (inductionHypothesis writable.2)
  | framed frame content rest insideHypothesis inductionHypothesis =>
      simp only [areWritable, isWritable, Bool.and_eq_true] at writable
      obtain ⟨⟨isFit, writableInside⟩, writableRest⟩ := writable
      exact
        .bracket (isReadBy_framed isFit writableInside (insideHypothesis writableInside))
          (by cases frame <;> simp [written, PhraseFrame.front, PhraseFrame.keyword])
          (inductionHypothesis writableRest)
  | anchor identifier rest inductionHypothesis =>
      simp only [areWritable, isWritable, Bool.and_eq_true] at writable
      exact .bracket (isReadBy_anchor writable.1) rfl (inductionHypothesis writable.2)
  | lineBreak rest inductionHypothesis =>
      simp only [areWritable, isWritable, Bool.true_and] at writable
      exact .bracket isReadBy_lineBreak rfl (inductionHypothesis writable)
  | code content rest inductionHypothesis =>
      simp only [areWritable, Bool.and_eq_true] at writable
      refine
        .cons (isReadBy_code writable.1) (inductionHypothesis writable.2) ?_ (by simp [written])
      intro before middle after inner mode buffer cursor next result reads applies goesOn
      exact Phrase.step_of_quotation (by simp [reads.rest_eq, written]) applies goesOn

/--
Reading the markup of a phrase as an expansion consumes all of it and adds exactly
its events to the output. Nothing else changes, whatever macros and templates are
defined and whatever brackets were found to be unclosed before.
-/
theorem written_phrase_reads_back
    (environment : Environment)
    {trees : List PhraseTree}
    (writable : areWritable trees = true)
    (source : Source)
    (isWritten : source.text = String.ofList (writtenAll trees))
    (workspace : Workspace)
    (settled : workspace.state.pendingParagraph = false)
    (shallow : workspace.state.phraseDepth + nestingOfAll trees ≤ phraseLimit) :
    ∃ after,
      withFreshMemory
          (parsing environment source.text.length fun inner =>
            inner.phrase .expansion source.cursor)
          workspace =
        .ok (true, source.cursorAt source.text.length) after ∧
        after.unclosed = workspace.unclosed ∧
        after.state =
          { workspace.state with
            events := workspace.state.events ++ (eventsOfAll trees).toArray } := by
  have reads := Cursor.Reads.whole source
  have length : source.text.length = (writtenAll trees).length := by
    rw [isWritten, String.length_ofList]
  have atEnd := Cursor.Reads.rest_end source
  have enough :=
    inclusions_lt_enoughSteps environment workspace.state source.text.length includeLimit
      (Nat.zero_le _) CompilerState.given_le_longestText
  rw [Nat.sub_self, Nat.zero_mul, Nat.zero_add] at enough
  rw [isWritten, String.toList_ofList, ← isWritten] at reads
  have isRead :=
    areReadBack_of_areWritable environment trees writable workspace.state .expansion _ "" _ _
      reads (.inr ⟨atEnd, by decide⟩) shallow (by rw [← length]; exact enough)
      (fun _ => rfl)
  rw [CompilerState.text_empty, CompilerState.replay_of_settled settled] at isRead
  have parsed := Yields.parsing (fun inner => inner.phrase .expansion source.cursor) isRead
  obtain ⟨consulted, reached⟩ := parsed.run_withFreshMemory workspace
  exact ⟨_, reached, rfl, rfl⟩

/-- A bold text and an anchor are read back where macros are defined and a style is open. -/
theorem written_phrase_reads_back_in_style :
    let trees : List PhraseTree :=
      [.framed (.styled .bold) [.text "N] `"], .anchor "here", .text "N"]
    let source : Source := { text := String.ofList (writtenAll trees), name := "note" }
    let environment : Environment :=
      { files := ⟨[], [], []⟩, encoding := .html, moment := .fixed }
    let state : CompilerState := { macros := MacroTable.define {} "N" "name", phraseDepth := 99 }
    ∃ after,
      withFreshMemory
          (parsing environment source.text.length fun inner =>
            inner.phrase .expansion source.cursor)
          { state := state } =
        .ok (true, source.cursorAt source.text.length) after ∧
        after.unclosed = [] ∧
        after.state = { state with events := state.events ++ (eventsOfAll trees).toArray } := by
  intro trees source environment state
  exact
    written_phrase_reads_back environment (by decide +kernel) source rfl { state := state } rfl
      (by decide +kernel)

/--
Without a target there is no anchor and no reference to an address: their markup is
text. A link without a target takes what it encloses for its target and shows it.
-/
theorem phrases_without_target_are_not_read_back :
    let environment : Environment :=
      { files := ⟨[], [], []⟩, encoding := .html, moment := .fixed }
    let read (tree : PhraseTree) : Option (List Event) :=
      let source : Source := { text := String.ofList (writtenAll [tree]), name := "note" }
      eventsAfter?
        (withFreshMemory
          (parsing environment source.text.length fun inner =>
            inner.phrase .expansion source.cursor) {})
    let content : List PhraseTree := [.text "x"]
    "".toList.all Cursor.isTargetCharacter = true ∧
      eventsOfAll [.anchor ""] = [.opening "anchor" [("id", "")], .closing "anchor"] ∧
        read (.anchor "") = some [.text "[#]"] ∧
          read (.framed (.url "") content) = some [.text "[@ x]"] ∧
            read (.framed (.link "") content) =
              some [.opening "link" [("linkend", "\\x")], .text "\\x", .closing "link"] := by
  decide +kernel

end DocMarkup
