import DocMarkup.Proofs.Grammar.Phrase
import DocMarkup.Proofs.Grammar.Wording

namespace DocMarkup

/-!
# Brackets that are never closed

Where no closing bracket remains, no construct in brackets can be read: each one needs a
bracket at its end. What it has put out until then is taken back, and its opening bracket
is text. A text without closing brackets in which nothing is quoted and no macro is named
is thus read as it stands, however many brackets it opens.
-/

open Compile

/-- Nothing is quoted in a text, no bracket closes in it and no macro is named in it. -/
structure IsUnclosed (macros : MacroTable) (text : List Char) : Prop extends IsUnquoted text where
  noClosing : ']' ∉ text
  noMacro : NamesNoMacro macros text

/-- What remains of such a text is such a text. -/
theorem IsUnclosed.of_suffix
    {macros : MacroTable}
    {text rest : List Char}
    (unclosed : IsUnclosed macros text)
    (isSuffix : rest <:+ text) :
    IsUnclosed macros rest where
  toIsUnquoted := unclosed.toIsUnquoted.of_suffix isSuffix
  noClosing inRest := unclosed.noClosing (isSuffix.subset inRest)
  noMacro := unclosed.noMacro.of_suffix isSuffix

/-! ## Readers that need a closing bracket -/

namespace Cursor

variable {cursor next : Cursor}

/-- Further on, there is no closing bracket either. -/
theorem Leads.noClosing
    (leads : cursor.Leads next)
    (noClosing : ']' ∉ cursor.rest) :
    ']' ∉ next.rest :=
  fun inRest => noClosing (leads.rest_suffix.subset inRest)

theorem close?_eq_none (noClosing : ']' ∉ cursor.rest) : cursor.close? = none :=
  character?_eq_none fun isFirst => noClosing (List.mem_of_head? isFirst)

theorem balanced?_eq_none (noClosing : ']' ∉ cursor.rest) : cursor.balanced? = none := by
  by_contra found
  obtain ⟨⟨content, atBracket⟩, read⟩ := Option.ne_none_iff_exists'.mp found
  obtain ⟨rest, remaining⟩ := exists_rest_of_closingBracket? (closingBracket?_of_balanced? read)
  exact (Leads.balanced? read).noClosing noClosing (by simp [remaining])

theorem balancedThrough?_eq_none (noClosing : ']' ∉ cursor.rest) :
    cursor.balancedThrough? = none := by
  rw [balancedThrough?, balanced?_eq_none noClosing]

theorem comment?_eq_none (noClosing : ']' ∉ cursor.rest) : cursor.comment? = none := by
  unfold comment?
  cases opened : cursor.literal? "[/" with
  | none => rfl
  | some inside =>
      simp [balancedThrough?_eq_none ((Leads.literal? opened).noClosing noClosing)]

theorem anchor?_eq_none (noClosing : ']' ∉ cursor.rest) : cursor.anchor? = none := by
  unfold anchor?
  split
  next identifier after front =>
    obtain ⟨inside, opened, run⟩ := Option.bind_eq_some_iff.mp front
    have leads := ((Leads.literal? opened).trans (Leads.runOf? run)).skipHorizontal
    rw [close?_eq_none (leads.noClosing noClosing), Option.map_none]
  next => rfl

theorem image?_eq_none (noClosing : ']' ∉ cursor.rest) : cursor.image? = none := by
  unfold image?
  split
  next inside opened =>
    have leads := (Leads.literal? opened).advanced (inside.run fun each => each != ']').length
    simp only [close?_eq_none (leads.noClosing noClosing)]
    split <;> simp_all
  next => rfl

theorem lineBreak?_eq_none (noClosing : ']' ∉ cursor.rest) : cursor.lineBreak? = none := by
  unfold lineBreak?
  cases opened : cursor.literal? "[br" with
  | none => rfl
  | some inside =>
      exact close?_eq_none ((Leads.literal? opened).skipHorizontal.noClosing noClosing)

end Cursor

/-! ## Rules that do not apply -/

/--
With the parsers inside, a phrase without closing brackets of which fewer characters
remain is read to the end of the text, and is all text.
-/
def Inner.ReadsUnclosed (inner : Inner) (length : Nat) : Prop :=
  ∀ (mode : PhraseMode) (depth : Nat) (buffer : String) (cursor : Cursor)
      (before : CompilerState),
    mode = .bracketed ∨ mode = .expansion →
      IsUnclosed before.macros cursor.rest →
        cursor.rest.length < length →
          Finishes before (inner.phraseFrom mode depth buffer cursor)
            (Phrase.ReadsToEnd before cursor (mode != .bracketed)
              (buffer ++ String.ofList cursor.rest))

namespace Phrase

variable {inner : Inner} {length : Nat} {before : CompilerState} {cursor : Cursor}

/-! ## Rules without a phrase inside -/

theorem comment_refuses (noClosing : ']' ∉ cursor.rest) :
    Refuses before (comment cursor) := by
  unfold comment
  rw [Cursor.comment?_eq_none noClosing]
  exact .pure (.refl before)

theorem anchor_refuses (noClosing : ']' ∉ cursor.rest) :
    Refuses before (anchor cursor) := by
  unfold anchor
  rw [Cursor.anchor?_eq_none noClosing]
  exact .pure (.refl before)

theorem image_refuses (noClosing : ']' ∉ cursor.rest) :
    Refuses before (image cursor) := by
  unfold image
  rw [Cursor.image?_eq_none noClosing]
  exact .pure (.refl before)

theorem lineBreak_refuses (noClosing : ']' ∉ cursor.rest) :
    Refuses before (lineBreak cursor) := by
  unfold lineBreak
  rw [Cursor.lineBreak?_eq_none noClosing]
  exact .pure (.refl before)

/-- The macro is not defined, so the content of a conditional phrase would have to be skipped. -/
theorem conditional_refuses
    (noClosing : ']' ∉ cursor.rest)
    (noMacro : NamesNoMacro before.macros cursor.rest) :
    Refuses before (conditional inner cursor) := by
  unfold conditional
  split
  next => exact .pure (.refl before)
  next name afterName read =>
    have leads := (Cursor.Leads.conditional? read).skipHorizontal
    obtain ⟨opened, literal, named⟩ := Option.bind_eq_some_iff.mp read
    have isInText := (Cursor.infix_of_name? named).trans
      (Cursor.Leads.literal? literal).skipHorizontal.rest_suffix.isInfix
    apply Ends.state
    simp only [noMacro.not_contains isInText, Bool.false_eq_true, ↓reduceIte,
      Cursor.balancedThrough?_eq_none (leads.noClosing noClosing)]
    exact .pure (.refl before)

theorem templateCall_refuses (noClosing : ']' ∉ cursor.rest) :
    Refuses before (templateCall inner cursor) := by
  unfold templateCall
  split
  next => exact .pure (.refl before)
  next name afterName read =>
    have leads := Cursor.Leads.templateCall? read
    rw [Cursor.balancedThrough?_eq_none (leads.noClosing noClosing)]
    exact .pure (.refl before)

/-! ## Rules with a phrase inside -/

section Inside

variable (reads : inner.ReadsUnclosed length)
  (unclosed : IsUnclosed before.macros cursor.rest) (short : cursor.rest.length < length)

include reads unclosed short

/-- A phrase that is nested is not closed, and what it has put out can be taken back. -/
theorem nested_refuses : Refuses before (nested inner cursor) := by
  unfold nested
  refine .isKnownUnclosed cursor fun known => ?_
  cases known with
  | true =>
      exact .pure (.refl before)
  | false =>
      refine (enterPhrase_ends cursor).bind ?_
      rintro (_ | _) middle entered
      · obtain ⟨message, rfl⟩ := entered
        simp only [Bool.false_eq_true, ↓reduceIte,
          Cursor.balanced?_eq_none unclosed.noClosing]
        exact .rememberUnclosed cursor (.pure (.reportError ..))
      · obtain ⟨rfl, _⟩ := entered
        let inside := { before with phraseDepth := before.phraseDepth + 1 }
        have phraseEnds :
            Finishes inside (thenAlways (inner.phrase .bracketed cursor) leavePhrase)
              fun result after => result.1 = false ∧ before.Precedes after := by
          have isRead := reads .bracketed 0 "" cursor inside (.inl rfl) unclosed short
          refine .thenAlways (isRead.imp (fun _ => id) ?_)
          rintro result after ⟨notClosed, _, pieces, _, rfl⟩
          rw [CompilerState.leavePhrase_replay]
          exact ⟨notClosed, .replay before _⟩
        refine phraseEnds.bind ?_
        rintro ⟨closed, next⟩ after ⟨rfl, precedes⟩
        exact .rememberUnclosed cursor (.pure precedes)

/-- An element around such a phrase is not read. -/
theorem bracketed_refuses (name : String) (attributes : List Attribute) :
    Refuses before (bracketed inner name attributes cursor) := by
  have content : Refuses (before.startElement name attributes) (nested inner cursor) :=
    nested_refuses reads unclosed short
  unfold bracketed
  refine Ends.updateThen (content.bind ?_)
  rintro (_ | next) middle settled
  · exact .pure (CompilerState.Precedes.trans (.emit ..) settled)
  · exact settled.elim

/-- A link around such a phrase is not read, nor is one without content. -/
theorem linked_refuses (name key target : String) :
    Refuses before (linked inner name key target cursor) := by
  have blanks := (Cursor.Leads.refl cursor).skipBlank
  have notEmpty : cursor.skipBlank.isBefore ']' = false := by
    rw [Bool.eq_false_iff]
    intro isFirst
    have isHead : cursor.skipBlank.rest.head? = some ']' := by
      simpa [Cursor.isBefore] using isFirst
    exact blanks.noClosing unclosed.noClosing (List.mem_of_head? isHead)
  unfold linked
  simp only [notEmpty, Bool.false_eq_true, ↓reduceIte]
  exact bracketed_refuses reads (unclosed.of_suffix blanks.rest_suffix)
    (Nat.lt_of_le_of_lt blanks.rest_suffix.length_le short) _ _

end Inside

section Refusals

variable (reads : inner.ReadsUnclosed length)
  (unclosed : IsUnclosed before.macros cursor.rest) (short : cursor.rest.length ≤ length)

include reads unclosed short

theorem styled_refuses : Refuses before (styled inner cursor) := by
  unfold styled
  split
  next name next read =>
    have shorter := Cursor.length_rest_style?_lt read
    have further := (Cursor.Leads.style? read).rest_suffix
    exact bracketed_refuses reads (unclosed.of_suffix further)
      (Nat.lt_of_lt_of_le shorter short) _ _
  next => exact .pure (.refl before)

theorem url_refuses : Refuses before (url inner cursor) := by
  unfold url
  split
  next target next read =>
    have shorter := Cursor.length_rest_url?_lt read
    have further := (Cursor.Leads.url? read).rest_suffix
    exact linked_refuses reads (unclosed.of_suffix further)
      (Nat.lt_of_lt_of_le shorter short) _ _ _
  next => exact .pure (.refl before)

theorem link_refuses : Refuses before (link inner cursor) := by
  unfold link
  split
  next target next read =>
    have shorter := Cursor.length_rest_link?_lt read
    have further := (Cursor.Leads.link? read).rest_suffix
    exact linked_refuses reads (unclosed.of_suffix further)
      (Nat.lt_of_lt_of_le shorter short) _ _ _
  next => exact .pure (.refl before)

theorem footnote_refuses : Refuses before (footnote inner cursor) := by
  unfold footnote
  split
  next next read =>
    have keyword := Cursor.length_rest_keyword? read
    have keywordLength : "[footnote".length = 9 := rfl
    have blanks := next.length_rest_skipBlank_le
    have shorter : next.skipBlank.rest.length < cursor.rest.length := by omega
    have further := (Cursor.Leads.keyword? read).skipBlank.rest_suffix
    exact bracketed_refuses reads (unclosed.of_suffix further)
      (Nat.lt_of_lt_of_le shorter short) _ _
  next => exact .pure (.refl before)

/-- Nothing that an opening bracket may start is read. -/
theorem elements_refuse :
    Finishes before (firstOf (elements inner) cursor)
      fun found after => found = none ∧ after = before := by
  refine Finishes.firstOf_none ?_
  simp only [elements, List.forall_mem_cons]
  have noClosing := unclosed.noClosing
  exact
    ⟨comment_refuses noClosing, styled_refuses reads unclosed short,
      url_refuses reads unclosed short, link_refuses reads unclosed short,
      anchor_refuses noClosing, image_refuses noClosing,
      footnote_refuses reads unclosed short, lineBreak_refuses noClosing,
      conditional_refuses noClosing unclosed.noMacro, templateCall_refuses noClosing, nofun⟩

end Refusals

/-! ## Phrases -/

/-- If the parsers inside read an unclosed phrase that is shorter, a step reads one. -/
theorem step_readsUnclosed
    (reads : inner.ReadsUnclosed length)
    {mode : PhraseMode}
    (inOne : mode = .bracketed ∨ mode = .expansion)
    (unclosed : IsUnclosed before.macros cursor.rest)
    (short : cursor.rest.length < length + 1)
    (depth : Nat)
    (buffer : String) :
    Finishes before (Phrase.step inner mode depth buffer cursor)
      (ReadsToEnd before cursor (mode != .bracketed)
        (buffer ++ String.ofList cursor.rest)) := by
  -- Whatever is collected, the rest of the phrase is read behind it.
  have goesOn {run : List Char} {next : Cursor} (readsRun : cursor.Reads run next)
      (notEmpty : run ≠ []) {collected kept : String} {middle : CompilerState} {depth : Nat}
      (added : before.AddsText collected middle)
      (same : collected ++ kept = buffer ++ String.ofList run) :
      Finishes middle (inner.phraseFrom mode depth kept next)
        (ReadsToEnd before cursor (mode != .bracketed)
          (buffer ++ String.ofList cursor.rest)) := by
    have stillUnclosed : IsUnclosed middle.macros next.rest := by
      rw [added.macros_eq]
      exact unclosed.of_suffix ⟨run, readsRun.rest_eq.symm⟩
    have shorter : next.rest.length < length :=
      Nat.lt_of_lt_of_le (readsRun.length_rest_lt notEmpty) (Nat.le_of_lt_succ short)
    rw [readsRun.rest_eq]
    exact (reads mode depth kept next middle inOne stillUnclosed shorter).imp (fun _ => id)
      fun _ _ readsToEnd => readsToEnd.behind readsRun added same
  cases remaining : cursor.rest with
  | nil => simpa using step_readsToEnd remaining inner mode depth before buffer
  | cons first rest =>
      rw [← remaining]
      have notClosing : first ≠ ']' := by
        rintro rfl
        exact unclosed.noClosing (by simp [remaining])
      by_cases isOpening : first = '['
      · subst isOpening
        have flushed := CompilerState.AddsText.text before buffer
        rw [step_of_opening remaining]
        apply Ends.updateThen
        refine (elements_refuse reads (by rwa [flushed.macros_eq])
          (Nat.le_of_lt_succ short)).bind ?_
        rintro _ _ ⟨rfl, rfl⟩
        exact goesOn (.of_cons remaining) (by simp) flushed rfl
      cases read : cursor.name? with
      | none =>
          obtain ⟨run, next, notEmpty, _, readsRun, isStep⟩ :=
            exists_step_of_noName unclosed.toIsUnquoted inOne remaining isOpening notClosing read
          rw [isStep]
          exact goesOn readsRun notEmpty (.refl before) rfl
      | some found =>
          obtain ⟨word, next⟩ := found
          obtain ⟨readsWord, _, _, _, _, isWord⟩ := Cursor.reads_of_name? read
          rw [step_of_name read]
          unfold name
          apply Ends.state
          simp only [unclosed.noMacro.not_contains (Cursor.infix_of_name? read), Bool.false_and,
            Bool.false_eq_true, ↓reduceIte]
          exact goesOn readsWord (by simp [isWord]) (.refl before) (by simp)

end Phrase

/-- With enough steps, the parsers read phrases without closing brackets. -/
theorem Inner.within_readsUnclosed (environment : Environment) (steps : Nat) :
    (Inner.within environment steps).ReadsUnclosed steps := by
  induction steps with
  | zero =>
      intro mode depth buffer cursor before _ _ short
      exact absurd short (Nat.not_lt_zero _)
  | succ steps inductionHypothesis =>
      intro mode depth buffer cursor before inOne unclosed short
      exact Phrase.step_readsUnclosed inductionHypothesis inOne unclosed short depth buffer

/--
A text without closing brackets in which nothing is quoted and no macro is named is read as
it stands, however many brackets it opens and whatever they might start. It is added to
the output as character data, and nothing else in the state changes: nothing is reported,
no identifier is used, and no depth is left raised. That holds for all templates, at all
depths and whatever is known about unclosed brackets.
-/
theorem unclosed_brackets_are_text
    (environment : Environment)
    (source : Source)
    (unquoted : IsUnquoted source.text.toList)
    (noClosing : ']' ∉ source.text.toList)
    (workspace : Workspace)
    (noMacro : NamesNoMacro workspace.state.macros source.text.toList)
    (settled : workspace.state.pendingParagraph = false) :
    ∃ pieces after,
      parsing environment source.text.length (fun inner => inner.phrase .expansion source.cursor)
          workspace =
        .ok (true, source.cursorAt source.text.length) after ∧
        String.join pieces = source.text ∧
          after.state =
            { workspace.state with
              events := workspace.state.events ++ (pieces.map Event.text).toArray } := by
  have enough :
      source.text.length < enoughSteps environment workspace.state source.text.length :=
    lt_enoughSteps CompilerState.given_le_longestText
  have isRead :
      Finishes workspace.state
        (parsing environment source.text.length fun inner =>
          inner.phrase .expansion source.cursor) _ :=
    .state <|
      Inner.within_readsUnclosed environment _ .expansion 0 "" source.cursor workspace.state
        (.inr rfl) ⟨unquoted, noClosing, noMacro⟩
        (by rwa [source.rest_cursor, String.length_toList])
  obtain ⟨⟨closed, stop⟩, after, ended, rfl, reads, added⟩ := isRead.exists_ok
  obtain rfl := reads.unique (Cursor.Reads.whole source)
  obtain ⟨pieces, isText, isAfter⟩ := added.exists_pieces settled
  refine ⟨pieces, after, ended, ?_, isAfter⟩
  rw [isText, source.rest_cursor, String.ofList_toList, String.empty_append]

/-- Constructs of all kinds are text where none is closed, also close to the limit of nesting. -/
theorem unclosed_brackets_are_text_of_all_kinds :
    let source : Source :=
      { text := "[*a [@u [link x y [footnote\n z [? N [$i [/c [t [_s [#k [br [t"
        name := "note" }
    let environment : Environment :=
      { files := ⟨[], [], []⟩, encoding := .html, moment := .fixed }
    let state : CompilerState :=
      { macros := MacroTable.define {} "other" "]"
        templates := TemplateTable.define {} { name := "t", body := "body" }
        phraseDepth := 98 }
    IsUnquoted source.text.toList ∧
      ']' ∉ source.text.toList ∧
        NamesNoMacro state.macros source.text.toList ∧
          ∃ pieces after,
            parsing environment source.text.length
                (fun inner => inner.phrase .expansion source.cursor) { state := state } =
              .ok (true, source.cursorAt source.text.length) after ∧
              String.join pieces = source.text ∧
                after.state =
                  { state with events := state.events ++ (pieces.map Event.text).toArray } := by
  intro source environment state
  have unquoted : IsUnquoted source.text.toList :=
    ⟨by decide +kernel, by decide +kernel, by decide +kernel⟩
  have noClosing : ']' ∉ source.text.toList := by decide +kernel
  have noMacro : NamesNoMacro state.macros source.text.toList := by
    intro name isMacro
    obtain rfl : "other" = name := by
      simpa [state, MacroTable.contains, MacroTable.define, NameTable.contains, NameTable.find?,
        NameTable.insert, NameTable.insertEntry] using isMacro
    decide +kernel
  exact
    ⟨unquoted, noClosing, noMacro,
      unclosed_brackets_are_text environment source unquoted noClosing { state := state } noMacro
        rfl⟩

end DocMarkup
