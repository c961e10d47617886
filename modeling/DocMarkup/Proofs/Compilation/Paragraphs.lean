import DocMarkup.Proofs.Compilation.Start
import DocMarkup.Proofs.Grammar.Longest
import DocMarkup.Proofs.Grammar.Supervision

namespace DocMarkup

/-!
# Paragraphs are neither empty nor nested

The start of a paragraph is only put out with the first event inside it. What blocks
add to the output therefore has its paragraphs in order, whatever was tried, taken
back, captured or reported on the way: only a whole paragraph adds the marks of one,
and all that it holds comes from a phrase. Wherever a parser of blocks is called in a
compilation, no paragraph is open or pending, and so it is when that parser returns.
-/

namespace CompilerState

variable {before inside after : CompilerState} {longest : Nat} {events : List Event}

/-- Reading blocks keeps arguments in scope to phrases. -/
theorem Scoped.blockEffect
    (effect : BlockEffect longest before after)
    (known : before.Scoped) :
    after.Scoped := by
  induction effect with
  | refl state =>
      exact known
  | trans _ _ firstHypothesis secondHypothesis =>
      exact secondHypothesis (firstHypothesis known)
  | flow effect =>
      exact effect.scoped_iff.mpr known
  | paragraph effect =>
      have insideKnown := effect.scoped_iff.mpr known
      unfold endParagraph
      split <;> exact insideKnown
  | heading level title _ effect =>
      exact effect.scoped_iff.mpr known
  | table given title hasTitle effect =>
      refine effect.scoped_iff.mpr ?_
      unfold beginTable
      split <;> exact known
  | openedSection given title _ effect =>
      exact effect.scoped_iff.mpr known
  | closedSection _ _ _ =>
      exact known
  | warned before kind position message =>
      exact known
  | definedMacro before position name _ =>
      unfold defineMacro
      split <;> exact known
  | @definedTemplate before position template unknown _ =>
      have isPhrase : template.IsPhraseIfKnown := by
        intro events isKnown
        simp [unknown] at isKnown
      have defined := known.define isPhrase
      unfold defineTemplate
      split <;> exact defined
  | nested _ _ inductionHypothesis =>
      exact inductionHypothesis known
  | expanded bindingsKnown _ _ inductionHypothesis =>
      exact (inductionHypothesis (known.pushScope (bindingsKnown known))).dropScope
  | included file docId idScope _ inductionHypothesis =>
      exact inductionHypothesis known

/-- What was added to the output has its paragraphs in order, and none is pending. -/
structure AddsParagraphs (before after : CompilerState) : Prop where
  inOrder :
    ∃ added, after.events.toList = before.events.toList ++ added ∧ ParagraphsInOrder added
  settled : after.pendingParagraph = false

namespace AddsParagraphs

/-- What is added to what was added. -/
theorem trans
    (first : before.AddsParagraphs inside)
    (second : inside.AddsParagraphs after) :
    before.AddsParagraphs after where
  inOrder := by
    obtain ⟨early, output, inOrder⟩ := first.inOrder
    obtain ⟨late, laterOutput, laterInOrder⟩ := second.inOrder
    refine ⟨early ++ late, ?_, inOrder.append laterInOrder⟩
    rw [laterOutput, output, List.append_assoc]
  settled := second.settled

/-- What does not show in the output adds nothing. -/
theorem of_same
    (settled : before.pendingParagraph = false)
    (sameEvents : after.events = before.events)
    (samePending : after.pendingParagraph = before.pendingParagraph) :
    before.AddsParagraphs after where
  inOrder := ⟨[], by simp [sameEvents], .of_unmarked (by simp)⟩
  settled := samePending.trans settled

/-- Written events in order are added in order. -/
theorem of_writes
    (written : Writes events before after)
    (inOrder : ParagraphsInOrder events) :
    before.AddsParagraphs after where
  inOrder := ⟨events, written.output, inOrder⟩
  settled := written.settled

/-- A single event that is not one of a paragraph. -/
theorem emit
    (settled : before.pendingParagraph = false)
    {event : Event}
    (unmarked : event.paragraphChange = 0) :
    before.AddsParagraphs (before.emit event) where
  inOrder :=
    ⟨[event], by simp [CompilerState.emit, settled], .of_unmarked (by simpa using unmarked)⟩
  settled := rfl

/-- A fragment without paragraphs adds none. -/
theorem flow
    (effect : Effect flowVocabulary before after)
    (known : before.Scoped)
    (settled : before.pendingParagraph = false) :
    before.AddsParagraphs after := by
  obtain ⟨events, isFragment, written⟩ := effect.writes flowVocabulary_anonymous known settled
  exact of_writes written
    (.of_unmarked fun event member => (isFragment.within event member).paragraphChange_eq_zero)

/-- An element that holds a fragment without paragraphs adds none. -/
theorem element
    (begins : before.AddsParagraphs inside)
    (known : inside.Scoped)
    (effect : Effect flowVocabulary inside after)
    {name : String}
    (other : name ≠ "para") :
    before.AddsParagraphs (after.endElement name) :=
  have content := flow effect known begins.settled
  (begins.trans content).trans (.emit content.settled (if_neg other))

/-- The start of a section adds none. -/
theorem enterSection
    (settled : before.pendingParagraph = false)
    (candidate : String) :
    before.AddsParagraphs (before.enterSection candidate) where
  inOrder :=
    ⟨[.opening "section" [("id", (before.reserveId candidate).1)]],
      by simp [CompilerState.enterSection, startElement, CompilerState.emit, reserveId, settled],
      .of_unmarked (by simp [Event.paragraphChange])⟩
  settled := rfl

/-- What blocks add has its paragraphs in order. -/
theorem blockEffect
    (effect : BlockEffect longest before after)
    (known : before.Scoped)
    (settled : before.pendingParagraph = false) :
    before.AddsParagraphs after := by
  induction effect with
  | refl state =>
      exact of_same settled rfl rfl
  | trans firstEffect _ firstHypothesis secondHypothesis =>
      have first := firstHypothesis known settled
      exact first.trans (secondHypothesis (known.blockEffect firstEffect) first.settled)
  | flow effect =>
      exact flow effect known settled
  | paragraph effect =>
      obtain ⟨content, isFragment, written⟩ := effect.writes_paragraph known
      have isFlow := isFragment.mono inlineVocabulary_subset_flowVocabulary
      refine of_writes written (.paragraph fun event member => ?_)
      exact (isFlow.within event member).paragraphChange_eq_zero
  | heading level title isLevel effect =>
      obtain ⟨shown, -, identifier, begins⟩ := Writes.beginHeading settled isLevel title
      exact element (of_writes begins (.of_unmarked (by simp [Event.paragraphChange])))
        (begins.known known) effect.toFlow (by decide)
  | table given title hasTitle effect =>
      obtain ⟨attributes, -, begins⟩ := Writes.beginTable settled given title hasTitle
      have other : tableElement hasTitle ≠ "para" := by
        cases hasTitle <;> decide
      exact element (of_writes begins (.of_unmarked (by simpa [Event.paragraphChange] using other)))
        (begins.known known) effect other
  | @openedSection before inside given title outside effect =>
      obtain ⟨candidate, begun⟩ := before.exists_beginSection_eq given title
      rw [begun] at effect
      have entered := enterSection settled candidate
      have titleOpened :
          before.AddsParagraphs ((before.enterSection candidate).startElement "title") :=
        entered.trans (.emit entered.settled rfl)
      exact element titleOpened known effect.toFlow (by decide)
  | @closedSection before innermost outer _ _ _ =>
      have left :
          before.AddsParagraphs
            { before with sectionLevel := before.sectionLevel - 1, sectionIds := outer } :=
        of_same settled rfl rfl
      exact left.trans (.emit left.settled rfl)
  | warned before kind position message =>
      exact of_same settled rfl rfl
  | definedMacro before position name _ =>
      unfold defineMacro
      split <;> exact of_same settled rfl rfl
  | definedTemplate before position unknown _ =>
      unfold defineTemplate
      split <;> exact of_same settled rfl rfl
  | @nested before inside name isNested _ inductionHypothesis =>
      have other : name ≠ "para" := by
        rintro rfl
        simp [nestedBlockNames, Cursor.admonitionNames] at isNested
      have opened : before.AddsParagraphs (before.startElement name) :=
        .emit settled (if_neg other)
      have content := inductionHypothesis known opened.settled
      have closed :
          inside.AddsParagraphs { inside with blockNesting := inside.blockNesting - 1 } :=
        of_same content.settled rfl rfl
      have begun : before.AddsParagraphs (before.beginNestedBlock name) :=
        ⟨opened.inOrder, opened.settled⟩
      exact ((begun.trans content).trans closed).trans (.emit closed.settled (if_neg other))
  | expanded bindingsKnown _ _ inductionHypothesis =>
      have inside := inductionHypothesis (known.pushScope (bindingsKnown known)) settled
      exact ⟨inside.inOrder, inside.settled⟩
  | included file docId idScope _ inductionHypothesis =>
      have inside := inductionHypothesis known settled
      exact ⟨inside.inOrder, inside.settled⟩

end AddsParagraphs

/-! ## Parsers of blocks in a compilation -/

/-- No paragraph is open in the output or pending, and arguments in scope stand for phrases. -/
structure BetweenParagraphs (state : CompilerState) : Prop where
  known : state.Scoped
  settled : state.pendingParagraph = false
  closed : openParagraphs state.events.toList = 0

/-- Where all is in order, no paragraph is open or pending. -/
theorem IsConsistent.betweenParagraphs
    (isConsistent : before.IsConsistent) :
    before.BetweenParagraphs := by
  obtain ⟨nested, attributes, consistent⟩ := isConsistent
  refine ⟨consistent.known, consistent.settled, ?_⟩
  have counted := openParagraphs_of_openElementsAfter? consistent.opened
  have noneOpen :
      "para" ∉
        (nested ++ before.sectionIds.map sectionElement ++ [("document", attributes)]).map
          Prod.fst := by
    intro isOpen
    obtain ⟨element, member, isPara⟩ := List.mem_map.mp isOpen
    simp only [List.mem_append, List.mem_map, List.mem_singleton] at member
    rcases member with (inNested | ⟨identifier, -, rfl⟩) | rfl
    · have isNested := consistent.names element inNested
      rw [isPara] at isNested
      simp [nestedBlockNames, Cursor.admonitionNames] at isNested
    · simp [sectionElement] at isPara
    · simp at isPara
  rw [List.count_eq_zero_of_not_mem noneOpen] at counted
  simpa using counted.symm

/-- What is between paragraphs stays there with blocks that have theirs in order. -/
theorem BetweenParagraphs.blockEffect
    (between : before.BetweenParagraphs)
    (effect : BlockEffect longest before after) :
    after.BetweenParagraphs where
  known := between.known.blockEffect effect
  settled := (AddsParagraphs.blockEffect effect between.known between.settled).settled
  closed := by
    obtain ⟨added, output, inOrder⟩ :=
      (AddsParagraphs.blockEffect effect between.known between.settled).inOrder
    rw [output, openParagraphs_append, between.closed, inOrder.closed]
    rfl

/-- Blocks are read between paragraphs, and have theirs in order. -/
structure KeepsParagraphs (before after : CompilerState) : Prop where
  starts : before.BetweenParagraphs
  adds : before.AddsParagraphs after
  ends : after.BetweenParagraphs

/-- Where all is in order, blocks keep their paragraphs so. -/
theorem IsConsistent.keepsParagraphs
    (isConsistent : before.IsConsistent)
    (effect : BlockEffect longest before after) :
    before.KeepsParagraphs after :=
  have between := isConsistent.betweenParagraphs
  ⟨between, .blockEffect effect between.known between.settled, between.blockEffect effect⟩

/-- What was added is all behind the output that there was. -/
theorem addsParagraphs_iff :
    before.AddsParagraphs after ↔
      before.events.toList <+: after.events.toList ∧
        ParagraphsInOrder (after.events.toList.drop before.events.size) ∧
          after.pendingParagraph = false := by
  constructor
  · rintro ⟨⟨added, output, inOrder⟩, settled⟩
    refine ⟨⟨added, output.symm⟩, ?_, settled⟩
    rw [output, ← Array.length_toList, List.drop_left]
    exact inOrder
  · rintro ⟨⟨added, output⟩, inOrder, settled⟩
    refine ⟨⟨added, output.symm, ?_⟩, settled⟩
    rwa [← output, ← Array.length_toList, List.drop_left] at inOrder

instance (before : CompilerState) : DecidablePred before.AddsParagraphs :=
  fun _ => decidable_of_iff _ addsParagraphs_iff.symm

instance : DecidablePred BetweenParagraphs :=
  fun state =>
    decidable_of_iff
      (state.Scoped ∧ state.pendingParagraph = false ∧
        openParagraphs state.events.toList = 0)
      ⟨fun between => ⟨between.1, between.2.1, between.2.2⟩,
        fun between => ⟨between.known, between.settled, between.closed⟩⟩

instance (before : CompilerState) : DecidablePred before.KeepsParagraphs :=
  fun after =>
    decidable_of_iff
      (before.BetweenParagraphs ∧ before.AddsParagraphs after ∧ after.BetweenParagraphs)
      ⟨fun keeps => ⟨keeps.1, keeps.2.1, keeps.2.2⟩,
        fun keeps => ⟨keeps.starts, keeps.adds, keeps.ends⟩⟩

end CompilerState

open CompilerState

/--
Paragraphs are never empty and never nested. Whatever blocks are read, from any state
without a pending paragraph in which arguments stand for phrases, no start of a
paragraph that they add has its end directly behind it, none is inside another, and
none is open or pending when they have been read. In a compilation, no paragraph is
open or pending either wherever the reading of blocks starts or ends.
-/
theorem paragraphs_never_empty_nor_nested :
    (∀ (environment : Environment) (steps : Nat) (nested : Bool) (cursor next : Cursor)
        (before after : Workspace),
      before.state.Scoped → before.state.pendingParagraph = false →
        (Inner.within environment steps).blocks nested cursor before = .ok next after →
          before.state.AddsParagraphs after.state) ∧
    ∀ (options : Options) (files : FileTree) (document : Document) (steps : Nat),
      let environment := options.environment files
      let run := document.parse environment (Inner.within environment steps)
      let watched := document.parse environment (Inner.comparing environment KeepsParagraphs steps)
      let start : Workspace := { state := options.initialState }
      watched start = run start ∧
        ∀ fault after, watched start = .error fault after → fault ≠ Compile.alarm := by
  constructor
  · intro environment steps nested cursor next before after known settled outcome
    have sound :
        (Inner.within environment steps).Sound environment.files
          (longestText environment before.state cursor.rest.length) steps False
          (Inner.within environment steps) :=
      Inner.within_sound_longestText
    have ends := sound.blocks nested (ready_longestText (Nat.le_refl _)) False.elim
    obtain ⟨effect, -⟩ := ends.of_ok rfl outcome
    exact .blockEffect effect known settled
  · intro options files document steps environment run watched start
    have ends :=
      options.parse_ends files document False.elim
        (Inner.comparing_sound (options.files_bounded files document)
          (fun _ _ isConsistent => isConsistent.keepsParagraphs) steps)
    have noAlarm : ¬ Compile.Expected files False True Compile.alarm :=
      fun raised => raised trivial
    refine ⟨ends.eq_reference noAlarm rfl, ?_⟩
    rintro fault after outcome rfl
    exact noAlarm (ends.of_error rfl outcome)

/--
Around a comment that is all of a paragraph, an expansion that fails inside one and a
block template that shows its argument in two of them.
-/
theorem paragraphs_never_empty_nor_nested_around_comment :
    let environment : Environment :=
      { files := ⟨[], [], []⟩, encoding := .html, moment := .fixed }
    let source : Source :=
      { text := "[/ c][/ d]\n\na [u] b\n\n[t [*x]]\n[/ e]", name := "note" }
    let block : Template :=
      { name := "t", params := ["p"], body := "[p]\n\n[note\n[p]\n]\n", block := true }
    let unread : Template := { name := "u", body := "]" }
    let state : CompilerState :=
      { templates := (TemplateTable.define {} block).define unread }
    state.Scoped ∧ state.pendingParagraph = false ∧
      ∃ next after,
        (Inner.within environment 60).blocks false source.cursor { state := state } =
            .ok next after ∧
          state.AddsParagraphs after.state ∧
          (after.state.events.toList.filter
            fun event => event == .opening "para" []).length = 3 := by
  intro environment source block unread state
  have known : state.Scoped := by decide
  have written :
      (match (Inner.within environment 60).blocks false source.cursor { state := state } with
        | .ok _ after =>
            (after.state.events.toList.filter fun event => event == .opening "para" []).length
        | .error _ _ => 0) =
        3 := by
    decide +kernel
  split at written
  next next after outcome =>
    exact
      ⟨known, rfl, next, after, outcome,
        paragraphs_never_empty_nor_nested.1 environment 60 false source.cursor next
          { state := state } after known rfl outcome,
        written⟩
  next => cases written

end DocMarkup
