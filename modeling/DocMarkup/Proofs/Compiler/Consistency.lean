import DocMarkup.Proofs.Compiler.Account
import DocMarkup.Proofs.Compiler.BlockEffect
import DocMarkup.Proofs.Event.Paragraphs

namespace DocMarkup.CompilerState

/-!
# Output and open blocks

The state knows which sections and which admonitions and block quotes are open,
and so does the output. Between two blocks they agree: the open elements are the
document, then the open sections with their identifiers, then the open
admonitions and block quotes. Reading blocks keeps this, whatever the blocks are,
and leaves open the admonitions and block quotes that were open before.
-/

variable {nested opened left : List Element} {attributes : List Attribute}
  {state before inside after : CompilerState} {events first second : List Event}
  {vocabulary : Vocabulary} {longest : Nat}

/-- The output agrees with the sections, admonitions and block quotes that are open. -/
structure Agrees
    (nested : List Element)
    (attributes : List Attribute)
    (state : CompilerState) :
    Prop where
  opened :
    openElementsAfter? [] state.events.toList =
      some (nested ++ state.sectionIds.map sectionElement ++ [("document", attributes)])
  names : ∀ element ∈ nested, element.1 ∈ nestedBlockNames
  nesting : state.blockNesting = nested.length
  level : state.sectionLevel = state.sectionIds.length
  settled : state.pendingParagraph = false

/--
Besides, the output can be written, sections are apart from blocks that hold
blocks, and counts and identifiers are accounted for.
-/
structure Consistent
    (nested : List Element)
    (attributes : List Attribute)
    (state : CompilerState) :
    Prop
    extends Agrees nested attributes state where
  known : state.Scoped
  apart : SectionsApart state.events.toList
  writable : ∀ event ∈ state.events.toList, event.IsWritable
  accounted : state.Accounted

/-! ## Adding to the output -/

/-- Events were added to the output, and the open sections and the nesting are the same. -/
structure Writes (events : List Event) (before after : CompilerState) : Prop where
  output : after.events.toList = before.events.toList ++ events
  settled : after.pendingParagraph = false
  sectionIds : after.sectionIds = before.sectionIds
  sectionLevel : after.sectionLevel = before.sectionLevel
  blockNesting : after.blockNesting = before.blockNesting
  known : before.Scoped → after.Scoped
  accounted : before.Accounted → after.Accounted

namespace Writes

/-- What is written in two goes is written in a row. -/
theorem trans
    (firstWrites : Writes first before inside)
    (secondWrites : Writes second inside after) :
    Writes (first ++ second) before after where
  output := by rw [secondWrites.output, firstWrites.output, List.append_assoc]
  settled := secondWrites.settled
  sectionIds := secondWrites.sectionIds.trans firstWrites.sectionIds
  sectionLevel := secondWrites.sectionLevel.trans firstWrites.sectionLevel
  blockNesting := secondWrites.blockNesting.trans firstWrites.blockNesting
  known := secondWrites.known ∘ firstWrites.known
  accounted := secondWrites.accounted ∘ firstWrites.accounted

/-- One event is written at the end of the output if no paragraph is pending. -/
theorem emit
    (settled : state.pendingParagraph = false)
    {event : Event}
    (unnamed : event.reservedId? = none) :
    Writes [event] state (state.emit event) where
  output := by simp [CompilerState.emit, settled]
  settled := rfl
  sectionIds := rfl
  sectionLevel := rfl
  blockNesting := rfl
  known := id
  accounted := fun accounted =>
    accounted.append [event] (by simp [CompilerState.emit, settled])
      (by simp [reservedIds, unnamed])

/-- An element with the identifier that was just reserved is written in the same way. -/
theorem identified
    (settled : state.pendingParagraph = false)
    {candidate name : String}
    (shows :
      (Event.opening name attributes).reservedId? = some (state.reserveId candidate).1) :
    Writes [.opening name attributes] state
      ((state.reserveId candidate).2.startElement name attributes) where
  output := by simp [startElement, CompilerState.emit, reserveId, settled]
  settled := rfl
  sectionIds := rfl
  sectionLevel := rfl
  blockNesting := rfl
  known := id
  accounted := fun accounted =>
    accounted.reserve (by simp [startElement, CompilerState.emit, reserveId, settled]) shows

/-- The start of a heading. -/
theorem beginHeading
    (settled : state.pendingParagraph = false)
    {level : Option Int}
    (isLevel : ∀ given, level = some given → given ∈ headingLevels)
    (title : String) :
    ∃ shown ∈ headingLevels,
      ∃ identifier,
        Writes [.opening "heading" [("level", toString shown), ("id", identifier)]] state
          (state.beginHeading level title) := by
  have isShown :
      level.getD (Int.ofNat (min (state.sectionLevel + 1) deepestHeadingLevel)) ∈
        headingLevels := by
    cases level with
    | some given =>
        exact isLevel given rfl
    | none =>
        simp only [Option.getD_none, deepestHeadingLevel, headingLevels, List.mem_cons,
          List.not_mem_nil, or_false, Int.ofNat_eq_natCast]
        omega
  exact ⟨_, isShown, _, .identified settled rfl⟩

/-- The start of a table. -/
theorem beginTable
    (settled : state.pendingParagraph = false)
    (given : Option String)
    (title : String)
    (hasTitle : Bool) :
    ∃ tableAttributes,
      (tableElement hasTitle, tableAttributes.map Prod.fst) ∈ plainVocabulary ∧
        Writes [.opening (tableElement hasTitle) tableAttributes] state
          (state.beginTable given title hasTitle) := by
  unfold CompilerState.beginTable
  cases hasTitle with
  | true =>
      exact ⟨_, by simp [tableElement, plainVocabulary], .identified settled rfl⟩
  | false =>
      split
      · exact ⟨_, by simp [tableElement, plainVocabulary], .identified settled rfl⟩
      · exact ⟨[], by simp [tableElement, plainVocabulary, flowVocabulary],
          .emit settled rfl⟩

end Writes

/-- What a passage writes if no paragraph is pending. -/
theorem Passage.writes
    (passage : Passage vocabulary opened left before after)
    (anonymous : vocabulary.Anonymous)
    (known : before.Scoped)
    (settled : before.pendingParagraph = false) :
    ∃ events, Stretch vocabulary opened left events ∧ Writes events before after := by
  obtain ⟨events, errors, stretch, areErrors, rfl⟩ := passage
  have unnamed := (stretch known).reservedIds_eq_nil anonymous
  refine ⟨events, stretch known, ?_⟩
  rw [replay_of_settled settled]
  exact
    { output := by simp [withErrors]
      settled := settled
      sectionIds := rfl
      sectionLevel := rfl
      blockNesting := rfl
      known := id
      accounted := fun accounted =>
        accounted.append _ (by simp [withErrors]) unnamed fun counted =>
          counted.withErrors areErrors }

/-- What a paragraph writes: nothing, or its content inside its element. -/
theorem Passage.writes_paragraph
    (effect : Effect inlineVocabulary before.beginParagraph inside)
    (known : before.Scoped) :
    ∃ content,
      Fragment inlineVocabulary content ∧
        Writes (paragraphEvents content) before inside.endParagraph := by
  obtain ⟨content, errors, stretch, areErrors, rfl⟩ := effect
  have unnamed := (stretch known).reservedIds_eq_nil inlineVocabulary_anonymous
  refine ⟨content, stretch known, ?_⟩
  by_cases nothing : content = []
  · subst nothing
    have ended :
        ((before.beginParagraph.replay []).withErrors errors).endParagraph =
          { before.withErrors errors with pendingParagraph := false } :=
      rfl
    rw [ended]
    exact
      { output := by simp [withErrors, paragraphEvents]
        settled := rfl
        sectionIds := rfl
        sectionLevel := rfl
        blockNesting := rfl
        known := id
        accounted := fun accounted => ⟨accounted.1.withErrors areErrors, accounted.2⟩ }
  · have isWritten :
        paragraphEvents content = [.opening "para" []] ++ content ++ [.closing "para"] := by
      simp [paragraphEvents, nothing]
    rw [replay_of_pending rfl nothing, isWritten]
    have output :
        ({ before.beginParagraph with
            events := before.events ++ (Event.opening "para" [] :: content).toArray
            pendingParagraph := false }.withErrors errors).endParagraph.events.toList =
          before.events.toList ++
            ([.opening "para" []] ++ content ++ [.closing "para"]) := by
      simp [withErrors, endParagraph, beginParagraph, CompilerState.endElement,
        CompilerState.emit]
    have paragraphUnnamed :
        reservedIds ([.opening "para" []] ++ content ++ [.closing "para"]) = [] := by
      rw [reservedIds_append, reservedIds_append, unnamed]
      rfl
    exact
      { output := output
        settled := rfl
        sectionIds := rfl
        sectionLevel := rfl
        blockNesting := rfl
        known := id
        accounted := fun accounted =>
          accounted.append _ output paragraphUnnamed fun counted => counted.withErrors areErrors }

/-- The identifier of a section is reserved, and the section is opened without its title. -/
def enterSection (state : CompilerState) (candidate : String) : CompilerState :=
  let (identifier, reserved) := state.reserveId candidate
  { reserved with
    sectionLevel := reserved.sectionLevel + 1
    sectionIds := identifier :: reserved.sectionIds }.startElement "section" [("id", identifier)]

/-- A section begins with its start and that of its title. -/
theorem exists_beginSection_eq
    (state : CompilerState)
    (given : Option String)
    (title : String) :
    ∃ candidate,
      state.beginSection given title = (state.enterSection candidate).startElement "title" :=
  ⟨_, rfl⟩

namespace Consistent

/-- Writing a balanced row of events keeps the agreement. -/
theorem writes
    (consistent : Consistent nested attributes before)
    (written : Writes events before after)
    (balanced : openElementsAfter? [] events = some [])
    (isWritable : ∀ event ∈ events, event.IsWritable)
    (elsewhere : ∀ event ∈ events, ¬ event.IsOfSection) :
    Consistent nested attributes after where
  opened := by
    rw [written.output, openElementsAfter?_append, consistent.opened, written.sectionIds]
    exact openElementsAfter?_inside balanced _
  names := consistent.names
  nesting := written.blockNesting.trans consistent.nesting
  level := by rw [written.sectionLevel, written.sectionIds, consistent.level]
  settled := written.settled
  known := written.known consistent.known
  apart := by
    rw [written.output]
    exact consistent.apart.append elsewhere
  writable := by
    rw [written.output]
    intro event member
    rcases List.mem_append.mp member with before | isNew
    · exact consistent.writable event before
    · exact isWritable event isNew
  accounted := written.accounted consistent.accounted

/-- Writing a fragment of what occurs in documents keeps the agreement. -/
theorem fragment
    (consistent : Consistent nested attributes before)
    (written : Writes events before after)
    (isFragment : Fragment plainVocabulary events) :
    Consistent nested attributes after :=
  consistent.writes written isFragment.leads
    (fun event member => (isFragment.within event member).isWritable)
    (fun event member => (isFragment.within event member).not_isOfSection)

/-- Writing a fragment inside an element keeps the agreement. -/
theorem element
    (consistent : Consistent nested attributes before)
    {name : String}
    {elementAttributes : List Attribute}
    (isWritable : Element.IsWritable (name, elementAttributes))
    (elsewhere : name ≠ "section")
    (begins : Writes [.opening name elementAttributes] before inside)
    (effect : Effect flowVocabulary inside after) :
    Consistent nested attributes (after.endElement name) := by
  obtain ⟨content, isFragment, written⟩ :=
    effect.writes flowVocabulary_anonymous (begins.known consistent.known) begins.settled
  have isPlain := isFragment.mono flowVocabulary_subset_plainVocabulary
  have ends : Writes [.closing name] after (after.endElement name) :=
    .emit written.settled rfl
  refine consistent.writes ((begins.trans written).trans ends) ?_ ?_ ?_
  · rw [openElementsAfter?_append, openElementsAfter?_append]
    have afterOpening :
        openElementsAfter? [] [.opening name elementAttributes] =
          some [(name, elementAttributes)] :=
      rfl
    rw [afterOpening, Option.bind_some, Fragment.openElementsAfter?_eq isFragment]
    simp [openElementsAfter?, Event.openElements?]
  · intro event member
    simp only [List.mem_append, List.mem_singleton] at member
    rcases member with (rfl | inContent) | rfl
    · exact isWritable
    · exact (isPlain.within event inContent).isWritable
    · trivial
  · intro event member
    simp only [List.mem_append, List.mem_singleton] at member
    rcases member with (rfl | inContent) | rfl
    · exact elsewhere
    · exact (isPlain.within event inContent).not_isOfSection
    · exact elsewhere

/-- Writing nothing keeps the agreement. -/
theorem silent
    (consistent : Consistent nested attributes before)
    (written : Writes [] before after) :
    Consistent nested attributes after :=
  consistent.fragment written .nil

/-! ## Sections and blocks that hold blocks -/

/-- A state outside admonitions and block quotes has none open. -/
theorem nested_eq_nil
    (consistent : Consistent nested attributes state)
    (outside : state.isInNestedBlock = false) :
    nested = [] := by
  have nesting := consistent.nesting
  simp only [isInNestedBlock, decide_eq_false_iff_not, Int.not_lt] at outside
  exact List.length_eq_zero_iff.mp (by omega)

/-- Outside admonitions and block quotes, no open element is one of them. -/
theorem outside_of_nil
    (consistent : Consistent [] attributes state) :
    ∃ opened,
      openElementsAfter? [] state.events.toList = some opened ∧
        ∀ element ∈ opened, element.1 ∉ nestedBlockNames := by
  refine ⟨_, consistent.opened, ?_⟩
  intro element member
  simp only [List.nil_append, List.mem_append, List.mem_map, List.mem_singleton] at member
  rcases member with ⟨identifier, _, rfl⟩ | rfl
  · simp [sectionElement, nestedBlockNames, Cursor.admonitionNames]
  · simp [nestedBlockNames, Cursor.admonitionNames]

/-- Opening a section, without its title, keeps the agreement. -/
theorem enterSection
    (consistent : Consistent [] attributes before)
    (candidate : String) :
    Consistent [] attributes (before.enterSection candidate) := by
  generalize isReserved : (before.reserveId candidate).1 = identifier
  have output :
      (before.enterSection candidate).events.toList =
        before.events.toList ++ [.opening "section" [("id", identifier)]] := by
    simp [CompilerState.enterSection, startElement, CompilerState.emit, reserveId,
      consistent.settled, ← isReserved]
  exact
    { opened := by
        rw [output, openElementsAfter?_append, consistent.opened, ← isReserved]
        rfl
      names := consistent.names
      nesting := consistent.nesting
      level := congrArg (· + 1) consistent.level
      settled := rfl
      known := consistent.known
      apart := by
        rw [output]
        exact consistent.apart.push fun _ => consistent.outside_of_nil
      writable := by
        rw [output]
        intro event member
        rcases List.mem_append.mp member with before | isNew
        · exact consistent.writable event before
        · obtain rfl := List.mem_singleton.mp isNew
          exact .ofSection identifier
      accounted := consistent.accounted.reserve output (by rw [isReserved]; rfl) }

/-- Closing the innermost section keeps the agreement. -/
theorem leaveSection
    (consistent : Consistent [] attributes before)
    {innermost : String}
    {outer : List String}
    (sectionIds : before.sectionIds = innermost :: outer) :
    Consistent [] attributes (before.leaveSection outer) := by
  have output :
      (before.leaveSection outer).events.toList =
        before.events.toList ++ [.closing "section"] := by
    simp [CompilerState.leaveSection, endElement, CompilerState.emit, consistent.settled]
  exact
    { opened := by
        rw [output, openElementsAfter?_append, consistent.opened, sectionIds]
        rfl
      names := consistent.names
      nesting := consistent.nesting
      level := by
        have level := consistent.level
        rw [sectionIds, List.length_cons] at level
        show before.sectionLevel - 1 = outer.length
        omega
      settled := rfl
      known := consistent.known
      apart := by
        rw [output]
        exact consistent.apart.push fun _ => consistent.outside_of_nil
      writable := by
        rw [output]
        intro event member
        rcases List.mem_append.mp member with before | isNew
        · exact consistent.writable event before
        · obtain rfl := List.mem_singleton.mp isNew
          trivial
      accounted := consistent.accounted.append _ output rfl }

/-- An element without attributes shows no identifier. -/
private theorem reservedIds_plain (name : String) : reservedIds [.opening name []] = [] := by
  simp [reservedIds, Event.reservedId?, attribute?]

/-- An admonition or a block quote is not a section. -/
private theorem ne_section_of_mem
    {name : String}
    (isNested : name ∈ nestedBlockNames) :
    name ≠ "section" := by
  rintro rfl
  simp [nestedBlockNames, Cursor.admonitionNames] at isNested

/-- Opening an admonition or a block quote keeps the agreement, with one more open. -/
theorem beginNestedBlock
    (consistent : Consistent nested attributes before)
    {name : String}
    (isNested : name ∈ nestedBlockNames) :
    Consistent ((name, []) :: nested) attributes (before.beginNestedBlock name) := by
  have output :
      (before.beginNestedBlock name).events.toList =
        before.events.toList ++ [.opening name []] := by
    simp [CompilerState.beginNestedBlock, startElement, CompilerState.emit, consistent.settled]
  exact
    { opened := by
        rw [output, openElementsAfter?_append, consistent.opened]
        rfl
      names := by
        intro element member
        rcases List.mem_cons.mp member with rfl | isOuter
        · exact isNested
        · exact consistent.names element isOuter
      nesting := by
        rw [List.length_cons, Int.natCast_succ, ← consistent.nesting]
        rfl
      level := consistent.level
      settled := rfl
      known := consistent.known
      apart := by
        rw [output]
        exact consistent.apart.push fun isOfSection =>
          (ne_section_of_mem isNested isOfSection).elim
      writable := by
        rw [output]
        intro event member
        rcases List.mem_append.mp member with before | isNew
        · exact consistent.writable event before
        · obtain rfl := List.mem_singleton.mp isNew
          refine .plain (List.mem_append_left _ (List.mem_append_left _ ?_))
          exact List.mem_append_right _ (List.mem_map_of_mem isNested)
      accounted := consistent.accounted.append _ output (reservedIds_plain name) }

/-- Closing an admonition or a block quote keeps the agreement, with one less open. -/
theorem endNestedBlock
    {name : String}
    (consistent : Consistent ((name, []) :: nested) attributes before) :
    Consistent nested attributes (before.endNestedBlock name) := by
  have isNested : name ∈ nestedBlockNames :=
    consistent.names (name, []) (by simp)
  have output :
      (before.endNestedBlock name).events.toList =
        before.events.toList ++ [.closing name] := by
    simp [CompilerState.endNestedBlock, endElement, CompilerState.emit, consistent.settled]
  exact
    { opened := by
        rw [output, openElementsAfter?_append, consistent.opened]
        simp [openElementsAfter?, Event.openElements?, CompilerState.endNestedBlock, endElement,
          CompilerState.emit]
      names := fun element member => consistent.names element (by simp [member])
      nesting := by
        have nesting := consistent.nesting
        rw [List.length_cons] at nesting
        show before.blockNesting - 1 = nested.length
        omega
      level := consistent.level
      settled := rfl
      known := consistent.known
      apart := by
        rw [output]
        exact consistent.apart.push fun isOfSection =>
          (ne_section_of_mem isNested isOfSection).elim
      writable := by
        rw [output]
        intro event member
        rcases List.mem_append.mp member with before | isNew
        · exact consistent.writable event before
        · obtain rfl := List.mem_singleton.mp isNew
          trivial
      accounted := consistent.accounted.append _ output rfl }

end Consistent

/-! ## Blocks -/

namespace Consistent

/-- A state in which only what follows identifiers or stands for names is changed. -/
private theorem quiet
    (consistent : Consistent nested attributes before)
    (events : after.events = before.events)
    (pendingParagraph : after.pendingParagraph = before.pendingParagraph)
    (sectionIds : after.sectionIds = before.sectionIds)
    (sectionLevel : after.sectionLevel = before.sectionLevel)
    (blockNesting : after.blockNesting = before.blockNesting)
    (known : before.Scoped → after.Scoped)
    (accounted : before.Accounted → after.Accounted) :
    Consistent nested attributes after :=
  consistent.silent
    { output := by simp [events]
      settled := pendingParagraph.trans consistent.settled
      sectionIds := sectionIds
      sectionLevel := sectionLevel
      blockNesting := blockNesting
      known := known
      accounted := accounted }

/-- Going into an expansion keeps the agreement. -/
theorem beginExpansion
    (consistent : Consistent nested attributes before)
    {bindings : NameTable Template}
    (known : before.Scoped → bindings.Every Template.IsPhraseIfKnown) :
    Consistent nested attributes (before.beginExpansion bindings) :=
  consistent.quiet rfl rfl rfl rfl rfl (fun wellScoped => wellScoped.pushScope (known wellScoped))
    id

/-- Coming out of an expansion keeps the agreement. -/
theorem endExpansion (consistent : Consistent nested attributes before) :
    Consistent nested attributes before.endExpansion :=
  consistent.quiet rfl rfl rfl rfl rfl (fun wellScoped => wellScoped.dropScope) id

/-- Going into an included file keeps the agreement. -/
theorem beginInclusion
    (consistent : Consistent nested attributes before)
    (file : Path)
    (docId : Option String)
    (idScope : Nat) :
    Consistent nested attributes (before.beginInclusion file docId idScope) :=
  consistent.quiet rfl rfl rfl rfl rfl id id

/-- Coming out of an included file keeps the agreement. -/
theorem endInclusion
    (consistent : Consistent nested attributes inside)
    (before : CompilerState) :
    Consistent nested attributes (inside.endInclusion before) :=
  consistent.quiet rfl rfl rfl rfl rfl id id

/-- A warning keeps the agreement. -/
theorem reportWarning
    (consistent : Consistent nested attributes before)
    (kind : DiagnosticKind)
    (position : Option Position)
    (message : String) :
    Consistent nested attributes (before.reportWarning kind position message) :=
  consistent.quiet rfl rfl rfl rfl rfl id fun accounted =>
    accounted.reportWarning kind position message

/-- The definition of a macro keeps the agreement. -/
theorem defineMacro
    (consistent : Consistent nested attributes before)
    (position : Position)
    (name body : String) :
    Consistent nested attributes (before.defineMacro position name body) := by
  have defined :
      Consistent nested attributes { before with macros := before.macros.define name body } :=
    consistent.quiet rfl rfl rfl rfl rfl id id
  unfold CompilerState.defineMacro
  split
  · exact defined.reportWarning ..
  · exact defined

/-- The definition of a template whose output is not known keeps the agreement. -/
theorem defineTemplate
    (consistent : Consistent nested attributes before)
    (position : Position)
    {template : Template}
    (unknown : template.events = none) :
    Consistent nested attributes (before.defineTemplate position template) := by
  have defined :
      Consistent nested attributes
        { before with templates := before.templates.define template } :=
    consistent.quiet rfl rfl rfl rfl rfl
      (fun wellScoped => wellScoped.define fun events isKnown => by simp [unknown] at isKnown) id
  unfold CompilerState.defineTemplate
  split
  · exact defined.reportWarning ..
  · exact defined

/-- Opening a section keeps the agreement once its title is closed. -/
theorem openSection
    (consistent : Consistent nested attributes before)
    (outside : before.isInNestedBlock = false)
    (given : Option String)
    (title : String)
    (effect : Effect inlineVocabulary (before.beginSection given title) inside) :
    Consistent nested attributes inside.endSectionTitle := by
  obtain rfl := consistent.nested_eq_nil outside
  obtain ⟨candidate, begun⟩ := before.exists_beginSection_eq given title
  rw [begun] at effect
  have entered := consistent.enterSection candidate
  have isTitle : ("title", ([] : List Attribute).map Prod.fst) ∈ plainVocabulary := by
    simp [plainVocabulary, flowVocabulary]
  exact entered.element (.plain isTitle) (by decide) (.emit entered.settled rfl) effect.toFlow

/-- Reading blocks keeps the agreement, with the same admonitions and block quotes open. -/
theorem blockEffect
    (effect : BlockEffect longest before after)
    (consistent : Consistent nested attributes before) :
    Consistent nested attributes after := by
  induction effect generalizing nested with
  | refl state =>
      exact consistent
  | trans _ _ firstHypothesis secondHypothesis =>
      exact secondHypothesis (firstHypothesis consistent)
  | flow effect =>
      obtain ⟨events, isFragment, written⟩ :=
        effect.writes flowVocabulary_anonymous consistent.known consistent.settled
      exact consistent.fragment written
        (isFragment.mono flowVocabulary_subset_plainVocabulary)
  | paragraph effect =>
      obtain ⟨content, isFragment, written⟩ := effect.writes_paragraph consistent.known
      refine consistent.fragment written (.paragraph (isFragment.mono ?_))
      exact
        List.Subset.trans inlineVocabulary_subset_flowVocabulary
          flowVocabulary_subset_plainVocabulary
  | heading level title isLevel effect =>
      obtain ⟨shown, isShown, identifier, begins⟩ :=
        Writes.beginHeading consistent.settled isLevel title
      exact consistent.element (.heading identifier isShown) (by decide) begins effect.toFlow
  | table given title hasTitle effect =>
      obtain ⟨tableAttributes, isKnown, begins⟩ :=
        Writes.beginTable consistent.settled given title hasTitle
      have elsewhere : tableElement hasTitle ≠ "section" := by
        cases hasTitle <;> decide
      exact consistent.element (.plain isKnown) elsewhere begins effect
  | openedSection given title outside effect =>
      exact consistent.openSection outside given title effect
  | closedSection outside _ sectionIds =>
      obtain rfl := consistent.nested_eq_nil outside
      exact consistent.leaveSection sectionIds
  | warned before kind position message =>
      exact consistent.reportWarning ..
  | definedMacro before position name _ =>
      exact consistent.defineMacro ..
  | definedTemplate before position unknown _ =>
      exact consistent.defineTemplate position unknown
  | nested isNested _ inductionHypothesis =>
      exact (inductionHypothesis (consistent.beginNestedBlock isNested)).endNestedBlock
  | expanded known _ _ inductionHypothesis =>
      exact (inductionHypothesis (consistent.beginExpansion known)).endExpansion
  | included file docId idScope _ inductionHypothesis =>
      exact (inductionHypothesis (consistent.beginInclusion file docId idScope)).endInclusion _

end Consistent

/-- The output agrees with some open admonitions and block quotes, and all is in order. -/
def IsConsistent (state : CompilerState) : Prop :=
  ∃ nested attributes, Consistent nested attributes state

/-- Reading blocks keeps everything in order. -/
theorem IsConsistent.blockEffect
    (effect : BlockEffect longest before after)
    (isConsistent : before.IsConsistent) :
    after.IsConsistent := by
  obtain ⟨nested, attributes, consistent⟩ := isConsistent
  exact ⟨nested, attributes, Consistent.blockEffect effect consistent⟩

/-- Going into an included file keeps everything in order. -/
theorem IsConsistent.beginInclusion
    (isConsistent : before.IsConsistent)
    (file : Path)
    (docId : Option String)
    (idScope : Nat) :
    (before.beginInclusion file docId idScope).IsConsistent := by
  obtain ⟨nested, attributes, consistent⟩ := isConsistent
  exact ⟨nested, attributes, consistent.beginInclusion file docId idScope⟩

/-- Where all is in order, errors and warnings are counted. -/
theorem IsConsistent.isCounted (isConsistent : state.IsConsistent) : state.IsCounted := by
  obtain ⟨nested, attributes, consistent⟩ := isConsistent
  exact consistent.accounted.1

/-- Where all is in order, identifiers are reserved as the output shows them. -/
theorem IsConsistent.isRegistered (isConsistent : state.IsConsistent) : state.IsRegistered := by
  obtain ⟨nested, attributes, consistent⟩ := isConsistent
  exact consistent.accounted.2

end DocMarkup.CompilerState
