import DocMarkup.Proofs.Grammar.Listing
import DocMarkup.Proofs.Grammar.Table

namespace DocMarkup.Block

open Compile CompilerState

/-!
# How the rules of blocks end

A rule of blocks does what blocks do and reads on in the text, or it does not
apply and has only added to the state. A section is closed only if one is open,
which in a state that is in order never fails. The rules may be given another way of
opening sections than their own, such as one that looks at the section, if it comes
to the same or raises the alarm.
-/

variable {files : FileTree} {longest steps : Nat} {inner reference : Inner}
  {before : CompilerState} {affordable calm : Prop} {order : Order} {cursor : Cursor}

/-- What was read from a later cursor on was read from an earlier one on. -/
theorem Applied.earlier
    {later next : Cursor}
    {after : CompilerState}
    (nearer : later.rest.length ≤ cursor.rest.length)
    (applied : Applied longest before later next after) :
    Applied longest before cursor next after :=
  ⟨applied.1, Nat.lt_of_lt_of_le applied.2 nearer⟩

/-- How a comment ends. -/
theorem comment_ends {faults : Fault → Prop} :
    Ends before (comment cursor) (comment cursor) faults
      (Settled before (Applied longest before cursor)) := by
  refine .pure (.of_last (.refl before) ?_)
  intro next read
  exact ⟨.refl before, Cursor.length_rest_comment?_lt read⟩

/-- A phrase after the start of something, and then its end and a closing bracket. -/
private theorem titled_ends
    (sound : inner.Sound files longest steps affordable reference order)
    {begun : CompilerState}
    {finish : CompilerState → CompilerState}
    {content : Cursor}
    (ready : Ready longest steps affordable begun content.rest.length 1)
    (begins : before.Precedes begun)
    (effect :
      ∀ inside,
        Effect inlineVocabulary begun inside →
        BlockEffect longest before (finish inside))
    (nearer : content.rest.length ≤ cursor.rest.length) :
    Ends begun
      (do
        match ← Phrase.nested inner content with
        | none => return none
        | some next =>
            update finish
            return next.close?)
      (do
        match ← Phrase.nested reference content with
        | none => return none
        | some next =>
            update finish
            return next.close?)
      (Expected files affordable calm)
      (Settled before (Applied longest before cursor)) := by
  refine (Phrase.nested_ends sound ready).bind ?_
  rintro (_ | next) middle settled
  · exact .pure (begins.trans settled)
  · obtain ⟨inside, nearerNext⟩ := settled
    have finished := effect middle inside
    refine .updateThen (.pure (.of_last finished.precedes ?_))
    intro last closed
    have afterBracket := Cursor.length_rest_close? closed
    exact ⟨finished, by omega⟩

/-! ## Opening sections -/

/-- Open a section, as the rules do. -/
def openSection (given : Option String) (title : String) : Compile Unit :=
  update fun state => state.beginSection given title

/-- The start of a section, with a way of opening it. -/
def sectionStartWith (opening : Option String → String → Compile Unit) (inner : Inner) : Rule :=
  fun cursor => do
    if (← state).isInNestedBlock then
      return none
    else
      match cursor.keywordWithId? "[section" with
      | none => return none
      | some (given, afterKeyword) =>
          let content := afterKeyword.skipHorizontal
          match content.balanced? with
          | none => return none
          | some (title, _) =>
              opening given title
              match ← Phrase.nested inner content with
              | none => return none
              | some next =>
                  update fun state => state.endSectionTitle
                  return next.close?

/-- Everything that an opening bracket may start, with a way of opening sections. -/
def elementsWith
    (opening : Option String → String → Compile Unit)
    (inner : Inner) :
    List Rule :=
  [comment, sectionStartWith opening inner, sectionEnd, heading inner, macroDefinition,
    templateDefinition, inclusion inner, externalInclusion, admonition inner, quotation inner,
    preformatted inner, Table.rule inner, Table.variableList inner, templateCall inner]

/-- A block in brackets, with a way of opening sections. -/
def elementWith
    (opening : Option String → String → Compile Unit)
    (inner : Inner)
    (nested : Bool) :
    Rule := fun cursor => do
  if cursor.isBefore '[' then
    match ← firstOf (elementsWith opening inner) cursor with
    | none => return none
    | some next =>
        let lineRest := next.skipHorizontal
        match lineRest.lineEnd? with
        | some nextLine => return some nextLine
        | none => return if nested && lineRest.isBefore ']' then some lineRest else none
  else
    return none

/-- Everything that may stand where a block may stand, with a way of opening sections. -/
def rulesWith
    (opening : Option String → String → Compile Unit)
    (inner : Inner)
    (nested : Bool) :
    List Rule :=
  [elementWith opening inner nested, fencedCode, Listing.rule inner] ++
    (if nested then [] else [indentedCode]) ++ [paragraph inner]

/-- One block or blank line and those behind it, with a way of opening sections. -/
def stepWith
    (opening : Option String → String → Compile Unit)
    (inner : Inner)
    (nested : Bool)
    (cursor : Cursor) :
    Compile Cursor := do
  if cursor.isAtEnd then
    return cursor
  else
    let start := if nested then cursor.skipHorizontal else cursor
    if nested && start.isBefore ']' then
      return start
    else
      match start.blankLine? with
      | some next => inner.blocks nested next
      | none =>
          match ← firstOf (rulesWith opening inner nested) start with
          | some next => inner.blocks nested next
          | none => return start

/-- Blocks are read with the one way of opening sections that there is. -/
theorem step_eq_stepWith (inner : Inner) : step inner = stepWith openSection inner :=
  rfl

/-- From a state, a way of opening sections opens them as the rules do, or raises the alarm. -/
def Opens
    (files : FileTree)
    (affordable calm : Prop)
    (before : CompilerState)
    (opening : Option String → String → Compile Unit) :
    Prop :=
  ∀ given title,
    Ends before (opening given title) (openSection given title)
      (Expected files affordable calm)
      fun _ after => after = before.beginSection given title

/-- The rules open sections as they do. -/
theorem opens_openSection : Opens files affordable calm before openSection :=
  fun _ _ => .update rfl

/-- How the start of a section ends. -/
theorem sectionStartWith_ends
    (sound : inner.Sound files longest steps affordable reference order)
    {opening : Option String → String → Compile Unit}
    (opens : Opens files affordable calm before opening)
    (ready : Ready longest steps affordable before cursor.rest.length 2) :
    Ends before (sectionStartWith opening inner cursor) (sectionStart reference cursor)
      (Expected files affordable calm)
      (Settled before (Applied longest before cursor)) := by
  unfold sectionStartWith sectionStart
  apply Ends.state
  cases outside : before.isInNestedBlock with
  | true =>
      exact .pure (Precedes.refl before)
  | false =>
      simp only [Bool.false_eq_true, ↓reduceIte]
      cases read : cursor.keywordWithId? "[section" with
      | none =>
          exact .pure (Precedes.refl before)
      | some found =>
          obtain ⟨given, afterKeyword⟩ := found
          have pastKeyword := Cursor.length_rest_keywordWithId?_le read
          have blanks := afterKeyword.length_rest_skipHorizontal_le
          simp only
          cases afterKeyword.skipHorizontal.balanced? with
          | none =>
              exact .pure (Precedes.refl before)
          | some pair =>
              obtain ⟨title, _⟩ := pair
              refine (opens given title).bind ?_
              rintro _ middle rfl
              exact
                titled_ends sound (ready.alike ⟨rfl, rfl, rfl, rfl, rfl⟩ (by omega) (by omega))
                  (.beginSection before given title)
                  (fun _ => .openedSection given title outside) (by omega)

/-! ## The other rules -/

/-- How the end of a section ends. -/
theorem sectionEnd_ends (isCalm : calm → order.holds before) :
    Ends before (sectionEnd cursor) (sectionEnd cursor) (Expected files affordable calm)
      (Settled before (Applied longest before cursor)) := by
  unfold sectionEnd
  apply Ends.state
  cases outside : before.isInNestedBlock with
  | true =>
      exact .pure (Precedes.refl before)
  | false =>
      simp only [Bool.false_eq_true, ↓reduceIte]
      cases read : cursor.sectionEnd? with
      | none =>
          exact .pure (Precedes.refl before)
      | some next =>
          have shorter := Cursor.length_rest_sectionEnd?_lt read
          have closes :
              Ends before (closeSection cursor.position) (closeSection cursor.position)
                (Expected files affordable calm)
                fun _ after => BlockEffect longest before after := by
            unfold closeSection
            apply Ends.state
            split
            · exact .update (.warned ..)
            next someOpen =>
              apply Ends.updateThen
              cases sectionIds : before.sectionIds with
              | nil =>
                  refine .throw fun calmBefore => ?_
                  obtain ⟨nested, attributes, consistent⟩ := order.isConsistent (isCalm calmBefore)
                  have level := consistent.level
                  rw [sectionIds] at level
                  exact someOpen level
              | cons innermost outer =>
                  exact .update (.closedSection outside someOpen sectionIds)
          refine closes.bind ?_
          intro _ after effect
          exact .pure ⟨effect, shorter⟩

/-- The front of a heading gives a level of headings, if any. -/
private theorem mem_headingLevels_of_heading?
    {level : Option Int}
    {next : Cursor}
    (read : cursor.heading? = some (level, next)) :
    ∀ given, level = some given → given ∈ headingLevels := by
  obtain ⟨⟨keyword, ownLevel⟩, isKeyword, found⟩ := List.exists_of_findSome?_eq_some read
  obtain ⟨after, _, shape⟩ := Option.map_eq_some_iff.mp found
  obtain ⟨rfl, _⟩ := Prod.mk.inj shape
  have areLevels :
      ∀ entry ∈ Cursor.headingKeywords,
        ∀ given ∈ entry.2, given ∈ headingLevels := by
    decide
  exact fun given isGiven => areLevels _ isKeyword given isGiven

/-- How a heading ends. -/
theorem heading_ends
    (sound : inner.Sound files longest steps affordable reference order)
    (ready : Ready longest steps affordable before cursor.rest.length 2) :
    Ends before (heading inner cursor) (heading reference cursor)
      (Expected files affordable calm)
      (Settled before (Applied longest before cursor)) := by
  unfold heading
  cases read : cursor.heading? with
  | none =>
      exact .pure (Precedes.refl before)
  | some found =>
      obtain ⟨level, afterKeyword⟩ := found
      have pastKeyword := Cursor.length_rest_heading?_lt read
      have blanks := afterKeyword.length_rest_skipHorizontal_le
      simp only
      cases afterKeyword.skipHorizontal.balanced? with
      | none =>
          exact .pure (Precedes.refl before)
      | some pair =>
          obtain ⟨title, _⟩ := pair
          apply Ends.updateThen
          exact
            titled_ends sound (ready.alike ⟨rfl, rfl, rfl, rfl, rfl⟩ (by omega) (by omega))
              (.beginHeading before level title)
              (fun _ => .heading level title (mem_headingLevels_of_heading? read)) (by omega)

/-- How the definition of a macro ends. -/
theorem macroDefinition_ends
    {faults : Fault → Prop}
    (short : cursor.rest.length ≤ longest) :
    Ends before (macroDefinition cursor) (macroDefinition cursor) faults
      (Settled before (Applied longest before cursor)) := by
  unfold macroDefinition
  cases read : cursor.macroHead? with
  | none =>
      exact .pure (Precedes.refl before)
  | some found =>
      obtain ⟨name, afterName⟩ := found
      have pastName := Cursor.length_rest_macroHead?_lt read
      simp only
      cases through : afterName.balancedThrough? with
      | none =>
          exact .pure (Precedes.refl before)
      | some pair =>
          obtain ⟨body, next⟩ := pair
          have bodyShort := Cursor.length_balancedThrough?_le through
          have pastBody := Cursor.length_rest_balancedThrough?_lt through
          have trimmedShort := Text.length_trimmed_le body
          exact .updateThen (.pure ⟨.definedMacro _ _ _ (by omega), by omega⟩)

/-- How the definition of a template ends. -/
theorem templateDefinition_ends
    {faults : Fault → Prop}
    (short : cursor.rest.length ≤ longest) :
    Ends before (templateDefinition cursor) (templateDefinition cursor) faults
      (Settled before (Applied longest before cursor)) := by
  unfold templateDefinition
  cases read : cursor.templateHead? with
  | none =>
      exact .pure (Precedes.refl before)
  | some found =>
      obtain ⟨name, afterName⟩ := found
      have pastName := Cursor.length_rest_templateHead?_lt read
      have pastParams := afterName.length_rest_templateParams_le
      simp only
      cases through : afterName.templateParams.2.balancedThrough? with
      | none =>
          exact .pure (Precedes.refl before)
      | some pair =>
          obtain ⟨body, next⟩ := pair
          have bodyShort := Cursor.length_balancedThrough?_le through
          have pastBody := Cursor.length_rest_balancedThrough?_lt through
          have ownBodyShort := length_templateOf_body_le name afterName.templateParams.1 body
          have unknown := (templateOf_fields name afterName.templateParams.1 body).2.2
          exact .updateThen (.pure ⟨.definedTemplate _ _ unknown (by omega), by omega⟩)

/-- How the inclusion of a file ends. -/
theorem inclusion_ends
    (sound : inner.Sound files longest steps affordable reference order)
    (ready : Ready longest steps affordable before cursor.rest.length 2)
    (isCalm : calm → order.holds before) :
    Ends before (inclusion inner cursor) (inclusion reference cursor)
      (Expected files affordable calm)
      (Settled before (Applied longest before cursor)) := by
  unfold inclusion
  cases read : cursor.inclusionHead? with
  | none =>
      exact .pure (Precedes.refl before)
  | some found =>
      obtain ⟨given, afterHead⟩ := found
      have pastHead := Cursor.length_rest_inclusionHead?_lt read
      simp only
      cases named : afterHead.fileName? with
      | none =>
          exact .pure (Precedes.refl before)
      | some pair =>
          obtain ⟨name, next⟩ := pair
          have pastName := Cursor.length_rest_fileName?_lt named
          have readyFile : Ready longest steps affordable before 0 1 :=
            ready.nearer (Nat.zero_le _) (by omega)
          refine (sound.includeFile cursor.position name given readyFile isCalm).bind ?_
          intro _ after effect
          exact .pure ⟨effect, by omega⟩

/-- How the reference to a document that is included later ends. -/
theorem externalInclusion_ends {faults : Fault → Prop} :
    Ends before (externalInclusion cursor) (externalInclusion cursor) faults
      (Settled before (Applied longest before cursor)) := by
  unfold externalInclusion
  cases read : (cursor.literal? "[xinclude").bind Cursor.gap? with
  | none =>
      exact .pure (Precedes.refl before)
  | some afterHead =>
      obtain ⟨inside, opened, gap⟩ := Option.bind_eq_some_iff.mp read
      have afterOpening := Cursor.length_rest_literal? opened
      have pastGap := Cursor.length_rest_gap?_lt gap
      simp only
      cases named : afterHead.fileName? with
      | none =>
          exact .pure (Precedes.refl before)
      | some pair =>
          obtain ⟨name, next⟩ := pair
          have pastName := Cursor.length_rest_fileName?_lt named
          have effect : Effect flowVocabulary before (before.externalInclusion name) :=
            Effect.emptyElement before (by simp [flowVocabulary])
          exact .updateThen (.pure ⟨.flow effect, by omega⟩)

/-- How blocks inside an element end. -/
theorem nestedBlocks_ends
    (sound : inner.Sound files longest steps affordable reference order)
    {name : String}
    (isNested : name ∈ nestedBlockNames)
    (ready : Ready longest steps affordable before cursor.rest.length 3)
    (isCalm : calm → order.holds before) :
    Ends before (nestedBlocks inner name cursor) (nestedBlocks reference name cursor)
      (Expected files affordable calm)
      (Settled before (Applied longest before cursor)) := by
  have calmInside : calm → order.holds (before.beginNestedBlock name) := fun calmBefore =>
    order.beginNestedBlock isNested (isCalm calmBefore)
  have readyInside :
      Ready longest steps affordable (before.beginNestedBlock name) cursor.rest.length 3 :=
    ready.alike ⟨rfl, rfl, rfl, rfl, rfl⟩ (Nat.le_refl _) (Nat.le_refl _)
  unfold nestedBlocks
  apply Ends.updateThen
  refine (sound.blocks true readyInside calmInside).bind ?_
  rintro next middle ⟨inside, nearer⟩
  cases closed : next.close? with
  | none =>
      exact .pure ((Precedes.beginNestedBlock before name).trans inside.precedes)
  | some after =>
      have afterBracket := Cursor.length_rest_close? closed
      exact .updateThen (.pure ⟨.nested isNested inside, by omega⟩)

/-- How an admonition ends. -/
theorem admonition_ends
    (sound : inner.Sound files longest steps affordable reference order)
    (ready : Ready longest steps affordable before cursor.rest.length 2)
    (isCalm : calm → order.holds before) :
    Ends before (admonition inner cursor) (admonition reference cursor)
      (Expected files affordable calm)
      (Settled before (Applied longest before cursor)) := by
  unfold admonition
  cases read : cursor.admonition? with
  | none =>
      exact .pure (Precedes.refl before)
  | some found =>
      obtain ⟨name, next⟩ := found
      have shorter := Cursor.length_rest_admonition?_lt read
      have isNested : name ∈ nestedBlockNames :=
        List.mem_cons_of_mem _ (Cursor.mem_admonitionNames_of_admonition? read)
      have readyInside : Ready longest steps affordable before next.rest.length 3 :=
        ready.nearer (by omega) (by omega)
      refine (nestedBlocks_ends sound isNested readyInside isCalm).imp (fun _ => id) ?_
      exact fun _ _ => Settled.imp fun _ => Applied.earlier (Nat.le_of_lt shorter)

/-- How a block quote ends. -/
theorem quotation_ends
    (sound : inner.Sound files longest steps affordable reference order)
    (ready : Ready longest steps affordable before cursor.rest.length 2)
    (isCalm : calm → order.holds before) :
    Ends before (quotation inner cursor) (quotation reference cursor)
      (Expected files affordable calm)
      (Settled before (Applied longest before cursor)) := by
  unfold quotation
  cases read : cursor.literal? "[:" with
  | none =>
      exact .pure (Precedes.refl before)
  | some next =>
      have afterOpening := Cursor.length_rest_literal? read
      have openingLength : "[:".length = 2 := rfl
      have isNested : "blockquote" ∈ nestedBlockNames :=
        List.mem_cons_self
      have readyInside : Ready longest steps affordable before next.rest.length 3 :=
        ready.nearer (by omega) (by omega)
      refine (nestedBlocks_ends sound isNested readyInside isCalm).imp (fun _ => id) ?_
      exact fun _ _ => Settled.imp fun _ => Applied.earlier (by omega)

/-- How a phrase whose line ends are kept ends. -/
theorem preformatted_ends
    (sound : inner.Sound files longest steps affordable reference order)
    (ready : Ready longest steps affordable before cursor.rest.length 2) :
    Ends before (preformatted inner cursor) (preformatted reference cursor)
      (Expected files affordable calm)
      (Settled before (Applied longest before cursor)) := by
  have known : ("programlisting", ([] : List Attribute).map Prod.fst) ∈ flowVocabulary := by
    simp [flowVocabulary]
  unfold preformatted
  cases read : cursor.keyword? "[pre" with
  | none =>
      exact .pure (Precedes.refl before)
  | some afterKeyword =>
      have pastKeyword := Cursor.length_rest_keyword? read
      have keywordLength : "[pre".length = 4 := rfl
      have blanks := afterKeyword.length_rest_skipHorizontal_le
      have lineFeed := afterKeyword.skipHorizontal.length_rest_skipLineFeed_le
      apply Ends.updateThen
      exact
        titled_ends sound (ready.alike ⟨rfl, rfl, rfl, rfl, rfl⟩ (by omega) (by omega))
          (.emit before _) (fun _ effect => .flow (Effect.element known effect.toFlow))
          (by omega)

/-- How a call of a block template ends. -/
theorem templateCall_ends
    (sound : inner.Sound files longest steps affordable reference order)
    (ready : Ready longest steps affordable before cursor.rest.length 2)
    (isCalm : calm → order.holds before) :
    Ends before (templateCall inner cursor) (templateCall reference cursor)
      (Expected files affordable calm)
      (Settled before (Applied longest before cursor)) := by
  unfold templateCall
  cases read : cursor.templateCall? with
  | none =>
      exact .pure (Precedes.refl before)
  | some found =>
      obtain ⟨name, afterName⟩ := found
      have shorter := Cursor.length_rest_templateCall?_lt read
      apply Ends.state
      cases defined : before.templates.find? name with
      | none =>
          exact .pure (Precedes.refl before)
      | some template =>
          simp only
          cases isBlock : template.block with
          | false =>
              exact .pure (Precedes.refl before)
          | true =>
              simp only [↓reduceIte]
              cases through : afterName.balancedThrough? with
              | none =>
                  exact .pure (Precedes.refl before)
              | some pair =>
                  obtain ⟨arguments, next⟩ := pair
                  have argumentsShort := Cursor.length_balancedThrough?_le through
                  have pastArguments := Cursor.length_rest_balancedThrough?_lt through
                  have readyCall : Ready longest steps affordable before arguments.length 1 :=
                    ready.nearer (by omega) (by omega)
                  refine
                    (invokeTemplate_block_ends sound cursor.position defined isBlock readyCall
                      isCalm).bind ?_
                  intro _ after effect
                  exact .pure ⟨effect, by omega⟩

/-- How each rule that an opening bracket may start ends. -/
theorem elementsWith_end
    (sound : inner.Sound files longest steps affordable reference order)
    {opening : Option String → String → Compile Unit}
    (opens : Opens files affordable calm before opening)
    (ready : Ready longest steps affordable before cursor.rest.length 2)
    (isCalm : calm → order.holds before) :
    List.Forall₂
      (fun rule ruleReference =>
        Ends before (rule cursor) (ruleReference cursor) (Expected files affordable calm)
          (Settled before (Applied longest before cursor)))
      (elementsWith opening inner) (elements reference) := by
  unfold elementsWith elements
  refine .cons comment_ends (.cons (sectionStartWith_ends sound opens ready)
    (.cons (sectionEnd_ends isCalm) (.cons (heading_ends sound ready)
      (.cons (macroDefinition_ends ready.short)
        (.cons (templateDefinition_ends ready.short) ?_)))))
  refine .cons (inclusion_ends sound ready isCalm) (.cons externalInclusion_ends
    (.cons (admonition_ends sound ready isCalm) (.cons (quotation_ends sound ready isCalm) ?_)))
  exact .cons (preformatted_ends sound ready) (.cons (Table.rule_ends sound ready)
    (.cons (Table.variableList_ends sound ready)
      (.cons (templateCall_ends sound ready isCalm) .nil)))

/-- How a block in brackets ends. -/
theorem elementWith_ends
    (sound : inner.Sound files longest steps affordable reference order)
    {opening : Option String → String → Compile Unit}
    (opens : Opens files affordable calm before opening)
    (nested : Bool)
    (ready : Ready longest steps affordable before cursor.rest.length 2)
    (isCalm : calm → order.holds before) :
    Ends before (elementWith opening inner nested cursor) (element reference nested cursor)
      (Expected files affordable calm)
      (Settled before (Applied longest before cursor)) := by
  unfold elementWith element
  split
  · refine (Ends.firstOf (elementsWith_end sound opens ready isCalm)).bind ?_
    rintro (_ | next) middle restored
    · obtain rfl : middle = before := restored
      exact .pure (Precedes.refl middle)
    · obtain ⟨effect, shorter⟩ := restored
      have blanks := next.length_rest_skipHorizontal_le
      simp only
      cases ended : next.skipHorizontal.lineEnd? with
      | some nextLine =>
          have afterLine := Cursor.length_rest_lineEnd?_le ended
          exact .pure ⟨effect, by omega⟩
      | none =>
          simp only
          split
          · exact .pure ⟨effect, by omega⟩
          · exact .pure effect.precedes
  · exact .pure (Precedes.refl before)

/-- A block of code adds one element. -/
private theorem codeBlock_effect
    (before : CompilerState)
    (code : String) :
    BlockEffect longest before (before.codeBlock code) :=
  .flow (Effect.leaf before (by simp [flowVocabulary]) code)

/-- How code between fences ends. -/
theorem fencedCode_ends {faults : Fault → Prop} :
    Ends before (fencedCode cursor) (fencedCode cursor) faults
      (Settled before (Applied longest before cursor)) := by
  unfold fencedCode
  split
  · cases read : cursor.fencedCode? with
    | none =>
        exact .pure (Precedes.refl before)
    | some found =>
        obtain ⟨code, next⟩ := found
        have shorter := Cursor.length_rest_fencedCode?_lt read
        exact .updateThen (.pure ⟨codeBlock_effect before code, shorter⟩)
  · exact .pure (Precedes.refl before)

/-- How code told by its indentation ends. -/
theorem indentedCode_ends {faults : Fault → Prop} :
    Ends before (indentedCode cursor) (indentedCode cursor) faults
      (Settled before (Applied longest before cursor)) := by
  unfold indentedCode
  cases read : cursor.indentedCode? with
  | none =>
      exact .pure (Precedes.refl before)
  | some found =>
      obtain ⟨code, next⟩ := found
      have shorter := Cursor.length_rest_indentedCode?_lt read
      exact .updateThen (.pure ⟨codeBlock_effect before code, shorter⟩)

/-- How a paragraph ends. -/
theorem paragraph_ends
    (sound : inner.Sound files longest steps affordable reference order)
    (ready : Ready longest steps affordable before cursor.rest.length 2) :
    Ends before (paragraph inner cursor) (paragraph reference cursor)
      (Expected files affordable calm)
      (Settled before (Applied longest before cursor)) := by
  have readyInside :
      Ready longest steps affordable before.beginParagraph cursor.rest.length 1 :=
    ready.alike ⟨rfl, rfl, rfl, rfl, rfl⟩ (Nat.le_refl _) (by omega)
  unfold paragraph
  apply Ends.updateThen
  refine Ends.bind (sound.phraseFrom .paragraph 0 "" readyInside) ?_
  rintro ⟨closed, next⟩ middle ⟨text, follows⟩
  simp only at follows ⊢
  split
  · exact .pure ((Precedes.beginParagraph before).trans text.precedes)
  next moved =>
    have lineFeed := next.length_rest_skipLineFeed_le
    have shorter : next.rest.length < cursor.rest.length := by
      rcases follows with rfl | shorter
      · exact (moved rfl).elim
      · exact shorter
    exact .updateThen (.pure ⟨.paragraph text, by omega⟩)

/-- How each rule of blocks ends. -/
theorem rulesWith_end
    (sound : inner.Sound files longest steps affordable reference order)
    {opening : Option String → String → Compile Unit}
    (opens : Opens files affordable calm before opening)
    (nested : Bool)
    (ready : Ready longest steps affordable before cursor.rest.length 2)
    (isCalm : calm → order.holds before) :
    List.Forall₂
      (fun rule ruleReference =>
        Ends before (rule cursor) (ruleReference cursor) (Expected files affordable calm)
          (Settled before (Applied longest before cursor)))
      (rulesWith opening inner nested) (rules reference nested) := by
  cases nested with
  | true =>
      exact .cons (elementWith_ends sound opens true ready isCalm) (.cons fencedCode_ends
        (.cons (Listing.rule_ends sound ready) (.cons (paragraph_ends sound ready) .nil)))
  | false =>
      exact .cons (elementWith_ends sound opens false ready isCalm) (.cons fencedCode_ends
        (.cons (Listing.rule_ends sound ready) (.cons indentedCode_ends
          (.cons (paragraph_ends sound ready) .nil))))

/-- How one block ends, and the blocks behind it, in whatever way sections are opened. -/
theorem stepWith_ends
    (sound : inner.Sound files longest steps affordable reference order)
    {opening : Option String → String → Compile Unit}
    (opens : Opens files affordable calm before opening)
    (nested : Bool)
    (ready : Ready longest (steps + 1) affordable before cursor.rest.length 3)
    (isCalm : calm → order.holds before) :
    Ends before (stepWith opening inner nested cursor) (step reference nested cursor)
      (Expected files affordable calm)
      fun next after =>
        BlockEffect longest before after ∧ next.rest.length ≤ cursor.rest.length := by
  unfold stepWith step
  split
  · exact .pure ⟨.refl before, Nat.le_refl _⟩
  simp only
  have blanks := cursor.length_rest_skipHorizontal_le
  have startNearer :
      (if nested then cursor.skipHorizontal else cursor).rest.length ≤ cursor.rest.length := by
    split
    · exact blanks
    · exact Nat.le_refl _
  generalize (if nested then cursor.skipHorizontal else cursor) = start at startNearer
  split
  · exact .pure ⟨.refl before, startNearer⟩
  have readyHere : Ready longest steps affordable before start.rest.length 2 :=
    ready.spend.nearer startNearer (by omega)
  cases blank : start.blankLine? with
  | some next =>
      have shorter := Cursor.length_rest_blankLine?_lt blank
      have readyNext : Ready longest steps affordable before next.rest.length 3 :=
        readyHere.nearer (by omega) (by omega)
      refine (sound.blocks nested readyNext isCalm).imp (fun _ => id) ?_
      rintro last after ⟨effect, nearer⟩
      exact ⟨effect, by omega⟩
  | none =>
      simp only
      refine (Ends.firstOf (rulesWith_end sound opens nested readyHere isCalm)).bind ?_
      rintro (_ | next) middle restored
      · obtain rfl : middle = before := restored
        exact .pure ⟨.refl middle, startNearer⟩
      · obtain ⟨effect, shorter⟩ := restored
        have readyNext : Ready longest steps affordable middle next.rest.length 3 :=
          readyHere.blockEffect effect (by omega) (by omega)
        refine
          (sound.blocks nested readyNext fun calmBefore =>
            order.blockEffect effect (isCalm calmBefore)).imp (fun _ => id) ?_
        rintro last after ⟨later, nearer⟩
        exact ⟨effect.trans later, by omega⟩

/-- How one block ends, and the blocks behind it. -/
theorem step_ends
    (sound : inner.Sound files longest steps affordable reference order)
    (nested : Bool)
    (ready : Ready longest (steps + 1) affordable before cursor.rest.length 3)
    (isCalm : calm → order.holds before) :
    Ends before (step inner nested cursor) (step reference nested cursor)
      (Expected files affordable calm)
      fun next after =>
        BlockEffect longest before after ∧ next.rest.length ≤ cursor.rest.length := by
  rw [step_eq_stepWith]
  exact stepWith_ends sound opens_openSection nested ready isCalm

end DocMarkup.Block
