import DocMarkup.Grammar.Block
import DocMarkup.Proofs.Mirror.Table

namespace DocMarkup

/-!
# Blocks in a frame

Blocks and the items of lists are read alike. A definition is reported at its own
bracket, and a file is included from the bracket of its inclusion.
-/

open Compile

variable {setting : Setting} {stack : List Path} {inner reflection : Inner} {cursor : Cursor}

namespace Listing

/-! ## Lists -/

/-- Closing lists adds output behind what was written earlier. -/
private theorem closeAll_behind
    (state : CompilerState)
    (earlier : Frame)
    (lists : List OpenList) :
    closeAll (state.behind earlier) lists = (closeAll state lists).behind earlier := by
  unfold closeAll
  induction lists generalizing state with
  | nil =>
      rfl
  | cons list others inductionHypothesis =>
      rw [List.foldl_cons, List.foldl_cons, closeList, closeList]
      simp only [CompilerState.endElement_behind, inductionHypothesis]

/-- Closing lists reports nothing. -/
private theorem reported_closeAll
    {known : Source → Prop}
    {state : CompilerState}
    (lists : List OpenList) :
    (closeAll state lists).Reported known stack ↔ state.Reported known stack := by
  unfold closeAll
  induction lists generalizing state with
  | nil =>
      exact Iff.rfl
  | cons list others inductionHypothesis =>
      rw [List.foldl_cons, inductionHypothesis]
      exact Iff.rfl

/-- Beginning an item adds output behind what was written earlier, and opens the same lists. -/
private theorem beginItem_behind
    (state : CompilerState)
    (earlier : Frame)
    (item : OpenList)
    (lists : List OpenList) :
    beginItem (state.behind earlier) item lists =
      ((beginItem state item lists).1.behind earlier, (beginItem state item lists).2) := by
  simp only [beginItem, closeAll_behind]
  split <;> simp only [CompilerState.startElement_behind, CompilerState.endElement_behind]

/-- Beginning an item reports nothing. -/
private theorem reported_beginItem
    {known : Source → Prop}
    {state : CompilerState}
    (item : OpenList)
    (lists : List OpenList) :
    (beginItem state item lists).1.Reported known stack ↔ state.Reported known stack := by
  simp only [beginItem]
  split <;>
    simp only [CompilerState.reported_startElement, CompilerState.reported_endElement,
      reported_closeAll]

/-- One item is read alike, and so are those behind it. -/
theorem step_mirrors
    (mirror : inner.Mirrors setting stack reflection)
    (isIn : cursor.IsIn setting.known)
    (lists : List OpenList) :
    Mirrors setting stack (step inner lists cursor) (step reflection lists cursor)
      cursor.Leads := by
  unfold step
  split
  next =>
    refine .updateThen (fun _ => closeAll_behind ..) (fun _ reported => ?_) (.pure (.refl cursor))
    exact (reported_closeAll lists).mpr reported
  next marker content read =>
    have leads := Cursor.Leads.listMarker? read
    refine .state fun before _ => ?_
    simp only [beginItem_behind]
    refine .updateThen (fun _ => by rw [beginItem_behind]) (fun _ reported => ?_) ?_
    · exact (reported_beginItem _ lists).mpr reported
    refine (mirror.phraseFrom .listItem 0 "" (isIn.leads leads)).bind ?_
    rintro ⟨_, next⟩ further
    have toNext := leads.trans further
    refine .updateThen (by simp) (by simp) ?_
    split
    next nextLine lineFeed =>
      have toLine := toNext.trans (.character? lineFeed)
      exact (mirror.items _ (isIn.leads toLine)).imp fun _ => toLine.trans
    next =>
      refine .updateThen (fun _ => closeAll_behind ..) (fun _ reported => ?_) (.pure toNext)
      exact (reported_closeAll _).mpr reported

/-- A list is read alike. -/
theorem rule_mirrors
    (mirror : inner.Mirrors setting stack reflection)
    (isIn : cursor.IsIn setting.known) :
    Mirrors setting stack (rule inner cursor) (rule reflection cursor) (LeadsOn cursor) := by
  unfold rule
  split
  next marker content _ =>
    split
    · exact (mirror.items [] isIn).bind fun next leads => .pure (.some leads)
    · exact .pure (.none cursor)
  next =>
    exact .pure (.none cursor)

end Listing

namespace Block

/-! ## Blocks in brackets -/

/-- A phrase that is the title of something, with the bracket behind it. -/
private theorem titled_mirrors
    (mirror : inner.Mirrors setting stack reflection)
    (isIn : cursor.IsIn setting.known)
    {begin finish : CompilerState → CompilerState}
    (sameBegin :
      ∀ before : CompilerState,
        begin (before.behind setting.frame) = (begin before).behind setting.frame)
    (keepsBegin :
      ∀ before : CompilerState,
        before.Reported setting.known stack → (begin before).Reported setting.known stack)
    (sameFinish :
      ∀ before : CompilerState,
        finish (before.behind setting.frame) =
          (finish before).behind setting.frame)
    (keepsFinish :
      ∀ before : CompilerState,
        before.Reported setting.known stack → (finish before).Reported setting.known stack)
    {content : Cursor}
    (leads : cursor.Leads content) :
    Mirrors setting stack
      (do
        update begin
        match ← Phrase.nested inner content with
        | none => return none
        | some next =>
            update finish
            return next.close?)
      (do
        update begin
        match ← Phrase.nested reflection content with
        | none => return none
        | some next =>
            update finish
            return next.close?)
      (LeadsOn cursor) := by
  refine .updateThen sameBegin keepsBegin ?_
  refine (Phrase.nested_mirrors mirror (isIn.leads leads)).bind ?_
  rintro (_ | next) leadsOn
  · exact .pure (.none cursor)
  · exact .updateThen sameFinish keepsFinish
      (.pure (.close (leads.trans (leadsOn next rfl))))

private theorem sectionStart_mirrors
    (mirror : inner.Mirrors setting stack reflection)
    (isIn : cursor.IsIn setting.known) :
    Mirrors setting stack (sectionStart inner cursor) (sectionStart reflection cursor)
      (LeadsOn cursor) := by
  unfold sectionStart
  refine .state fun before _ => ?_
  rw [CompilerState.isInNestedBlock_behind]
  by_cases isNested : before.isInNestedBlock
  · simp only [isNested, ↓reduceIte]
    exact .pure (.none cursor)
  · simp only [isNested, Bool.false_eq_true, ↓reduceIte]
    split
    next =>
      exact .pure (.none cursor)
    next given afterKeyword read =>
      have leads := (Cursor.Leads.keywordWithId? read).skipHorizontal
      split
      next =>
        exact .pure (.none cursor)
      next title _ _ =>
        exact titled_mirrors mirror isIn (by simp) (by simp) (by simp) (by simp) leads

private theorem sectionEnd_mirrors (isIn : cursor.IsIn setting.known) :
    Mirrors setting stack (sectionEnd cursor) (sectionEnd cursor) (LeadsOn cursor) := by
  unfold sectionEnd
  refine .state fun before _ => ?_
  rw [CompilerState.isInNestedBlock_behind]
  by_cases isNested : before.isInNestedBlock
  · simp only [isNested, ↓reduceIte]
    exact .pure (.none cursor)
  · simp only [isNested, Bool.false_eq_true, ↓reduceIte]
    split
    next =>
      exact .pure (.none cursor)
    next next read =>
      exact (Mirrors.closeSection isIn.position trivial : Mirrors _ _ _ _ fun _ => True).bind
        fun _ _ => .pure (.some (.sectionEnd? read))

private theorem heading_mirrors
    (mirror : inner.Mirrors setting stack reflection)
    (isIn : cursor.IsIn setting.known) :
    Mirrors setting stack (heading inner cursor) (heading reflection cursor) (LeadsOn cursor) := by
  unfold heading
  split
  next =>
    exact .pure (.none cursor)
  next level afterKeyword read =>
    have leads := (Cursor.Leads.heading? read).skipHorizontal
    simp only
    split
    next =>
      exact .pure (.none cursor)
    next title _ _ =>
      exact titled_mirrors mirror isIn (by simp) (by simp) (by simp) (by simp) leads

private theorem macroDefinition_mirrors (isIn : cursor.IsIn setting.known) :
    Mirrors setting stack (macroDefinition cursor) (macroDefinition cursor) (LeadsOn cursor) := by
  unfold macroDefinition
  split
  next =>
    exact .pure (.none cursor)
  next name afterName read =>
    split
    next =>
      exact .pure (.none cursor)
    next body next balanced =>
      have leads := (Cursor.Leads.macroHead? read).trans (.balancedThrough? balanced)
      refine .updateThen (by simp) (fun _ reported => ?_) (.pure (.some leads))
      exact reported.defineMacro isIn.position name _

private theorem templateDefinition_mirrors (isIn : cursor.IsIn setting.known) :
    Mirrors setting stack (templateDefinition cursor) (templateDefinition cursor)
      (LeadsOn cursor) := by
  unfold templateDefinition
  split
  next =>
    exact .pure (.none cursor)
  next name afterName read =>
    simp only
    split
    next =>
      exact .pure (.none cursor)
    next body next balanced =>
      have leads :=
        ((Cursor.Leads.templateHead? read).trans (.templateParams _)).trans
          (.balancedThrough? balanced)
      refine .updateThen (by simp) (fun _ reported => ?_) (.pure (.some leads))
      exact reported.defineTemplate isIn.position _

private theorem inclusion_mirrors
    (mirror : inner.Mirrors setting stack reflection)
    (isIn : cursor.IsIn setting.known) :
    Mirrors setting stack (inclusion inner cursor) (inclusion reflection cursor)
      (LeadsOn cursor) := by
  unfold inclusion
  split
  next =>
    exact .pure (.none cursor)
  next given afterHead read =>
    split
    next =>
      exact .pure (.none cursor)
    next name next named =>
      have leads := (Cursor.Leads.inclusionHead? read).trans (.fileName? named)
      exact (mirror.includeFile name given isIn.position).bind fun _ _ => .pure (.some leads)

private theorem externalInclusion_mirrors :
    Mirrors setting stack (externalInclusion cursor) (externalInclusion cursor)
      (LeadsOn cursor) := by
  unfold externalInclusion
  split
  next =>
    exact .pure (.none cursor)
  next afterHead read =>
    obtain ⟨inside, opened, gap⟩ := Option.bind_eq_some_iff.mp read
    split
    next =>
      exact .pure (.none cursor)
    next name next named =>
      have leads := ((Cursor.Leads.literal? opened).trans (.gap? gap)).trans (.fileName? named)
      exact .updateThen (by simp) (by simp) (.pure (.some leads))

/-- Blocks inside an element are read alike. -/
private theorem nestedBlocks_mirrors
    (mirror : inner.Mirrors setting stack reflection)
    (isIn : cursor.IsIn setting.known)
    (name : String)
    {content : Cursor}
    (leads : cursor.Leads content) :
    Mirrors setting stack (nestedBlocks inner name content) (nestedBlocks reflection name content)
      (LeadsOn cursor) := by
  unfold nestedBlocks
  refine .updateThen (by simp) (by simp) ?_
  refine (mirror.blocks true (isIn.leads leads)).bind fun next further => ?_
  split
  next =>
    exact .pure (.none cursor)
  next after closed =>
    have toEnd := (leads.trans further).trans (.close? closed)
    exact .updateThen (by simp) (by simp) (.pure (.some toEnd))

private theorem admonition_mirrors
    (mirror : inner.Mirrors setting stack reflection)
    (isIn : cursor.IsIn setting.known) :
    Mirrors setting stack (admonition inner cursor) (admonition reflection cursor)
      (LeadsOn cursor) := by
  unfold admonition
  split
  next name next read =>
    exact nestedBlocks_mirrors mirror isIn name (.admonition? read)
  next =>
    exact .pure (.none cursor)

private theorem quotation_mirrors
    (mirror : inner.Mirrors setting stack reflection)
    (isIn : cursor.IsIn setting.known) :
    Mirrors setting stack (quotation inner cursor) (quotation reflection cursor)
      (LeadsOn cursor) := by
  unfold quotation
  split
  next next read =>
    exact nestedBlocks_mirrors mirror isIn "blockquote" (.literal? read)
  next =>
    exact .pure (.none cursor)

private theorem preformatted_mirrors
    (mirror : inner.Mirrors setting stack reflection)
    (isIn : cursor.IsIn setting.known) :
    Mirrors setting stack (preformatted inner cursor) (preformatted reflection cursor)
      (LeadsOn cursor) := by
  unfold preformatted
  split
  next =>
    exact .pure (.none cursor)
  next afterKeyword read =>
    have leads := (Cursor.Leads.keyword? read).skipHorizontal.skipLineFeed
    exact titled_mirrors mirror isIn (by simp) (by simp) (by simp) (by simp) leads

private theorem templateCall_mirrors
    (closed : setting.IsClosed)
    (mirror : inner.Mirrors setting stack reflection)
    (isIn : cursor.IsIn setting.known) :
    Mirrors setting stack (templateCall inner cursor) (templateCall reflection cursor)
      (LeadsOn cursor) := by
  unfold templateCall
  split
  next =>
    exact .pure (.none cursor)
  next name afterName read =>
    refine .state fun before _ => ?_
    simp only [CompilerState.templates_behind]
    cases before.templates.find? name with
    | none =>
        exact .pure (.none cursor)
    | some template =>
        simp only
        by_cases isBlock : template.block
        · simp only [isBlock, ↓reduceIte]
          split
          next =>
            exact .pure (.none cursor)
          next arguments next balanced =>
            have leads := (Cursor.Leads.templateCall? read).trans (.balancedThrough? balanced)
            exact
              (invokeTemplate_mirrors closed mirror isIn.position template arguments true).bind
                fun _ _ => .pure (.some leads)
        · simp only [isBlock, Bool.false_eq_true, ↓reduceIte]
          exact .pure (.none cursor)

/-- Everything that a bracket may start is read alike. -/
private theorem elements_mirror
    (closed : setting.IsClosed)
    (mirror : inner.Mirrors setting stack reflection)
    (isIn : cursor.IsIn setting.known) :
    List.Forall₂
      (fun rule reflected =>
        Mirrors setting stack (rule cursor) (reflected cursor) (LeadsOn cursor))
      (elements inner) (elements reflection) :=
  .cons (.pure fun _ read => .comment? read) <|
    .cons (sectionStart_mirrors mirror isIn) <|
    .cons (sectionEnd_mirrors isIn) <|
    .cons (heading_mirrors mirror isIn) <|
    .cons (macroDefinition_mirrors isIn) <|
    .cons (templateDefinition_mirrors isIn) <|
    .cons (inclusion_mirrors mirror isIn) <|
    .cons externalInclusion_mirrors <|
    .cons (admonition_mirrors mirror isIn) <|
    .cons (quotation_mirrors mirror isIn) <|
    .cons (preformatted_mirrors mirror isIn) <|
    .cons (Table.rule_mirrors closed mirror isIn) <|
    .cons (Table.variableList_mirrors closed mirror isIn) <|
    .cons (templateCall_mirrors closed mirror isIn) .nil

/-- A block in brackets is read alike, with the rest of its line. -/
private theorem element_mirrors
    (closed : setting.IsClosed)
    (mirror : inner.Mirrors setting stack reflection)
    (isIn : cursor.IsIn setting.known)
    (nested : Bool) :
    Mirrors setting stack (element inner nested cursor) (element reflection nested cursor)
      (LeadsOn cursor) := by
  unfold element
  split
  · refine (Mirrors.firstOf (elements_mirror closed mirror isIn)).bind ?_
    rintro (_ | next) leadsOn
    · exact .pure (.none cursor)
    · have leads := (leadsOn next rfl).skipHorizontal
      simp only
      split
      next nextLine read =>
        exact .pure (.some (leads.trans (.lineEnd? read)))
      next =>
        split
        · exact .pure (.some leads)
        · exact .pure (.none cursor)
  · exact .pure (.none cursor)

/-! ## Code and paragraphs -/

private theorem fencedCode_mirrors :
    Mirrors setting stack (fencedCode cursor) (fencedCode cursor) (LeadsOn cursor) := by
  unfold fencedCode
  split
  · split
    next =>
      exact .pure (.none cursor)
    next code next read =>
      exact .updateThen (by simp) (by simp) (.pure (.some (.fencedCode? read)))
  · exact .pure (.none cursor)

private theorem indentedCode_mirrors :
    Mirrors setting stack (indentedCode cursor) (indentedCode cursor) (LeadsOn cursor) := by
  unfold indentedCode
  split
  next =>
    exact .pure (.none cursor)
  next code next read =>
    exact .updateThen (by simp) (by simp) (.pure (.some (.indentedCode? read)))

private theorem paragraph_mirrors
    (mirror : inner.Mirrors setting stack reflection)
    (isIn : cursor.IsIn setting.known) :
    Mirrors setting stack (paragraph inner cursor) (paragraph reflection cursor)
      (LeadsOn cursor) := by
  unfold paragraph
  refine .updateThen (by simp) (by simp) ?_
  refine (mirror.phraseFrom .paragraph 0 "" isIn).bind ?_
  rintro ⟨_, next⟩ leads
  simp only
  split
  · exact .pure (.none cursor)
  · exact .updateThen (by simp) (by simp) (.pure (.some leads.skipLineFeed))

/-- Everything that may stand where a block may stand is read alike. -/
private theorem rules_mirror
    (closed : setting.IsClosed)
    (mirror : inner.Mirrors setting stack reflection)
    (isIn : cursor.IsIn setting.known)
    (nested : Bool) :
    List.Forall₂
      (fun rule reflected =>
        Mirrors setting stack (rule cursor) (reflected cursor) (LeadsOn cursor))
      (rules inner nested) (rules reflection nested) := by
  have element := element_mirrors closed mirror isIn nested
  have list := Listing.rule_mirrors mirror isIn
  have paragraph := paragraph_mirrors mirror isIn
  cases nested with
  | true =>
      exact .cons element (.cons fencedCode_mirrors (.cons list (.cons paragraph .nil)))
  | false =>
      exact .cons element
        (.cons fencedCode_mirrors
          (.cons list (.cons indentedCode_mirrors (.cons paragraph .nil))))

/-- One block is read alike, and so are those behind it. -/
theorem step_mirrors
    (closed : setting.IsClosed)
    (mirror : inner.Mirrors setting stack reflection)
    (isIn : cursor.IsIn setting.known)
    (nested : Bool) :
    Mirrors setting stack (step inner nested cursor) (step reflection nested cursor)
      cursor.Leads := by
  have toStart : cursor.Leads (if nested then cursor.skipHorizontal else cursor) := by
    split
    · exact (Cursor.Leads.refl cursor).skipHorizontal
    · exact .refl cursor
  unfold step
  split
  · exact .pure (.refl cursor)
  · simp only
    generalize (if nested then cursor.skipHorizontal else cursor) = start at toStart
    split
    · exact .pure toStart
    · split
      next next blank =>
        have leads := toStart.trans (.blankLine? blank)
        exact (mirror.blocks nested (isIn.leads leads)).imp fun _ => leads.trans
      next =>
        refine (Mirrors.firstOf (rules_mirror closed mirror (isIn.leads toStart) nested)).bind ?_
        rintro (_ | next) leadsOn
        · exact .pure toStart
        · have leads := toStart.trans (leadsOn next rfl)
          exact (mirror.blocks nested (isIn.leads leads)).imp fun _ => leads.trans

end Block

end DocMarkup
