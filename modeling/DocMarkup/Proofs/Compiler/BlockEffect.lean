import DocMarkup.DocInfo
import DocMarkup.Proofs.Compiler.Effect

namespace DocMarkup

/-!
# What reading blocks does to the state

Blocks do more than phrases: they open and close sections, reserve identifiers,
define macros and templates, and read further texts inside a block, an expansion
or an included file. Each of these is a case of one relation between the state
before some blocks and the state after them, and what holds of blocks is proved
by one induction over it.
-/

namespace CompilerState

/-- No text that stands for a name is longer than a given length. -/
structure Bounded (longest : Nat) (state : CompilerState) : Prop where
  macros : state.macros.bodies.Every fun body => body.length ≤ longest
  templates : state.templates.Every fun template => template.body.length ≤ longest

/-- A state one level deeper in expansions. -/
def deepen (state : CompilerState) : CompilerState :=
  { state with expansionDepth := state.expansionDepth + 1 }

/-- A state one level less deep in expansions. -/
def surface (state : CompilerState) : CompilerState :=
  { state with expansionDepth := state.expansionDepth - 1 }

/-- A state in which a scope was opened. -/
def openScope (bindings : NameTable Template) (state : CompilerState) : CompilerState :=
  { state with templates := state.templates.pushScope bindings }

/-- A state in which the innermost scope was closed. -/
def closeScope (state : CompilerState) : CompilerState :=
  { state with templates := state.templates.dropScope }

/-- A state inside an expansion: one level deeper, in the scope of the arguments. -/
def beginExpansion (state : CompilerState) (bindings : NameTable Template) : CompilerState :=
  (state.openScope bindings).deepen

/-- The state after an expansion, without its scope. -/
def endExpansion (state : CompilerState) : CompilerState :=
  state.surface.closeScope

/-- Output of an expansion is output around it. -/
theorem endExpansion_replay
    (state : CompilerState)
    (bindings : NameTable Template)
    (events : List Event) :
    ((state.beginExpansion bindings).replay events).endExpansion = state.replay events := by
  have emits (before : CompilerState) (event : Event) :
      (before.beginExpansion bindings).emit event =
        (before.emit event).beginExpansion bindings := rfl
  rw [replay_of_emits emits]
  rfl

/-- What identifiers follow inside an inclusion: the given one, or what they follow around it. -/
def includedIds (state : CompilerState) (id : Option String) : Option String × Nat :=
  if isGiven id then (id, state.sectionIds.length) else (state.docId, state.idScope)

/-- A state inside an included file, with what identifiers follow there. -/
def beginInclusion
    (state : CompilerState)
    (file : Path)
    (docId : Option String)
    (idScope : Nat) :
    CompilerState :=
  { state with
    includeStack := file :: state.includeStack
    docId := docId
    idScope := idScope }

/-- The state after an included file, in which identifiers follow what they followed before. -/
def endInclusion (state before : CompilerState) : CompilerState :=
  { state with
    includeStack := state.includeStack.tail
    docId := before.docId
    idScope := before.idScope }

/-- The innermost section is closed, and some outer ones are left. -/
def leaveSection (state : CompilerState) (outer : List String) : CompilerState :=
  { state with
    sectionLevel := state.sectionLevel - 1
    sectionIds := outer }.endElement "section"

/--
Reading blocks leads from one state to another. No text that is defined on the
way is longer than a given length.
-/
inductive BlockEffect (longest : Nat) : CompilerState → CompilerState → Prop where
  | refl (state) :
      BlockEffect longest state state
  | trans {first second third} :
      BlockEffect longest first second →
      BlockEffect longest second third →
      BlockEffect longest first third
  | flow {before after} :
      Effect flowVocabulary before after →
      BlockEffect longest before after
  | paragraph {before inside} :
      Effect inlineVocabulary before.beginParagraph inside →
      BlockEffect longest before inside.endParagraph
  | heading {before inside} (level title) :
      (∀ given, level = some given → given ∈ headingLevels) →
      Effect inlineVocabulary (before.beginHeading level title) inside →
      BlockEffect longest before inside.endHeading
  | table {before inside} (given title hasTitle) :
      Effect flowVocabulary (before.beginTable given title hasTitle) inside →
      BlockEffect longest before (inside.endElement (tableElement hasTitle))
  | openedSection {before inside} (given title) :
      before.isInNestedBlock = false →
      Effect inlineVocabulary (before.beginSection given title) inside →
      BlockEffect longest before inside.endSectionTitle
  | closedSection {before innermost outer} :
      before.isInNestedBlock = false →
      before.sectionLevel ≠ 0 →
      before.sectionIds = innermost :: outer →
      BlockEffect longest before (before.leaveSection outer)
  | warned (before) (kind position message) :
      BlockEffect longest before (before.reportWarning kind position message)
  | definedMacro (before) (position name) {body} :
      body.length ≤ longest →
      BlockEffect longest before (before.defineMacro position name body)
  | definedTemplate (before) (position) {template} :
      template.events = none →
      template.body.length ≤ longest →
      BlockEffect longest before (before.defineTemplate position template)
  | nested {before inside} {name} :
      name ∈ nestedBlockNames →
      BlockEffect longest (before.beginNestedBlock name) inside →
      BlockEffect longest before (inside.endNestedBlock name)
  | expanded {before inside} {bindings} :
      (before.Scoped → bindings.Every Template.IsPhraseIfKnown) →
      bindings.Every (fun template => template.body.length ≤ longest) →
      BlockEffect longest (before.beginExpansion bindings) inside →
      BlockEffect longest before inside.endExpansion
  | included {before inside} (file docId idScope) :
      BlockEffect longest (before.beginInclusion file docId idScope) inside →
      BlockEffect longest before (inside.endInclusion before)

/-- A state precedes the one after some blocks. -/
theorem BlockEffect.precedes
    {longest : Nat}
    {before after : CompilerState}
    (effect : BlockEffect longest before after) :
    before.Precedes after := by
  induction effect with
  | refl state =>
      exact .refl state
  | trans _ _ firstPrecedes secondPrecedes =>
      exact firstPrecedes.trans secondPrecedes
  | flow effect =>
      exact effect.precedes
  | paragraph effect =>
      exact ((Precedes.beginParagraph _).trans effect.precedes).trans (.endParagraph _)
  | heading level title _ effect =>
      exact ((Precedes.beginHeading _ level title).trans effect.precedes).trans (.emit _ _)
  | table given title hasTitle effect =>
      exact ((Precedes.beginTable _ given title hasTitle).trans effect.precedes).trans
        (.emit _ _)
  | openedSection given title _ effect =>
      exact ((Precedes.beginSection _ given title).trans effect.precedes).trans (.emit _ _)
  | closedSection _ _ _ =>
      exact { Precedes.emit _ (.closing "section") with }
  | warned before kind position message =>
      exact .reportWarning ..
  | definedMacro before position name _ =>
      exact .defineMacro ..
  | definedTemplate before position _ _ =>
      exact .defineTemplate ..
  | nested _ _ insidePrecedes =>
      exact ((Precedes.beginNestedBlock _ _).trans insidePrecedes).trans (.endNestedBlock _ _)
  | expanded _ _ _ insidePrecedes =>
      exact
        { insidePrecedes with
          templates := insidePrecedes.templates.dropScope
          expansionDepth := by
            simp [endExpansion, closeScope, surface, insidePrecedes.expansionDepth,
              beginExpansion, deepen, openScope] }
  | included file docId idScope _ insidePrecedes =>
      exact
        { insidePrecedes with
          includeStack := by simp [endInclusion, insidePrecedes.includeStack, beginInclusion]
          idScope := rfl }

/-! ## Texts that stand for names -/

namespace Bounded

variable {longest : Nat} {before after : CompilerState}

/-- The bound only looks at macros and templates. -/
theorem of_same
    (bounded : before.Bounded longest)
    (macros : after.macros = before.macros)
    (templates : after.templates = before.templates) :
    after.Bounded longest where
  macros := by
    rw [macros]
    exact bounded.macros
  templates := by
    rw [templates]
    exact bounded.templates

/-- Passages define nothing. -/
theorem passage
    {vocabulary : Vocabulary}
    {opened left : List Element}
    (passage : Passage vocabulary opened left before after)
    (bounded : before.Bounded longest) :
    after.Bounded longest :=
  bounded.of_same (by rw [passage.eq_with]) passage.templates_eq

/-- Going into an expansion keeps the bound if the arguments do. -/
theorem beginExpansion
    (bounded : before.Bounded longest)
    {bindings : NameTable Template}
    (short : bindings.Every fun template => template.body.length ≤ longest) :
    (before.beginExpansion bindings).Bounded longest where
  macros := bounded.macros
  templates := bounded.templates.pushScope short

/-- Coming out of an expansion keeps the bound. -/
theorem endExpansion (bounded : before.Bounded longest) :
    before.endExpansion.Bounded longest where
  macros := bounded.macros
  templates := bounded.templates.dropScope

/-- The definition of a macro with a short body keeps the bound. -/
theorem defineMacro
    (bounded : before.Bounded longest)
    (position : Position)
    (name : String)
    {body : String}
    (short : body.length ≤ longest) :
    (before.defineMacro position name body).Bounded longest := by
  have defined :
      { before with macros := before.macros.define name body }.Bounded longest :=
    { macros := bounded.macros.insert name short
      templates := bounded.templates }
  unfold CompilerState.defineMacro
  split
  · exact defined.of_same rfl rfl
  · exact defined

/-- The definition of a template with a short body keeps the bound. -/
theorem defineTemplate
    (bounded : before.Bounded longest)
    (position : Position)
    {template : Template}
    (short : template.body.length ≤ longest) :
    (before.defineTemplate position template).Bounded longest := by
  have defined :
      { before with templates := before.templates.define template }.Bounded longest :=
    { macros := bounded.macros
      templates := bounded.templates.define short }
  unfold CompilerState.defineTemplate
  split
  · exact defined.of_same rfl rfl
  · exact defined

/-- Opening a table defines nothing. -/
private theorem beginTable
    (bounded : before.Bounded longest)
    (given : Option String)
    (title : String)
    (hasTitle : Bool) :
    (before.beginTable given title hasTitle).Bounded longest := by
  unfold CompilerState.beginTable
  split
  · exact bounded.of_same rfl rfl
  · exact bounded.of_same rfl rfl

/-- The end of a paragraph defines nothing. -/
private theorem endParagraph (bounded : before.Bounded longest) :
    before.endParagraph.Bounded longest := by
  unfold CompilerState.endParagraph
  split
  · exact bounded.of_same rfl rfl
  · exact bounded.of_same rfl rfl

/-- Reading blocks keeps the bound. -/
theorem blockEffect
    (effect : BlockEffect longest before after)
    (bounded : before.Bounded longest) :
    after.Bounded longest := by
  induction effect with
  | refl state =>
      exact bounded
  | trans _ _ firstHypothesis secondHypothesis =>
      exact secondHypothesis (firstHypothesis bounded)
  | flow effect =>
      exact bounded.passage effect
  | paragraph effect =>
      have begun : (beginParagraph _).Bounded longest := bounded.of_same rfl rfl
      exact (begun.passage effect).endParagraph
  | heading level title _ effect =>
      have begun : (beginHeading _ level title).Bounded longest := bounded.of_same rfl rfl
      exact (begun.passage effect).of_same rfl rfl
  | table given title hasTitle effect =>
      exact ((bounded.beginTable given title hasTitle).passage effect).of_same rfl rfl
  | openedSection given title _ effect =>
      have begun : (beginSection _ given title).Bounded longest := bounded.of_same rfl rfl
      exact (begun.passage effect).of_same rfl rfl
  | closedSection _ _ _ =>
      exact bounded.of_same rfl rfl
  | warned before kind position message =>
      exact bounded.of_same rfl rfl
  | definedMacro before position name short =>
      exact bounded.defineMacro position name short
  | definedTemplate before position _ short =>
      exact bounded.defineTemplate position short
  | nested _ _ inductionHypothesis =>
      exact (inductionHypothesis (bounded.of_same rfl rfl)).of_same rfl rfl
  | expanded _ short _ inductionHypothesis =>
      exact (inductionHypothesis (bounded.beginExpansion short)).endExpansion
  | included file docId idScope _ inductionHypothesis =>
      exact (inductionHypothesis (bounded.of_same rfl rfl)).of_same rfl rfl

end Bounded

end CompilerState

end DocMarkup
