import DocMarkup.Proofs.Compiler.BlockEffect

namespace DocMarkup.CompilerState

/-!
# What is raised is lowered again

Whatever is read, the depths of expansions and of phrases, the files being included,
the scopes of templates and the admonitions around are the same afterwards, and so
is what identifiers follow.
-/

variable {first second third before after : CompilerState} {longest : Nat}

/-- Everything that is raised on the way in is lowered on the way out. -/
structure Balanced (before after : CompilerState) : Prop where
  expansionDepth : after.expansionDepth = before.expansionDepth
  phraseDepth : after.phraseDepth = before.phraseDepth
  includeStack : after.includeStack = before.includeStack
  idScope : after.idScope = before.idScope
  docId : after.docId = before.docId
  blockNesting : after.blockNesting = before.blockNesting
  scopes : after.templates.depth = before.templates.depth

/-- The document identifier and the nesting of blocks are the same. -/
structure SameBlock (before after : CompilerState) : Prop where
  docId : after.docId = before.docId
  blockNesting : after.blockNesting = before.blockNesting

namespace SameBlock

/-- What is the same in between is the same at the end. -/
theorem trans
    (firstSame : SameBlock first second)
    (secondSame : SameBlock second third) :
    SameBlock first third where
  docId := secondSame.docId.trans firstSame.docId
  blockNesting := secondSame.blockNesting.trans firstSame.blockNesting

/-- A passage leaves both alone. -/
theorem passage
    {vocabulary : Vocabulary}
    {opened left : List Element}
    (passage : Passage vocabulary opened left before after) :
    SameBlock before after := by
  rw [passage.eq_with]
  exact ⟨rfl, rfl⟩

/-- The end of a paragraph leaves both alone. -/
private theorem endParagraph (state : CompilerState) : SameBlock state state.endParagraph := by
  unfold CompilerState.endParagraph
  split <;> exact ⟨rfl, rfl⟩

/-- The start of a table leaves both alone. -/
private theorem beginTable
    (state : CompilerState)
    (given : Option String)
    (title : String)
    (hasTitle : Bool) :
    SameBlock state (state.beginTable given title hasTitle) := by
  unfold CompilerState.beginTable
  split <;> exact ⟨rfl, rfl⟩

/-- The definition of a macro leaves both alone. -/
private theorem defineMacro
    (state : CompilerState)
    (position : Position)
    (name body : String) :
    SameBlock state (state.defineMacro position name body) := by
  unfold CompilerState.defineMacro
  split <;> exact ⟨rfl, rfl⟩

/-- The definition of a template leaves both alone. -/
private theorem defineTemplate
    (state : CompilerState)
    (position : Position)
    (template : Template) :
    SameBlock state (state.defineTemplate position template) := by
  unfold CompilerState.defineTemplate
  split <;> exact ⟨rfl, rfl⟩

/-- Reading blocks gives both back as they were. -/
theorem blockEffect (effect : BlockEffect longest before after) : SameBlock before after := by
  induction effect with
  | refl state =>
      exact ⟨rfl, rfl⟩
  | trans _ _ firstSame secondSame =>
      exact firstSame.trans secondSame
  | flow effect =>
      exact .passage effect
  | paragraph effect =>
      exact trans { passage effect with } (endParagraph _)
  | heading level title _ effect =>
      exact { passage effect with }
  | table given title hasTitle effect =>
      exact trans (beginTable _ given title hasTitle) { passage effect with }
  | openedSection given title _ effect =>
      exact { passage effect with }
  | closedSection _ _ _ =>
      exact ⟨rfl, rfl⟩
  | warned before kind position message =>
      exact ⟨rfl, rfl⟩
  | definedMacro before position name _ =>
      exact defineMacro ..
  | definedTemplate before position _ _ =>
      exact defineTemplate ..
  | nested _ _ inductionHypothesis =>
      -- The nesting is one more inside, and the end of the block takes it back.
      have raised := inductionHypothesis.blockNesting
      refine ⟨inductionHypothesis.docId, ?_⟩
      show _ - 1 = _
      rw [raised]
      exact Int.add_sub_cancel ..
  | expanded _ _ _ inductionHypothesis =>
      exact { inductionHypothesis with }
  | included file docId idScope _ inductionHypothesis =>
      exact ⟨rfl, inductionHypothesis.blockNesting⟩

end SameBlock

/-- What comes after a state and is in the same block has everything lowered again. -/
theorem Precedes.balanced
    (precedes : before.Precedes after)
    (same : SameBlock before after) :
    before.Balanced after where
  expansionDepth := precedes.expansionDepth
  phraseDepth := precedes.phraseDepth
  includeStack := precedes.includeStack
  idScope := precedes.idScope
  docId := same.docId
  blockNesting := same.blockNesting
  scopes := congrArg (· + 1) precedes.templates.length_inner

/-- A passage is balanced. -/
theorem Passage.balanced
    {vocabulary : Vocabulary}
    {opened left : List Element}
    (passage : Passage vocabulary opened left before after) :
    before.Balanced after :=
  passage.precedes.balanced (.passage passage)

/-- Reading blocks is balanced. -/
theorem BlockEffect.balanced (effect : BlockEffect longest before after) :
    before.Balanced after :=
  effect.precedes.balanced (.blockEffect effect)

end DocMarkup.CompilerState
