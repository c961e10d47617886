import DocMarkup.Proofs.Compilation.Start
import DocMarkup.Proofs.Grammar.Descent
import DocMarkup.Proofs.Grammar.Loops

namespace DocMarkup

open CompilerState

/-!
# Reading always ends

Whatever macros and templates are defined, even in terms of themselves, and whatever
files include one another, less is left to be done at every call of a parser. The
number of steps that is computed beforehand is therefore never used up. Loops that
are not calls of parsers shorten the text each time they go on.
-/

namespace CompilerState

/-- A state with further macros, and with further templates of given parameters and texts. -/
def defining
    (state : CompilerState)
    (macros : List (String × String))
    (templates : List (String × List String × String)) :
    CompilerState :=
  { state with
    macros := macros.foldl (fun table (name, body) => table.define name body) state.macros
    templates :=
      templates.foldl
        (fun table (name, params, body) => table.define (Block.templateOf name params body))
        state.templates }

/-- Defining templates by their texts gives none whose output is known. -/
private theorem every_defineAll
    {templates : TemplateTable}
    (known : templates.Every Template.IsPhraseIfKnown)
    (definitions : List (String × List String × String)) :
    (definitions.foldl
      (fun table (name, params, body) => table.define (Block.templateOf name params body))
      templates).Every Template.IsPhraseIfKnown := by
  induction definitions generalizing templates with
  | nil =>
      exact known
  | cons definition others inductionHypothesis =>
      obtain ⟨name, params, body⟩ := definition
      refine inductionHypothesis (known.define fun events isKnown => ?_)
      simp [(Block.templateOf_fields name params body).2.2] at isKnown

/-- Defining templates by their texts keeps the outputs of templates phrases. -/
theorem Scoped.defining
    {state : CompilerState}
    (known : state.Scoped)
    (macros : List (String × String))
    (templates : List (String × List String × String)) :
    (state.defining macros templates).Scoped :=
  every_defineAll known templates

end CompilerState

namespace Compile

/-- Further definitions are not reading. -/
theorem Fresh.defining
    {state : CompilerState}
    (fresh : Fresh state)
    (macros : List (String × String))
    (templates : List (String × List String × String)) :
    Fresh (state.defining macros templates) :=
  { fresh with known := fresh.known.defining macros templates }

end Compile

/-- No text weighs as much as a level of nesting, so that the most work covers all steps. -/
theorem Work.covers_most (longest : Nat) :
    Inner.Covers longest (Compile.neededSteps longest) .most := by
  intro work _ few
  unfold Work.steps Compile.neededSteps at few
  refine .inl (Nat.lt_of_not_le fun tooMuch => ?_)
  have worth :
      (expansionLimit + includeLimit + 1) * (2 * longest + 4) ≤ work.room * (2 * longest + 4) :=
    Nat.mul_le_mul_right _ tooMuch
  rw [Nat.succ_mul (expansionLimit + includeLimit)] at worth
  omega

/--
Reading a document ends, for every set of macros and templates that are defined
beforehand and for every file tree. Parsers that insist on a smaller measure at every
call do the same as those that count their steps, with any number of steps from the
one that is computed on: they give a result, or meet a path that cannot be resolved.
-/
theorem parsing_terminates :
    WellFounded Work.Less ∧
      (∀ (options : Options) (files : FileTree) (macros : List (String × String))
          (templates : List (String × List String × String)) (document : Document) (spare : Nat),
        let environment := options.environment files
        let start : Workspace := { state := options.initialState.defining macros templates }
        let steps := enoughSteps environment start.state document.givenLength + spare
        let counted := document.parse environment (Inner.within environment steps)
        let descending := document.parse environment (Inner.descending environment .most)
        descending start = counted start ∧
          match counted start with
          | .ok _ _ => True
          | .error fault _ => ∃ rejected, fault = .path rejected ∧ files.Rejects rejected) ∧
        Shortens List.length behindComment? ∧
          Shortens (fun cursor => cursor.rest.length) Cursor.behindCell? ∧
            Shortens (fun cursor => cursor.rest.length) Cursor.behindRow? ∧
              Shortens List.length Cursor.behindCodeLine? := by
  refine ⟨Work.less_wellFounded, ?_, behindComment?_shortens, Cursor.behindCell?_shortens,
    Cursor.behindRow?_shortens, Cursor.behindCodeLine?_shortens⟩
  intro options files macros templates document spare environment start steps counted descending
  have fresh := options.fresh_initialState.defining macros templates
  have unnested : Compile.Unnested start.state := { options.unnested_initialState with }
  have needed :
      Compile.neededSteps (longestText environment start.state document.givenLength) ≤ steps :=
    Nat.le_trans (Compile.neededSteps_le_enoughSteps _) (Nat.le_add_right ..)
  have bounded :
      environment.files.Bounded (longestText environment start.state document.givenLength) :=
    files_bounded_longestText
  have sound :=
    Inner.descending_sound bounded .most
      (Work.covers_most (longestText environment start.state document.givenLength)) needed
  have ends :=
    Compile.document_ends document fresh unnested (fun _ : True => Nat.le_refl _) sound
      fun _ begins => begins.isConsistent
  have same : descending start = counted start :=
    ends.eq_reference (fun raised => raised trivial) rfl
  refine ⟨same, ?_⟩
  split
  next =>
    trivial
  next fault after outcome =>
    have expected := ends.of_error rfl (same.trans outcome)
    cases fault with
    | path rejected =>
        exact ⟨rejected, rfl, expected⟩
    | documentScope =>
        exact (expected trivial).elim
    | noOpenSection =>
        exact (expected trivial).elim
    | nestedTooDeeply =>
        exact (expected trivial).elim

end DocMarkup
