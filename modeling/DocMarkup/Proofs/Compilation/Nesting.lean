import DocMarkup.Proofs.Compilation.Start
import DocMarkup.Proofs.Compiler.Balance
import DocMarkup.Proofs.Grammar.Supervision

namespace DocMarkup

open CompilerState

/-!
# Nesting is limited and balanced

Expansions, brackets of phrases and inclusions are only nested as deep as is allowed,
and no file is included within itself. Every parser and every expansion or inclusion
leaves the depths, the scopes and what identifiers follow as it found them, also
where it reports an error.
-/

namespace Compile

/-- A computation that returns has everything lowered again that it raised. -/
def IsBalanced (computation : Compile α) : Prop :=
  ∀ workspace,
    match computation workspace with
    | .ok _ after => workspace.state.Balanced after.state
    | .error _ _ => True

/-- A computation is balanced if what it may end in is. -/
theorem IsBalanced.of_ends
    {computation : Compile α}
    (faults : Fault → Prop)
    (ends :
      ∀ before, Ends before computation computation faults fun _ after => before.Balanced after) :
    computation.IsBalanced := by
  intro workspace
  split
  next value after outcome =>
    exact (ends workspace.state).of_ok rfl outcome
  next =>
    trivial

section Balance

variable {environment : Environment} {steps given length extra : Nat} {before : CompilerState}

/-- Reading a phrase is balanced. -/
private theorem phraseFrom_isBalanced
    (mode : PhraseMode)
    (depth : Nat)
    (buffer : String)
    (cursor : Cursor) :
    ((Inner.within environment steps).phraseFrom mode depth buffer cursor).IsBalanced := by
  refine .of_ends (Expected environment.files False False) fun before => ?_
  exact (Inner.within_sound_longestText.phraseFrom mode depth buffer (ready_longestText (Nat.le_refl _))).imp
    (fun _ => id) fun _ _ reached => reached.1.balanced

/-- Reading blocks is balanced. -/
private theorem blocks_isBalanced (nested : Bool) (cursor : Cursor) :
    ((Inner.within environment steps).blocks nested cursor).IsBalanced := by
  refine .of_ends (Expected environment.files False False) fun before => ?_
  exact (Inner.within_sound_longestText.blocks nested (ready_longestText (Nat.le_refl _)) False.elim).imp
    (fun _ => id) fun _ _ reached => reached.1.balanced

/-- Reading the text of an expansion is balanced. -/
private theorem expansion_isBalanced (source : Source) (block : Bool) :
    ((Inner.within environment steps).expansion source block).IsBalanced := by
  refine .of_ends (Expected environment.files False False) fun before => ?_
  cases block with
  | false =>
      exact (expansion_ends Inner.within_sound_longestText source (ready_longestText (Nat.le_refl _))).imp
        (fun _ => id) fun _ _ effect => effect.balanced
  | true =>
      exact
        (expansion_block_ends Inner.within_sound_longestText source (ready_longestText (Nat.le_refl _))
          False.elim).imp (fun _ => id) fun _ _ effect => effect.balanced

/-- Expanding a macro is balanced. -/
private theorem expandMacro_isBalanced (position : Position) (name : String) :
    (expandMacro (Inner.within environment steps) position name).IsBalanced := by
  refine .of_ends (Expected environment.files False False) fun before => ?_
  have ready : Ready (longestText environment before 0) steps False before 0 0 :=
    ready_longestText (Nat.le_refl _)
  exact (expandMacro_ends Inner.within_sound_longestText position name ready).imp (fun _ => id)
    fun _ _ effect => effect.balanced

/-- Calling a template is balanced, whatever the template is. -/
private theorem invokeTemplate_isBalanced
    (position : Position)
    (template : Template)
    (arguments : String)
    (blockContext : Bool) :
    (invokeTemplate (Inner.within environment steps) position template arguments
      blockContext).IsBalanced := by
  refine .of_ends (Expected environment.files False False) fun before => ?_
  have ready :
      Ready
        (longestText environment before (arguments.length + template.body.length)) steps False
        before arguments.length 1 :=
    ready_longestText (Nat.le_add_right ..)
  have short :
      template.body.length ≤
        longestText environment before (arguments.length + template.body.length) :=
    Nat.le_trans (Nat.le_add_left ..) given_le_longestText
  refine invokeTemplate_ends Inner.within_sound_longestText ready (fun _ effect => effect.balanced) ?_ ?_
  · intro events _
    exact (Precedes.replay before events).balanced (by rw [replay_eq]; exact ⟨rfl, rfl⟩)
  · intro middle bindings effect bound inLimit
    have readyAfter := ready.alike effect.alike (Nat.le_refl _) (Nat.le_refl _)
    cases isBlock : template.block && blockContext with
    | false =>
        refine
          (expandBody_phrase_ends Inner.within_sound_longestText position isBlock readyAfter bound inLimit
            short).imp (fun _ => id) ?_
        exact fun _ _ later => (effect.trans later).balanced
    | true =>
        obtain ⟨isBlockTemplate, rfl⟩ := Bool.and_eq_true_iff.mp isBlock
        refine
          (expandBody_block_ends Inner.within_sound_longestText position isBlockTemplate readyAfter bound inLimit
            short False.elim).imp (fun _ => id) ?_
        exact fun _ _ later => (BlockEffect.trans (.flow effect.toFlow) later).balanced

/-- Including a file is balanced. -/
private theorem includeFile_isBalanced
    (position : Position)
    (name : String)
    (id : Option String) :
    (includeFile environment (Inner.within environment steps) position name id).IsBalanced := by
  refine .of_ends (Expected environment.files False False) fun before => ?_
  exact
    (includeFile_ends Inner.within_sound_longestText files_bounded_longestText position name id
      (ready_longestText (Nat.zero_le 0)) False.elim).imp
      (fun _ expected => expected) fun _ _ effect => effect.balanced

end Balance

end Compile

/--
A watch at every call and every return of a parser never sees a limit of nesting
exceeded, and from any state at all, whatever is read, expanded or included leaves
everything lowered again that was raised.
-/
theorem nesting_is_limited_and_balanced :
    (∀ (options : Options) (files : FileTree) (document : Document),
        let environment := options.environment files
        let steps := options.stepsFor files document
        let run := document.parse environment (Inner.within environment steps)
        let watched := document.parse environment (Inner.supervised environment WithinLimits steps)
        let start : Workspace := { state := options.initialState }
        watched start = run start ∧
          match watched start with
          | .ok _ _ => True
          | .error fault _ => fault ≠ Compile.alarm) ∧
      ∀ (environment : Environment) (steps : Nat),
        let inner := Inner.within environment steps
        (∀ nested cursor, (inner.blocks nested cursor).IsBalanced) ∧
          (∀ mode depth buffer cursor, (inner.phraseFrom mode depth buffer cursor).IsBalanced) ∧
            (∀ source block, (inner.expansion source block).IsBalanced) ∧
              (∀ position name, (Compile.expandMacro inner position name).IsBalanced) ∧
                (∀ position template arguments blockContext,
                  (Compile.invokeTemplate inner position template arguments
                    blockContext).IsBalanced) ∧
                  ∀ position name id,
                    (Compile.includeFile environment inner position name id).IsBalanced := by
  refine ⟨?_, ?_⟩
  · intro options files document environment steps run watched start
    have ends :=
      options.parse_ends files document (fun _ : True => Nat.le_refl _)
        (Inner.supervised_sound (options.files_bounded files document) steps)
    have noAlarm : ¬ Compile.Expected files True True Compile.alarm := fun raised => raised trivial
    refine ⟨ends.eq_reference noAlarm rfl, ?_⟩
    split
    next =>
      trivial
    next fault after outcome =>
      rintro rfl
      exact noAlarm (ends.of_error rfl outcome)
  · intro environment steps inner
    exact
      ⟨Compile.blocks_isBalanced, Compile.phraseFrom_isBalanced, Compile.expansion_isBalanced,
        Compile.expandMacro_isBalanced, Compile.invokeTemplate_isBalanced,
        Compile.includeFile_isBalanced⟩

end DocMarkup
