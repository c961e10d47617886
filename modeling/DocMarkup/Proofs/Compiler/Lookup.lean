import DocMarkup.Proofs.Compiler.BlockEffect

namespace DocMarkup

/-!
# Computations that only look names up

A phrase includes no files and defines no templates. It looks names up, and opens scopes
that it closes again. So where names stand for the same templates, it comes to the same in
other surroundings too, and leaves those that it found.
-/

/-- What a phrase is read in: the templates, and the files that are open. -/
structure Surroundings where
  templates : TemplateTable
  includeStack : List Path
deriving DecidableEq, Repr

namespace Surroundings

variable {here there : Surroundings}

/-- Every name stands for the same template in both. -/
def SameNames (here there : Surroundings) : Prop :=
  ∀ name, there.templates.find? name = here.templates.find? name

/-- The surroundings in a further scope. -/
def pushScope (around : Surroundings) (bindings : NameTable Template) : Surroundings :=
  { around with templates := around.templates.pushScope bindings }

/-- A scope around which the same names are known makes the same names known. -/
theorem SameNames.pushScope (same : here.SameNames there) (bindings : NameTable Template) :
    (here.pushScope bindings).SameNames (there.pushScope bindings) := by
  intro name
  have outside := same name
  simp only [Surroundings.pushScope, TemplateTable.pushScope, TemplateTable.find?,
    TemplateTable.scopes, List.cons_append, List.findSome?_cons] at outside ⊢
  rw [outside]

end Surroundings

/-- A table without further definitions is not changed by going back. -/
theorem TemplateTable.rollback_checkpoint (table : TemplateTable) :
    table.rollback table.checkpoint = table := by
  rw [rollback, checkpoint, Nat.sub_self]
  rfl

namespace CompilerState

/-- The surroundings of a state. -/
def surroundings (state : CompilerState) : Surroundings where
  templates := state.templates
  includeStack := state.includeStack

/-- The state in other surroundings. -/
def amid (state : CompilerState) (around : Surroundings) : CompilerState :=
  { state with templates := around.templates, includeStack := around.includeStack }

/-- A change of the state does not look at its surroundings, and leaves them. -/
def IgnoresSurroundings (change : CompilerState → CompilerState) : Prop :=
  ∀ state around, change (state.amid around) = (change state).amid around

namespace IgnoresSurroundings

variable {change first second : CompilerState → CompilerState}

/-- What does not look at the surroundings leaves them. -/
theorem surroundings_eq (ignores : IgnoresSurroundings change) (state : CompilerState) :
    (change state).surroundings = state.surroundings := by
  have same : change state = (change state).amid state.surroundings :=
    ignores state state.surroundings
  rw [same]
  rfl

/-- No change. -/
theorem nothing : IgnoresSurroundings fun state => state :=
  fun _ _ => rfl

/-- Two changes in a row. -/
theorem comp
    (firstIgnores : IgnoresSurroundings first)
    (secondIgnores : IgnoresSurroundings second) :
    IgnoresSurroundings fun state => second (first state) := by
  intro state around
  show second (first _) = _
  rw [firstIgnores, secondIgnores]

theorem startElement (name : String) (attributes : List Attribute) :
    IgnoresSurroundings fun state => state.startElement name attributes :=
  fun _ _ => rfl

theorem endElement (name : String) : IgnoresSurroundings fun state => state.endElement name :=
  fun _ _ => rfl

theorem element (name : String) (attributes : List Attribute) :
    IgnoresSurroundings fun state => state.element name attributes :=
  fun _ _ => rfl

theorem error (position : Position) (message : String) :
    IgnoresSurroundings fun state => state.error position message :=
  fun _ _ => rfl

theorem text (content : String) : IgnoresSurroundings fun state => state.text content := by
  intro state around
  unfold CompilerState.text
  split <;> rfl

theorem inlineCode (code : String) : IgnoresSurroundings fun state => state.inlineCode code :=
  ((startElement "code" []).comp (text code)).comp (endElement "code")

theorem raw (position : Option Position) (content : String) :
    IgnoresSurroundings fun state => state.raw position content := by
  intro state around
  unfold CompilerState.raw
  split
  · rfl
  · exact text content (state.reportError _ _ _) around

theorem replay (events : List Event) : IgnoresSurroundings fun state => state.replay events := by
  intro state around
  unfold CompilerState.replay
  induction events generalizing state with
  | nil => rfl
  | cons event rest inductionHypothesis => exact inductionHypothesis (state.emit event)

theorem surface : IgnoresSurroundings CompilerState.surface :=
  fun _ _ => rfl

theorem leavePhrase : IgnoresSurroundings Compile.leavePhrase :=
  fun _ _ => rfl

end IgnoresSurroundings

end CompilerState

/-- The workspace in other surroundings. -/
def Workspace.amid (workspace : Workspace) (around : Surroundings) : Workspace :=
  { workspace with state := workspace.state.amid around }

namespace Compile

open CompilerState

/--
Two computations came to the same value or ran out of steps both, in workspaces that differ
in nothing but their surroundings.
-/
inductive SameOutcome (here there : Surroundings) :
    EStateM.Result Fault Workspace α → EStateM.Result Fault Workspace α → Prop where
  | ok (value : α) (after : Workspace) (kept : after.state.surroundings = here) :
      SameOutcome here there (.ok value after) (.ok value (after.amid there))
  | outOfSteps (after : Workspace) (kept : after.state.surroundings = here) :
      SameOutcome here there (.error .nestedTooDeeply after)
        (.error .nestedTooDeeply (after.amid there))

/-- A change that is made in any case, and leads from some surroundings to others. -/
theorem SameOutcome.thenAlways
    {inside insideThere here there : Surroundings}
    {computation reflection : Compile α}
    {change : CompilerState → CompilerState}
    {workspace other : Workspace}
    (reached : SameOutcome inside insideThere (computation workspace) (reflection other))
    (leads :
      ∀ after : CompilerState,
        after.surroundings = inside →
          (change after).surroundings = here ∧
            change (after.amid insideThere) = (change after).amid there) :
    SameOutcome here there (Compile.thenAlways computation change workspace)
      (Compile.thenAlways reflection change other) := by
  unfold Compile.thenAlways
  generalize computation workspace = outcome, reflection other = otherOutcome at reached
  cases reached with
  | ok value after found =>
      obtain ⟨kept, isChanged⟩ := leads after.state found
      show
        SameOutcome here there _
          (.ok value { after with state := change (after.state.amid insideThere) })
      rw [isChanged]
      exact .ok value { after with state := change after.state } kept
  | outOfSteps after found =>
      obtain ⟨kept, isChanged⟩ := leads after.state found
      show
        SameOutcome here there _
          (.error .nestedTooDeeply
            { after with state := change (after.state.amid insideThere) })
      rw [isChanged]
      exact .outOfSteps { after with state := change after.state } kept

/--
From workspaces that differ in nothing but their surroundings, two computations come to the
same or run out of steps both, and leave the surroundings that they found.
-/
def LooksUp (here there : Surroundings) (computation reflection : Compile α) : Prop :=
  ∀ workspace : Workspace,
    workspace.state.surroundings = here →
      SameOutcome here there (computation workspace)
        (reflection (workspace.amid there))

namespace LooksUp

variable {here there : Surroundings}

theorem pure (value : α) : LooksUp here there (Pure.pure value) (Pure.pure value) :=
  fun workspace found => .ok value workspace found

/-- Running out of steps. -/
theorem throw :
    LooksUp here there (MonadExcept.throw .nestedTooDeeply : Compile α)
      (MonadExcept.throw .nestedTooDeeply) :=
  fun workspace found => .outOfSteps workspace found

theorem bind
    {first firstReflection : Compile α}
    {next nextReflection : α → Compile β}
    (firstLooks : LooksUp here there first firstReflection)
    (nextLooks : ∀ value, LooksUp here there (next value) (nextReflection value)) :
    LooksUp here there (first >>= next) (firstReflection >>= nextReflection) := by
  intro workspace found
  have reached := firstLooks workspace found
  show
    SameOutcome here there (EStateM.bind first next workspace)
      (EStateM.bind firstReflection nextReflection (workspace.amid there))
  unfold EStateM.bind
  generalize first workspace = outcome,
    firstReflection (workspace.amid there) = otherOutcome at reached
  cases reached with
  | ok value between kept => exact nextLooks value between kept
  | outOfSteps between kept => exact .outOfSteps between kept

/-- Looking at the state. -/
theorem state
    {next nextReflection : CompilerState → Compile α}
    (nextLooks :
      ∀ before, before.surroundings = here →
        LooksUp here there (next before) (nextReflection (before.amid there))) :
    LooksUp here there (Compile.state >>= next) (Compile.state >>= nextReflection) :=
  fun workspace found => nextLooks workspace.state found workspace found

/-- Changes that do the same to states that differ in nothing but their surroundings. -/
theorem updateBoth
    {change changeReflection : CompilerState → CompilerState}
    (same :
      ∀ before, before.surroundings = here →
        (change before).surroundings = here ∧
          changeReflection (before.amid there) = (change before).amid there) :
    LooksUp here there (update change) (update changeReflection) := by
  intro workspace found
  obtain ⟨kept, isChanged⟩ := same workspace.state found
  show
    SameOutcome here there _
      (.ok () { workspace with state := changeReflection (workspace.state.amid there) })
  rw [isChanged]
  exact .ok () { workspace with state := change workspace.state } kept

/-- A change that does not look at the surroundings. -/
theorem update
    {change : CompilerState → CompilerState}
    (ignores : IgnoresSurroundings change) :
    LooksUp here there (Compile.update change) (Compile.update change) :=
  updateBoth fun before found => ⟨(ignores.surroundings_eq before).trans found, ignores before there⟩

/-- A change that is made in any case. -/
theorem thenAlways
    {computation reflection : Compile α}
    {change : CompilerState → CompilerState}
    (looks : LooksUp here there computation reflection)
    (ignores : IgnoresSurroundings change) :
    LooksUp here there (Compile.thenAlways computation change)
      (Compile.thenAlways reflection change) :=
  fun workspace found =>
    (looks workspace found).thenAlways fun after kept =>
      ⟨(ignores.surroundings_eq after).trans kept, ignores after there⟩

/-- A computation that starts with nothing remembered. -/
theorem withFreshMemory
    {computation reflection : Compile α}
    (looks : LooksUp here there computation reflection) :
    LooksUp here there (Compile.withFreshMemory computation)
      (Compile.withFreshMemory reflection) := by
  intro workspace found
  have reached := looks { workspace with unclosed := [] } found
  have sameStart :
      ({ workspace with unclosed := [] } : Workspace).amid there =
        { workspace.amid there with unclosed := [] } :=
    rfl
  rw [sameStart] at reached
  unfold Compile.withFreshMemory
  generalize computation { workspace with unclosed := [] } = outcome,
    reflection { workspace.amid there with unclosed := [] } = otherOutcome at reached
  cases reached with
  | ok value after kept => exact .ok value { after with unclosed := workspace.unclosed } kept
  | outOfSteps after kept => exact .outOfSteps { after with unclosed := workspace.unclosed } kept

/-- A computation in a scope of its own, which is closed in any case. -/
theorem inScope
    {computation reflection : Compile α}
    {bindings : NameTable Template}
    (looks :
      LooksUp (here.pushScope bindings) (there.pushScope bindings) computation reflection) :
    LooksUp here there
      (do
        Compile.update fun state => { state with templates := state.templates.pushScope bindings }
        Compile.thenAlways computation
          fun state => { state with templates := state.templates.popScope?.getD state.templates })
      (do
        Compile.update fun state => { state with templates := state.templates.pushScope bindings }
        Compile.thenAlways reflection
          fun state =>
            { state with templates := state.templates.popScope?.getD state.templates }) := by
  rintro workspace rfl
  let pop (state : CompilerState) : CompilerState :=
    { state with templates := state.templates.popScope?.getD state.templates }
  have closes :
      SameOutcome workspace.state.surroundings there
        (Compile.thenAlways computation pop
          (workspace.amid (workspace.state.surroundings.pushScope bindings)))
        (Compile.thenAlways reflection pop
          (workspace.amid (there.pushScope bindings))) := by
    refine (looks (workspace.amid _) rfl).thenAlways fun after kept => ?_
    obtain ⟨isTable, isStack⟩ := Surroundings.mk.inj kept
    simp only [pop, amid, surroundings, isTable, isStack]
    exact ⟨rfl, rfl⟩
  exact closes

/-- Going back to a state in the same surroundings, and a change that does not look at them. -/
theorem rollbackThen
    {before : CompilerState}
    {change : CompilerState → CompilerState}
    (found : before.surroundings = here)
    (ignores : IgnoresSurroundings change) :
    LooksUp here there
      (Compile.update fun state => change (state.rollback before.checkpoint))
      (Compile.update fun state =>
        change (state.rollback (before.amid there).checkpoint)) := by
  refine updateBoth ?_
  rintro later rfl
  have sameTable : before.templates = later.templates := congrArg Surroundings.templates found
  have hereKept : (later.rollback before.checkpoint).surroundings = later.surroundings := by
    unfold CompilerState.rollback checkpoint surroundings
    simp only [sameTable, TemplateTable.rollback_checkpoint]
  have thereKept :
      (later.amid there).rollback (before.amid there).checkpoint =
        (later.rollback before.checkpoint).amid there := by
    unfold CompilerState.rollback checkpoint amid
    simp only [TemplateTable.rollback_checkpoint]
  rw [thereKept]
  exact ⟨(ignores.surroundings_eq _).trans hereKept, ignores _ there⟩

theorem rollback {before : CompilerState} (found : before.surroundings = here) :
    LooksUp here there
      (Compile.update fun state => state.rollback before.checkpoint)
      (Compile.update fun state => state.rollback (before.amid there).checkpoint) :=
  rollbackThen found IgnoresSurroundings.nothing

theorem isKnownUnclosed
    (cursor : Cursor)
    {next nextReflection : Bool → Compile α}
    (nextLooks : ∀ known, LooksUp here there (next known) (nextReflection known)) :
    LooksUp here there (Compile.isKnownUnclosed cursor >>= next)
      (Compile.isKnownUnclosed cursor >>= nextReflection) :=
  fun workspace found => nextLooks _ workspace found

theorem rememberUnclosed (cursor : Cursor) :
    LooksUp here there (Compile.rememberUnclosed cursor) (Compile.rememberUnclosed cursor) :=
  fun _ found => .ok () _ found

/-- Trying a rule. -/
theorem attempt
    {rule reflected : Rule}
    {cursor : Cursor}
    (looks : LooksUp here there (rule cursor) (reflected cursor)) :
    LooksUp here there (Compile.attempt rule cursor) (Compile.attempt reflected cursor) := by
  refine .state fun before found => looks.bind ?_
  rintro (_ | next)
  · exact (rollback found).bind fun _ => pure none
  · exact pure (some next)

/-- Trying rules in order. -/
theorem firstOf
    {rules reflections : List Rule}
    {cursor : Cursor}
    (look :
      List.Forall₂ (fun rule reflected => LooksUp here there (rule cursor) (reflected cursor))
        rules reflections) :
    LooksUp here there (Compile.firstOf rules cursor) (Compile.firstOf reflections cursor) := by
  induction look with
  | nil => exact pure none
  | cons looks _ inductionHypothesis =>
      refine (attempt looks).bind ?_
      rintro (_ | next)
      · exact inductionHypothesis
      · exact pure (some next)

theorem enterPhrase (cursor : Cursor) :
    LooksUp here there (Compile.enterPhrase cursor) (Compile.enterPhrase cursor) := by
  refine .state fun before _ => ?_
  show LooksUp here there _ (if before.phraseDepth < phraseLimit then _ else _)
  split
  · exact (update fun _ _ => rfl).bind fun _ => pure true
  · exact (update (.error _ _)).bind fun _ => pure false

theorem mayExpand (position : Position) (what : String) :
    LooksUp here there (Compile.mayExpand position what) (Compile.mayExpand position what) := by
  refine .state fun before _ => ?_
  show LooksUp here there _ (if before.expansionDepth < expansionLimit then _ else _)
  split
  · exact pure true
  · exact (update (.error _ _)).bind fun _ => pure false

end LooksUp

end Compile

end DocMarkup
