import DocMarkup.Grammar.Parser
import DocMarkup.Proofs.Compiler.Ends

namespace DocMarkup.Compile

/-!
# What a computation gives

Where everything that a computation meets is known, it gives one value in one
state. The rules say so for computations that are put together from others. No
bracket was found to be unclosed before, and none is found to be; which files
are asked for is left open.
-/

/-- From a state, a computation gives a value and a state, and meets no unclosed bracket. -/
def Yields
    (before : CompilerState)
    (computation : Compile α)
    (value : α)
    (after : CompilerState) :
    Prop :=
  ∀ consulted : List Path,
    ∃ consultedAfter,
      computation { state := before, unclosed := [], consulted := consulted } =
        .ok value { state := after, unclosed := [], consulted := consultedAfter }

/-- The output at the end of a run that ends with a value. -/
def eventsAfter? : EStateM.Result Fault Workspace α → Option (List Event)
  | .ok _ after => some after.state.events.toList
  | .error _ _ => none

namespace Yields

variable {before middle after : CompilerState}

/-- A value is given in an unchanged state. -/
theorem pure (value : α) : Yields before (Pure.pure value) value before := by
  intro consulted
  exact ⟨consulted, rfl⟩

/-- What follows a computation starts with what that one gives. -/
theorem bind
    {first : Compile α}
    {next : α → Compile β}
    {value : α}
    {result : β}
    (firstYields : Yields before first value middle)
    (nextYields : Yields middle (next value) result after) :
    Yields before (first >>= next) result after := by
  intro consulted
  obtain ⟨consultedBetween, reached⟩ := firstYields consulted
  obtain ⟨consultedAfter, ended⟩ := nextYields consultedBetween
  refine ⟨consultedAfter, ?_⟩
  change EStateM.bind first next _ = _
  unfold EStateM.bind
  rw [reached]
  exact ended

/-- Looking at the state gives it and leaves it. -/
theorem state
    {next : CompilerState → Compile α}
    {value : α}
    (nextYields : Yields before (next before) value after) :
    Yields before (Compile.state >>= next) value after := by
  intro consulted
  exact nextYields consulted

/-- A change gives the changed state. -/
theorem update (change : CompilerState → CompilerState) :
    Yields before (Compile.update change) () (change before) := by
  intro consulted
  exact ⟨consulted, rfl⟩

/-- What follows a change starts in the changed state. -/
theorem updateThen
    {change : CompilerState → CompilerState}
    {next : Unit → Compile α}
    {value : α}
    (nextYields : Yields (change before) (next ()) value after) :
    Yields before (Compile.update change >>= next) value after :=
  (update change).bind nextYields

/-- A change that is made in any case is made after the computation. -/
theorem thenAlways
    {computation : Compile α}
    {value : α}
    (yields : Yields before computation value after)
    (change : CompilerState → CompilerState) :
    Yields before (Compile.thenAlways computation change) value (change after) := by
  intro consulted
  obtain ⟨consultedAfter, reached⟩ := yields consulted
  refine ⟨consultedAfter, ?_⟩
  unfold Compile.thenAlways
  rw [reached]

/-- With a fresh memory, a computation gives the same whatever was remembered before. -/
theorem run_withFreshMemory
    {computation : Compile α}
    {value : α}
    (workspace : Workspace)
    (yields : Yields workspace.state computation value after) :
    ∃ consultedAfter,
      Compile.withFreshMemory computation workspace =
        .ok value
          { state := after, unclosed := workspace.unclosed, consulted := consultedAfter } := by
  obtain ⟨consultedAfter, reached⟩ := yields workspace.consulted
  refine ⟨consultedAfter, ?_⟩
  unfold Compile.withFreshMemory
  rw [reached]

/-- With a fresh memory, a computation gives the same as where nothing is remembered. -/
theorem withFreshMemory
    {computation : Compile α}
    {value : α}
    (yields : Yields before computation value after) :
    Yields before (Compile.withFreshMemory computation) value after := by
  intro consulted
  exact run_withFreshMemory ⟨before, [], consulted⟩ yields

/-- The parsers are used with the number of steps that is computed for them. -/
theorem parsing
    {environment : Environment}
    {given : Nat}
    {value : α}
    (use : Inner → Compile α)
    (yields :
      Yields before (use (Inner.within environment (enoughSteps environment before given)))
        value after) :
    Yields before (Compile.parsing environment given use) value after :=
  state yields

/-- Where nothing is remembered, no bracket is known to be unclosed. -/
theorem isKnownUnclosed (cursor : Cursor) :
    Yields before (Compile.isKnownUnclosed cursor) false before := by
  intro consulted
  exact ⟨consulted, rfl⟩

/-- Noting which paths were asked for leaves the state. -/
theorem consult (paths : List Path) : Yields before (Compile.consult paths) () before := by
  intro consulted
  exact ⟨paths ++ consulted, rfl⟩

/-- The value of a path computation is given. -/
theorem ofPath
    {found : Except PathFault α}
    {value : α}
    (isValue : found = .ok value) :
    Yields before (Compile.ofPath found) value before := by
  rw [isValue]
  exact .pure value

/-- Brackets are entered as long as not too many are open. -/
theorem enterPhrase
    (cursor : Cursor)
    (room : before.phraseDepth < phraseLimit) :
    Yields before (Compile.enterPhrase cursor) true
      { before with phraseDepth := before.phraseDepth + 1 } := by
  apply state
  rw [if_pos room]
  exact updateThen (.pure true)

section Rules

variable {rule : Rule} {cursor next : Cursor}

/-- Trying a rule that applies gives what the rule gives. -/
theorem attempt (yields : Yields before (rule cursor) (some next) after) :
    Yields before (Compile.attempt rule cursor) (some next) after := by
  apply state
  exact yields.bind (.pure (some next))

/-- Trying a rule that does not apply gives nothing and takes back what was added. -/
theorem attempt_none
    (yields : Yields before (rule cursor) none after)
    (precedes : before.Precedes after) :
    Yields before (Compile.attempt rule cursor) none before := by
  apply state
  refine yields.bind (updateThen ?_)
  rw [precedes.rollback]
  exact .pure none

/-- Of several rules, the first one that applies is used. -/
theorem firstOf
    (earlier : List Rule)
    {others : List Rule}
    (notBefore : ∀ rule ∈ earlier, Yields before (rule cursor) none before)
    (yields : Yields before (rule cursor) (some next) after) :
    Yields before (Compile.firstOf (earlier ++ rule :: others) cursor) (some next) after := by
  induction earlier with
  | nil =>
      exact (attempt yields).bind (.pure (some next))
  | cons first rest inductionHypothesis =>
      have firstFails := notBefore first List.mem_cons_self
      have restFails := inductionHypothesis fun rule isLater =>
        notBefore rule (List.mem_cons_of_mem _ isLater)
      exact (attempt_none firstFails (.refl before)).bind restFails

end Rules

end Yields

end DocMarkup.Compile
