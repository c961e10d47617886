import DocMarkup.Proofs.Grammar.Parser

namespace DocMarkup

open CompilerState

/-!
# Parsers under supervision

A closer watch looks at the state at every call of a parser and again at its return.
Depths are only ever raised on the way into a parser, so that such a watch on their
limits sees every state in which one of them is reached.
-/

variable {environment : Environment} {longest steps : Nat} {inner reference : Inner}

namespace CompilerState

/-- The limits as a conjunction. -/
theorem withinLimits_iff {state : CompilerState} :
    state.WithinLimits ↔
      state.expansionDepth ≤ expansionLimit ∧
        state.phraseDepth ≤ phraseLimit ∧
          state.includeStack.length ≤ includeLimit ∧ state.includeStack.Nodup := by
  constructor
  · rintro ⟨expansions, phrases, inclusions, distinct⟩
    exact ⟨expansions, phrases, inclusions, distinct⟩
  · rintro ⟨expansions, phrases, inclusions, distinct⟩
    exact ⟨expansions, phrases, inclusions, distinct⟩

instance : DecidablePred WithinLimits :=
  fun _ => decidable_of_iff _ withinLimits_iff.symm

end CompilerState

namespace Compile

/-- Look at the state before and after a computation; raise the alarm if it is not accepted. -/
def guarded
    (watch : CompilerState → Prop)
    [DecidablePred watch]
    (computation : Compile α) :
    Compile α := do
  if watch (← state) then
    computation.watched watch
  else
    throw alarm

/-- A guarded computation from an accepted state ends as before if its results are accepted. -/
theorem Ends.guarded
    {before : CompilerState}
    {watch : CompilerState → Prop}
    [DecidablePred watch]
    {computation computationReference : Compile α}
    {faults : Fault → Prop}
    {results : α → CompilerState → Prop}
    (ends : Ends before computation computationReference faults results)
    (accepted : watch before)
    (staysAccepted : ∀ value after, results value after → watch after) :
    Ends before (computation.guarded watch) computationReference faults results := by
  intro workspace starts
  have unfolded :
      computation.guarded watch workspace = computation.watched watch workspace := by
    show (if watch workspace.state then computation.watched watch else MonadExcept.throw alarm :
      Compile α) workspace = _
    rw [if_pos (starts ▸ accepted)]
  rw [unfolded]
  refine ends.watched ?_ workspace starts
  intro value after reached refused
  exact (refused (staysAccepted value after reached)).elim

/-- Compare the states before and after a computation; raise the alarm if they do not fit. -/
def compared
    (fits : CompilerState → CompilerState → Prop)
    [∀ before, DecidablePred (fits before)]
    (computation : Compile α) :
    Compile α := do
  let before ← state
  computation.watched (fits before)

/-- A compared computation ends as before, or with the alarm where its results do not fit. -/
theorem Ends.compared
    {before : CompilerState}
    {fits : CompilerState → CompilerState → Prop}
    [∀ before, DecidablePred (fits before)]
    {computation computationReference : Compile α}
    {faults : Fault → Prop}
    {results : α → CompilerState → Prop}
    (ends : Ends before computation computationReference faults results)
    (onAlarm : ∀ value after, results value after → ¬ fits before after → faults alarm) :
    Ends before (computation.compared fits) computationReference faults results :=
  .look (ends.watched onAlarm)

end Compile

namespace Inner

/-- The parsers with a watch that looks at the state at every call and every return. -/
def guarded
    (watch : CompilerState → Prop)
    [DecidablePred watch]
    (inner : Inner) :
    Inner :=
  { phraseFrom := fun mode depth buffer cursor =>
      (inner.phraseFrom mode depth buffer cursor).guarded watch
    blocks := fun nested cursor => (inner.blocks nested cursor).guarded watch
    items := fun lists cursor => (inner.items lists cursor).guarded watch
    includeFile := fun position name id => (inner.includeFile position name id).guarded watch }

/-- The parsers with a number of steps, guarded at every depth of the recursion. -/
def supervised
    (environment : Environment)
    (watch : CompilerState → Prop)
    [DecidablePred watch] :
    Nat →
    Inner
  | 0 => within environment 0
  | steps + 1 => ((supervised environment watch steps).extend environment).guarded watch

/-- The parsers with a watch that compares the states before and after blocks. -/
def compared
    (fits : CompilerState → CompilerState → Prop)
    [∀ before, DecidablePred (fits before)]
    (inner : Inner) :
    Inner :=
  { inner with blocks := fun nested cursor => (inner.blocks nested cursor).compared fits }

/-- The parsers with a number of steps, compared at every depth of the recursion. -/
def comparing
    (environment : Environment)
    (fits : CompilerState → CompilerState → Prop)
    [∀ before, DecidablePred (fits before)] :
    Nat →
    Inner
  | 0 => within environment 0
  | steps + 1 => ((comparing environment fits steps).extend environment).compared fits

/-- Where nesting is within its limits at every call, it is so at every return. -/
theorem Sound.guarded
    (sound : inner.Sound environment.files longest steps True reference) :
    (inner.guarded WithinLimits).Sound environment.files longest steps True reference where
  phraseFrom mode depth buffer ready :=
    (sound.phraseFrom mode depth buffer ready).guarded (ready.limits trivial) fun _ _ reached =>
      reached.1.precedes.withinLimits (ready.limits trivial)
  blocks nested ready isCalm :=
    (sound.blocks nested ready isCalm).guarded (ready.limits trivial) fun _ _ reached =>
      reached.1.precedes.withinLimits (ready.limits trivial)
  items lists ready areLists :=
    (sound.items lists ready areLists).guarded (ready.limits trivial) fun _ _ reached =>
      reached.1.precedes.withinLimits (ready.limits trivial)
  includeFile position name id ready isCalm :=
    (sound.includeFile position name id ready isCalm).guarded (ready.limits trivial)
      fun _ _ effect => effect.precedes.withinLimits (ready.limits trivial)

/-- The supervised parsers do the same as those without supervision, if steps can be afforded. -/
theorem supervised_sound
    (filesBounded : environment.files.Bounded longest)
    (steps : Nat) :
    (supervised environment WithinLimits steps).Sound environment.files longest steps True
      (within environment steps) := by
  induction steps with
  | zero =>
      exact .zero
  | succ steps inductionHypothesis =>
      exact (inductionHypothesis.extend filesBounded).guarded

/-- Parsers that are compared may be relied on to do the same if what blocks do always fits. -/
theorem comparing_sound
    {fits : CompilerState → CompilerState → Prop}
    [∀ before, DecidablePred (fits before)]
    {affordable : Prop}
    (filesBounded : environment.files.Bounded longest)
    (accepts :
      ∀ before after,
        before.IsConsistent → BlockEffect longest before after → fits before after)
    (steps : Nat) :
    (comparing environment fits steps).Sound environment.files longest steps affordable
      (within environment steps) := by
  induction steps with
  | zero =>
      exact .zero
  | succ steps inductionHypothesis =>
      have sound := inductionHypothesis.extend filesBounded
      refine { sound with blocks := ?_ }
      intro before cursor calm nested ready isCalm
      refine (sound.blocks nested ready isCalm).compared ?_
      rintro next after ⟨effect, _⟩ refused calmBefore
      exact refused (accepts before after (isCalm calmBefore) effect)

end Inner

end DocMarkup
