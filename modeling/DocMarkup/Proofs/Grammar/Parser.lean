import DocMarkup.Proofs.Grammar.Inclusion
import DocMarkup.Proofs.Grammar.Longest

namespace DocMarkup

open CompilerState

/-!
# The parsers do what is relied on

Parsers with any number of steps do what the rules rely on. This still holds if a
watch looks at the state whenever blocks have been read, as long as the watch
accepts every state that is in order: it then never raises the alarm.
-/

variable {environment : Environment} {longest steps : Nat} {affordable : Prop}
  {inner reference : Inner}

namespace Compile

/-- Look at the state after a computation, and raise the alarm if it is not accepted. -/
def watched
    (watch : CompilerState → Prop)
    [DecidablePred watch]
    (computation : Compile α) :
    Compile α := do
  let value ← computation
  if watch (← state) then
    return value
  else
    throw alarm

/-- A watched computation ends as before, or with the alarm where its result is not accepted. -/
theorem Ends.watched
    {before : CompilerState}
    {watch : CompilerState → Prop}
    [DecidablePred watch]
    {computation computationReference : Compile α}
    {faults : Fault → Prop}
    {results : α → CompilerState → Prop}
    (ends : Ends before computation computationReference faults results)
    (onAlarm : ∀ value after, results value after → ¬ watch after → faults alarm) :
    Ends before (computation.watched watch) computationReference faults results := by
  intro workspace starts
  obtain ⟨follows, reached⟩ := ends workspace starts
  cases outcome : computation workspace with
  | ok value after =>
      have unfolded :
          computation.watched watch workspace =
            if watch after.state then .ok value after else .error alarm after := by
        show EStateM.bind computation _ workspace = _
        unfold EStateM.bind
        rw [outcome]
        show (if watch after.state then Pure.pure value else MonadExcept.throw alarm :
          Compile α) after = _
        by_cases accepted : watch after.state <;> simp [accepted] <;> rfl
      rw [outcome] at follows reached
      rw [unfolded]
      obtain same | ⟨_, isAlarm⟩ := follows
      · by_cases accepted : watch after.state
        · simp only [accepted, ↓reduceIte]
          exact ⟨.inl same, reached⟩
        · simp only [accepted, ↓reduceIte]
          exact ⟨.inr ⟨after, rfl⟩, onAlarm value after.state reached accepted⟩
      · cases isAlarm
  | error fault after =>
      have unfolded : computation.watched watch workspace = .error fault after := by
        show EStateM.bind computation _ workspace = _
        unfold EStateM.bind
        rw [outcome]
      rw [outcome] at follows reached
      rw [unfolded]
      exact ⟨follows, reached⟩

end Compile

open Compile

namespace Inner

/-- The parsers that take one step more. -/
def extend (environment : Environment) (inner : Inner) : Inner :=
  { phraseFrom := Phrase.step inner
    blocks := Block.step inner
    items := Listing.step inner
    includeFile := Compile.includeFile environment inner }

/-- One step more is one step before the steps that there were. -/
theorem within_succ (environment : Environment) (steps : Nat) :
    within environment (steps + 1) = (within environment steps).extend environment :=
  rfl

/-- The parsers with a watch that looks at the state whenever blocks have been read. -/
def watched
    (watch : CompilerState → Prop)
    [DecidablePred watch]
    (inner : Inner) :
    Inner :=
  { inner with blocks := fun nested cursor => (inner.blocks nested cursor).watched watch }

/-- The parsers with a number of steps, watched wherever blocks are read. -/
def observed
    (environment : Environment)
    (watch : CompilerState → Prop)
    [DecidablePred watch] :
    Nat →
    Inner
  | 0 => within environment 0
  | steps + 1 => ((observed environment watch steps).extend environment).watched watch

namespace Sound

/-- Parsers that take one step more may be relied on for one step more. -/
theorem extend
    (sound : inner.Sound environment.files longest steps affordable reference)
    (filesBounded : environment.files.Bounded longest) :
    (inner.extend environment).Sound environment.files longest (steps + 1) affordable
      (reference.extend environment) where
  phraseFrom mode depth buffer ready := Phrase.step_ends sound ready mode depth buffer
  blocks nested ready isCalm := Block.step_ends sound nested ready isCalm
  items _ ready areLists := Listing.step_ends sound ready areLists
  includeFile position name id ready isCalm :=
    includeFile_ends sound filesBounded position name id ready fun calmBefore file =>
      (isCalm calmBefore).beginInclusion file _ _

/-- Parsers without steps may be relied on where nothing can be afforded. -/
theorem zero {order : Order} :
    (within environment 0).Sound environment.files longest 0 affordable
      (within environment 0) order where
  phraseFrom _ _ _ ready := .throw fun isAffordable => by
    have enough := ready.enough isAffordable
    omega
  blocks _ ready _ := .throw fun isAffordable => by
    have enough := ready.enough isAffordable
    omega
  items _ ready _ := .throw fun isAffordable => by
    have enough := ready.enough isAffordable
    omega
  includeFile _ _ _ ready _ := .throw fun isAffordable => by
    have enough := ready.enough isAffordable
    omega

/-- A watch that accepts all states that are in order changes nothing about the parsers. -/
theorem watched
    {watch : CompilerState → Prop}
    [DecidablePred watch]
    (sound : inner.Sound environment.files longest steps affordable reference)
    (accepts : ∀ state, state.IsConsistent → watch state) :
    (inner.watched watch).Sound environment.files longest steps affordable reference :=
  { sound with
    blocks := by
      intro before cursor calm nested ready isCalm
      refine (sound.blocks nested ready isCalm).watched ?_
      rintro next after ⟨effect, _⟩ refused calmBefore
      exact refused (accepts after ((isCalm calmBefore).blockEffect effect)) }

end Sound

/-- The parsers may be relied on. -/
theorem within_sound
    (filesBounded : environment.files.Bounded longest)
    (steps : Nat) :
    (within environment steps).Sound environment.files longest steps affordable
      (within environment steps) := by
  induction steps with
  | zero =>
      exact .zero
  | succ steps inductionHypothesis =>
      exact inductionHypothesis.extend filesBounded

/-- From any state at all, they may be relied on where steps are not counted. -/
theorem within_sound_longestText
    {state : CompilerState}
    {given : Nat} :
    (within environment steps).Sound environment.files
      (longestText environment state given) steps False
      (within environment steps) :=
  within_sound CompilerState.files_bounded_longestText steps

/-- The watched parsers may be relied on to do the same as those that are not watched. -/
theorem observed_sound
    {watch : CompilerState → Prop}
    [DecidablePred watch]
    (filesBounded : environment.files.Bounded longest)
    (accepts : ∀ state, state.IsConsistent → watch state)
    (steps : Nat) :
    (observed environment watch steps).Sound environment.files longest steps affordable
      (within environment steps) := by
  induction steps with
  | zero =>
      exact .zero
  | succ steps inductionHypothesis =>
      exact (inductionHypothesis.extend filesBounded).watched accepts

end Inner

end DocMarkup
