import DocMarkup.Compiler.Workspace

namespace DocMarkup.Compile

/-!
# The values of computations

Where a rule leads to may be known from the text alone, whatever the state that it
starts from and whatever it does to it. The values that a computation may give are
then put together from those of its parts, without a word about the state. Checks
that all these values pass make no difference to what follows.
-/

/-- From every workspace, a computation that meets no fault gives one of some values. -/
def Gives (computation : Compile α) (values : α → Prop) : Prop :=
  ∀ workspace value after, computation workspace = .ok value after → values value

/-- If a rule applies, it leads to one cursor. -/
def GoesTo (computation : Compile (Option Cursor)) (target : Cursor) : Prop :=
  Gives computation fun found => ∀ next ∈ found, next = target

/-- The environment of a compilation without files. -/
def withoutFiles : Environment :=
  { files := { entries := [], workingDirectory := [], homeDirectory := [] }
    encoding := .html
    moment := .fixed }

/-- Where a rule leads from a workspace, if it applies there. -/
def destination? (workspace : Workspace) (computation : Compile (Option Cursor)) : Option Nat :=
  match computation workspace with
  | .ok found _ => found.map Cursor.offset
  | .error _ _ => none

/-- A rule that leads somewhere has ended there in some workspace. -/
theorem exists_of_destination?
    {workspace : Workspace}
    {computation : Compile (Option Cursor)}
    {offset : Nat}
    (leads : destination? workspace computation = some offset) :
    ∃ next after, computation workspace = .ok (some next) after ∧ next.offset = offset := by
  unfold destination? at leads
  split at leads
  next found after ended =>
    obtain ⟨next, rfl, isOffset⟩ := Option.map_eq_some_iff.mp leads
    exact ⟨next, after, ended, isOffset⟩
  next => simp at leads

namespace Gives

variable {values : α → Prop} {results : β → Prop}

/-- A value is given as it is. -/
theorem pure {value : α} (holds : values value) : Gives (Pure.pure value) values := by
  rintro workspace given after ended
  cases ended
  exact holds

/-- A fault gives no value. -/
theorem throw (fault : Fault) : Gives (MonadExcept.throw fault : Compile α) values := by
  rintro workspace given after ended
  cases ended

/-- Every computation gives some value. -/
theorem any (computation : Compile α) : Gives computation fun _ => True :=
  fun _ _ _ _ => trivial

/-- A computation that is followed by another one was ended before. -/
theorem exists_of_bind
    {first : Compile α}
    {next : α → Compile β}
    {workspace after : Workspace}
    {result : β}
    (ended : (first >>= next) workspace = .ok result after) :
    ∃ value between,
      first workspace = .ok value between ∧ next value between = .ok result after := by
  change EStateM.bind first next workspace = _ at ended
  unfold EStateM.bind at ended
  cases outcome : first workspace with
  | ok value between =>
      rw [outcome] at ended
      exact ⟨value, between, rfl, ended⟩
  | error fault between =>
      rw [outcome] at ended
      cases ended

/-- What follows a computation starts with one of its values. -/
theorem bind
    {first : Compile α}
    {next : α → Compile β}
    (firstGives : Gives first values)
    (nextGives : ∀ value, values value → Gives (next value) results) :
    Gives (first >>= next) results := by
  intro workspace result after ended
  obtain ⟨value, between, reached, followed⟩ := exists_of_bind ended
  exact nextGives value (firstGives workspace value between reached) between result after followed

/-- What follows a computation of which nothing is known. -/
theorem then_
    {first : Compile α}
    {next : α → Compile β}
    (nextGives : ∀ value, Gives (next value) results) :
    Gives (first >>= next) results :=
  (any first).bind fun value _ => nextGives value

/-- A change of the state in any case does not matter to the value. -/
theorem thenAlways
    {computation : Compile α}
    (gives : Gives computation values)
    (change : CompilerState → CompilerState) :
    Gives (Compile.thenAlways computation change) values := by
  intro workspace value after ended
  unfold Compile.thenAlways at ended
  cases outcome : computation workspace with
  | ok found between =>
      rw [outcome] at ended
      cases ended
      exact gives workspace _ between outcome
  | error fault between =>
      rw [outcome] at ended
      cases ended

/-- What is remembered before does not matter to the value either. -/
theorem withFreshMemory
    {computation : Compile α}
    (gives : Gives computation values) :
    Gives (Compile.withFreshMemory computation) values := by
  intro workspace value after ended
  unfold Compile.withFreshMemory at ended
  cases outcome : computation { workspace with unclosed := [] } with
  | ok found between =>
      rw [outcome] at ended
      cases ended
      exact gives _ _ between outcome
  | error fault between =>
      rw [outcome] at ended
      cases ended

/-- Trying a rule gives what the rule gives. -/
theorem attempt
    {rule : Rule}
    {cursor : Cursor}
    {values : Option Cursor → Prop}
    (gives : Gives (rule cursor) values) :
    Gives (Compile.attempt rule cursor) values := by
  refine then_ fun _ => gives.bind ?_
  rintro (_ | next) given
  · exact then_ fun _ => pure given
  · exact pure given

/-- Computations that go on alike from all values that the first may give are the same. -/
theorem bind_congr
    {first : Compile α}
    {next other : α → Compile β}
    (firstGives : Gives first values)
    (same : ∀ value, values value → next value = other value) :
    (first >>= next) = (first >>= other) := by
  funext workspace
  change EStateM.bind first next workspace = EStateM.bind first other workspace
  unfold EStateM.bind
  cases outcome : first workspace with
  | ok value between =>
      exact congrFun (same value (firstGives workspace value between outcome)) between
  | error fault between =>
      rfl

end Gives

namespace GoesTo

variable {target : Cursor}

/-- Where a rule does not apply, it leads nowhere else. -/
theorem none : GoesTo (Pure.pure Option.none) target :=
  Gives.pure (by simp)

/-- A rule that leads somewhere leads only there. -/
theorem some : GoesTo (Pure.pure (Option.some target)) target :=
  Gives.pure (by simp)

/-- What follows a computation of which nothing is known. -/
theorem then_
    {first : Compile α}
    {next : α → Compile (Option Cursor)}
    (nextGoes : ∀ value, GoesTo (next value) target) :
    GoesTo (first >>= next) target :=
  Gives.then_ nextGoes

/-- A rule that is followed by something leads there, or else what follows is told so. -/
theorem bind
    {first : Compile (Option Cursor)}
    {next : Option Cursor → Compile β}
    {results : β → Prop}
    (firstGoes : GoesTo first target)
    (notApplied : Gives (next Option.none) results)
    (applied : Gives (next (Option.some target)) results) :
    Gives (first >>= next) results := by
  refine Gives.bind firstGoes ?_
  rintro (_ | found) leads
  · exact notApplied
  · obtain rfl := leads found rfl
    exact applied

/-- Computations that go on alike where a rule leads, and where it does not apply, are the same. -/
theorem bind_congr
    {first : Compile (Option Cursor)}
    {next other : Option Cursor → Compile β}
    (firstGoes : GoesTo first target)
    (notApplied : next Option.none = other Option.none)
    (applied : next (Option.some target) = other (Option.some target)) :
    (first >>= next) = (first >>= other) := by
  refine Gives.bind_congr firstGoes ?_
  rintro (_ | found) leads
  · exact notApplied
  · obtain rfl := leads found rfl
    exact applied

end GoesTo

end DocMarkup.Compile
