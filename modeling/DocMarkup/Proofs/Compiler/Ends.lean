import Mathlib.Data.List.Forall2
import DocMarkup.Compiler.Workspace
import DocMarkup.Proofs.Compiler.Extension

namespace DocMarkup.Compile

/-!
# How computations end

A computation from a given state ends with a fault or with a result in a new
state. The statements about rules are put together from those about the steps of
the rule, in the order in which the steps are taken. Trying a rule restores the
state exactly if the rule does not apply, as long as the rule only adds to it.

A computation may be watched: it is then compared with the same computation
without the watch, and may only differ from it by raising the alarm.
-/

/-- The fault that a watch raises. No rule raises it on its own. -/
def alarm : Fault :=
  .documentScope

/--
From a state, a computation ends as a reference does or with the alarm. It ends
with one of some faults or with one of some results.
-/
def Ends
    (before : CompilerState)
    (computation reference : Compile α)
    (faults : Fault → Prop)
    (results : α → CompilerState → Prop) :
    Prop :=
  ∀ workspace : Workspace,
    workspace.state = before →
      (computation workspace = reference workspace ∨
        ∃ after, computation workspace = .error alarm after) ∧
      match computation workspace with
      | .ok value after => results value after.state
      | .error fault _ => faults fault

namespace Ends

variable {before : CompilerState} {faults : Fault → Prop}

/-- What is known about an end holds of every weaker description of it. -/
theorem imp
    {computation reference : Compile α}
    {narrowFaults : Fault → Prop}
    {narrowResults results : α → CompilerState → Prop}
    (ends : Ends before computation reference narrowFaults narrowResults)
    (widenFaults : ∀ fault, narrowFaults fault → faults fault)
    (widenResults : ∀ value after, narrowResults value after → results value after) :
    Ends before computation reference faults results := by
  intro workspace starts
  obtain ⟨follows, reached⟩ := ends workspace starts
  refine ⟨follows, ?_⟩
  cases outcome : computation workspace with
  | ok value after =>
      rw [outcome] at reached
      exact widenResults value after.state reached
  | error fault after =>
      rw [outcome] at reached
      exact widenFaults fault reached

/-- Where the alarm is not among the faults, a computation is the same as its reference. -/
theorem eq_reference
    {computation reference : Compile α}
    {results : α → CompilerState → Prop}
    (ends : Ends before computation reference faults results)
    (noAlarm : ¬ faults alarm)
    {workspace : Workspace}
    (starts : workspace.state = before) :
    computation workspace = reference workspace := by
  obtain ⟨same | ⟨after, isAlarm⟩, reached⟩ := ends workspace starts
  · exact same
  · rw [isAlarm] at reached
    exact (noAlarm reached).elim

/-- A result that is reached is one of the results. -/
theorem of_ok
    {computation reference : Compile α}
    {results : α → CompilerState → Prop}
    (ends : Ends before computation reference faults results)
    {workspace after : Workspace}
    (starts : workspace.state = before)
    {value : α}
    (outcome : computation workspace = .ok value after) :
    results value after.state := by
  have reached := (ends workspace starts).2
  rw [outcome] at reached
  exact reached

/-- A fault that is met is one of the faults. -/
theorem of_error
    {computation reference : Compile α}
    {results : α → CompilerState → Prop}
    (ends : Ends before computation reference faults results)
    {workspace after : Workspace}
    (starts : workspace.state = before)
    {fault : Fault}
    (outcome : computation workspace = .error fault after) :
    faults fault := by
  have reached := (ends workspace starts).2
  rw [outcome] at reached
  exact reached

/-- A value is a result in an unchanged state. -/
theorem pure
    {value : α}
    {results : α → CompilerState → Prop}
    (holds : results value before) :
    Ends before (Pure.pure value) (Pure.pure value) faults results := by
  rintro workspace rfl
  exact ⟨.inl rfl, holds⟩

/-- A fault that is raised is the end. -/
theorem throw
    {fault : Fault}
    {results : α → CompilerState → Prop}
    (holds : faults fault) :
    Ends before (MonadExcept.throw fault) (MonadExcept.throw fault) faults results := by
  rintro workspace rfl
  exact ⟨.inl rfl, holds⟩

/-- What follows a computation starts where that computation ended. -/
theorem bind
    {first firstReference : Compile α}
    {next nextReference : α → Compile β}
    {between : α → CompilerState → Prop}
    {results : β → CompilerState → Prop}
    (firstEnds : Ends before first firstReference faults between)
    (nextEnds :
      ∀ value middle,
        between value middle →
        Ends middle (next value) (nextReference value) faults results) :
    Ends before (first >>= next) (firstReference >>= nextReference) faults results := by
  intro workspace starts
  obtain ⟨follows, reached⟩ := firstEnds workspace starts
  change
    (EStateM.bind first next workspace =
          EStateM.bind firstReference nextReference workspace ∨
        ∃ after, EStateM.bind first next workspace = .error alarm after) ∧
      match EStateM.bind first next workspace with
      | .ok value after => results value after.state
      | .error fault _ => faults fault
  unfold EStateM.bind
  cases outcome : first workspace with
  | ok value after =>
      rw [outcome] at follows reached
      obtain same | ⟨_, isAlarm⟩ := follows
      · rw [← same]
        exact nextEnds value after.state reached after rfl
      · cases isAlarm
  | error fault after =>
      rw [outcome] at follows reached
      obtain same | ⟨_, isAlarm⟩ := follows
      · rw [← same]
        exact ⟨.inl rfl, reached⟩
      · cases isAlarm
        exact ⟨.inr ⟨after, rfl⟩, reached⟩

/-- Looking at the state gives it and leaves it. -/
theorem state
    {next nextReference : CompilerState → Compile α}
    {results : α → CompilerState → Prop}
    (nextEnds : Ends before (next before) (nextReference before) faults results) :
    Ends before (Compile.state >>= next) (Compile.state >>= nextReference) faults results := by
  rintro workspace rfl
  exact nextEnds workspace rfl

/-- A computation may look at the state where its reference does not. -/
theorem look
    {next : CompilerState → Compile α}
    {reference : Compile α}
    {results : α → CompilerState → Prop}
    (nextEnds : Ends before (next before) reference faults results) :
    Ends before (Compile.state >>= next) reference faults results := by
  rintro workspace rfl
  exact nextEnds workspace rfl

/-- A change of the state is a result of its own. -/
theorem update
    {change : CompilerState → CompilerState}
    {results : Unit → CompilerState → Prop}
    (holds : results () (change before)) :
    Ends before (Compile.update change) (Compile.update change) faults results := by
  rintro workspace rfl
  exact ⟨.inl rfl, holds⟩

/-- What follows a change starts in the changed state. -/
theorem updateThen
    {change : CompilerState → CompilerState}
    {next nextReference : Unit → Compile α}
    {results : α → CompilerState → Prop}
    (nextEnds : Ends (change before) (next ()) (nextReference ()) faults results) :
    Ends before (Compile.update change >>= next) (Compile.update change >>= nextReference)
      faults results := by
  rintro workspace rfl
  exact nextEnds { workspace with state := change workspace.state } rfl

/-- A change that is made in any case is made after the computation. -/
theorem thenAlways
    {computation reference : Compile α}
    {change : CompilerState → CompilerState}
    {results : α → CompilerState → Prop}
    (ends :
      Ends before computation reference faults fun value after => results value (change after)) :
    Ends before (Compile.thenAlways computation change) (Compile.thenAlways reference change)
      faults results := by
  intro workspace starts
  obtain ⟨follows, reached⟩ := ends workspace starts
  unfold Compile.thenAlways
  cases outcome : computation workspace with
  | ok value after =>
      rw [outcome] at follows reached
      obtain same | ⟨_, isAlarm⟩ := follows
      · rw [← same]
        exact ⟨.inl rfl, reached⟩
      · cases isAlarm
  | error fault after =>
      rw [outcome] at follows reached
      obtain same | ⟨_, isAlarm⟩ := follows
      · rw [← same]
        exact ⟨.inl rfl, reached⟩
      · cases isAlarm
        exact ⟨.inr ⟨_, rfl⟩, reached⟩

/-- The memory of unclosed brackets does not matter to the state. -/
theorem withFreshMemory
    {computation reference : Compile α}
    {results : α → CompilerState → Prop}
    (ends : Ends before computation reference faults results) :
    Ends before (Compile.withFreshMemory computation) (Compile.withFreshMemory reference)
      faults results := by
  intro workspace starts
  obtain ⟨follows, reached⟩ := ends { workspace with unclosed := [] } starts
  unfold Compile.withFreshMemory
  cases outcome : computation { workspace with unclosed := [] } with
  | ok value after =>
      rw [outcome] at follows reached
      obtain same | ⟨_, isAlarm⟩ := follows
      · rw [← same]
        exact ⟨.inl rfl, reached⟩
      · cases isAlarm
  | error fault after =>
      rw [outcome] at follows reached
      obtain same | ⟨_, isAlarm⟩ := follows
      · rw [← same]
        exact ⟨.inl rfl, reached⟩
      · cases isAlarm
        exact ⟨.inr ⟨_, rfl⟩, reached⟩

/-- Asking the memory of unclosed brackets leaves the state, whatever the answer. -/
theorem isKnownUnclosed
    (cursor : Cursor)
    {next nextReference : Bool → Compile α}
    {results : α → CompilerState → Prop}
    (nextEnds : ∀ known, Ends before (next known) (nextReference known) faults results) :
    Ends before (Compile.isKnownUnclosed cursor >>= next)
      (Compile.isKnownUnclosed cursor >>= nextReference) faults results := by
  rintro workspace rfl
  exact nextEnds _ workspace rfl

/-- Remembering an unclosed bracket leaves the state. -/
theorem rememberUnclosed
    (cursor : Cursor)
    {next nextReference : Unit → Compile α}
    {results : α → CompilerState → Prop}
    (nextEnds : Ends before (next ()) (nextReference ()) faults results) :
    Ends before (Compile.rememberUnclosed cursor >>= next)
      (Compile.rememberUnclosed cursor >>= nextReference) faults results := by
  rintro workspace rfl
  exact nextEnds { workspace with unclosed := cursor.textPlace :: workspace.unclosed } rfl

/-- Noting which paths were asked for leaves the state. -/
theorem consult
    (paths : List Path)
    {next nextReference : Unit → Compile α}
    {results : α → CompilerState → Prop}
    (nextEnds : Ends before (next ()) (nextReference ()) faults results) :
    Ends before (Compile.consult paths >>= next) (Compile.consult paths >>= nextReference)
      faults results := by
  rintro workspace rfl
  exact nextEnds { workspace with consulted := paths ++ workspace.consulted } rfl

/-- A value of a path computation is gone on with, and its fault ends everything. -/
theorem ofPath
    {value : Except PathFault α}
    {next nextReference : α → Compile β}
    {results : β → CompilerState → Prop}
    (onFault : ∀ fault, value = .error fault → faults (.path fault))
    (nextEnds :
      ∀ found, value = .ok found → Ends before (next found) (nextReference found) faults results) :
    Ends before (Compile.ofPath value >>= next) (Compile.ofPath value >>= nextReference)
      faults results := by
  cases value with
  | ok found =>
      exact nextEnds found rfl
  | error fault =>
      rintro workspace rfl
      exact ⟨.inl rfl, onFault fault rfl⟩

end Ends

/-- How a rule ends: it only added to the state if it does not apply. -/
def Settled
    (before : CompilerState)
    (applied : Cursor → CompilerState → Prop) :
    Option Cursor →
    CompilerState →
    Prop
  | none, after => before.Precedes after
  | some next, after => applied next after

/-- A rule whose last step may give a cursor has settled if it does what it should in that case. -/
theorem Settled.of_last
    {before after : CompilerState}
    {applied : Cursor → CompilerState → Prop}
    {last : Option Cursor}
    (precedes : before.Precedes after)
    (holds : ∀ next, last = some next → applied next after) :
    Settled before applied last after := by
  cases last with
  | none =>
      exact precedes
  | some next =>
      exact holds next rfl

/-- A rule that has done something has done every weaker thing. -/
theorem Settled.imp
    {before after : CompilerState}
    {narrow wide : Cursor → CompilerState → Prop}
    {last : Option Cursor}
    (widen : ∀ next, narrow next after → wide next after)
    (settled : Settled before narrow last after) :
    Settled before wide last after := by
  cases last with
  | none =>
      exact settled
  | some next =>
      exact widen next settled

/-- How trying a rule ends: the state is as it was if the rule does not apply. -/
def Restored
    (before : CompilerState)
    (applied : Cursor → CompilerState → Prop) :
    Option Cursor →
    CompilerState →
    Prop
  | none, after => after = before
  | some next, after => applied next after

namespace Ends

variable {before : CompilerState} {faults : Fault → Prop} {cursor : Cursor}
  {applied : Cursor → CompilerState → Prop}

/-- Trying a rule restores the state if the rule does not apply. -/
theorem attempt
    {rule reference : Rule}
    (ruleEnds : Ends before (rule cursor) (reference cursor) faults (Settled before applied)) :
    Ends before (Compile.attempt rule cursor) (Compile.attempt reference cursor)
      faults (Restored before applied) := by
  unfold Compile.attempt
  apply Ends.state
  refine ruleEnds.bind ?_
  rintro (_ | next) middle settled
  · apply Ends.updateThen
    exact Ends.pure (CompilerState.Precedes.rollback settled)
  · exact Ends.pure settled

/-- Trying rules in order restores the state if none of them applies. -/
theorem firstOf
    {rules references : List Rule}
    (rulesEnd :
      List.Forall₂
        (fun rule reference =>
          Ends before (rule cursor) (reference cursor) faults (Settled before applied))
        rules references) :
    Ends before (Compile.firstOf rules cursor) (Compile.firstOf references cursor)
      faults (Restored before applied) := by
  induction rulesEnd with
  | nil =>
      exact Ends.pure rfl
  | cons ruleEnds _ inductionHypothesis =>
      unfold Compile.firstOf
      refine (Ends.attempt ruleEnds).bind ?_
      rintro (_ | next) middle restored
      · obtain rfl : middle = before := restored
        exact inductionHypothesis
      · exact Ends.pure restored

end Ends

/-! ## Computations that meet no fault -/

/-- From a state, a computation meets no fault and ends with one of some results. -/
abbrev Finishes
    (before : CompilerState)
    (computation : Compile α)
    (results : α → CompilerState → Prop) :
    Prop :=
  Ends before computation computation (fun _ => False) results

/-- From a state, a rule does not apply, and only adds to the state before it gives up. -/
abbrev Refuses (before : CompilerState) (attempted : Compile (Option Cursor)) : Prop :=
  Finishes before attempted (Settled before fun _ _ => False)

namespace Finishes

variable {before : CompilerState}

/-- What finishes from a state does so from every workspace in that state. -/
theorem exists_ok
    {workspace : Workspace}
    {computation : Compile α}
    {results : α → CompilerState → Prop}
    (finishes : Finishes workspace.state computation results) :
    ∃ value after, computation workspace = .ok value after ∧ results value after.state := by
  have ended := (finishes workspace rfl).2
  cases outcome : computation workspace with
  | ok value after =>
      rw [outcome] at ended
      exact ⟨value, after, rfl, ended⟩
  | error fault after =>
      rw [outcome] at ended
      exact ended.elim

variable {rule : Rule} {rules : List Rule} {cursor : Cursor}
  {applied : Cursor → CompilerState → Prop}

/-- Trying a rule that applies does what the rule does. -/
theorem attempt
    (applies :
      Finishes before (rule cursor) fun found after => ∃ next ∈ found, applied next after) :
    Finishes before (Compile.attempt rule cursor) fun found after =>
      ∃ next ∈ found, applied next after := by
  apply Ends.state
  refine applies.bind ?_
  rintro _ middle ⟨next, rfl, holds⟩
  exact .pure ⟨next, rfl, holds⟩

/-- Rules of which none applies leave the state as it is. -/
theorem firstOf_none
    (refuse : ∀ rule ∈ rules, Refuses before (rule cursor)) :
    Finishes before (Compile.firstOf rules cursor) fun found after =>
      found = none ∧ after = before := by
  refine (Ends.firstOf (List.forall₂_same.mpr refuse)).imp (fun _ => id) ?_
  rintro (_ | next) after restored
  · exact ⟨rfl, restored⟩
  · exact restored.elim

/-- Of several rules, the first one that applies is used. -/
theorem firstOf
    {others : List Rule}
    (refuse : ∀ rule ∈ rules, Refuses before (rule cursor))
    (applies :
      Finishes before (rule cursor) fun found after => ∃ next ∈ found, applied next after) :
    Finishes before (Compile.firstOf (rules ++ rule :: others) cursor) fun found after =>
      ∃ next ∈ found, applied next after := by
  induction rules with
  | nil =>
      refine applies.attempt.bind ?_
      rintro _ middle ⟨next, rfl, holds⟩
      exact .pure ⟨next, rfl, holds⟩
  | cons first rest inductionHypothesis =>
      rw [List.forall_mem_cons] at refuse
      refine (Ends.attempt refuse.1).bind ?_
      rintro (_ | next) middle restored
      · obtain rfl : middle = before := restored
        exact inductionHypothesis refuse.2
      · exact restored.elim

end Finishes

end DocMarkup.Compile
