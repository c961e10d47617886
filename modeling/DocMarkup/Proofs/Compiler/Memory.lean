import Mathlib.Data.List.Forall2
import DocMarkup.Proofs.Compiler.Value

namespace DocMarkup.Compile

/-!
# What computations remember

Rules add places to the memory of unclosed brackets and never take one out, whatever happens
to the state. A computation is compared with one that remembers less: where what is known to
the first is found out anew by the second, both give up, and trying a rule takes the state
back in either case. Everywhere else they come to the same.
-/

/-- The workspace that is left when a computation has ended, be it with a fault. -/
def workspaceAfter : EStateM.Result Fault Workspace α → Workspace
  | .ok _ after => after
  | .error _ after => after

/-! ## What is added to the memory -/

/-- Nothing is forgotten, and all places that are added have a property. -/
structure Remembers (property : TextPlace → Prop) (computation : Compile α) : Prop where
  after : ∀ workspace, ∃ found,
    (workspaceAfter (computation workspace)).unclosed = found ++ workspace.unclosed ∧
      ∀ place ∈ found, property place

namespace Remembers

variable {property : TextPlace → Prop} {computation : Compile α} {rule : Rule}
  {rules : List Rule} {cursor : Cursor}

/-- Nothing new is remembered. -/
theorem of_same
    (same : ∀ workspace, (workspaceAfter (computation workspace)).unclosed = workspace.unclosed) :
    Remembers property computation where
  after workspace := ⟨[], same workspace, List.forall_mem_nil _⟩

/-- What was remembered is still remembered. -/
theorem subset (remembers : Remembers property computation) (workspace : Workspace) :
    workspace.unclosed ⊆ (workspaceAfter (computation workspace)).unclosed := by
  obtain ⟨found, isAfter, _⟩ := remembers.after workspace
  rw [isAfter]
  exact List.subset_append_right found _

/-- If all places had the property, all places have it. -/
theorem forall_mem
    {workspace : Workspace}
    (remembers : Remembers property computation)
    (before : ∀ place ∈ workspace.unclosed, property place) :
    ∀ place ∈ (workspaceAfter (computation workspace)).unclosed, property place := by
  obtain ⟨found, isAfter, areNew⟩ := remembers.after workspace
  rw [isAfter]
  exact List.forall_mem_append.mpr ⟨areNew, before⟩

theorem pure (value : α) : Remembers property (Pure.pure value) :=
  of_same fun _ => rfl

theorem throw (fault : Fault) : Remembers property (MonadExcept.throw fault : Compile α) :=
  of_same fun _ => rfl

theorem state : Remembers property Compile.state :=
  of_same fun _ => rfl

theorem update (change : CompilerState → CompilerState) :
    Remembers property (Compile.update change) :=
  of_same fun _ => rfl

theorem isKnownUnclosed : Remembers property (Compile.isKnownUnclosed cursor) :=
  of_same fun _ => rfl

/-- The place that is added has the property, too. -/
theorem rememberUnclosed (holds : property cursor.textPlace) :
    Remembers property (Compile.rememberUnclosed cursor) where
  after _ := ⟨[cursor.textPlace], rfl, List.forall_mem_singleton.mpr holds⟩

/-- What follows a computation may rely on the value that is given. -/
theorem bindGives
    {next : α → Compile β}
    {values : α → Prop}
    (remembers : Remembers property computation)
    (gives : Gives computation values)
    (nextRemembers : ∀ value, values value → Remembers property (next value)) :
    Remembers property (computation >>= next) := by
  constructor
  intro workspace
  obtain ⟨found, isAfter, areNew⟩ := remembers.after workspace
  show
    ∃ found,
      (workspaceAfter (EStateM.bind computation next workspace)).unclosed =
          found ++ workspace.unclosed ∧
        ∀ place ∈ found, property place
  unfold EStateM.bind
  cases outcome : computation workspace with
  | ok value between =>
      rw [outcome] at isAfter
      obtain ⟨further, isLast, areNewer⟩ :=
        (nextRemembers value (gives workspace value between outcome)).after between
      refine ⟨further ++ found, ?_, List.forall_mem_append.mpr ⟨areNewer, areNew⟩⟩
      rw [List.append_assoc, ← isAfter]
      exact isLast
  | error fault between =>
      rw [outcome] at isAfter
      exact ⟨found, isAfter, areNew⟩

/-- What follows may do so with any value. -/
theorem bind
    {next : α → Compile β}
    (remembers : Remembers property computation)
    (nextRemembers : ∀ value, Remembers property (next value)) :
    Remembers property (computation >>= next) :=
  remembers.bindGives (.any computation) fun value _ => nextRemembers value

/-- A change of the state in any case does not matter to the memory. -/
theorem thenAlways
    (remembers : Remembers property computation)
    (change : CompilerState → CompilerState) :
    Remembers property (Compile.thenAlways computation change) := by
  constructor
  intro workspace
  have after := remembers.after workspace
  unfold Compile.thenAlways
  cases outcome : computation workspace <;> rw [outcome] at after <;> exact after

/-- What is found out with a memory of its own is forgotten. -/
theorem withFreshMemory (computation : Compile α) :
    Remembers property (Compile.withFreshMemory computation) := by
  refine of_same fun workspace => ?_
  unfold Compile.withFreshMemory
  split <;> rfl

/-- Taking the state back does not take back what is remembered. -/
theorem attempt (remembers : Remembers property (rule cursor)) :
    Remembers property (Compile.attempt rule cursor) := by
  refine state.bind fun _ => remembers.bind ?_
  rintro (_ | next)
  · exact (update _).bind fun _ => pure none
  · exact pure (some next)

end Remembers

/-! ## Remembering less -/

/--
How computations end of which the second one remembers less: with the same value or fault in
the same state, or both with a value that is a refusal, or the second one without steps.
-/
inductive SameButMemory (refusal : α → Prop) :
    EStateM.Result Fault Workspace α →
    EStateM.Result Fault Workspace α →
    Prop
  | ok
      (value : α)
      {after forgetful : Workspace}
      (sameState : forgetful.state = after.state)
      (less : forgetful.unclosed ⊆ after.unclosed) :
      SameButMemory refusal (.ok value after) (.ok value forgetful)
  | refused
      {value : α}
      {after forgetful : Workspace}
      (isRefusal : refusal value)
      (less : forgetful.unclosed ⊆ after.unclosed) :
      SameButMemory refusal (.ok value after) (.ok value forgetful)
  | error
      (fault : Fault)
      {after forgetful : Workspace}
      (sameState : forgetful.state = after.state) :
      SameButMemory refusal (.error fault after) (.error fault forgetful)
  | outOfSteps (outcome : EStateM.Result Fault Workspace α) (forgetful : Workspace) :
      SameButMemory refusal outcome (.error .nestedTooDeeply forgetful)

/--
From the same state and with less remembered, a computation comes to the same as another one,
up to refusals, if all places that the other one remembers in the end can be trusted.
-/
structure ForgetsUpTo
    (refusal : α → Prop)
    (property trusted : TextPlace → Prop)
    (computation forgetful : Compile α) :
    Prop extends Remembers property computation where
  same :
    ∀ before less : Workspace,
      less.state = before.state →
        less.unclosed ⊆ before.unclosed →
          (∀ place ∈ before.unclosed, property place) →
            (∀ place ∈ (workspaceAfter (computation before)).unclosed, trusted place) →
              SameButMemory refusal (computation before) (forgetful less)

/-- Computations that come to the same. -/
abbrev Forgets (property trusted : TextPlace → Prop) (computation forgetful : Compile α) : Prop :=
  ForgetsUpTo (fun _ => False) property trusted computation forgetful

/-- Rules that come to the same, apart from what they do to the state if they do not apply. -/
abbrev RuleForgets
    (property trusted : TextPlace → Prop)
    (computation forgetful : Compile (Option Cursor)) :
    Prop :=
  ForgetsUpTo (· = none) property trusted computation forgetful

/-- If a rule does not apply, trying it restores the state. -/
def Restores (cursor : Cursor) (rule : Rule) : Prop :=
  ∀ before after, attempt rule cursor before = .ok none after → after.state = before.state

namespace ForgetsUpTo

variable {refusal : α → Prop} {property trusted : TextPlace → Prop}
  {computation forgetful : Compile α}

/-- What comes to the same does so up to refusals. -/
theorem of_forgets (forgets : Forgets property trusted computation forgetful) :
    ForgetsUpTo refusal property trusted computation forgetful where
  toRemembers := forgets.toRemembers
  same before less sameState isLess sound areTrusted := by
    have reached := forgets.same before less sameState isLess sound areTrusted
    generalize computation before = outcome, forgetful less = other at reached
    cases reached with
    | ok value sameAfter lessAfter => exact .ok value sameAfter lessAfter
    | refused isRefusal => exact isRefusal.elim
    | error fault sameAfter => exact .error fault sameAfter
    | outOfSteps outcome after => exact .outOfSteps outcome after

/-- A computation that neither looks at the memory nor changes it. -/
private theorem of_ok
    (value : CompilerState → α)
    (change : CompilerState → CompilerState)
    (isChange :
      ∀ workspace : Workspace,
        computation workspace =
          .ok (value workspace.state) { workspace with state := change workspace.state }) :
    ForgetsUpTo refusal property trusted computation computation where
  toRemembers := .of_same fun workspace => by rw [isChange]; rfl
  same before less sameState isLess _ _ := by
    rw [isChange, isChange, sameState]
    exact .ok _ rfl isLess

theorem pure (value : α) :
    ForgetsUpTo refusal property trusted (Pure.pure value) (Pure.pure value) :=
  of_ok (fun _ => value) id fun _ => rfl

theorem throw (fault : Fault) :
    ForgetsUpTo refusal property trusted (MonadExcept.throw fault : Compile α)
      (MonadExcept.throw fault) where
  toRemembers := .throw fault
  same _ _ sameState _ _ _ := .error fault sameState

theorem state {refusal : CompilerState → Prop} :
    ForgetsUpTo refusal property trusted Compile.state Compile.state :=
  of_ok id id fun _ => rfl

theorem update {refusal : Unit → Prop} (change : CompilerState → CompilerState) :
    ForgetsUpTo refusal property trusted (Compile.update change) (Compile.update change) :=
  of_ok (fun _ => ()) change fun _ => rfl

theorem consult {refusal : Unit → Prop} (paths : List Path) :
    ForgetsUpTo refusal property trusted (Compile.consult paths) (Compile.consult paths) where
  toRemembers := .of_same fun _ => rfl
  same _ _ sameState isLess _ _ := .ok () sameState isLess

theorem ofPath (value : Except PathFault α) :
    ForgetsUpTo refusal property trusted (Compile.ofPath value) (Compile.ofPath value) := by
  cases value with
  | ok found => exact .pure found
  | error fault => exact .throw (.path fault)

/-- The place that is added has the property, too. -/
theorem rememberUnclosed
    {refusal : Unit → Prop}
    {cursor : Cursor}
    (holds : property cursor.textPlace) :
    ForgetsUpTo refusal property trusted (Compile.rememberUnclosed cursor)
      (Compile.rememberUnclosed cursor) where
  toRemembers := .rememberUnclosed holds
  same _ _ sameState isLess _ _ := .ok () sameState (List.cons_subset_cons _ isLess)

/--
What follows may rely on the values that the first of two computations gives, and refuses
where that one does.
-/
theorem bindUpTo
    {laterRefusal : β → Prop}
    {next forgetfulNext : α → Compile β}
    {values : α → Prop}
    (forgets : ForgetsUpTo refusal property trusted computation forgetful)
    (gives : Gives computation values)
    (nextForgets :
      ∀ value, values value →
        ForgetsUpTo laterRefusal property trusted (next value) (forgetfulNext value))
    (nextRefuses :
      ∀ value, refusal value →
        ∃ last, laterRefusal last ∧
          next value = Pure.pure last ∧ forgetfulNext value = Pure.pure last) :
    ForgetsUpTo laterRefusal property trusted (computation >>= next)
      (forgetful >>= forgetfulNext) where
  toRemembers :=
    forgets.toRemembers.bindGives gives fun value given => (nextForgets value given).toRemembers
  same before less sameState isLess sound areTrusted := by
    change ∀ place ∈ (workspaceAfter (EStateM.bind computation next before)).unclosed, _
      at areTrusted
    show
      SameButMemory _ (EStateM.bind computation next before)
        (EStateM.bind forgetful forgetfulNext less)
    have soundBetween := forgets.forall_mem sound
    unfold EStateM.bind at areTrusted ⊢
    cases outcome : computation before with
    | error fault between =>
        rw [outcome] at areTrusted
        have reached :=
          forgets.same before less sameState isLess sound (by rw [outcome]; exact areTrusted)
        rw [outcome] at reached
        generalize forgetful less = other at reached
        cases reached with
        | error fault sameAfter => exact .error fault sameAfter
        | outOfSteps _ after => exact .outOfSteps _ after
    | ok value between =>
        rw [outcome] at areTrusted soundBetween
        have follows := nextForgets value (gives before value between outcome)
        have trustedBetween : ∀ place ∈ between.unclosed, trusted place :=
          fun place isIn => areTrusted place (follows.subset between isIn)
        have reached :=
          forgets.same before less sameState isLess sound (by rw [outcome]; exact trustedBetween)
        rw [outcome] at reached
        generalize forgetful less = other at reached
        cases reached with
        | ok value sameAfter lessAfter =>
            exact follows.same between _ sameAfter lessAfter soundBetween areTrusted
        | refused isRefusal lessAfter =>
            obtain ⟨last, isLast, refuses, forgetfulRefuses⟩ := nextRefuses value isRefusal
            show SameButMemory _ (next value between) (forgetfulNext value _)
            rw [refuses, forgetfulRefuses]
            exact .refused isLast lessAfter
        | outOfSteps _ after => exact .outOfSteps _ after

theorem bindGives
    {laterRefusal : β → Prop}
    {next forgetfulNext : α → Compile β}
    {values : α → Prop}
    (forgets : Forgets property trusted computation forgetful)
    (gives : Gives computation values)
    (nextForgets :
      ∀ value, values value →
        ForgetsUpTo laterRefusal property trusted (next value) (forgetfulNext value)) :
    ForgetsUpTo laterRefusal property trusted (computation >>= next)
      (forgetful >>= forgetfulNext) :=
  forgets.bindUpTo gives nextForgets fun _ isRefusal => isRefusal.elim

theorem bind
    {laterRefusal : β → Prop}
    {next forgetfulNext : α → Compile β}
    (forgets : Forgets property trusted computation forgetful)
    (nextForgets :
      ∀ value, ForgetsUpTo laterRefusal property trusted (next value) (forgetfulNext value)) :
    ForgetsUpTo laterRefusal property trusted (computation >>= next)
      (forgetful >>= forgetfulNext) :=
  forgets.bindGives (.any computation) fun value _ => nextForgets value

/-- Behind a rule that has to apply. -/
theorem bindRule
    {computation forgetful : Compile (Option Cursor)}
    {next forgetfulNext : Option Cursor → Compile (Option Cursor)}
    (forgets : RuleForgets property trusted computation forgetful)
    (givesUp : next none = Pure.pure none)
    (forgetfulGivesUp : forgetfulNext none = Pure.pure none)
    (applied :
      ∀ found, RuleForgets property trusted (next (some found)) (forgetfulNext (some found))) :
    RuleForgets property trusted (computation >>= next) (forgetful >>= forgetfulNext) := by
  refine forgets.bindUpTo (.any computation) ?_ ?_
  · rintro (_ | found) _
    · rw [givesUp, forgetfulGivesUp]
      exact .pure none
    · exact applied found
  · rintro _ rfl
    exact ⟨none, rfl, givesUp, forgetfulGivesUp⟩

/-- A change of the state in any case is the same change for both. -/
theorem thenAlways
    (forgets : ForgetsUpTo refusal property trusted computation forgetful)
    (change : CompilerState → CompilerState) :
    ForgetsUpTo refusal property trusted (Compile.thenAlways computation change)
      (Compile.thenAlways forgetful change) where
  toRemembers := forgets.toRemembers.thenAlways change
  same before less sameState isLess sound areTrusted := by
    have sameMemory :
        (workspaceAfter (Compile.thenAlways computation change before)).unclosed =
          (workspaceAfter (computation before)).unclosed := by
      unfold Compile.thenAlways
      cases computation before <;> rfl
    rw [sameMemory] at areTrusted
    have reached := forgets.same before less sameState isLess sound areTrusted
    unfold Compile.thenAlways
    generalize computation before = outcome, forgetful less = other at reached
    cases reached with
    | ok value sameAfter lessAfter => exact .ok value (congrArg change sameAfter) lessAfter
    | refused isRefusal lessAfter => exact .refused isRefusal lessAfter
    | error fault sameAfter => exact .error fault (congrArg change sameAfter)
    | outOfSteps outcome after => exact .outOfSteps _ _

/-- The second of two computations may as well start with nothing remembered. -/
theorem withFreshMemory (forgets : ForgetsUpTo refusal property trusted computation forgetful) :
    ForgetsUpTo refusal property trusted computation (Compile.withFreshMemory forgetful) where
  toRemembers := forgets.toRemembers
  same before less sameState isLess sound areTrusted := by
    have kept := forgets.subset before
    have reached :=
      forgets.same before { less with unclosed := [] } sameState (List.nil_subset _) sound
        areTrusted
    unfold Compile.withFreshMemory
    generalize computation before = outcome,
      forgetful { less with unclosed := [] } = other at reached kept
    cases reached with
    | ok value sameAfter => exact .ok value sameAfter (List.Subset.trans isLess kept)
    | refused isRefusal => exact .refused isRefusal (List.Subset.trans isLess kept)
    | error fault sameAfter => exact .error fault sameAfter
    | outOfSteps outcome after => exact .outOfSteps _ _

theorem closeSection (position : Position) :
    Forgets property trusted (Compile.closeSection position) (Compile.closeSection position) := by
  refine state.bind fun before => ?_
  split
  · exact update _
  · refine (update _).bind fun _ => ?_
    split
    · exact throw .noOpenSection
    · exact update _

theorem enterPhrase (cursor : Cursor) :
    Forgets property trusted (Compile.enterPhrase cursor) (Compile.enterPhrase cursor) := by
  refine state.bind fun before => ?_
  split
  · exact (update _).bind fun _ => pure true
  · exact (update _).bind fun _ => pure false

theorem mayExpand (position : Position) (what : String) :
    Forgets property trusted (Compile.mayExpand position what)
      (Compile.mayExpand position what) := by
  refine state.bind fun before => ?_
  split
  · exact pure true
  · exact (update _).bind fun _ => pure false

end ForgetsUpTo

/-! ## Rules -/

namespace RuleForgets

variable {property trusted : TextPlace → Prop} {rule forgetfulRule : Rule}
  {rules forgetfulRules : List Rule} {cursor : Cursor}

/-- Trying a rule that does not apply takes the state back. -/
private theorem attempt_of_none
    {before after : Workspace}
    (outcome : rule cursor before = .ok none after) :
    Compile.attempt rule cursor before =
      .ok none { after with state := after.state.rollback before.state.checkpoint } := by
  show EStateM.bind (rule cursor) _ before = _
  unfold EStateM.bind
  rw [outcome]
  rfl

/-- Otherwise trying a rule is what the rule does. -/
private theorem attempt_of_ne_none
    {before : Workspace}
    (applies : ∀ after, rule cursor before ≠ .ok none after) :
    Compile.attempt rule cursor before = rule cursor before := by
  show EStateM.bind (rule cursor) _ before = _
  unfold EStateM.bind
  cases outcome : rule cursor before with
  | error fault after => rfl
  | ok found after =>
      cases found with
      | none => exact (applies after outcome).elim
      | some next => rfl

/-- Trying a rule adds to the memory what the rule adds. -/
private theorem unclosed_attempt (rule : Rule) (cursor : Cursor) (before : Workspace) :
    (workspaceAfter (Compile.attempt rule cursor before)).unclosed =
      (workspaceAfter (rule cursor before)).unclosed := by
  by_cases refuses : ∃ after, rule cursor before = .ok none after
  · obtain ⟨after, outcome⟩ := refuses
    rw [attempt_of_none outcome, outcome]
    rfl
  · rw [attempt_of_ne_none fun after outcome => refuses ⟨after, outcome⟩]

/-- Trying a rule comes to the same, also where it does not apply. -/
theorem attempt
    (forgets : RuleForgets property trusted (rule cursor) (forgetfulRule cursor))
    (restores : Restores cursor rule)
    (forgetfulRestores : Restores cursor forgetfulRule) :
    Forgets property trusted (Compile.attempt rule cursor)
      (Compile.attempt forgetfulRule cursor) where
  toRemembers := forgets.toRemembers.attempt
  same before less sameState isLess sound areTrusted := by
    rw [unclosed_attempt] at areTrusted
    have reached := forgets.same before less sameState isLess sound areTrusted
    have sameRefusal
        {after forgetful : Workspace}
        (refuses : rule cursor before = .ok none after)
        (forgetfulRefuses : forgetfulRule cursor less = .ok none forgetful)
        (lessAfter : forgetful.unclosed ⊆ after.unclosed) :
        SameButMemory (fun _ => False) (Compile.attempt rule cursor before)
          (Compile.attempt forgetfulRule cursor less) := by
      have restored := restores before _ (attempt_of_none refuses)
      have forgetfulRestored := forgetfulRestores less _ (attempt_of_none forgetfulRefuses)
      rw [attempt_of_none refuses, attempt_of_none forgetfulRefuses]
      exact .ok none (forgetfulRestored.trans (sameState.trans restored.symm)) lessAfter
    generalize isOutcome : rule cursor before = outcome,
      isForgetful : forgetfulRule cursor less = forgetfulOutcome at reached
    cases reached with
    | ok value sameAfter lessAfter =>
        cases value with
        | none => exact sameRefusal isOutcome isForgetful lessAfter
        | some found =>
            rw [attempt_of_ne_none (by simp [isOutcome]),
              attempt_of_ne_none (by simp [isForgetful]), isOutcome, isForgetful]
            exact .ok (some found) sameAfter lessAfter
    | refused isRefusal lessAfter =>
        obtain rfl := isRefusal
        exact sameRefusal isOutcome isForgetful lessAfter
    | error fault sameAfter =>
        rw [attempt_of_ne_none (by simp [isOutcome]),
          attempt_of_ne_none (by simp [isForgetful]), isOutcome, isForgetful]
        exact .error fault sameAfter
    | outOfSteps outcome after =>
        rw [attempt_of_ne_none (by simp [isForgetful] : ∀ _, forgetfulRule cursor less ≠ _),
          isForgetful]
        exact .outOfSteps _ _

/-- Trying rules in order comes to the same. -/
theorem firstOf
    (forget :
      List.Forall₂
        (fun rule forgetfulRule =>
          RuleForgets property trusted (rule cursor) (forgetfulRule cursor))
        rules forgetfulRules)
    (restore : ∀ rule ∈ rules, Restores cursor rule)
    (forgetfulRestore : ∀ rule ∈ forgetfulRules, Restores cursor rule) :
    Forgets property trusted (Compile.firstOf rules cursor)
      (Compile.firstOf forgetfulRules cursor) := by
  induction forget with
  | nil =>
      exact .pure none
  | cons forgets _ inductionHypothesis =>
      rw [List.forall_mem_cons] at restore forgetfulRestore
      refine (forgets.attempt restore.1 forgetfulRestore.1).bind ?_
      rintro (_ | next)
      · exact inductionHypothesis restore.2 forgetfulRestore.2
      · exact .pure (some next)

end RuleForgets

end DocMarkup.Compile
