import DocMarkup.Proofs.Compiler.Value
import DocMarkup.Proofs.Mirror.Parser

namespace DocMarkup

/-!
# Reading from any workspace

Mirrored computations start where all reports are about known sources. Earlier reports
can be counted to the frame as well, and then nothing has been reported yet. So from
every workspace the parsers lead on in their text, and from every workspace they come
to the same in a frame.
-/

/-- The frame that two frames make up, of which the second one is around the first. -/
def Frame.enclosedBy (first second : Frame) : Frame where
  events := second.events ++ first.events
  diagnostics := second.diagnostics ++ first.diagnostics
  errorCount := second.errorCount + first.errorCount
  warningCount := second.warningCount + first.warningCount
  consulted := first.consulted ++ second.consulted

namespace CompilerState

/-- Reports may be counted to the frame of a state. -/
theorem withErrors_behind
    (state : CompilerState)
    (earlier : Frame)
    (errors : List Diagnostic) :
    (state.behind earlier).withErrors errors = (state.withErrors errors).behind earlier := by
  simp [withErrors, behind, Nat.add_assoc]

/-- What is in front of two states makes no difference between them. -/
theorem behind_injective
    {first second : CompilerState}
    {earlier : Frame}
    (same : first.behind earlier = second.behind earlier) :
    first = second := by
  cases first
  cases second
  simpa [behind, Array.append_right_inj] using same

end CompilerState

namespace Workspace

variable (workspace : Workspace)

/-- A frame around a frame. -/
theorem framed_framed (first second : Frame) :
    (workspace.framed first).framed second = workspace.framed (first.enclosedBy second) := by
  simp [framed, Frame.enclosedBy, CompilerState.behind, ← Array.append_assoc, Nat.add_assoc]

/-- The workspace before anything was reported. -/
def unreported : Workspace :=
  { workspace with state := { workspace.state with diagnostics := #[] } }

/-- What was reported is a frame. -/
theorem unreported_framed :
    workspace.unreported.framed { diagnostics := workspace.state.diagnostics.toList } =
      workspace := by
  simp [framed, unreported, CompilerState.behind]

/-- There, all reports are about known sources, as there are none. -/
theorem reported_unreported (known : Source → Prop) :
    workspace.unreported.state.Reported known workspace.state.includeStack :=
  ⟨rfl, by simp [unreported]⟩

end Workspace

namespace Compile

/-- A frame around the outcome in a frame. -/
theorem framed_framed
    (outcome : EStateM.Result Fault Workspace α)
    (first second : Frame) :
    framed second (framed first outcome) = framed (first.enclosedBy second) outcome := by
  cases outcome <;> simp only [framed, Workspace.framed_framed]

/-- From every workspace, a computation comes to the same in a frame. -/
def IgnoresFrames (computation : Compile α) : Prop :=
  ∀ workspace frame, computation (workspace.framed frame) = framed frame (computation workspace)

/-- Errors that were reported before are no matter to a computation that ignores frames. -/
theorem IgnoresFrames.behind_errors
    {computation : Compile α}
    (ignores : IgnoresFrames computation)
    {workspace between : Workspace}
    {value : α}
    (ended : computation workspace = .ok value between)
    {events : List Event}
    {errors : List Diagnostic}
    (isBetween : between.state = (workspace.state.replay events).withErrors errors)
    (earlier : List Diagnostic) :
    computation { workspace with state := workspace.state.withErrors earlier } =
      .ok value
        { between with
          state := ((workspace.state.withErrors earlier).replay events).withErrors errors } := by
  let silent : Workspace :=
    { workspace with state := { workspace.state with diagnostics := #[], errorCount := 0 } }
  let reports : Frame :=
    { diagnostics := workspace.state.diagnostics.toList
      errorCount := workspace.state.errorCount }
  let moreReports : Frame :=
    { diagnostics := workspace.state.diagnostics.toList ++ earlier
      errorCount := workspace.state.errorCount + earlier.length }
  have isSilent : workspace = silent.framed reports := by
    simp [silent, reports, Workspace.framed, CompilerState.behind]
  have isReported :
      { workspace with state := workspace.state.withErrors earlier } =
        silent.framed moreReports := by
    simp [silent, moreReports, Workspace.framed, CompilerState.behind, CompilerState.withErrors]
  have sameState : workspace.state.withErrors earlier = silent.state.behind moreReports :=
    congrArg Workspace.state isReported
  rw [isReported, ignores]
  rw [isSilent, ignores] at ended
  cases outcome : computation silent with
  | error fault after =>
      rw [outcome] at ended
      cases ended
  | ok found after =>
      rw [outcome] at ended
      cases ended
      have isAfter : after.state = (silent.state.replay events).withErrors errors := by
        refine CompilerState.behind_injective (show after.state.behind reports = _ from ?_)
        rw [← CompilerState.withErrors_behind, ← CompilerState.replay_behind]
        exact isBetween.trans (by rw [congrArg Workspace.state isSilent]; rfl)
      have isFramed :
          after.state.behind moreReports =
            ((workspace.state.withErrors earlier).replay events).withErrors errors := by
        rw [isAfter, sameState, CompilerState.replay_behind, CompilerState.withErrors_behind]
      rw [← isFramed]
      rfl

namespace Mirrors

variable {computation : Compile α} {results : α → Prop}

/-- A computation that mirrors itself in every frame ignores frames. -/
theorem ignoresFrames
    (mirrors : ∀ frame stack, Mirrors { frame := frame } stack computation computation results) :
    IgnoresFrames computation := by
  intro workspace frame
  let reports : Frame := { diagnostics := workspace.state.diagnostics.toList }
  have nothingReported := workspace.reported_unreported fun _ => True
  calc
    computation (workspace.framed frame)
    _ = computation (workspace.unreported.framed (reports.enclosedBy frame)) := by
      rw [← Workspace.framed_framed, Workspace.unreported_framed]
    _ = framed (reports.enclosedBy frame) (computation workspace.unreported) :=
      (mirrors _ _ workspace.unreported nothingReported).1
    _ = framed frame (framed reports (computation workspace.unreported)) :=
      (framed_framed ..).symm
    _ = framed frame (computation (workspace.unreported.framed reports)) := by
      rw [(mirrors reports _ workspace.unreported nothingReported).1]
    _ = framed frame (computation workspace) := by
      rw [Workspace.unreported_framed]

/-- It gives its results from every workspace. -/
theorem gives
    (mirrors : ∀ frame stack, Mirrors { frame := frame } stack computation computation results) :
    Gives computation results := by
  intro workspace value after ended
  let reports : Frame := { diagnostics := workspace.state.diagnostics.toList }
  obtain ⟨same, reached⟩ :=
    mirrors reports _ workspace.unreported (workspace.reported_unreported fun _ => True)
  rw [Workspace.unreported_framed, ended] at same
  cases outcome : computation workspace.unreported with
  | ok found between =>
      rw [outcome] at same
      cases same
      exact (reached _ _ outcome).1
  | error fault between =>
      rw [outcome] at same
      cases same

end Mirrors

end Compile

namespace Inner

open Compile

variable (environment : Environment) (steps : Nat)

/-- The parsers mirror themselves in every frame. -/
theorem within_mirrors_itself (frame : Frame) (stack : List Path) :
    (Inner.within environment steps).Mirrors { frame := frame } stack
      (Inner.within environment steps) :=
  Inner.within_mirrors (Setting.isClosed_of_all frame) rfl rfl
    (Setting.knowsFiles_of_all frame environment.files environment.includePaths) steps stack
    (List.nil_subset _) fun _ _ => trivial

/-- From every workspace, a phrase leads on in its text. -/
theorem within_phraseFrom_leads
    (mode : PhraseMode)
    (depth : Nat)
    (buffer : String)
    {cursor : Cursor}
    (inText : cursor.offset ≤ cursor.source.text.length) :
    Gives ((Inner.within environment steps).phraseFrom mode depth buffer cursor)
      fun result => cursor.Leads result.2 :=
  Mirrors.gives fun frame stack =>
    (within_mirrors_itself environment steps frame stack).phraseFrom mode depth buffer
      ⟨trivial, inText⟩

/-- So do blocks. -/
theorem within_blocks_leads
    (nested : Bool)
    {cursor : Cursor}
    (inText : cursor.offset ≤ cursor.source.text.length) :
    Gives ((Inner.within environment steps).blocks nested cursor) cursor.Leads :=
  Mirrors.gives fun frame stack =>
    (within_mirrors_itself environment steps frame stack).blocks nested ⟨trivial, inText⟩

/-- From every workspace, an expansion comes to the same in a frame. -/
theorem within_expansion_ignoresFrames (source : Source) (block : Bool) :
    IgnoresFrames ((Inner.within environment steps).expansion source block) :=
  Mirrors.ignoresFrames fun frame stack =>
    expansion_mirrors (within_mirrors_itself environment steps frame stack) trivial block

end Inner

end DocMarkup
