import Mathlib.Data.List.Forall2
import DocMarkup.Proofs.Compiler.Frame
import DocMarkup.Proofs.Grammar.Leading

namespace DocMarkup

/-!
# Computations in a frame

A computation is compared with one from the same workspace with a frame around it.
They mirror one another if both come to the same, and the frame is still around
what the second one leaves. On the way every diagnostic is followed to the source
that it is about, which must be one of those that are known.
-/

/-- How a name that stands for nothing is reported. -/
def undefinedMessage (name : String) : String :=
  "Undefined template or macro '" ++ name ++ "'"

/-- The name stands between quotes. -/
theorem toList_undefinedMessage (name : String) :
    (undefinedMessage name).toList =
      "Undefined template or macro '".toList ++ (name.toList ++ [Text.singleQuote]) := by
  have quote : "'".toList = [Text.singleQuote] := rfl
  unfold undefinedMessage
  rw [String.toList_append, String.toList_append, List.append_assoc, quote]

/-- Other reports start differently. -/
theorem ne_undefinedMessage
    {message : String}
    (differs : message.toList.take 3 ≠ ['U', 'n', 'd'])
    (name : String) :
    message ≠ undefinedMessage name := by
  rintro rfl
  have front : "Undefined template or macro '".toList.take 3 = ['U', 'n', 'd'] := by
    decide
  rw [toList_undefinedMessage, List.take_append_of_le_length (by decide)] at differs
  exact differs front

/-- Or they end differently. -/
theorem ne_undefinedMessage_of_last
    {message : String}
    (differs : message.toList.getLast? ≠ some Text.singleQuote)
    (name : String) :
    message ≠ undefinedMessage name := by
  rintro rfl
  rw [toList_undefinedMessage, ← List.append_assoc, List.getLast?_concat] at differs
  exact differs rfl

/-- A position lies in the text of a known source. -/
def Position.IsIn (known : Source → Prop) (position : Position) : Prop :=
  ∃ source offset,
    known source ∧ offset ≤ source.text.length ∧ position = source.position offset

/--
A diagnostic is about a place in the text of a known source. If it is about a name
that stands for nothing, the bracket and the name stand at that place.
-/
def Diagnostic.IsPlaced (known : Source → Prop) (diagnostic : Diagnostic) : Prop :=
  ∃ source offset,
    known source ∧
      offset ≤ source.text.length ∧
        diagnostic.position = some (source.position offset) ∧
          ∀ name,
            diagnostic.message = undefinedMessage name →
              '[' :: name.toList <+: source.text.toList.drop offset

/-- A cursor is inside the text of a known source. -/
structure Cursor.IsIn (known : Source → Prop) (cursor : Cursor) : Prop where
  source : known cursor.source
  inside : cursor.offset ≤ cursor.source.text.length

namespace Cursor.IsIn

variable {known : Source → Prop} {cursor next : Cursor}

/-- Where a reader leads is inside the same text. -/
theorem leads (isIn : cursor.IsIn known) (leads : cursor.Leads next) : next.IsIn known where
  source := by rw [leads.source]; exact isIn.source
  inside := by rw [leads.source]; exact leads.inside isIn.inside

/-- The position of such a cursor lies there as well. -/
theorem position (isIn : cursor.IsIn known) : cursor.position.IsIn known :=
  ⟨cursor.source, cursor.offset, isIn.source, isIn.inside, cursor.position_eq⟩

/-- The front of a known source is inside its text. -/
theorem start {source : Source} (isKnown : known source) : source.cursor.IsIn known where
  source := isKnown
  inside := Nat.zero_le _

end Cursor.IsIn

namespace CompilerState

variable {known : Source → Prop} {stack : List Path} {state : CompilerState}

/-- The files that are being read are those of a stack, and all diagnostics have their place. -/
def Reported (known : Source → Prop) (stack : List Path) (state : CompilerState) : Prop :=
  state.includeStack = stack ∧
    ∀ diagnostic ∈ state.diagnostics.toList, diagnostic.IsPlaced known

/-! ## Output reports nothing -/

@[simp] theorem reported_emit (event : Event) :
    (state.emit event).Reported known stack ↔ state.Reported known stack :=
  Iff.rfl

@[simp] theorem reported_startElement (name : String) (attributes : List Attribute) :
    (state.startElement name attributes).Reported known stack ↔ state.Reported known stack :=
  Iff.rfl

@[simp] theorem reported_endElement (name : String) :
    (state.endElement name).Reported known stack ↔ state.Reported known stack :=
  Iff.rfl

@[simp] theorem reported_element (name : String) (attributes : List Attribute) :
    (state.element name attributes).Reported known stack ↔ state.Reported known stack :=
  Iff.rfl

@[simp] theorem reported_text (content : String) :
    (state.text content).Reported known stack ↔ state.Reported known stack := by
  unfold text
  split <;> exact Iff.rfl

@[simp] theorem reported_leaf (name content : String) :
    (state.leaf name content).Reported known stack ↔ state.Reported known stack := by
  simp [leaf]

@[simp] theorem reported_replay (events : List Event) :
    (state.replay events).Reported known stack ↔ state.Reported known stack := by
  unfold replay
  induction events generalizing state with
  | nil =>
      exact Iff.rfl
  | cons event rest inductionHypothesis =>
      rw [List.foldl_cons, inductionHypothesis, reported_emit]

@[simp] theorem reported_codeBlock (code : String) :
    (state.codeBlock code).Reported known stack ↔ state.Reported known stack :=
  reported_leaf ..

@[simp] theorem reported_inlineCode (code : String) :
    (state.inlineCode code).Reported known stack ↔ state.Reported known stack :=
  reported_leaf ..

@[simp] theorem reported_image (fileref : String) :
    (state.image fileref).Reported known stack ↔ state.Reported known stack :=
  Iff.rfl

@[simp] theorem reported_externalInclusion (name : String) :
    (state.externalInclusion name).Reported known stack ↔ state.Reported known stack :=
  Iff.rfl

@[simp] theorem reported_beginParagraph :
    state.beginParagraph.Reported known stack ↔ state.Reported known stack :=
  Iff.rfl

@[simp] theorem reported_endParagraph :
    state.endParagraph.Reported known stack ↔ state.Reported known stack := by
  unfold endParagraph
  split <;> exact Iff.rfl

@[simp] theorem reported_beginSection (given : Option String) (title : String) :
    (state.beginSection given title).Reported known stack ↔ state.Reported known stack :=
  Iff.rfl

@[simp] theorem reported_endSectionTitle :
    state.endSectionTitle.Reported known stack ↔ state.Reported known stack :=
  Iff.rfl

@[simp] theorem reported_beginNestedBlock (name : String) :
    (state.beginNestedBlock name).Reported known stack ↔ state.Reported known stack :=
  Iff.rfl

@[simp] theorem reported_endNestedBlock (name : String) :
    (state.endNestedBlock name).Reported known stack ↔ state.Reported known stack :=
  Iff.rfl

@[simp] theorem reported_beginHeading (level : Option Int) (title : String) :
    (state.beginHeading level title).Reported known stack ↔ state.Reported known stack :=
  Iff.rfl

@[simp] theorem reported_endHeading :
    state.endHeading.Reported known stack ↔ state.Reported known stack :=
  Iff.rfl

@[simp] theorem reported_beginTable (given : Option String) (title : String) (hasTitle : Bool) :
    (state.beginTable given title hasTitle).Reported known stack ↔
      state.Reported known stack := by
  unfold beginTable
  split <;> exact Iff.rfl

@[simp] theorem reported_closeSections (sectionIds : List String) :
    (state.closeSections sectionIds).Reported known stack ↔ state.Reported known stack := by
  unfold closeSections
  induction sectionIds generalizing state with
  | nil =>
      exact Iff.rfl
  | cons identifier rest inductionHypothesis =>
      rw [List.foldl_cons, inductionHypothesis, reported_endElement]

@[simp] theorem reported_closeDocument :
    state.closeDocument.Reported known stack ↔ state.Reported known stack := by
  simp [closeDocument]

namespace Reported

/-- Going back forgets diagnostics, and adds none. -/
theorem rollback
    (reported : state.Reported known stack)
    (checkpoint : Checkpoint) :
    (state.rollback checkpoint).Reported known stack := by
  refine ⟨reported.1, fun diagnostic member => reported.2 diagnostic ?_⟩
  rw [CompilerState.rollback, Array.toList_shrink] at member
  exact List.mem_of_mem_take member

/-- A diagnostic that has its place may be added. -/
theorem diagnose
    (reported : state.Reported known stack)
    {severity : Severity}
    {kind : DiagnosticKind}
    {position : Position}
    {message : String}
    (isPlaced :
      ∃ source offset,
        known source ∧
          offset ≤ source.text.length ∧
            position = source.position offset ∧
              ∀ name,
                message = undefinedMessage name →
                  '[' :: name.toList <+: source.text.toList.drop offset) :
    (state.diagnose severity kind (some position) message).Reported known stack := by
  refine ⟨reported.1, fun diagnostic member => ?_⟩
  simp only [CompilerState.diagnose, Array.toList_push, List.mem_append, List.mem_singleton]
    at member
  rcases member with old | rfl
  · exact reported.2 diagnostic old
  · obtain ⟨source, offset, isKnown, inside, rfl, shown⟩ := isPlaced
    exact ⟨source, offset, isKnown, inside, rfl, shown⟩

/-- An error at a known position, unless it is about a name that stands for nothing. -/
theorem reportError
    (reported : state.Reported known stack)
    (kind : DiagnosticKind)
    {position : Position}
    (isIn : position.IsIn known)
    {message : String}
    (isOther : ∀ name, message ≠ undefinedMessage name) :
    (state.reportError kind (some position) message).Reported known stack := by
  obtain ⟨source, offset, isKnown, inside, isPosition⟩ := isIn
  exact diagnose reported
    ⟨source, offset, isKnown, inside, isPosition, fun name same => (isOther name same).elim⟩

/-- A warning at a known position likewise. -/
theorem reportWarning
    (reported : state.Reported known stack)
    (kind : DiagnosticKind)
    {position : Position}
    (isIn : position.IsIn known)
    {message : String}
    (isOther : ∀ name, message ≠ undefinedMessage name) :
    (state.reportWarning kind (some position) message).Reported known stack := by
  obtain ⟨source, offset, isKnown, inside, isPosition⟩ := isIn
  exact diagnose reported
    ⟨source, offset, isKnown, inside, isPosition, fun name same => (isOther name same).elim⟩

/-- A call of something that is not defined is reported where the call stands. -/
theorem undefinedName
    (reported : state.Reported known stack)
    {cursor : Cursor}
    (isIn : cursor.IsIn known)
    {name : String}
    (stands : '[' :: name.toList <+: cursor.rest) :
    (state.undefinedName cursor.position name).Reported known stack := by
  refine diagnose reported
    ⟨cursor.source, cursor.offset, isIn.source, isIn.inside, cursor.position_eq, ?_⟩
  intro other same
  have sameName : name = other := by
    have sameMessage : undefinedMessage name = undefinedMessage other := same
    have characters := congrArg String.toList sameMessage
    rw [toList_undefinedMessage, toList_undefinedMessage] at characters
    exact String.toList_inj.mp (List.append_cancel_right (List.append_cancel_left characters))
  rw [← sameName, ← cursor.rest_eq]
  exact stands

/-- Markup that is not balanced is reported where it stands. -/
theorem raw
    (reported : state.Reported known stack)
    {position : Position}
    (isIn : position.IsIn known)
    (content : String) :
    (state.raw (some position) content).Reported known stack := by
  unfold CompilerState.raw
  split
  · simpa using reported
  · rw [reported_text]
    exact reported.reportError _ isIn (ne_undefinedMessage (by simp))

/-- A row is reported at its bracket. -/
theorem checkRow
    (reported : state.Reported known stack)
    {position : Position}
    (isIn : position.IsIn known)
    (cells columns : Nat) :
    (state.checkRow position cells columns).Reported known stack := by
  unfold CompilerState.checkRow
  split
  · exact reported
  · exact reported.reportError _ isIn (ne_undefinedMessage (by simp))

/-- An entry of a list of variables is reported at its bracket. -/
theorem checkVariable
    (reported : state.Reported known stack)
    {position : Position}
    (isIn : position.IsIn known)
    (cells : Nat) :
    (state.checkVariable position cells).Reported known stack := by
  unfold CompilerState.checkVariable
  split
  · exact reported
  · exact reported.reportError _ isIn (ne_undefinedMessage (by simp))

/-- Macros that are redefined are reported at the later definition. -/
theorem defineMacro
    (reported : state.Reported known stack)
    {position : Position}
    (isIn : position.IsIn known)
    (name body : String) :
    (state.defineMacro position name body).Reported known stack := by
  have defined :
      { state with macros := state.macros.define name body }.Reported known stack :=
    reported
  unfold CompilerState.defineMacro
  simp only
  split
  · exact defined.reportWarning _ isIn (ne_undefinedMessage (by simp))
  · exact defined

/-- So are templates. -/
theorem defineTemplate
    (reported : state.Reported known stack)
    {position : Position}
    (isIn : position.IsIn known)
    (template : Template) :
    (state.defineTemplate position template).Reported known stack := by
  have defined :
      { state with templates := state.templates.define template }.Reported known stack :=
    reported
  unfold CompilerState.defineTemplate
  simp only
  split
  · exact defined.reportWarning _ isIn (ne_undefinedMessage (by simp))
  · exact defined

/-- Sections left open are reported at the end. -/
theorem endOfUnit
    (reported : state.Reported known stack)
    {position : Position}
    (isIn : position.IsIn known) :
    (state.endOfUnit position).Reported known stack := by
  unfold CompilerState.endOfUnit
  split
  · exact reported
  · exact reported.reportWarning _ isIn (ne_undefinedMessage_of_last (by simp [Text.singleQuote]))

end Reported

end CompilerState

/-- What is around computations, and the sources that diagnostics may be about. -/
structure Setting where
  frame : Frame := {}
  known : Source → Prop := fun _ => True

namespace Compile

/--
From the same workspace, without and with the frame of a setting around it, two
computations come to the same. What comes out is one of some results, and all
diagnostics are about known sources then if they were before.
-/
def Mirrors
    (setting : Setting)
    (stack : List Path)
    (computation reflection : Compile α)
    (results : α → Prop) :
    Prop :=
  ∀ workspace : Workspace,
    workspace.state.Reported setting.known stack →
      reflection (workspace.framed setting.frame) = framed setting.frame (computation workspace) ∧
        ∀ value after,
          computation workspace = .ok value after →
            results value ∧ after.state.Reported setting.known stack

/-- A rule gives a cursor of the same text, if it gives one. -/
def LeadsOn (cursor : Cursor) (last : Option Cursor) : Prop :=
  ∀ next, last = some next → cursor.Leads next

/-- A rule that does not apply leads nowhere. -/
theorem LeadsOn.none (cursor : Cursor) : LeadsOn cursor none := by
  simp [LeadsOn]

/-- A rule may give a cursor that it was led to. -/
theorem LeadsOn.some {cursor next : Cursor} (leads : cursor.Leads next) :
    LeadsOn cursor (some next) := by
  rintro other ⟨rfl⟩
  exact leads

/-- The last bracket of a construct is in the same text. -/
theorem LeadsOn.close {cursor next : Cursor} (leads : cursor.Leads next) :
    LeadsOn cursor next.close? :=
  fun _ closed => leads.trans (.close? closed)

/-- What leads on from a cursor leads on from where that cursor was reached. -/
theorem LeadsOn.trans
    {cursor next : Cursor}
    {last : Option Cursor}
    (leads : cursor.Leads next)
    (leadsOn : LeadsOn next last) :
    LeadsOn cursor last :=
  fun _ isLast => leads.trans (leadsOn _ isLast)

/-- A change that is made in any case keeps a frame that is around a computation. -/
theorem thenAlways_framed
    {frame : Frame}
    {computation reflection : Compile α}
    {workspace : Workspace}
    (same : reflection (workspace.framed frame) = framed frame (computation workspace))
    {change changeReflection : CompilerState → CompilerState}
    (sameChange :
      ∀ before,
        changeReflection (before.behind frame) = (change before).behind frame) :
    thenAlways reflection changeReflection (workspace.framed frame) =
      framed frame (thenAlways computation change workspace) := by
  unfold thenAlways
  rw [same]
  cases computation workspace with
  | ok value after => simp only [framed, Workspace.framed, sameChange]
  | error fault after => simp only [framed, Workspace.framed, sameChange]

namespace Mirrors

variable {setting : Setting} {stack : List Path}

/-- Weaker results may be claimed. -/
theorem imp
    {computation reflection : Compile α}
    {narrow results : α → Prop}
    (mirrors : Mirrors setting stack computation reflection narrow)
    (widen : ∀ value, narrow value → results value) :
    Mirrors setting stack computation reflection results := by
  intro workspace reported
  obtain ⟨same, reached⟩ := mirrors workspace reported
  refine ⟨same, fun value after outcome => ?_⟩
  obtain ⟨isResult, stillReported⟩ := reached value after outcome
  exact ⟨widen value isResult, stillReported⟩

theorem pure
    {value : α}
    {results : α → Prop}
    (holds : results value) :
    Mirrors setting stack (Pure.pure value) (Pure.pure value) results := by
  intro workspace reported
  refine ⟨rfl, ?_⟩
  rintro _ _ ⟨⟩
  exact ⟨holds, reported⟩

theorem throw {fault : Fault} {results : α → Prop} :
    Mirrors setting stack (MonadExcept.throw fault) (MonadExcept.throw fault) results := by
  intro workspace _
  refine ⟨rfl, ?_⟩
  rintro _ _ ⟨⟩

/-- What follows two computations that mirror one another follows in both alike. -/
theorem bind
    {first firstReflection : Compile α}
    {next nextReflection : α → Compile β}
    {between : α → Prop}
    {results : β → Prop}
    (firstMirrors : Mirrors setting stack first firstReflection between)
    (nextMirrors :
      ∀ value, between value → Mirrors setting stack (next value) (nextReflection value) results) :
    Mirrors setting stack (first >>= next) (firstReflection >>= nextReflection) results := by
  intro workspace reported
  obtain ⟨same, reached⟩ := firstMirrors workspace reported
  change
    EStateM.bind firstReflection nextReflection (workspace.framed setting.frame) =
        framed setting.frame (EStateM.bind first next workspace) ∧
      ∀ value after,
        EStateM.bind first next workspace = .ok value after →
          results value ∧ after.state.Reported setting.known stack
  unfold EStateM.bind
  rw [same]
  cases outcome : first workspace with
  | ok value after =>
      obtain ⟨isBetween, stillReported⟩ := reached value after outcome
      exact nextMirrors value isBetween after stillReported
  | error fault after =>
      refine ⟨rfl, ?_⟩
      rintro _ _ ⟨⟩

/-- Both look at the state, and the second one sees the earlier output in it. -/
theorem state
    {next nextReflection : CompilerState → Compile α}
    {results : α → Prop}
    (nextMirrors :
      ∀ before,
        before.Reported setting.known stack →
          Mirrors setting stack (next before)
            (nextReflection (before.behind setting.frame)) results) :
    Mirrors setting stack (Compile.state >>= next) (Compile.state >>= nextReflection) results :=
  fun workspace reported => nextMirrors workspace.state reported workspace reported

/-- A change that leaves the earlier output alone is made in both. -/
theorem update
    {change changeReflection : CompilerState → CompilerState}
    {results : Unit → Prop}
    (same :
      ∀ before,
        changeReflection (before.behind setting.frame) =
          (change before).behind setting.frame)
    (keeps :
      ∀ before,
        before.Reported setting.known stack → (change before).Reported setting.known stack)
    (holds : results ()) :
    Mirrors setting stack (Compile.update change) (Compile.update changeReflection) results := by
  intro workspace reported
  refine ⟨?_, ?_⟩
  · show EStateM.Result.ok () _ = EStateM.Result.ok () _
    simp only [Workspace.framed, same]
  · rintro _ _ ⟨⟩
    exact ⟨holds, keeps _ reported⟩

/-- What follows such a change follows in both. -/
theorem updateThen
    {change changeReflection : CompilerState → CompilerState}
    {next nextReflection : Unit → Compile α}
    {results : α → Prop}
    (same :
      ∀ before,
        changeReflection (before.behind setting.frame) =
          (change before).behind setting.frame)
    (keeps :
      ∀ before,
        before.Reported setting.known stack → (change before).Reported setting.known stack)
    (nextMirrors : Mirrors setting stack (next ()) (nextReflection ()) results) :
    Mirrors setting stack (Compile.update change >>= next)
      (Compile.update changeReflection >>= nextReflection) results :=
  (update same keeps trivial : Mirrors _ _ _ _ fun _ => True).bind fun _ _ => nextMirrors

/-- A change that is made in any case is made in both. -/
theorem thenAlways
    {computation reflection : Compile α}
    {change changeReflection : CompilerState → CompilerState}
    {results : α → Prop}
    (mirrors : Mirrors setting stack computation reflection results)
    (same :
      ∀ before,
        changeReflection (before.behind setting.frame) =
          (change before).behind setting.frame)
    (keeps :
      ∀ before,
        before.Reported setting.known stack → (change before).Reported setting.known stack) :
    Mirrors setting stack (Compile.thenAlways computation change)
      (Compile.thenAlways reflection changeReflection) results := by
  intro workspace reported
  obtain ⟨sameOutcome, reached⟩ := mirrors workspace reported
  refine ⟨thenAlways_framed sameOutcome same, ?_⟩
  unfold Compile.thenAlways
  cases outcome : computation workspace with
  | ok value after =>
      obtain ⟨isResult, stillReported⟩ := reached value after outcome
      rintro _ _ ⟨⟩
      exact ⟨isResult, keeps _ stillReported⟩
  | error fault after =>
      rintro _ _ ⟨⟩

/-- The memory of unclosed brackets is the same in both. -/
theorem withFreshMemory
    {computation reflection : Compile α}
    {results : α → Prop}
    (mirrors : Mirrors setting stack computation reflection results) :
    Mirrors setting stack (Compile.withFreshMemory computation)
      (Compile.withFreshMemory reflection) results := by
  intro workspace reported
  obtain ⟨same, reached⟩ := mirrors { workspace with unclosed := [] } reported
  have fresh :
      { workspace.framed setting.frame with unclosed := [] } =
        ({ workspace with unclosed := [] } : Workspace).framed setting.frame :=
    rfl
  unfold Compile.withFreshMemory
  rw [fresh, same]
  cases outcome : computation { workspace with unclosed := [] } with
  | ok value after =>
      obtain ⟨isResult, stillReported⟩ := reached value after outcome
      refine ⟨rfl, ?_⟩
      rintro _ _ ⟨⟩
      exact ⟨isResult, stillReported⟩
  | error fault after =>
      refine ⟨rfl, ?_⟩
      rintro _ _ ⟨⟩

/-- So both get the same answer from it. -/
theorem isKnownUnclosed
    (cursor : Cursor)
    {next nextReflection : Bool → Compile α}
    {results : α → Prop}
    (nextMirrors :
      ∀ isKnown, Mirrors setting stack (next isKnown) (nextReflection isKnown) results) :
    Mirrors setting stack (Compile.isKnownUnclosed cursor >>= next)
      (Compile.isKnownUnclosed cursor >>= nextReflection) results :=
  fun workspace reported =>
    nextMirrors (workspace.unclosed.contains cursor.textPlace) workspace reported

theorem rememberUnclosed
    (cursor : Cursor)
    {next nextReflection : Unit → Compile α}
    {results : α → Prop}
    (nextMirrors : Mirrors setting stack (next ()) (nextReflection ()) results) :
    Mirrors setting stack (Compile.rememberUnclosed cursor >>= next)
      (Compile.rememberUnclosed cursor >>= nextReflection) results :=
  fun workspace reported =>
    nextMirrors { workspace with unclosed := cursor.textPlace :: workspace.unclosed } reported

/-- Paths are noted in front of those that were asked for earlier. -/
theorem consult
    (paths : List Path)
    {next nextReflection : Unit → Compile α}
    {results : α → Prop}
    (nextMirrors : Mirrors setting stack (next ()) (nextReflection ()) results) :
    Mirrors setting stack (Compile.consult paths >>= next)
      (Compile.consult paths >>= nextReflection) results := by
  intro workspace reported
  have framedNote :
      { workspace.framed setting.frame with
          consulted := paths ++ (workspace.framed setting.frame).consulted } =
        ({ workspace with consulted := paths ++ workspace.consulted } : Workspace).framed
          setting.frame := by
    simp [Workspace.framed]
  obtain ⟨same, reached⟩ :=
    nextMirrors { workspace with consulted := paths ++ workspace.consulted } reported
  rw [← framedNote] at same
  exact ⟨same, reached⟩

theorem ofPath
    {value : Except PathFault α}
    {next nextReflection : α → Compile β}
    {results : β → Prop}
    (nextMirrors :
      ∀ found,
        value = .ok found → Mirrors setting stack (next found) (nextReflection found) results) :
    Mirrors setting stack (Compile.ofPath value >>= next) (Compile.ofPath value >>= nextReflection)
      results := by
  cases value with
  | ok found =>
      exact nextMirrors found rfl
  | error fault =>
      intro workspace _
      refine ⟨rfl, ?_⟩
      rintro _ _ ⟨⟩

/-- Going back to the state before takes both back alike. -/
theorem rollback
    (before : CompilerState)
    {next nextReflection : Unit → Compile α}
    {results : α → Prop}
    (nextMirrors : Mirrors setting stack (next ()) (nextReflection ()) results) :
    Mirrors setting stack
      (Compile.update (fun abandoned => abandoned.rollback before.checkpoint) >>= next)
      (Compile.update
          (fun abandoned =>
            abandoned.rollback (before.behind setting.frame).checkpoint) >>=
        nextReflection)
      results :=
  updateThen (fun _ => CompilerState.rollback_behind ..) (fun _ reported => reported.rollback _)
    nextMirrors

/-- A rule that is tried leads on, in both. -/
theorem attempt
    {rule reflection : Rule}
    {cursor : Cursor}
    (mirrors : Mirrors setting stack (rule cursor) (reflection cursor) (LeadsOn cursor)) :
    Mirrors setting stack (Compile.attempt rule cursor) (Compile.attempt reflection cursor)
      (LeadsOn cursor) := by
  unfold Compile.attempt
  refine state fun before _ => ?_
  refine mirrors.bind ?_
  rintro (_ | next) leadsOn
  · exact rollback before (.pure leadsOn)
  · exact .pure leadsOn

/-- So do rules that are tried in order. -/
theorem firstOf
    {rules reflections : List Rule}
    {cursor : Cursor}
    (mirror :
      List.Forall₂
        (fun rule reflection =>
          Mirrors setting stack (rule cursor) (reflection cursor) (LeadsOn cursor))
        rules reflections) :
    Mirrors setting stack (Compile.firstOf rules cursor) (Compile.firstOf reflections cursor)
      (LeadsOn cursor) := by
  induction mirror with
  | nil =>
      exact .pure (.none cursor)
  | cons ruleMirrors _ inductionHypothesis =>
      unfold Compile.firstOf
      refine (attempt ruleMirrors).bind ?_
      rintro (_ | next) leadsOn
      · exact inductionHypothesis
      · exact .pure leadsOn

/-- Closing a section is the same in both. -/
theorem closeSection
    {position : Position}
    (isIn : position.IsIn setting.known)
    {results : Unit → Prop}
    (holds : results ()) :
    Mirrors setting stack (Compile.closeSection position) (Compile.closeSection position)
      results := by
  unfold Compile.closeSection
  refine state fun before _ => ?_
  show Mirrors setting stack _ (if before.sectionLevel = 0 then _ else _) results
  split
  · refine update (by simp) ?_ holds
    exact fun _ reported => reported.reportWarning _ isIn (ne_undefinedMessage (by simp))
  · refine updateThen (fun _ => rfl) (fun _ reported => reported) ?_
    simp only [CompilerState.sectionIds_behind]
    cases before.sectionIds with
    | nil =>
        exact throw
    | cons identifier outer =>
        refine update (fun state => ?_) (fun _ reported => reported) holds
        exact CompilerState.endElement_behind { state with sectionIds := outer } ..

/-- So is entering a bracket of phrase markup. -/
theorem enterPhrase
    {cursor : Cursor}
    (isIn : cursor.IsIn setting.known)
    {results : Bool → Prop}
    (holds : ∀ may, results may) :
    Mirrors setting stack (Compile.enterPhrase cursor) (Compile.enterPhrase cursor) results := by
  unfold Compile.enterPhrase
  refine state fun before _ => ?_
  show Mirrors setting stack _ (if before.phraseDepth < phraseLimit then _ else _) results
  split
  · exact updateThen (fun _ => rfl) (fun _ reported => reported) (.pure (holds _))
  · refine updateThen (by simp) ?_ (.pure (holds _))
    exact fun _ reported => reported.reportError _ isIn.position (ne_undefinedMessage (by simp))

/-- So is asking for one more level of expansion. -/
theorem mayExpand
    {position : Position}
    (isIn : position.IsIn setting.known)
    (what : String)
    {results : Bool → Prop}
    (holds : ∀ may, results may) :
    Mirrors setting stack (Compile.mayExpand position what) (Compile.mayExpand position what)
      results := by
  unfold Compile.mayExpand
  refine state fun before _ => ?_
  show Mirrors setting stack _ (if before.expansionDepth < expansionLimit then _ else _) results
  split
  · exact .pure (holds _)
  · refine updateThen (by simp) ?_ (.pure (holds _))
    exact fun _ reported => reported.reportError _ isIn (ne_undefinedMessage (by simp))

end Mirrors

end Compile

end DocMarkup
