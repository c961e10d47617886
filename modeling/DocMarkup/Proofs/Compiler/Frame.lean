import DocMarkup.Compiler.Definition
import DocMarkup.Compiler.Structure
import DocMarkup.Compiler.Workspace

namespace DocMarkup

/-!
# Frames

A compilation only adds to its output and to its reports, and never looks back at
what was written or reported before it started. Putting earlier output and reports in
front of a state and changing it is therefore the same as changing it and putting them
in front then.
-/

/-- What was written, reported and asked for before a computation starts. -/
structure Frame where
  events : List Event := []
  diagnostics : List Diagnostic := []
  errorCount : Nat := 0
  warningCount : Nat := 0
  consulted : List Path := []

namespace CompilerState

/-- The state with earlier output and earlier reports in front of its own. -/
def behind (state : CompilerState) (earlier : Frame) : CompilerState :=
  { state with
    events := earlier.events.toArray ++ state.events
    diagnostics := earlier.diagnostics.toArray ++ state.diagnostics
    errorCount := earlier.errorCount + state.errorCount
    warningCount := earlier.warningCount + state.warningCount }

variable (state : CompilerState) (earlier : Frame)

/-- The output of a state with earlier output is both of them. -/
@[simp] theorem events_behind :
    (state.behind earlier).events.toList = earlier.events ++ state.events.toList := by
  simp [behind]

/-- Nothing in front of a state is no difference. -/
@[simp] theorem behind_nothing (consulted : List Path) :
    state.behind { consulted := consulted } = state := by
  simp [behind]

/-! ## What is not output -/

@[simp] theorem macros_behind : (state.behind earlier).macros = state.macros :=
  rfl

@[simp] theorem templates_behind : (state.behind earlier).templates = state.templates :=
  rfl

@[simp] theorem isInNestedBlock_behind :
    (state.behind earlier).isInNestedBlock = state.isInNestedBlock :=
  rfl

@[simp] theorem includeStack_behind :
    (state.behind earlier).includeStack = state.includeStack :=
  rfl

@[simp] theorem sectionLevel_behind :
    (state.behind earlier).sectionLevel = state.sectionLevel :=
  rfl

@[simp] theorem sectionIds_behind : (state.behind earlier).sectionIds = state.sectionIds :=
  rfl

@[simp] theorem phraseDepth_behind : (state.behind earlier).phraseDepth = state.phraseDepth :=
  rfl

@[simp] theorem expansionDepth_behind :
    (state.behind earlier).expansionDepth = state.expansionDepth :=
  rfl

/-! ## Output -/

@[simp] theorem emit_behind (event : Event) :
    (state.behind earlier).emit event = (state.emit event).behind earlier := by
  unfold emit behind
  simp only
  split <;> simp

@[simp] theorem startElement_behind (name : String) (attributes : List Attribute) :
    (state.behind earlier).startElement name attributes =
      (state.startElement name attributes).behind earlier :=
  emit_behind ..

@[simp] theorem endElement_behind (name : String) :
    (state.behind earlier).endElement name = (state.endElement name).behind earlier :=
  emit_behind ..

@[simp] theorem element_behind (name : String) (attributes : List Attribute) :
    (state.behind earlier).element name attributes =
      (state.element name attributes).behind earlier := by
  simp [element]

@[simp] theorem text_behind (content : String) :
    (state.behind earlier).text content = (state.text content).behind earlier := by
  unfold text
  split <;> simp

@[simp] theorem leaf_behind (name content : String) :
    (state.behind earlier).leaf name content = (state.leaf name content).behind earlier := by
  simp [leaf]

@[simp] theorem replay_behind (events : List Event) :
    (state.behind earlier).replay events = (state.replay events).behind earlier := by
  unfold replay
  induction events generalizing state with
  | nil =>
      rfl
  | cons event rest inductionHypothesis =>
      rw [List.foldl_cons, List.foldl_cons, emit_behind, inductionHypothesis]

@[simp] theorem codeBlock_behind (code : String) :
    (state.behind earlier).codeBlock code = (state.codeBlock code).behind earlier :=
  leaf_behind ..

@[simp] theorem inlineCode_behind (code : String) :
    (state.behind earlier).inlineCode code = (state.inlineCode code).behind earlier :=
  leaf_behind ..

@[simp] theorem image_behind (fileref : String) :
    (state.behind earlier).image fileref = (state.image fileref).behind earlier :=
  element_behind ..

@[simp] theorem externalInclusion_behind (name : String) :
    (state.behind earlier).externalInclusion name =
      (state.externalInclusion name).behind earlier :=
  element_behind ..

@[simp] theorem beginParagraph_behind :
    (state.behind earlier).beginParagraph = state.beginParagraph.behind earlier :=
  rfl

@[simp] theorem endParagraph_behind :
    (state.behind earlier).endParagraph = state.endParagraph.behind earlier := by
  unfold endParagraph
  by_cases pending : state.pendingParagraph
  · simp [behind, pending]
  · have pendingBehind : ¬ (state.behind earlier).pendingParagraph := pending
    simp [pending, pendingBehind]

/-! ## Reports -/

@[simp] theorem reportError_behind
    (kind : DiagnosticKind)
    (position : Option Position)
    (message : String) :
    (state.behind earlier).reportError kind position message =
      (state.reportError kind position message).behind earlier := by
  simp [reportError, diagnose, behind, Nat.add_assoc]

@[simp] theorem reportWarning_behind
    (kind : DiagnosticKind)
    (position : Option Position)
    (message : String) :
    (state.behind earlier).reportWarning kind position message =
      (state.reportWarning kind position message).behind earlier := by
  simp [reportWarning, diagnose, behind, Nat.add_assoc]

@[simp] theorem error_behind (position : Position) (message : String) :
    (state.behind earlier).error position message = (state.error position message).behind earlier :=
  reportError_behind ..

@[simp] theorem warning_behind (position : Position) (message : String) :
    (state.behind earlier).warning position message =
      (state.warning position message).behind earlier :=
  reportWarning_behind ..

@[simp] theorem loadFailed_behind (fault : LoadFault) (origin : Option Position) :
    (state.behind earlier).loadFailed fault origin =
      (state.loadFailed fault origin).behind earlier :=
  reportError_behind ..

@[simp] theorem docInfoError_behind (position : Position) :
    (state.behind earlier).docInfoError position = (state.docInfoError position).behind earlier :=
  reportError_behind ..

@[simp] theorem markupError_behind (position : Position) :
    (state.behind earlier).markupError position = (state.markupError position).behind earlier :=
  reportError_behind ..

@[simp] theorem endOfUnit_behind (position : Position) :
    (state.behind earlier).endOfUnit position = (state.endOfUnit position).behind earlier := by
  unfold endOfUnit
  rw [sectionLevel_behind]
  split <;> simp

@[simp] theorem checkRow_behind (position : Position) (cells columns : Nat) :
    (state.behind earlier).checkRow position cells columns =
      (state.checkRow position cells columns).behind earlier := by
  unfold checkRow
  split <;> simp

@[simp] theorem checkVariable_behind (position : Position) (cells : Nat) :
    (state.behind earlier).checkVariable position cells =
      (state.checkVariable position cells).behind earlier := by
  unfold checkVariable
  split <;> simp

@[simp] theorem raw_behind (position : Option Position) (content : String) :
    (state.behind earlier).raw position content = (state.raw position content).behind earlier := by
  unfold raw
  split <;> simp

/-! ## Definitions -/

@[simp] theorem defineMacro_behind (position : Position) (name body : String) :
    (state.behind earlier).defineMacro position name body =
      (state.defineMacro position name body).behind earlier := by
  have defined :
      { state.behind earlier with macros := state.macros.define name body } =
        { state with macros := state.macros.define name body }.behind earlier :=
    rfl
  unfold defineMacro
  simp only [macros_behind, defined]
  split <;> simp

@[simp] theorem defineTemplate_behind (position : Position) (template : Template) :
    (state.behind earlier).defineTemplate position template =
      (state.defineTemplate position template).behind earlier := by
  have defined :
      { state.behind earlier with templates := state.templates.define template } =
        { state with templates := state.templates.define template }.behind earlier :=
    rfl
  unfold defineTemplate
  simp only [templates_behind, defined]
  split <;> simp

@[simp] theorem undefinedName_behind (position : Position) (name : String) :
    (state.behind earlier).undefinedName position name =
      (state.undefinedName position name).behind earlier :=
  error_behind ..

/-! ## Sections, headings and tables -/

/-- The identifier of an element does not depend on the output. -/
@[simp] theorem elementId_behind (given : Option String) (title : String) :
    (state.behind earlier).elementId given title =
      ((state.elementId given title).1, (state.elementId given title).2.behind earlier) :=
  rfl

@[simp] theorem beginSection_behind (given : Option String) (title : String) :
    (state.behind earlier).beginSection given title =
      (state.beginSection given title).behind earlier := by
  unfold beginSection
  rw [elementId_behind]
  generalize state.elementId given title = made
  simp only [← startElement_behind]
  rfl

@[simp] theorem endSectionTitle_behind :
    (state.behind earlier).endSectionTitle = state.endSectionTitle.behind earlier :=
  endElement_behind ..

@[simp] theorem beginNestedBlock_behind (name : String) :
    (state.behind earlier).beginNestedBlock name =
      (state.beginNestedBlock name).behind earlier := by
  unfold beginNestedBlock
  rw [startElement_behind]
  rfl

@[simp] theorem endNestedBlock_behind (name : String) :
    (state.behind earlier).endNestedBlock name = (state.endNestedBlock name).behind earlier :=
  endElement_behind { state with blockNesting := state.blockNesting - 1 } ..

@[simp] theorem beginHeading_behind (level : Option Int) (title : String) :
    (state.behind earlier).beginHeading level title =
      (state.beginHeading level title).behind earlier := by
  unfold beginHeading
  rw [elementId_behind]
  exact startElement_behind ..

@[simp] theorem endHeading_behind :
    (state.behind earlier).endHeading = state.endHeading.behind earlier :=
  endElement_behind ..

@[simp] theorem beginTable_behind (given : Option String) (title : String) (hasTitle : Bool) :
    (state.behind earlier).beginTable given title hasTitle =
      (state.beginTable given title hasTitle).behind earlier := by
  unfold beginTable
  split
  · rw [elementId_behind]
    exact startElement_behind ..
  · exact startElement_behind ..

@[simp] theorem closeSections_behind (sectionIds : List String) :
    (state.behind earlier).closeSections sectionIds =
      (state.closeSections sectionIds).behind earlier := by
  unfold closeSections
  induction sectionIds generalizing state with
  | nil =>
      rfl
  | cons identifier rest inductionHypothesis =>
      rw [List.foldl_cons, List.foldl_cons, endElement_behind, inductionHypothesis]

@[simp] theorem closeDocument_behind :
    (state.behind earlier).closeDocument = state.closeDocument.behind earlier := by
  show ((state.behind earlier).closeSections state.sectionIds).endElement "document" = _
  rw [closeSections_behind, endElement_behind]
  rfl

/-! ## Going back -/

/-- Cutting an array down behind another one is cutting it down at its own size. -/
private theorem shrink_append (first second : Array α) (size : Nat) :
    (first ++ second).shrink (first.size + size) = first ++ second.shrink size := by
  apply Array.toList_inj.mp
  rw [Array.toList_shrink, Array.toList_append, Array.toList_append, Array.toList_shrink,
    ← Array.length_toList, List.take_length_add_append]

/-- Going back to an earlier state leaves what is in front of both. -/
@[simp] theorem rollback_behind (before : CompilerState) :
    (state.behind earlier).rollback (before.behind earlier).checkpoint =
      (state.rollback before.checkpoint).behind earlier := by
  simp only [rollback, checkpoint, behind, Array.size_append, shrink_append]

/-- What was added since an earlier state does not depend on what is in front of both. -/
@[simp] theorem drop_events_behind (before : CompilerState) :
    (state.behind earlier).events.toList.drop (before.behind earlier).events.size =
      state.events.toList.drop before.events.size := by
  rw [← Array.length_toList, events_behind, events_behind, List.length_append, List.drop_append]
  simp

/-- Taking that out again leaves what is in front. -/
@[simp] theorem shrink_events_behind (before : CompilerState) :
    (state.behind earlier).events.shrink (before.behind earlier).events.size =
      earlier.events.toArray ++ state.events.shrink before.events.size := by
  simp only [behind, Array.size_append, shrink_append]

end CompilerState

/-- The workspace with a frame around it. -/
def Workspace.framed (workspace : Workspace) (frame : Frame) : Workspace :=
  { state := workspace.state.behind frame
    unclosed := workspace.unclosed
    consulted := workspace.consulted ++ frame.consulted }

/-- The outcome of a computation with a frame around its workspace. -/
def Compile.framed
    (frame : Frame) :
    EStateM.Result Fault Workspace α →
    EStateM.Result Fault Workspace α
  | .ok value after => .ok value (after.framed frame)
  | .error fault after => .error fault (after.framed frame)

end DocMarkup
