import DocMarkup.Compiler.Predefinition
import DocMarkup.Proofs.Mirror.Unit

namespace DocMarkup

/-!
# Parsers in a frame

Files are included alike, as they are looked for in the same places. The parsers
with any number of steps therefore come to the same in a frame, also where the
other conditions of a compilation are different.

A file that is being read is never read again inside itself. A setting therefore
need not know how such a file would be read if it were included.
-/

/--
A setting knows the files of a tree to which inclusions lead, apart from some that are
being read all the time. It may be known that all open files are regular in some way,
if an inclusion in a regular file leads to a regular file again.
-/
structure Setting.KnowsFiles
    (setting : Setting)
    (files : FileTree)
    (includePaths : List String)
    (regular : Path → Prop)
    (outermost : List Path) :
    Prop where
  leads :
    ∀ {name including path file},
      (∀ source ∈ including, regular source) →
        files.resolveInclude name including includePaths = .ok path →
          files.resolve path = .ok file →
            regular file
  known :
    ∀ {name including path file text},
      (∀ source ∈ including, regular source) →
        files.resolveInclude name including includePaths = .ok path →
          files.resolve path = .ok file →
            file ∉ outermost →
              files.loadSource path = .ok text →
                setting.known { text := text, name := path.shown }

variable {setting : Setting} {regular : Path → Prop} {outermost stack : List Path}
  {inner reflection : Inner} {environment otherEnvironment : Environment}

namespace Compile

/-- A file that is included is read alike. -/
private theorem parseFile_mirrors
    (sameFiles : otherEnvironment.files = environment.files)
    {path file : Path}
    (resolved : environment.files.resolve path = .ok file)
    (isKnown :
      ∀ {text},
        environment.files.loadSource path = .ok text →
          setting.known { text := text, name := path.shown })
    (mirror : inner.Mirrors setting (file :: stack) reflection)
    {position : Position}
    (isIn : position.IsIn setting.known) :
    Mirrors setting stack (parseFile environment inner path true (some position))
      (parseFile otherEnvironment reflection path true (some position))
      fun _ => True := by
  unfold parseFile
  rw [sameFiles]
  refine .consult [path] ?_
  split
  next =>
    exact .throw
  next fault _ =>
    refine .updateThen (by simp) (fun _ reported => ?_) (.pure trivial)
    refine reported.reportError _ isIn (ne_undefinedMessage ?_)
    unfold LoadFault.message
    simp
  next text loaded =>
    refine .ofPath fun found isFound => ?_
    obtain rfl := Except.ok.inj (resolved.symm.trans isFound)
    refine parseUnitOf_mirrors (isKnown loaded) true file ?_
    exact
      parseText_mirrors mirror (isKnown loaded) true fun _ _ _ =>
        processDocInfo_ignored_mirrors rfl _

/-- Its identifier stands for that of the document, if one is given. -/
private theorem parseIncluded_mirrors
    {path : Path}
    {position : Position}
    (fileMirrors :
      Mirrors setting stack (parseFile environment inner path true (some position))
        (parseFile otherEnvironment reflection path true (some position))
        fun _ => True)
    (id : Option String) :
    Mirrors setting stack (parseIncluded environment inner position path id)
      (parseIncluded otherEnvironment reflection position path id)
      fun _ => True := by
  unfold parseIncluded
  refine .state fun before _ => ?_
  have restored :
      Mirrors setting stack
        (thenAlways (parseFile environment inner path true (some position))
          fun state => { state with docId := before.docId, idScope := before.idScope })
        (thenAlways (parseFile otherEnvironment reflection path true (some position))
          fun state => { state with docId := before.docId, idScope := before.idScope })
        fun _ => True :=
    fileMirrors.thenAlways (fun _ => rfl) fun _ reported => reported
  split
  · exact .updateThen (fun _ => rfl) (fun _ reported => reported)
      (restored.bind fun _ _ => .pure trivial)
  · exact restored.bind fun _ _ => .pure trivial

/-- An inclusion is made alike. -/
theorem includeFile_mirrors
    (sameFiles : otherEnvironment.files = environment.files)
    (samePaths : otherEnvironment.includePaths = environment.includePaths)
    (knowsFiles :
      setting.KnowsFiles environment.files environment.includePaths regular outermost)
    (areOpen : outermost ⊆ stack)
    (areRegular : ∀ file ∈ stack, regular file)
    (mirror : ∀ file, regular file → inner.Mirrors setting (file :: stack) reflection)
    {position : Position}
    (isIn : position.IsIn setting.known)
    (name : String)
    (id : Option String) :
    Mirrors setting stack (includeFile environment inner position name id)
      (includeFile otherEnvironment reflection position name id)
      fun _ => True := by
  unfold includeFile
  rw [sameFiles, samePaths]
  refine .state fun before reported => ?_
  simp only [CompilerState.includeStack_behind, reported.1]
  refine .ofPath fun requested expanded => ?_
  refine .consult _ ?_
  refine .ofPath fun file resolved => ?_
  by_cases isOpen : stack.contains file
  · simp only [isOpen, ↓reduceIte]
    refine .update (by simp) (fun _ reported => ?_) trivial
    exact reported.reportError _ isIn (ne_undefinedMessage (by simp))
  simp only [isOpen, Bool.false_eq_true, ↓reduceIte]
  by_cases isTooDeep : includeLimit ≤ stack.length
  · simp only [isTooDeep, ↓reduceIte]
    refine .update (by simp) (fun _ reported => ?_) trivial
    exact reported.reportError _ isIn (ne_undefinedMessage (by simp))
  simp only [isTooDeep, ↓reduceIte]
  have isOther : file ∉ outermost := by
    intro member
    exact isOpen (by simpa using areOpen member)
  have fromRegular : ∀ source ∈ stack.head?, regular source := fun source member =>
    areRegular source (List.mem_of_mem_head? member)
  have named :
      environment.files.resolveInclude name stack.head? environment.includePaths =
        .ok
          (environment.files.firstFile requested
            (environment.files.includePlaces requested stack.head? environment.includePaths)) := by
    simp only [FileTree.resolveInclude, expanded]
  have fileMirrors :=
    parseFile_mirrors sameFiles resolved (knowsFiles.known fromRegular named resolved isOther)
      (mirror file (knowsFiles.leads fromRegular named resolved)) isIn
  exact parseIncluded_mirrors fileMirrors id

end Compile

/-- The parsers come to the same in a frame, with any number of steps. -/
theorem Inner.within_mirrors
    (closed : setting.IsClosed)
    (sameFiles : otherEnvironment.files = environment.files)
    (samePaths : otherEnvironment.includePaths = environment.includePaths)
    (knowsFiles :
      setting.KnowsFiles environment.files environment.includePaths regular outermost)
    (steps : Nat) :
    ∀ stack,
      outermost ⊆ stack →
        (∀ file ∈ stack, regular file) →
          (Inner.within environment steps).Mirrors setting stack
            (Inner.within otherEnvironment steps) := by
  induction steps with
  | zero =>
      intro stack _ _
      exact
        { phraseFrom := fun _ _ _ _ => .throw
          blocks := fun _ _ => .throw
          items := fun _ _ => .throw
          includeFile := fun _ _ _ => .throw }
  | succ steps inductionHypothesis =>
      intro stack areOpen areRegular
      have mirror := inductionHypothesis stack areOpen areRegular
      have mirrorInside :
          ∀ file,
            regular file →
              (Inner.within environment steps).Mirrors setting (file :: stack)
                (Inner.within otherEnvironment steps) :=
        fun file isRegular =>
          inductionHypothesis _ (List.subset_cons_of_subset file areOpen)
            (List.forall_mem_cons.mpr ⟨isRegular, areRegular⟩)
      rw [Inner.within_succ, Inner.within_succ]
      exact
        { phraseFrom := fun mode depth buffer isIn =>
            Phrase.step_mirrors closed mirror isIn mode depth buffer
          blocks := fun nested isIn => Block.step_mirrors closed mirror isIn nested
          items := fun lists isIn => Listing.step_mirrors mirror isIn lists
          includeFile := fun name id isIn =>
            Compile.includeFile_mirrors sameFiles samePaths knowsFiles areOpen areRegular
              mirrorInside isIn name id }

/-- A document is read alike, if the setting knows its text and its fields. -/
theorem Compile.parseUnitOf_document_mirrors
    (closed : setting.IsClosed)
    (knowsFiles :
      setting.KnowsFiles environment.files environment.includePaths regular outermost)
    {file : Path}
    (areOpen : outermost ⊆ file :: stack)
    (areRegular : ∀ source ∈ file :: stack, regular source)
    {source : Source}
    (isKnown : setting.known source)
    (fields :
      ∀ info next complete,
        readDocInfo source.cursor = .ok (info, next) →
          { info with ignore := false }.complete environment.encoding environment.moment =
              .ok complete →
            setting.KnowsFields (source.position 0) complete)
    (steps : Nat) :
    Compile.Mirrors setting stack
      (Compile.parseUnitOf environment (Inner.within environment steps) file source)
      (Compile.parseUnitOf environment (Inner.within environment steps) file source)
      fun _ => True := by
  have mirror :=
    Inner.within_mirrors closed rfl rfl knowsFiles steps (file :: stack) areOpen areRegular
  refine Compile.parseUnitOf_mirrors isKnown false file ?_
  refine Compile.parseText_mirrors mirror isKnown false fun info next read => ?_
  refine Compile.processDocInfo_mirrors mirror ⟨source, 0, isKnown, Nat.zero_le _, rfl⟩ ?_
  exact fun complete => fields info next complete read

/-- Predefinitions are reported where they start. -/
theorem CompilerState.reported_predefineAll
    {known : Source → Prop}
    {state : CompilerState}
    (reported : state.Reported known stack)
    {definitions : List String}
    (areKnown :
      ∀ definition ∈ definitions, known { text := definition, name := predefinitionSource }) :
    (state.predefineAll definitions).Reported known stack := by
  unfold predefineAll
  induction definitions generalizing state with
  | nil =>
      exact reported
  | cons definition others inductionHypothesis =>
      refine inductionHypothesis ?_ fun other member => areKnown other (by simp [member])
      have isKnown := areKnown definition (by simp)
      unfold predefine
      simp only
      split
      next defined isDefined =>
        obtain ⟨_, _, rfl⟩ := Option.map_eq_some_iff.mp isDefined
        exact reported.defineMacro (Cursor.IsIn.start isKnown).position _ _
      next =>
        exact reported.reportError _ ⟨_, 0, isKnown, Nat.zero_le _, rfl⟩
          (ne_undefinedMessage (by simp))

namespace Setting

variable (frame : Frame)

/-- A setting in which all sources are known is closed. -/
theorem isClosed_of_all : ({ frame := frame } : Setting).IsClosed where
  expansion _ _ := trivial
  title _ _ _ _ _ _ _ := trivial

/-- It knows all files. -/
theorem knowsFiles_of_all (files : FileTree) (includePaths : List String) :
    ({ frame := frame } : Setting).KnowsFiles files includePaths (fun _ => True) [] where
  leads _ _ _ := trivial
  known _ _ _ _ _ := trivial

/-- It knows all fields. -/
theorem knowsFields_of_all (position : Position) (info : DocInfo) :
    ({ frame := frame } : Setting).KnowsFields position info where
  title := trivial
  license _ _ := trivial
  purpose _ _ := trivial

end Setting

end DocMarkup
