import DocMarkup.Proofs.DocInfo.Reader
import DocMarkup.Proofs.Grammar.Block

namespace DocMarkup.Compile

open CompilerState

/-!
# How inclusions end

An included file is read as blocks, one level deeper, and the state is then the
outer one again but for what the blocks did. A file that cannot be loaded, that
is being read already or that is one too many is an error instead.
-/

variable {environment : Environment} {longest steps : Nat} {inner reference : Inner}
  {before : CompilerState} {affordable calm : Prop} {order : Order}

/-- A path of which a source cannot even be looked for cannot be resolved either. -/
theorem rejects_of_loadSource
    {files : FileTree}
    {path : Path}
    {fault : PathFault}
    (failed : files.loadSource path = .error (.path fault)) :
    files.Rejects fault := by
  refine ⟨path, .inr ?_⟩
  unfold FileTree.loadSource at failed
  split at failed
  next hasNull =>
    simp only [Except.error.injEq, SourceFault.path.injEq] at failed
    subst failed
    unfold FileTree.resolve Path.resolve
    rw [if_pos hasNull]
  next =>
    split at failed
    · simp at failed
    · split at failed <;> simp at failed

/-- The body of an included file is read as blocks. -/
theorem parseBody_included_ends
    (sound : inner.Sound environment.files longest steps affordable reference order)
    {info : DocInfo}
    (ignored : info.ignore = true)
    {cursor : Cursor}
    (ready : Ready longest steps affordable before cursor.rest.length 3)
    (isCalm : calm → order.holds before) :
    Ends before (parseBody inner info cursor) (parseBody reference info cursor)
      (Expected environment.files affordable calm)
      fun _ after => BlockEffect longest before after := by
  unfold parseBody
  refine (sound.blocks false ready isCalm).bind ?_
  rintro stop middle ⟨effect, _⟩
  split
  · refine .updateThen (.pure ?_)
    simpa [finishDocument, ignored] using effect
  · exact .updateThen (.pure (effect.trans (.flow (.reportError ..))))

/-- The text of an included file is read as blocks, with or without document information. -/
theorem parseText_included_ends
    (sound : inner.Sound environment.files longest steps affordable reference order)
    (source : Source)
    (ready : Ready longest steps affordable before source.text.length 3)
    (isCalm : calm → order.holds before) :
    Ends before (parseText environment inner source true)
      (parseText environment reference source true)
      (Expected environment.files affordable calm)
      fun _ after => BlockEffect longest before after := by
  have atFront : source.cursor.rest.length = source.text.length := by
    simp [Source.cursor, Source.cursorAt, String.length_toList]
  have contentEnds :
      ∀ (info : DocInfo) (cursor : Cursor),
        info.ignore = true →
        cursor.rest.length ≤ source.text.length →
        Ends before (parseContent environment inner source info cursor)
          (parseContent environment reference source info cursor)
          (Expected environment.files affordable calm)
          fun _ after => BlockEffect longest before after := by
    intro info cursor ignored nearer
    have skipped :
        Ends before (processDocInfo environment inner info (source.position 0))
          (processDocInfo environment reference info (source.position 0))
          (Expected environment.files affordable calm)
          fun complete after => complete = true ∧ after = before := by
      unfold processDocInfo
      simp only [ignored, ↓reduceIte]
      exact .pure ⟨rfl, rfl⟩
    unfold parseContent
    refine skipped.bind ?_
    rintro complete middle ⟨rfl, rfl⟩
    simp only [↓reduceIte]
    exact parseBody_included_ends sound ignored (ready.nearer nearer (by omega)) isCalm
  unfold parseText
  split
  next info next read =>
    have nearer := (readDocInfo_fits read).2
    exact contentEnds _ next rfl (by omega)
  next =>
    simp only [↓reduceIte]
    exact contentEnds _ source.cursor rfl (by omega)

/-- What follows identifiers is again what they followed before an inclusion. -/
def restoreIds (before state : CompilerState) : CompilerState :=
  { state with docId := before.docId, idScope := before.idScope }

/-- An included file that is loaded is read as blocks; one that is not is an error. -/
theorem parseFile_included_ends
    (sound : inner.Sound environment.files longest steps affordable reference order)
    (filesBounded : environment.files.Bounded longest)
    (path : Path)
    (origin : Option Position)
    (docId : Option String)
    (idScope : Nat)
    (ready : Ready longest steps affordable before 0 0)
    (inLimit : before.includeStack.length < includeLimit)
    (isNew :
      ∀ file, environment.files.resolve path = .ok file → file ∉ before.includeStack)
    (isCalm : calm → ∀ file, order.holds (before.beginInclusion file docId idScope)) :
    Ends { before with docId := docId, idScope := idScope }
      (parseFile environment inner path true origin)
      (parseFile environment reference path true origin)
      (Expected environment.files affordable calm)
      fun _ after => BlockEffect longest before (restoreIds before after) := by
  unfold parseFile
  apply Ends.consult
  cases loaded : environment.files.loadSource path with
  | error fault =>
      cases fault with
      | path fault =>
          exact .throw (rejects_of_loadSource loaded)
      | load fault =>
          refine .updateThen (.pure ?_)
          show BlockEffect longest before (before.loadFailed fault origin)
          exact .flow (.reportError ..)
  | ok text =>
      refine .ofPath (fun fault rejected => ⟨path, .inr rejected⟩) ?_
      intro file resolved
      have short := filesBounded path text loaded
      have lessRoom : (before.beginInclusion file docId idScope).room + 1 ≤ before.room := by
        simp only [room, beginInclusion, List.length_cons]
        omega
      have readyInside :
          Ready longest steps affordable (before.beginInclusion file docId idScope)
            text.length 3 :=
        ready.deeper (ready.bounded.of_same rfl rfl) lessRoom short (by decide) fun limits =>
          { limits with
            inclusions := inLimit
            distinct := List.nodup_cons.mpr ⟨isNew file resolved, limits.distinct⟩ }
      unfold parseUnitOf
      apply Ends.updateThen
      refine Ends.thenAlways ?_
      unfold parseUnit
      refine Ends.bind
        (Ends.withFreshMemory
          (parseText_included_ends sound { text := text, name := path.shown } readyInside
            fun calmBefore => isCalm calmBefore file)) ?_
      intro parsed inside effect
      simp only [↓reduceIte]
      have included : BlockEffect longest before (inside.endInclusion before) :=
        .included file docId idScope effect
      exact .pure included

/-- An included file is read with what identifiers follow in it, which is then as it was. -/
theorem parseIncluded_ends
    (sound : inner.Sound environment.files longest steps affordable reference order)
    (filesBounded : environment.files.Bounded longest)
    (position : Position)
    (path : Path)
    (id : Option String)
    (ready : Ready longest steps affordable before 0 0)
    (inLimit : before.includeStack.length < includeLimit)
    (isNew : ∀ file, environment.files.resolve path = .ok file → file ∉ before.includeStack)
    (isCalm :
      calm →
        ∀ file,
          order.holds
            (before.beginInclusion file (before.includedIds id).1 (before.includedIds id).2)) :
    Ends before (parseIncluded environment inner position path id)
      (parseIncluded environment reference position path id)
      (Expected environment.files affordable calm)
      fun _ after => BlockEffect longest before after := by
  unfold parseIncluded
  apply Ends.state
  unfold includedIds at isCalm
  split
  next given =>
    rw [if_pos given] at isCalm
    apply Ends.updateThen
    refine (Ends.thenAlways (parseFile_included_ends sound filesBounded path _ id
      before.sectionIds.length ready inLimit isNew isCalm)).bind ?_
    intro _ after effect
    exact .pure effect
  next notGiven =>
    rw [if_neg notGiven] at isCalm
    refine (Ends.thenAlways (parseFile_included_ends sound filesBounded path _ before.docId
      before.idScope ready inLimit isNew isCalm)).bind ?_
    intro _ after effect
    exact .pure effect

/-- How an inclusion ends. -/
theorem includeFile_ends
    (sound : inner.Sound environment.files longest steps affordable reference order)
    (filesBounded : environment.files.Bounded longest)
    (position : Position)
    (name : String)
    (id : Option String)
    (ready : Ready longest (steps + 1) affordable before 0 1)
    (isCalm :
      calm →
        ∀ file,
          order.holds
            (before.beginInclusion file (before.includedIds id).1 (before.includedIds id).2)) :
    Ends before (includeFile environment inner position name id)
      (includeFile environment reference position name id)
      (Expected environment.files affordable calm)
      fun _ after => BlockEffect longest before after := by
  unfold includeFile
  apply Ends.state
  simp only
  refine .ofPath (fun fault rejected => ⟨_, .inl rejected⟩) ?_
  intro requested _
  apply Ends.consult
  refine .ofPath (fun fault rejected => ⟨_, .inr rejected⟩) ?_
  intro file resolved
  split
  · exact .update (.flow (.reportError ..))
  next isNew =>
  have isNewHere :
      ∀ other,
        environment.files.resolve (environment.files.firstFile requested
          (environment.files.includePlaces requested before.includeStack.head?
            environment.includePaths)) = .ok other →
          other ∉ before.includeStack := by
    intro other same
    obtain rfl := Except.ok.inj (resolved.symm.trans same)
    simpa using isNew
  split
  · exact .update (.flow (.reportError ..))
  next inLimit =>
    exact
      parseIncluded_ends sound filesBounded position _ id ready.spend (by omega) isNewHere isCalm

end DocMarkup.Compile
