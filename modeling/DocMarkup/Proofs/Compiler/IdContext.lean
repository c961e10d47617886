import DocMarkup.Proofs.Compiler.Balance
import DocMarkup.Proofs.DocInfo.Reader

namespace DocMarkup

/-!
# What the identifiers of sections follow

The identifier of a section follows that of the innermost section around it, but
only of those that were opened since a document or an inclusion set an identifier;
where there is none, it follows that identifier. The state tells the sections that
were open then by their number alone. It agrees with what is meant as long as blocks
have not closed some of them and opened others in their place: the sections that are
left are the outermost ones of those that were open, and all others are new.
-/

/-- The identifier that a document or an inclusion has set, and the sections open at that point. -/
structure IdContext where
  id : String
  outer : List String

/-- Inside an inclusion with an identifier, that is followed instead of what is around. -/
def IdContext.entering
    (context : IdContext)
    (given : Option String)
    (state : CompilerState) :
    IdContext :=
  if isGiven given then { id := given.getD "", outer := state.sectionIds } else context

namespace CompilerState

variable {before inside after : CompilerState} {longest : Nat} {outer : List String}

/-- An identifier is a local one behind that of a parent and a dot, with or without a number. -/
def Qualifies (state : CompilerState) (parent localId identifier : String) : Prop :=
  ∃ number ∈ List.range (state.takenIds.size + 1),
    identifier = numberedId (parent ++ "." ++ localId) number

instance (state : CompilerState) (parent localId : String) :
    DecidablePred (state.Qualifies parent localId) :=
  fun _ => inferInstanceAs (Decidable (∃ number ∈ List.range _, _))

/-! ## Sections that were open before -/

/--
Of the sections that were open at some point the innermost ones may have been closed,
and others opened inside those that are left. Both have identifiers that are taken.
-/
structure OpenSince (outer : List String) (state : CompilerState) : Prop where
  split :
    ∃ opened kept, state.sectionIds = opened ++ kept ∧ kept <:+ outer ∧ ∀ id ∈ opened, id ∉ outer
  taken : ∀ id ∈ outer ++ state.sectionIds, state.takenIds.contains id = true
  named : ∀ id ∈ state.sectionIds, id ≠ ""

/-- Identifiers that are taken stay so. -/
theorem Precedes.contains_takenIds
    (precedes : before.Precedes after)
    {id : String}
    (taken : before.takenIds.contains id = true) :
    after.takenIds.contains id = true := by
  rw [← precedes.takenIds] at taken
  generalize after.usedIds.toList.drop before.usedIds.size = released at taken
  induction released with
  | nil =>
      exact taken
  | cons first rest inductionHypothesis =>
      exact inductionHypothesis (NameTable.contains_of_contains_erase taken)

/-- A passage leaves the open sections as they were. -/
theorem Passage.sectionIds_eq
    {vocabulary : Vocabulary}
    {opened left : List Element}
    (passage : Passage vocabulary opened left before after) :
    after.sectionIds = before.sectionIds := by
  rw [passage.eq_with]

namespace OpenSince

/-- At the point itself, nothing has been closed or opened. -/
theorem refl
    (taken : ∀ id ∈ before.sectionIds, before.takenIds.contains id = true)
    (named : ∀ id ∈ before.sectionIds, id ≠ "") :
    OpenSince before.sectionIds before where
  split := ⟨[], before.sectionIds, rfl, List.suffix_refl _, by simp⟩
  taken := by simpa using taken
  named := named

/-- What adds to the state and leaves the open sections alone changes nothing about them. -/
theorem same
    (since : OpenSince outer before)
    (precedes : before.Precedes after)
    (sectionIds : after.sectionIds = before.sectionIds) :
    OpenSince outer after where
  split := by rw [sectionIds]; exact since.split
  taken := by
    rw [sectionIds]
    exact fun id member => precedes.contains_takenIds (since.taken id member)
  named := by rw [sectionIds]; exact since.named

/-- A section with an identifier that was free is one that was opened since. -/
theorem push
    (since : OpenSince outer before)
    (precedes : before.Precedes after)
    {identifier : String}
    (isFree : before.takenIds.contains identifier = false)
    (isTaken : after.takenIds.contains identifier = true)
    (named : identifier ≠ "")
    (sections : after.sectionIds = identifier :: before.sectionIds) :
    OpenSince outer after where
  split := by
    obtain ⟨opened, kept, split, isKept, areNew⟩ := since.split
    refine ⟨identifier :: opened, kept, by rw [sections, split, List.cons_append], isKept, ?_⟩
    rintro id (_ | ⟨_, member⟩) isOuter
    · simp [since.taken identifier (List.mem_append_left _ isOuter)] at isFree
    · exact areNew id member isOuter
  taken := by
    intro id member
    rw [sections, List.append_cons, List.mem_append, List.mem_append, List.mem_singleton] at member
    rcases member with (isOuter | rfl) | isOlder
    · exact precedes.contains_takenIds (since.taken id (List.mem_append_left _ isOuter))
    · exact isTaken
    · exact precedes.contains_takenIds (since.taken id (List.mem_append_right _ isOlder))
  named := by
    intro id member
    rw [sections] at member
    rcases List.mem_cons.mp member with rfl | isOlder
    · exact named
    · exact since.named id isOlder

/-- A section that begins is one that was opened since. -/
theorem beginSection
    (since : OpenSince outer before)
    (given : Option String)
    (title : String) :
    OpenSince outer (before.beginSection given title) := by
  let identifier := freeId before.takenIds (qualify before.idPrefix (localId given title))
  have isFree : before.takenIds.contains identifier = false := contains_freeId ..
  have isTaken : (before.beginSection given title).takenIds.contains identifier = true := by
    show (before.takenIds.insert identifier ()).contains identifier = true
    rw [NameTable.contains_iff_mem_names, NameTable.names_insert isFree]
    exact List.mem_append_right _ (List.mem_singleton_self _)
  exact since.push (.beginSection before given title) isFree isTaken
    (freeId_ne_empty _ (qualify_ne_empty _ (localId_ne_empty given title))) rfl

/-- The innermost section that is closed is one that was opened since, or one of the outer ones. -/
theorem leaveSection
    (since : OpenSince outer before)
    {innermost : String}
    {rest : List String}
    (sections : before.sectionIds = innermost :: rest) :
    OpenSince outer (before.leaveSection rest) where
  split := by
    obtain ⟨opened, kept, split, isKept, areNew⟩ := since.split
    rw [sections] at split
    cases opened with
    | nil =>
        have isShorter : rest <:+ kept := ⟨[innermost], split⟩
        exact ⟨[], rest, rfl, isShorter.trans isKept, by simp⟩
    | cons newest others =>
        obtain ⟨_, rfl⟩ := List.cons.inj split
        exact ⟨others, kept, rfl, isKept, fun id member => areNew id (by simp [member])⟩
  taken := by
    intro id member
    refine since.taken id ?_
    rw [sections]
    rcases List.mem_append.mp member with isOuter | isOpen
    · exact List.mem_append_left _ isOuter
    · exact List.mem_append_right _ (List.mem_cons_of_mem _ isOpen)
  named := fun id member => since.named id (sections ▸ List.mem_cons_of_mem _ member)

/-- Where none is open that was opened since, not more are open than there were. -/
theorem length_le
    (since : OpenSince outer before)
    (areOuter : ∀ id ∈ before.sectionIds, id ∈ outer) :
    before.sectionIds.length ≤ outer.length := by
  obtain ⟨opened, kept, split, isKept, areNew⟩ := since.split
  have noneOpened : opened = [] := by
    refine List.eq_nil_iff_forall_not_mem.mpr fun id member => areNew id member ?_
    exact areOuter id (split ▸ List.mem_append_left _ member)
  rw [split, noneOpened, List.nil_append]
  exact isKept.length_le

/-- Reading blocks closes the innermost sections and opens others, whatever is included. -/
theorem blockEffect
    (effect : BlockEffect longest before after)
    (since : OpenSince outer before) :
    OpenSince outer after := by
  induction effect with
  | refl state =>
      exact since
  | trans _ _ firstHypothesis secondHypothesis =>
      exact secondHypothesis (firstHypothesis since)
  | flow effect =>
      exact since.same effect.precedes effect.sectionIds_eq
  | paragraph effect =>
      have whole : BlockEffect longest _ _ := .paragraph effect
      have unchanged := effect.sectionIds_eq
      refine since.same whole.precedes ?_
      unfold endParagraph
      split <;> exact unchanged
  | heading level title isLevel effect =>
      have whole : BlockEffect longest _ _ := .heading level title isLevel effect
      exact since.same whole.precedes effect.sectionIds_eq
  | table given title hasTitle effect =>
      have whole : BlockEffect longest _ _ := .table given title hasTitle effect
      refine since.same whole.precedes (effect.sectionIds_eq.trans ?_)
      unfold beginTable
      split <;> rfl
  | openedSection given title _ effect =>
      exact (since.beginSection given title).same (effect.precedes.trans (.emit _ _))
        effect.sectionIds_eq
  | closedSection _ _ sections =>
      exact since.leaveSection sections
  | warned before kind position message =>
      exact since.same (.reportWarning ..) rfl
  | definedMacro before position name short =>
      refine since.same (.defineMacro ..) ?_
      unfold defineMacro
      split <;> rfl
  | definedTemplate before position unknown short =>
      refine since.same (.defineTemplate ..) ?_
      unfold defineTemplate
      split <;> rfl
  | nested _ _ inductionHypothesis =>
      exact { inductionHypothesis { since with } with }
  | expanded _ _ _ inductionHypothesis =>
      exact { inductionHypothesis { since with } with }
  | included file docId idScope _ inductionHypothesis =>
      exact { inductionHypothesis { since with } with }

end OpenSince

end CompilerState

open CompilerState

namespace IdContext

variable {context : IdContext} {before after : CompilerState} {longest : Nat}

/--
The identifier of a section that is opened in a context is that of none of the
sections that were open at its start. It follows the innermost section if that was
opened since and more sections are open than at the start, and the identifier of the
context if no section is open that was opened since.
-/
structure Nests
    (context : IdContext)
    (before : CompilerState)
    (localId identifier : String) :
    Prop where
  isNew : identifier ∉ context.outer
  followsInnermost :
    ∀ innermost ∈ before.sectionIds.head?,
      innermost ∉ context.outer →
        context.outer.length < before.sectionIds.length →
          before.Qualifies innermost localId identifier
  followsContext :
    (∀ id ∈ before.sectionIds, id ∈ context.outer) →
      before.Qualifies context.id localId identifier

instance (context : IdContext) (before : CompilerState) (localId : String) :
    DecidablePred (context.Nests before localId) :=
  fun identifier =>
    decidable_of_iff
      (identifier ∉ context.outer ∧
        (∀ innermost ∈ before.sectionIds.head?,
          innermost ∉ context.outer →
            context.outer.length < before.sectionIds.length →
              before.Qualifies innermost localId identifier) ∧
        ((∀ id ∈ before.sectionIds, id ∈ context.outer) →
          before.Qualifies context.id localId identifier))
      ⟨fun nests => ⟨nests.1, nests.2.1, nests.2.2⟩,
        fun nests => ⟨nests.isNew, nests.followsInnermost, nests.followsContext⟩⟩

/-- A section was opened, and its identifier is the one that the context asks for. -/
def Opens (context : IdContext) (localId : String) (before after : CompilerState) : Prop :=
  ∃ identifier,
    after.sectionIds = identifier :: before.sectionIds ∧ context.Nests before localId identifier

instance (context : IdContext) (localId : String) (before : CompilerState) :
    DecidablePred (context.Opens localId before) :=
  fun after =>
    decidable_of_iff
      (∃ identifier ∈ after.sectionIds.head?,
        after.sectionIds = identifier :: before.sectionIds ∧
          context.Nests before localId identifier)
      ⟨fun ⟨identifier, _, opened⟩ => ⟨identifier, opened⟩,
        fun ⟨identifier, opened⟩ => ⟨identifier, by simp [opened.1], opened⟩⟩

/-- The state knows what identifiers follow in a context. -/
structure Holds (context : IdContext) (state : CompilerState) : Prop where
  since : OpenSince context.outer state
  docId : state.docId = some context.id
  idScope : state.idScope = context.outer.length
  named : context.id ≠ ""

namespace Holds

/-- Reading blocks keeps what identifiers follow, whatever is included. -/
theorem blockEffect
    (holds : context.Holds before)
    (effect : BlockEffect longest before after) :
    context.Holds after where
  since := .blockEffect effect holds.since
  docId := effect.balanced.docId.trans holds.docId
  idScope := effect.balanced.idScope.trans holds.idScope
  named := holds.named

/-- Inside an inclusion, identifiers follow what it sets, or else what they follow around it. -/
theorem beginInclusion
    (holds : context.Holds before)
    (file : Path)
    (given : Option String) :
    (context.entering given before).Holds
      (before.beginInclusion file (before.includedIds given).1 (before.includedIds given).2) := by
  have taken : ∀ id ∈ before.sectionIds, before.takenIds.contains id = true := fun id member =>
    holds.since.taken id (List.mem_append_right _ member)
  unfold entering includedIds
  split
  next isGiven =>
    exact
      { since := { OpenSince.refl taken holds.since.named with }
        docId := eq_some_of_isGiven isGiven
        idScope := rfl
        named := getD_ne_empty_of_isGiven isGiven }
  next =>
    exact { holds with since := { holds.since with } }

/-- The state has the identifier that new ones are put behind. -/
theorem idPrefix_eq (holds : context.Holds before) :
    before.idPrefix =
      some
        (if context.outer.length < before.sectionIds.length then
          before.sectionIds.headD context.id
        else context.id) := by
  unfold idPrefix
  rw [holds.idScope, holds.docId]
  cases before.sectionIds with
  | nil =>
      simp
  | cons innermost rest =>
      simp only [List.headD_cons]
      split <;> rfl

/-- What an identifier follows is put before it with a dot in between, and perhaps a number. -/
private theorem qualifies
    {parent : String}
    (isPrefix : before.idPrefix = some parent)
    (named : parent ≠ "")
    (localId : String) :
    before.Qualifies parent localId
      (freeId before.takenIds (qualify before.idPrefix localId)) := by
  have qualified : qualify before.idPrefix localId = parent ++ "." ++ localId := by
    simp [isPrefix, qualify, named]
  rw [qualified]
  exact exists_freeId_eq ..

/-- A section that is opened has the identifier that the context asks for. -/
theorem opens
    (holds : context.Holds before)
    (given : Option String)
    (title : String) :
    context.Opens (localId given title) before (before.beginSection given title) := by
  refine ⟨_, sectionIds_beginSection before given title, ?_, ?_, ?_⟩
  · intro isOuter
    have taken := holds.since.taken _ (List.mem_append_left _ isOuter)
    rw [contains_freeId] at taken
    exact Bool.false_ne_true taken
  · intro innermost isInnermost _ more
    refine qualifies ?_ (holds.since.named innermost (List.mem_of_mem_head? isInnermost)) _
    rw [holds.idPrefix_eq, if_pos more, List.headD_eq_head?_getD, Option.mem_def.mp isInnermost,
      Option.getD_some]
  · intro areOuter
    refine qualifies ?_ holds.named _
    rw [holds.idPrefix_eq, if_neg (Nat.not_lt.mpr (holds.since.length_le areOuter))]

end Holds

/-- Where none of the sections that were open at the start is closed, a new one makes them more. -/
theorem length_outer_lt
    (context : IdContext)
    {state : CompilerState}
    (noneClosed : context.outer <:+ state.sectionIds)
    {innermost : String}
    (isInnermost : innermost ∈ state.sectionIds.head?)
    (isNew : innermost ∉ context.outer) :
    context.outer.length < state.sectionIds.length := by
  refine Nat.lt_of_le_of_ne noneClosed.length_le fun same => isNew ?_
  rw [noneClosed.eq_of_length same]
  exact List.mem_of_mem_head? isInnermost

end IdContext

end DocMarkup
