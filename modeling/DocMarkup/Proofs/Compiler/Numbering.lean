import DocMarkup.Proofs.Compiler.Identifiers

namespace DocMarkup

/-!
# Numbers behind identifiers

A candidate that is taken is tried with the numbers 1, 2 and so on behind it. One more
number than there are identifiers is enough to find one that is free, and it is the least
one. Identifiers are kept in a list and once more in a table, which lose them separately
when they are rolled back. As both always hold the same ones, nothing but which
identifiers these are decides on the next one.
-/

namespace CompilerState

/-! ## The search for a number -/

/-- Try numbers behind a candidate one after the other, at most so many, until one is free. -/
def tryNumbers (taken : NameTable Unit) (candidate : String) : Nat → Nat → Option String
  | 0, _ => none
  | tries + 1, number =>
      if taken.contains (numberedId candidate number) then
        tryNumbers taken candidate tries (number + 1)
      else
        some (numberedId candidate number)

/--
The identifier that a candidate becomes: itself if it is not reserved, and else the first
one with a number behind it that is not.
-/
structure IsFirstFree (reserved : List String) (candidate identifier : String) : Prop where
  isFree : identifier ∉ reserved
  ofFree : candidate ∉ reserved → identifier = candidate
  ofReserved :
    candidate ∈ reserved →
      ∃ number ≥ 1,
        identifier = candidate ++ "_" ++ toString number ∧
          ∀ smaller, 1 ≤ smaller → smaller < number →
            candidate ++ "_" ++ toString smaller ∈ reserved

section Search

variable {taken : NameTable Unit} {candidate identifier other : String}
  {reserved others : List String}

/-- Numbers that are taken are passed over, one with each try. -/
theorem tryNumbers_eq_some
    {tries number count : Nat}
    (areTaken :
      ∀ smaller < count, taken.contains (numberedId candidate (number + smaller)) = true)
    (isFree : taken.contains (numberedId candidate (number + count)) = false)
    (enough : count < tries) :
    tryNumbers taken candidate tries number = some (numberedId candidate (number + count)) := by
  induction count generalizing tries number with
  | zero =>
      obtain ⟨more, rfl⟩ := Nat.exists_eq_add_of_lt enough
      rw [Nat.add_zero] at isFree ⊢
      simp [tryNumbers, isFree]
  | succ count inductionHypothesis =>
      cases tries with
      | zero => cases enough
      | succ more =>
          have isTaken := areTaken 0 (Nat.succ_pos count)
          rw [Nat.add_zero] at isTaken
          have next (further : Nat) : number + (further + 1) = number + 1 + further := by omega
          rw [next] at isFree ⊢
          rw [tryNumbers, if_pos isTaken]
          refine inductionHypothesis (fun smaller isSmaller => ?_) isFree (Nat.lt_of_succ_lt_succ enough)
          rw [← next]
          exact areTaken (smaller + 1) (Nat.succ_lt_succ isSmaller)

/-- With one more try than there are identifiers, the search ends. -/
theorem tryNumbers_eq_freeId
    (taken : NameTable Unit)
    (candidate : String)
    {tries : Nat}
    (enough : taken.size < tries) :
    tryNumbers taken candidate tries 0 = some (freeId taken candidate) := by
  obtain ⟨number, isFirst, made, isFree, areTaken⟩ := exists_leastNumber taken candidate
  have inTime : number < tries := Nat.lt_of_lt_of_le (List.mem_range.mp isFirst) enough
  rw [made, ← Nat.zero_add number]
  refine tryNumbers_eq_some (fun smaller isSmaller => ?_) ?_ inTime
  · rw [Nat.zero_add]
    exact areTaken smaller isSmaller
  · rwa [Nat.zero_add]

/-- The search finds the first free identifier. -/
theorem isFirstFree_freeId
    (candidate : String)
    (sameIds : ∀ id, taken.contains id = true ↔ id ∈ reserved) :
    IsFirstFree reserved candidate (freeId taken candidate) := by
  obtain ⟨number, -, made, isFree, areTaken⟩ := exists_leastNumber taken candidate
  have plain : numberedId candidate 0 = candidate := rfl
  have numbered (number : Nat) (isNumbered : 1 ≤ number) :
      numberedId candidate number = candidate ++ "_" ++ toString number :=
    if_neg (Nat.ne_of_gt isNumbered)
  rw [made]
  have notReserved : numberedId candidate number ∉ reserved := by
    rw [← sameIds, isFree]
    exact Bool.false_ne_true
  refine ⟨notReserved, fun candidateFree => ?_, fun candidateReserved => ?_⟩
  · -- No number comes before zero, as the candidate itself would be taken.
    cases number with
    | zero => exact plain
    | succ before =>
        exact (candidateFree ((sameIds _).mp (areTaken 0 (Nat.succ_pos before)))).elim
  · have isNumbered : 1 ≤ number := by
      cases number with
      | zero => exact (notReserved candidateReserved).elim
      | succ before => exact Nat.succ_pos before
    refine ⟨number, isNumbered, numbered number isNumbered, fun smaller atLeastOne isSmaller => ?_⟩
    rw [← numbered smaller atLeastOne, ← sameIds]
    exact areTaken smaller isSmaller

/-- Which identifiers are reserved decides on what a candidate becomes. -/
theorem IsFirstFree.unique
    (first : IsFirstFree reserved candidate identifier)
    (second : IsFirstFree others candidate other)
    (sameIds : ∀ id, id ∈ reserved ↔ id ∈ others) :
    identifier = other := by
  by_cases isReserved : candidate ∈ reserved
  · obtain ⟨number, atLeastOne, rfl, areReserved⟩ := first.ofReserved isReserved
    obtain ⟨otherNumber, otherAtLeastOne, rfl, areOthers⟩ :=
      second.ofReserved ((sameIds candidate).mp isReserved)
    obtain isSmaller | rfl | isGreater := Nat.lt_trichotomy number otherNumber
    · exact (first.isFree ((sameIds _).mpr (areOthers number atLeastOne isSmaller))).elim
    · rfl
    · exact (second.isFree
        ((sameIds _).mp (areReserved otherNumber otherAtLeastOne isGreater))).elim
  · rw [first.ofFree isReserved, second.ofFree (isReserved ∘ (sameIds candidate).mpr)]

end Search

/-! ## Reserving and rolling back -/

/-- Identifiers that are given up are gone from the table. -/
theorem names_releaseIds (taken : NameTable Unit) (released : List String) :
    (releaseIds taken released).names = taken.names.filter fun id => !released.contains id := by
  induction released with
  | nil => simp [releaseIds]
  | cons first rest inductionHypothesis =>
      have erased :
          (releaseIds taken (first :: rest)).names =
            (releaseIds taken rest).names.filter fun id => id != first :=
        NameTable.names_erase ..
      rw [erased, inductionHypothesis, List.filter_filter]
      simp only [List.contains_cons, Bool.not_or, bne]

/-- Of different items, those that are not among the last ones are the first ones. -/
private theorem filter_not_contains_drop
    {items : List String}
    (distinct : items.Nodup)
    (count : Nat) :
    (items.filter fun item => !(items.drop count).contains item) = items.take count := by
  have split := List.take_append_drop count items
  generalize items.take count = front at split ⊢
  generalize items.drop count = back at split ⊢
  subst split
  have apart := (List.nodup_append.mp distinct).2.2
  have frontKept : (front.filter fun item => !back.contains item) = front :=
    List.filter_eq_self.mpr fun item inFront => by
      simpa using fun inBack => apart item inFront item inBack rfl
  have backGone : (back.filter fun item => !back.contains item) = [] :=
    List.filter_eq_nil_iff.mpr fun item inBack => by simpa using inBack
  rw [List.filter_append, frontKept, backGone, List.append_nil]

/-- A rollback leaves the oldest identifiers, in the list and in the table. -/
theorem HoldsIds.rollback
    {state : CompilerState}
    {kept : List String}
    (holds : state.HoldsIds kept)
    (checkpoint : Checkpoint) :
    (state.rollback checkpoint).HoldsIds (kept.take checkpoint.usedIds) := by
  refine ⟨?_, holds.distinct.sublist (List.take_sublist _ _), ?_⟩
  · rw [← holds.usedIds]
    exact Array.toList_shrink
  · have released :
        (state.rollback checkpoint).takenIds =
          releaseIds state.takenIds (kept.drop checkpoint.usedIds) := by
      rw [← holds.usedIds]
      rfl
    rw [released, names_releaseIds, holds.names, filter_not_contains_drop holds.distinct]

end CompilerState

/-! ## Any sequence of calls -/

namespace Reservation

open CompilerState

/-- A checkpoint, and the identifiers that were kept when it was taken. -/
structure Mark where
  checkpoint : Checkpoint
  kept : List String

/--
What can happen to a state: an identifier is reserved, a checkpoint is taken, a checkpoint
is gone back to, which is told by the number of those that were taken after it, or all but
the identifiers becomes what it is in another state.
-/
inductive Operation where
  | reserve (candidate : String)
  | checkpoint
  | rollback (newer : Nat)
  | proceed (elsewhere : CompilerState)

/--
A state, all checkpoints that were taken, newest first, and the identifiers that were
reserved and not rolled back.
-/
structure Session where
  state : CompilerState := {}
  marks : List Mark := []
  kept : List String := []

/--
Carry out an operation. Going back to a checkpoint, in whatever order checkpoints were
taken and gone back to, gives up the newest identifiers until no more are left than there
were at the checkpoint.
-/
def Session.step (session : Session) : Operation → Session
  | .reserve candidate =>
      let (identifier, state) := session.state.reserveId candidate
      { session with
        state := state
        kept := session.kept ++ [identifier] }
  | .checkpoint =>
      { session with marks := ⟨session.state.checkpoint, session.kept⟩ :: session.marks }
  | .rollback newer =>
      match session.marks[newer]? with
      | none => session
      | some mark =>
          { session with
            state := session.state.rollback mark.checkpoint
            kept := session.kept.take mark.kept.length }
  | .proceed elsewhere =>
      { session with
        state :=
          { elsewhere with
            usedIds := session.state.usedIds
            takenIds := session.state.takenIds } }

/-- Carry out operations one after the other, with no identifier reserved before them. -/
def run (operations : List Operation) : Session :=
  operations.foldl Session.step {}

/-- Going back to a checkpoint whose identifiers are all still kept leaves just these. -/
theorem kept_run_rollback
    {operations : List Operation}
    {newer : Nat}
    {mark : Mark}
    (isMark : (run operations).marks[newer]? = some mark)
    (stillKept : mark.kept <+: (run operations).kept) :
    (run (operations ++ [.rollback newer])).kept = mark.kept := by
  rw [run] at isMark stillKept
  rw [run, List.foldl_append, List.foldl_cons, List.foldl_nil, Session.step, isMark]
  exact (List.prefix_iff_eq_take.mp stillKept).symm

/-- The state holds the identifiers that are kept, and checkpoints tell how many there were. -/
structure Session.IsInOrder (session : Session) : Prop where
  holds : session.state.HoldsIds session.kept
  counted : ∀ mark ∈ session.marks, mark.checkpoint.usedIds = mark.kept.length

/-- Every operation keeps the order. -/
theorem Session.IsInOrder.step
    {session : Session}
    (inOrder : session.IsInOrder)
    (operation : Operation) :
    (session.step operation).IsInOrder := by
  obtain ⟨holds, counted⟩ := inOrder
  cases operation with
  | reserve candidate =>
      exact ⟨holds.reserveId candidate, counted⟩
  | checkpoint =>
      have sameCount : session.state.usedIds.size = session.kept.length := by
        rw [← Array.length_toList, holds.usedIds]
      exact ⟨holds, List.forall_mem_cons.mpr ⟨sameCount, counted⟩⟩
  | rollback newer =>
      simp only [Session.step]
      split
      next => exact ⟨holds, counted⟩
      next mark isMark =>
        have rolledBack := holds.rollback mark.checkpoint
        rw [counted mark (List.mem_of_getElem? isMark)] at rolledBack
        exact ⟨rolledBack, counted⟩
  | proceed elsewhere =>
      exact ⟨⟨holds.usedIds, holds.distinct, holds.names⟩, counted⟩

/-- After any operations, the state holds the identifiers that are kept. -/
theorem run_isInOrder (operations : List Operation) : (run operations).IsInOrder := by
  have start : Session.IsInOrder {} := ⟨⟨rfl, List.nodup_nil, rfl⟩, by simp⟩
  unfold run
  generalize ({} : Session) = session at start ⊢
  induction operations generalizing session with
  | nil => exact start
  | cons operation rest inductionHypothesis =>
      exact inductionHypothesis _ (start.step operation)

/--
Identifiers have the least number that makes them free. After any operations and for every
candidate, the search for a number ends with one try more than there are identifiers at
most. It gives the candidate itself if that is not reserved, and else the candidate with
the least number with which it is not. From then on the reserved identifiers are those
from before and the new one. Which one that is depends on nothing but which identifiers
were reserved and not rolled back, and going back to a checkpoint whose identifiers are
still there rolls back all others.
-/
theorem identifiers_have_least_numbers :
    (∀ (operations : List Operation) (candidate : String),
        let session := run operations
        let identifier := (session.state.reserveId candidate).1
        let after := (session.state.reserveId candidate).2
        (∀ tries,
            session.kept.length < tries →
              tryNumbers session.state.takenIds candidate tries 0 = some identifier) ∧
          IsFirstFree session.kept candidate identifier ∧
            session.state.HoldsIds session.kept ∧ after.HoldsIds (session.kept ++ [identifier])) ∧
      (∀ first second : List Operation,
        (∀ id, id ∈ (run first).kept ↔ id ∈ (run second).kept) →
          ∀ candidate,
            ((run first).state.reserveId candidate).1 =
              ((run second).state.reserveId candidate).1) ∧
        ∀ (operations : List Operation) (newer : Nat) (mark : Mark),
          (run operations).marks[newer]? = some mark →
            mark.kept <+: (run operations).kept →
              (run (operations ++ [.rollback newer])).kept = mark.kept := by
  refine ⟨?_, ?_, ?_⟩
  · intro operations candidate session identifier after
    have holds : session.state.HoldsIds session.kept := (run_isInOrder operations).holds
    refine ⟨fun tries enough => ?_, isFirstFree_freeId candidate holds.contains_iff, holds,
      holds.reserveId candidate⟩
    exact tryNumbers_eq_freeId _ candidate (holds.size_eq ▸ enough)
  · intro first second sameIds candidate
    have firstFree := isFirstFree_freeId candidate (run_isInOrder first).holds.contains_iff
    have secondFree := isFirstFree_freeId candidate (run_isInOrder second).holds.contains_iff
    exact firstFree.unique secondFree sameIds
  · intro operations newer mark isMark stillKept
    exact kept_run_rollback isMark stillKept

/-- A number that is in use is passed over, and one that was rolled back is given again. -/
example :
    (run [.reserve "a", .reserve "a_1", .checkpoint, .reserve "a", .reserve "a", .rollback 0,
      .reserve "a"]).kept = ["a", "a_1", "a_2"] := by
  decide +kernel

end Reservation

end DocMarkup
