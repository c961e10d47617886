import Mathlib.Order.WellFounded
import DocMarkup.Proofs.Grammar.Parser

namespace DocMarkup

open CompilerState

/-!
# Descent

What is left to be done is measured by the room for expansions and inclusions first,
and then by what remains of the text. The argument of a call is a part of what
remains where the call is read, so that its own length needs no place in the measure.
Parsers that insist on doing less at every call need no count of steps at all. They
do what the parsers do that count their steps.
-/

/-- What is left to be done: the room for nesting, and the weight of what is to be read. -/
structure Work where
  room : Nat
  weight : Nat

namespace Work

/-- Less is left to be done if there is less room, or as much room and less to be read. -/
def Less (first second : Work) : Prop :=
  first.room < second.room ∨ first.room = second.room ∧ first.weight < second.weight

instance (first second : Work) : Decidable (first.Less second) :=
  inferInstanceAs (Decidable (_ ∨ _))

/-- There is always an end to doing less. -/
theorem less_wellFounded : WellFounded Less := by
  have lexicographic :
      WellFounded (Prod.Lex (· < · : Nat → Nat → Prop) (· < · : Nat → Nat → Prop)) :=
    WellFounded.prod_lex Nat.lt_wfRel.wf Nat.lt_wfRel.wf
  refine Subrelation.wf ?_ (InvImage.wf (fun work : Work => (work.room, work.weight)) lexicographic)
  rintro ⟨room, weight⟩ ⟨otherRoom, otherWeight⟩ (lessRoom | ⟨sameRoom, lessWeight⟩)
  · exact .left _ _ lessRoom
  · obtain rfl : room = otherRoom := sameRoom
    exact .right _ lessWeight

instance : WellFoundedRelation Work where
  rel := Less
  wf := less_wellFounded

/-- More than can be left to be done at any time. -/
def most : Work :=
  { room := expansionLimit + includeLimit + 1, weight := 0 }

/-- Work in steps, where a level of nesting is worth any text with its extra steps. -/
def steps (longest : Nat) (work : Work) : Nat :=
  work.room * (2 * longest + 4) + work.weight

/-- Work that takes fewer steps is less, where no text weighs as much as a level of nesting. -/
theorem less_of_steps
    {longest : Nat}
    {first second : Work}
    (light : second.weight < 2 * longest + 4)
    (fewer : first.steps longest < second.steps longest) :
    first.Less second := by
  unfold steps at fewer
  rcases Nat.lt_trichotomy first.room second.room with lessRoom | sameRoom | moreRoom
  · exact .inl lessRoom
  · rw [sameRoom] at fewer
    exact .inr ⟨sameRoom, by omega⟩
  · have worth := Nat.mul_le_mul_right (2 * longest + 4) moreRoom
    rw [Nat.succ_mul] at worth
    omega

end Work

namespace CompilerState

/-- What is left to be done in a state: a text of some length, with some extra weight. -/
def work (state : CompilerState) (length extra : Nat) : Work :=
  { room := state.room, weight := 2 * length + extra }

end CompilerState

namespace Compile

/-- Go on with what is left to be done if it is less than a bound; else raise the alarm. -/
def descend
    (bound : Work)
    (length extra : Nat)
    (next : (work : Work) → work.Less bound → Compile α) :
    Compile α := do
  let here := (← state).work length extra
  if less : here.Less bound then next here less else throw alarm

/-- Where less is left to be done than the bound, going on is all that happens. -/
theorem Ends.descend
    {before : CompilerState}
    {bound : Work}
    {length extra : Nat}
    {next : (work : Work) → work.Less bound → Compile α}
    {computationReference : Compile α}
    {faults : Fault → Prop}
    {results : α → CompilerState → Prop}
    (less : (before.work length extra).Less bound)
    (ends : Ends before (next _ less) computationReference faults results) :
    Ends before (Compile.descend bound length extra next) computationReference faults results := by
  rintro workspace rfl
  have unfolded :
      Compile.descend bound length extra next workspace = next _ less workspace := by
    show (if less : (workspace.state.work length extra).Less bound then next _ less
      else MonadExcept.throw alarm : Compile α) workspace = _
    rw [dif_pos less]
  rw [unfolded]
  exact ends workspace rfl

end Compile

open Compile

namespace Inner

variable {environment : Environment} {longest : Nat}

/--
The parsers without a count of steps. Each call is made with a bound, and raises the
alarm unless there is less to be done than that; what is left to be done is then the
bound of the calls inside it.
-/
def descending (environment : Environment) (bound : Work) : Inner :=
  { phraseFrom := fun mode depth buffer cursor =>
      descend bound cursor.rest.length 1 fun here _less =>
        Phrase.step (descending environment here) mode depth buffer cursor
    blocks := fun nested cursor =>
      descend bound cursor.rest.length 3 fun here _less =>
        Block.step (descending environment here) nested cursor
    items := fun lists cursor =>
      descend bound cursor.rest.length 2 fun here _less =>
        Listing.step (descending environment here) lists cursor
    includeFile := fun position name id =>
      descend bound 0 1 fun here _less =>
        Compile.includeFile environment (descending environment here) position name id }
termination_by bound
decreasing_by all_goals exact _less

/-- A bound is above all work that takes at most a number of steps. -/
def Covers (longest steps : Nat) (bound : Work) : Prop :=
  ∀ work : Work, work.weight < 2 * longest + 4 → work.steps longest ≤ steps → work.Less bound

/-- What is left to be done covers all that takes fewer steps. -/
private theorem covers_of_succ
    {steps : Nat}
    {work : Work}
    (light : work.weight < 2 * longest + 4)
    (exactly : work.steps longest = steps + 1) :
    Covers longest steps work := by
  intro other _ fewer
  exact Work.less_of_steps light (by omega)

/-- What is ready with a number of steps has work to do that is below a bound that covers them. -/
private theorem exists_steps
    {steps length extra : Nat}
    {before : CompilerState}
    (ready : Ready longest steps True before length extra)
    (some : 0 < extra)
    (few : extra < 4)
    {bound : Work}
    (covers : Covers longest steps bound) :
    (before.work length extra).Less bound ∧
      ∃ fewer,
        fewer < steps ∧
          Covers longest fewer (before.work length extra) ∧
            Ready longest (fewer + 1) True before length extra := by
  have short := ready.short
  have enough := ready.enough trivial
  have light : (before.work length extra).weight < 2 * longest + 4 := by
    show 2 * length + extra < 2 * longest + 4
    omega
  have needed :
      (before.work length extra).steps longest =
        before.room * (2 * longest + 4) + 2 * length + extra := by
    show before.room * (2 * longest + 4) + (2 * length + extra) = _
    omega
  obtain ⟨fewer, exactly⟩ :
      ∃ fewer, before.room * (2 * longest + 4) + 2 * length + extra = fewer + 1 :=
    ⟨before.room * (2 * longest + 4) + 2 * length + extra - 1, by omega⟩
  refine ⟨covers _ light (needed ▸ enough), fewer, by omega,
    covers_of_succ light (needed.trans exactly), ?_⟩
  exact { ready with enough := fun _ => by rw [exactly] }

/--
The parsers that descend do the same as those with any number of steps that is
enough, and never raise the alarm: less is left to be done at every call.
-/
theorem descending_sound
    (filesBounded : environment.files.Bounded longest)
    (bound : Work)
    {steps counted : Nat}
    (covers : Covers longest steps bound)
    (atLeast : steps ≤ counted) :
    (descending environment bound).Sound environment.files longest steps True
      (within environment counted) := by
  induction bound using Work.less_wellFounded.induction generalizing steps counted with
  | _ bound inductionHypothesis =>
      have inside :
          ∀ {before : CompilerState} {length extra : Nat},
            Ready longest steps True before length extra →
            0 < extra →
            extra < 4 →
            (before.work length extra).Less bound ∧
              ∃ fewer others,
                counted = others + 1 ∧
                  Ready longest (fewer + 1) True before length extra ∧
                    (descending environment (before.work length extra)).Sound
                      environment.files longest fewer True (within environment others) := by
        intro before length extra ready some few
        obtain ⟨less, fewer, isFewer, coversFewer, readyExactly⟩ :=
          exists_steps ready some few covers
        obtain ⟨others, rfl⟩ : ∃ others, counted = others + 1 := ⟨counted - 1, by omega⟩
        exact ⟨less, fewer, others, rfl, readyExactly,
          inductionHypothesis _ less coversFewer (by omega)⟩
      rw [descending]
      exact
        { phraseFrom := by
            intro before cursor calm mode depth buffer ready
            obtain ⟨less, fewer, others, rfl, readyHere, sound⟩ := inside ready (by decide) (by decide)
            show Ends before
              (descend bound cursor.rest.length 1 fun here _ =>
                Phrase.step (descending environment here) mode depth buffer cursor) _ _ _
            refine Ends.descend less ?_
            exact Phrase.step_ends sound readyHere mode depth buffer
          blocks := by
            intro before cursor calm nested ready isCalm
            obtain ⟨less, fewer, others, rfl, readyHere, sound⟩ := inside ready (by decide) (by decide)
            show Ends before
              (descend bound cursor.rest.length 3 fun here _ =>
                Block.step (descending environment here) nested cursor) _ _ _
            refine Ends.descend less ?_
            exact Block.step_ends sound nested readyHere isCalm
          items := by
            intro before cursor calm lists ready areLists
            obtain ⟨less, fewer, others, rfl, readyHere, sound⟩ := inside ready (by decide) (by decide)
            show Ends before
              (descend bound cursor.rest.length 2 fun here _ =>
                Listing.step (descending environment here) lists cursor) _ _ _
            refine Ends.descend less ?_
            exact Listing.step_ends sound readyHere areLists
          includeFile := by
            intro before calm position name id ready isCalm
            obtain ⟨less, fewer, others, rfl, readyHere, sound⟩ := inside ready (by decide) (by decide)
            show Ends before
              (descend bound 0 1 fun here _ =>
                Compile.includeFile environment (descending environment here) position name id) _ _ _
            refine Ends.descend less ?_
            exact
              includeFile_ends sound filesBounded position name id readyHere fun calmBefore file =>
                (isCalm calmBefore).beginInclusion file _ _ }

end Inner

end DocMarkup
