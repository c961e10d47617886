import DocMarkup.Grammar.Parser
import DocMarkup.Proofs.Compiler.Consistency
import DocMarkup.Proofs.Compiler.Ends
import DocMarkup.Proofs.Grammar.BlockProgress

namespace DocMarkup

/-!
# What the parsers of constructs rely on

A rule relies on the parsers of what is inside its construct, and each of those
on rules with one step less. What they rely on is stated here once: what is done
to the state, how much of the text is read, and with which faults it may end.

The number of steps that reading needs is bounded by the room that is left for
expansions and inclusions, and by the length of what remains to be read.
-/

/-- A fault that some path gives when it is expanded or resolved. -/
def FileTree.Rejects (files : FileTree) (fault : PathFault) : Prop :=
  ∃ path : Path,
    path.expandHome files.homeDirectory = .error fault ∨ files.resolve path = .error fault

/-- No file of a tree has a text longer than a given length. -/
def FileTree.Bounded (longest : Nat) (files : FileTree) : Prop :=
  ∀ path text, files.loadSource path = .ok text → text.length ≤ longest

namespace Compile

/--
The faults with which reading may end: that of a path, running out of steps that
could not be afforded, and what only happens in a state that is out of order.
-/
def Expected (files : FileTree) (affordable calm : Prop) : Fault → Prop
  | .path fault => files.Rejects fault
  | .documentScope => ¬ calm
  | .noOpenSection => ¬ calm
  | .nestedTooDeeply => ¬ affordable

end Compile

namespace CompilerState

/-- The number of expansions and inclusions that may still be nested. -/
def room (state : CompilerState) : Nat :=
  (expansionLimit - state.expansionDepth) + (includeLimit - state.includeStack.length)

/-- An expansion takes up room. -/
theorem room_deepen
    {state : CompilerState}
    (inLimit : state.expansionDepth < expansionLimit) :
    state.deepen.room + 1 ≤ state.room := by
  simp only [room, deepen]
  omega

/--
No more expansions, brackets of phrases and inclusions are nested than are allowed,
and no file is included within itself.
-/
structure WithinLimits (state : CompilerState) : Prop where
  expansions : state.expansionDepth ≤ expansionLimit
  phrases : state.phraseDepth ≤ phraseLimit
  inclusions : state.includeStack.length ≤ includeLimit
  distinct : state.includeStack.Nodup

/-- The limits only look at how deep nesting is. -/
theorem WithinLimits.of_same
    {before after : CompilerState}
    (limits : before.WithinLimits)
    (expansionDepth : after.expansionDepth = before.expansionDepth)
    (phraseDepth : after.phraseDepth = before.phraseDepth)
    (includeStack : after.includeStack = before.includeStack) :
    after.WithinLimits where
  expansions := by rw [expansionDepth]; exact limits.expansions
  phrases := by rw [phraseDepth]; exact limits.phrases
  inclusions := by rw [includeStack]; exact limits.inclusions
  distinct := by rw [includeStack]; exact limits.distinct

/-- Nothing that comes after a state is nested deeper than it. -/
theorem Precedes.withinLimits
    {before after : CompilerState}
    (precedes : before.Precedes after)
    (limits : before.WithinLimits) :
    after.WithinLimits :=
  limits.of_same precedes.expansionDepth precedes.phraseDepth precedes.includeStack

/-- An expansion that may go one level deeper stays within the limits. -/
theorem WithinLimits.deepen
    {state : CompilerState}
    (limits : state.WithinLimits)
    (inLimit : state.expansionDepth < expansionLimit) :
    state.deepen.WithinLimits :=
  { limits with expansions := inLimit }

/-- Two states have the same names and the same depths of nesting. -/
structure Alike (before after : CompilerState) : Prop where
  macros : after.macros = before.macros
  templates : after.templates = before.templates
  expansionDepth : after.expansionDepth = before.expansionDepth
  phraseDepth : after.phraseDepth = before.phraseDepth
  includeStack : after.includeStack = before.includeStack

/-- Passages keep names and nesting. -/
theorem Passage.alike
    {vocabulary : Vocabulary}
    {opened left : List Element}
    {before after : CompilerState}
    (passage : Passage vocabulary opened left before after) :
    before.Alike after := by
  rw [passage.eq_with]
  exact ⟨rfl, rfl, rfl, rfl, rfl⟩

/-- Opening a table keeps names and nesting. -/
theorem Alike.beginTable
    (state : CompilerState)
    (given : Option String)
    (title : String)
    (hasTitle : Bool) :
    state.Alike (state.beginTable given title hasTitle) := by
  unfold CompilerState.beginTable
  split <;> exact ⟨rfl, rfl, rfl, rfl, rfl⟩

end CompilerState

open CompilerState

/--
Everything is ready for reading a text of some length: it and all others that may
stand for names are short, and if steps can be afforded at all there are enough and
nesting is within its limits. Besides those for the text there may be some extra
steps.
-/
structure Ready
    (longest steps : Nat)
    (affordable : Prop)
    (state : CompilerState)
    (length extra : Nat) :
    Prop where
  bounded : state.Bounded longest
  short : length ≤ longest
  enough : affordable → state.room * (2 * longest + 4) + 2 * length + extra ≤ steps
  limits : affordable → state.WithinLimits

namespace Ready

variable {longest steps length extra nextLength nextExtra : Nat} {affordable : Prop}
  {before after : CompilerState}

/-- Where steps are not counted, what is short is ready. -/
theorem uncounted
    (bounded : before.Bounded longest)
    (short : length ≤ longest) :
    Ready longest steps False before length extra where
  bounded := bounded
  short := short
  enough := False.elim
  limits := False.elim

/-- What is ready for a text is ready for a shorter one, if there are not more extra steps. -/
theorem alike
    (ready : Ready longest steps affordable before length extra)
    (same : before.Alike after)
    (nearer : nextLength ≤ length)
    (cheaper : 2 * nextLength + nextExtra ≤ 2 * length + extra) :
    Ready longest steps affordable after nextLength nextExtra where
  bounded := ready.bounded.of_same same.macros same.templates
  short := Nat.le_trans nearer ready.short
  enough := by
    intro isAffordable
    have enough := ready.enough isAffordable
    have sameRoom : after.room = before.room := by
      simp only [room, same.expansionDepth, same.includeStack]
    rw [sameRoom]
    omega
  limits isAffordable :=
    (ready.limits isAffordable).of_same same.expansionDepth same.phraseDepth same.includeStack

/-- What is ready stays ready in the same state for a shorter text. -/
theorem nearer
    (ready : Ready longest steps affordable before length extra)
    (nearer : nextLength ≤ length)
    (cheaper : 2 * nextLength + nextExtra ≤ 2 * length + extra) :
    Ready longest steps affordable before nextLength nextExtra :=
  ready.alike ⟨rfl, rfl, rfl, rfl, rfl⟩ nearer cheaper

/-- One of the extra steps is spent on going one step further. -/
theorem spend
    (ready : Ready longest (steps + 1) affordable before length (extra + 1)) :
    Ready longest steps affordable before length extra where
  bounded := ready.bounded
  short := ready.short
  enough := by
    intro isAffordable
    have enough := ready.enough isAffordable
    omega
  limits := ready.limits

/-- What is ready stays ready after some blocks for a shorter text. -/
theorem blockEffect
    (ready : Ready longest steps affordable before length extra)
    (effect : BlockEffect longest before after)
    (nearer : nextLength ≤ length)
    (cheaper : 2 * nextLength + nextExtra ≤ 2 * length + extra) :
    Ready longest steps affordable after nextLength nextExtra where
  bounded := ready.bounded.blockEffect effect
  short := Nat.le_trans nearer ready.short
  enough := by
    intro isAffordable
    have enough := ready.enough isAffordable
    have sameRoom : after.room = before.room := by
      simp only [room, effect.precedes.expansionDepth, effect.precedes.includeStack]
    rw [sameRoom]
    omega
  limits isAffordable := effect.precedes.withinLimits (ready.limits isAffordable)

/-- One level deeper there is less room, which is worth any text with its extra steps. -/
theorem deeper
    (ready : Ready longest steps affordable before length extra)
    (bounded : after.Bounded longest)
    (lessRoom : after.room + 1 ≤ before.room)
    (short : nextLength ≤ longest)
    (cheap : nextExtra ≤ 4)
    (limits : before.WithinLimits → after.WithinLimits) :
    Ready longest steps affordable after nextLength nextExtra where
  bounded := bounded
  short := short
  enough := by
    intro isAffordable
    have enough := ready.enough isAffordable
    have worth := Nat.mul_le_mul_right (2 * longest + 4) lessRoom
    rw [Nat.succ_mul] at worth
    omega
  limits := limits ∘ ready.limits

end Ready

/-- The open elements of open lists. -/
def listElements (lists : List OpenList) : List Element :=
  lists.flatMap fun list => [("listitem", []), (list.name, [])]

/-- The elements of lists. -/
def listNames : List String :=
  ["itemizedlist", "orderedlist"]

/-- Where a phrase ends: at its front or further on. -/
def Cursor.Follows (next cursor : Cursor) : Prop :=
  next = cursor ∨ next.rest.length < cursor.rest.length

/-- A phrase never adds to what remains. -/
theorem Cursor.Follows.length_rest_le
    {next cursor : Cursor}
    (follows : next.Follows cursor) :
    next.rest.length ≤ cursor.rest.length := by
  rcases follows with rfl | shorter
  · exact Nat.le_refl _
  · exact Nat.le_of_lt shorter

/--
What is known of the state wherever blocks come to be read: at least that all is in
order. It is kept by the blocks that are read, and on the way into an element or an
expansion.
-/
structure Order where
  holds : CompilerState → Prop
  isConsistent : ∀ {state}, holds state → state.IsConsistent
  blockEffect :
    ∀ {longest before after}, BlockEffect longest before after → holds before → holds after
  beginNestedBlock :
    ∀ {before name}, name ∈ nestedBlockNames → holds before → holds (before.beginNestedBlock name)
  beginExpansion :
    ∀ {before bindings},
      (before.Scoped → bindings.Every Template.IsPhraseIfKnown) →
      holds before →
      holds (before.beginExpansion bindings)

/-- Nothing more is known than that all is in order. -/
abbrev Order.consistent : Order where
  holds := IsConsistent
  isConsistent := id
  blockEffect := IsConsistent.blockEffect
  beginNestedBlock := by
    rintro before name isNested ⟨nested, attributes, consistent⟩
    exact ⟨_, attributes, consistent.beginNestedBlock isNested⟩
  beginExpansion := by
    rintro before bindings known ⟨nested, attributes, consistent⟩
    exact ⟨nested, attributes, consistent.beginExpansion known⟩

open Compile

/--
The parsers of what is inside constructs do to the state what is expected of
them, with a number of steps. They end as reference parsers do, or with the alarm.
-/
structure Inner.Sound
    (files : FileTree)
    (longest steps : Nat)
    (affordable : Prop)
    (inner reference : Inner)
    (order : Order := .consistent) :
    Prop where
  phraseFrom :
    ∀ {before cursor calm} (mode depth buffer),
      Ready longest steps affordable before cursor.rest.length 1 →
      Ends before (inner.phraseFrom mode depth buffer cursor)
        (reference.phraseFrom mode depth buffer cursor)
        (Expected files affordable calm)
        fun result after =>
          Effect inlineVocabulary before after ∧ result.2.Follows cursor
  blocks :
    ∀ {before cursor calm} (nested),
      Ready longest steps affordable before cursor.rest.length 3 →
      (calm → order.holds before) →
      Ends before (inner.blocks nested cursor) (reference.blocks nested cursor)
        (Expected files affordable calm)
        fun next after =>
          BlockEffect longest before after ∧ next.rest.length ≤ cursor.rest.length
  items :
    ∀ {before cursor calm} (lists),
      Ready longest steps affordable before cursor.rest.length 2 →
      (∀ list ∈ lists, list.name ∈ listNames) →
      Ends before (inner.items lists cursor) (reference.items lists cursor)
        (Expected files affordable calm)
        fun next after =>
          Passage flowVocabulary (listElements lists) [] before after ∧
            next.rest.length ≤ cursor.rest.length ∧
              (cursor.listMarker? ≠ none → next.rest.length < cursor.rest.length)
  includeFile :
    ∀ {before calm} (position name id),
      Ready longest steps affordable before 0 1 →
      (calm → order.holds before) →
      Ends before (inner.includeFile position name id) (reference.includeFile position name id)
        (Expected files affordable calm)
        fun _ after => BlockEffect longest before after

/-- A rule of blocks has done what blocks do and has read on. -/
def Block.Applied
    (longest : Nat)
    (before : CompilerState)
    (cursor next : Cursor)
    (after : CompilerState) :
    Prop :=
  BlockEffect longest before after ∧ next.rest.length < cursor.rest.length

end DocMarkup
