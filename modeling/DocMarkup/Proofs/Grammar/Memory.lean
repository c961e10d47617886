import DocMarkup.Proofs.Compiler.Memory
import DocMarkup.Proofs.Grammar.Lookup
import DocMarkup.Proofs.Grammar.Remaining
import DocMarkup.Proofs.Grammar.Transaction

namespace DocMarkup

/-!
# What is remembered about unclosed brackets

A place is remembered if a phrase that starts there ran off the end of its text, and no
phrase is read from it again. That is right where brackets are counted as they are read:
from no state at all is a bracket found from such a place on. So rules come to the same if
what is remembered is forgotten and such phrases are read anew, which are then not closed
either. Elsewhere it may be wrong, since what is remembered outlives the macros that were
defined, and the depth that was reached, when it was found out.
-/

/-! ## Places in the memory -/

/-- The cursor at a place, as if the text belonged to no source. -/
def TextPlace.cursor (place : TextPlace) : Cursor :=
  Source.cursorAt { text := place.text, name := "" } place.offset

/-- From a place on, all that is read counts alike. -/
def TextPlace.CountsAlike (place : TextPlace) : Prop :=
  place.cursor.CountsToEnd 0

/-- Where all that is read from a place on counts alike, no bracket is counted from it on. -/
def TextPlace.IsUnclosed (place : TextPlace) : Prop :=
  place.CountsAlike → place.cursor.closingBracket? 0 = none

instance : DecidablePred TextPlace.CountsAlike :=
  fun _ => inferInstanceAs (Decidable (Source.CountsAlike _ _ _))

namespace Cursor

variable {cursor : Cursor}

/-- Every cursor at a place will do. -/
theorem countsAlike_textPlace : cursor.textPlace.CountsAlike ↔ cursor.CountsToEnd 0 :=
  ⟨.of_textPlace rfl, .of_textPlace rfl⟩

theorem isUnclosed_textPlace :
    cursor.textPlace.IsUnclosed ↔ (cursor.CountsToEnd 0 → cursor.closingBracket? 0 = none) := by
  have same :
      (cursor.textPlace.cursor.closingBracket? 0).isSome = (cursor.closingBracket? 0).isSome :=
    isSome_closingBracket?_of_textPlace
      (show cursor.textPlace.cursor.textPlace = cursor.textPlace from rfl) 0
  unfold TextPlace.IsUnclosed
  rw [countsAlike_textPlace, ← Option.isNone_iff_eq_none, ← Option.isNone_iff_eq_none,
    ← Option.not_isSome, ← Option.not_isSome, same]

end Cursor

namespace Compile

/-- A computation comes to the same if what was known from the memory is read anew. -/
abbrev SameAnew (computation anew : Compile α) : Prop :=
  Forgets TextPlace.IsUnclosed TextPlace.CountsAlike computation anew

/-- So does trying a rule. -/
abbrev RuleSameAnew (computation anew : Compile (Option Cursor)) : Prop :=
  RuleForgets TextPlace.IsUnclosed TextPlace.CountsAlike computation anew

end Compile

/--
What is known of parsers of what is inside, and of other ones to which nothing is known when
they read a phrase: phrases end where brackets are counted, those that are read anew only look
names up and add nothing to the memory, and rules that do not apply restore the state.
-/
structure Inner.Comparable (inner anew : Inner) : Prop where
  follows : inner.FollowsCount
  anewFollows : anew.FollowsCount
  anewLooksUp : anew.LooksUp
  anewForgets (mode : PhraseMode) (depth : Nat) (buffer : String) (cursor : Cursor) :
    ∀ workspace,
      (Compile.workspaceAfter (anew.phraseFrom mode depth buffer cursor workspace)).unclosed =
        workspace.unclosed
  restores : ∀ rule ∈ attemptedRules inner, ∀ cursor, Compile.Restores cursor rule
  anewRestores : ∀ rule ∈ attemptedRules anew, ∀ cursor, Compile.Restores cursor rule

/-- Parsers of what is inside come to the same if all is read anew. -/
structure Inner.SameAnew (inner anew : Inner) : Prop extends Inner.Comparable inner anew where
  phraseFrom (mode : PhraseMode) (depth : Nat) (buffer : String) (cursor : Cursor) :
    Compile.SameAnew (inner.phraseFrom mode depth buffer cursor)
      (anew.phraseFrom mode depth buffer cursor)
  blocks (nested : Bool) (cursor : Cursor) :
    Compile.SameAnew (inner.blocks nested cursor) (anew.blocks nested cursor)
  items (lists : List OpenList) (cursor : Cursor) :
    Compile.SameAnew (inner.items lists cursor) (anew.items lists cursor)
  includeFile (position : Position) (name : String) (id : Option String) :
    Compile.SameAnew (inner.includeFile position name id) (anew.includeFile position name id)

variable {inner anew : Inner} {cursor : Cursor} (same : inner.SameAnew anew)

/-! ## Expansions -/

namespace Compile

section Expansions

include same

theorem expansion_sameAnew (source : Source) (block : Bool) :
    SameAnew (inner.expansion source block) (anew.expansion source block) := by
  unfold Inner.expansion
  split
  · exact (same.blocks false source.cursor).bind fun _ => .pure _
  · exact (same.phraseFrom .expansion 0 "" source.cursor).bind fun _ => .pure _

private theorem expand_sameAnew
    (source : Source)
    (block : Bool)
    (position : Position)
    (what : String) :
    SameAnew (expand inner source block position what)
      (expand anew source block position what) := by
  refine .bind .state fun _ => .bind (.update _) fun _ => ?_
  refine .bind ((expansion_sameAnew same source block).thenAlways _) fun _ => ?_
  split
  · exact .pure ()
  · exact .update _

private theorem expandMacro_sameAnew (position : Position) (name : String) :
    SameAnew (expandMacro inner position name) (expandMacro anew position name) := by
  refine .bind .state fun _ => ?_
  split
  · exact .update _
  · refine .bind (.mayExpand position _) fun _ => ?_
    split
    · exact expand_sameAnew same _ false position _
    · exact .pure ()

private theorem captureArgument_sameAnew (source : Source) :
    SameAnew (captureArgument inner source) (captureArgument anew source) := by
  refine .bind .state fun _ => .bind (.update _) fun _ => ?_
  refine .bind (expansion_sameAnew same source false) fun _ => ?_
  split
  · exact .bind .state fun _ => .bind (.update _) fun _ => .pure _
  · exact .bind (.update _) fun _ => .pure none

private theorem bindArguments_sameAnew
    (position : Position)
    (template : Template)
    (index : Nat)
    (bindings : NameTable Template)
    (arguments : List (String × String)) :
    SameAnew (bindArguments inner position template index bindings arguments)
      (bindArguments anew position template index bindings arguments) := by
  induction arguments generalizing index bindings with
  | nil =>
      exact .pure (some bindings)
  | cons argument rest inductionHypothesis =>
      refine .bind (captureArgument_sameAnew same _) ?_
      rintro (_ | events)
      · exact .bind (.update _) fun _ => .pure none
      · exact inductionHypothesis (index + 1) _

private theorem expandBody_sameAnew
    (position : Position)
    (template : Template)
    (blockContext : Bool)
    (bindings : NameTable Template) :
    SameAnew (expandBody inner position template blockContext bindings)
      (expandBody anew position template blockContext bindings) :=
  .bind (.update _) fun _ => (expand_sameAnew same _ _ position _).thenAlways _

private theorem invokeTemplate_sameAnew
    (position : Position)
    (template : Template)
    (arguments : String)
    (blockContext : Bool) :
    SameAnew (invokeTemplate inner position template arguments blockContext)
      (invokeTemplate anew position template arguments blockContext) := by
  unfold invokeTemplate
  split
  · exact .update _
  · split
    · exact .update _
    · refine .bind (.mayExpand position _) fun _ => ?_
      split
      · refine .bind (bindArguments_sameAnew same position template 1 {} _) ?_
        rintro (_ | bindings)
        · exact .pure ()
        · exact expandBody_sameAnew same position template blockContext bindings
      · exact .pure ()

end Expansions

end Compile

/-! ## Phrases -/

namespace Phrase

open Compile

/-- What is done for a phrase in brackets of which nothing is known. -/
def readNested (inner : Inner) : Rule := fun cursor => do
  if ← enterPhrase cursor then
    let (closed, next) ← thenAlways (inner.phrase .bracketed cursor) leavePhrase
    if closed then
      return some next
    else
      rememberUnclosed cursor
      return none
  else
    match cursor.balanced? with
    | some (_, next) => return some next
    | none =>
        rememberUnclosed cursor
        return none

theorem nested_eq (inner : Inner) (cursor : Cursor) (workspace : Workspace) :
    nested inner cursor workspace =
      if workspace.unclosed.contains cursor.textPlace then
        .ok none workspace
      else
        readNested inner cursor workspace := by
  show
    (if workspace.unclosed.contains cursor.textPlace then (pure none : Compile (Option Cursor))
      else readNested inner cursor) workspace = _
  split <;> rfl

section Rules

include same

/--
A place is remembered behind a phrase that was not closed, which is then not closed by the
count either, and at the limit of nesting where the count finds nothing.
-/
private theorem readNested_sameAnew :
    SameAnew (readNested inner cursor) (readNested anew cursor) := by
  refine .bind (.enterPhrase cursor) fun entered => ?_
  split
  · have phraseGives :
        Gives (thenAlways (inner.phrase .bracketed cursor) leavePhrase) fun ended =>
          cursor.CountsToEnd 0 → cursor.EndsAsCounted 0 ended :=
      Gives.thenAlways (fun workspace ended after outcome alike =>
        same.follows 0 "" cursor alike workspace ended after outcome) leavePhrase
    have phraseSame := (same.phraseFrom .bracketed 0 "" cursor).thenAlways leavePhrase
    refine ForgetsUpTo.bindGives phraseSame phraseGives ?_
    rintro ⟨_ | _, next⟩ counted
    · refine .bind (.rememberUnclosed (Cursor.isUnclosed_textPlace.mpr fun alike => ?_))
        fun _ => .pure none
      exact Option.isNone_iff_eq_none.mp (by simpa using (counted alike).closed.symm)
    · exact .pure (some next)
  · split
    next => exact .pure _
    next notBalanced =>
      refine .bind (.rememberUnclosed (Cursor.isUnclosed_textPlace.mpr fun _ => ?_))
        fun _ => .pure none
      exact Cursor.closingBracket?_eq_none notBalanced

/-- A phrase that is read anew adds no other place to the memory than its own. -/
private theorem nested_remembers :
    Remembers (· = cursor.textPlace) (nested anew cursor) := by
  have enters : Remembers (· = cursor.textPlace) (enterPhrase cursor) :=
    (ForgetsUpTo.enterPhrase cursor : Forgets _ (fun _ => True) _ _).toRemembers
  have phraseRemembers :
      Remembers (· = cursor.textPlace)
        (thenAlways (anew.phrase .bracketed cursor) leavePhrase) :=
    .thenAlways (.of_same (same.anewForgets .bracketed 0 "" cursor)) leavePhrase
  refine .bind .isKnownUnclosed fun known => ?_
  split
  · exact .pure none
  refine .bind enters fun entered => ?_
  split
  · refine .bind phraseRemembers ?_
    rintro ⟨_ | _, next⟩
    · exact .bind (.rememberUnclosed rfl) fun _ => .pure none
    · exact .pure (some next)
  · split
    · exact .pure _
    · exact .bind (.rememberUnclosed rfl) fun _ => .pure none

/--
Where it is known that no bracket is counted, a phrase that is read anew does not end at one
either; it may only run out of steps.
-/
private theorem nested_anew_refuses
    {before less : Workspace}
    (isLess : less.unclosed ⊆ before.unclosed)
    (isKnown : cursor.textPlace ∈ before.unclosed)
    (alike : cursor.CountsToEnd 0)
    (notClosed : cursor.closingBracket? 0 = none) :
    SameButMemory (· = none) (.ok none before) (nested anew cursor less) := by
  let here := less.state.surroundings
  have sameNames : here.SameNames here := fun _ => rfl
  have looksUp :
      SameOutcome here here (nested anew cursor less) (nested anew cursor (less.amid here)) :=
    nested_looksUp same.anewLooksUp sameNames less rfl
  have gives := nested_gives same.anewFollows alike less
  obtain ⟨found, isAfter, areNew⟩ := (nested_remembers same).after less
  generalize nested anew cursor less = outcome, nested anew cursor (less.amid here) = other
    at looksUp gives isAfter
  cases looksUp with
  | ok found after _ =>
      cases found with
      | some next =>
          rw [notClosed] at gives
          cases gives _ _ rfl next rfl
      | none =>
          refine .refused rfl ?_
          rw [show after.unclosed = found ++ less.unclosed from isAfter]
          refine List.append_subset.mpr ⟨fun place isNew => ?_, isLess⟩
          rw [areNew place isNew]
          exact isKnown
  | outOfSteps after _ => exact .outOfSteps _ _

/-- Where a place is known, reading from it anew finds no bracket either. -/
theorem nested_sameAnew : RuleSameAnew (nested inner cursor) (nested anew cursor) where
  after workspace := by
    rw [nested_eq]
    split
    · exact (Remembers.pure none).after workspace
    · exact (readNested_sameAnew same).after workspace
  same before less sameState isLess sound areTrusted := by
    rw [nested_eq] at areTrusted ⊢
    by_cases isKnown : before.unclosed.contains cursor.textPlace
    · rw [if_pos isKnown] at areTrusted ⊢
      have isIn := List.contains_iff_mem.mp isKnown
      have alike := Cursor.countsAlike_textPlace.mp (areTrusted _ isIn)
      exact nested_anew_refuses same isLess isIn alike
        (Cursor.isUnclosed_textPlace.mp (sound _ isIn) alike)
    · have isUnknown : ¬ less.unclosed.contains cursor.textPlace := fun isIn =>
        isKnown (List.contains_iff_mem.mpr (isLess (List.contains_iff_mem.mp isIn)))
      rw [if_neg isKnown] at areTrusted ⊢
      rw [nested_eq, if_neg isUnknown]
      exact (ForgetsUpTo.of_forgets (readNested_sameAnew same)).same before less sameState isLess
        sound areTrusted

private theorem bracketed_sameAnew (name : String) (attributes : List Attribute) :
    RuleSameAnew (bracketed inner name attributes cursor)
      (bracketed anew name attributes cursor) := by
  refine .bind (.update _) fun _ => ?_
  refine .bindRule (nested_sameAnew same) rfl rfl fun _ => ?_
  exact .bind (.update _) fun _ => .pure _

private theorem linked_sameAnew (name key target : String) :
    RuleSameAnew (linked inner name key target cursor) (linked anew name key target cursor) := by
  unfold linked
  simp only
  split
  · exact .bind (.update _) fun _ => .pure _
  · exact bracketed_sameAnew same name _

private theorem styled_sameAnew : RuleSameAnew (styled inner cursor) (styled anew cursor) := by
  unfold styled
  split
  · exact bracketed_sameAnew same _ []
  · exact .pure none

private theorem url_sameAnew : RuleSameAnew (url inner cursor) (url anew cursor) := by
  unfold url
  split
  · exact linked_sameAnew same ..
  · exact .pure none

private theorem link_sameAnew : RuleSameAnew (link inner cursor) (link anew cursor) := by
  unfold link
  split
  · exact linked_sameAnew same ..
  · exact .pure none

private theorem footnote_sameAnew :
    RuleSameAnew (footnote inner cursor) (footnote anew cursor) := by
  unfold footnote
  split
  · exact bracketed_sameAnew same _ []
  · exact .pure none

private theorem conditional_sameAnew :
    RuleSameAnew (conditional inner cursor) (conditional anew cursor) := by
  unfold conditional
  split
  · exact .pure none
  · refine .bind .state fun _ => ?_
    split
    · refine .bindRule (nested_sameAnew same) rfl rfl fun _ => ?_
      exact .pure _
    · exact .pure _

private theorem templateCall_sameAnew :
    RuleSameAnew (templateCall inner cursor) (templateCall anew cursor) := by
  unfold templateCall
  split
  · exact .pure none
  · split
    · exact .pure none
    · refine .bind .state fun _ => ?_
      split
      · exact .bind (.update _) fun _ => .pure _
      · exact .bind (invokeTemplate_sameAnew same ..) fun _ => .pure _

end Rules

private theorem anchor_sameAnew : RuleSameAnew (anchor cursor) (anchor cursor) := by
  unfold anchor
  split
  · exact .bind (.update _) fun _ => .pure _
  · exact .pure none

private theorem image_sameAnew : RuleSameAnew (image cursor) (image cursor) := by
  unfold image
  split
  · exact .bind (.update _) fun _ => .pure _
  · exact .pure none

private theorem lineBreak_sameAnew : RuleSameAnew (lineBreak cursor) (lineBreak cursor) := by
  unfold lineBreak
  split
  · exact .bind (.update _) fun _ => .pure _
  · exact .pure none

private theorem inlineCode_sameAnew : RuleSameAnew (inlineCode cursor) (inlineCode cursor) := by
  unfold inlineCode
  split
  · exact .bind (.update _) fun _ => .pure _
  · exact .pure none

private theorem rawEscape_sameAnew : RuleSameAnew (rawEscape cursor) (rawEscape cursor) := by
  unfold rawEscape
  split
  · exact .bind (.update _) fun _ => .pure _
  · exact .pure none

section Steps

include same

private theorem elements_sameAnew :
    SameAnew (firstOf (elements inner) cursor) (firstOf (elements anew) cursor) := by
  refine RuleForgets.firstOf ?_ ?_ ?_
  · exact
      .cons (.pure _) <| .cons (styled_sameAnew same) <| .cons (url_sameAnew same) <|
      .cons (link_sameAnew same) <| .cons anchor_sameAnew <| .cons image_sameAnew <|
      .cons (footnote_sameAnew same) <| .cons lineBreak_sameAnew <|
      .cons (conditional_sameAnew same) <| .cons (templateCall_sameAnew same) .nil
  · exact fun rule isElement => same.restores rule (by simp [attemptedRules, isElement]) cursor
  · exact fun rule isElement => same.anewRestores rule (by simp [attemptedRules, isElement]) cursor

private theorem quotations_sameAnew :
    SameAnew (firstOf quotations cursor) (firstOf quotations cursor) := by
  refine RuleForgets.firstOf ?_ ?_ ?_
  · exact .cons inlineCode_sameAnew <| .cons rawEscape_sameAnew .nil
  all_goals
    exact fun rule isQuotation =>
      same.restores rule (by simp [attemptedRules, isQuotation]) cursor

private theorem name_sameAnew
    (mode : PhraseMode)
    (depth : Nat)
    (buffer word : String)
    (next : Cursor) :
    SameAnew (name inner mode depth buffer cursor word next)
      (name anew mode depth buffer cursor word next) := by
  refine .bind .state fun _ => ?_
  split
  · refine .bind (.update _) fun _ => ?_
    refine .bind (expandMacro_sameAnew same cursor.position word) fun _ => ?_
    exact same.phraseFrom mode depth "" next
  · exact same.phraseFrom mode depth _ next

omit same in
private theorem stopsAtLineFeed_sameAnew (mode : PhraseMode) :
    SameAnew (stopsAtLineFeed mode cursor) (stopsAtLineFeed mode cursor) := by
  unfold stopsAtLineFeed
  split
  · exact .bind .state fun _ => .pure _
  · exact .pure false

theorem step_sameAnew (mode : PhraseMode) (depth : Nat) (buffer : String) :
    SameAnew (step inner mode depth buffer cursor) (step anew mode depth buffer cursor) := by
  unfold step
  split
  · exact .bind (.update _) fun _ => .pure _
  split
  · split
    · exact .bind (.update _) fun _ => .pure _
    · exact same.phraseFrom ..
  split
  · refine .bind (stopsAtLineFeed_sameAnew mode) fun _ => ?_
    split
    · exact .bind (.update _) fun _ => .pure _
    · exact same.phraseFrom ..
  split
  · refine .bind (.update _) fun _ => ?_
    refine .bind (elements_sameAnew same) ?_
    rintro (_ | next) <;> exact same.phraseFrom ..
  split
  · exact same.phraseFrom ..
  split
  · refine .bind (.update _) fun _ => .bind (quotations_sameAnew same) ?_
    rintro (_ | next) <;> exact same.phraseFrom ..
  split
  · exact name_sameAnew same ..
  · unfold plain
    split <;> exact same.phraseFrom ..

end Steps

end Phrase

/-! ## Tables -/

namespace Table

open Compile

include same in
private theorem titlePhrase_sameAnew (position : Position) (title : String) :
    SameAnew (titlePhrase inner position title) (titlePhrase anew position title) := by
  unfold titlePhrase
  split
  · exact .pure true
  · refine .bind (.update _) fun _ => ?_
    refine .bind (expansion_sameAnew same _ false) fun _ => ?_
    split
    · exact .bind (.update _) fun _ => .pure true
    · exact .pure false

/-- What is done behind what a table, a row or a list of variables holds. -/
private theorem closing_sameAnew
    {content anewContent : Compile (Option Cursor)}
    (contentSame : RuleSameAnew content anewContent)
    (change : CompilerState → CompilerState) :
    RuleSameAnew
      (do
        match ← content with
        | none => return none
        | some next =>
            match closing next with
            | none => return none
            | some after =>
                update change
                return some after)
      (do
        match ← anewContent with
        | none => return none
        | some next =>
            match closing next with
            | none => return none
            | some after =>
                update change
                return some after) := by
  refine contentSame.bindRule rfl rfl fun _ => ?_
  simp only
  split
  · exact .pure none
  · exact .bind (.update _) fun _ => .pure _

section Rules

include same

private theorem cell_sameAnew (name : Option String) :
    RuleSameAnew (cell inner name cursor) (cell anew name cursor) := by
  unfold cell
  cases name with
  | none =>
      exact .bindRule (Phrase.nested_sameAnew same) rfl rfl fun _ => .pure _
  | some element =>
      refine .bind (.update _) fun _ => ?_
      refine .bindRule (Phrase.nested_sameAnew same) rfl rfl fun _ => ?_
      exact .bind (.update _) fun _ => .pure _

private theorem cells_sameAnew (name : Option String) (outlines : List Nat) :
    RuleSameAnew (cells inner name outlines cursor) (cells anew name outlines cursor) := by
  induction outlines generalizing cursor with
  | nil =>
      exact .pure (some cursor)
  | cons _ others inductionHypothesis =>
      refine .bindRule (cell_sameAnew same name) rfl rfl fun _ => ?_
      exact inductionHypothesis

private theorem row_sameAnew (columns : Nat) (outline : RowOutline) :
    RuleSameAnew (row inner columns outline cursor) (row anew columns outline cursor) := by
  refine .bind (.update _) fun _ => ?_
  exact closing_sameAnew (cells_sameAnew same (some "entry") outline.cells) _

private theorem rows_sameAnew (columns : Nat) (outlines : List RowOutline) :
    RuleSameAnew (rows inner columns outlines cursor) (rows anew columns outlines cursor) := by
  induction outlines generalizing cursor with
  | nil =>
      exact .pure (some cursor)
  | cons outline others inductionHypothesis =>
      refine .bindRule (row_sameAnew same columns outline) rfl rfl fun _ => ?_
      exact inductionHypothesis

private theorem group_sameAnew (columns : Nat) (name : String) (outlines : List RowOutline) :
    RuleSameAnew (group inner columns name outlines cursor)
      (group anew columns name outlines cursor) := by
  refine .bind (.update _) fun _ => ?_
  refine .bindRule (rows_sameAnew same columns outlines) rfl rfl fun _ => ?_
  exact .bind (.update _) fun _ => .pure _

private theorem groups_sameAnew (columns : Nat) (outlines : List RowOutline) :
    RuleSameAnew (groups inner columns outlines cursor) (groups anew columns outlines cursor) := by
  unfold groups
  split
  · refine .bindRule (group_sameAnew same ..) rfl rfl fun _ => ?_
    exact group_sameAnew same ..
  · exact group_sameAnew same ..

private theorem body_sameAnew (outlines : List RowOutline) :
    RuleSameAnew (body inner outlines cursor) (body anew outlines cursor) := by
  unfold body
  split
  · exact .pure _
  · refine .bind (.update _) fun _ => ?_
    refine .bindRule (groups_sameAnew same ..) rfl rfl fun _ => ?_
    exact .bind (.update _) fun _ => .pure _

theorem rule_sameAnew : RuleSameAnew (rule inner cursor) (rule anew cursor) := by
  unfold rule
  split
  · exact .pure none
  · simp only
    split
    · exact .pure none
    · refine .bind (.update _) fun _ => .bind (titlePhrase_sameAnew same ..) fun _ => ?_
      split
      · exact closing_sameAnew (body_sameAnew same _) _
      · exact .pure none

private theorem variableEntry_sameAnew (outline : RowOutline) :
    RuleSameAnew (variableEntry inner outline cursor) (variableEntry anew outline cursor) := by
  refine .bind (.update _) fun _ => ?_
  refine .bindRule (cells_sameAnew same ..) rfl rfl fun _ => ?_
  refine .bind (.update _) fun _ => ?_
  refine .bindRule (cells_sameAnew same ..) rfl rfl fun _ => ?_
  exact .bind (.update _) fun _ => .pure _

private theorem variableEntries_sameAnew (outlines : List RowOutline) :
    RuleSameAnew (variableEntries inner outlines cursor)
      (variableEntries anew outlines cursor) := by
  induction outlines generalizing cursor with
  | nil =>
      exact .pure (some cursor)
  | cons outline others inductionHypothesis =>
      refine .bindRule (variableEntry_sameAnew same outline) rfl rfl fun _ => ?_
      exact inductionHypothesis

theorem variableList_sameAnew :
    RuleSameAnew (variableList inner cursor) (variableList anew cursor) := by
  unfold variableList
  split
  · exact .pure none
  · simp only
    split
    · exact .pure none
    · refine .bind (.update _) fun _ => .bind (titlePhrase_sameAnew same ..) fun _ => ?_
      split
      · exact closing_sameAnew (variableEntries_sameAnew same _) _
      · exact .pure none

end Rules

end Table

/-! ## Lists and blocks -/

namespace Listing

open Compile

include same

theorem step_sameAnew (lists : List OpenList) :
    SameAnew (step inner lists cursor) (step anew lists cursor) := by
  unfold step
  split
  · exact .bind (.update _) fun _ => .pure _
  · refine .bind .state fun _ => .bind (.update _) fun _ => ?_
    refine .bind (same.phraseFrom ..) fun _ => .bind (.update _) fun _ => ?_
    split
    · exact same.items ..
    · exact .bind (.update _) fun _ => .pure _

theorem rule_sameAnew : RuleSameAnew (rule inner cursor) (rule anew cursor) := by
  unfold rule
  split
  · split
    · exact .bind (same.items [] cursor) fun _ => .pure _
    · exact .pure none
  · exact .pure none

end Listing

namespace Block

open Compile

section Rules

include same

private theorem sectionStart_sameAnew :
    RuleSameAnew (sectionStart inner cursor) (sectionStart anew cursor) := by
  refine .bind .state fun _ => ?_
  split
  · exact .pure none
  split
  · exact .pure none
  · simp only
    split
    · exact .pure none
    · refine .bind (.update _) fun _ => ?_
      refine .bindRule (Phrase.nested_sameAnew same) rfl rfl fun _ => ?_
      exact .bind (.update _) fun _ => .pure _

private theorem heading_sameAnew : RuleSameAnew (heading inner cursor) (heading anew cursor) := by
  unfold heading
  split
  · exact .pure none
  · simp only
    split
    · exact .pure none
    · refine .bind (.update _) fun _ => ?_
      refine .bindRule (Phrase.nested_sameAnew same) rfl rfl fun _ => ?_
      exact .bind (.update _) fun _ => .pure _

private theorem preformatted_sameAnew :
    RuleSameAnew (preformatted inner cursor) (preformatted anew cursor) := by
  unfold preformatted
  split
  · exact .pure none
  · refine .bind (.update _) fun _ => ?_
    refine .bindRule (Phrase.nested_sameAnew same) rfl rfl fun _ => ?_
    exact .bind (.update _) fun _ => .pure _

end Rules

private theorem sectionEnd_sameAnew : RuleSameAnew (sectionEnd cursor) (sectionEnd cursor) := by
  refine .bind .state fun _ => ?_
  split
  · exact .pure none
  split
  · exact .pure none
  · exact .bind (.closeSection cursor.position) fun _ => .pure _

private theorem macroDefinition_sameAnew :
    RuleSameAnew (macroDefinition cursor) (macroDefinition cursor) := by
  unfold macroDefinition
  split
  · exact .pure none
  split
  · exact .pure none
  · exact .bind (.update _) fun _ => .pure _

private theorem templateDefinition_sameAnew :
    RuleSameAnew (templateDefinition cursor) (templateDefinition cursor) := by
  unfold templateDefinition
  split
  · exact .pure none
  · simp only
    split
    · exact .pure none
    · exact .bind (.update _) fun _ => .pure _

private theorem externalInclusion_sameAnew :
    RuleSameAnew (externalInclusion cursor) (externalInclusion cursor) := by
  unfold externalInclusion
  split
  · exact .pure none
  split
  · exact .pure none
  · exact .bind (.update _) fun _ => .pure _

private theorem fencedCode_sameAnew : RuleSameAnew (fencedCode cursor) (fencedCode cursor) := by
  unfold fencedCode
  split
  · split
    · exact .pure none
    · exact .bind (.update _) fun _ => .pure _
  · exact .pure none

private theorem indentedCode_sameAnew :
    RuleSameAnew (indentedCode cursor) (indentedCode cursor) := by
  unfold indentedCode
  split
  · exact .pure none
  · exact .bind (.update _) fun _ => .pure _

section Inside

include same

private theorem inclusion_sameAnew :
    RuleSameAnew (inclusion inner cursor) (inclusion anew cursor) := by
  unfold inclusion
  split
  · exact .pure none
  split
  · exact .pure none
  · exact .bind (same.includeFile ..) fun _ => .pure _

private theorem nestedBlocks_sameAnew (name : String) :
    RuleSameAnew (nestedBlocks inner name cursor) (nestedBlocks anew name cursor) := by
  refine .bind (.update _) fun _ => .bind (same.blocks true cursor) fun _ => ?_
  split
  · exact .pure none
  · exact .bind (.update _) fun _ => .pure _

private theorem admonition_sameAnew :
    RuleSameAnew (admonition inner cursor) (admonition anew cursor) := by
  unfold admonition
  split
  · exact nestedBlocks_sameAnew same _
  · exact .pure none

private theorem quotation_sameAnew :
    RuleSameAnew (quotation inner cursor) (quotation anew cursor) := by
  unfold quotation
  split
  · exact nestedBlocks_sameAnew same _
  · exact .pure none

private theorem templateCall_sameAnew :
    RuleSameAnew (templateCall inner cursor) (templateCall anew cursor) := by
  unfold templateCall
  split
  · exact .pure none
  · refine .bind .state fun _ => ?_
    split
    · exact .pure none
    split
    · split
      · exact .pure none
      · exact .bind (invokeTemplate_sameAnew same ..) fun _ => .pure _
    · exact .pure none

private theorem paragraph_sameAnew :
    RuleSameAnew (paragraph inner cursor) (paragraph anew cursor) := by
  refine .bind (.update _) fun _ => .bind (same.phraseFrom ..) ?_
  rintro ⟨_, next⟩
  simp only
  split
  · exact .pure none
  · exact .bind (.update _) fun _ => .pure _

end Inside

include same

private theorem elements_sameAnew :
    SameAnew (firstOf (elements inner) cursor) (firstOf (elements anew) cursor) := by
  refine RuleForgets.firstOf ?_ ?_ ?_
  · exact
      .cons (.pure _) <| .cons (sectionStart_sameAnew same) <| .cons sectionEnd_sameAnew <|
      .cons (heading_sameAnew same) <| .cons macroDefinition_sameAnew <|
      .cons templateDefinition_sameAnew <| .cons (inclusion_sameAnew same) <|
      .cons externalInclusion_sameAnew <| .cons (admonition_sameAnew same) <|
      .cons (quotation_sameAnew same) <| .cons (preformatted_sameAnew same) <|
      .cons (Table.rule_sameAnew same) <| .cons (Table.variableList_sameAnew same) <|
      .cons (templateCall_sameAnew same) .nil
  · exact fun rule isElement => same.restores rule (by simp [attemptedRules, isElement]) cursor
  · exact fun rule isElement => same.anewRestores rule (by simp [attemptedRules, isElement]) cursor

private theorem element_sameAnew (nested : Bool) :
    RuleSameAnew (element inner nested cursor) (element anew nested cursor) := by
  unfold element
  split
  · refine .bind (elements_sameAnew same) ?_
    rintro (_ | next)
    · exact .pure none
    · simp only
      split <;> exact .pure _
  · exact .pure none

private theorem rules_sameAnew (nested : Bool) :
    SameAnew (firstOf (rules inner nested) cursor) (firstOf (rules anew nested) cursor) := by
  have areTried (any : Inner) : ∀ rule ∈ rules any nested, rule ∈ attemptedRules any := by
    cases nested <;> intro rule isRule <;> simp [attemptedRules, isRule]
  refine RuleForgets.firstOf ?_ ?_ ?_
  · refine
      .cons (element_sameAnew same nested) <| .cons fencedCode_sameAnew <|
      .cons (Listing.rule_sameAnew same) ?_
    cases nested with
    | true => exact .cons (paragraph_sameAnew same) .nil
    | false => exact .cons indentedCode_sameAnew <| .cons (paragraph_sameAnew same) .nil
  · exact fun rule isRule => same.restores rule (areTried inner rule isRule) cursor
  · exact fun rule isRule => same.anewRestores rule (areTried anew rule isRule) cursor

theorem step_sameAnew (nested : Bool) :
    SameAnew (step inner nested cursor) (step anew nested cursor) := by
  unfold step
  split
  · exact .pure cursor
  · simp only
    generalize (if nested then cursor.skipHorizontal else cursor) = start
    split
    · exact .pure _
    split
    · exact same.blocks ..
    · refine .bind (rules_sameAnew same nested) ?_
      rintro (_ | next)
      · exact .pure _
      · exact same.blocks ..

end Block

end DocMarkup
