import DocMarkup.Proofs.Grammar.Definition
import DocMarkup.Proofs.Grammar.Memory
import DocMarkup.Proofs.Mirror.Everywhere

namespace DocMarkup

open Compile

/-!
# Reading without the memory

Parsers that forget start with nothing remembered whenever one of them is called, and leave
nothing in the memory. They come to the same as those that remember, if all that these
remember in the end counts alike. So what has been remembered by parsing one text after
another does no harm there.
-/

/-! ## Included files -/

namespace Compile

variable {property trusted : TextPlace → Prop}

/--
What is read with a memory of its own comes to the same whatever is remembered outside, since
it does not look at the paths that were asked for.
-/
theorem ForgetsUpTo.withItsOwnMemory
    {computation : Compile α}
    (ignores : IgnoresFrames computation) :
    Forgets property trusted (Compile.withFreshMemory computation)
      (Compile.withFreshMemory computation) where
  toRemembers := .withFreshMemory computation
  same before less sameState isLess _ _ := by
    let start : Workspace := { state := before.state }
    have isStart (workspace : Workspace) (sameStart : workspace.state = before.state) :
        ({ workspace with unclosed := [] } : Workspace) =
          start.framed { consulted := workspace.consulted } := by
      simp [start, Workspace.framed, sameStart]
    unfold Compile.withFreshMemory
    rw [isStart before rfl, isStart less sameState, ignores, ignores]
    cases computation start with
    | ok value after => exact .ok value (by simp [Workspace.framed]) isLess
    | error fault after => exact .error fault (by simp [Workspace.framed])

variable (environment : Environment) (steps : Nat)

/-- The text of an included file is read alike, whatever was asked for before. -/
private theorem parseText_ignoresFrames (source : Source) :
    IgnoresFrames (parseText environment (Inner.within environment steps) source true) :=
  Mirrors.ignoresFrames fun frame stack =>
    parseText_mirrors (Inner.within_mirrors_itself environment steps frame stack) trivial true
      fun _ _ _ => processDocInfo_ignored_mirrors rfl _

private theorem parseUnitOf_sameAnew (file : Path) (source : Source) :
    SameAnew (parseUnitOf environment (Inner.within environment steps) file source true)
      (parseUnitOf environment (Inner.within environment steps) file source true) := by
  have unit :
      SameAnew (parseUnit environment (Inner.within environment steps) source true)
        (parseUnit environment (Inner.within environment steps) source true) :=
    .bind (.withItsOwnMemory (parseText_ignoresFrames environment steps source)) fun _ => .pure _
  exact .bind (.update _) fun _ => unit.thenAlways popFile

private theorem parseFile_sameAnew (path : Path) (origin : Option Position) :
    SameAnew (parseFile environment (Inner.within environment steps) path true origin)
      (parseFile environment (Inner.within environment steps) path true origin) := by
  refine .bind (.consult _) fun _ => ?_
  split
  · exact .throw _
  · exact .bind (.update _) fun _ => .pure _
  · exact .bind (.ofPath _) fun file => parseUnitOf_sameAnew environment steps file _

private theorem parseIncluded_sameAnew (position : Position) (path : Path) (id : Option String) :
    SameAnew (parseIncluded environment (Inner.within environment steps) position path id)
      (parseIncluded environment (Inner.within environment steps) position path id) := by
  refine .bind .state fun before => ?_
  have read (change : CompilerState → CompilerState) :=
    (parseFile_sameAnew environment steps path (some position)).thenAlways change
  split
  · exact .bind (.update _) fun _ => .bind (read _) fun _ => .pure _
  · exact .bind (read _) fun _ => .pure _

/-- Included files are read with memories of their own. -/
theorem includeFile_sameAnew (position : Position) (name : String) (id : Option String) :
    SameAnew (includeFile environment (Inner.within environment steps) position name id)
      (includeFile environment (Inner.within environment steps) position name id) := by
  refine .bind .state fun before => .bind (.ofPath _) fun requested => ?_
  refine .bind (.consult _) fun _ => .bind (.ofPath _) fun file => ?_
  split
  · exact .update _
  split
  · exact .update _
  · exact parseIncluded_sameAnew environment steps position _ id

end Compile

/-! ## Parsers that forget -/

namespace Inner

variable {environment : Environment} {longest : Nat} {affordable : Prop}

/--
The parsers to which nothing is known when they are called, and which leave nothing in the
memory. Files are included as ever, since each of them is read with a memory of its own.
-/
def forgetting (environment : Environment) : Nat → Inner
  | 0 => within environment 0
  | steps + 1 =>
      { phraseFrom := fun mode depth buffer cursor =>
          withFreshMemory (Phrase.step (forgetting environment steps) mode depth buffer cursor)
        blocks := fun nested cursor =>
          withFreshMemory (Block.step (forgetting environment steps) nested cursor)
        items := fun lists cursor =>
          withFreshMemory (Listing.step (forgetting environment steps) lists cursor)
        includeFile := Compile.includeFile environment (within environment steps) }

/-- They may be relied on, too. -/
theorem forgetting_sound
    (filesBounded : environment.files.Bounded longest)
    (steps : Nat) :
    (forgetting environment steps).Sound environment.files longest steps affordable
      (forgetting environment steps) := by
  induction steps with
  | zero =>
      exact .zero
  | succ steps inductionHypothesis =>
      exact
        { phraseFrom := fun mode depth buffer ready =>
            (Phrase.step_ends inductionHypothesis ready mode depth buffer).withFreshMemory
          blocks := fun nested ready isCalm =>
            (Block.step_ends inductionHypothesis nested ready isCalm).withFreshMemory
          items := fun _ ready areLists =>
            (Listing.step_ends inductionHypothesis ready areLists).withFreshMemory
          includeFile := (within_sound filesBounded (steps + 1)).includeFile }

private theorem forgetting_looksUp (environment : Environment) (steps : Nat) :
    (forgetting environment steps).LooksUp := by
  induction steps with
  | zero =>
      exact within_looksUp environment 0
  | succ steps inductionHypothesis =>
      intro here there same mode depth buffer cursor
      exact (Phrase.step_looksUp inductionHypothesis same mode depth buffer).withFreshMemory

private theorem forgetting_followsCount (environment : Environment) (steps : Nat) :
    (forgetting environment steps).FollowsCount := by
  induction steps with
  | zero =>
      exact within_followsCount environment 0
  | succ steps inductionHypothesis =>
      intro depth buffer cursor alike
      exact (Phrase.step_gives inductionHypothesis alike).withFreshMemory

private theorem forgetting_forgets
    (environment : Environment)
    (steps : Nat)
    (mode : PhraseMode)
    (depth : Nat)
    (buffer : String)
    (cursor : Cursor)
    (workspace : Workspace) :
    (workspaceAfter
      ((forgetting environment steps).phraseFrom mode depth buffer cursor workspace)).unclosed =
        workspace.unclosed := by
  cases steps with
  | zero =>
      rfl
  | succ steps =>
      show (workspaceAfter (withFreshMemory _ workspace)).unclosed = _
      unfold withFreshMemory
      split <;> rfl

/-- Rules restore the state if the parsers of what is inside may be relied on. -/
private theorem restores_of_sound
    {inner reference : Inner}
    (sound :
      ∀ {longest : Nat}, environment.files.Bounded longest →
        inner.Sound environment.files longest steps False reference) :
    ∀ rule ∈ attemptedRules inner, ∀ cursor, Restores cursor rule := by
  intro rule isTried cursor before after outcome
  have short :
      cursor.rest.length ≤ longestText environment before.state cursor.rest.length :=
    CompilerState.given_le_longestText
  obtain ⟨_, ends⟩ :=
    attemptedRules_end (sound CompilerState.files_bounded_longestText)
      CompilerState.bounded_longestText short isTried
  have tried := (Ends.attempt ends before rfl).2
  rw [outcome] at tried
  exact tried

/-- Parsers that remember and those that forget can be compared. -/
private theorem within_comparable (environment : Environment) (steps : Nat) :
    (within environment steps).Comparable (forgetting environment steps) where
  follows := within_followsCount environment steps
  anewFollows := forgetting_followsCount environment steps
  anewLooksUp := forgetting_looksUp environment steps
  anewForgets := forgetting_forgets environment steps
  restores := restores_of_sound fun filesBounded => within_sound filesBounded steps
  anewRestores := restores_of_sound fun filesBounded => forgetting_sound filesBounded steps

/-- With as many steps, they come to the same. -/
theorem within_sameAnew (environment : Environment) (steps : Nat) :
    (within environment steps).SameAnew (forgetting environment steps) := by
  induction steps with
  | zero =>
      exact
        { within_comparable environment 0 with
          phraseFrom := fun _ _ _ _ => .throw _
          blocks := fun _ _ => .throw _
          items := fun _ _ => .throw _
          includeFile := fun _ _ _ => .throw _ }
  | succ steps inductionHypothesis =>
      exact
        { within_comparable environment (steps + 1) with
          phraseFrom := fun mode depth buffer _ =>
            (Phrase.step_sameAnew inductionHypothesis mode depth buffer).withFreshMemory
          blocks := fun nested _ =>
            (Block.step_sameAnew inductionHypothesis nested).withFreshMemory
          items := fun lists _ =>
            (Listing.step_sameAnew inductionHypothesis lists).withFreshMemory
          includeFile := includeFile_sameAnew environment steps }

end Inner

/-! ## Parsing with one memory -/

/-- What is parsed from a cursor on: a phrase, or blocks. -/
inductive Parse where
  | phrase (mode : PhraseMode) (cursor : Cursor)
  | blocks (nested : Bool) (cursor : Cursor)

namespace Parse

variable {environment : Environment} {longest steps : Nat} {affordable : Prop}
  {inner anew : Inner} {before : CompilerState}

/-- Where parsing starts. -/
def cursor : Parse → Cursor
  | phrase _ start => start
  | blocks _ start => start

/-- Parse, and tell where parsing ended and, of a phrase, whether it ended as demanded. -/
def run (inner : Inner) : Parse → Compile (Bool × Cursor)
  | phrase mode start => inner.phrase mode start
  | blocks nested start => do return (true, ← inner.blocks nested start)

private theorem run_sameAnew (same : inner.SameAnew anew) (parse : Parse) :
    SameAnew (parse.run inner) (parse.run anew) := by
  cases parse with
  | phrase mode start => exact same.phraseFrom mode 0 "" start
  | blocks nested start => exact .bind (same.blocks nested start) fun _ => .pure _

private theorem run_ends
    (sound : inner.Sound environment.files longest steps affordable inner)
    (parse : Parse)
    (ready : Ready longest steps affordable before parse.cursor.rest.length 3) :
    Ends before (parse.run inner) (parse.run inner) (Expected environment.files affordable False)
      fun _ _ => True := by
  cases parse with
  | phrase mode start =>
      refine (sound.phraseFrom mode 0 "" (ready.nearer (Nat.le_refl _) ?_)).imp (fun _ => id)
        fun _ _ _ => trivial
      omega
  | blocks nested start =>
      exact (sound.blocks nested ready False.elim).bind fun _ _ _ => .pure trivial

end Parse

/--
What may be remembered when phrases and blocks have been parsed one after another, in any
texts and from any states, with one memory.
-/
inductive Remembered (environment : Environment) : List TextPlace → Prop
  | nothing : Remembered environment []
  | parse
      {workspace : Workspace}
      (earlier : Remembered environment workspace.unclosed)
      (steps : Nat)
      (next : Parse) :
      Remembered environment
        (workspaceAfter (next.run (Inner.within environment steps) workspace)).unclosed

/-- Whatever was parsed before, all places that are remembered are unclosed. -/
theorem Remembered.isUnclosed
    {environment : Environment}
    {memory : List TextPlace}
    (remembered : Remembered environment memory) :
    ∀ place ∈ memory, place.IsUnclosed := by
  induction remembered with
  | nothing =>
      exact List.forall_mem_nil _
  | parse _ steps next unclosed =>
      have same := Inner.within_sameAnew environment steps
      exact (next.run_sameAnew same).forall_mem unclosed

/--
A phrase in brackets from a cursor on comes to an end and is not closed, in every state within
the limits of nesting, and whatever is remembered.
-/
def Cursor.NeverCloses (environment : Environment) (cursor : Cursor) : Prop :=
  ∀ (workspace : Workspace) (steps : Nat),
    workspace.state.expansionDepth ≤ expansionLimit →
      workspace.state.phraseDepth ≤ phraseLimit →
        enoughSteps environment workspace.state cursor.rest.length ≤ steps →
          ∃ next after,
            (Inner.within environment steps).phrase .bracketed cursor workspace =
              .ok (false, next) after

/-- An unclosed place is one from which no phrase is closed, if all counts alike there. -/
private theorem neverCloses_of_isUnclosed
    {environment : Environment}
    {cursor : Cursor}
    (isUnclosed : cursor.textPlace.IsUnclosed)
    (alike : cursor.CountsToEnd 0) :
    cursor.NeverCloses environment := by
  intro workspace steps expansions phrases enough
  have looksUp : (Inner.within environment steps).LooksUp :=
    Inner.within_looksUp environment steps
  have sound :
      (Inner.within environment steps).Sound environment.files
        (longestText environment workspace.state cursor.rest.length) steps True
        (Inner.within environment steps) :=
    Inner.within_sound CompilerState.files_bounded_longestText steps
  obtain ⟨⟨closed, next⟩, after, outcome⟩ :=
    exists_ok_of_ends workspace expansions phrases CompilerState.given_le_longestText enough
      (fun same => looksUp same .bracketed 0 "" cursor)
      (fun ready => sound.phraseFrom .bracketed 0 "" ready)
  have follows := Inner.within_followsCount environment steps 0 "" cursor alike
  have counted := (follows workspace _ after outcome).closed
  rw [Cursor.isUnclosed_textPlace.mp isUnclosed alike, Option.isSome_none] at counted
  obtain rfl : closed = false := counted
  exact ⟨next, after, outcome⟩

/-- How a computation ends, whatever is remembered then: with a value or a fault, and a state. -/
def Compile.ending : EStateM.Result Fault Workspace α → Except Fault α × CompilerState
  | .ok value after => (.ok value, after.state)
  | .error fault after => (.error fault, after.state)

/--
Where all that is remembered in the end counts alike, parsing comes to the same if all is
forgotten. With enough steps, it does not run out of them by reading so much more.
-/
private theorem Parse.ending_forgetting
    {environment : Environment}
    {workspace : Workspace}
    (unclosed : ∀ place ∈ workspace.unclosed, place.IsUnclosed)
    (parse : Parse)
    (steps : Nat)
    (limits : workspace.state.WithinLimits)
    (enough : enoughSteps environment workspace.state parse.cursor.rest.length ≤ steps)
    (alike :
      ∀ place ∈ (workspaceAfter (parse.run (Inner.within environment steps) workspace)).unclosed,
        place.CountsAlike) :
    ending (parse.run (Inner.within environment steps) workspace) =
      ending
        (parse.run (Inner.forgetting environment steps) { workspace with unclosed := [] }) := by
  let forgetful : Workspace := { workspace with unclosed := [] }
  have needed :=
    Nat.le_trans (neededSteps_le_enoughSteps parse.cursor.rest.length) enough
  have ready :
      Ready (longestText environment workspace.state parse.cursor.rest.length) steps True
        forgetful.state parse.cursor.rest.length 3 :=
    ready_of_neededSteps CompilerState.bounded_longestText CompilerState.given_le_longestText
      (fun _ => needed) limits
  have ends :=
    parse.run_ends
      (Inner.forgetting_sound CompilerState.files_bounded_longestText steps) ready
  have reached :=
    (parse.run_sameAnew (Inner.within_sameAnew environment steps)).same workspace forgetful rfl
      (List.nil_subset _) unclosed alike
  change _ = ending (parse.run (Inner.forgetting environment steps) forgetful)
  generalize parse.run (Inner.within environment steps) workspace = outcome,
    isAnew : parse.run (Inner.forgetting environment steps) forgetful = anew at reached
  cases reached with
  | ok value sameAfter => simp only [ending, sameAfter]
  | refused isRefusal => exact isRefusal.elim
  | error fault sameAfter => simp only [ending, sameAfter]
  | outOfSteps _ after => exact absurd trivial (ends.of_error rfl isAnew)

/--
What is remembered is right wherever all that is read counts alike, whatever was parsed before
and with whatever macros, templates and depths of nesting: from a remembered place on, no phrase
is ever closed. So if this is the case with all that is remembered in the end, parsing comes to
the same value and the same state as if nothing had been remembered, before or on the way.
-/
theorem remembered_brackets_are_unclosed
    {environment : Environment}
    {workspace : Workspace}
    (remembered : Remembered environment workspace.unclosed)
    (parse : Parse)
    (steps : Nat)
    (limits : workspace.state.WithinLimits)
    (enough : enoughSteps environment workspace.state parse.cursor.rest.length ≤ steps) :
    let outcome := parse.run (Inner.within environment steps) workspace
    let forgetful :=
      parse.run (Inner.forgetting environment steps) { workspace with unclosed := [] }
    (∀ cursor : Cursor,
        cursor.textPlace ∈ (workspaceAfter outcome).unclosed →
          cursor.CountsToEnd 0 → cursor.NeverCloses environment) ∧
      ((∀ place ∈ (workspaceAfter outcome).unclosed, place.CountsAlike) →
        ending outcome = ending forgetful) := by
  intro outcome forgetful
  have later : Remembered environment (workspaceAfter outcome).unclosed :=
    remembered.parse steps parse
  constructor
  · intro cursor isRemembered alike
    exact neverCloses_of_isUnclosed (later.isUnclosed _ isRemembered) alike
  · exact parse.ending_forgetting remembered.isUnclosed steps limits enough

/--
A bold phrase that is never closed is remembered. It is not closed either when it is read once
more, for which it makes no difference that it is remembered.
-/
theorem remembered_brackets_are_unclosed_in_bold :
    let source : Source := { text := "[*never [_closed] ", name := "document" }
    let content := source.cursorAt 2
    let document : Parse := .blocks false source.cursor
    let left := workspaceAfter (document.run (Inner.within withoutFiles 40) {})
    let paragraph : Parse := .phrase .paragraph source.cursor
    let steps := enoughSteps withoutFiles left.state source.cursor.rest.length
    let outcome := paragraph.run (Inner.within withoutFiles steps) left
    let forgetful :=
      paragraph.run (Inner.forgetting withoutFiles steps) { left with unclosed := [] }
    content.textPlace ∈ left.unclosed ∧
      content.NeverCloses withoutFiles ∧ ending outcome = ending forgetful := by
  intro source content document left paragraph steps outcome forgetful
  have remembered : Remembered withoutFiles left.unclosed :=
    @Remembered.parse withoutFiles {} .nothing 40 document
  have limits : left.state.WithinLimits :=
    { expansions := by decide +kernel
      phrases := by decide +kernel
      inclusions := by decide +kernel
      distinct := by decide +kernel }
  obtain ⟨neverCloses, sameEnding⟩ :=
    remembered_brackets_are_unclosed remembered paragraph steps limits (Nat.le_refl _)
  obtain ⟨isRemembered, isStillRemembered, alike⟩ :
      content.textPlace ∈ left.unclosed ∧
        content.textPlace ∈ (workspaceAfter outcome).unclosed ∧
          ∀ place ∈ (workspaceAfter outcome).unclosed, place.CountsAlike := by
    decide +kernel
  have countsToEnd := Cursor.countsAlike_textPlace.mp (alike _ isStillRemembered)
  exact ⟨isRemembered, neverCloses content isStillRemembered countsToEnd, sameEnding alike⟩

/--
Elsewhere it may be wrong. Inside a note, a macro is defined, so that the content of the
conditional phrase is read: its first bracket is code, the second one closes the condition,
and the bold phrase is remembered as unclosed. The note is not closed, so that the macro is
undefined again. In the state that is left, the condition ends at the first bracket, and the
bold phrase is closed by the second one. So it is not the same document that is read with the
memory and without.
-/
theorem remembered_bracket_is_closed_without_macro :
    let source : Source := { text := "[note [def X y]\n[*[?X `]` ]\n", name := "document" }
    let document : Parse := .blocks false source.cursor
    let inner := Inner.within withoutFiles 60
    let content := source.cursorAt 18
    let left := workspaceAfter (document.run inner {})
    let forgetful := { left with unclosed := [] }
    Remembered withoutFiles left.unclosed ∧
      content.textPlace ∈ left.unclosed ∧
        (match inner.phrase .bracketed content forgetful with
          | .ok (closed, _) _ => closed
          | .error _ _ => false) = true ∧
          (ending (document.run inner {})).2.events ≠
            (ending (document.run (Inner.forgetting withoutFiles 60) {})).2.events := by
  intro source document inner content left forgetful
  exact ⟨@Remembered.parse withoutFiles {} .nothing 60 document, by decide +kernel⟩

end DocMarkup
