import DocMarkup.Proofs.Grammar.Longest
import DocMarkup.Proofs.Grammar.Parser

namespace DocMarkup

open CompilerState

/-!
# Rules are transactions

Rules are only ever tried. Trying one either changes nothing at all, whatever was
expanded, included or defined on the way, or it loses nothing of what there was.
-/

/-- All rules that are tried: those for blocks, and those for what starts in a phrase. -/
def attemptedRules (inner : Inner) : List Rule :=
  Block.rules inner true ++ Block.rules inner false ++ Block.elements inner ++
    Phrase.elements inner ++ Phrase.quotations

/-- Nothing of an earlier state is lost in a later one, and the scopes are the same in number. -/
structure CompilerState.Keeps (earlier later : CompilerState) : Prop where
  events : earlier.events.toList <+: later.events.toList
  diagnostics : earlier.diagnostics.toList <+: later.diagnostics.toList
  usedIds : earlier.usedIds.toList <+: later.usedIds.toList
  errorCount : earlier.errorCount ≤ later.errorCount
  warningCount : earlier.warningCount ≤ later.warningCount
  scopes : later.templates.depth = earlier.templates.depth

/-- What can be taken back has lost nothing. -/
theorem CompilerState.Precedes.keeps
    {earlier later : CompilerState}
    (precedes : earlier.Precedes later) :
    earlier.Keeps later where
  events := precedes.events
  diagnostics := precedes.diagnostics
  usedIds := precedes.usedIds
  errorCount := precedes.errorCount
  warningCount := precedes.warningCount
  scopes := congrArg (· + 1) precedes.templates.length_inner

namespace Compile

variable {environment : Environment} {longest steps : Nat} {before : CompilerState}
  {cursor : Cursor} {rule : Rule}

/-- A rule of a list only adds to the state if all of them do. -/
private theorem ends_of_mem
    {rules references : List Rule}
    {faults : Fault → Prop}
    {applied : Cursor → CompilerState → Prop}
    (rulesEnd :
      List.Forall₂
        (fun rule ruleReference =>
          Ends before (rule cursor) (ruleReference cursor) faults (Settled before applied))
        rules references)
    (precedes : ∀ next after, applied next after → before.Precedes after)
    (member : rule ∈ rules) :
    ∃ ruleReference : Rule,
      Ends before (rule cursor) (ruleReference cursor) faults
        (Settled before fun _ after => before.Precedes after) := by
  induction rulesEnd with
  | nil =>
      simp at member
  | cons first _ inductionHypothesis =>
      rcases List.mem_cons.mp member with rfl | inOthers
      · exact ⟨_, first.imp (fun _ => id) fun _ after =>
          Settled.imp fun next => precedes next after⟩
      · exact inductionHypothesis inOthers

/-- Every rule that is tried only adds to the state, if the parsers may be relied on. -/
theorem attemptedRules_end
    {inner reference : Inner}
    (sound : inner.Sound environment.files longest steps False reference)
    (bounded : before.Bounded longest)
    (short : cursor.rest.length ≤ longest)
    (isTried : rule ∈ attemptedRules inner) :
    ∃ ruleReference : Rule,
      Ends before (rule cursor) (ruleReference cursor) (Expected environment.files False False)
        (Settled before fun _ after => before.Precedes after) := by
  have ready :
      ∀ extra, Ready longest steps False before cursor.rest.length extra := fun _ =>
    .uncounted bounded short
  have blocks :
      ∀ next after, Block.Applied longest before cursor next after → before.Precedes after :=
    fun _ _ applied => applied.1.precedes
  have phrases :
      ∀ next after, Phrase.Applied before cursor next after → before.Precedes after :=
    fun _ _ applied => applied.1.precedes
  have opens :
      Block.Opens environment.files False False before Block.openSection :=
    Block.opens_openSection
  simp only [attemptedRules, List.mem_append] at isTried
  rcases isTried with (((isNested | isOuter) | isElement) | isInline) | isQuotation
  · exact ends_of_mem (Block.rulesWith_end sound opens true (ready 2) False.elim) blocks isNested
  · exact ends_of_mem (Block.rulesWith_end sound opens false (ready 2) False.elim) blocks isOuter
  · exact ends_of_mem (Block.elementsWith_end sound opens (ready 2) False.elim) blocks isElement
  · exact ends_of_mem (Phrase.elements_end sound (ready 0)) phrases isInline
  · exact ends_of_mem Phrase.quotations_end phrases isQuotation

/--
Trying a rule is a transaction, in every state: if the rule does not apply, the
whole state is as it was before, and if it applies, the state has lost nothing.
-/
theorem attempt_isTransaction
    (environment : Environment)
    (steps : Nat)
    (rule : Rule)
    (isTried : rule ∈ attemptedRules (Inner.within environment steps))
    (cursor : Cursor)
    (workspace : Workspace) :
    match attempt rule cursor workspace with
    | .ok none after => after.state = workspace.state
    | .ok (some _) after => workspace.state.Keeps after.state
    | .error _ _ => True := by
  have short :
      cursor.rest.length ≤ longestText environment workspace.state cursor.rest.length :=
    given_le_longestText
  obtain ⟨ruleReference, ends⟩ :=
    attemptedRules_end Inner.within_sound_longestText bounded_longestText short isTried
  have tried := (Ends.attempt ends workspace rfl).2
  cases outcome : attempt rule cursor workspace with
  | error fault after =>
      trivial
  | ok last after =>
      rw [outcome] at tried
      cases last with
      | none =>
          exact tried
      | some next =>
          exact tried.keeps

/-- Bold text whose bracket is never closed is tried like everything else. -/
theorem attempt_isTransaction_unclosedBold :
    let noFiles : FileTree := { entries := [], workingDirectory := [], homeDirectory := [] }
    let environment : Environment := { files := noFiles, encoding := .html, moment := .fixed }
    let inner := Inner.within environment 16
    let unclosed : Source := { text := "[*never closed", name := "document" }
    Phrase.styled inner ∈ attemptedRules inner ∧
      match attempt (Phrase.styled inner) unclosed.cursor {} with
      | .ok none after => after.state = {}
      | .ok (some _) after => CompilerState.Keeps {} after.state
      | .error _ _ => True := by
  intro noFiles environment inner unclosed
  have isTried : Phrase.styled inner ∈ attemptedRules inner := by
    simp [attemptedRules, Phrase.elements]
  exact ⟨isTried, attempt_isTransaction environment 16 _ isTried unclosed.cursor {}⟩

end Compile

end DocMarkup
