import DocMarkup.Proofs.Grammar.Expansion
import DocMarkup.Proofs.Grammar.Wording
import DocMarkup.Proofs.Text.Trimming
import DocMarkup.Proofs.Text.Words

namespace DocMarkup

/-!
# References to parameters

A parameter is referred to by its name in brackets. Such a bracket starts nothing else
than a call, and a call without arguments of what stands for an argument puts the output of
that argument in its place. A text of references therefore adds the outputs that they stand
for, in the order of the references and whatever other scopes say about the names.
-/

/-- A name that calls a template where it stands between brackets. -/
structure IsReferable (name : String) : Prop where
  isName : Text.isName name.toList = true
  noStyle : name.toList.head? ≠ some '_'
  noLineBreak : name ≠ "br"
  noFootnote : name ≠ "footnote"

instance (name : String) : Decidable (IsReferable name) :=
  decidable_of_iff
    (Text.isName name.toList = true ∧
      name.toList.head? ≠ some '_' ∧ name ≠ "br" ∧ name ≠ "footnote")
    ⟨fun ⟨isName, noStyle, noLineBreak, noFootnote⟩ =>
        ⟨isName, noStyle, noLineBreak, noFootnote⟩,
      fun ⟨isName, noStyle, noLineBreak, noFootnote⟩ =>
        ⟨isName, noStyle, noLineBreak, noFootnote⟩⟩

/-- A reference: a name between brackets. -/
def reference (name : String) : List Char :=
  '[' :: (name.toList ++ [']'])

namespace IsReferable

variable {name : String}

/-- Such a name starts with a letter. -/
theorem exists_cons (referable : IsReferable name) :
    ∃ first rest, name.toList = first :: rest ∧ first.isAlpha = true := by
  obtain ⟨isName, noStyle, _, _⟩ := referable
  cases characters : name.toList with
  | nil => simp [characters, Text.isName] at isName
  | cons first rest =>
      simp only [characters, Text.isName, Text.isNameStart, Bool.and_eq_true, Bool.or_eq_true,
        beq_iff_eq] at isName
      rw [characters, List.head?_cons, Ne, Option.some.injEq] at noStyle
      exact ⟨first, rest, rfl, isName.1.resolve_right noStyle⟩

/-- Its characters are those of names. -/
theorem areOfName (referable : IsReferable name) :
    ∀ character ∈ name.toList, Text.isNameCharacter character = true := by
  have isName := referable.isName
  cases characters : name.toList with
  | nil => nofun
  | cons first rest =>
      rw [characters, Text.isName, Bool.and_eq_true] at isName
      exact List.forall_mem_cons.mpr
        ⟨Text.isNameCharacter_of_isNameStart isName.1, List.all_eq_true.mp isName.2⟩

end IsReferable

/-! ## Readers of other constructs -/

namespace Cursor

variable {name : String} {cursor next inside : Cursor}

section References

variable (referable : IsReferable name) (reads : cursor.Reads (reference name) next)

include referable reads

/-- A mark that is no letter does not stand at the front of a reference. -/
theorem literal?_of_reference
    {expected : String}
    {mark : Char}
    (isExpected : expected.toList = ['[', mark])
    (noLetter : mark.isAlpha = false) :
    cursor.literal? expected = none := by
  obtain ⟨first, rest, isName, isLetter⟩ := referable.exists_cons
  have otherMark : mark ≠ first := by
    rintro rfl
    simp [noLetter] at isLetter
  refine reads.literal?_eq_none ?_
  simp [isExpected, reference, isName, Text.Differ, otherMark]

theorem comment?_of_reference : cursor.comment? = none := by
  have notRead : cursor.literal? "[/" = none := literal?_of_reference referable reads rfl rfl
  simp [comment?, notRead]

theorem style?_of_reference : cursor.style? = none := by
  obtain ⟨first, rest, isName, isLetter⟩ := referable.exists_cons
  have otherMark (mark : Char) (noLetter : mark.isAlpha = false) : first ≠ mark := by
    rintro rfl
    simp [noLetter] at isLetter
  have noMark : styleElement? first = none := by
    simp [styleElement?, Text.singleQuote, otherMark]
  simp [style?, reads.rest_eq, reference, isName, noMark]

theorem url?_of_reference : cursor.url? = none := by
  have notRead : cursor.literal? "[@" = none := literal?_of_reference referable reads rfl rfl
  simp [url?, notRead]

theorem anchor?_of_reference : cursor.anchor? = none := by
  have notRead : cursor.literal? "[#" = none := literal?_of_reference referable reads rfl rfl
  simp [anchor?, notRead]

theorem image?_of_reference : cursor.image? = none := by
  have notRead : cursor.literal? "[$" = none := literal?_of_reference referable reads rfl rfl
  simp [image?, notRead]

theorem conditional?_of_reference : cursor.conditional? = none := by
  have notRead : cursor.literal? "[?" = none := literal?_of_reference referable reads rfl rfl
  simp [conditional?, notRead]

/-- Behind a keyword at its front, a name goes on, unless it is the keyword. -/
theorem rest_of_keyword
    (keyword : String)
    {expected : String}
    (isExpected : expected.toList = '[' :: keyword.toList)
    (noClosing : ']' ∉ keyword.toList)
    (read : cursor.literal? expected = some inside) :
    Text.Stops Text.isBlank inside.rest ∧ (inside.rest.head? = some ']' → name = keyword) := by
  have behind : keyword.toList ++ inside.rest = name.toList ++ ']' :: next.rest := by
    have front := (reads_of_literal? read).rest_eq.symm.trans reads.rest_eq
    simpa [isExpected, reference] using front
  obtain ⟨further, isLonger, isRest⟩ | ⟨further, isShorter, isRest⟩ :=
    List.append_eq_append_iff.mp behind
  · rw [isRest]
    cases further with
    | nil => exact ⟨.cons rfl _, fun _ => String.toList_inj.mp (by simpa using isLonger)⟩
    | cons first others =>
        have isOfName : Text.isNameCharacter first = true :=
          referable.areOfName first (by simp [isLonger])
        refine ⟨.cons (Text.isBlank_of_isNameCharacter isOfName) _, ?_⟩
        rintro ⟨⟩
        simp [Text.isNameCharacter] at isOfName
  · cases further with
    | nil =>
        rw [← List.nil_append inside.rest, ← isRest]
        exact ⟨.cons rfl _, fun _ => String.toList_inj.mp (by simpa using isShorter.symm)⟩
    | cons first others =>
        obtain ⟨rfl, _⟩ := List.cons.inj isRest
        exact (noClosing (by simp [isShorter])).elim

/-- Behind the keyword of a link there is a gap. -/
theorem link?_of_reference : cursor.link? = none := by
  unfold link?
  cases read : cursor.literal? "[link" with
  | none => rfl
  | some inside =>
      obtain ⟨noBlank, _⟩ := rest_of_keyword referable reads "link" rfl (by decide) read
      have noGap : Text.Stops (fun each => Text.isHorizontal each || each == '\n') inside.rest := by
        refine noBlank.imp fun character isInGap => ?_
        obtain isHorizontal | isLineFeed := Bool.or_eq_true_iff.mp isInGap
        · exact Text.isBlank_of_isHorizontal character isHorizontal
        · rw [beq_iff_eq.mp isLineFeed]
          rfl
      simp [gap?, runOf?, run, show _ = _ from noGap]

/-- Behind the keyword of a footnote there is no other name. -/
theorem footnote?_of_reference : cursor.keyword? "[footnote" = none := by
  unfold keyword?
  cases read : cursor.literal? "[footnote" with
  | none => rfl
  | some inside =>
      obtain ⟨noBlank, isWhole⟩ :=
        rest_of_keyword referable reads "footnote" rfl (by decide) read
      cases remaining : inside.rest with
      | nil => simp [isAfterKeyword, remaining]
      | cons first rest =>
          have goesOn : first ≠ ']' := by
            rintro rfl
            exact referable.noFootnote (isWhole (by rw [remaining, List.head?_cons]))
          have isInk : Text.isBlank first = false := by
            simpa [remaining, Text.Stops, List.takeWhile_cons] using noBlank
          simp [isAfterKeyword, remaining, isInk, goesOn]

/-- Behind the keyword of a line break there is no other name. -/
theorem lineBreak?_of_reference : cursor.lineBreak? = none := by
  unfold lineBreak?
  cases read : cursor.literal? "[br" with
  | none => rfl
  | some inside =>
      obtain ⟨noBlank, isWhole⟩ := rest_of_keyword referable reads "br" rfl (by decide) read
      have noBlanks : inside.skipHorizontal = inside :=
        skip_eq_self (noBlank.imp Text.isBlank_of_isHorizontal)
      have notClosed : inside.close? = none :=
        character?_eq_none fun ends => referable.noLineBreak (isWhole ends)
      simp [noBlanks, notClosed]

/-- The name of a reference is read as that of a call without arguments. -/
theorem templateCall?_of_reference :
    ∃ atBracket, cursor.templateCall? = some (name, atBracket) ∧ atBracket.Reads [']'] next := by
  obtain ⟨first, rest, isName, isLetter⟩ := referable.exists_cons
  have reads : cursor.Reads ('[' :: name.toList ++ [']']) next := reads
  obtain ⟨atBracket, readsName, closes⟩ := reads.split
  refine ⟨atBracket, ?_, closes⟩
  have remaining : cursor.rest = '[' :: first :: (rest ++ ']' :: next.rest) := by
    simpa [isName] using reads.rest_eq
  have areOfName : rest.all Text.isNameCharacter = true :=
    List.all_eq_true.mpr fun character member =>
      referable.areOfName character (by simp [isName, member])
  have isWhole : (rest ++ ']' :: next.rest).takeWhile Text.isNameCharacter = rest :=
    Text.takeWhile_run areOfName (.cons rfl _)
  have isCalled : calledName? (first :: (rest ++ ']' :: next.rest)) = some name := by
    have isText : String.ofList (first :: rest) = name := by rw [← isName, String.ofList_toList]
    simp [calledName?, isWhole, Text.isNameStart, isLetter, isText]
  have isFurther : cursor.advance (name.length + 1) = atBracket := by
    rw [← readsName.advance_eq, List.length_cons, String.length_toList]
  simp [templateCall?, remaining, isCalled, isFurther]

end References

/-- A bracket that closes at once encloses nothing. -/
theorem balancedThrough?_of_closing (closes : cursor.Reads [']'] next) :
    cursor.balancedThrough? = some ("", next) := by
  have isClosed : IsClosedByNext [] := isClosedByNext_backslashed []
  have atBracket : cursor.rest.head? = some ']' := by
    rw [closes.rest_eq, List.cons_append, List.head?_cons]
  rw [balancedThrough?, isClosed.balanced?_eq (.nil cursor) atBracket]
  simp [closes.close?_eq]

end Cursor

open Compile

namespace CompilerState

/-- A name stands for the output of an argument. -/
def StandsFor (state : CompilerState) (name : String) (events : List Event) : Prop :=
  ∃ template, state.templates.find? name = some template ∧ template.events = some events

/-- It still does after further output. -/
theorem StandsFor.replay
    {state : CompilerState}
    {name : String}
    {events : List Event}
    (standsFor : state.StandsFor name events)
    (others : List Event) :
    (state.replay others).StandsFor name events := by
  rw [replay_eq]
  exact standsFor

end CompilerState

/-! ## Phrases of references -/

namespace Phrase

variable {inner : Inner} {before : CompilerState} {name : String} {cursor next : Cursor}
  {events : List Event}

/-- What an opening bracket may start besides a call. -/
def constructs (inner : Inner) : List Rule :=
  [comment, styled inner, url inner, link inner, anchor, image, footnote inner, lineBreak,
    conditional inner]

/-- A call is tried last. -/
theorem elements_eq (inner : Inner) : elements inner = constructs inner ++ [templateCall inner] :=
  rfl

/-- A reference starts none of them. -/
theorem constructs_of_reference
    (referable : IsReferable name)
    (reads : cursor.Reads (reference name) next) :
    ∀ rule ∈ constructs inner, rule cursor = pure none := by
  simp only [constructs, List.forall_mem_cons]
  refine ⟨?comment, ?styled, ?url, ?link, ?anchor, ?image, ?footnote, ?lineBreak, ?conditional,
    nofun⟩
  case comment => rw [comment, Cursor.comment?_of_reference referable reads]
  case styled => rw [styled, Cursor.style?_of_reference referable reads]
  case url => rw [url, Cursor.url?_of_reference referable reads]
  case link => rw [link, Cursor.link?_of_reference referable reads]
  case anchor => rw [anchor, Cursor.anchor?_of_reference referable reads]
  case image => rw [image, Cursor.image?_of_reference referable reads]
  case footnote => rw [footnote, Cursor.footnote?_of_reference referable reads]
  case lineBreak => rw [lineBreak, Cursor.lineBreak?_of_reference referable reads]
  case conditional => rw [conditional, Cursor.conditional?_of_reference referable reads]

/-- A reference is read as a call, and adds what its name stands for. -/
theorem elements_of_reference
    (referable : IsReferable name)
    (reads : cursor.Reads (reference name) next)
    (standsFor : before.StandsFor name events) :
    Finishes before (firstOf (elements inner) cursor) fun found after =>
      ∃ read ∈ found, read = next ∧ after = before.replay events := by
  obtain ⟨atBracket, called, closes⟩ := Cursor.templateCall?_of_reference referable reads
  obtain ⟨template, isFound, isKnown⟩ := standsFor
  have applies :
      Finishes before (templateCall inner cursor) fun found after =>
        ∃ read ∈ found, read = next ∧ after = before.replay events := by
    simp only [templateCall, called, Cursor.balancedThrough?_of_closing closes]
    apply Ends.state
    simp only [isFound, invokeTemplate, isKnown]
    exact .updateThen (.pure ⟨next, rfl, rfl, rfl⟩)
  rw [elements_eq]
  refine Finishes.firstOf (fun rule isOther => ?_) applies
  rw [constructs_of_reference referable reads rule isOther]
  exact .pure (.refl before)

end Phrase

/-- With enough steps, the parsers read references to the end of a text, one after another. -/
theorem Inner.within_readsReferences
    (environment : Environment)
    (output : String → List Event)
    {references : List String}
    {steps : Nat}
    {before : CompilerState}
    {cursor next : Cursor}
    (areReferable : ∀ name ∈ references, IsReferable name)
    (standFor : ∀ name ∈ references, before.StandsFor name (output name))
    (reads : cursor.Reads (references.flatMap reference) next)
    (atEnd : next.rest = [])
    (enough : references.length < steps) :
    Finishes before ((Inner.within environment steps).phraseFrom .expansion 0 "" cursor)
      fun result after =>
        result.2 = next ∧ after = before.replay (references.flatMap output) := by
  induction steps generalizing references before cursor with
  | zero => exact absurd enough (Nat.not_lt_zero _)
  | succ steps inductionHypothesis =>
      show Finishes before (Phrase.step (Inner.within environment steps) .expansion 0 "" cursor) _
      cases references with
      | nil =>
          obtain rfl : cursor = next := (Cursor.Reads.nil cursor).unique reads
          unfold Phrase.step
          simp only [atEnd]
          exact .updateThen (.pure ⟨rfl, rfl⟩)
      | cons name others =>
          rw [List.forall_mem_cons] at areReferable standFor
          obtain ⟨behind, readsName, readsOthers⟩ := reads.split
          rw [Phrase.step_of_opening readsName.rest_eq]
          refine .updateThen ((Phrase.elements_of_reference areReferable.1 readsName
            standFor.1).bind ?_)
          rintro _ middle ⟨_, rfl, rfl, rfl⟩
          refine (inductionHypothesis areReferable.2
            (fun other isLater => (standFor.2 other isLater).replay _) readsOthers
            (Nat.lt_of_succ_lt_succ enough)).imp (fun _ => id) ?_
          rintro result after ⟨isEnd, rfl⟩
          refine ⟨isEnd, ?_⟩
          rw [List.flatMap_cons, CompilerState.replay_append]

/-- A text of references that is expanded is read to its end. -/
theorem Inner.within_expandsReferences
    (environment : Environment)
    (output : String → List Event)
    {references : List String}
    {steps : Nat}
    {before : CompilerState}
    {source : Source}
    (isText : source.text = String.ofList (references.flatMap reference))
    (areReferable : ∀ name ∈ references, IsReferable name)
    (standFor : ∀ name ∈ references, before.StandsFor name (output name))
    (enough : references.length < steps) :
    Finishes before ((Inner.within environment steps).expansion source)
      fun succeeded after =>
        succeeded = true ∧ after = before.replay (references.flatMap output) := by
  have reads := Cursor.Reads.whole source
  have isRest : source.text.toList = references.flatMap reference := by
    rw [isText, String.toList_ofList]
  have atEnd := Cursor.Reads.rest_end source
  rw [isRest] at reads
  refine (within_readsReferences environment output areReferable standFor reads atEnd
    enough).bind ?_
  rintro ⟨_, stop⟩ after ⟨rfl, rfl⟩
  exact .pure ⟨by rw [Cursor.isAtEnd, atEnd, List.isEmpty_nil], rfl⟩

/-- References are at least as many characters. -/
theorem length_le_references (references : List String) :
    references.length ≤ (references.flatMap reference).length := by
  induction references with
  | nil => exact Nat.le_refl _
  | cons name others inductionHypothesis =>
      rw [List.flatMap_cons, List.length_append, reference, List.length_cons, List.length_cons]
      omega

/-- There are no blanks around a text of references. -/
theorem trimmed_references (references : List String) :
    Text.trimmed (String.ofList (references.flatMap reference)) =
      String.ofList (references.flatMap reference) := by
  rw [Text.trimmed_eq_iff, String.toList_ofList]
  refine Text.trim_eq_self ?_ ?_
  · cases references with
    | nil => rfl
    | cons name others => exact .cons rfl _
  · obtain rfl | ⟨front, last, rfl⟩ := List.eq_nil_or_concat references
    · rfl
    · have backwards :
          (reference last).reverse = ']' :: (last.toList.reverse ++ ['[']) := by
        simp [reference]
      rw [List.concat_eq_append, List.flatMap_append, List.flatMap_singleton,
        List.reverse_append, backwards]
      exact .cons rfl _

end DocMarkup
