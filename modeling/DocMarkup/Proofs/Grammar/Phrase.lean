import DocMarkup.Proofs.Grammar.Expansion

namespace DocMarkup.Phrase

open Compile CompilerState

/-!
# How the rules of phrases end

A rule of phrases adds a fragment to the output and reads on in the text, or it
does not apply and has only added to the state. A phrase is a row of such rules
and of text between them.
-/

variable {files : FileTree} {longest steps : Nat} {inner reference : Inner}
  {before : CompilerState} {affordable calm : Prop} {order : Order} {cursor : Cursor}

/-- A rule of phrases has added a fragment and has read on. -/
def Applied (before : CompilerState) (cursor next : Cursor) (after : CompilerState) : Prop :=
  Effect inlineVocabulary before after ∧ next.rest.length < cursor.rest.length

/-- What was read from a later cursor on was read from an earlier one on. -/
theorem Applied.earlier
    {later next : Cursor}
    {after : CompilerState}
    (nearer : later.rest.length ≤ cursor.rest.length)
    (applied : Applied before later next after) :
    Applied before cursor next after :=
  ⟨applied.1, Nat.lt_of_lt_of_le applied.2 nearer⟩

/-- A bracket of phrase markup is entered, or an error is reported. -/
theorem enterPhrase_ends
    {faults : Fault → Prop}
    (cursor : Cursor) :
    Ends before (enterPhrase cursor) (enterPhrase cursor) faults
      fun entered after =>
        if entered then
          after = { before with phraseDepth := before.phraseDepth + 1 } ∧
            before.phraseDepth < phraseLimit
        else
          ∃ message, after = before.error cursor.position message := by
  unfold enterPhrase
  apply Ends.state
  split
  next inLimit =>
    exact .updateThen (.pure ⟨rfl, inLimit⟩)
  next =>
    exact .updateThen (.pure ⟨_, rfl⟩)

/-- One bracket further inside, all is still ready if the bracket may be entered. -/
private theorem ready_enterPhrase
    {length extra : Nat}
    (ready : Ready longest steps affordable before length extra)
    (inLimit : before.phraseDepth < phraseLimit) :
    Ready longest steps affordable { before with phraseDepth := before.phraseDepth + 1 }
      length extra where
  bounded := ready.bounded.of_same rfl rfl
  short := ready.short
  enough := ready.enough
  limits isAffordable := { ready.limits isAffordable with phrases := inLimit }

/-- An effect inside a bracket of phrase markup is one outside it. -/
private theorem effect_leavePhrase
    {after : CompilerState}
    (effect :
      Effect inlineVocabulary { before with phraseDepth := before.phraseDepth + 1 } after) :
    Effect inlineVocabulary before (leavePhrase after) := by
  let enter : CompilerState → CompilerState := fun state =>
    { state with phraseDepth := state.phraseDepth + 1 }
  have inside : Effect inlineVocabulary (enter before) after :=
    effect
  refine Passage.conjugate ?_ ?_ ?_ ?_ inside
  · exact fun _ _ => rfl
  · exact fun _ _ => rfl
  · intro state
    simp [enter, leavePhrase]
  · exact id

/-- A phrase in brackets adds a fragment, up to the bracket that closes it. -/
theorem nested_ends
    (sound : inner.Sound files longest steps affordable reference order)
    (ready : Ready longest steps affordable before cursor.rest.length 1) :
    Ends before (nested inner cursor) (nested reference cursor)
      (Expected files affordable calm)
      (Settled before fun next after =>
        Effect inlineVocabulary before after ∧ next.rest.length ≤ cursor.rest.length) := by
  unfold nested
  refine .isKnownUnclosed cursor fun known => ?_
  cases known with
  | true =>
      exact .pure (Precedes.refl before)
  | false =>
      refine (enterPhrase_ends cursor).bind ?_
      rintro (_ | _) middle entered
      · obtain ⟨message, rfl⟩ := entered
        have effect : Effect inlineVocabulary before (before.error cursor.position message) :=
          .reportError ..
        simp only [Bool.false_eq_true, ↓reduceIte]
        cases balanced : cursor.balanced? with
        | none =>
            exact .rememberUnclosed cursor (.pure effect.precedes)
        | some found =>
            exact .pure ⟨effect, Cursor.length_rest_balanced?_le balanced⟩
      · obtain ⟨rfl, inLimit⟩ := entered
        have readyInside :
            Ready longest steps affordable
              { before with phraseDepth := before.phraseDepth + 1 } cursor.rest.length 1 :=
          ready_enterPhrase ready inLimit
        have phraseEnds :
            Ends { before with phraseDepth := before.phraseDepth + 1 }
              (thenAlways (inner.phrase .bracketed cursor) leavePhrase)
              (thenAlways (reference.phrase .bracketed cursor) leavePhrase)
              (Expected files affordable calm)
              fun result after =>
                Effect inlineVocabulary before after ∧ result.2.Follows cursor := by
          refine .thenAlways ((sound.phraseFrom .bracketed 0 "" readyInside).imp (fun _ => id) ?_)
          rintro result after ⟨effect, follows⟩
          exact ⟨effect_leavePhrase effect, follows⟩
        refine Ends.bind phraseEnds ?_
        rintro ⟨closed, next⟩ after ⟨effect, follows⟩
        cases closed with
        | true =>
            exact .pure ⟨effect, follows.length_rest_le⟩
        | false =>
            exact .rememberUnclosed cursor (.pure effect.precedes)

/-- A phrase inside an element adds the element, and the bracket behind it is read. -/
theorem bracketed_ends
    (sound : inner.Sound files longest steps affordable reference order)
    {name : String}
    {attributes : List Attribute}
    (known : (name, attributes.map Prod.fst) ∈ inlineVocabulary)
    (ready : Ready longest steps affordable before cursor.rest.length 1) :
    Ends before (bracketed inner name attributes cursor)
      (bracketed reference name attributes cursor)
      (Expected files affordable calm)
      (Settled before (Applied before cursor)) := by
  have opens : before.Precedes (before.startElement name attributes) :=
    .emit ..
  unfold bracketed
  apply Ends.updateThen
  have readyInside :
      Ready longest steps affordable (before.startElement name attributes)
        cursor.rest.length 1 :=
    ready.alike ⟨rfl, rfl, rfl, rfl, rfl⟩ (Nat.le_refl _) (Nat.le_refl _)
  refine (nested_ends sound readyInside).bind ?_
  rintro (_ | next) middle settled
  · exact .pure (opens.trans settled)
  · obtain ⟨inside, nearer⟩ := settled
    have effect : Effect inlineVocabulary before (middle.endElement name) :=
      Effect.element known inside
    refine .updateThen (.pure (.of_last effect.precedes ?_))
    intro after closed
    have shorter := Cursor.length_rest_close? closed
    exact ⟨effect, by omega⟩

/-- The content of a link adds the link. -/
theorem linked_ends
    (sound : inner.Sound files longest steps affordable reference order)
    {name key : String}
    (target : String)
    (known : (name, [key]) ∈ inlineVocabulary)
    (ready : Ready longest steps affordable before cursor.rest.length 1) :
    Ends before (linked inner name key target cursor)
      (linked reference name key target cursor)
      (Expected files affordable calm)
      (Settled before (Applied before cursor)) := by
  have knownLink :
      (name, ([(key, target)] : List Attribute).map Prod.fst) ∈ inlineVocabulary :=
    known
  have blanks := cursor.length_rest_skipBlank_le
  unfold linked
  simp only
  split
  · have effect :
        Effect inlineVocabulary before
          (((before.startElement name [(key, target)]).text target).endElement name) :=
      Effect.element knownLink (.text ..)
    refine .updateThen (.pure (.of_last effect.precedes ?_))
    intro after closed
    have shorter := Cursor.length_rest_close? closed
    exact ⟨effect, by omega⟩
  · have readyInside :
        Ready longest steps affordable before cursor.skipBlank.rest.length 1 :=
      ready.nearer blanks (by omega)
    refine (bracketed_ends sound knownLink readyInside).imp (fun _ => id) ?_
    exact fun _ _ => Settled.imp fun _ => Applied.earlier blanks

/-! ## Rules -/

/-- How a comment ends. -/
theorem comment_ends {faults : Fault → Prop} :
    Ends before (comment cursor) (comment cursor) faults
      (Settled before (Applied before cursor)) := by
  refine .pure (.of_last (.refl before) ?_)
  intro next read
  exact ⟨.refl before, Cursor.length_rest_comment?_lt read⟩

/-- The elements of styles may occur in phrases. -/
private theorem mem_of_style?
    {name : String}
    {next : Cursor}
    (read : cursor.style? = some (name, next)) :
    (name, ([] : List Attribute).map Prod.fst) ∈ inlineVocabulary := by
  unfold Cursor.style? at read
  split at read
  next mark rest _ =>
    obtain ⟨found, isStyle, shape⟩ := Option.map_eq_some_iff.mp read
    obtain ⟨rfl, _⟩ := Prod.mk.inj shape
    unfold Cursor.styleElement? at isStyle
    repeat' split at isStyle
    all_goals first
      | (obtain rfl := Option.some.inj isStyle; simp [inlineVocabulary])
      | simp at isStyle
  next =>
    simp at read

/-- How a phrase in a style ends. -/
theorem styled_ends
    (sound : inner.Sound files longest steps affordable reference order)
    (ready : Ready longest steps affordable before cursor.rest.length 0) :
    Ends before (styled inner cursor) (styled reference cursor)
      (Expected files affordable calm)
      (Settled before (Applied before cursor)) := by
  unfold styled
  cases read : cursor.style? with
  | none =>
      exact .pure (Precedes.refl before)
  | some found =>
      obtain ⟨name, next⟩ := found
      have shorter := Cursor.length_rest_style?_lt read
      have readyInside : Ready longest steps affordable before next.rest.length 1 :=
        ready.nearer (by omega) (by omega)
      refine (bracketed_ends sound (mem_of_style? read) readyInside).imp (fun _ => id) ?_
      exact fun _ _ => Settled.imp fun _ => Applied.earlier (Nat.le_of_lt shorter)

/-- How a link to another document ends. -/
theorem url_ends
    (sound : inner.Sound files longest steps affordable reference order)
    (ready : Ready longest steps affordable before cursor.rest.length 0) :
    Ends before (url inner cursor) (url reference cursor)
      (Expected files affordable calm)
      (Settled before (Applied before cursor)) := by
  unfold url
  cases read : cursor.url? with
  | none =>
      exact .pure (Precedes.refl before)
  | some found =>
      obtain ⟨target, next⟩ := found
      have shorter := Cursor.length_rest_url?_lt read
      have readyInside : Ready longest steps affordable before next.rest.length 1 :=
        ready.nearer (by omega) (by omega)
      have known : ("ulink", ["url"]) ∈ inlineVocabulary := by
        simp [inlineVocabulary]
      refine (linked_ends sound target known readyInside).imp (fun _ => id) ?_
      exact fun _ _ => Settled.imp fun _ => Applied.earlier (Nat.le_of_lt shorter)

/-- How a link inside the document ends. -/
theorem link_ends
    (sound : inner.Sound files longest steps affordable reference order)
    (ready : Ready longest steps affordable before cursor.rest.length 0) :
    Ends before (link inner cursor) (link reference cursor)
      (Expected files affordable calm)
      (Settled before (Applied before cursor)) := by
  unfold link
  cases read : cursor.link? with
  | none =>
      exact .pure (Precedes.refl before)
  | some found =>
      obtain ⟨target, next⟩ := found
      have shorter := Cursor.length_rest_link?_lt read
      have readyInside : Ready longest steps affordable before next.rest.length 1 :=
        ready.nearer (by omega) (by omega)
      have known : ("link", ["linkend"]) ∈ inlineVocabulary := by
        simp [inlineVocabulary]
      refine (linked_ends sound target known readyInside).imp (fun _ => id) ?_
      exact fun _ _ => Settled.imp fun _ => Applied.earlier (Nat.le_of_lt shorter)

/-- How an anchor ends. -/
theorem anchor_ends {faults : Fault → Prop} :
    Ends before (anchor cursor) (anchor cursor) faults
      (Settled before (Applied before cursor)) := by
  unfold anchor
  cases read : cursor.anchor? with
  | none =>
      exact .pure (Precedes.refl before)
  | some found =>
      obtain ⟨identifier, next⟩ := found
      refine .updateThen (.pure ⟨?_, Cursor.length_rest_anchor?_lt read⟩)
      exact Effect.emptyElement before (by simp [inlineVocabulary])

/-- How an image ends. -/
theorem image_ends {faults : Fault → Prop} :
    Ends before (image cursor) (image cursor) faults
      (Settled before (Applied before cursor)) := by
  unfold image
  cases read : cursor.image? with
  | none =>
      exact .pure (Precedes.refl before)
  | some found =>
      obtain ⟨file, next⟩ := found
      refine .updateThen (.pure ⟨?_, Cursor.length_rest_image?_lt read⟩)
      exact Effect.emptyElement before (by simp [inlineVocabulary])

/-- How a footnote ends. -/
theorem footnote_ends
    (sound : inner.Sound files longest steps affordable reference order)
    (ready : Ready longest steps affordable before cursor.rest.length 0) :
    Ends before (footnote inner cursor) (footnote reference cursor)
      (Expected files affordable calm)
      (Settled before (Applied before cursor)) := by
  unfold footnote
  cases read : cursor.keyword? "[footnote" with
  | none =>
      exact .pure (Precedes.refl before)
  | some next =>
      have afterKeyword := Cursor.length_rest_keyword? read
      have keywordLength : "[footnote".length = 9 := rfl
      have blanks := next.length_rest_skipBlank_le
      have readyInside :
          Ready longest steps affordable before next.skipBlank.rest.length 1 :=
        ready.nearer (by omega) (by omega)
      have known :
          ("footnote", ([] : List Attribute).map Prod.fst) ∈ inlineVocabulary := by
        simp [inlineVocabulary]
      refine (bracketed_ends sound known readyInside).imp (fun _ => id) ?_
      exact fun _ _ => Settled.imp fun _ => Applied.earlier (by omega)

/-- How a line break ends. -/
theorem lineBreak_ends {faults : Fault → Prop} :
    Ends before (lineBreak cursor) (lineBreak cursor) faults
      (Settled before (Applied before cursor)) := by
  unfold lineBreak
  cases read : cursor.lineBreak? with
  | none =>
      exact .pure (Precedes.refl before)
  | some next =>
      refine .updateThen (.pure ⟨?_, Cursor.length_rest_lineBreak?_lt read⟩)
      exact Effect.emptyElement before (by simp [inlineVocabulary])

/-- How a conditional phrase ends. -/
theorem conditional_ends
    (sound : inner.Sound files longest steps affordable reference order)
    (ready : Ready longest steps affordable before cursor.rest.length 0) :
    Ends before (conditional inner cursor) (conditional reference cursor)
      (Expected files affordable calm)
      (Settled before (Applied before cursor)) := by
  unfold conditional
  cases read : cursor.conditional? with
  | none =>
      exact .pure (Precedes.refl before)
  | some found =>
      obtain ⟨name, afterName⟩ := found
      have shorter := Cursor.length_rest_conditional?_lt read
      have blanks := afterName.length_rest_skipHorizontal_le
      apply Ends.state
      cases before.macros.contains name with
      | true =>
          have readyInside :
              Ready longest steps affordable before afterName.skipHorizontal.rest.length 1 :=
            ready.nearer (by omega) (by omega)
          simp only [↓reduceIte]
          refine (nested_ends sound readyInside).bind ?_
          rintro (_ | next) middle settled
          · exact .pure settled
          · obtain ⟨effect, nearer⟩ := settled
            refine .pure (.of_last effect.precedes ?_)
            intro last closed
            have afterBracket := Cursor.length_rest_close? closed
            exact ⟨effect, by omega⟩
      | false =>
          simp only [Bool.false_eq_true, ↓reduceIte]
          refine .pure (.of_last (.refl before) ?_)
          intro last skipped
          obtain ⟨⟨content, next⟩, through, rfl⟩ := Option.map_eq_some_iff.mp skipped
          have afterBracket := Cursor.length_rest_balancedThrough?_lt through
          refine ⟨.refl before, ?_⟩
          show next.rest.length < cursor.rest.length
          omega

/-- How a call of a template ends. -/
theorem templateCall_ends
    (sound : inner.Sound files longest steps affordable reference order)
    (ready : Ready longest steps affordable before cursor.rest.length 0) :
    Ends before (templateCall inner cursor) (templateCall reference cursor)
      (Expected files affordable calm)
      (Settled before (Applied before cursor)) := by
  unfold templateCall
  cases read : cursor.templateCall? with
  | none =>
      exact .pure (Precedes.refl before)
  | some found =>
      obtain ⟨name, afterName⟩ := found
      have shorter := Cursor.length_rest_templateCall?_lt read
      simp only
      cases through : afterName.balancedThrough? with
      | none =>
          exact .pure (Precedes.refl before)
      | some pair =>
          obtain ⟨arguments, next⟩ := pair
          have afterBracket := Cursor.length_rest_balancedThrough?_lt through
          have argumentsShort := Cursor.length_balancedThrough?_le through
          apply Ends.state
          cases defined : before.templates.find? name with
          | none =>
              refine Ends.bind (keepUndefined_ends _ _ _) ?_
              intro _ after effect
              exact .pure ⟨effect, by omega⟩
          | some template =>
              have readyInside :
                  Ready longest steps affordable before arguments.length 1 :=
                ready.nearer (by omega) (by omega)
              refine (invokeTemplate_phrase_ends sound _ defined readyInside).bind ?_
              intro _ after effect
              exact .pure ⟨effect, by omega⟩

/-- How each rule that an opening bracket may start ends. -/
theorem elements_end
    (sound : inner.Sound files longest steps affordable reference order)
    (ready : Ready longest steps affordable before cursor.rest.length 0) :
    List.Forall₂
      (fun rule ruleReference =>
        Ends before (rule cursor) (ruleReference cursor) (Expected files affordable calm)
          (Settled before (Applied before cursor)))
      (elements inner) (elements reference) := by
  unfold elements
  refine .cons comment_ends (.cons (styled_ends sound ready) (.cons (url_ends sound ready)
    (.cons (link_ends sound ready) (.cons anchor_ends (.cons image_ends ?_)))))
  exact .cons (footnote_ends sound ready) (.cons lineBreak_ends
    (.cons (conditional_ends sound ready) (.cons (templateCall_ends sound ready) .nil)))

/-- How code inside a line ends. -/
theorem inlineCode_ends {faults : Fault → Prop} :
    Ends before (inlineCode cursor) (inlineCode cursor) faults
      (Settled before (Applied before cursor)) := by
  unfold inlineCode
  cases read : cursor.inlineCode? with
  | none =>
      exact .pure (Precedes.refl before)
  | some found =>
      obtain ⟨code, next⟩ := found
      refine .updateThen (.pure ⟨?_, Cursor.length_rest_inlineCode?_lt read⟩)
      exact Effect.leaf before (by simp [inlineVocabulary]) code

/-- How an escape ends. -/
theorem rawEscape_ends {faults : Fault → Prop} :
    Ends before (rawEscape cursor) (rawEscape cursor) faults
      (Settled before (Applied before cursor)) := by
  unfold rawEscape
  cases read : cursor.rawEscape? with
  | none =>
      exact .pure (Precedes.refl before)
  | some found =>
      obtain ⟨content, next⟩ := found
      refine .updateThen (.pure ⟨?_, Cursor.length_rest_rawEscape?_lt read⟩)
      exact Passage.raw ..

/-- How each rule that a quote may start ends. -/
theorem quotations_end {faults : Fault → Prop} :
    List.Forall₂
      (fun rule ruleReference =>
        Ends before (rule cursor) (ruleReference cursor) faults
          (Settled before (Applied before cursor)))
      quotations quotations :=
  .cons inlineCode_ends (.cons rawEscape_ends .nil)

/-! ## Phrases -/

/-- A phrase has added a fragment and has ended at its front or further on. -/
def Read
    (before : CompilerState)
    (cursor : Cursor)
    (result : Bool × Cursor)
    (after : CompilerState) :
    Prop :=
  Effect inlineVocabulary before after ∧ result.2.Follows cursor

/-- A phrase may end right after an effect, where it stands. -/
private theorem Read.here
    {after : CompilerState}
    (effect : Effect inlineVocabulary before after)
    (closed : Bool) :
    Read before cursor (closed, cursor) after :=
  ⟨effect, .inl rfl⟩

/-- After an effect, a phrase may go on further on. -/
private theorem goOn_ends
    (sound : inner.Sound files longest steps affordable reference order)
    (ready : Ready longest steps affordable before cursor.rest.length 0)
    {middle : CompilerState}
    (effect : Effect inlineVocabulary before middle)
    {next : Cursor}
    (shorter : next.rest.length < cursor.rest.length)
    (mode : PhraseMode)
    (depth : Nat)
    (buffer : String) :
    Ends middle (inner.phraseFrom mode depth buffer next)
      (reference.phraseFrom mode depth buffer next)
      (Expected files affordable calm)
      (Read before cursor) := by
  have readyNext : Ready longest steps affordable middle next.rest.length 1 :=
    ready.alike effect.alike (by omega) (by omega)
  refine (sound.phraseFrom mode depth buffer readyNext).imp (fun _ => id) ?_
  rintro result after ⟨later, follows⟩
  have nearer := follows.length_rest_le
  exact ⟨effect.trans later, .inr (by omega)⟩

/-- How going on after a name ends. -/
private theorem name_ends
    (sound : inner.Sound files longest steps affordable reference order)
    (ready : Ready longest steps affordable before cursor.rest.length 0)
    {next : Cursor}
    (shorter : next.rest.length < cursor.rest.length)
    (mode : PhraseMode)
    (depth : Nat)
    (buffer word : String) :
    Ends before (name inner mode depth buffer cursor word next)
      (name reference mode depth buffer cursor word next)
      (Expected files affordable calm)
      (Read before cursor) := by
  unfold name
  apply Ends.state
  split
  · apply Ends.updateThen
    have flushed : Effect inlineVocabulary before (before.text buffer) :=
      .text ..
    have readyForMacro :
        Ready longest steps affordable (before.text buffer) cursor.rest.length 0 :=
      ready.alike flushed.alike (Nat.le_refl _) (Nat.le_refl _)
    refine (expandMacro_ends sound _ _ readyForMacro).bind ?_
    intro _ middle expanded
    exact goOn_ends sound ready (flushed.trans expanded) shorter mode depth ""
  · exact goOn_ends sound ready (.refl before) shorter mode depth _

/-- How going on after text that means nothing ends. -/
private theorem plain_ends
    (sound : inner.Sound files longest steps affordable reference order)
    (ready : Ready longest steps affordable before cursor.rest.length 0)
    (someLeft : 0 < cursor.rest.length)
    (mode : PhraseMode)
    (depth : Nat)
    (buffer : String)
    (first : Char) :
    Ends before (plain inner mode depth buffer cursor first)
      (plain reference mode depth buffer cursor first)
      (Expected files affordable calm)
      (Read before cursor) := by
  unfold plain
  cases read : cursor.plainRun? with
  | none =>
      refine goOn_ends sound ready (.refl before) ?_ mode depth _
      simp only [Cursor.rest_advance, List.length_drop]
      omega
  | some found =>
      obtain ⟨run, next⟩ := found
      exact goOn_ends sound ready (.refl before) (Cursor.length_rest_plainRun?_lt read) mode
        depth _

/-- How one step of a phrase ends, and the rest of the phrase behind it. -/
theorem step_ends
    (sound : inner.Sound files longest steps affordable reference order)
    (ready : Ready longest (steps + 1) affordable before cursor.rest.length 1)
    (mode : PhraseMode)
    (depth : Nat)
    (buffer : String) :
    Ends before (step inner mode depth buffer cursor)
      (step reference mode depth buffer cursor)
      (Expected files affordable calm)
      (Read before cursor) := by
  have readyHere := ready.spend
  have flushed : Effect inlineVocabulary before (before.text buffer) :=
    .text ..
  have readyFlushed :
      Ready longest steps affordable (before.text buffer) cursor.rest.length 0 :=
    readyHere.alike flushed.alike (Nat.le_refl _) (Nat.le_refl _)
  unfold step
  split
  next =>
    exact .updateThen (.pure (.here flushed _))
  next first rest remaining =>
    have someLeft : 0 < cursor.rest.length := by
      simp [remaining]
    have afterOne : (cursor.advance 1).rest.length < cursor.rest.length := by
      simp only [Cursor.rest_advance, List.length_drop]
      omega
    have afterTwo : (cursor.advance 2).rest.length < cursor.rest.length := by
      simp only [Cursor.rest_advance, List.length_drop]
      omega
    split
    · -- a closing bracket
      split
      · exact .updateThen (.pure (.here flushed _))
      · exact goOn_ends sound readyHere (.refl before) afterOne mode _ _
    split
    · -- the end of a line
      have stops :
          Ends before (stopsAtLineFeed mode cursor) (stopsAtLineFeed mode cursor)
            (Expected files affordable calm) fun _ after => after = before := by
        unfold stopsAtLineFeed
        split
        · exact .state (.pure rfl)
        · exact .pure rfl
      refine stops.bind ?_
      rintro (_ | _) middle rfl
      · exact goOn_ends sound readyHere (.refl middle) afterOne mode depth _
      · exact .updateThen (.pure (.here flushed _))
    split
    · -- an opening bracket
      apply Ends.updateThen
      refine (Ends.firstOf (elements_end sound readyFlushed)).bind ?_
      rintro (_ | next) middle restored
      · obtain rfl : middle = before.text buffer := restored
        exact goOn_ends sound readyHere flushed afterOne mode _ _
      · obtain ⟨effect, shorter⟩ := restored
        exact goOn_ends sound readyHere (flushed.trans effect) shorter mode depth _
    split
    · -- a character that is taken as it is
      exact goOn_ends sound readyHere (.refl before) afterTwo mode depth _
    split
    · -- a quote
      apply Ends.updateThen
      refine (Ends.firstOf quotations_end).bind ?_
      rintro (_ | next) middle restored
      · obtain rfl : middle = before.text buffer := restored
        exact goOn_ends sound readyHere flushed afterOne mode depth _
      · obtain ⟨effect, shorter⟩ := restored
        exact goOn_ends sound readyHere (flushed.trans effect) shorter mode depth _
    split
    next word next read =>
      exact name_ends sound readyHere (Cursor.length_rest_name?_lt read) mode depth buffer word
    next =>
      exact plain_ends sound readyHere someLeft mode depth buffer first

end DocMarkup.Phrase
