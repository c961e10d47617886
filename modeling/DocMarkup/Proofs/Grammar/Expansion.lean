import DocMarkup.Proofs.Grammar.Contract

namespace DocMarkup.Compile

open CompilerState

/-!
# How expansions end

An expansion that is read to its end has the effect of its text. One that is not
leaves an error and nothing else. Arguments leave nothing but errors, as their
output is taken out of the document again.
-/

variable {files : FileTree} {longest steps length extra : Nat} {inner reference : Inner}
  {before : CompilerState} {affordable calm : Prop} {order : Order}

/-- Reading a text as a phrase has the effect of a phrase. -/
theorem expansion_ends
    (sound : inner.Sound files longest steps affordable reference order)
    (source : Source)
    (ready : Ready longest steps affordable before source.text.length 1) :
    Ends before (inner.expansion source) (reference.expansion source)
      (Expected files affordable calm)
      fun _ after => Effect inlineVocabulary before after := by
  have readyAtFront :
      Ready longest steps affordable before source.cursor.rest.length 1 := by
    simpa [Source.cursor, Source.cursorAt, String.length_toList] using ready
  unfold Inner.expansion Inner.phrase
  refine (sound.phraseFrom .expansion 0 "" readyAtFront).bind ?_
  rintro ⟨closed, next⟩ middle ⟨effect, _⟩
  exact .pure effect

/-- Reading a text as blocks has the effect of blocks. -/
theorem expansion_block_ends
    (sound : inner.Sound files longest steps affordable reference order)
    (source : Source)
    (ready : Ready longest steps affordable before source.text.length 3)
    (isCalm : calm → order.holds before) :
    Ends before (inner.expansion source true) (reference.expansion source true)
      (Expected files affordable calm)
      fun _ after => BlockEffect longest before after := by
  have readyAtFront :
      Ready longest steps affordable before source.cursor.rest.length 3 := by
    simpa [Source.cursor, Source.cursorAt, String.length_toList] using ready
  unfold Inner.expansion
  refine (sound.blocks false readyAtFront isCalm).bind ?_
  rintro next middle ⟨effect, _⟩
  exact .pure effect

/-- An expansion keeps what its text does, or it is undone and an error is reported. -/
private theorem expand_ends
    {source : Source}
    {block : Bool}
    {position : Position}
    {what : String}
    {results : CompilerState → Prop}
    (textEnds :
      Ends before.deepen (inner.expansion source block) (reference.expansion source block)
        (Expected files affordable calm)
        fun _ after => before.Precedes after.surface ∧ results after.surface)
    (onError : ∀ message, results (before.error position message)) :
    Ends before (expand inner source block position what)
      (expand reference source block position what)
      (Expected files affordable calm)
      fun _ after => results after := by
  have surfaces :
      Ends before.deepen (thenAlways (inner.expansion source block) surface)
        (thenAlways (reference.expansion source block) surface)
        (Expected files affordable calm)
        fun _ after => before.Precedes after ∧ results after :=
    .thenAlways textEnds
  unfold expand
  apply Ends.state
  apply Ends.updateThen
  refine Ends.bind surfaces ?_
  rintro (_ | _) middle ⟨precedes, holds⟩
  · simp only [Bool.false_eq_true, ↓reduceIte]
    refine Ends.update ?_
    rw [precedes.rollback]
    exact onError _
  · exact .pure holds

/-- A text that is read to its end one level deeper is expanded. -/
theorem expand_finishes
    {source : Source}
    {block : Bool}
    {results : CompilerState → Prop}
    (isRead :
      Finishes before.deepen (inner.expansion source block) fun succeeded after =>
        succeeded = true ∧ results after.surface)
    (position : Position)
    (what : String) :
    Finishes before (expand inner source block position what) fun _ after => results after := by
  have isDone :
      Finishes before.deepen
        (thenAlways (inner.expansion source block) CompilerState.surface)
        fun succeeded after => succeeded = true ∧ results after :=
    .thenAlways isRead
  refine .state (.updateThen (Ends.bind isDone ?_))
  rintro _ after ⟨rfl, holds⟩
  exact .pure holds

/-- An effect one level deeper is one at the level above it. -/
private theorem effect_surface
    {vocabulary : Vocabulary}
    {after : CompilerState}
    (effect : Effect vocabulary before.deepen after) :
    Effect vocabulary before after.surface := by
  refine Passage.conjugate ?_ ?_ ?_ ?_ effect
  · exact fun _ _ => rfl
  · exact fun _ _ => rfl
  · exact fun _ => rfl
  · exact id

/-- Expanding a text as a phrase has the effect of a phrase. -/
theorem expand_phrase_ends
    (sound : inner.Sound files longest steps affordable reference order)
    {source : Source}
    (position : Position)
    (what : String)
    (ready : Ready longest steps affordable before.deepen source.text.length 1) :
    Ends before (expand inner source false position what)
      (expand reference source false position what)
      (Expected files affordable calm)
      fun _ after => Effect inlineVocabulary before after := by
  refine expand_ends ?_ fun message => .reportError ..
  refine (expansion_ends sound source ready).imp (fun _ => id) ?_
  intro value after effect
  exact ⟨(effect_surface effect).precedes, effect_surface effect⟩

/-- An expansion may go one level deeper, or an error is reported. -/
theorem mayExpand_ends
    {faults : Fault → Prop}
    (position : Position)
    (what : String) :
    Ends before (mayExpand position what) (mayExpand position what) faults
      fun may after =>
        if may then
          after = before ∧ before.expansionDepth < expansionLimit
        else
          ∃ message, after = before.error position message := by
  unfold mayExpand
  apply Ends.state
  split
  next inLimit =>
    exact .pure ⟨rfl, inLimit⟩
  next =>
    exact .updateThen (.pure ⟨_, rfl⟩)

/-- Below the limit, names are expanded. -/
theorem mayExpand_finishes
    (room : before.expansionDepth < expansionLimit)
    (position : Position)
    (what : String) :
    Finishes before (mayExpand position what) fun may after => may = true ∧ after = before := by
  apply Ends.state
  rw [if_pos room]
  exact .pure ⟨rfl, rfl⟩

/-- Expanding the name of a macro has the effect of a phrase. -/
theorem expandMacro_ends
    (sound : inner.Sound files longest steps affordable reference order)
    (position : Position)
    (name : String)
    (ready : Ready longest steps affordable before length extra) :
    Ends before (expandMacro inner position name) (expandMacro reference position name)
      (Expected files affordable calm)
      fun _ after => Effect inlineVocabulary before after := by
  unfold expandMacro
  apply Ends.state
  cases found : before.macros.find? name with
  | none =>
      exact .update (.text ..)
  | some body =>
      have short : body.length ≤ longest := ready.bounded.macros.of_find? found
      refine (mayExpand_ends position _).bind ?_
      rintro (_ | _) middle may
      · obtain ⟨message, rfl⟩ := may
        exact .pure (.reportError ..)
      · obtain ⟨rfl, inLimit⟩ := may
        refine expand_phrase_ends sound position _ ?_
        exact ready.deeper (ready.bounded.of_same rfl rfl) (room_deepen inLimit) short (by decide)
          fun limits => limits.deepen inLimit

/--
The output of an argument is a fragment. It is taken out of the document again,
and only errors are left behind.
-/
theorem captureArgument_ends
    (sound : inner.Sound files longest steps affordable reference order)
    (source : Source)
    (ready : Ready longest steps affordable before source.text.length 1) :
    Ends before (captureArgument inner source) (captureArgument reference source)
      (Expected files affordable calm)
      fun captured after =>
        before.AddsErrors after ∧
          ∀ events,
            captured = some events →
              before.Scoped → Fragment inlineVocabulary events := by
  unfold captureArgument
  apply Ends.state
  apply Ends.updateThen
  have readyInside :
      Ready longest steps affordable { before with pendingParagraph := false }
        source.text.length 1 :=
    ready.alike ⟨rfl, rfl, rfl, rfl, rfl⟩ (Nat.le_refl _) (Nat.le_refl _)
  refine (expansion_ends sound source readyInside).bind ?_
  rintro succeeded middle effect
  obtain ⟨events, errors, fragment, areErrors, rfl⟩ := effect
  have settled : ({ before with pendingParagraph := false } : CompilerState).pendingParagraph =
      false :=
    rfl
  rw [replay_of_settled settled]
  cases succeeded with
  | false =>
      refine .updateThen (.pure ⟨?_, by simp⟩)
      have precedes :
          before.Precedes
            ({ before with
              pendingParagraph := false
              events := before.events ++ events.toArray }.withErrors errors) := by
        refine
          { Precedes.refl before with
            events := ?_
            diagnostics := ?_
            errorCount := Nat.le_add_right .. }
        · simp [withErrors]
        · simp [withErrors]
      rw [precedes.rollback]
      exact .refl before
  | true =>
      apply Ends.state
      refine .updateThen (.pure ⟨?_, ?_⟩)
      · refine ⟨errors, areErrors, ?_⟩
        simp [withErrors]
      · intro captured sameEvents wellScoped
        obtain rfl : events = captured := by
          simpa [withErrors] using sameEvents
        exact fragment wellScoped

/-- What parameters stand for after their arguments were read. -/
structure Bound (longest : Nat) (before : CompilerState) (bindings : NameTable Template) : Prop where
  known : before.Scoped → bindings.Every Template.IsPhraseIfKnown
  short : bindings.Every fun template => template.body.length ≤ longest

/-- The scope of the arguments stands for phrases, or an argument cannot be read. -/
theorem bindArguments_ends
    (sound : inner.Sound files longest steps affordable reference order)
    (position : Position)
    (template : Template)
    {index : Nat}
    {bindings : NameTable Template}
    {arguments : List (String × String)}
    (bound : Bound longest before bindings)
    (ready : Ready longest steps affordable before length 1)
    (short : ∀ argument ∈ arguments, argument.2.length ≤ length) :
    Ends before (bindArguments inner position template index bindings arguments)
      (bindArguments reference position template index bindings arguments)
      (Expected files affordable calm)
      fun result after =>
        Effect inlineVocabulary before after ∧
          ∀ scope, result = some scope → Bound longest before scope := by
  induction arguments generalizing before index bindings with
  | nil =>
      unfold bindArguments
      refine .pure ⟨.refl before, ?_⟩
      rintro scope ⟨⟩
      exact bound
  | cons first rest inductionHypothesis =>
      obtain ⟨param, argument⟩ := first
      have firstShort : argument.length ≤ length := short (param, argument) (by simp)
      have readyForFirst : Ready longest steps affordable before argument.length 1 :=
        ready.nearer firstShort (by omega)
      unfold bindArguments
      refine (captureArgument_ends sound _ readyForFirst).bind ?_
      rintro (_ | events) middle ⟨adds, fragment⟩
      · refine .updateThen (.pure ⟨adds.effect.trans (.reportError ..), by simp⟩)
      · have effect : Effect inlineVocabulary before middle := adds.effect
        have extended :
            Bound longest middle
              (bindings.insert param
                { name := param, body := argument, events := some events }) :=
          { known := by
              intro wellScoped
              have wasScoped := effect.scoped_iff.mp wellScoped
              refine (bound.known wasScoped).insert param ?_
              rintro known ⟨⟩
              exact ⟨fragment events rfl wasScoped, rfl⟩
            short := bound.short.insert param (Nat.le_trans firstShort ready.short) }
        have readyForRest : Ready longest steps affordable middle length 1 :=
          ready.alike effect.alike (Nat.le_refl _) (Nat.le_refl _)
        refine
          (inductionHypothesis extended readyForRest fun other member =>
            short other (by simp [member])).imp (fun _ => id) ?_
        rintro result after ⟨later, isBound⟩
        refine ⟨effect.trans later, ?_⟩
        intro scope isResult
        have boundLater := isBound scope isResult
        exact
          { known := fun wellScoped => boundLater.known (effect.scoped_iff.mpr wellScoped)
            short := boundLater.short }

/-- An effect in a scope of arguments is one outside it. -/
private theorem effect_closeScope
    {vocabulary : Vocabulary}
    {bindings : NameTable Template}
    {after : CompilerState}
    (bound : Bound longest before bindings)
    (effect : Effect vocabulary (before.openScope bindings) after) :
    Effect vocabulary before after.closeScope := by
  refine Passage.conjugate ?_ ?_ ?_ ?_ effect
  · exact fun _ _ => rfl
  · exact fun _ _ => rfl
  · exact fun _ => rfl
  · exact fun wellScoped => wellScoped.pushScope (bound.known wellScoped)

/-- What is ready for a call is ready for the body of the template, one level deeper. -/
private theorem ready_body
    {bindings : NameTable Template}
    {body : String}
    (ready : Ready longest steps affordable before length extra)
    (bound : Bound longest before bindings)
    (inLimit : before.expansionDepth < expansionLimit)
    (short : body.length ≤ longest)
    {extraInside : Nat}
    (cheap : extraInside ≤ 4) :
    Ready longest steps affordable (before.beginExpansion bindings) body.length extraInside :=
  ready.deeper (ready.bounded.beginExpansion bound.short) (room_deepen inLimit) short cheap
    fun limits => (limits.deepen inLimit).of_same rfl rfl rfl

/-- The body of a template that is read as a phrase has the effect of a phrase. -/
theorem expandBody_phrase_ends
    (sound : inner.Sound files longest steps affordable reference order)
    (position : Position)
    {template : Template}
    {blockContext : Bool}
    {bindings : NameTable Template}
    (isPhrase : (template.block && blockContext) = false)
    (ready : Ready longest steps affordable before length extra)
    (bound : Bound longest before bindings)
    (inLimit : before.expansionDepth < expansionLimit)
    (short : template.body.length ≤ longest) :
    Ends before (expandBody inner position template blockContext bindings)
      (expandBody reference position template blockContext bindings)
      (Expected files affordable calm)
      fun _ after => Effect inlineVocabulary before after := by
  have bodyShort : (Text.trimmed template.body).length ≤ longest :=
    Nat.le_trans (Text.length_trimmed_le _) short
  have readyInside :
      Ready longest steps affordable (before.openScope bindings).deepen
        (Text.trimmed template.body).length 1 :=
    ready_body ready bound inLimit bodyShort (by decide)
  unfold expandBody
  simp only [isPhrase, Bool.false_eq_true, ↓reduceIte]
  apply Ends.updateThen
  refine Ends.thenAlways ?_
  refine Ends.imp (expand_phrase_ends sound position _ ?_) (fun _ => id) ?_
  · exact readyInside
  intro value after effect
  show Effect inlineVocabulary before
    { after with templates := after.templates.popScope?.getD after.templates }
  rw [TemplateTable.popScope?_getD]
  exact effect_closeScope bound effect

/-- Expanding a text as blocks in a scope of arguments has the effect of the blocks. -/
private theorem expand_block_ends
    (sound : inner.Sound files longest steps affordable reference order)
    {source : Source}
    {position : Position}
    {what : String}
    {bindings : NameTable Template}
    (bound : Bound longest before bindings)
    (ready :
      Ready longest steps affordable (before.beginExpansion bindings) source.text.length 3)
    (isCalm : calm → order.holds before) :
    Ends (before.openScope bindings) (expand inner source true position what)
      (expand reference source true position what)
      (Expected files affordable calm)
      fun _ after => BlockEffect longest before after.closeScope := by
  have calmInside : calm → order.holds (before.beginExpansion bindings) := fun calmBefore =>
    order.beginExpansion bound.known (isCalm calmBefore)
  have onError :
      ∀ message,
        BlockEffect longest before
          ((before.openScope bindings).error position message).closeScope := by
    intro message
    show BlockEffect longest before (before.error position message)
    exact .flow (.reportError ..)
  refine expand_ends ?_ onError
  refine (expansion_block_ends sound source ready calmInside).imp (fun _ => id) ?_
  intro value after effect
  have inside := effect.precedes
  refine ⟨?_, .expanded bound.known bound.short effect⟩
  exact
    { inside with
      expansionDepth := by
        simp [surface, inside.expansionDepth, beginExpansion, deepen] }

/-- The body of a block template has the effect of the blocks in it. -/
theorem expandBody_block_ends
    (sound : inner.Sound files longest steps affordable reference order)
    (position : Position)
    {template : Template}
    {bindings : NameTable Template}
    (isBlock : template.block = true)
    (ready : Ready longest steps affordable before length extra)
    (bound : Bound longest before bindings)
    (inLimit : before.expansionDepth < expansionLimit)
    (short : template.body.length ≤ longest)
    (isCalm : calm → order.holds before) :
    Ends before (expandBody inner position template true bindings)
      (expandBody reference position template true bindings)
      (Expected files affordable calm)
      fun _ after => BlockEffect longest before after := by
  have readyInside :
      Ready longest steps affordable (before.beginExpansion bindings)
        template.body.length 3 :=
    ready_body ready bound inLimit short (by decide)
  unfold expandBody
  simp only [isBlock, Bool.and_self, ↓reduceIte]
  apply Ends.updateThen
  refine Ends.thenAlways ?_
  refine (expand_block_ends sound bound readyInside isCalm).imp (fun _ => id) ?_
  intro value after effect
  show BlockEffect longest before
    { after with templates := after.templates.popScope?.getD after.templates }
  rw [TemplateTable.popScope?_getD]
  exact effect

/--
Calling a template has the effect of its output, if that is known already, or
else that of its body. All else that a call may do is report an error.
-/
theorem invokeTemplate_ends
    (sound : inner.Sound files longest steps affordable reference order)
    {position : Position}
    {template : Template}
    {arguments : String}
    {blockContext : Bool}
    {results : CompilerState → Prop}
    (ready : Ready longest steps affordable before arguments.length 1)
    (onEffect : ∀ after, Effect inlineVocabulary before after → results after)
    (onEvents :
      ∀ events, template.events = some events → results (before.replay events))
    (onBody :
      ∀ middle bindings,
        Effect inlineVocabulary before middle →
        Bound longest middle bindings →
        middle.expansionDepth < expansionLimit →
        Ends middle (expandBody inner position template blockContext bindings)
          (expandBody reference position template blockContext bindings)
          (Expected files affordable calm)
          fun _ after => results after) :
    Ends before (invokeTemplate inner position template arguments blockContext)
      (invokeTemplate reference position template arguments blockContext)
      (Expected files affordable calm)
      fun _ after => results after := by
  unfold invokeTemplate
  cases known : template.events with
  | some events =>
      exact .update (onEvents events known)
  | none =>
      cases separated : splitArguments? arguments template.params.length with
      | none =>
          exact .update (onEffect _ (.reportError ..))
      | some pieces =>
          refine (mayExpand_ends position _).bind ?_
          rintro (_ | _) middle may
          · obtain ⟨message, rfl⟩ := may
            exact .pure (onEffect _ (.reportError ..))
          · obtain ⟨rfl, inLimit⟩ := may
            have short :
                ∀ argument ∈ template.params.zip pieces,
                  argument.2.length ≤ arguments.length := by
              intro argument member
              exact length_le_of_mem_splitArguments? separated (List.of_mem_zip member).2
            have nothingBound : Bound longest middle {} :=
              { known := fun _ => .empty
                short := .empty }
            refine (bindArguments_ends sound position template nothingBound ready short).bind ?_
            rintro (_ | bindings) afterArguments ⟨effect, bound⟩
            · exact .pure (onEffect _ effect)
            · have isBound := bound bindings rfl
              refine onBody afterArguments bindings effect ?_ ?_
              · exact
                  { known := fun wellScoped => isBound.known (effect.scoped_iff.mp wellScoped)
                    short := isBound.short }
              · rw [effect.alike.expansionDepth]
                exact inLimit

/-- Calling a template in a phrase has the effect of a phrase. -/
theorem invokeTemplate_phrase_ends
    (sound : inner.Sound files longest steps affordable reference order)
    (position : Position)
    {name : String}
    {template : Template}
    {arguments : String}
    (found : before.templates.find? name = some template)
    (ready : Ready longest steps affordable before arguments.length 1) :
    Ends before (invokeTemplate inner position template arguments)
      (invokeTemplate reference position template arguments)
      (Expected files affordable calm)
      fun _ after => Effect inlineVocabulary before after := by
  refine invokeTemplate_ends sound ready (fun _ => id) ?_ ?_
  · intro events known
    exact .replay before fun wellScoped => (wellScoped.of_find? found events known).1
  · intro middle bindings effect bound inLimit
    have readyAfter : Ready longest steps affordable middle arguments.length 1 :=
      ready.alike effect.alike (Nat.le_refl _) (Nat.le_refl _)
    refine
      (expandBody_phrase_ends sound position (Bool.and_false _) readyAfter bound inLimit
        (ready.bounded.templates.of_find? found)).imp (fun _ => id) ?_
    exact fun _ _ later => effect.trans later

/-- Calling a block template in the place of a block has the effect of blocks. -/
theorem invokeTemplate_block_ends
    (sound : inner.Sound files longest steps affordable reference order)
    (position : Position)
    {name : String}
    {template : Template}
    {arguments : String}
    (found : before.templates.find? name = some template)
    (isBlock : template.block = true)
    (ready : Ready longest steps affordable before arguments.length 1)
    (isCalm : calm → order.holds before) :
    Ends before (invokeTemplate inner position template arguments true)
      (invokeTemplate reference position template arguments true)
      (Expected files affordable calm)
      fun _ after => BlockEffect longest before after := by
  refine invokeTemplate_ends sound ready (fun _ effect => .flow effect.toFlow) ?_ ?_
  · intro events known
    -- In a state that is in order no block template has a known output.
    refine .flow (.replay before fun wellScoped => ?_)
    have isPhrase := (wellScoped.of_find? found events known).2
    simp [isBlock] at isPhrase
  · intro middle bindings effect bound inLimit
    have readyAfter : Ready longest steps affordable middle arguments.length 1 :=
      ready.alike effect.alike (Nat.le_refl _) (Nat.le_refl _)
    have blockEffect : BlockEffect longest before middle := .flow effect.toFlow
    refine
      (expandBody_block_ends sound position isBlock readyAfter bound inLimit
        (ready.bounded.templates.of_find? found)
        fun calmBefore => order.blockEffect blockEffect (isCalm calmBefore)).imp (fun _ => id) ?_
    exact fun _ _ later => blockEffect.trans later

/-- A call of something undefined leaves an error and the text of the call. -/
theorem keepUndefined_ends
    {faults : Fault → Prop}
    (position : Position)
    (name rawText : String) :
    Ends before (keepUndefined position name rawText) (keepUndefined position name rawText)
      faults
      fun _ after => Effect inlineVocabulary before after :=
  .update ((Passage.reportError ..).trans (.text ..))

end DocMarkup.Compile
