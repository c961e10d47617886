import DocMarkup.Proofs.Mirror.Everywhere
import DocMarkup.Proofs.Written.Cursor

namespace DocMarkup

/-!
# Where parsers stop

Whatever stands in a text, there is something that applies to it, unless it is a closing
bracket that nothing opened. A phrase goes on to such a bracket, to the end of the text
or, in a paragraph, to the end of a line. A paragraph that cannot start is therefore one
that starts where a phrase ends, and blocks go on to a closing bracket or to the end of
the text. A unit of which something is left has a closing bracket too many.
-/

open Compile

namespace Cursor

/-- Where no block starts: at the end of the text and before a closing bracket. -/
def IsStop (cursor : Cursor) : Prop :=
  cursor.isAtEnd = true ∨ cursor.isBefore ']' = true

/-- Where something remains, a cursor is inside its text. -/
theorem inText_of_not_isAtEnd {cursor : Cursor} (something : cursor.isAtEnd = false) :
    cursor.offset ≤ cursor.source.text.length := by
  by_contra outside
  have nothing : cursor.rest = [] := by
    rw [cursor.rest_eq]
    exact List.drop_eq_nil_of_le (by rw [String.length_toList]; omega)
  simp [isAtEnd, nothing] at something

/-- A bracket before which a cursor stands is one of the text. -/
theorem mem_text_of_isBefore {cursor : Cursor} {character : Char}
    (isBefore : cursor.isBefore character = true) :
    character ∈ cursor.source.text.toList := by
  have isFirst : cursor.rest.head? = some character := by simpa [Cursor.isBefore] using isBefore
  have inRest := List.mem_of_head? isFirst
  rw [cursor.rest_eq] at inRest
  exact List.mem_of_mem_drop inRest

end Cursor

/-- A phrase of a mode may end like that: as the mode demands, or at the end of the text. -/
def PhraseMode.MayEnd (mode : PhraseMode) : Bool × Cursor → Prop
  | (true, stop) =>
      stop.isBefore ']' = true ∨
        (stop.isAtEnd = true ∧ mode ≠ .bracketed) ∨
          (stop.isBefore '\n' = true ∧ (mode = .paragraph ∨ mode = .listItem))
  | (false, stop) => stop.isAtEnd = true ∧ mode = .bracketed

/-- The parsers stop only where they may. -/
structure Inner.Stops (inner : Inner) : Prop where
  phraseFrom : ∀ mode depth buffer cursor,
    Gives (inner.phraseFrom mode depth buffer cursor) mode.MayEnd
  blocks : ∀ nested cursor, Gives (inner.blocks nested cursor) Cursor.IsStop

namespace Compile

/-- Where the last of several rules applies, one of them does. -/
theorem Gives.firstOf_concat
    {cursor : Cursor}
    {otherwise : Prop}
    (rules : List Rule)
    {last : Rule}
    (applies : Gives (last cursor) fun found => found = none → otherwise) :
    Gives (firstOf (rules ++ [last]) cursor) fun found => found = none → otherwise := by
  induction rules with
  | nil =>
      refine (Gives.attempt applies).bind ?_
      rintro (_ | next) given
      · exact .pure given
      · exact .pure nofun
  | cons rule others inductionHypothesis =>
      refine .then_ ?_
      rintro (_ | next)
      · exact inductionHypothesis
      · exact .pure nofun

end Compile

/-! ## Phrases -/

namespace Phrase

variable {inner : Inner} {mode : PhraseMode} {depth : Nat} {buffer : String} {cursor : Cursor}

/-- Only a phrase of a paragraph or of a list item stops at a line feed. -/
private theorem stopsAtLineFeed_mode :
    Gives (stopsAtLineFeed mode cursor) fun stops =>
      stops = true → mode = .paragraph ∨ mode = .listItem := by
  unfold stopsAtLineFeed
  split
  next inLines =>
    have inLines : mode = .paragraph ∨ mode = .listItem := by simpa using inLines
    exact .then_ fun _ => .pure fun _ => inLines
  next =>
    exact .pure nofun

/-- If the parsers inside stop only where they may, so does a step. -/
theorem step_stops (stops : inner.Stops) :
    Gives (step inner mode depth buffer cursor) mode.MayEnd := by
  have goesOn := stops.phraseFrom
  unfold step
  split
  next atEnd =>
    have isAtEnd : cursor.isAtEnd = true := by simp [Cursor.isAtEnd, atEnd]
    refine .then_ fun _ => .pure ?_
    by_cases isBracketed : mode = .bracketed
    · subst isBracketed
      exact ⟨isAtEnd, rfl⟩
    · rw [bne_iff_ne.mpr isBracketed]
      exact .inr (.inl ⟨isAtEnd, isBracketed⟩)
  next first rest remaining =>
    have isBefore : cursor.isBefore first = true := by simp [Cursor.isBefore, remaining]
    split
    next isClosing =>
      obtain rfl := beq_iff_eq.mp isClosing
      split
      · exact .then_ fun _ => .pure (.inl isBefore)
      · exact goesOn _ _ _ _
    split
    next isLineFeed =>
      obtain rfl := beq_iff_eq.mp isLineFeed
      refine Gives.bind stopsAtLineFeed_mode ?_
      rintro (_ | _) inLines
      · exact goesOn _ _ _ _
      · exact .then_ fun _ => .pure (.inr (.inr ⟨isBefore, inLines rfl⟩))
    split
    · refine .then_ fun _ => .then_ ?_
      rintro (_ | next) <;> exact goesOn _ _ _ _
    split
    · exact goesOn _ _ _ _
    split
    · refine .then_ fun _ => .then_ ?_
      rintro (_ | next) <;> exact goesOn _ _ _ _
    split
    · refine .then_ fun _ => ?_
      split
      · exact .then_ fun _ => .then_ fun _ => goesOn _ _ _ _
      · exact goesOn _ _ _ _
    · unfold plain
      split <;> exact goesOn _ _ _ _

end Phrase

/-! ## Blocks -/

namespace Block

variable {inner : Inner} {cursor : Cursor}

/--
A paragraph can start wherever a phrase moves on: it does not end there and then, and
there is no blank line.
-/
private theorem paragraph_applies
    (stops : inner.Stops)
    (sameSource :
      Gives (inner.phrase .paragraph cursor) fun result => result.2.source = cursor.source)
    (notBlank : cursor.blankLine? = none) :
    Gives (paragraph inner cursor) fun found => found = none → cursor.IsStop := by
  have ends : Gives (inner.phrase .paragraph cursor) fun result =>
      result.2.offset = cursor.offset → cursor.IsStop := by
    intro workspace result after ended ownOffset
    obtain ⟨closed, stop⟩ := result
    obtain rfl : stop = cursor :=
      Cursor.eq_of_offset (sameSource workspace _ after ended) ownOffset
    have mayEnd := stops.phraseFrom .paragraph 0 "" stop workspace _ after ended
    cases closed with
    | false =>
        exact .inl mayEnd.1
    | true =>
        obtain atBracket | ⟨atEnd, _⟩ | ⟨atLineFeed, _⟩ := mayEnd
        · exact .inr atBracket
        · exact .inl atEnd
        · -- A line feed is the end of a blank line, of which there is none.
          obtain ⟨rest, remaining⟩ : ∃ rest, stop.rest = '\n' :: rest :=
            List.head?_eq_some_iff.mp (by simpa [Cursor.isBefore] using atLineFeed)
          have reads : stop.Reads ['\n'] (stop.advance 1) := .of_cons remaining
          have isBlank : stop.blankLine? = some (stop.advance 1) := by
            simp [Cursor.blankLine?, reads.lineEnd?_eq, Cursor.isAtEnd, remaining]
          rw [isBlank] at notBlank
          cases notBlank
  unfold paragraph
  refine .then_ fun _ => ends.bind ?_
  rintro ⟨_, next⟩ stays
  dsimp only
  split
  next ownOffset => exact .pure fun _ => stays ownOffset
  next => exact .then_ fun _ => .pure fun isNone => absurd isNone (Option.some_ne_none _)

/-- If the parsers inside stop only where they may, blocks do. -/
theorem step_stops
    (stops : inner.Stops)
    (sameSource :
      ∀ start : Cursor,
        start.isAtEnd = false →
          Gives (inner.phrase .paragraph start) fun result => result.2.source = start.source)
    (nested : Bool) :
    Gives (step inner nested cursor) Cursor.IsStop := by
  unfold step
  split
  next atEnd => exact .pure (.inl atEnd)
  generalize (if nested = true then cursor.skipHorizontal else cursor) = start
  dsimp only
  split
  next closes =>
    simp only [Bool.and_eq_true] at closes
    exact .pure (.inr closes.2)
  split
  next next _ => exact stops.blocks nested next
  next notBlank =>
    have applies : Gives (firstOf (rules inner nested) start) fun found =>
        found = none → start.IsStop := by
      cases atEnd : start.isAtEnd with
      | true =>
          exact fun _ _ _ _ _ => .inl atEnd
      | false =>
          exact .firstOf_concat _ (paragraph_applies stops (sameSource start atEnd) notBlank)
    refine applies.bind ?_
    rintro (_ | next) isStop
    · exact .pure (isStop rfl)
    · exact stops.blocks nested next

end Block

/-- The parsers stop only where they may, however many steps they may take. -/
theorem Inner.within_stops (environment : Environment) (steps : Nat) :
    (Inner.within environment steps).Stops := by
  induction steps with
  | zero =>
      exact ⟨fun _ _ _ _ => .throw _, fun _ _ => .throw _⟩
  | succ steps inductionHypothesis =>
      refine ⟨fun _ _ _ _ => Phrase.step_stops inductionHypothesis, fun nested _ => ?_⟩
      refine Block.step_stops inductionHypothesis (fun start something => ?_) nested
      intro workspace result after ended
      have inText := Cursor.inText_of_not_isAtEnd something
      exact
        (within_phraseFrom_leads environment steps .paragraph 0 "" inText workspace result after
          ended).source

/-! ## Sources -/

namespace Inner

variable (environment : Environment) (steps : Nat)

/-- A phrase ends in the text in which it starts, wherever that is. -/
theorem within_phraseFrom_source
    (mode : PhraseMode)
    (depth : Nat)
    (buffer : String)
    (cursor : Cursor) :
    Gives ((Inner.within environment steps).phraseFrom mode depth buffer cursor)
      fun result => result.2.source = cursor.source := by
  cases atEnd : cursor.isAtEnd with
  | false =>
      have leads :=
        within_phraseFrom_leads environment steps mode depth buffer
          (Cursor.inText_of_not_isAtEnd atEnd)
      exact fun workspace result after ended => (leads workspace result after ended).source
  | true =>
      cases steps with
      | zero =>
          exact .throw _
      | succ steps =>
          have nothing : cursor.rest = [] := by simpa [Cursor.isAtEnd] using atEnd
          rw [within_succ]
          unfold Inner.extend Phrase.step
          simp only [nothing]
          exact .then_ fun _ => .pure rfl

/-- So do blocks. -/
theorem within_blocks_source (nested : Bool) (cursor : Cursor) :
    Gives ((Inner.within environment steps).blocks nested cursor)
      fun stop => stop.source = cursor.source := by
  cases atEnd : cursor.isAtEnd with
  | false =>
      have leads :=
        within_blocks_leads environment steps nested (Cursor.inText_of_not_isAtEnd atEnd)
      exact fun workspace stop after ended => (leads workspace stop after ended).source
  | true =>
      cases steps with
      | zero =>
          exact .throw _
      | succ steps =>
          rw [within_succ]
          unfold Inner.extend Block.step
          simp only [atEnd, ↓reduceIte]
          exact .pure rfl

end Inner

/-! ## Units -/

namespace Compile

variable {environment : Environment} {inner : Inner} {source : Source} {ignoreDocInfo : Bool}
  {workspace after : Workspace} {parsed : Bool}

/-- The information about a document cannot be read or is not complete. -/
def RefusesInfo
    (environment : Environment)
    (inner : Inner)
    (source : Source)
    (ignoreDocInfo : Bool)
    (workspace after : Workspace) :
    Prop :=
  (ignoreDocInfo = false ∧
      ∃ fault,
        readDocInfo source.cursor = .error fault ∧
          after =
            { workspace with
              state := workspace.state.docInfoError (source.position fault.offset) }) ∨
    ∃ info,
      processDocInfo environment inner info (source.position 0) workspace = .ok false after

/-- With the information accepted, the blocks of a unit are read up to a cursor in its text. -/
def ReadsBlocks
    (environment : Environment)
    (inner : Inner)
    (source : Source)
    (workspace : Workspace)
    (info : DocInfo)
    (stop : Cursor)
    (between : Workspace) :
    Prop :=
  ∃ start accepted,
    processDocInfo environment inner info (source.position 0) workspace = .ok true accepted ∧
      inner.blocks false start accepted = .ok stop between ∧ stop.source = source

/-- The blocks of a unit go on to the end of its text, and the document is finished. -/
def ReadsBody
    (environment : Environment)
    (inner : Inner)
    (source : Source)
    (workspace after : Workspace) :
    Prop :=
  ∃ info stop between,
    ReadsBlocks environment inner source workspace info stop between ∧
      stop.isAtEnd = true ∧
        after = { between with state := finishDocument info between.state }

/-- The blocks of a unit stop before a closing bracket, where a syntax error is reported. -/
def RefusesBody
    (environment : Environment)
    (inner : Inner)
    (source : Source)
    (workspace after : Workspace) :
    Prop :=
  ∃ info stop between,
    ReadsBlocks environment inner source workspace info stop between ∧
      stop.isBefore ']' = true ∧
        after = { between with state := between.state.markupError stop.position }

/-- With a syntax error, there is a closing bracket in the text. -/
theorem RefusesBody.mem_text (refuses : RefusesBody environment inner source workspace after) :
    ']' ∈ source.text.toList := by
  obtain ⟨_, stop, _, ⟨_, _, _, _, rfl⟩, atBracket, _⟩ := refuses
  exact Cursor.mem_text_of_isBefore atBracket

/-- A unit whose information is accepted is read to its end, or its body is refused. -/
private theorem parseContent_ends
    (stops : inner.Stops)
    (sameSource :
      ∀ cursor : Cursor,
        Gives (inner.blocks false cursor) fun stop => stop.source = cursor.source)
    {info : DocInfo}
    {cursor : Cursor}
    (inSource : cursor.source = source)
    (ended : parseContent environment inner source info cursor workspace = .ok parsed after) :
    if parsed then ReadsBody environment inner source workspace after
    else
      RefusesInfo environment inner source ignoreDocInfo workspace after ∨
        RefusesBody environment inner source workspace after := by
  obtain ⟨processed, accepted, isProcessed, body⟩ := Gives.exists_of_bind ended
  cases processed with
  | false =>
      cases body
      exact .inl (.inr ⟨info, isProcessed⟩)
  | true =>
      obtain ⟨stop, between, reached, followed⟩ := Gives.exists_of_bind body
      have reads : ReadsBlocks environment inner source workspace info stop between :=
        ⟨cursor, accepted, isProcessed, reached,
          (sameSource cursor accepted stop between reached).trans inSource⟩
      cases atEnd : stop.isAtEnd with
      | true =>
          rw [atEnd] at followed
          cases followed
          exact ⟨info, stop, between, reads, atEnd, rfl⟩
      | false =>
          rw [atEnd] at followed
          cases followed
          have isStop := stops.blocks false cursor accepted stop between reached
          have atBracket : stop.isBefore ']' = true := isStop.resolve_left (by simp [atEnd])
          exact .inr ⟨info, stop, between, reads, atBracket, rfl⟩

/-- A unit is read to its end, or else its information or its body is refused. -/
theorem parseText_ends
    (stops : inner.Stops)
    (sameSource :
      ∀ cursor : Cursor,
        Gives (inner.blocks false cursor) fun stop => stop.source = cursor.source)
    (ended : parseText environment inner source ignoreDocInfo workspace = .ok parsed after) :
    if parsed then ReadsBody environment inner source workspace after
    else
      RefusesInfo environment inner source ignoreDocInfo workspace after ∨
        RefusesBody environment inner source workspace after := by
  unfold parseText at ended
  cases read : readDocInfo source.cursor with
  | ok found =>
      obtain ⟨info, next⟩ := found
      rw [read] at ended
      exact parseContent_ends stops sameSource (readDocInfo_leads read).2.source ended
  | error fault =>
      rw [read] at ended
      cases ignoreDocInfo with
      | true =>
          exact parseContent_ends stops sameSource rfl ended
      | false =>
          cases ended
          exact .inl (.inl ⟨rfl, fault, read, rfl⟩)

end Compile

/--
Only a closing bracket that nothing opened stops a parser before the end of the text.
Blocks stop at the end of the text or before a closing bracket. An expansion does so
as well, and a phrase in brackets stops before a closing bracket, unless it tells that
it came to the end of the text. A unit whose information is accepted is read to its
end, or a syntax error is reported where a closing bracket stands in its text.
-/
theorem only_closing_brackets_stop_parsers (environment : Environment) (steps : Nat) :
    let inner := Inner.within environment steps
    (∀ nested cursor,
      Gives (inner.blocks nested cursor) fun stop =>
        stop.source = cursor.source ∧ (stop.isAtEnd = true ∨ stop.isBefore ']' = true)) ∧
    (∀ cursor,
      Gives (inner.phrase .expansion cursor) fun (closed, stop) =>
        stop.source = cursor.source ∧ closed = true ∧
          (stop.isAtEnd = true ∨ stop.isBefore ']' = true)) ∧
    (∀ cursor,
      Gives (inner.phrase .bracketed cursor) fun (closed, stop) =>
        stop.source = cursor.source ∧
          if closed then stop.isBefore ']' = true else stop.isAtEnd = true) ∧
    ∀ source ignoreDocInfo workspace,
      match parseText environment inner source ignoreDocInfo workspace with
      | .ok true after => ReadsBody environment inner source workspace after
      | .ok false after =>
          RefusesInfo environment inner source ignoreDocInfo workspace after ∨
            (']' ∈ source.text.toList ∧ RefusesBody environment inner source workspace after)
      | .error _ _ => True := by
  intro inner
  have stops : inner.Stops := Inner.within_stops environment steps
  have blocksSource := Inner.within_blocks_source environment steps
  have phraseSource := Inner.within_phraseFrom_source environment steps
  refine ⟨?_, ?_, ?_, ?_⟩
  · intro nested cursor workspace stop after ended
    exact ⟨blocksSource nested cursor workspace stop after ended,
      stops.blocks nested cursor workspace stop after ended⟩
  · rintro cursor workspace ⟨closed, stop⟩ after ended
    refine ⟨phraseSource .expansion 0 "" cursor workspace _ after ended, ?_⟩
    have mayEnd := stops.phraseFrom .expansion 0 "" cursor workspace _ after ended
    cases closed with
    | false => cases mayEnd.2
    | true =>
        obtain atBracket | ⟨atEnd, _⟩ | ⟨_, inLines⟩ := mayEnd
        · exact ⟨rfl, .inr atBracket⟩
        · exact ⟨rfl, .inl atEnd⟩
        · simp at inLines
  · rintro cursor workspace ⟨closed, stop⟩ after ended
    refine ⟨phraseSource .bracketed 0 "" cursor workspace _ after ended, ?_⟩
    have mayEnd := stops.phraseFrom .bracketed 0 "" cursor workspace _ after ended
    cases closed with
    | false => exact mayEnd.1
    | true =>
        obtain atBracket | ⟨_, notBracketed⟩ | ⟨_, inLines⟩ := mayEnd
        · exact atBracket
        · exact (notBracketed rfl).elim
        · simp at inLines
  · intro source ignoreDocInfo workspace
    cases ended : parseText environment inner source ignoreDocInfo workspace with
    | error fault after => trivial
    | ok parsed after =>
        have ends := parseText_ends stops (blocksSource false) ended
        cases parsed with
        | true => exact ends
        | false => exact ends.imp_right fun refuses => ⟨refuses.mem_text, refuses⟩

end DocMarkup
