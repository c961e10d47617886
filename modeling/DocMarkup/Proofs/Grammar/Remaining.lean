import DocMarkup.Proofs.Grammar.Alignment

namespace DocMarkup.Cursor

open Text

/-!
# Reading depends on what remains

What is read at a cursor as a whole, such as code or a target, depends on what remains of the
text, not on the source that the text belongs to. So it depends on the text and the place in
it whether all that is read from there on counts alike, and where a bracket is counted.
-/

variable {first second cursor : Cursor} {found other : Option Cursor} {depth : Nat}

/-- What a reader gives, without the source: the text that was read, and what remains behind it. -/
def reading (found : Option (String × Cursor)) : Option (String × List Char) :=
  found.map fun read => (read.1, read.2.rest)

/-- What follows is the same if it depends on what remains only. -/
private theorem bind_congr_of_rest
    {next : Cursor → Option α}
    (same : found.map rest = other.map rest)
    (sameNext : ∀ here there : Cursor, here.rest = there.rest → next here = next there) :
    found.bind next = other.bind next := by
  cases found <;> cases other <;>
    simp only [Option.map_some, Option.map_none, reduceCtorEq] at same
  · rfl
  · exact sameNext _ _ (Option.some.inj same)

private theorem reading_bind
    {reader : Cursor → Option (String × Cursor)}
    (same : found.map rest = other.map rest)
    (sameReading :
      ∀ here there : Cursor, here.rest = there.rest →
        reading (reader here) = reading (reader there)) :
    reading (found.bind reader) = reading (other.bind reader) := by
  unfold reading at *
  rw [Option.map_bind, Option.map_bind]
  exact bind_congr_of_rest same sameReading

private theorem reading_map
    (text : String)
    (same : found.map rest = other.map rest) :
    reading (found.map fun next => (text, next)) =
      reading (other.map fun next => (text, next)) := by
  have sameReading := congrArg (Option.map (Prod.mk text)) same
  simpa only [reading, Option.map_map, Function.comp_def] using sameReading

section Readers

variable (same : first.rest = second.rest)

include same

private theorem rest_literal? (expected : String) :
    (first.literal? expected).map rest = (second.literal? expected).map rest := by
  unfold literal?
  rw [same]
  split <;> simp [same]

private theorem rest_character? (expected : Char) :
    (first.character? expected).map rest = (second.character? expected).map rest := by
  unfold character? isBefore
  rw [same]
  split <;> simp [same]

private theorem rest_skip (belongs : Char → Bool) :
    (first.skip belongs).rest = (second.skip belongs).rest := by
  simp [skip, run, same]

private theorem reading_runOf? (belongs : Char → Bool) :
    reading (first.runOf? belongs) = reading (second.runOf? belongs) := by
  unfold reading runOf? run
  rw [same]
  by_cases isEmpty : (second.rest.takeWhile belongs).isEmpty = true <;> simp [isEmpty, same]

private theorem rest_gap? : first.gap?.map rest = second.gap?.map rest := by
  have sameRun :=
    congrArg (Option.map Prod.snd)
      (reading_runOf? same fun character => isHorizontal character || character == '\n')
  simpa [reading, gap?, Function.comp_def] using sameRun

private theorem reading_url? : reading first.url? = reading second.url? :=
  reading_bind (rest_literal? same _) fun _ _ sameRest => reading_runOf? sameRest _

private theorem reading_link? : reading first.link? = reading second.link? := by
  refine reading_bind ?_ fun _ _ sameRest => reading_runOf? sameRest _
  rw [Option.map_bind, Option.map_bind]
  exact bind_congr_of_rest (rest_literal? same _) fun _ _ => rest_gap?

private theorem reading_anchor? : reading first.anchor? = reading second.anchor? := by
  have sameRun :=
    reading_bind (rest_literal? same "[#") fun _ _ sameRest =>
      reading_runOf? sameRest isTargetCharacter
  unfold anchor?
  generalize (first.literal? "[#").bind _ = here at sameRun ⊢
  generalize (second.literal? "[#").bind _ = there at sameRun ⊢
  cases here <;> cases there <;>
    simp only [reading, Option.map_some, Option.map_none, reduceCtorEq, Option.some.injEq,
      Prod.mk.injEq] at sameRun
  · rfl
  · simp only [sameRun.1]
    exact reading_map _ (rest_character? (rest_skip sameRun.2 isHorizontal) ']')

private theorem reading_image? : reading first.image? = reading second.image? := by
  have sameFront := rest_literal? same "[$"
  unfold image?
  generalize first.literal? "[$" = here at sameFront ⊢
  generalize second.literal? "[$" = there at sameFront ⊢
  cases here <;> cases there <;>
    simp only [Option.map_some, Option.map_none, reduceCtorEq, Option.some.injEq] at sameFront
  · rfl
  next front frontThere =>
    simp only [run, sameFront]
    generalize frontThere.rest.takeWhile _ = content
    have sameClose :
        (front.advance content.length).close?.map rest =
          (frontThere.advance content.length).close?.map rest :=
      rest_character? (by simp [sameFront]) ']'
    cases imageFile? content with
    | none =>
        rfl
    | some file =>
        generalize (front.advance content.length).close? = here at sameClose ⊢
        generalize (frontThere.advance content.length).close? = there at sameClose ⊢
        have sameReading := reading_map (String.ofList file) sameClose
        cases here <;> cases there <;> exact sameReading

private theorem reading_doublyQuotedCode? :
    reading first.doublyQuotedCode? = reading second.doublyQuotedCode? := by
  unfold doublyQuotedCode?
  rw [same]
  split
  · unfold reading
    split
    · simp [Function.comp_def, same]
    · rfl
  · rfl

private theorem reading_singlyQuotedCode? :
    reading first.singlyQuotedCode? = reading second.singlyQuotedCode? := by
  have sameFront := rest_character? same codeQuote
  unfold singlyQuotedCode?
  generalize first.character? codeQuote = here at sameFront ⊢
  generalize second.character? codeQuote = there at sameFront ⊢
  cases here <;> cases there <;>
    simp only [Option.map_some, Option.map_none, reduceCtorEq, Option.some.injEq] at sameFront
  · rfl
  next front frontThere =>
    have sameRun :=
      reading_runOf? sameFront fun character => character != codeQuote && character != '\n'
    simp only
    generalize front.runOf? _ = here at sameRun ⊢
    generalize frontThere.runOf? _ = there at sameRun ⊢
    cases here <;> cases there <;>
      simp only [reading, Option.map_some, Option.map_none, reduceCtorEq, Option.some.injEq,
        Prod.mk.injEq] at sameRun
    · rfl
    · simp only [sameRun.1]
      exact reading_map _ (rest_character? sameRun.2 codeQuote)

private theorem reading_inlineCode? : reading first.inlineCode? = reading second.inlineCode? := by
  have doubly := reading_doublyQuotedCode? same
  have singly := reading_singlyQuotedCode? same
  unfold inlineCode? reading at *
  rw [Option.map_or, Option.map_or, doubly, singly]

/-- What would be read as a whole depends on what remains. -/
theorem wholes_eq_of_rest : first.wholes = second.wholes := by
  have fst_reading (found : Option (String × Cursor)) :
      found.map (·.1) = (reading found).map Prod.fst := by
    simp [reading, Function.comp_def]
  simp only [wholes, List.filterMap_cons, List.filterMap_nil, fst_reading,
    reading_inlineCode? same, reading_url? same, reading_link? same, reading_anchor? same,
    reading_image? same]

end Readers

/-- So it depends on the text and the place in it whether what is read counts alike. -/
theorem CountsToEnd.of_textPlace
    (same : second.textPlace = first.textPlace)
    (alike : first.CountsToEnd depth) :
    second.CountsToEnd depth := by
  obtain ⟨sameOffset, sameText⟩ := TextPlace.mk.inj same
  have sameRest : second.rest = first.rest := by
    rw [second.rest_eq, first.rest_eq, sameOffset, sameText]
  have sameEnd :
      (second.closingBracket? depth).elim second.source.text.length offset =
        (first.closingBracket? depth).elim first.source.text.length offset := by
    unfold closingBracket?
    rw [sameRest, sameText]
    cases closingDistance? depth first.rest <;> simp [advance, sameOffset, sameRest]
  intro place isBefore isFrom
  rw [sameEnd] at isBefore
  rw [sameOffset] at isFrom
  have sameThere : (second.source.cursorAt place).rest = (first.source.cursorAt place).rest := by
    simp only [Source.cursorAt, sameText]
  obtain ⟨wholes, style⟩ := alike place isBefore isFrom
  exact ⟨by rwa [wholes_eq_of_rest sameThere], by rwa [sameThere]⟩

/-- So it does whether a bracket is counted. -/
theorem isSome_closingBracket?_of_textPlace
    (same : second.textPlace = first.textPlace)
    (depth : Nat) :
    (second.closingBracket? depth).isSome = (first.closingBracket? depth).isSome := by
  obtain ⟨sameOffset, sameText⟩ := TextPlace.mk.inj same
  have sameRest : second.rest = first.rest := by
    rw [second.rest_eq, first.rest_eq, sameOffset, sameText]
  unfold closingBracket?
  rw [sameRest, Option.isSome_map, Option.isSome_map]

end DocMarkup.Cursor
