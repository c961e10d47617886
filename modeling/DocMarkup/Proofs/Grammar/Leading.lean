import DocMarkup.Grammar.Block

namespace DocMarkup.Cursor

/-!
# Where readers lead

Readers stay in the text that they read: every cursor that they give belongs to
the same source, does not lie before the cursor they started from, and lies inside
the text if that one does.
-/

/-- One cursor leads to another of the same source, not backwards and not out of the text. -/
structure Leads (cursor next : Cursor) : Prop where
  source : next.source = cursor.source
  further : cursor.offset ≤ next.offset
  inside :
    cursor.offset ≤ cursor.source.text.length → next.offset ≤ cursor.source.text.length

variable {cursor next last : Cursor}

namespace Leads

/-- A cursor leads to itself. -/
theorem refl (cursor : Cursor) : cursor.Leads cursor :=
  ⟨rfl, Nat.le_refl _, id⟩

/-- Where one reader leads, the next one goes on. -/
theorem trans (first : cursor.Leads next) (second : next.Leads last) : cursor.Leads last where
  source := second.source.trans first.source
  further := Nat.le_trans first.further second.further
  inside isInside := by
    have stillInside := second.inside (by rw [first.source]; exact first.inside isInside)
    rwa [first.source] at stillInside

/-- What remains where a cursor leads is the end of what remains at it. -/
theorem rest_suffix (leads : cursor.Leads next) : next.rest <:+ cursor.rest := by
  have split : next.rest = cursor.rest.drop (next.offset - cursor.offset) := by
    rw [next.rest_eq, cursor.rest_eq, leads.source, List.drop_drop,
      Nat.add_sub_cancel' leads.further]
  rw [split]
  exact List.drop_suffix ..

/-! ## Characters, runs and fixed texts -/

/-- Going on some characters stays in the text. -/
theorem advance (cursor : Cursor) (count : Nat) : cursor.Leads (cursor.advance count) where
  source := rfl
  further := Nat.le_add_right ..
  inside isInside := by
    show cursor.offset + (cursor.rest.take count).length ≤ cursor.source.text.length
    rw [List.length_take, cursor.rest_eq, List.length_drop, String.length_toList]
    omega

/-- What leads somewhere leads on from there. -/
theorem advanced (leads : cursor.Leads next) (count : Nat) : cursor.Leads (next.advance count) :=
  leads.trans (advance next count)

/-- Blanks may be skipped on the way. -/
theorem skipHorizontal (leads : cursor.Leads next) : cursor.Leads next.skipHorizontal :=
  leads.advanced _

/-- So may white space. -/
theorem skipBlank (leads : cursor.Leads next) : cursor.Leads next.skipBlank :=
  leads.advanced _

/-- So may comments. -/
theorem skipComments (leads : cursor.Leads next) : cursor.Leads next.skipComments :=
  leads.advanced _

theorem literal? {expected : String} (read : cursor.literal? expected = some next) :
    cursor.Leads next := by
  unfold Cursor.literal? at read
  split at read
  · obtain rfl := Option.some.inj read
    exact advance ..
  · simp at read

theorem character? {expected : Char} (read : cursor.character? expected = some next) :
    cursor.Leads next := by
  unfold Cursor.character? at read
  split at read
  · obtain rfl := Option.some.inj read
    exact advance ..
  · simp at read

theorem close? (read : cursor.close? = some next) : cursor.Leads next :=
  character? read

/-- A line feed may be skipped on the way. -/
theorem skipLineFeed (leads : cursor.Leads next) : cursor.Leads next.skipLineFeed := by
  unfold Cursor.skipLineFeed
  cases read : next.character? '\n' with
  | none =>
      exact leads
  | some after =>
      exact leads.trans (character? read)

theorem runOf? {belongs : Char → Bool} {text : String}
    (read : cursor.runOf? belongs = some (text, next)) :
    cursor.Leads next := by
  unfold Cursor.runOf? at read
  simp only at read
  split at read
  · simp at read
  · obtain ⟨_, rfl⟩ := Prod.mk.inj (Option.some.inj read)
    exact advance ..

theorem name? {name : String} (read : cursor.name? = some (name, next)) : cursor.Leads next := by
  unfold Cursor.name? at read
  split at read
  · split at read
    · obtain ⟨_, rfl⟩ := Prod.mk.inj (Option.some.inj read)
      exact advance ..
    · simp at read
  · simp at read

theorem gap? (read : cursor.gap? = some next) : cursor.Leads next := by
  obtain ⟨⟨text, after⟩, run, rfl⟩ := Option.map_eq_some_iff.mp read
  exact runOf? run

theorem lineEnd? (read : cursor.lineEnd? = some next) : cursor.Leads next := by
  have blanks : cursor.Leads cursor.skipHorizontal := (refl cursor).skipHorizontal
  simp only [Cursor.lineEnd?] at read
  split at read
  · obtain rfl := Option.some.inj read
    exact blanks
  · exact blanks.trans (character? read)

theorem blankLine? (read : cursor.blankLine? = some next) : cursor.Leads next := by
  unfold Cursor.blankLine? at read
  split at read
  · simp at read
  · exact lineEnd? read

theorem keyword? {expected : String} (read : cursor.keyword? expected = some next) :
    cursor.Leads next :=
  literal? (Option.filter_eq_some_iff.mp read).1

/-! ## Brackets -/

theorem balanced? {content : String} (read : cursor.balanced? = some (content, next)) :
    cursor.Leads next := by
  simp only [Cursor.balanced?, Option.map_eq_some_iff, Prod.mk.injEq] at read
  obtain ⟨length, _, _, rfl⟩ := read
  exact advance ..

theorem balancedThrough? {content : String}
    (read : cursor.balancedThrough? = some (content, next)) :
    cursor.Leads next := by
  unfold Cursor.balancedThrough? at read
  split at read
  · simp at read
  next text atBracket balanced =>
    obtain ⟨after, closed, shape⟩ := Option.map_eq_some_iff.mp read
    obtain ⟨_, rfl⟩ := Prod.mk.inj shape
    exact (balanced? balanced).trans (close? closed)

theorem comment? (read : cursor.comment? = some next) : cursor.Leads next := by
  unfold Cursor.comment? at read
  obtain ⟨⟨content, after⟩, through, rfl⟩ := Option.map_eq_some_iff.mp read
  obtain ⟨inside, opened, balanced⟩ := Option.bind_eq_some_iff.mp through
  exact (literal? opened).trans (balancedThrough? balanced)

/-! ## Phrases -/

theorem style? {name : String} (read : cursor.style? = some (name, next)) :
    cursor.Leads next := by
  unfold Cursor.style? at read
  split at read
  · obtain ⟨_, _, shape⟩ := Option.map_eq_some_iff.mp read
    obtain ⟨_, rfl⟩ := Prod.mk.inj shape
    exact advance ..
  · simp at read

theorem url? {target : String} (read : cursor.url? = some (target, next)) :
    cursor.Leads next := by
  obtain ⟨inside, opened, run⟩ := Option.bind_eq_some_iff.mp read
  exact (literal? opened).trans (runOf? run)

theorem link? {target : String} (read : cursor.link? = some (target, next)) :
    cursor.Leads next := by
  obtain ⟨afterGap, gapRead, run⟩ := Option.bind_eq_some_iff.mp read
  obtain ⟨inside, opened, gap⟩ := Option.bind_eq_some_iff.mp gapRead
  exact ((literal? opened).trans (gap? gap)).trans (runOf? run)

theorem anchor? {identifier : String} (read : cursor.anchor? = some (identifier, next)) :
    cursor.Leads next := by
  unfold Cursor.anchor? at read
  split at read
  next found after front =>
    obtain ⟨last, closed, shape⟩ := Option.map_eq_some_iff.mp read
    obtain ⟨_, rfl⟩ := Prod.mk.inj shape
    obtain ⟨inside, opened, run⟩ := Option.bind_eq_some_iff.mp front
    exact ((literal? opened).trans (runOf? run)).skipHorizontal.trans (close? closed)
  next =>
    simp at read

theorem image? {file : String} (read : cursor.image? = some (file, next)) :
    cursor.Leads next := by
  unfold Cursor.image? at read
  split at read
  next inside opened =>
    simp only at read
    split at read
    next _ after _ closed =>
      obtain ⟨_, rfl⟩ := Prod.mk.inj (Option.some.inj read)
      exact ((literal? opened).advanced _).trans (close? closed)
    next =>
      simp at read
  next =>
    simp at read

theorem lineBreak? (read : cursor.lineBreak? = some next) : cursor.Leads next := by
  obtain ⟨inside, opened, closed⟩ := Option.bind_eq_some_iff.mp read
  exact (literal? opened).skipHorizontal.trans (close? closed)

theorem conditional? {name : String} (read : cursor.conditional? = some (name, next)) :
    cursor.Leads next := by
  obtain ⟨inside, opened, named⟩ := Option.bind_eq_some_iff.mp read
  exact (literal? opened).skipHorizontal.trans (name? named)

theorem templateCall? {name : String} (read : cursor.templateCall? = some (name, next)) :
    cursor.Leads next := by
  unfold Cursor.templateCall? at read
  split at read
  · obtain ⟨_, _, shape⟩ := Option.map_eq_some_iff.mp read
    obtain ⟨_, rfl⟩ := Prod.mk.inj shape
    exact advance ..
  · simp at read

theorem doublyQuotedCode? {code : String} (read : cursor.doublyQuotedCode? = some (code, next)) :
    cursor.Leads next := by
  unfold Cursor.doublyQuotedCode? at read
  split at read
  · split at read
    · obtain ⟨length, _, shape⟩ := Option.map_eq_some_iff.mp read
      obtain ⟨_, rfl⟩ := Prod.mk.inj shape
      exact advance ..
    · simp at read
  · simp at read

theorem singlyQuotedCode? {code : String} (read : cursor.singlyQuotedCode? = some (code, next)) :
    cursor.Leads next := by
  unfold Cursor.singlyQuotedCode? at read
  split at read
  next inside opened =>
    split at read
    next found atQuote run =>
      obtain ⟨last, closed, shape⟩ := Option.map_eq_some_iff.mp read
      obtain ⟨_, rfl⟩ := Prod.mk.inj shape
      exact ((character? opened).trans (runOf? run)).trans (character? closed)
    next =>
      simp at read
  next =>
    simp at read

theorem inlineCode? {code : String} (read : cursor.inlineCode? = some (code, next)) :
    cursor.Leads next := by
  rcases Option.or_eq_some_iff.mp read with doubly | ⟨_, singly⟩
  · exact doublyQuotedCode? doubly
  · exact singlyQuotedCode? singly

theorem rawEscape? {content : String} (read : cursor.rawEscape? = some (content, next)) :
    cursor.Leads next := by
  unfold Cursor.rawEscape? at read
  split at read
  · obtain ⟨length, _, shape⟩ := Option.map_eq_some_iff.mp read
    obtain ⟨_, rfl⟩ := Prod.mk.inj shape
    exact advance ..
  · simp at read

theorem plainRun? {text : String} (read : cursor.plainRun? = some (text, next)) :
    cursor.Leads next :=
  runOf? read

/-! ## Blocks -/

theorem listMarker? {marker : ListMarker} (read : cursor.listMarker? = some (marker, next)) :
    cursor.Leads next := by
  obtain ⟨_, _, shape⟩ := Option.map_eq_some_iff.mp read
  obtain ⟨_, rfl⟩ := Prod.mk.inj shape
  exact advance ..

theorem sectionEnd? (read : cursor.sectionEnd? = some next) : cursor.Leads next := by
  obtain ⟨inside, opened, closed⟩ := Option.bind_eq_some_iff.mp read
  exact (literal? opened).skipHorizontal.trans (close? closed)

theorem heading? {level : Option Int} (read : cursor.heading? = some (level, next)) :
    cursor.Leads next := by
  obtain ⟨⟨keyword, ownLevel⟩, _, found⟩ := List.exists_of_findSome?_eq_some read
  obtain ⟨after, keywordRead, shape⟩ := Option.map_eq_some_iff.mp found
  obtain ⟨_, rfl⟩ := Prod.mk.inj shape
  exact keyword? keywordRead

theorem admonition? {name : String} (read : cursor.admonition? = some (name, next)) :
    cursor.Leads next := by
  obtain ⟨element, _, found⟩ := List.exists_of_findSome?_eq_some read
  obtain ⟨after, keywordRead, shape⟩ := Option.map_eq_some_iff.mp found
  obtain ⟨_, rfl⟩ := Prod.mk.inj shape
  exact keyword? keywordRead

/-- A keyword, a gap and a name stay in the text. -/
private theorem keywordGapName {keyword name : String} {accepts : String × Cursor → Bool}
    (read :
      (((cursor.literal? keyword).bind Cursor.gap?).bind Cursor.name?).filter accepts =
        some (name, next)) :
    cursor.Leads next := by
  obtain ⟨afterGap, gapRead, named⟩ :=
    Option.bind_eq_some_iff.mp (Option.filter_eq_some_iff.mp read).1
  obtain ⟨inside, opened, gap⟩ := Option.bind_eq_some_iff.mp gapRead
  exact ((literal? opened).trans (gap? gap)).trans (name? named)

theorem macroHead? {name : String} (read : cursor.macroHead? = some (name, next)) :
    cursor.Leads next :=
  keywordGapName read

theorem templateHead? {name : String} (read : cursor.templateHead? = some (name, next)) :
    cursor.Leads next :=
  keywordGapName read

theorem templateParams (cursor : Cursor) : cursor.Leads cursor.templateParams.2 := by
  unfold Cursor.templateParams
  split
  · exact refl cursor
  next inside opened =>
    have afterOpening : cursor.Leads inside :=
      (refl cursor).skipHorizontal.trans (character? opened)
    simp only
    split
    next after closed =>
      split
      · exact (afterOpening.advanced _).trans (close? closed)
      · exact refl cursor
    next =>
      exact refl cursor

theorem givenId? {given : Option String} (read : cursor.givenId? = some (given, next)) :
    cursor.Leads next := by
  unfold Cursor.givenId? at read
  split at read
  next inside opened =>
    obtain ⟨⟨identifier, after⟩, run, shape⟩ := Option.map_eq_some_iff.mp read
    obtain ⟨_, rfl⟩ := Prod.mk.inj shape
    exact (character? opened).trans (runOf? run)
  next =>
    obtain ⟨_, rfl⟩ := Prod.mk.inj (Option.some.inj read)
    exact refl cursor

theorem keywordWithId? {expected : String} {given : Option String}
    (read : cursor.keywordWithId? expected = some (given, next)) :
    cursor.Leads next := by
  obtain ⟨inside, opened, identified⟩ :=
    Option.bind_eq_some_iff.mp (Option.filter_eq_some_iff.mp read).1
  exact (literal? opened).trans (givenId? identified)

theorem inclusionHead? {given : Option String}
    (read : cursor.inclusionHead? = some (given, next)) :
    cursor.Leads next := by
  unfold Cursor.inclusionHead? at read
  split at read
  next found afterId front =>
    obtain ⟨after, gap, shape⟩ := Option.map_eq_some_iff.mp read
    obtain ⟨_, rfl⟩ := Prod.mk.inj shape
    obtain ⟨inside, opened, identified⟩ := Option.bind_eq_some_iff.mp front
    exact ((literal? opened).trans (givenId? identified)).trans (gap? gap)
  next =>
    simp at read

theorem fileName? {name : String} (read : cursor.fileName? = some (name, next)) :
    cursor.Leads next := by
  obtain ⟨⟨content, after⟩, through, shape⟩ :=
    Option.map_eq_some_iff.mp (Option.filter_eq_some_iff.mp read).1
  obtain ⟨_, rfl⟩ := Prod.mk.inj shape
  exact balancedThrough? through

theorem tableTitle (cursor : Cursor) : cursor.Leads cursor.tableTitle.2 :=
  advance ..

theorem fenceOpening? (read : cursor.fenceOpening? = some next) : cursor.Leads next := by
  simp only [Cursor.fenceOpening?] at read
  split at read
  · exact ((((advance cursor _).skipHorizontal).advanced _).skipHorizontal).trans
      (character? read)
  · simp at read

theorem fencedCode? {code : String} (read : cursor.fencedCode? = some (code, next)) :
    cursor.Leads next := by
  unfold Cursor.fencedCode? at read
  split at read
  · simp at read
  next content opened =>
    obtain ⟨_, _, shape⟩ := Option.map_eq_some_iff.mp read
    obtain ⟨_, rfl⟩ := Prod.mk.inj shape
    exact ((fenceOpening? opened).advanced _).skipLineFeed

theorem indentedCode? {code : String} (read : cursor.indentedCode? = some (code, next)) :
    cursor.Leads next := by
  simp only [Cursor.indentedCode?] at read
  split at read
  · split at read
    · simp at read
    · obtain ⟨_, rfl⟩ := Prod.mk.inj (Option.some.inj read)
      exact advance ..
  · simp at read

end Leads

end DocMarkup.Cursor
