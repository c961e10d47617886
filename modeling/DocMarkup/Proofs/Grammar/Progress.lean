import DocMarkup.Grammar.Block

namespace DocMarkup.Cursor

/-!
# Progress of readers

Every reader leaves less to be read than there was, or at least not more. The
bounds are what makes nested reading end: a construct is read from a place with
less behind it than the place where its bracket stands.
-/

variable {cursor next : Cursor}

/-! ## Characters, runs and fixed texts -/

/-- Skipping a run never adds to what remains. -/
theorem length_rest_skip_le
    (cursor : Cursor)
    (belongs : Char → Bool) :
    (cursor.skip belongs).rest.length ≤ cursor.rest.length := by
  simp [skip]

/-- Skipping spaces and tabs never adds to what remains. -/
theorem length_rest_skipHorizontal_le (cursor : Cursor) :
    cursor.skipHorizontal.rest.length ≤ cursor.rest.length :=
  length_rest_skip_le cursor _

/-- Reading a fixed text takes as many characters as it has. -/
theorem length_rest_literal?
    {expected : String}
    (read : cursor.literal? expected = some next) :
    next.rest.length + expected.length = cursor.rest.length := by
  unfold literal? at read
  split at read
  next isPrefix =>
    obtain rfl := Option.some.inj read
    have longEnough := (List.isPrefixOf_iff_prefix.mp isPrefix).length_le
    rw [String.length_toList] at longEnough
    rw [rest_advance, List.length_drop]
    omega
  next =>
    simp at read

/-- Reading one character leaves one less. -/
theorem length_rest_character?
    {expected : Char}
    (read : cursor.character? expected = some next) :
    next.rest.length + 1 = cursor.rest.length := by
  unfold character? isBefore at read
  cases remaining : cursor.rest with
  | nil =>
      simp [remaining] at read
  | cons first rest =>
      split at read
      · obtain rfl := Option.some.inj read
        simp [remaining]
      · simp at read

/-- Reading a closing bracket leaves one character less. -/
theorem length_rest_close? (read : cursor.close? = some next) :
    next.rest.length + 1 = cursor.rest.length :=
  length_rest_character? read

/-- Skipping a line feed never adds to what remains. -/
theorem length_rest_skipLineFeed_le (cursor : Cursor) :
    cursor.skipLineFeed.rest.length ≤ cursor.rest.length := by
  unfold skipLineFeed
  cases read : cursor.character? '\n' with
  | none =>
      exact Nat.le_refl _
  | some next =>
      have shorter := length_rest_character? read
      simp only [Option.getD_some]
      omega

/-- A run that is read is not empty. -/
theorem length_rest_runOf?_lt
    {belongs : Char → Bool}
    {text : String}
    (read : cursor.runOf? belongs = some (text, next)) :
    next.rest.length < cursor.rest.length := by
  unfold runOf? run at read
  cases remaining : cursor.rest with
  | nil =>
      simp [remaining] at read
  | cons first rest =>
      by_cases isMember : belongs first
      · simp only [remaining, List.takeWhile_cons, isMember, ↓reduceIte, List.isEmpty_cons,
          Bool.false_eq_true, Option.some.injEq, Prod.mk.injEq] at read
        obtain ⟨_, rfl⟩ := read
        simp only [rest_advance, remaining, List.length_drop, List.length_cons]
        omega
      · simp [remaining, isMember] at read

/-- A name that is read is not empty. -/
theorem length_rest_name?_lt
    {name : String}
    (read : cursor.name? = some (name, next)) :
    next.rest.length < cursor.rest.length := by
  unfold name? at read
  split at read
  next first rest remaining =>
    split at read
    · simp only [Option.some.injEq, Prod.mk.injEq] at read
      obtain ⟨_, rfl⟩ := read
      simp only [rest_advance, remaining, List.length_drop, List.length_cons]
      omega
    · simp at read
  next =>
    simp at read

/-- A gap that is read is not empty. -/
theorem length_rest_gap?_lt (read : cursor.gap? = some next) :
    next.rest.length < cursor.rest.length := by
  unfold gap? at read
  obtain ⟨⟨text, after⟩, run, rfl⟩ := Option.map_eq_some_iff.mp read
  exact length_rest_runOf?_lt run

/-- The end of a line never adds to what remains. -/
theorem length_rest_lineEnd?_le (read : cursor.lineEnd? = some next) :
    next.rest.length ≤ cursor.rest.length := by
  have blanks := length_rest_skipHorizontal_le cursor
  simp only [lineEnd?] at read
  split at read
  · obtain rfl := Option.some.inj read
    exact blanks
  · have shorter := length_rest_character? read
    omega

/-- A blank line that is read is not empty. -/
theorem length_rest_blankLine?_lt (read : cursor.blankLine? = some next) :
    next.rest.length < cursor.rest.length := by
  have blanks := length_rest_skipHorizontal_le cursor
  unfold blankLine? at read
  split at read
  · simp at read
  next someLeft =>
    simp only [lineEnd?] at read
    split at read
    next noneLeft =>
      obtain rfl := Option.some.inj read
      simp only [isAtEnd, List.isEmpty_iff] at someLeft noneLeft
      rw [noneLeft]
      exact List.length_pos_iff.mpr someLeft
    next =>
      have shorter := length_rest_character? read
      omega

/-- Reading a keyword takes as many characters as it has. -/
theorem length_rest_keyword?
    {expected : String}
    (read : cursor.keyword? expected = some next) :
    next.rest.length + expected.length = cursor.rest.length := by
  unfold keyword? at read
  exact length_rest_literal? (Option.filter_eq_some_iff.mp read).1

/-! ## Brackets -/

/-- The text up to a bracket is part of what remained. -/
theorem length_balanced?_le
    {content : String}
    (read : cursor.balanced? = some (content, next)) :
    content.length ≤ cursor.rest.length := by
  simp only [balanced?, Option.map_eq_some_iff, Prod.mk.injEq] at read
  obtain ⟨length, _, rfl, _⟩ := read
  rw [← String.length_toList, String.toList_ofList, List.length_take]
  exact Nat.min_le_right ..

/-- The text up to a bracket that is read through is part of what remained. -/
theorem length_balancedThrough?_le
    {content : String}
    (read : cursor.balancedThrough? = some (content, next)) :
    content.length ≤ cursor.rest.length := by
  unfold balancedThrough? at read
  split at read
  · simp at read
  next text atBracket balanced =>
    obtain ⟨after, _, shape⟩ := Option.map_eq_some_iff.mp read
    obtain ⟨rfl, _⟩ := Prod.mk.inj shape
    exact length_balanced?_le balanced

/-- Reading through a bracket reads that bracket at least. -/
theorem length_rest_balancedThrough?_lt
    {content : String}
    (read : cursor.balancedThrough? = some (content, next)) :
    next.rest.length < cursor.rest.length := by
  unfold balancedThrough? at read
  split at read
  · simp at read
  next text atBracket balanced =>
    obtain ⟨after, closed, shape⟩ := Option.map_eq_some_iff.mp read
    obtain ⟨_, rfl⟩ := Prod.mk.inj shape
    have toBracket := length_rest_balanced?_le balanced
    have throughBracket := length_rest_close? closed
    omega

/-- Reading a comment reads its bracket at least. -/
theorem length_rest_comment?_lt (read : cursor.comment? = some next) :
    next.rest.length < cursor.rest.length := by
  unfold comment? at read
  obtain ⟨⟨content, after⟩, through, rfl⟩ := Option.map_eq_some_iff.mp read
  obtain ⟨inside, opened, balanced⟩ := Option.bind_eq_some_iff.mp through
  have afterOpening := length_rest_literal? opened
  have afterClosing := length_rest_balancedThrough?_lt balanced
  show after.rest.length < cursor.rest.length
  omega

/-! ## Phrases -/

/-- Reading the front of a style reads a bracket and a mark. -/
theorem length_rest_style?_lt
    {name : String}
    (read : cursor.style? = some (name, next)) :
    next.rest.length < cursor.rest.length := by
  unfold style? at read
  split at read
  next mark rest remaining =>
    obtain ⟨found, _, shape⟩ := Option.map_eq_some_iff.mp read
    obtain ⟨_, rfl⟩ := Prod.mk.inj shape
    simp only [rest_advance, remaining, List.length_drop, List.length_cons]
    omega
  next =>
    simp at read

/-- Reading the front of a link to another document reads a bracket at least. -/
theorem length_rest_url?_lt
    {target : String}
    (read : cursor.url? = some (target, next)) :
    next.rest.length < cursor.rest.length := by
  unfold url? at read
  obtain ⟨inside, opened, run⟩ := Option.bind_eq_some_iff.mp read
  have afterOpening := length_rest_literal? opened
  have afterTarget := length_rest_runOf?_lt run
  omega

/-- Reading the front of a link inside the document reads a bracket at least. -/
theorem length_rest_link?_lt
    {target : String}
    (read : cursor.link? = some (target, next)) :
    next.rest.length < cursor.rest.length := by
  unfold link? at read
  obtain ⟨afterGap, gapRead, run⟩ := Option.bind_eq_some_iff.mp read
  obtain ⟨inside, opened, gap⟩ := Option.bind_eq_some_iff.mp gapRead
  have afterOpening := length_rest_literal? opened
  have pastGap := length_rest_gap?_lt gap
  have afterTarget := length_rest_runOf?_lt run
  omega

/-- Reading an anchor reads a bracket at least. -/
theorem length_rest_anchor?_lt
    {identifier : String}
    (read : cursor.anchor? = some (identifier, next)) :
    next.rest.length < cursor.rest.length := by
  unfold anchor? at read
  split at read
  next found after front =>
    obtain ⟨last, closed, shape⟩ := Option.map_eq_some_iff.mp read
    obtain ⟨_, rfl⟩ := Prod.mk.inj shape
    obtain ⟨inside, opened, run⟩ := Option.bind_eq_some_iff.mp front
    have afterOpening := length_rest_literal? opened
    have afterTarget := length_rest_runOf?_lt run
    have blanks := length_rest_skipHorizontal_le after
    have afterClosing := length_rest_close? closed
    omega
  next =>
    simp at read

/-- Reading an image reads a bracket at least. -/
theorem length_rest_image?_lt
    {file : String}
    (read : cursor.image? = some (file, next)) :
    next.rest.length < cursor.rest.length := by
  unfold image? at read
  split at read
  next inside opened =>
    simp only at read
    split at read
    next content after _ closed =>
      simp only [Option.some.injEq, Prod.mk.injEq] at read
      obtain ⟨_, rfl⟩ := read
      have afterOpening := length_rest_literal? opened
      have afterClosing := length_rest_close? closed
      simp only [rest_advance, List.length_drop] at afterClosing
      omega
    next =>
      simp at read
  next =>
    simp at read

/-- Reading a line break reads a bracket at least. -/
theorem length_rest_lineBreak?_lt (read : cursor.lineBreak? = some next) :
    next.rest.length < cursor.rest.length := by
  unfold lineBreak? at read
  obtain ⟨inside, opened, closed⟩ := Option.bind_eq_some_iff.mp read
  have afterOpening := length_rest_literal? opened
  have blanks := length_rest_skipHorizontal_le inside
  have afterClosing := length_rest_close? closed
  omega

/-- Reading the front of a conditional phrase reads a bracket at least. -/
theorem length_rest_conditional?_lt
    {name : String}
    (read : cursor.conditional? = some (name, next)) :
    next.rest.length < cursor.rest.length := by
  unfold conditional? at read
  obtain ⟨inside, opened, named⟩ := Option.bind_eq_some_iff.mp read
  have afterOpening := length_rest_literal? opened
  have blanks := length_rest_skipHorizontal_le inside
  have afterName := length_rest_name?_lt named
  omega

/-- Reading the front of a template call reads a bracket at least. -/
theorem length_rest_templateCall?_lt
    {name : String}
    (read : cursor.templateCall? = some (name, next)) :
    next.rest.length < cursor.rest.length := by
  unfold templateCall? at read
  split at read
  next content remaining =>
    obtain ⟨found, _, shape⟩ := Option.map_eq_some_iff.mp read
    obtain ⟨_, rfl⟩ := Prod.mk.inj shape
    simp only [rest_advance, remaining, List.length_drop, List.length_cons]
    omega
  next =>
    simp at read

/-- Reading code inside a line reads its quotes at least. -/
theorem length_rest_inlineCode?_lt
    {code : String}
    (read : cursor.inlineCode? = some (code, next)) :
    next.rest.length < cursor.rest.length := by
  unfold inlineCode? at read
  rcases Option.or_eq_some_iff.mp read with doubly | ⟨_, singly⟩
  · unfold doublyQuotedCode? at doubly
    split at doubly
    next first second character rest remaining =>
      split at doubly
      · obtain ⟨length, _, shape⟩ := Option.map_eq_some_iff.mp doubly
        obtain ⟨_, rfl⟩ := Prod.mk.inj shape
        simp only [rest_advance, remaining, List.length_drop, List.length_cons]
        omega
      · simp at doubly
    next =>
      simp at doubly
  · unfold singlyQuotedCode? at singly
    split at singly
    next inside opened =>
      split at singly
      next found atQuote run =>
        obtain ⟨last, closed, shape⟩ := Option.map_eq_some_iff.mp singly
        obtain ⟨_, rfl⟩ := Prod.mk.inj shape
        have afterOpening := length_rest_character? opened
        have afterRun := length_rest_runOf?_lt run
        have afterClosing := length_rest_character? closed
        omega
      next =>
        simp at singly
    next =>
      simp at singly

/-- Reading an escape reads its quotes at least. -/
theorem length_rest_rawEscape?_lt
    {content : String}
    (read : cursor.rawEscape? = some (content, next)) :
    next.rest.length < cursor.rest.length := by
  unfold rawEscape? at read
  split at read
  next isPrefix =>
    obtain ⟨length, _, shape⟩ := Option.map_eq_some_iff.mp read
    obtain ⟨_, rfl⟩ := Prod.mk.inj shape
    have longEnough := (List.isPrefixOf_iff_prefix.mp isPrefix).length_le
    simp only [escapeQuotes, List.length_replicate] at longEnough
    rw [rest_advance, List.length_drop]
    omega
  next =>
    simp at read

/-- A plain run that is read is not empty. -/
theorem length_rest_plainRun?_lt
    {text : String}
    (read : cursor.plainRun? = some (text, next)) :
    next.rest.length < cursor.rest.length :=
  length_rest_runOf?_lt read

end DocMarkup.Cursor
