import DocMarkup.Text.Blank

namespace DocMarkup.Text

/-!
# The pieces of a text

A text is cut into pieces at separating characters, of which several in a row are one gap.
Pieces are what is put together with single separators between them, and they do not
depend on what the gaps are made of.
-/

/-- Characters that separate nothing are added to the piece that has begun. -/
private theorem piecesFrom_append
    {separates : Char → Bool}
    {word : List Char}
    (clean : ∀ character ∈ word, separates character = false)
    (piece rest : List Char) :
    piecesFrom separates piece (word ++ rest) =
      piecesFrom separates (word.reverse ++ piece) rest := by
  induction word generalizing piece with
  | nil =>
      rfl
  | cons first others inductionHypothesis =>
      have isPart := clean first (by simp)
      rw [List.cons_append, piecesFrom]
      simp only [isPart, Bool.false_eq_true, ↓reduceIte]
      rw [inductionHypothesis fun character member => clean character (by simp [member]),
        List.reverse_cons, List.append_assoc, List.singleton_append]

/-- A piece with a separator behind it is cut off. -/
private theorem piecesFrom_cut
    {separates : Char → Bool}
    {separator : Char}
    (isSeparator : separates separator = true)
    {piece : List Char}
    (someLeft : piece ≠ [])
    (rest : List Char) :
    piecesFrom separates piece (separator :: rest) =
      piece.reverse :: piecesFrom separates [] rest := by
  have notEmpty : piece.isEmpty = false := by simpa using someLeft
  rw [piecesFrom]
  simp only [isSeparator, notEmpty, ↓reduceIte, Bool.false_eq_true]

/-- Words with single separators between them are cut into the words. -/
theorem piecesFrom_intercalate
    {separates : Char → Bool}
    {separator : Char}
    (isSeparator : separates separator = true)
    {words : List (List Char)}
    (clean : ∀ word ∈ words, word ≠ [] ∧ ∀ character ∈ word, separates character = false) :
    piecesFrom separates [] (List.intercalate [separator] words) = words := by
  induction words with
  | nil =>
      rfl
  | cons word others inductionHypothesis =>
      obtain ⟨someLeft, isClean⟩ := clean word (by simp)
      have someLeftReversed : word.reverse ≠ [] := by simpa using someLeft
      have cleanOthers := inductionHypothesis fun other member => clean other (by simp [member])
      cases others with
      | nil =>
          have whole := piecesFrom_append isClean [] []
          simp only [List.append_nil] at whole
          rw [List.intercalate_singleton, whole]
          simp [piecesFrom, someLeft]
      | cons next rest =>
          rw [List.intercalate_cons_cons, List.append_assoc, piecesFrom_append isClean,
            List.append_nil, List.singleton_append, piecesFrom_cut isSeparator someLeftReversed,
            cleanOthers, List.reverse_reverse]

/-- The pieces of a text are not empty and hold no separators. -/
theorem piecesFrom_clean
    {separates : Char → Bool}
    {piece characters : List Char}
    (clean : ∀ character ∈ piece, separates character = false)
    {word : List Char}
    (member : word ∈ piecesFrom separates piece characters) :
    word ≠ [] ∧ ∀ character ∈ word, separates character = false := by
  induction characters generalizing piece with
  | nil =>
      rw [piecesFrom] at member
      split at member
      · simp at member
      next someLeft =>
        obtain rfl := List.mem_singleton.mp member
        exact ⟨by simpa using someLeft, by simpa using clean⟩
  | cons first rest inductionHypothesis =>
      rw [piecesFrom] at member
      split at member
      · split at member
        · exact inductionHypothesis (by simp) member
        next someLeft =>
          rcases List.mem_cons.mp member with rfl | behind
          · exact ⟨by simpa using someLeft, by simpa using clean⟩
          · exact inductionHypothesis (by simp) behind
      next isPart =>
        refine inductionHypothesis ?_ member
        intro character inPiece
        rcases List.mem_cons.mp inPiece with rfl | earlier
        · simpa using isPart
        · exact clean character earlier

/-- Together, the pieces are what is no separator. -/
theorem flatten_piecesFrom (separates : Char → Bool) (piece characters : List Char) :
    (piecesFrom separates piece characters).flatten =
      piece.reverse ++ characters.filter fun character => !separates character := by
  induction characters generalizing piece with
  | nil =>
      cases piece with
      | nil => rfl
      | cons last earlier => simp [piecesFrom]
  | cons first rest inductionHypothesis =>
      rw [piecesFrom]
      split
      next isSeparator =>
        rw [List.filter_cons_of_neg (by simpa using isSeparator)]
        cases piece with
        | nil => simp [inductionHypothesis]
        | cons last earlier => simp [inductionHypothesis]
      next isPart =>
        rw [inductionHypothesis, List.reverse_cons, List.append_assoc, List.singleton_append,
          List.filter_cons_of_pos (by simpa using isPart)]

/-- A gap ends the piece in front of it, whatever the gap is made of. -/
theorem piecesFrom_gap
    {separates : Char → Bool}
    {gap : List Char}
    (someGap : gap ≠ [])
    (isGap : ∀ character ∈ gap, separates character = true)
    (piece rest : List Char) :
    piecesFrom separates piece (gap ++ rest) =
      piecesFrom separates piece [] ++ piecesFrom separates [] rest := by
  induction gap generalizing piece with
  | nil =>
      exact (someGap rfl).elim
  | cons first others inductionHypothesis =>
      obtain ⟨firstSeparates, othersSeparate⟩ := List.forall_mem_cons.mp isGap
      have afterFirst :
          piecesFrom separates [] (others ++ rest) = piecesFrom separates [] rest := by
        by_cases someLeft : others = []
        · rw [someLeft, List.nil_append]
        · exact inductionHypothesis someLeft othersSeparate []
      rw [List.cons_append, piecesFrom, piecesFrom]
      simp only [firstSeparates, ↓reduceIte, afterFirst]
      split <;> rfl

end DocMarkup.Text
