import DocMarkup.Proofs.Markup.Glyph

namespace DocMarkup.Markup

/-!
# Passages of markup

Markup is a row of passages: blocks, and between any two of them the words that run
on in one paragraph. Its lines depend on nothing else. The passages stay the same
when texts that follow one another are joined, and white space does not matter at
the start or the end of a run of words.
-/

/-- A part of markup: words in one paragraph, a block that is kept, or one with a content. -/
inductive Passage where
  | run (words : List (List Char))
  | block (content : List Char)
  | element (startTag endTag : List Char) (contents : List Passage)

mutual

/-- The passage of a node that stands on lines of its own. -/
def Node.passage : Node → Passage
  | .leaf _ content => .block content
  | .emptyElement _ tag => .block tag
  | .element name startTag endTag children =>
      if isPreformatted name then
        .block (startTag ++ serializeAll children ++ endTag)
      else
        .element startTag endTag (passagesFrom [] children)

/-- The passages of nodes in a row; the glyphs since the last block are given. -/
def passagesFrom (written : List Glyph) : List Node → List Passage
  | [] => [.run (wordsIn written)]
  | node :: rest =>
      if node.isBlock then
        .run (wordsIn written) :: node.passage :: passagesFrom [] rest
      else
        passagesFrom (written ++ node.glyphs) rest

end

/-- Nodes of which none stands on lines of its own. -/
def AreInline (nodes : List Node) : Prop :=
  ∀ node ∈ nodes, node.isBlock = false

theorem areInline_iff (nodes : List Node) : AreInline nodes ↔ nodes.any Node.isBlock = false := by
  simp [AreInline]

/-- Nodes inside a line go on with the words before them. -/
theorem passagesFrom_append
    {nodes : List Node}
    (inline : AreInline nodes)
    (written : List Glyph)
    (rest : List Node) :
    passagesFrom written (nodes ++ rest) = passagesFrom (written ++ glyphsOfAll nodes) rest := by
  induction nodes generalizing written with
  | nil =>
      simp [glyphsOfAll]
  | cons node others inductionHypothesis =>
      obtain ⟨notBlock, othersInline⟩ := List.forall_mem_cons.mp inline
      rw [List.cons_append, passagesFrom, notBlock]
      simp [inductionHypothesis othersInline, glyphsOfAll]

/-- Nodes inside a line are one paragraph. -/
theorem passagesFrom_of_inline
    {nodes : List Node}
    (inline : AreInline nodes)
    (written : List Glyph) :
    passagesFrom written nodes = [.run (wordsIn (written ++ glyphsOfAll nodes))] := by
  have appended := passagesFrom_append inline written []
  rwa [List.append_nil, passagesFrom] at appended

/-- The passages start with a run of words. -/
theorem exists_passagesFrom (written : List Glyph) (nodes : List Node) :
    ∃ words rest,
      passagesFrom written nodes = .run words :: rest ∧
        (rest = [] ↔ AreInline nodes) := by
  induction nodes generalizing written with
  | nil =>
      exact ⟨_, [], rfl, by simp [AreInline]⟩
  | cons node others inductionHypothesis =>
      rw [passagesFrom]
      by_cases isBlock : node.isBlock = true
      · exact ⟨_, _, by rw [if_pos isBlock], by simp [AreInline, isBlock]⟩
      · obtain ⟨words, rest, same, alone⟩ := inductionHypothesis (written ++ node.glyphs)
        refine ⟨words, rest, by rw [if_neg isBlock, same], alone.trans ?_⟩
        simp [AreInline, isBlock]

/-! ## The lines of passages -/

mutual

/-- The lines of a passage. -/
def Layout.passageLines (layout : Layout) (depth : Nat) : Passage → List (List Char)
  | .run words => layout.wrapped depth words
  | .block content => [layout.margin depth ++ content]
  | .element startTag endTag contents =>
      match contents with
      | [.run words] => layout.filled depth startTag endTag words
      | _ =>
          let margin := layout.margin depth
          (margin ++ startTag) :: layout.passagesLines (depth + 1) contents ++ [margin ++ endTag]

/-- The lines of passages in a row. -/
def Layout.passagesLines (layout : Layout) (depth : Nat) : List Passage → List (List Char)
  | [] => []
  | passage :: rest => layout.passageLines depth passage ++ layout.passagesLines depth rest

end

/-- The lines of nodes are those of their passages if this holds of the first and the others. -/
private theorem lines_cons
    {layout : Layout}
    {depth : Nat}
    {node : Node}
    {rest : List Node}
    (block : layout.blockLines depth node = layout.passageLines depth node.passage)
    (others :
      ∀ run,
        layout.lines depth run rest =
          layout.passagesLines depth (passagesFrom (glyphsOfAll run.reverse) rest))
    (run : List Node) :
    layout.lines depth run (node :: rest) =
      layout.passagesLines depth (passagesFrom (glyphsOfAll run.reverse) (node :: rest)) := by
  rw [Layout.lines, passagesFrom]
  by_cases isBlock : node.isBlock = true
  · rw [if_pos isBlock, if_pos isBlock, block, others, wordsOf_eq]
    rfl
  · rw [if_neg isBlock, if_neg isBlock, others, List.reverse_cons, glyphsOfAll_append]
    simp [glyphsOfAll]

/-- The lines of nodes are those of their passages. -/
theorem lines_eq (layout : Layout) (depth : Nat) (run nodes : List Node) :
    layout.lines depth run nodes =
      layout.passagesLines depth (passagesFrom (glyphsOfAll run.reverse) nodes) := by
  induction nodes using forestInduction generalizing depth run with
  | nil =>
      rw [Layout.lines, wordsOf_eq]
      simp [passagesFrom, Layout.passagesLines, Layout.passageLines]
  | leaf kind content rest inductionHypothesis =>
      exact lines_cons rfl (inductionHypothesis depth) run
  | emptyElement name tag rest inductionHypothesis =>
      exact lines_cons rfl (inductionHypothesis depth) run
  | element name startTag endTag children rest insideHypothesis inductionHypothesis =>
      refine lines_cons ?_ (inductionHypothesis depth) run
      rw [Layout.blockLines, Node.passage]
      by_cases isKept : isPreformatted name = true
      · rw [if_pos isKept, if_pos isKept]
        simp [Layout.passageLines]
      rw [if_neg isKept, if_neg isKept]
      have inside := insideHypothesis (depth + 1) []
      cases hasBlock : children.any Node.isBlock with
      | false =>
          have inline := (areInline_iff children).mpr hasBlock
          rw [passagesFrom_of_inline inline, wordsOf_eq, Layout.passageLines]
          rfl
      | true =>
          obtain ⟨words, others, same, alone⟩ := exists_passagesFrom [] children
          cases others with
          | nil =>
              simp [(areInline_iff children).mp (alone.mp rfl)] at hasBlock
          | cons second behind =>
              rw [List.reverse_nil, glyphsOfAll, same] at inside
              have several : ∀ only, Passage.run words :: second :: behind ≠ [.run only] := by
                simp
              rw [same, if_pos rfl, inside, Layout.passageLines]
              exact several

/-! ## White space around a run of words -/

/-- Glyphs at all of which a line may be cut. -/
def AreSpaces (glyphs : List Glyph) : Prop :=
  ∀ glyph ∈ glyphs, glyph.isSpace = true

/-- Spaces in front do not matter. -/
theorem wordsIn_append_of_spaces
    {spaces : List Glyph}
    (areSpaces : AreSpaces spaces)
    (glyphs : List Glyph) :
    wordsIn (spaces ++ glyphs) = wordsIn glyphs := by
  induction spaces with
  | nil =>
      rfl
  | cons space rest inductionHypothesis =>
      obtain ⟨isSpace, othersSpaces⟩ := List.forall_mem_cons.mp areSpaces
      cases space with
      | space character =>
          rw [List.cons_append, wordsIn_space, inductionHypothesis othersSpaces]
      | ink content =>
          simp at isSpace

/-- Spaces behind do not matter. -/
theorem wordsIn_append_spaces
    {spaces : List Glyph}
    (areSpaces : AreSpaces spaces)
    (glyphs : List Glyph) :
    wordsIn (glyphs ++ spaces) = wordsIn glyphs := by
  cases spaces with
  | nil =>
      rw [List.append_nil]
  | cons space rest =>
      obtain ⟨isSpace, othersSpaces⟩ := List.forall_mem_cons.mp areSpaces
      have nothing : wordsIn [] = [] := rfl
      cases space with
      | space character =>
          have onlySpaces := wordsIn_append_of_spaces othersSpaces []
          rw [List.append_nil, nothing] at onlySpaces
          rw [wordsIn_append_space, onlySpaces, List.append_nil]
      | ink content =>
          simp at isSpace

/-- Spaces in front of passages do not matter. -/
theorem passagesFrom_of_spaces
    {spaces : List Glyph}
    (areSpaces : AreSpaces spaces)
    (written : List Glyph)
    (nodes : List Node) :
    passagesFrom (spaces ++ written) nodes = passagesFrom written nodes := by
  induction nodes generalizing written with
  | nil =>
      simp [passagesFrom, wordsIn_append_of_spaces areSpaces]
  | cons node rest inductionHypothesis =>
      rw [passagesFrom, passagesFrom, wordsIn_append_of_spaces areSpaces, List.append_assoc,
        inductionHypothesis]

/-- Spaces behind passages do not matter. -/
theorem passagesFrom_append_spaces
    {spaces : List Node}
    (inline : AreInline spaces)
    (areSpaces : AreSpaces (glyphsOfAll spaces))
    (written : List Glyph)
    (nodes : List Node) :
    passagesFrom written (nodes ++ spaces) = passagesFrom written nodes := by
  induction nodes generalizing written with
  | nil =>
      rw [List.nil_append, passagesFrom_of_inline inline, wordsIn_append_spaces areSpaces,
        passagesFrom]
  | cons node rest inductionHypothesis =>
      simp [passagesFrom, inductionHypothesis]

/-! ## Texts that follow one another -/

/-- Joining texts does not change what is written. -/
theorem serializeAll_mergedAll (nodes : List Node) :
    serializeAll (mergedAll nodes) = serializeAll nodes := by
  have joined :
      ∀ (node : Node) (others : List Node),
        serializeAll (node.joinedTo others) = node.serialize ++ serializeAll others := by
    intro node others
    unfold Node.joinedTo
    split
    · simp [serializeAll, Node.serialize]
    · rfl
  induction nodes using forestInduction with
  | nil =>
      rfl
  | leaf kind content rest inductionHypothesis =>
      simp [mergedAll, Node.merged, joined, serializeAll, inductionHypothesis]
  | emptyElement name tag rest inductionHypothesis =>
      simp [mergedAll, Node.merged, joined, serializeAll, inductionHypothesis]
  | element name startTag endTag children rest insideHypothesis inductionHypothesis =>
      simp [mergedAll, Node.merged, joined, serializeAll, Node.serialize, insideHypothesis,
        inductionHypothesis]

/-- A text that is joined to others writes the same glyphs. -/
theorem glyphsOfAll_joinedTo (node : Node) (nodes : List Node) :
    glyphsOfAll (node.joinedTo nodes) = node.glyphs ++ glyphsOfAll nodes := by
  unfold Node.joinedTo
  split
  · simp [glyphsOfAll, Node.glyphs]
  · rfl

/-- Joining texts does not change the glyphs. -/
theorem glyphsOfAll_mergedAll (nodes : List Node) :
    glyphsOfAll (mergedAll nodes) = glyphsOfAll nodes := by
  induction nodes using forestInduction with
  | nil =>
      rfl
  | leaf kind content rest inductionHypothesis =>
      simp [mergedAll, Node.merged, glyphsOfAll_joinedTo, glyphsOfAll, inductionHypothesis]
  | emptyElement name tag rest inductionHypothesis =>
      simp [mergedAll, Node.merged, glyphsOfAll_joinedTo, glyphsOfAll, inductionHypothesis]
  | element name startTag endTag children rest insideHypothesis inductionHypothesis =>
      simp [mergedAll, Node.merged, glyphsOfAll_joinedTo, glyphsOfAll, Node.glyphs,
        serializeAll_mergedAll, insideHypothesis, inductionHypothesis]

/-- A text that is joined to others is still inside a line. -/
theorem passagesFrom_joinedTo (written : List Glyph) (node : Node) (nodes : List Node) :
    passagesFrom written (node.joinedTo nodes) = passagesFrom written (node :: nodes) := by
  unfold Node.joinedTo
  split
  · simp [passagesFrom, Node.isBlock, Node.glyphs]
  · rfl

/-- Joining texts does not change the passages. -/
theorem passagesFrom_mergedAll (written : List Glyph) (nodes : List Node) :
    passagesFrom written (mergedAll nodes) = passagesFrom written nodes := by
  induction nodes using forestInduction generalizing written with
  | nil =>
      rfl
  | leaf kind content rest inductionHypothesis =>
      simp [mergedAll, Node.merged, passagesFrom_joinedTo, passagesFrom, inductionHypothesis]
  | emptyElement name tag rest inductionHypothesis =>
      simp [mergedAll, Node.merged, passagesFrom_joinedTo, passagesFrom, inductionHypothesis]
  | element name startTag endTag children rest insideHypothesis inductionHypothesis =>
      simp [mergedAll, Node.merged, passagesFrom_joinedTo, passagesFrom, Node.isBlock, Node.glyphs,
        Node.passage, serializeAll_mergedAll, glyphsOfAll_mergedAll, insideHypothesis,
        inductionHypothesis]

end DocMarkup.Markup
