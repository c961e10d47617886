import DocMarkup.Proofs.Markup.Passage

namespace DocMarkup.Markup

/-!
# White space that is changed

Trees may differ only in the white space of their texts. Texts of nothing else may
be put between nodes, and the white space inside texts may be moved, though not in
elements whose content is kept. This changes neither tags nor what is kept.
-/

/-- The node of a text, if there is anything in it. -/
def Node.ofText (content : List Char) : List Node :=
  if content = [] then [] else [.leaf .text content]

/-- The characters of a text that are not white space. -/
def inkIn (content : List Char) : List Char :=
  content.filter fun character => !isBreak character

/-- Nodes that differ from others in white space only. -/
inductive Respaced : List Node → List Node → Prop where
  | nil :
      Respaced [] []
  | insert {space nodes spaced} :
      inkIn space = [] →
      Respaced nodes spaced →
      Respaced nodes (Node.ofText space ++ spaced)
  | text {before after nodes spaced} :
      inkIn after = inkIn before →
      Respaced nodes spaced →
      Respaced (.leaf .text before :: nodes) (Node.ofText after ++ spaced)
  | keep {node nodes spaced} :
      Respaced nodes spaced →
      Respaced (node :: nodes) (node :: spaced)
  | inside {name startTag endTag children spacedChildren nodes spaced} :
      isVerbatim name = false →
      Respaced children spacedChildren →
      Respaced nodes spaced →
      Respaced (.element name startTag endTag children :: nodes)
        (.element name startTag endTag spacedChildren :: spaced)

namespace Respaced

theorem refl (nodes : List Node) : Respaced nodes nodes := by
  induction nodes with
  | nil =>
      exact .nil
  | cons node rest inductionHypothesis =>
      exact .keep inductionHypothesis

theorem append
    {first firstSpaced second secondSpaced : List Node}
    (firstRespaced : Respaced first firstSpaced)
    (secondRespaced : Respaced second secondSpaced) :
    Respaced (first ++ second) (firstSpaced ++ secondSpaced) := by
  induction firstRespaced with
  | nil =>
      exact secondRespaced
  | insert isSpace _ inductionHypothesis =>
      rw [List.append_assoc]
      exact .insert isSpace inductionHypothesis
  | text sameInk _ inductionHypothesis =>
      rw [List.cons_append, List.append_assoc]
      exact .text sameInk inductionHypothesis
  | keep _ inductionHypothesis =>
      exact .keep inductionHypothesis
  | inside notVerbatim children _ _ inductionHypothesis =>
      exact .inside notVerbatim children inductionHypothesis

end Respaced

/-! ## What stays the same -/

mutual

/-- The elements inside a node whose content is kept, as they are written. -/
def Node.keptElements : Node → List (List Char)
  | .leaf _ _ => []
  | .emptyElement name tag => if isVerbatim name then [tag] else []
  | .element name startTag endTag children =>
      let inside := keptElementsOfAll children
      if isVerbatim name then
        (startTag ++ serializeAll children ++ endTag) :: inside
      else
        inside

/-- The elements among nodes whose content is kept, as they are written. -/
def keptElementsOfAll : List Node → List (List Char)
  | [] => []
  | node :: rest => node.keptElements ++ keptElementsOfAll rest

end

/-- What is written with nodes, apart from spaces. -/
def inkOfAll (nodes : List Node) : List Glyph :=
  (glyphsOfAll nodes).filter fun glyph => !glyph.isSpace

/--
Trees that differ in nothing but white space that does not matter: they have the same
tags, comments and the like, the same elements of which the content is kept, and
otherwise the same characters that are not white space; and between the same blocks
they have the same words.
-/
structure SameButForSpace (before after : List Node) : Prop where
  tags : constructs (tokensOfAll after) = constructs (tokensOfAll before)
  kept : keptElementsOfAll after = keptElementsOfAll before
  ink : inkOfAll after = inkOfAll before
  passages : passagesFrom [] after = passagesFrom [] before

theorem SameButForSpace.trans
    {before between after : List Node}
    (first : SameButForSpace before between)
    (second : SameButForSpace between after) :
    SameButForSpace before after where
  tags := second.tags.trans first.tags
  kept := second.kept.trans first.kept
  ink := second.ink.trans first.ink
  passages := second.passages.trans first.passages

theorem keptElementsOfAll_append (first second : List Node) :
    keptElementsOfAll (first ++ second) =
      keptElementsOfAll first ++ keptElementsOfAll second := by
  induction first with
  | nil =>
      rfl
  | cons node rest inductionHypothesis =>
      simp [keptElementsOfAll, inductionHypothesis]

theorem inkOfAll_append (first second : List Node) :
    inkOfAll (first ++ second) = inkOfAll first ++ inkOfAll second := by
  simp [inkOfAll, glyphsOfAll_append]

/-- The ink of a text is that of its characters. -/
theorem filter_map_glyphOf (content : List Char) :
    (content.map glyphOf).filter (fun glyph => !glyph.isSpace) =
      (inkIn content).map fun character => .ink [character] := by
  induction content with
  | nil =>
      rfl
  | cons character rest inductionHypothesis =>
      unfold inkIn at inductionHypothesis ⊢
      by_cases isCut : isBreak character = true
      · simp [glyphOf, isCut, inductionHypothesis]
      · simp [glyphOf, isCut, inductionHypothesis]

/-- Joining texts keeps elements whose content is kept. -/
theorem keptElementsOfAll_mergedAll (nodes : List Node) :
    keptElementsOfAll (mergedAll nodes) = keptElementsOfAll nodes := by
  have joined :
      ∀ (node : Node) (others : List Node),
        keptElementsOfAll (node.joinedTo others) = node.keptElements ++ keptElementsOfAll others := by
    intro node others
    unfold Node.joinedTo
    split
    · simp [keptElementsOfAll, Node.keptElements]
    · rfl
  induction nodes using forestInduction with
  | nil =>
      rfl
  | leaf kind content rest inductionHypothesis =>
      simp [mergedAll, Node.merged, joined, keptElementsOfAll, inductionHypothesis]
  | emptyElement name tag rest inductionHypothesis =>
      simp [mergedAll, Node.merged, joined, keptElementsOfAll, inductionHypothesis]
  | element name startTag endTag children rest insideHypothesis inductionHypothesis =>
      simp [mergedAll, Node.merged, joined, keptElementsOfAll, Node.keptElements,
        serializeAll_mergedAll, insideHypothesis, inductionHypothesis]

/-- Joining texts that follow one another changes nothing else. -/
theorem sameButForSpace_mergedAll (nodes : List Node) :
    SameButForSpace nodes (mergedAll nodes) where
  tags := by
    rw [← mergeTexts_tokensOfAll, constructs_mergeTexts]
  kept := keptElementsOfAll_mergedAll nodes
  ink := by
    rw [inkOfAll, glyphsOfAll_mergedAll, ← inkOfAll]
  passages := passagesFrom_mergedAll [] nodes

section OfText

variable (content : List Char)

theorem glyphsOfAll_ofText : glyphsOfAll (Node.ofText content) = content.map glyphOf := by
  by_cases isEmpty : content = []
  · simp [Node.ofText, isEmpty, glyphsOfAll]
  · simp [Node.ofText, isEmpty, glyphsOfAll, Node.glyphs]

theorem inkOfAll_ofText :
    inkOfAll (Node.ofText content) = (inkIn content).map fun character => .ink [character] := by
  rw [inkOfAll, glyphsOfAll_ofText, filter_map_glyphOf]

theorem serializeAll_ofText : serializeAll (Node.ofText content) = content := by
  rw [← textOf_glyphsOfAll, glyphsOfAll_ofText, textOf_map_glyphOf]

theorem constructs_tokensOfAll_ofText : constructs (tokensOfAll (Node.ofText content)) = [] := by
  by_cases isEmpty : content = []
  · simp [Node.ofText, isEmpty, tokensOfAll, constructs]
  · simp [Node.ofText, isEmpty, tokensOfAll, Node.tokens, constructs]

theorem keptElementsOfAll_ofText : keptElementsOfAll (Node.ofText content) = [] := by
  by_cases isEmpty : content = []
  · simp [Node.ofText, isEmpty, keptElementsOfAll]
  · simp [Node.ofText, isEmpty, keptElementsOfAll, Node.keptElements]

theorem areInline_ofText : AreInline (Node.ofText content) := by
  by_cases isEmpty : content = []
  · simp [Node.ofText, isEmpty, AreInline]
  · simp [Node.ofText, isEmpty, AreInline, Node.isBlock]

end OfText

/-- A text is a piece if it has no opening bracket; that is no white space. -/
theorem areReadable_ofText
    {content : List Char}
    (noBracket : '<' ∉ inkIn content) :
    AreReadable (Node.ofText content) := by
  intro node member
  by_cases isEmpty : content = []
  · simp [Node.ofText, isEmpty] at member
  · simp only [Node.ofText, isEmpty, ↓reduceIte, List.mem_singleton] at member
    subst member
    refine .leaf (isPiece_text_iff.mpr ⟨isEmpty, fun inside => ?_⟩) (by decide)
    exact noBracket (List.mem_filter.mpr ⟨inside, by decide⟩)

namespace Respaced

variable {nodes spaced : List Node}

/-- Changed white space can be read. -/
theorem areReadable (respaced : Respaced nodes spaced) (readable : AreReadable nodes) :
    AreReadable spaced := by
  induction respaced with
  | nil =>
      exact readable
  | insert isSpace _ inductionHypothesis =>
      refine List.forall_mem_append.mpr ⟨areReadable_ofText ?_, inductionHypothesis readable⟩
      simp [isSpace]
  | text sameInk _ inductionHypothesis =>
      obtain ⟨first, others⟩ := List.forall_mem_cons.mp readable
      refine List.forall_mem_append.mpr ⟨areReadable_ofText ?_, inductionHypothesis others⟩
      cases first with
      | leaf isPiece _ =>
          obtain ⟨_, noBracket⟩ := isPiece_text_iff.mp isPiece
          rw [sameInk]
          exact fun inside => noBracket (List.mem_filter.mp inside).1
  | keep _ inductionHypothesis =>
      obtain ⟨first, others⟩ := List.forall_mem_cons.mp readable
      exact List.forall_mem_cons.mpr ⟨first, inductionHypothesis others⟩
  | inside _ _ _ insideHypothesis inductionHypothesis =>
      obtain ⟨first, others⟩ := List.forall_mem_cons.mp readable
      cases first with
      | element opens closes childrenReadable =>
          exact List.forall_mem_cons.mpr
            ⟨.element opens closes (insideHypothesis childrenReadable), inductionHypothesis others⟩

/-- Tags and the like stay the same. -/
theorem tags (respaced : Respaced nodes spaced) :
    constructs (tokensOfAll spaced) = constructs (tokensOfAll nodes) := by
  induction respaced with
  | nil =>
      rfl
  | insert _ _ inductionHypothesis =>
      rw [tokensOfAll_append, constructs_append, constructs_tokensOfAll_ofText, inductionHypothesis]
      rfl
  | text _ _ inductionHypothesis =>
      rw [tokensOfAll_append, constructs_append, constructs_tokensOfAll_ofText, inductionHypothesis]
      rfl
  | keep _ inductionHypothesis =>
      rw [tokensOfAll, tokensOfAll, constructs_append, constructs_append, inductionHypothesis]
  | inside _ _ _ insideHypothesis inductionHypothesis =>
      unfold constructs at insideHypothesis inductionHypothesis ⊢
      simp [tokensOfAll, Node.tokens, insideHypothesis, inductionHypothesis]

/-- Elements whose content is kept stay the same. -/
theorem kept (respaced : Respaced nodes spaced) :
    keptElementsOfAll spaced = keptElementsOfAll nodes := by
  induction respaced with
  | nil =>
      rfl
  | insert _ _ inductionHypothesis =>
      rw [keptElementsOfAll_append, keptElementsOfAll_ofText, inductionHypothesis, List.nil_append]
  | text _ _ inductionHypothesis =>
      rw [keptElementsOfAll_append, keptElementsOfAll_ofText, inductionHypothesis]
      rfl
  | keep _ inductionHypothesis =>
      rw [keptElementsOfAll, keptElementsOfAll, inductionHypothesis]
  | inside notVerbatim _ _ insideHypothesis inductionHypothesis =>
      simp [keptElementsOfAll, Node.keptElements, notVerbatim, insideHypothesis,
        inductionHypothesis]

/-- All but white space stays the same. -/
theorem ink (respaced : Respaced nodes spaced) : inkOfAll spaced = inkOfAll nodes := by
  induction respaced with
  | nil =>
      rfl
  | insert isSpace _ inductionHypothesis =>
      rw [inkOfAll_append, inkOfAll_ofText, isSpace, inductionHypothesis]
      rfl
  | text sameInk _ inductionHypothesis =>
      rw [inkOfAll_append, inkOfAll_ofText, sameInk, inductionHypothesis]
      simp [inkOfAll, glyphsOfAll, Node.glyphs, filter_map_glyphOf]
  | keep _ inductionHypothesis =>
      unfold inkOfAll at inductionHypothesis ⊢
      simp [glyphsOfAll, inductionHypothesis]
  | inside notVerbatim _ _ insideHypothesis inductionHypothesis =>
      unfold inkOfAll at insideHypothesis inductionHypothesis ⊢
      simp [glyphsOfAll, Node.glyphs, notVerbatim, insideHypothesis, inductionHypothesis]

end Respaced

end DocMarkup.Markup
