import DocMarkup.Proofs.Markup.Pen

namespace DocMarkup.Markup

/-!
# Laying out is changing white space

What is laid out is markup of the same tree, with other white space between words and
around blocks. Read back, it has the same passages, and so it is laid out in the same
lines: laying out once more changes nothing.
-/

/-- What is written for lines, each of them ended. -/
def inLines (textLines : List (List Char)) : List Char :=
  textLines.flatMap fun line => line ++ ['\n']

theorem inLines_append (first second : List (List Char)) :
    inLines (first ++ second) = inLines first ++ inLines second :=
  List.flatMap_append

/-! ## Separators of words -/

/-- What stands in front of words that are filled into lines of which the first has been begun. -/
def separatorsFrom
    (lineWidth : Nat)
    (margin line : List Char) :
    List (List Char) →
    List (List Char)
  | [] => []
  | word :: rest =>
      if line.length + 1 + word.length ≤ lineWidth then
        [' '] :: separatorsFrom lineWidth margin (line ++ ' ' :: word) rest
      else
        ('\n' :: margin) :: separatorsFrom lineWidth margin (margin ++ word) rest

/-- What stands between words that are wrapped at a depth. -/
def Layout.separators (layout : Layout) (depth : Nat) : List (List Char) → List (List Char)
  | [] => []
  | word :: rest =>
      separatorsFrom layout.lineWidth (layout.margin depth) (layout.margin depth ++ word) rest

/-- The margin is white space. -/
theorem isBreak_of_mem_margin
    {layout : Layout}
    {depth : Nat}
    {character : Char}
    (member : character ∈ layout.margin depth) :
    isBreak character = true := by
  obtain ⟨_, rfl⟩ := List.mem_replicate.mp member
  rfl

/-- Filled lines are words with their separators. -/
theorem inLines_wrapFrom (lineWidth : Nat) (margin line : List Char) (words : List (List Char)) :
    inLines (wrapFrom lineWidth margin line words) =
      line ++
        (List.zipWith (· ++ ·) (separatorsFrom lineWidth margin line words) words).flatten ++
          ['\n'] := by
  induction words generalizing line with
  | nil =>
      simp [wrapFrom, inLines]
  | cons word rest inductionHypothesis =>
      rw [wrapFrom, separatorsFrom]
      by_cases fits : line.length + 1 + word.length ≤ lineWidth
      · rw [if_pos fits, if_pos fits, inductionHypothesis]
        simp
      · rw [if_neg fits, if_neg fits]
        unfold inLines at inductionHypothesis ⊢
        rw [List.flatMap_cons, inductionHypothesis]
        simp

/-- Wrapped lines are words with their separators, behind a margin. -/
theorem inLines_wrapped
    (layout : Layout)
    (depth : Nat)
    {words : List (List Char)}
    (someWords : words ≠ []) :
    inLines (layout.wrapped depth words) =
      layout.margin depth ++ woven (layout.separators depth words) words ++ ['\n'] := by
  cases words with
  | nil =>
      exact (someWords rfl).elim
  | cons word rest =>
      rw [Layout.wrapped, wrap, inLines_wrapFrom, Layout.separators, woven]
      simp

/-- There is a separator for every word that goes on. -/
theorem length_separatorsFrom (lineWidth : Nat) (margin line : List Char) (words : List (List Char)) :
    (separatorsFrom lineWidth margin line words).length = words.length := by
  induction words generalizing line with
  | nil =>
      rfl
  | cons word rest inductionHypothesis =>
      rw [separatorsFrom]
      split
      · simp [inductionHypothesis]
      · simp [inductionHypothesis]

/-- A line is gone on with behind a space, or after a line feed and the margin. -/
theorem areSeparators_separatorsFrom
    (layout : Layout)
    (depth : Nat)
    (line : List Char)
    (words : List (List Char)) :
    AreSeparators (separatorsFrom layout.lineWidth (layout.margin depth) line words) := by
  induction words generalizing line with
  | nil =>
      simp [separatorsFrom, AreSeparators]
  | cons word rest inductionHypothesis =>
      rw [separatorsFrom]
      split
      · refine List.forall_mem_cons.mpr ⟨⟨by simp, ?_⟩, inductionHypothesis _⟩
        simp [isBreak]
      · refine List.forall_mem_cons.mpr ⟨⟨by simp, ?_⟩, inductionHypothesis _⟩
        exact List.forall_mem_cons.mpr ⟨rfl, fun _ => isBreak_of_mem_margin⟩

/-- Wrapping separates words by white space. -/
theorem Layout.separate_separators (layout : Layout) (depth : Nat) (words : List (List Char)) :
    Separate (layout.separators depth words) words := by
  cases words with
  | nil =>
      exact ⟨rfl, by simp [Layout.separators, AreSeparators]⟩
  | cons word rest =>
      exact ⟨length_separatorsFrom _ _ _ _, areSeparators_separatorsFrom layout depth _ _⟩

/-- Single spaces between words. -/
def singleSpaces (words : List (List Char)) : List (List Char) :=
  List.replicate (words.length - 1) [' ']

/-- Single spaces separate words. -/
theorem separate_singleSpaces (words : List (List Char)) : Separate (singleSpaces words) words where
  enough := List.length_replicate
  areSeparators := by
    intro separator member
    obtain ⟨_, rfl⟩ := List.mem_replicate.mp member
    simp [isBreak]

/-- Words on one line have single spaces between them. -/
theorem woven_singleSpaces (words : List (List Char)) :
    woven (singleSpaces words) words = List.intercalate [' '] words := by
  cases words with
  | nil =>
      rfl
  | cons word rest =>
      induction rest generalizing word with
      | nil =>
          simp [woven]
      | cons next others inductionHypothesis =>
          have further := inductionHypothesis next
          simp only [woven, singleSpaces, List.length_cons, Nat.add_sub_cancel] at further ⊢
          rw [List.intercalate_cons_cons, ← further, List.replicate_succ]
          simp

/-! ## Nodes that make up lines -/

/-- Nodes that make up a text and differ from others in white space that does not matter. -/
structure LaidOut (text : List Char) (nodes spaced : List Node) : Prop where
  respaced : Respaced nodes spaced
  serializes : serializeAll spaced = text
  passages : passagesFrom [] spaced = passagesFrom [] nodes

/-- A text of white space has only glyphs at which a line may be cut. -/
theorem areSpaces_ofText
    {space : List Char}
    (isSpace : inkIn space = []) :
    AreSpaces (glyphsOfAll (Node.ofText space)) := by
  have noInk := filter_map_glyphOf space
  rw [isSpace, List.map_nil, List.filter_eq_nil_iff] at noInk
  rw [glyphsOfAll_ofText]
  intro glyph member
  simpa using noInk glyph member

/-- White space in front of passages goes on with the words before it. -/
theorem passagesFrom_ofText
    {space : List Char}
    (isSpace : inkIn space = [])
    (nodes : List Node) :
    passagesFrom [] (Node.ofText space ++ nodes) = passagesFrom [] nodes := by
  have spaces := passagesFrom_of_spaces (areSpaces_ofText isSpace) [] nodes
  rw [List.append_nil] at spaces
  rw [passagesFrom_append (areInline_ofText space), List.nil_append, spaces]

/-- White space may be put around nodes. -/
theorem LaidOut.surround
    {text before after : List Char}
    {nodes spaced : List Node}
    (laidOut : LaidOut text nodes spaced)
    (isSpaceBefore : inkIn before = [])
    (isSpaceAfter : inkIn after = []) :
    LaidOut (before ++ text ++ after) nodes
      (Node.ofText before ++ (spaced ++ Node.ofText after)) where
  respaced := by
    have behind := laidOut.respaced.append (.insert isSpaceAfter .nil)
    rw [List.append_nil, List.append_nil] at behind
    exact .insert isSpaceBefore behind
  serializes := by
    simp [serializeAll_append, serializeAll_ofText, laidOut.serializes]
  passages := by
    rw [passagesFrom_ofText isSpaceBefore,
      passagesFrom_append_spaces (areInline_ofText after) (areSpaces_ofText isSpaceAfter),
      laidOut.passages]

theorem inkIn_nil : inkIn [] = [] :=
  rfl

theorem inkIn_lineFeed : inkIn ['\n'] = [] :=
  rfl

theorem inkIn_margin (layout : Layout) (depth : Nat) : inkIn (layout.margin depth) = [] := by
  refine List.filter_eq_nil_iff.mpr fun character member => ?_
  simp [isBreak_of_mem_margin member]

section Inline

variable {nodes : List Node} (inline : AreInline nodes)

include inline

/-- Nodes inside a line are laid out with any separators between their words. -/
theorem laidOut_respacedAll
    {separators : List (List Char)}
    (separate : Separate separators (wordsOf nodes)) :
    LaidOut (woven separators (wordsOf nodes)) nodes (respacedAll ⟨separators, false⟩ nodes) := by
  obtain ⟨sameWords, serializes⟩ := respacedAll_weaves separate
  exact
    { respaced := respaced_respacedAll separate.areSeparators nodes
      serializes := serializes
      passages := by
        rw [passagesFrom_of_inline inline,
          passagesFrom_of_inline (areInline_respacedAll inline _), List.nil_append,
          List.nil_append, sameWords] }

/-- Nodes inside a line are laid out as a paragraph. -/
theorem exists_paragraph (layout : Layout) (depth : Nat) :
    ∃ spaced,
      AreInline spaced ∧
        LaidOut (inLines (layout.wrapped depth (wordsOf nodes))) nodes spaced := by
  have core := laidOut_respacedAll inline (layout.separate_separators depth (wordsOf nodes))
  have coreInline :=
    areInline_respacedAll inline ⟨layout.separators depth (wordsOf nodes), false⟩
  by_cases noWords : wordsOf nodes = []
  · refine ⟨_, coreInline, ?_⟩
    rw [noWords] at core ⊢
    exact core
  · rw [inLines_wrapped layout depth noWords]
    refine ⟨_, ?_, core.surround (inkIn_margin layout depth) inkIn_lineFeed⟩
    exact List.forall_mem_append.mpr
      ⟨areInline_ofText _, List.forall_mem_append.mpr ⟨coreInline, areInline_ofText _⟩⟩

end Inline

/-! ## Blocks -/

/-- What stands on lines of its own keeps its content only if it is preformatted. -/
theorem isVerbatim_eq_false
    {name : List Char}
    (isBlock : isBlockName name = true)
    (notKept : isPreformatted name = false) :
    isVerbatim name = false := by
  rw [isVerbatim, notKept, Bool.false_or, Bool.eq_false_iff]
  intro isVerbatimTag
  simp only [List.contains_iff_mem, verbatimTags, List.mem_cons, List.not_mem_nil,
    or_false] at isVerbatimTag
  have ofName : name = (String.ofList name).toList := String.toList_ofList.symm
  rcases isVerbatimTag with same | same | same <;>
    · rw [ofName, same] at isBlock
      exact absurd isBlock (by decide)

/-- The nodes inside an element are laid out in any row, behind others that run on. -/
def LaysOut (layout : Layout) (nodes : List Node) : Prop :=
  ∀ depth run, AreInline run →
    ∃ spaced, LaidOut (inLines (layout.lines depth run nodes)) (run.reverse ++ nodes) spaced

/-- The content of an element that stands on lines of its own, laid out between its tags. -/
theorem exists_contents
    {layout : Layout}
    {name : List Char}
    {children : List Node}
    (notKept : isPreformatted name = false)
    (inside : LaysOut layout children)
    (depth : Nat)
    (startTag endTag : List Char) :
    ∃ text spaced,
      LaidOut text children spaced ∧
        inLines (layout.blockLines depth (.element name startTag endTag children)) =
          layout.margin depth ++ (startTag ++ text ++ endTag) ++ ['\n'] := by
  rw [Layout.blockLines, if_neg (by simp [notKept])]
  cases hasBlock : children.any Node.isBlock with
  | true =>
      obtain ⟨spaced, laidOut⟩ := inside (depth + 1) [] (by simp [AreInline])
      refine ⟨_, _, laidOut.surround inkIn_lineFeed (inkIn_margin layout depth), ?_⟩
      simp [inLines]
  | false =>
      have inline := (areInline_iff children).mpr hasBlock
      rw [if_neg Bool.false_ne_true, Layout.filled]
      split
      · refine ⟨_, _, laidOut_respacedAll inline (separate_singleSpaces _), ?_⟩
        simp [inLines, woven_singleSpaces]
      · obtain ⟨spaced, _, laidOut⟩ := exists_paragraph inline layout (depth + 1)
        refine ⟨_, _, laidOut.surround inkIn_lineFeed (inkIn_margin layout depth), ?_⟩
        simp [inLines]

/-- A block is laid out on lines of its own. -/
theorem exists_block
    {layout : Layout}
    {node : Node}
    (isBlock : node.isBlock = true)
    (inside :
      ∀ name startTag endTag children,
        node = .element name startTag endTag children → LaysOut layout children)
    (depth : Nat) :
    ∃ spaced : Node,
      spaced.isBlock = true ∧ Respaced [node] [spaced] ∧ spaced.passage = node.passage ∧
        inLines (layout.blockLines depth node) =
          layout.margin depth ++ spaced.serialize ++ ['\n'] := by
  cases node with
  | leaf kind content =>
      exact ⟨_, isBlock, .refl _, rfl, by simp [Layout.blockLines, inLines, Node.serialize]⟩
  | emptyElement name tag =>
      exact ⟨_, isBlock, .refl _, rfl, by simp [Layout.blockLines, inLines, Node.serialize]⟩
  | element name startTag endTag children =>
      cases isKept : isPreformatted name with
      | true =>
          exact ⟨_, isBlock, .refl _, rfl,
            by simp [Layout.blockLines, isKept, inLines, Node.serialize]⟩
      | false =>
          obtain ⟨text, spaced, laidOut, sameLines⟩ :=
            exists_contents isKept (inside _ _ _ _ rfl) depth startTag endTag
          refine ⟨.element name startTag endTag spaced, isBlock,
            .inside (isVerbatim_eq_false isBlock isKept) laidOut.respaced .nil, ?_, ?_⟩
          · simp [Node.passage, isKept, laidOut.passages]
          · rw [sameLines, Node.serialize, laidOut.serializes]

/-- A block is laid out between a paragraph and what follows. -/
theorem LaidOut.aroundBlock
    {text restText : List Char}
    {nodes spaced rest restSpaced : List Node}
    {node block : Node}
    (before : LaidOut text nodes spaced)
    (inline : AreInline nodes)
    (spacedInline : AreInline spaced)
    (isBlock : node.isBlock = true)
    (stillBlock : block.isBlock = true)
    (respaced : Respaced [node] [block])
    (samePassage : block.passage = node.passage)
    (behind : LaidOut restText rest restSpaced) :
    LaidOut (text ++ (block.serialize ++ restText)) (nodes ++ node :: rest)
      (spaced ++ block :: restSpaced) where
  respaced := before.respaced.append (respaced.append behind.respaced)
  serializes := by
    rw [serializeAll_append, serializeAll, before.serializes, behind.serializes]
  passages := by
    have sameWords := before.passages
    rw [passagesFrom_of_inline spacedInline, passagesFrom_of_inline inline] at sameWords
    rw [passagesFrom_append spacedInline, passagesFrom_append inline, passagesFrom, passagesFrom,
      if_pos isBlock, if_pos stillBlock, samePassage, behind.passages, (List.cons.inj sameWords).1]

/-- Nodes are laid out in a row if those inside the first and the others are. -/
private theorem laysOut_cons
    {layout : Layout}
    {node : Node}
    {rest : List Node}
    (inside :
      ∀ name startTag endTag children,
        node = .element name startTag endTag children → LaysOut layout children)
    (others : LaysOut layout rest) :
    LaysOut layout (node :: rest) := by
  intro depth run inline
  rw [Layout.lines]
  cases isBlock : node.isBlock with
  | false =>
      obtain ⟨spaced, laidOut⟩ :=
        others depth (node :: run) (List.forall_mem_cons.mpr ⟨isBlock, inline⟩)
      rw [List.reverse_cons, List.append_assoc] at laidOut
      exact ⟨spaced, laidOut⟩
  | true =>
      have inlineBefore : AreInline run.reverse :=
        fun other member => inline other (List.mem_reverse.mp member)
      obtain ⟨paragraph, isInline, before⟩ := exists_paragraph inlineBefore layout depth
      obtain ⟨block, stillBlock, respaced, samePassage, blockLines⟩ :=
        exists_block isBlock inside depth
      obtain ⟨spaced, behind⟩ := others depth [] (by simp [AreInline])
      -- The margin of the block ends the paragraph, the end of its line starts what follows.
      have upToBlock := before.surround inkIn_nil (inkIn_margin layout depth)
      have fromBlock := behind.surround inkIn_lineFeed inkIn_nil
      have upToBlockInline :
          AreInline (Node.ofText [] ++ (paragraph ++ Node.ofText (layout.margin depth))) :=
        List.forall_mem_append.mpr
          ⟨areInline_ofText _, List.forall_mem_append.mpr ⟨isInline, areInline_ofText _⟩⟩
      have laidOut :=
        upToBlock.aroundBlock inlineBefore upToBlockInline isBlock stillBlock respaced samePassage
          fromBlock
      rw [if_pos rfl, inLines_append, inLines_append, blockLines]
      simp only [List.reverse_nil, List.nil_append, List.append_nil, List.append_assoc] at laidOut ⊢
      exact ⟨_, laidOut⟩

/-- Nodes are laid out in a row. -/
theorem laysOut (layout : Layout) (nodes : List Node) : LaysOut layout nodes := by
  induction nodes using forestInduction with
  | nil =>
      intro depth run inline
      have inlineBefore : AreInline run.reverse :=
        fun other member => inline other (List.mem_reverse.mp member)
      obtain ⟨paragraph, _, laidOut⟩ := exists_paragraph inlineBefore layout depth
      exact ⟨paragraph, by simpa [Layout.lines] using laidOut⟩
  | leaf kind content rest inductionHypothesis =>
      exact laysOut_cons (by simp) inductionHypothesis
  | emptyElement name tag rest inductionHypothesis =>
      exact laysOut_cons (by simp) inductionHypothesis
  | element name startTag endTag children rest insideHypothesis inductionHypothesis =>
      refine laysOut_cons ?_ inductionHypothesis
      rintro _ _ _ _ ⟨⟩
      exact insideHypothesis

/-- What is laid out is read back as the same tree, apart from white space. -/
theorem exists_reading
    (layout : Layout)
    {markup : List Char}
    {before : List Node}
    (parsed : parseTree markup = .ok before) :
    ∃ after,
      parseTree (inLines (layout.lines 0 [] before)) = .ok after ∧ SameButForSpace before after := by
  obtain ⟨readable, -, -⟩ := readable_of_parseTree parsed
  obtain ⟨spaced, laidOut⟩ := laysOut layout before 0 [] (by simp [AreInline])
  rw [List.reverse_nil, List.nil_append] at laidOut
  have respaced : SameButForSpace before spaced :=
    { tags := laidOut.respaced.tags
      kept := laidOut.respaced.kept
      ink := laidOut.respaced.ink
      passages := laidOut.passages }
  refine ⟨mergedAll spaced, ?_, respaced.trans (sameButForSpace_mergedAll spaced)⟩
  rw [← laidOut.serializes]
  exact parseTree_serializeAll (laidOut.respaced.areReadable readable)

/-! ## Laying out -/

/--
Laying out is idempotent: whatever has been laid out can be laid out once more, and
that gives the same again, whichever sizes are asked for.
-/
theorem layOut_idempotent (indent lineWidth : Option Int) (markup : String) :
    (layOut (.ofSettings indent lineWidth) markup >>= layOut (.ofSettings indent lineWidth)) =
      layOut (.ofSettings indent lineWidth) markup := by
  generalize Layout.ofSettings indent lineWidth = layout
  cases parsed : parseTree markup.toList with
  | error fault =>
      have rejected : layOut layout markup = .error fault := by
        rw [layOut, parsed]
      rw [rejected]
      rfl
  | ok before =>
      have written :
          layOut layout markup = .ok (String.ofList (inLines (layout.lines 0 [] before))) := by
        rw [layOut, parsed]
        rfl
      obtain ⟨after, parsedAgain, same⟩ := exists_reading layout parsed
      have sameLines : layout.lines 0 [] after = layout.lines 0 [] before := by
        rw [lines_eq, lines_eq]
        exact congrArg (layout.passagesLines 0) same.passages
      rw [written]
      show layOut layout (String.ofList (inLines (layout.lines 0 [] before))) = _
      rw [layOut, String.toList_ofList, parsedAgain, ← sameLines]
      rfl

/--
Laying out changes nothing but white space that does not matter. Whatever is not
rejected as no tree is laid out as markup with the same tags, comments, sections of
character data, instructions and declarations, character for character. Elements that
keep their content occur with it. Other texts have the same characters apart from
spaces, tabs, returns and line feeds, and every run of them has the same words.
-/
theorem layOut_keeps_all_but_space (indent lineWidth : Option Int) (markup : String) :
    match layOut (.ofSettings indent lineWidth) markup with
    | .error fault => parseTree markup.toList = .error fault
    | .ok output =>
        ∃ before after,
          parseTree markup.toList = .ok before ∧ serializeAll before = markup.toList ∧
            parseTree output.toList = .ok after ∧ serializeAll after = output.toList ∧
              (tokenize output.toList).map constructs = (tokenize markup.toList).map constructs ∧
                SameButForSpace before after := by
  generalize Layout.ofSettings indent lineWidth = layout
  rw [layOut]
  cases parsed : parseTree markup.toList with
  | error fault =>
      rfl
  | ok before =>
      obtain ⟨after, parsedAgain, same⟩ := exists_reading layout parsed
      obtain ⟨-, tokens, makesUp⟩ := readable_of_parseTree parsed
      obtain ⟨-, tokensAgain, makesUpAgain⟩ := readable_of_parseTree parsedAgain
      have isOutput :
          (String.ofList (inLines (layout.lines 0 [] before))).toList =
            inLines (layout.lines 0 [] before) :=
        String.toList_ofList
      refine ⟨before, after, rfl, makesUp, isOutput ▸ parsedAgain, isOutput ▸ makesUpAgain, ?_, same⟩
      show (tokenize (String.ofList (inLines (layout.lines 0 [] before))).toList).map constructs = _
      rw [isOutput, tokens, tokensAgain]
      exact congrArg Except.ok same.tags

end DocMarkup.Markup
