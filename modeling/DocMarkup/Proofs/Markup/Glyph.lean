import DocMarkup.Proofs.Markup.Reading

namespace DocMarkup.Markup

/-!
# Words of markup

A line of markup is written with glyphs. The white space of texts may be moved. All
else is ink: the other characters of texts, tags and comments, and elements whose
content is kept as it is. Words are what stands between spaces.
-/

/-- A piece of a line: a character at which it may be cut, or what is never cut. -/
inductive Glyph where
  | space (character : Char)
  | ink (content : List Char)
deriving DecidableEq, Repr

/-- What is written for a glyph. -/
def Glyph.text : Glyph → List Char
  | .space character => [character]
  | .ink content => content

/-- Whether a line may be cut at a glyph. -/
def Glyph.isSpace : Glyph → Bool
  | .space _ => true
  | .ink _ => false

@[simp]
theorem Glyph.isSpace_space (character : Char) : (Glyph.space character).isSpace = true :=
  rfl

@[simp]
theorem Glyph.isSpace_ink (content : List Char) : (Glyph.ink content).isSpace = false :=
  rfl

/-- What is written for glyphs in a row. -/
def textOf (glyphs : List Glyph) : List Char :=
  glyphs.flatMap Glyph.text

/-- The glyph of a character of a text. -/
def glyphOf (character : Char) : Glyph :=
  if isBreak character then .space character else .ink [character]

mutual

/-- The glyphs of a node. -/
def Node.glyphs : Node → List Glyph
  | .leaf kind content => if kind = .text then content.map glyphOf else [.ink content]
  | .emptyElement _ tag => [.ink tag]
  | .element name startTag endTag children =>
      if isVerbatim name then
        [.ink (startTag ++ serializeAll children ++ endTag)]
      else
        .ink startTag :: (glyphsOfAll children ++ [.ink endTag])

/-- The glyphs of nodes in a row. -/
def glyphsOfAll : List Node → List Glyph
  | [] => []
  | node :: rest => node.glyphs ++ glyphsOfAll rest

end

/-- The words among glyphs: what is written between spaces, if anything is. -/
def wordsIn (glyphs : List Glyph) : List (List Char) :=
  ((glyphs.splitOnP Glyph.isSpace).map textOf).filter fun word => !word.isEmpty

theorem textOf_append (first second : List Glyph) :
    textOf (first ++ second) = textOf first ++ textOf second :=
  List.flatMap_append

theorem glyphsOfAll_append (first second : List Node) :
    glyphsOfAll (first ++ second) = glyphsOfAll first ++ glyphsOfAll second := by
  induction first with
  | nil =>
      rfl
  | cons node rest inductionHypothesis =>
      simp [glyphsOfAll, inductionHypothesis]

/-- The glyphs of characters write these characters. -/
theorem textOf_map_glyphOf (characters : List Char) :
    textOf (characters.map glyphOf) = characters := by
  have same : ∀ character, (glyphOf character).text = [character] := by
    intro character
    unfold glyphOf
    split <;> rfl
  simp [textOf, List.flatMap_map, same]

/-- The glyphs of nodes write their markup. -/
theorem textOf_glyphsOfAll (nodes : List Node) : textOf (glyphsOfAll nodes) = serializeAll nodes := by
  induction nodes using forestInduction with
  | nil =>
      rfl
  | leaf kind content rest inductionHypothesis =>
      rw [glyphsOfAll, textOf_append, inductionHypothesis, serializeAll, Node.serialize, Node.glyphs]
      split
      · rw [textOf_map_glyphOf]
      · simp [textOf, Glyph.text]
  | emptyElement name tag rest inductionHypothesis =>
      rw [glyphsOfAll, textOf_append, inductionHypothesis, serializeAll, Node.serialize, Node.glyphs]
      simp [textOf, Glyph.text]
  | element name startTag endTag children rest insideHypothesis inductionHypothesis =>
      rw [glyphsOfAll, textOf_append, inductionHypothesis, serializeAll, Node.serialize, Node.glyphs]
      split
      · simp [textOf, Glyph.text]
      · unfold textOf at insideHypothesis ⊢
        simp [Glyph.text, insideHypothesis]

/-! ## Words between spaces -/

/-- A space ends a word. -/
theorem wordsIn_append_space (first : List Glyph) (character : Char) (second : List Glyph) :
    wordsIn (first ++ .space character :: second) = wordsIn first ++ wordsIn second := by
  simp [wordsIn, List.splitOnP_append_cons first second (Glyph.isSpace_space character)]

/-- A space in front of a word is no part of it. -/
theorem wordsIn_space (character : Char) (glyphs : List Glyph) :
    wordsIn (.space character :: glyphs) = wordsIn glyphs :=
  wordsIn_append_space [] character glyphs

/-- Where there is no space there is one word, if anything is written. -/
theorem wordsIn_of_ink
    {glyphs : List Glyph}
    (noSpace : ∀ glyph ∈ glyphs, glyph.isSpace = false) :
    wordsIn glyphs = if textOf glyphs = [] then [] else [textOf glyphs] := by
  rw [wordsIn, List.splitOnP_eq_singleton noSpace]
  by_cases isEmpty : textOf glyphs = []
  · simp [isEmpty]
  · simp [isEmpty]

/-- How a word is put together does not matter. -/
theorem wordsIn_congr
    {first second : List Glyph}
    (firstInk : ∀ glyph ∈ first, glyph.isSpace = false)
    (secondInk : ∀ glyph ∈ second, glyph.isSpace = false)
    (same : textOf first = textOf second)
    (rest : List Glyph) :
    wordsIn (first ++ rest) = wordsIn (second ++ rest) := by
  induction rest generalizing first second with
  | nil =>
      rw [List.append_nil, List.append_nil, wordsIn_of_ink firstInk, wordsIn_of_ink secondInk, same]
  | cons glyph others inductionHypothesis =>
      cases glyph with
      | space character =>
          rw [wordsIn_append_space, wordsIn_append_space, wordsIn_of_ink firstInk,
            wordsIn_of_ink secondInk, same]
      | ink content =>
          have extended :
              ∀ glyphs : List Glyph, (∀ glyph ∈ glyphs, glyph.isSpace = false) →
                ∀ glyph ∈ glyphs ++ [.ink content], glyph.isSpace = false := by
            intro glyphs isInk
            exact List.forall_mem_append.mpr ⟨isInk, by simp⟩
          have sameFurther : textOf (first ++ [.ink content]) = textOf (second ++ [.ink content]) := by
            rw [textOf_append, textOf_append, same]
          simpa using
            inductionHypothesis (extended first firstInk) (extended second secondInk) sameFurther

/-- The words among glyphs of which the first goes on with a word that has begun. -/
def wordsFrom (word : List Char) (glyphs : List Glyph) : List (List Char) :=
  wordsIn (.ink word :: glyphs)

/-- Where there is no space, a word goes on to the end. -/
theorem wordsFrom_of_ink
    {glyphs : List Glyph}
    (noSpace : ∀ glyph ∈ glyphs, glyph.isSpace = false)
    (word : List Char) :
    wordsFrom word glyphs =
      if word ++ textOf glyphs = [] then [] else [word ++ textOf glyphs] :=
  wordsIn_of_ink (List.forall_mem_cons.mpr ⟨rfl, noSpace⟩)

theorem wordsFrom_nil (word : List Char) : wordsFrom word [] = if word = [] then [] else [word] := by
  rw [wordsFrom_of_ink (List.forall_mem_nil _)]
  simp [textOf]

theorem wordsFrom_space (word : List Char) (character : Char) (glyphs : List Glyph) :
    wordsFrom word (.space character :: glyphs) = wordsFrom word [] ++ wordsIn glyphs :=
  wordsIn_append_space [.ink word] character glyphs

theorem wordsFrom_ink (word content : List Char) (glyphs : List Glyph) :
    wordsFrom word (.ink content :: glyphs) = wordsFrom (word ++ content) glyphs := by
  have same : textOf [.ink word, .ink content] = textOf [.ink (word ++ content)] := by
    simp [textOf, Glyph.text]
  exact wordsIn_congr (by simp) (by simp) same glyphs

theorem wordsFrom_nothing (glyphs : List Glyph) : wordsFrom [] glyphs = wordsIn glyphs := by
  have same : textOf [.ink []] = textOf [] := by
    simp [textOf, Glyph.text]
  exact wordsIn_congr (by simp) (by simp) same glyphs

/-! ## The words of nodes -/

namespace WordBuffer

/-- Add a glyph: a space ends the unfinished word, and ink is glued to it. -/
def addGlyph (buffer : WordBuffer) : Glyph → WordBuffer
  | .space _ => buffer.finishWord
  | .ink content => buffer.glue content

theorem glue_nil (buffer : WordBuffer) : buffer.glue [] = buffer := by
  simp [glue]

theorem glue_glue (buffer : WordBuffer) (first second : List Char) :
    (buffer.glue first).glue second = buffer.glue (first ++ second) := by
  simp [glue]

/-- A text adds the glyphs of its characters. -/
theorem addTextFrom_eq (buffer : WordBuffer) (piece text : List Char) :
    buffer.addTextFrom piece text =
      (text.map glyphOf).foldl addGlyph (buffer.glue piece.reverse) := by
  induction text generalizing buffer piece with
  | nil =>
      rfl
  | cons character rest inductionHypothesis =>
      rw [addTextFrom]
      by_cases isCut : isBreak character
      · simp [isCut, inductionHypothesis, glyphOf, addGlyph, glue_nil]
      · simp [isCut, inductionHypothesis, glyphOf, addGlyph, glue_glue]

/-- The words after glyphs are those before them and those among them. -/
theorem words_foldl_addGlyph (buffer : WordBuffer) (glyphs : List Glyph) :
    (glyphs.foldl addGlyph buffer).words =
      buffer.finished.reverse ++ wordsFrom buffer.unfinished glyphs := by
  induction glyphs generalizing buffer with
  | nil =>
      rw [List.foldl_nil, wordsFrom_nil, words, finishWord]
      by_cases isEmpty : buffer.unfinished = []
      · simp [isEmpty]
      · simp [isEmpty]
  | cons glyph rest inductionHypothesis =>
      rw [List.foldl_cons, inductionHypothesis]
      cases glyph with
      | space character =>
          rw [wordsFrom_space, wordsFrom_nil, addGlyph, finishWord]
          by_cases isEmpty : buffer.unfinished = []
          · simp [isEmpty, wordsFrom_nothing]
          · simp [isEmpty, wordsFrom_nothing]
      | ink content =>
          rw [wordsFrom_ink]
          rfl

end WordBuffer

/-- Nodes add their glyphs. -/
theorem addWordsOfAll_eq (buffer : WordBuffer) (nodes : List Node) :
    addWordsOfAll buffer nodes = (glyphsOfAll nodes).foldl WordBuffer.addGlyph buffer := by
  induction nodes using forestInduction generalizing buffer with
  | nil =>
      rfl
  | leaf kind content rest inductionHypothesis =>
      rw [addWordsOfAll, inductionHypothesis, glyphsOfAll, List.foldl_append, Node.addWords,
        Node.glyphs]
      by_cases isText : kind = .text
      · simp [isText, WordBuffer.addText, WordBuffer.addTextFrom_eq, WordBuffer.glue_nil]
      · simp [isText, WordBuffer.addGlyph]
  | emptyElement name tag rest inductionHypothesis =>
      rw [addWordsOfAll, inductionHypothesis, glyphsOfAll, List.foldl_append]
      rfl
  | element name startTag endTag children rest insideHypothesis inductionHypothesis =>
      rw [addWordsOfAll, inductionHypothesis, glyphsOfAll, List.foldl_append, Node.addWords,
        Node.glyphs]
      split
      · rfl
      · simp [insideHypothesis, WordBuffer.addGlyph]

/-- The words of nodes are what is written between the spaces of their texts. -/
theorem wordsOf_eq (nodes : List Node) : wordsOf nodes = wordsIn (glyphsOfAll nodes) := by
  rw [wordsOf, addWordsOfAll_eq, WordBuffer.words_foldl_addGlyph]
  exact wordsFrom_nothing _

end DocMarkup.Markup
