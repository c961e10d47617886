import DocMarkup.Proofs.Markup.Respacing

namespace DocMarkup.Markup

/-!
# Writing words apart

A pen writes nodes anew. Behind every word but the last it writes the next of given
separators, in place of the first space there. It writes nothing in place of other
spaces, and all else as it is. So the words stay the same and only what stands
between them is chosen.
-/

/-- The separators that are left, and whether a word has been begun. -/
structure Pen where
  separators : List (List Char)
  begun : Bool
deriving DecidableEq, Repr

namespace Pen

variable (pen : Pen)

/-- The pen behind a glyph. -/
def pass : Glyph → Pen
  | .space _ => if pen.begun then ⟨pen.separators.tail, false⟩ else pen
  | .ink content => { pen with begun := pen.begun || !content.isEmpty }

/-- What is written in place of a glyph. -/
def inPlaceOf : Glyph → List Glyph
  | .space _ => if pen.begun then (pen.separators.headD []).map glyphOf else []
  | .ink content => [.ink content]

/-- The pen behind glyphs in a row. -/
def after (glyphs : List Glyph) : Pen :=
  glyphs.foldl pass pen

/-- What is written in place of glyphs in a row. -/
def rewrite (pen : Pen) : List Glyph → List Glyph
  | [] => []
  | glyph :: rest => pen.inPlaceOf glyph ++ (pen.pass glyph).rewrite rest

end Pen

/-- Pieces of white space, none of them empty. -/
def AreSeparators (separators : List (List Char)) : Prop :=
  ∀ separator ∈ separators, separator ≠ [] ∧ ∀ character ∈ separator, isBreak character = true

mutual

/-- What is written for a node. -/
def Node.respaced (pen : Pen) : Node → List Node
  | .leaf kind content =>
      if kind = .text then
        Node.ofText (textOf (pen.rewrite (content.map glyphOf)))
      else
        [.leaf kind content]
  | .emptyElement name tag => [.emptyElement name tag]
  | .element name startTag endTag children =>
      if isVerbatim name then
        [.element name startTag endTag children]
      else
        [.element name startTag endTag (respacedAll (pen.pass (.ink startTag)) children)]

/-- What is written for nodes in a row. -/
def respacedAll (pen : Pen) : List Node → List Node
  | [] => []
  | node :: rest => node.respaced pen ++ respacedAll (pen.after node.glyphs) rest

end

namespace Pen

variable {pen : Pen}

theorem rewrite_append (first second : List Glyph) :
    pen.rewrite (first ++ second) = pen.rewrite first ++ (pen.after first).rewrite second := by
  induction first generalizing pen with
  | nil =>
      rfl
  | cons glyph rest inductionHypothesis =>
      simp [rewrite, inductionHypothesis, after]

/-- A space behind a word uses up a separator. -/
theorem pass_space_of_begun (begun : pen.begun = true) (character : Char) :
    pen.pass (.space character) = ⟨pen.separators.tail, false⟩ :=
  if_pos begun

/-- Another space changes nothing. -/
theorem pass_space_of_not_begun (notBegun : pen.begun = false) (character : Char) :
    pen.pass (.space character) = pen := by
  simp [pass, notBegun]

/-- A pen goes on with the separators that are left. -/
theorem areSeparators_pass
    (separates : AreSeparators pen.separators)
    (glyph : Glyph) :
    AreSeparators (pen.pass glyph).separators := by
  cases glyph with
  | space character =>
      cases begun : pen.begun with
      | true =>
          rw [pass_space_of_begun begun]
          exact fun separator member => separates separator (List.mem_of_mem_tail member)
      | false =>
          rw [pass_space_of_not_begun begun]
          exact separates
  | ink content =>
      exact separates

theorem areSeparators_after
    (separates : AreSeparators pen.separators)
    (glyphs : List Glyph) :
    AreSeparators (pen.after glyphs).separators := by
  induction glyphs generalizing pen with
  | nil =>
      exact separates
  | cons glyph rest inductionHypothesis =>
      exact inductionHypothesis (areSeparators_pass separates glyph)

/-- What is written in place of a text is a text. -/
theorem map_textOf_rewrite (content : List Char) :
    (textOf (pen.rewrite (content.map glyphOf))).map glyphOf =
      pen.rewrite (content.map glyphOf) := by
  induction content generalizing pen with
  | nil =>
      rfl
  | cons character rest inductionHypothesis =>
      have isText : ∃ text : List Char, pen.inPlaceOf (glyphOf character) = text.map glyphOf := by
        by_cases isCut : isBreak character = true
        · by_cases begun : pen.begun = true
          · exact ⟨pen.separators.headD [], by simp [glyphOf, isCut, inPlaceOf, begun]⟩
          · exact ⟨[], by simp [glyphOf, isCut, inPlaceOf, begun]⟩
        · exact ⟨[character], by simp [glyphOf, isCut, inPlaceOf]⟩
      obtain ⟨text, same⟩ := isText
      rw [List.map_cons, rewrite, textOf_append, List.map_append, inductionHypothesis, same,
        textOf_map_glyphOf]

/-- Moving the white space of a text leaves its other characters. -/
theorem inkIn_textOf_rewrite (separates : AreSeparators pen.separators) (content : List Char) :
    inkIn (textOf (pen.rewrite (content.map glyphOf))) = inkIn content := by
  induction content generalizing pen with
  | nil =>
      rfl
  | cons character rest inductionHypothesis =>
      have others := inductionHypothesis (areSeparators_pass separates (glyphOf character))
      unfold inkIn at others ⊢
      rw [List.map_cons, rewrite, textOf_append, List.filter_append, others]
      by_cases isCut : isBreak character = true
      · have onlySpace :
            (textOf (pen.inPlaceOf (glyphOf character))).filter (fun other => !isBreak other) =
              [] := by
          simp only [glyphOf, isCut, ↓reduceIte, inPlaceOf]
          split
          · rw [textOf_map_glyphOf, List.filter_eq_nil_iff]
            cases separatorsLeft : pen.separators with
            | nil =>
                simp
            | cons separator behind =>
                have isSeparator := separates separator (by simp [separatorsLeft])
                intro other member
                simp [isSeparator.2 other member]
          · rfl
        rw [onlySpace]
        simp [isCut]
      · simp [glyphOf, isCut, inPlaceOf, textOf, Glyph.text]

/-- Where no separators are left no space is written. -/
theorem rewrite_isInk
    (noneLeft : pen.separators = [])
    (glyphs : List Glyph) :
    ∀ glyph ∈ pen.rewrite glyphs, glyph.isSpace = false := by
  induction glyphs generalizing pen with
  | nil =>
      simp [rewrite]
  | cons glyph rest inductionHypothesis =>
      refine List.forall_mem_append.mpr ⟨?_, inductionHypothesis ?_⟩
      · cases glyph with
        | space character =>
            simp [inPlaceOf, noneLeft]
        | ink content =>
            simp [inPlaceOf]
      · cases glyph with
        | space character =>
            cases begun : pen.begun with
            | true =>
                simp [pass_space_of_begun begun, noneLeft]
            | false =>
                rw [pass_space_of_not_begun begun, noneLeft]
        | ink content =>
            exact noneLeft

end Pen

/-- Words with a separator behind each but the last. -/
def woven (separators : List (List Char)) : List (List Char) → List Char
  | [] => []
  | word :: rest => word ++ (List.zipWith (· ++ ·) separators rest).flatten

/-- White space ends a word that has been begun. -/
theorem wordsFrom_separator
    {separator : List Char}
    (notEmpty : separator ≠ [])
    (isSpace : ∀ character ∈ separator, isBreak character = true)
    (word : List Char)
    (glyphs : List Glyph) :
    wordsFrom word (separator.map glyphOf ++ glyphs) = wordsFrom word [] ++ wordsIn glyphs := by
  have isGlyph : ∀ character ∈ separator, glyphOf character = .space character := by
    intro character member
    simp [glyphOf, isSpace character member]
  cases separator with
  | nil =>
      exact (notEmpty rfl).elim
  | cons first others =>
      obtain ⟨isFirst, areOthers⟩ := List.forall_mem_cons.mp isGlyph
      have spaces : AreSpaces (others.map glyphOf) := by
        intro glyph member
        obtain ⟨character, inOthers, rfl⟩ := List.mem_map.mp member
        rw [areOthers character inOthers, Glyph.isSpace_space]
      rw [List.map_cons, isFirst, List.cons_append, wordsFrom_space,
        wordsIn_append_of_spaces spaces]

/-- A pen writes the words that it finds, with its separators between them. -/
structure Pen.Weaves (pen : Pen) (word : List Char) (glyphs : List Glyph) : Prop where
  words : wordsFrom word (pen.rewrite glyphs) = wordsFrom word glyphs
  text : word ++ textOf (pen.rewrite glyphs) = woven pen.separators (wordsFrom word glyphs)

namespace Pen.Weaves

variable {pen : Pen} {word content separator : List Char} {separators : List (List Char)}
  {rest : List Glyph}

theorem nil : pen.Weaves word [] where
  words := rfl
  text := by
    rw [wordsFrom_nil]
    by_cases isEmpty : word = []
    · simp [isEmpty, woven, rewrite, textOf]
    · simp [isEmpty, woven, rewrite, textOf]

/-- Ink belongs to the word that has been begun. -/
theorem ink (weaves : (pen.pass (.ink content)).Weaves (word ++ content) rest) :
    pen.Weaves word (.ink content :: rest) := by
  have written :
      pen.rewrite (.ink content :: rest) =
        .ink content :: (pen.pass (.ink content)).rewrite rest := rfl
  have sameText := weaves.text
  rw [List.append_assoc] at sameText
  constructor
  · rw [written, wordsFrom_ink, wordsFrom_ink, weaves.words]
  · rw [written, wordsFrom_ink]
    exact sameText

/-- A space where no word has been begun is left out. -/
theorem leftOut
    (notBegun : pen.begun = false)
    (weaves : pen.Weaves [] rest)
    (character : Char) :
    pen.Weaves [] (.space character :: rest) := by
  have written : pen.rewrite (.space character :: rest) = pen.rewrite rest := by
    rw [rewrite, pass_space_of_not_begun notBegun]
    simp [inPlaceOf, notBegun]
  have sameWords : wordsFrom [] (.space character :: rest) = wordsFrom [] rest := by
    simp [wordsFrom_space, wordsFrom_nil, wordsFrom_nothing]
  constructor
  · rw [written, sameWords, weaves.words]
  · rw [written, sameWords, weaves.text]

/-- Spaces behind the last word are left out. -/
theorem last
    (notEmpty : word ≠ [])
    (noWords : wordsIn rest = [])
    (weaves : Pen.Weaves ⟨[], false⟩ [] rest)
    (character : Char) :
    Pen.Weaves ⟨[], true⟩ word (.space character :: rest) := by
  have written :
      (⟨[], true⟩ : Pen).rewrite (.space character :: rest) = (⟨[], false⟩ : Pen).rewrite rest := rfl
  have nothing : textOf ((⟨[], false⟩ : Pen).rewrite rest) = [] := by
    have sameText := weaves.text
    rwa [wordsFrom_nothing, noWords, List.nil_append] at sameText
  have sameWords : wordsFrom word (.space character :: rest) = [word] := by
    rw [wordsFrom_space, wordsFrom_nil, if_neg notEmpty, noWords, List.append_nil]
  constructor
  · rw [written, sameWords, wordsFrom_of_ink (rewrite_isInk rfl rest), nothing, List.append_nil,
      if_neg notEmpty]
  · rw [written, sameWords, nothing]
    simp [woven]

/-- A separator is written in place of the first space behind a word. -/
theorem separated
    (notEmpty : word ≠ [])
    (someWords : wordsIn rest ≠ [])
    (areSeparators : AreSeparators (separator :: separators))
    (weaves : Pen.Weaves ⟨separators, false⟩ [] rest)
    (character : Char) :
    Pen.Weaves ⟨separator :: separators, true⟩ word (.space character :: rest) := by
  have written :
      (⟨separator :: separators, true⟩ : Pen).rewrite (.space character :: rest) =
        separator.map glyphOf ++ (⟨separators, false⟩ : Pen).rewrite rest := rfl
  have sameWords : wordsFrom word (.space character :: rest) = word :: wordsIn rest := by
    rw [wordsFrom_space, wordsFrom_nil, if_neg notEmpty]
    rfl
  have othersWords := weaves.words
  have othersText := weaves.text
  rw [wordsFrom_nothing, wordsFrom_nothing] at othersWords
  rw [wordsFrom_nothing, List.nil_append] at othersText
  obtain ⟨isSeparator, isSpace⟩ := areSeparators separator (by simp)
  constructor
  · rw [written, sameWords, wordsFrom_separator isSeparator isSpace, wordsFrom_nil,
      if_neg notEmpty, othersWords]
    rfl
  · rw [written, sameWords, textOf_append, textOf_map_glyphOf, othersText]
    obtain ⟨next, behind, areWords⟩ := List.exists_cons_of_ne_nil someWords
    simp [areWords, woven]

end Pen.Weaves

/--
A pen with a separator for each word but the last weaves them. The word that has been
begun is written already.
-/
theorem Pen.weaves
    {pen : Pen}
    {word : List Char}
    {glyphs : List Glyph}
    (areSeparators : AreSeparators pen.separators)
    (begun : pen.begun = !word.isEmpty)
    (enough : pen.separators.length = (wordsFrom word glyphs).length - 1) :
    pen.Weaves word glyphs := by
  induction glyphs generalizing pen word with
  | nil =>
      exact .nil
  | cons glyph rest inductionHypothesis =>
      cases glyph with
      | ink content =>
          rw [wordsFrom_ink] at enough
          refine .ink (inductionHypothesis (areSeparators_pass areSeparators _) ?_ enough)
          cases word <;> simp [pass, begun]
      | space character =>
          rw [wordsFrom_space, wordsFrom_nil] at enough
          by_cases isEmpty : word = []
          · subst isEmpty
            simp only [↓reduceIte, List.nil_append, ← wordsFrom_nothing] at enough
            exact .leftOut begun (inductionHypothesis areSeparators begun enough) character
          · obtain ⟨separators, isBegun⟩ := pen
            obtain rfl : isBegun = true :=
              begun.trans (by simp [isEmpty])
            rw [if_neg isEmpty] at enough
            have behind := areSeparators_pass areSeparators (.space character)
            have further := @inductionHypothesis ⟨separators.tail, false⟩ [] behind rfl
            rw [wordsFrom_nothing] at further
            cases separators with
            | nil =>
                have noWords : wordsIn rest = [] := by
                  simpa using enough.symm
                exact .last isEmpty noWords (further (by simp [noWords])) character
            | cons separator others =>
                have someWords : others.length + 1 = (wordsIn rest).length := by
                  simpa using enough
                refine .separated isEmpty ?_ areSeparators (further (by simp [← someWords])) character
                exact List.ne_nil_of_length_eq_add_one someWords.symm

/-! ## Nodes that are written anew -/

/-- The glyphs of nodes are written anew. -/
theorem glyphsOfAll_respacedAll (pen : Pen) (nodes : List Node) :
    glyphsOfAll (respacedAll pen nodes) = pen.rewrite (glyphsOfAll nodes) := by
  induction nodes using forestInduction generalizing pen with
  | nil =>
      rfl
  | leaf kind content rest inductionHypothesis =>
      rw [respacedAll, glyphsOfAll_append, inductionHypothesis, glyphsOfAll, Pen.rewrite_append]
      by_cases isText : kind = .text
      · simp [Node.respaced, Node.glyphs, isText, glyphsOfAll_ofText, Pen.map_textOf_rewrite]
      · simp [Node.respaced, Node.glyphs, isText, glyphsOfAll, Pen.rewrite, Pen.inPlaceOf]
  | emptyElement name tag rest inductionHypothesis =>
      rw [respacedAll, glyphsOfAll_append, inductionHypothesis, glyphsOfAll, Pen.rewrite_append]
      rfl
  | element name startTag endTag children rest insideHypothesis inductionHypothesis =>
      rw [respacedAll, glyphsOfAll_append, inductionHypothesis, glyphsOfAll, Pen.rewrite_append]
      by_cases isKept : isVerbatim name = true
      · simp [Node.respaced, Node.glyphs, isKept, glyphsOfAll, Pen.rewrite, Pen.inPlaceOf]
      · simp [Node.respaced, Node.glyphs, isKept, glyphsOfAll, Pen.rewrite, Pen.inPlaceOf,
          Pen.rewrite_append, insideHypothesis]

/-- Nodes that are written anew differ in white space only. -/
theorem respaced_respacedAll
    {pen : Pen}
    (separates : AreSeparators pen.separators)
    (nodes : List Node) :
    Respaced nodes (respacedAll pen nodes) := by
  induction nodes using forestInduction generalizing pen with
  | nil =>
      exact .nil
  | leaf kind content rest inductionHypothesis =>
      have others := inductionHypothesis (Pen.areSeparators_after separates (Node.leaf kind content).glyphs)
      by_cases isText : kind = .text
      · subst isText
        exact .text (Pen.inkIn_textOf_rewrite separates content) others
      · rw [respacedAll, Node.respaced, if_neg isText]
        exact .keep others
  | emptyElement name tag rest inductionHypothesis =>
      exact .keep (inductionHypothesis (Pen.areSeparators_after separates _))
  | element name startTag endTag children rest insideHypothesis inductionHypothesis =>
      have others := inductionHypothesis
        (Pen.areSeparators_after separates (Node.element name startTag endTag children).glyphs)
      rw [respacedAll, Node.respaced]
      cases isKept : isVerbatim name with
      | true =>
          exact .keep others
      | false =>
          exact .inside isKept (insideHypothesis (Pen.areSeparators_pass separates _)) others

/-- Nodes that are written anew stay inside a line. -/
theorem areInline_respacedAll
    {nodes : List Node}
    (inline : AreInline nodes)
    (pen : Pen) :
    AreInline (respacedAll pen nodes) := by
  induction nodes generalizing pen with
  | nil =>
      exact inline
  | cons node rest inductionHypothesis =>
      obtain ⟨notBlock, othersInline⟩ := List.forall_mem_cons.mp inline
      refine List.forall_mem_append.mpr ⟨?_, inductionHypothesis othersInline _⟩
      cases node with
      | leaf kind content =>
          rw [Node.respaced]
          split
          · exact areInline_ofText _
          · exact List.forall_mem_singleton.mpr notBlock
      | emptyElement name tag =>
          exact List.forall_mem_singleton.mpr notBlock
      | element name startTag endTag children =>
          rw [Node.respaced]
          split
          · exact List.forall_mem_singleton.mpr notBlock
          · exact List.forall_mem_singleton.mpr notBlock

/-- Separators for the words of nodes: white space between any two of them. -/
structure Separate (separators : List (List Char)) (words : List (List Char)) : Prop where
  enough : separators.length = words.length - 1
  areSeparators : AreSeparators separators

/-- Nodes are written anew with separators between their words. -/
theorem respacedAll_weaves
    {separators : List (List Char)}
    {nodes : List Node}
    (separate : Separate separators (wordsOf nodes)) :
    wordsIn (glyphsOfAll (respacedAll ⟨separators, false⟩ nodes)) = wordsIn (glyphsOfAll nodes) ∧
      serializeAll (respacedAll ⟨separators, false⟩ nodes) =
        woven separators (wordsOf nodes) := by
  have enough : separators.length = (wordsFrom [] (glyphsOfAll nodes)).length - 1 := by
    rw [wordsFrom_nothing, ← wordsOf_eq]
    exact separate.enough
  obtain ⟨sameWords, sameText⟩ :=
    @Pen.weaves ⟨separators, false⟩ [] (glyphsOfAll nodes) separate.areSeparators rfl enough
  rw [← glyphsOfAll_respacedAll, wordsFrom_nothing, wordsFrom_nothing] at sameWords
  rw [← glyphsOfAll_respacedAll, textOf_glyphsOfAll, wordsFrom_nothing, List.nil_append,
    ← wordsOf_eq] at sameText
  exact ⟨sameWords, sameText⟩

end DocMarkup.Markup
