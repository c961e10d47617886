import DocMarkup.Proofs.Markup.LaidOut

namespace DocMarkup.Markup

/-!
# Elements that are laid out as they stand

An element whose content is kept and is only text may stand behind any pieces of
markup. In the tree of the page it is one element, and what the page is laid out as
has it again, character for character.
-/

/-! ## Its tokens -/

/-- A construct is read behind any pieces, and reading goes on behind it. -/
theorem exists_readTokens_construct
    {front : List Token}
    (arePieces : ArePieces front)
    {shape : TokenShape}
    {body : List Char}
    (covers : shape.Covers body)
    (rest : List Char)
    (offset : Nat) :
    ∃ before next,
      readTokens offset (markupOf front ++ '<' :: (body ++ rest)) =
        (before ++ ⟨shape.kind, '<' :: body, shape.name⟩ :: (readTokens next rest).1,
          (readTokens next rest).2) := by
  induction front generalizing offset with
  | nil =>
      exact ⟨[], _, readTokens_construct offset covers rest⟩
  | cons token others inductionHypothesis =>
      have othersPieces : ArePieces others := fun other member => arePieces other (by simp [member])
      rw [markupOf, List.flatMap_cons, ← markupOf, List.append_assoc]
      cases arePieces token (by simp) with
      | @ofText text notEmpty noBracket =>
          obtain ⟨before, next, read⟩ := inductionHypothesis othersPieces (offset + text.length)
          refine ⟨prependText text before, next, ?_⟩
          rw [Token.ofText, readTokens_prependText offset notEmpty noBracket, read,
            ← prependText_append covers.kind_ne_text]
      | @construct first firstBody firstCovers =>
          obtain ⟨before, next, read⟩ :=
            inductionHypothesis othersPieces (offset + ('<' :: firstBody).length)
          refine ⟨⟨first.kind, '<' :: firstBody, first.name⟩ :: before, next, ?_⟩
          rw [List.cons_append, readTokens_construct offset firstCovers, read, List.cons_append]

/-- A text is read up to the construct behind it. -/
theorem exists_readTokens_text
    {content : List Char}
    (noBracket : '<' ∉ content)
    {shape : TokenShape}
    {body : List Char}
    (covers : shape.Covers body)
    (rest : List Char)
    (offset : Nat) :
    ∃ next,
      readTokens offset (content ++ '<' :: (body ++ rest)) =
        (tokensOfAll (Node.ofText content) ++
            ⟨shape.kind, '<' :: body, shape.name⟩ :: (readTokens next rest).1,
          (readTokens next rest).2) := by
  cases content with
  | nil =>
      exact ⟨_, readTokens_construct offset covers rest⟩
  | cons first run =>
      refine ⟨offset + (first :: run).length + ('<' :: body).length, ?_⟩
      rw [List.cons_append, readTokens_text offset noBracket (.cons (by decide) _),
        readTokens_construct _ covers]
      rfl

/-! ## Its node -/

theorem mem_keptElementsOfAll {kept : List Char} {nodes : List Node} :
    kept ∈ keptElementsOfAll nodes ↔ ∃ node ∈ nodes, kept ∈ node.keptElements := by
  induction nodes with
  | nil =>
      simp [keptElementsOfAll]
  | cons node rest inductionHypothesis =>
      simp [keptElementsOfAll, inductionHypothesis]

/--
What is kept inside the nodes of an open element, or before it, is kept inside the tree
that they become part of.
-/
theorem mem_keptElementsOfAll_of_buildFrom
    {offset : Nat}
    {opened : List OpenNode}
    {nodes tree : List Node}
    {tokens : List Token}
    {kept : List Char}
    (isKept :
      kept ∈ keptElementsOfAll nodes ∨
        ∃ element ∈ opened, kept ∈ keptElementsOfAll element.before)
    (built : buildFrom offset opened nodes tokens = .ok tree) :
    kept ∈ keptElementsOfAll tree := by
  induction tokens generalizing offset opened nodes with
  | nil =>
      cases opened with
      | nil =>
          obtain rfl := Except.ok.inj built
          simpa [mem_keptElementsOfAll] using isKept
      | cons innermost outer =>
          simp [buildFrom] at built
  | cons token rest inductionHypothesis =>
      have added (node : Node) :
          kept ∈ keptElementsOfAll (node :: nodes) ∨
            ∃ element ∈ opened, kept ∈ keptElementsOfAll element.before :=
        isKept.imp_left fun inside => by simp [keptElementsOfAll, inside]
      obtain ⟨kind, text, name⟩ := token
      by_cases isTag : kind ∈ tagKinds
      · simp only [tagKinds, List.mem_cons, List.not_mem_nil, or_false] at isTag
        rcases isTag with rfl | rfl | rfl
        · rw [buildFrom_start] at built
          refine inductionHypothesis (.inr ?_) built
          rcases isKept with inside | ⟨element, isOpen, before⟩
          · exact ⟨_, List.mem_cons_self, inside⟩
          · exact ⟨element, List.mem_cons_of_mem _ isOpen, before⟩
        · cases opened with
          | nil =>
              simp [buildFrom] at built
          | cons innermost outer =>
              simp only [buildFrom] at built
              split at built
              next =>
                refine inductionHypothesis ?_ built
                rcases isKept with inside | ⟨element, isOpen, before⟩
                · left
                  rw [mem_keptElementsOfAll] at inside
                  obtain ⟨node, member, isInside⟩ := inside
                  have inChildren : kept ∈ keptElementsOfAll nodes.reverse :=
                    mem_keptElementsOfAll.mpr ⟨node, List.mem_reverse.mpr member, isInside⟩
                  rw [keptElementsOfAll, Node.keptElements]
                  split <;> simp [inChildren]
                · rcases List.mem_cons.mp isOpen with rfl | isOuter
                  · left
                    simp [keptElementsOfAll, before]
                  · exact .inr ⟨element, isOuter, before⟩
              next =>
                simp at built
        · rw [buildFrom_empty] at built
          exact inductionHypothesis (added _) built
      · rw [buildFrom_leaf _ _ _ _ _ _ isTag] at built
        exact inductionHypothesis (added _) built

/-- Building goes on behind each token. -/
private theorem exists_buildFrom_rest
    {offset : Nat}
    {opened : List OpenNode}
    {nodes tree : List Node}
    {token : Token}
    {rest : List Token}
    (built : buildFrom offset opened nodes (token :: rest) = .ok tree) :
    ∃ next stillOpened further, buildFrom next stillOpened further rest = .ok tree := by
  obtain ⟨kind, text, name⟩ := token
  by_cases isTag : kind ∈ tagKinds
  · simp only [tagKinds, List.mem_cons, List.not_mem_nil, or_false] at isTag
    rcases isTag with rfl | rfl | rfl
    · rw [buildFrom_start] at built
      exact ⟨_, _, _, built⟩
    · cases opened with
      | nil =>
          simp [buildFrom] at built
      | cons innermost outer =>
          simp only [buildFrom] at built
          split at built
          next =>
            exact ⟨_, _, _, built⟩
          next =>
            simp at built
    · rw [buildFrom_empty] at built
      exact ⟨_, _, _, built⟩
  · rw [buildFrom_leaf _ _ _ _ _ _ isTag] at built
    exact ⟨_, _, _, built⟩

/-- The tokens of an element with nothing but text become one element that is kept. -/
theorem mem_keptElementsOfAll_of_tokens
    {name startTag content endTag : List Char}
    (verbatim : isVerbatim name = true)
    (noBracket : '<' ∉ content)
    {offset : Nat}
    {opened : List OpenNode}
    {nodes tree : List Node}
    {front behind : List Token}
    (built :
      buildFrom offset opened nodes
        (front ++ ⟨.start, startTag, name⟩ ::
          (tokensOfAll (Node.ofText content) ++ ⟨.finish, endTag, name⟩ :: behind)) = .ok tree) :
    startTag ++ content ++ endTag ∈ keptElementsOfAll tree := by
  induction front generalizing offset opened nodes with
  | nil =>
      have readable : AreReadable (Node.ofText content) :=
        areReadable_ofText fun inside => noBracket (List.mem_filter.mp inside).1
      obtain ⟨next, children⟩ :=
        buildFrom_tokensOfAll readable (offset + startTag.length)
          (⟨name, startTag, nodes⟩ :: opened) [] (⟨.finish, endTag, name⟩ :: behind)
      rw [List.nil_append, buildFrom_start, children, List.append_nil] at built
      simp only [buildFrom, ↓reduceIte, List.reverse_reverse] at built
      refine mem_keptElementsOfAll_of_buildFrom (.inl ?_) built
      simp [keptElementsOfAll, Node.keptElements, verbatim, serializeAll_ofText]
  | cons token rest inductionHypothesis =>
      obtain ⟨_, _, _, goesOn⟩ := exists_buildFrom_rest built
      exact inductionHypothesis goesOn

/-! ## What it is laid out as -/

/-- An element that is kept stands in what its tree is written as. -/
theorem isInfix_of_mem_keptElementsOfAll
    {kept : List Char}
    {nodes : List Node}
    (isKept : kept ∈ keptElementsOfAll nodes) :
    kept <:+: serializeAll nodes := by
  induction nodes using forestInduction with
  | nil =>
      simp [keptElementsOfAll] at isKept
  | leaf kind content rest inductionHypothesis =>
      exact (inductionHypothesis (by simpa [keptElementsOfAll, Node.keptElements] using isKept)).trans
        (List.suffix_append ..).isInfix
  | emptyElement name tag rest inductionHypothesis =>
      rcases List.mem_append.mp isKept with isFirst | inRest
      · obtain ⟨-, rfl⟩ : isVerbatim name = true ∧ kept = tag := by
          simpa [Node.keptElements] using isFirst
        exact (List.prefix_append ..).isInfix
      · exact (inductionHypothesis inRest).trans (List.suffix_append ..).isInfix
  | element name startTag endTag children rest insideHypothesis inductionHypothesis =>
      rcases List.mem_append.mp isKept with isFirst | inRest
      · have inFirst : kept <:+: (Node.element name startTag endTag children).serialize := by
          have inside (member : kept ∈ keptElementsOfAll children) :
              kept <:+: startTag ++ serializeAll children ++ endTag :=
            (insideHypothesis member).trans ⟨startTag, endTag, rfl⟩
          rw [Node.keptElements] at isFirst
          by_cases verbatim : isVerbatim name = true
          · rw [if_pos verbatim] at isFirst
            rcases List.mem_cons.mp isFirst with rfl | member
            · exact List.infix_rfl
            · exact inside member
          · rw [if_neg verbatim] at isFirst
            exact inside isFirst
        exact inFirst.trans (List.prefix_append ..).isInfix
      · exact (inductionHypothesis inRest).trans (List.suffix_append ..).isInfix

/-- A construct is a piece that covers what is inside its brackets. -/
theorem Token.IsPiece.exists_covers
    {token : Token}
    (isPiece : token.IsPiece)
    (notText : token.kind ≠ .text) :
    ∃ (shape : TokenShape) (body : List Char),
      shape.Covers body ∧ token = ⟨shape.kind, '<' :: body, shape.name⟩ := by
  cases isPiece with
  | ofText => exact (notText rfl).elim
  | construct covers => exact ⟨_, _, covers, rfl⟩

/--
An element whose content is kept and is only text stands in what its page is laid out
as, if pieces of markup stand before it.
-/
theorem layOut_keeps_element
    {name startTag content endTag : List Char}
    (verbatim : isVerbatim name = true)
    (opens : Token.IsPiece ⟨.start, startTag, name⟩)
    (noBracket : '<' ∉ content)
    (closes : Token.IsPiece ⟨.finish, endTag, name⟩)
    {front : List Token}
    (arePieces : ArePieces front)
    {behind : List Char}
    {page output : String}
    (isPage : page.toList = markupOf front ++ (startTag ++ (content ++ (endTag ++ behind))))
    {layout : Layout}
    (laidOut : layOut layout page = .ok output) :
    startTag ++ content ++ endTag <:+: output.toList := by
  obtain ⟨startShape, startBody, startCovers, isStart⟩ := opens.exists_covers (by simp)
  obtain ⟨endShape, endBody, endCovers, isEnd⟩ := closes.exists_covers (by simp)
  have startText : startTag = '<' :: startBody := congrArg Token.text isStart
  have endText : endTag = '<' :: endBody := congrArg Token.text isEnd
  have written :
      page.toList =
        markupOf front ++ '<' :: (startBody ++ (content ++ '<' :: (endBody ++ behind))) := by
    rw [isPage, startText, endText]
    rfl
  obtain ⟨before, atContent, readStart⟩ :=
    exists_readTokens_construct arePieces startCovers (content ++ '<' :: (endBody ++ behind)) 0
  obtain ⟨atBehind, readContent⟩ :=
    exists_readTokens_text noBracket endCovers behind atContent
  rw [← written, ← isStart, readContent, ← isEnd] at readStart
  unfold layOut at laidOut
  split at laidOut
  · simp at laidOut
  next nodes parsed =>
    obtain rfl := Except.ok.inj laidOut
    obtain ⟨after, parsedAgain, same⟩ := exists_reading layout parsed
    obtain ⟨-, -, makesUp⟩ := readable_of_parseTree parsedAgain
    unfold parseTree tokenize at parsed
    rw [readStart] at parsed
    have isKept : startTag ++ content ++ endTag ∈ keptElementsOfAll after := by
      rw [same.kept]
      cases noFault : (readTokens atBehind behind).2 with
      | some fault =>
          simp [noFault] at parsed
      | none =>
          simp only [noFault] at parsed
          exact mem_keptElementsOfAll_of_tokens verbatim noBracket parsed
    have stands := isInfix_of_mem_keptElementsOfAll isKept
    rw [makesUp] at stands
    rw [String.toList_ofList]
    exact stands

end DocMarkup.Markup
