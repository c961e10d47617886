import DocMarkup.Proofs.Markup.Passing

namespace DocMarkup.Markup

/-!
# Trees are read as they are written

The tokens of a tree are its tags and its leaves in their order. A tree of pieces
is read back from what it makes up, apart from texts that follow one another, which
become one leaf. Every tree that is read is of this form.
-/

/-- What holds of no nodes, and of nodes if of those inside the first and of the others. -/
@[elab_as_elim]
theorem forestInduction
    {motive : List Node → Prop}
    (nil : motive [])
    (leaf : ∀ kind content rest, motive rest → motive (.leaf kind content :: rest))
    (emptyElement : ∀ name tag rest, motive rest → motive (.emptyElement name tag :: rest))
    (element :
      ∀ name startTag endTag children rest,
        motive children → motive rest → motive (.element name startTag endTag children :: rest)) :
    ∀ nodes, motive nodes
  | [] => nil
  | .leaf kind content :: rest =>
      leaf kind content rest (forestInduction nil leaf emptyElement element rest)
  | .emptyElement name tag :: rest =>
      emptyElement name tag rest (forestInduction nil leaf emptyElement element rest)
  | .element name startTag endTag children :: rest =>
      element name startTag endTag children rest
        (forestInduction nil leaf emptyElement element children)
        (forestInduction nil leaf emptyElement element rest)

/-! ## The tokens of a tree -/

mutual

/-- The tokens of a node, in their order. -/
def Node.tokens : Node → List Token
  | .leaf kind content => [⟨kind, content, []⟩]
  | .emptyElement name tag => [⟨.empty, tag, name⟩]
  | .element name startTag endTag children =>
      ⟨.start, startTag, name⟩ :: (tokensOfAll children ++ [⟨.finish, endTag, name⟩])

/-- The tokens of nodes in a row. -/
def tokensOfAll : List Node → List Token
  | [] => []
  | node :: rest => node.tokens ++ tokensOfAll rest

end

theorem tokensOfAll_append (first second : List Node) :
    tokensOfAll (first ++ second) = tokensOfAll first ++ tokensOfAll second := by
  induction first with
  | nil =>
      rfl
  | cons node rest inductionHypothesis =>
      simp [tokensOfAll, inductionHypothesis]

theorem serializeAll_append (first second : List Node) :
    serializeAll (first ++ second) = serializeAll first ++ serializeAll second := by
  induction first with
  | nil =>
      rfl
  | cons node rest inductionHypothesis =>
      simp [serializeAll, inductionHypothesis]

/-- The tokens of a tree make up its markup. -/
theorem markupOf_tokensOfAll (nodes : List Node) :
    markupOf (tokensOfAll nodes) = serializeAll nodes := by
  induction nodes using forestInduction with
  | nil =>
      rfl
  | leaf kind content rest inductionHypothesis =>
      simpa [markupOf, tokensOfAll, Node.tokens, serializeAll, Node.serialize]
        using inductionHypothesis
  | emptyElement name tag rest inductionHypothesis =>
      simpa [markupOf, tokensOfAll, Node.tokens, serializeAll, Node.serialize]
        using inductionHypothesis
  | element name startTag endTag children rest insideHypothesis inductionHypothesis =>
      unfold markupOf at insideHypothesis inductionHypothesis ⊢
      simp [tokensOfAll, Node.tokens, serializeAll, Node.serialize, insideHypothesis,
        inductionHypothesis]

/-! ## Trees of pieces -/

/-- A node that is put together from pieces, with tags that fit its name. -/
inductive Node.IsReadable : Node → Prop where
  | leaf {kind content} :
      Token.IsPiece ⟨kind, content, []⟩ →
      kind ∉ tagKinds →
      IsReadable (.leaf kind content)
  | emptyElement {name tag} :
      Token.IsPiece ⟨.empty, tag, name⟩ →
      IsReadable (.emptyElement name tag)
  | element {name startTag endTag children} :
      Token.IsPiece ⟨.start, startTag, name⟩ →
      Token.IsPiece ⟨.finish, endTag, name⟩ →
      (∀ child ∈ children, child.IsReadable) →
      IsReadable (.element name startTag endTag children)

/-- Nodes in a row that are put together from pieces. -/
def AreReadable (nodes : List Node) : Prop :=
  ∀ node ∈ nodes, node.IsReadable

/-- A text is a piece if there is something in it, but no opening bracket. -/
theorem isPiece_text_iff {content : List Char} :
    Token.IsPiece ⟨.text, content, []⟩ ↔ content ≠ [] ∧ '<' ∉ content := by
  constructor
  · intro isPiece
    generalize isText : (⟨.text, content, []⟩ : Token) = token at isPiece
    cases isPiece with
    | ofText notEmpty noBracket =>
        obtain rfl : content = _ := congrArg Token.text isText
        exact ⟨notEmpty, noBracket⟩
    | construct covers =>
        exact (covers.kind_ne_text (congrArg Token.kind isText).symm).elim
  · rintro ⟨notEmpty, noBracket⟩
    exact .ofText notEmpty noBracket

/-- The tokens of a tree of pieces are these pieces. -/
theorem AreReadable.arePieces {nodes : List Node} (readable : AreReadable nodes) :
    ArePieces (tokensOfAll nodes) := by
  induction nodes using forestInduction with
  | nil =>
      exact .nil
  | leaf kind content rest inductionHypothesis =>
      obtain ⟨first, others⟩ := List.forall_mem_cons.mp readable
      cases first with
      | leaf isPiece =>
          exact .append (.singleton isPiece) (inductionHypothesis others)
  | emptyElement name tag rest inductionHypothesis =>
      obtain ⟨first, others⟩ := List.forall_mem_cons.mp readable
      cases first with
      | emptyElement isPiece =>
          exact .append (.singleton isPiece) (inductionHypothesis others)
  | element name startTag endTag children rest insideHypothesis inductionHypothesis =>
      obtain ⟨first, others⟩ := List.forall_mem_cons.mp readable
      cases first with
      | element opens closes inside =>
          refine .append ?_ (inductionHypothesis others)
          exact .append (.singleton opens) (.append (insideHypothesis inside) (.singleton closes))

/-! ## Building a tree from its tokens -/

section Building

variable (offset : Nat) (opened : List OpenNode) (nodes : List Node) (text name : List Char)
  (rest : List Token)

/-- An opening tag opens an element. -/
theorem buildFrom_start :
    buildFrom offset opened nodes (⟨.start, text, name⟩ :: rest) =
      buildFrom (offset + text.length) (⟨name, text, nodes⟩ :: opened) [] rest := by
  cases opened <;> rfl

/-- A tag of an empty element is added. -/
theorem buildFrom_empty :
    buildFrom offset opened nodes (⟨.empty, text, name⟩ :: rest) =
      buildFrom (offset + text.length) opened (.emptyElement name text :: nodes) rest := by
  cases opened <;> rfl

/-- A token that is no tag is added as a leaf. -/
theorem buildFrom_leaf
    {kind : TokenKind}
    (notTag : kind ∉ tagKinds) :
    buildFrom offset opened nodes (⟨kind, text, name⟩ :: rest) =
      buildFrom (offset + text.length) opened (.leaf kind text :: nodes) rest := by
  cases opened <;> cases kind <;> first | rfl | simp [tagKinds] at notTag

end Building

/-- The tokens of a tree build its nodes, inside any open elements. -/
theorem buildFrom_tokensOfAll
    {nodes : List Node}
    (readable : AreReadable nodes)
    (offset : Nat)
    (opened : List OpenNode)
    (before : List Node)
    (tokens : List Token) :
    ∃ next,
      buildFrom offset opened before (tokensOfAll nodes ++ tokens) =
        buildFrom next opened (nodes.reverse ++ before) tokens := by
  induction nodes using forestInduction generalizing offset opened before tokens with
  | nil =>
      exact ⟨offset, rfl⟩
  | leaf kind content rest inductionHypothesis =>
      obtain ⟨first, others⟩ := List.forall_mem_cons.mp readable
      cases first with
      | leaf isPiece notTag =>
          obtain ⟨next, built⟩ := inductionHypothesis others (offset + content.length) opened
            (.leaf kind content :: before) tokens
          refine ⟨next, ?_⟩
          simpa [tokensOfAll, Node.tokens, buildFrom_leaf _ _ _ _ _ _ notTag] using built
  | emptyElement name tag rest inductionHypothesis =>
      obtain ⟨first, others⟩ := List.forall_mem_cons.mp readable
      obtain ⟨next, built⟩ := inductionHypothesis others (offset + tag.length) opened
        (.emptyElement name tag :: before) tokens
      refine ⟨next, ?_⟩
      simpa [tokensOfAll, Node.tokens, buildFrom_empty] using built
  | element name startTag endTag children rest insideHypothesis inductionHypothesis =>
      obtain ⟨first, others⟩ := List.forall_mem_cons.mp readable
      cases first with
      | element opens closes inside =>
          let behind := ⟨.finish, endTag, name⟩ :: (tokensOfAll rest ++ tokens)
          obtain ⟨between, insideBuilt⟩ := insideHypothesis inside (offset + startTag.length)
            (⟨name, startTag, before⟩ :: opened) [] behind
          have finished :
              buildFrom between (⟨name, startTag, before⟩ :: opened) (children.reverse ++ [])
                  behind =
                buildFrom (between + endTag.length) opened
                  (.element name startTag endTag children :: before)
                  (tokensOfAll rest ++ tokens) := by
            simp [behind, buildFrom]
          obtain ⟨next, built⟩ := inductionHypothesis others (between + endTag.length) opened
            (.element name startTag endTag children :: before) tokens
          refine ⟨next, ?_⟩
          simpa [tokensOfAll, Node.tokens, behind, buildFrom_start]
            using insideBuilt.trans (finished.trans built)

/-! ## Texts that follow one another -/

/-- Put a node in front of others; a text becomes part of a text that is first among them. -/
def Node.joinedTo : Node → List Node → List Node
  | .leaf .text text, .leaf .text more :: rest => .leaf .text (text ++ more) :: rest
  | node, nodes => node :: nodes

mutual

/-- A node inside which texts that follow one another are one. -/
def Node.merged : Node → Node
  | .leaf kind content => .leaf kind content
  | .emptyElement name tag => .emptyElement name tag
  | .element name startTag endTag children => .element name startTag endTag (mergedAll children)

/-- Nodes of which texts that follow one another are one. -/
def mergedAll : List Node → List Node
  | [] => []
  | node :: rest => node.merged.joinedTo (mergedAll rest)

end

/-- Only texts are joined. -/
theorem Node.joinedTo_of_ne_text
    {kind : TokenKind}
    (notText : kind ≠ .text)
    (content : List Char)
    (nodes : List Node) :
    (Node.leaf kind content).joinedTo nodes = .leaf kind content :: nodes := by
  unfold Node.joinedTo
  split
  next same =>
    cases same
    exact (notText rfl).elim
  next =>
    rfl

/-- A text is put in front of nodes as it is put in front of their tokens. -/
theorem tokensOfAll_joinedTo (text : List Char) (nodes : List Node) :
    tokensOfAll ((Node.leaf .text text).joinedTo nodes) = prependText text (tokensOfAll nodes) := by
  cases nodes with
  | nil =>
      rfl
  | cons node rest =>
      cases node with
      | leaf kind content =>
          by_cases isText : kind = .text
          · subst isText
            rfl
          · have notJoined :
                (Node.leaf .text text).joinedTo (.leaf kind content :: rest) =
                  .leaf .text text :: .leaf kind content :: rest := by
              unfold Node.joinedTo
              split
              next same =>
                cases same
                exact (isText rfl).elim
              next =>
                rfl
            have notPrepended :
                prependText text (⟨kind, content, []⟩ :: tokensOfAll rest) =
                  .ofText text :: ⟨kind, content, []⟩ :: tokensOfAll rest := by
              unfold prependText
              split
              next same =>
                cases same
                exact (isText rfl).elim
              next =>
                rfl
            rw [notJoined]
            exact notPrepended.symm
      | emptyElement name tag =>
          rfl
      | element name startTag endTag children =>
          rfl

/-- A text in front of tokens stays apart from what is behind a construct among them. -/
theorem prependText_append
    {token : Token}
    (notText : token.kind ≠ .text)
    (text : List Char)
    (before behind : List Token) :
    prependText text (before ++ token :: behind) =
      prependText text before ++ token :: behind := by
  cases before with
  | nil =>
      obtain ⟨kind, content, name⟩ := token
      cases kind with
      | text =>
          exact (notText rfl).elim
      | _ =>
          rfl
  | cons head others =>
      obtain ⟨kind, content, name⟩ := head
      cases kind <;> rfl

/-- Texts on both sides of a construct are put together apart from each other. -/
theorem mergeTexts_append
    {token : Token}
    (notText : token.kind ≠ .text)
    (first second : List Token) :
    mergeTexts (first ++ token :: second) = mergeTexts first ++ token :: mergeTexts second := by
  induction first with
  | nil =>
      simp [mergeTexts, notText]
  | cons head others inductionHypothesis =>
      simp only [List.cons_append, mergeTexts, inductionHypothesis]
      split
      next =>
        exact prependText_append notText ..
      next =>
        rfl

/-- Texts are joined among nodes as they are among tokens. -/
theorem mergeTexts_tokensOfAll (nodes : List Node) :
    mergeTexts (tokensOfAll nodes) = tokensOfAll (mergedAll nodes) := by
  induction nodes using forestInduction with
  | nil =>
      rfl
  | leaf kind content rest inductionHypothesis =>
      by_cases isText : kind = .text
      · subst isText
        have joined := tokensOfAll_joinedTo content (mergedAll rest)
        rw [← inductionHypothesis] at joined
        exact joined.symm
      · have apart := Node.joinedTo_of_ne_text isText content (mergedAll rest)
        simp only [tokensOfAll, Node.tokens, List.singleton_append, mergeTexts, isText,
          ↓reduceIte, mergedAll, Node.merged, apart, inductionHypothesis]
  | emptyElement name tag rest inductionHypothesis =>
      simp [tokensOfAll, Node.tokens, mergeTexts, mergedAll, Node.merged, Node.joinedTo,
        inductionHypothesis]
  | element name startTag endTag children rest insideHypothesis inductionHypothesis =>
      have closingTag : (⟨.finish, endTag, name⟩ : Token).kind ≠ .text := by
        simp
      simp [tokensOfAll, Node.tokens, mergeTexts, mergedAll, Node.merged, Node.joinedTo,
        mergeTexts_append closingTag, insideHypothesis, inductionHypothesis]

/-- A tree of pieces is still one when its texts are joined. -/
theorem AreReadable.mergedAll {nodes : List Node} (readable : AreReadable nodes) :
    AreReadable (mergedAll nodes) := by
  induction nodes using forestInduction with
  | nil =>
      exact readable
  | leaf kind content rest inductionHypothesis =>
      obtain ⟨first, others⟩ := List.forall_mem_cons.mp readable
      have othersReadable := inductionHypothesis others
      show AreReadable ((Node.leaf kind content).joinedTo (Markup.mergedAll rest))
      unfold Node.joinedTo
      split
      next text more behind isText same =>
        cases isText
        rw [same] at othersReadable
        obtain ⟨second, behindReadable⟩ := List.forall_mem_cons.mp othersReadable
        cases first with
        | leaf firstPiece notTag =>
            cases second with
            | leaf secondPiece _ =>
                obtain ⟨notEmpty, noBracket⟩ := isPiece_text_iff.mp firstPiece
                obtain ⟨_, noFurtherBracket⟩ := isPiece_text_iff.mp secondPiece
                refine List.forall_mem_cons.mpr ⟨.leaf (isPiece_text_iff.mpr ?_) notTag,
                  behindReadable⟩
                exact ⟨by simp [notEmpty], by simp [noBracket, noFurtherBracket]⟩
      next =>
        exact List.forall_mem_cons.mpr ⟨first, othersReadable⟩
  | emptyElement name tag rest inductionHypothesis =>
      obtain ⟨first, others⟩ := List.forall_mem_cons.mp readable
      exact List.forall_mem_cons.mpr ⟨first, inductionHypothesis others⟩
  | element name startTag endTag children rest insideHypothesis inductionHypothesis =>
      obtain ⟨first, others⟩ := List.forall_mem_cons.mp readable
      cases first with
      | element opens closes inside =>
          exact List.forall_mem_cons.mpr
            ⟨.element opens closes (insideHypothesis inside), inductionHypothesis others⟩

/-- A tree of pieces is read back from its markup, with its texts joined. -/
theorem parseTree_serializeAll {nodes : List Node} (readable : AreReadable nodes) :
    parseTree (serializeAll nodes) = .ok (mergedAll nodes) := by
  have read : tokenize (serializeAll nodes) = .ok (tokensOfAll (mergedAll nodes)) := by
    rw [← markupOf_tokensOfAll, tokenize_markupOf readable.arePieces, mergeTexts_tokensOfAll]
  obtain ⟨next, built⟩ := buildFrom_tokensOfAll readable.mergedAll 0 [] [] []
  rw [List.append_nil, List.append_nil] at built
  unfold parseTree
  rw [read]
  simp only [built, buildFrom, List.reverse_reverse]

/-! ## What is read -/

/-- The tokens that were read up to the innermost of some open elements. -/
def openTokens : List OpenNode → List Token
  | [] => []
  | innermost :: outer =>
      openTokens outer ++ tokensOfAll innermost.before.reverse ++
        [⟨.start, innermost.startTag, innermost.name⟩]

/-- An open element of which the tag and what is before it are put together from pieces. -/
def OpenNode.IsReadable (opened : OpenNode) : Prop :=
  Token.IsPiece ⟨.start, opened.startTag, opened.name⟩ ∧ AreReadable opened.before.reverse

/-- A tree of pieces whose tokens are those that were read and those that follow. -/
structure ReadsAs
    (opened : List OpenNode)
    (nodes : List Node)
    (tokens : List Token)
    (tree : List Node) :
    Prop where
  readable : AreReadable tree
  tokens : tokensOfAll tree = openTokens opened ++ tokensOfAll nodes.reverse ++ tokens

namespace ReadsAs

variable {opened : List OpenNode} {nodes before tree : List Node} {text name startTag : List Char}
  {rest : List Token}

/-- A node of one token is added. -/
theorem add
    {node : Node}
    {token : Token}
    (isToken : node.tokens = [token])
    (reads : ReadsAs opened (node :: nodes) rest tree) :
    ReadsAs opened nodes (token :: rest) tree where
  readable := reads.readable
  tokens := by
    rw [reads.tokens, List.reverse_cons, tokensOfAll_append]
    simp [tokensOfAll, isToken]

/-- An element is opened. -/
theorem openElement (reads : ReadsAs (⟨name, text, nodes⟩ :: opened) [] rest tree) :
    ReadsAs opened nodes (⟨.start, text, name⟩ :: rest) tree where
  readable := reads.readable
  tokens := by
    rw [reads.tokens]
    simp [openTokens, tokensOfAll]

/-- The innermost element is closed. -/
theorem closeElement
    (reads : ReadsAs opened (.element name startTag text nodes.reverse :: before) rest tree) :
    ReadsAs (⟨name, startTag, before⟩ :: opened) nodes (⟨.finish, text, name⟩ :: rest) tree where
  readable := reads.readable
  tokens := by
    rw [reads.tokens, List.reverse_cons, tokensOfAll_append]
    simp [openTokens, tokensOfAll, Node.tokens]

end ReadsAs

/-- A piece behind others. -/
private theorem areReadable_reverse_cons
    {nodes : List Node}
    (readable : AreReadable nodes.reverse)
    {node : Node}
    (isReadable : node.IsReadable) :
    AreReadable (node :: nodes).reverse := by
  rw [List.reverse_cons]
  exact List.forall_mem_append.mpr ⟨readable, by simpa using isReadable⟩

/-- What is built from pieces is a tree of these pieces. -/
theorem readsAs_of_buildFrom
    {offset : Nat}
    {opened : List OpenNode}
    {nodes tree : List Node}
    {tokens : List Token}
    (openReadable : ∀ element ∈ opened, element.IsReadable)
    (readable : AreReadable nodes.reverse)
    (arePieces : ArePieces tokens)
    (built : buildFrom offset opened nodes tokens = .ok tree) :
    ReadsAs opened nodes tokens tree := by
  induction tokens generalizing offset opened nodes with
  | nil =>
      cases opened with
      | nil =>
          obtain rfl := Except.ok.inj built
          exact ⟨readable, by simp [openTokens]⟩
      | cons innermost outer =>
          simp [buildFrom] at built
  | cons token rest inductionHypothesis =>
      obtain ⟨isPiece, others⟩ := List.forall_mem_cons.mp arePieces
      obtain ⟨kind, text, name⟩ := token
      by_cases isTag : kind ∈ tagKinds
      · simp only [tagKinds, List.mem_cons, List.not_mem_nil, or_false] at isTag
        rcases isTag with rfl | rfl | rfl
        · rw [buildFrom_start] at built
          have opens : OpenNode.IsReadable ⟨name, text, nodes⟩ := ⟨isPiece, readable⟩
          have nowOpen := List.forall_mem_cons.mpr ⟨opens, openReadable⟩
          exact .openElement (inductionHypothesis nowOpen (by simp [AreReadable]) others built)
        · cases opened with
          | nil =>
              simp [buildFrom] at built
          | cons innermost outer =>
              simp only [buildFrom] at built
              split at built
              next sameName =>
                subst sameName
                obtain ⟨⟨opens, beforeReadable⟩, outerReadable⟩ :=
                  List.forall_mem_cons.mp openReadable
                have closed := areReadable_reverse_cons beforeReadable
                  (.element opens isPiece readable)
                exact .closeElement (inductionHypothesis outerReadable closed others built)
              next =>
                simp at built
        · rw [buildFrom_empty] at built
          have added := areReadable_reverse_cons readable (.emptyElement isPiece)
          exact .add rfl (inductionHypothesis openReadable added others built)
      · obtain rfl : name = [] := isPiece.nameless isTag
        rw [buildFrom_leaf _ _ _ _ _ _ isTag] at built
        have added := areReadable_reverse_cons readable (.leaf isPiece isTag)
        exact .add rfl (inductionHypothesis openReadable added others built)

/-- What is read from markup is a tree of the pieces that make it up. -/
theorem readable_of_parseTree
    {markup : List Char}
    {nodes : List Node}
    (parsed : parseTree markup = .ok nodes) :
    AreReadable nodes ∧ tokenize markup = .ok (tokensOfAll nodes) ∧
      serializeAll nodes = markup := by
  unfold parseTree at parsed
  split at parsed
  next =>
    simp at parsed
  next tokens read =>
    obtain ⟨arePieces, makesUp⟩ := arePieces_of_tokenize read
    have nothing : AreReadable [].reverse := by
      simp [AreReadable]
    obtain ⟨readable, same⟩ := readsAs_of_buildFrom (by simp) nothing arePieces parsed
    have sameTokens : tokensOfAll nodes = tokens := by
      simpa [openTokens, tokensOfAll] using same
    exact ⟨readable, by rw [sameTokens, read],
      by rw [← markupOf_tokensOfAll, sameTokens, makesUp]⟩

end DocMarkup.Markup
