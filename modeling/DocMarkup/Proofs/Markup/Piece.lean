import DocMarkup.Proofs.Markup.Shape

namespace DocMarkup.Markup

/-!
# Pieces of markup

Markup is put together from pieces: constructs in angle brackets and texts without
any opening one. Every row of pieces is read back as those pieces, apart from texts
that follow one another, which become one token.
-/

/-- The markup of tokens in a row. -/
def markupOf (tokens : List Token) : List Char :=
  tokens.flatMap Token.text

/-- A token of text. -/
def Token.ofText (text : List Char) : Token :=
  ⟨.text, text, []⟩

/-- A token that can be put together with others. -/
inductive Token.IsPiece : Token → Prop where
  | ofText {text} :
      text ≠ [] →
      '<' ∉ text →
      IsPiece (.ofText text)
  | construct {shape : TokenShape} {body} :
      shape.Covers body →
      IsPiece ⟨shape.kind, '<' :: body, shape.name⟩

/-- Tokens that can be put together in a row. -/
def ArePieces (tokens : List Token) : Prop :=
  ∀ token ∈ tokens, token.IsPiece

/-- Put text in front of tokens; it becomes part of a text that is first among them. -/
def prependText (text : List Char) : List Token → List Token
  | ⟨.text, more, _⟩ :: rest => .ofText (text ++ more) :: rest
  | tokens => .ofText text :: tokens

/-- The tokens that pieces in a row are read as. -/
def mergeTexts : List Token → List Token
  | [] => []
  | token :: rest =>
      if token.kind = .text then
        prependText token.text (mergeTexts rest)
      else
        token :: mergeTexts rest

/-- The tokens other than text. -/
def constructs (tokens : List Token) : List Token :=
  tokens.filter fun token => token.kind != .text

namespace ArePieces

variable {first second : List Token}

theorem nil : ArePieces [] := by
  simp [ArePieces]

theorem append (firstPieces : ArePieces first) (secondPieces : ArePieces second) :
    ArePieces (first ++ second) := by
  intro token member
  rcases List.mem_append.mp member with inFirst | inSecond
  · exact firstPieces token inFirst
  · exact secondPieces token inSecond

theorem singleton {token : Token} (isPiece : token.IsPiece) : ArePieces [token] := by
  intro other member
  obtain rfl := List.mem_singleton.mp member
  exact isPiece

end ArePieces

theorem constructs_append (first second : List Token) :
    constructs (first ++ second) = constructs first ++ constructs second :=
  List.filter_append ..

/-- Only texts are put together. -/
theorem constructs_mergeTexts (tokens : List Token) :
    constructs (mergeTexts tokens) = constructs tokens := by
  have constructs_prependText :
      ∀ text others, constructs (prependText text others) = constructs others := by
    intro text others
    unfold prependText
    split <;> simp [constructs, Token.ofText]
  induction tokens with
  | nil =>
      rfl
  | cons token rest inductionHypothesis =>
      rw [mergeTexts]
      split
      next isText =>
        rw [constructs_prependText, inductionHypothesis]
        simp [constructs, isText]
      next notText =>
        simpa [constructs, List.filter_cons, notText] using inductionHypothesis

/-- The kinds of tags. -/
def tagKinds : List TokenKind :=
  [.start, .finish, .empty]

/-- A construct in angle brackets is a tag, or else something without a name that is no text. -/
theorem isTag_or_nameless
    {characters : List Char}
    {shape : TokenShape}
    (shaped : bracketShape? characters = some shape) :
    shape.kind ∈ tagKinds ∨ shape.kind ≠ .text ∧ shape.name = [] := by
  have ofEnclosed :
      ∀ {kind opened closing content},
        kind ≠ .text →
        enclosedShape? kind opened closing content = some shape →
        shape.kind ≠ .text ∧ shape.name = [] := by
    intro kind opened closing content notText found
    obtain ⟨_, _, rfl⟩ := Option.map_eq_some_iff.mp found
    exact ⟨notText, rfl⟩
  unfold bracketShape? at shaped
  split at shaped
  · unfold exclamationShape? at shaped
    split at shaped
    · exact .inr (ofEnclosed (by decide) shaped)
    · exact .inr (ofEnclosed (by decide) shaped)
    · split at shaped
      · exact .inr (ofEnclosed (by decide) shaped)
      · simp at shaped
    · simp at shaped
  · exact .inr (ofEnclosed (by decide) shaped)
  · unfold finishShape? at shaped
    simp only at shaped
    split at shaped
    · simp at shaped
    split at shaped
    · obtain rfl := Option.some.inj shaped
      simp [tagKinds]
    · simp at shaped
  · unfold startShape? at shaped
    simp only at shaped
    split at shaped
    · simp at shaped
    split at shaped
    · obtain rfl := Option.some.inj shaped
      simp [tagKinds]
    · obtain rfl := Option.some.inj shaped
      simp [tagKinds]
    · simp at shaped

theorem TokenShape.Covers.isTag_or_nameless
    {shape : TokenShape}
    {body : List Char}
    (covers : shape.Covers body) :
    shape.kind ∈ tagKinds ∨ shape.kind ≠ .text ∧ shape.name = [] :=
  Markup.isTag_or_nameless (by simpa using covers.shaped [])

/-- No construct in angle brackets is a text. -/
theorem TokenShape.Covers.kind_ne_text
    {shape : TokenShape}
    {body : List Char}
    (covers : shape.Covers body) :
    shape.kind ≠ .text := by
  rcases covers.isTag_or_nameless with isTag | ⟨notText, _⟩
  · intro isText
    simp [tagKinds, isText] at isTag
  · exact notText

/-- Only tags have names. -/
theorem Token.IsPiece.nameless
    {token : Token}
    (isPiece : token.IsPiece)
    (notTag : token.kind ∉ tagKinds) :
    token.name = [] := by
  cases isPiece with
  | ofText =>
      rfl
  | construct covers =>
      rcases covers.isTag_or_nameless with isTag | ⟨_, nameless⟩
      · exact (notTag isTag).elim
      · exact nameless

/-- A construct in front is read as the token of its shape. -/
theorem readTokens_construct
    (offset : Nat)
    {shape : TokenShape}
    {body : List Char}
    (covers : shape.Covers body)
    (rest : List Char) :
    readTokens offset ('<' :: (body ++ rest)) =
      let (tokens, fault) := readTokens (offset + ('<' :: body).length) rest
      (⟨shape.kind, '<' :: body, shape.name⟩ :: tokens, fault) := by
  rw [readTokens, tokenShape?]
  simp only [beq_self_eq_true, ↓reduceIte, covers.shaped, ← covers.length, List.take_left,
    List.drop_left]

/-- The text in front is read up to the next opening angle bracket. -/
theorem readTokens_text
    (offset : Nat)
    {first : Char}
    {run rest : List Char}
    (noBracket : '<' ∉ first :: run)
    (stops : Text.Stops (fun character => character != '<') rest) :
    readTokens offset (first :: (run ++ rest)) =
      let (tokens, fault) := readTokens (offset + (first :: run).length) rest
      (.ofText (first :: run) :: tokens, fault) := by
  simp only [List.mem_cons, not_or] at noBracket
  have isRun : run.all (fun character => character != '<') = true := by
    rw [List.all_eq_true]
    intro character member
    simpa using fun same : character = '<' => noBracket.2 (same ▸ member)
  have notBracket : (first == '<') = false := by
    simpa using Ne.symm noBracket.1
  rw [readTokens, tokenShape?]
  simp only [notBracket, Bool.false_eq_true, ↓reduceIte, Text.runLength_run isRun stops,
    List.take_left, List.drop_left]
  rfl

/-- Text in front of markup is put in front of its tokens. -/
theorem readTokens_prependText
    (offset : Nat)
    {text : List Char}
    (notEmpty : text ≠ [])
    (noBracket : '<' ∉ text)
    (rest : List Char) :
    readTokens offset (text ++ rest) =
      let (tokens, fault) := readTokens (offset + text.length) rest
      (prependText text tokens, fault) := by
  cases text with
  | nil =>
      exact (notEmpty rfl).elim
  | cons first run =>
      obtain ⟨more, behind, rfl, isRun, stops⟩ :=
        Text.exists_run (fun character => character != '<') rest
      have moreBracket : '<' ∉ more := by
        intro member
        simpa using List.all_eq_true.mp isRun _ member
      cases more with
      | nil =>
          rw [List.nil_append, List.cons_append, readTokens_text offset noBracket stops]
          cases behind with
          | nil =>
              simp [readTokens, prependText]
          | cons bracket others =>
              have isBracket : bracket = '<' := by
                simpa [Text.Stops, List.takeWhile_cons] using stops
              subst isBracket
              cases shaped : bracketShape? others with
              | none =>
                  simp [readTokens, tokenShape?, shaped, prependText]
              | some shape =>
                  obtain ⟨body, after, rfl, covers⟩ := exists_covers shaped
                  have notText := covers.kind_ne_text
                  rw [readTokens_construct _ covers]
                  simp only [prependText]
                  split
                  next same =>
                    simp_all
                  next =>
                    rfl
      | cons second others =>
          have both : '<' ∉ first :: (run ++ second :: others) := by
            simp only [List.mem_cons, List.mem_append, not_or] at noBracket moreBracket ⊢
            exact ⟨noBracket.1, noBracket.2, moreBracket.1, moreBracket.2⟩
          have regrouped :
              first :: run ++ (second :: others ++ behind) =
                first :: ((run ++ second :: others) ++ behind) := by
            simp
          have sameOffset :
              offset + (first :: (run ++ second :: others)).length =
                offset + (first :: run).length + (second :: others).length := by
            simp only [List.length_cons, List.length_append]
            omega
          rw [regrouped, readTokens_text offset both stops, sameOffset, List.cons_append,
            readTokens_text _ moreBracket stops]
          simp [prependText, Token.ofText]

/-- Pieces in a row are read as such, apart from texts that become one. -/
theorem readTokens_markupOf
    (offset : Nat)
    {tokens : List Token}
    (arePieces : ArePieces tokens) :
    readTokens offset (markupOf tokens) = (mergeTexts tokens, none) := by
  induction tokens generalizing offset with
  | nil =>
      rw [markupOf, List.flatMap_nil, readTokens, mergeTexts]
  | cons token rest inductionHypothesis =>
      have restPieces : ArePieces rest := fun other member => arePieces other (by simp [member])
      rw [markupOf, List.flatMap_cons, ← markupOf, mergeTexts]
      cases arePieces token (by simp) with
      | ofText notEmpty noBracket =>
          rw [Token.ofText, readTokens_prependText offset notEmpty noBracket,
            inductionHypothesis _ restPieces]
          rfl
      | construct covers =>
          rw [List.cons_append, readTokens_construct offset covers,
            inductionHypothesis _ restPieces]
          simp [covers.kind_ne_text]

/-- Whatever is read from markup are pieces that make it up. -/
theorem arePieces_of_readTokens
    {offset : Nat}
    {markup : List Char}
    {tokens : List Token}
    (read : readTokens offset markup = (tokens, none)) :
    ArePieces tokens ∧ markupOf tokens = markup := by
  fun_induction readTokens offset markup generalizing tokens with
  | case1 =>
      obtain ⟨rfl, _⟩ := Prod.mk.inj read
      exact ⟨.nil, rfl⟩
  | case2 =>
      simp at read
  | case3 offset first rest shape shaped text others fault readOthers =>
      rename_i inductionHypothesis
      obtain ⟨rfl, rfl⟩ := Prod.mk.inj read
      obtain ⟨othersPieces, sameRest⟩ := inductionHypothesis readOthers
      have sameMarkup :
          markupOf (⟨shape.kind, text, shape.name⟩ :: others) = first :: rest := by
        rw [markupOf, List.flatMap_cons, ← markupOf, sameRest]
        simp [text]
      refine ⟨.append (.singleton ?_) othersPieces, sameMarkup⟩
      unfold tokenShape? at shaped
      split at shaped
      next isBracket =>
        obtain rfl := beq_iff_eq.mp isBracket
        obtain ⟨body, behind, rfl, covers⟩ := exists_covers shaped
        have isBody : text = '<' :: body := by
          simp [text, ← covers.length]
        rw [isBody]
        exact .construct covers
      next notBracket =>
        obtain rfl := Option.some.inj shaped
        obtain ⟨run, behind, rfl, isRun, stops⟩ :=
          Text.exists_run (fun character => character != '<') rest
        have isText : text = first :: run := by
          simp [text, Text.runLength_run isRun stops]
        rw [isText]
        refine .ofText (by simp) ?_
        intro member
        rcases List.mem_cons.mp member with rfl | inRun
        · simp at notBracket
        · simpa using List.all_eq_true.mp isRun _ inRun

end DocMarkup.Markup
