import DocMarkup.Proofs.Markup.Reading

namespace DocMarkup.Markup

/-!
# Balanced markup

Tokens are balanced if their opening and closing tags match like brackets, by name.
Markup is accepted exactly if it has balanced tokens, and then its tree makes it up
again; otherwise the fault says where the tags stop matching and what is open there.
Balanced markup stays balanced behind other balanced markup, inside an element and
between the tokens of a document.
-/

/-- Tokens whose opening and closing tags match like brackets, by name. -/
inductive AreBalanced : List Token → Prop where
  | nil : AreBalanced []
  | other {token rest} :
      token.kind ≠ .start →
      token.kind ≠ .finish →
      AreBalanced rest →
      AreBalanced (token :: rest)
  | element {opening closing inside rest} :
      opening.kind = .start →
      closing.kind = .finish →
      opening.name = closing.name →
      AreBalanced inside →
      AreBalanced rest →
      AreBalanced (opening :: (inside ++ closing :: rest))

/-- Tokens that leave some elements open, innermost first, and close only what they open. -/
inductive LeaveOpen : OpenNames → List Token → Prop where
  | nothing {tokens} :
      AreBalanced tokens →
      LeaveOpen [] tokens
  | element {outer before opening inside} :
      LeaveOpen outer before →
      opening.kind = .start →
      AreBalanced inside →
      LeaveOpen (opening.name :: outer) (before ++ opening :: inside)

/--
How a fault in a tree belongs to the tokens of its markup. A closing tag that does not
close what is open is found where it starts, and an element that is never closed is the
innermost open one, found at the end.
-/
inductive MarkupFault.IsFoundIn (tokens : List Token) : MarkupFault → Prop where
  | strayEnd {before tag after opened} :
      tokens = before ++ tag :: after →
      LeaveOpen opened before →
      tag.kind = .finish →
      opened.head? ≠ some tag.name →
      IsFoundIn tokens ⟨.strayEnd tag.name opened.head?, (markupOf before).length⟩
  | neverClosed {name outer} :
      LeaveOpen (name :: outer) tokens →
      IsFoundIn tokens ⟨.neverClosed name, (markupOf tokens).length⟩

/-! ## Matching tags are what the stack of open elements accepts -/

section Matching

variable {first second tokens before inside : List Token} {opened outer left : OpenNames}
  {token : Token}

theorem AreBalanced.append (firstBalanced : AreBalanced first) (secondBalanced : AreBalanced second) :
    AreBalanced (first ++ second) := by
  induction firstBalanced with
  | nil =>
      exact secondBalanced
  | other notStart notFinish _ inductionHypothesis =>
      exact .other notStart notFinish inductionHypothesis
  | element isStart isFinish sameName inside _ _ inductionHypothesis =>
      rw [List.cons_append, List.append_assoc, List.cons_append]
      exact .element isStart isFinish sameName inside inductionHypothesis

/-- A token that is no tag of an element with content is balanced by itself. -/
theorem AreBalanced.singleton (notStart : token.kind ≠ .start) (notFinish : token.kind ≠ .finish) :
    AreBalanced [token] :=
  .other notStart notFinish .nil

/-- Balanced tokens behind others open and close nothing of what the others leave open. -/
theorem LeaveOpen.append (leaves : LeaveOpen opened first) (balanced : AreBalanced second) :
    LeaveOpen opened (first ++ second) := by
  cases leaves with
  | nothing firstBalanced =>
      exact .nothing (firstBalanced.append balanced)
  | element leavesOuter isStart insideBalanced =>
      rw [List.append_assoc, List.cons_append]
      exact .element leavesOuter isStart (insideBalanced.append balanced)

/-- A closing tag of the innermost open element closes it. -/
theorem LeaveOpen.close
    {name : List Char}
    (leaves : LeaveOpen (name :: outer) before)
    (isFinish : token.kind = .finish)
    (sameName : name = token.name) :
    LeaveOpen outer (before ++ [token]) := by
  cases leaves with
  | element leavesOuter isStart insideBalanced =>
      rw [List.append_assoc, List.cons_append]
      exact leavesOuter.append (.element isStart isFinish sameName insideBalanced .nil)

/-- What one token makes of the open elements. -/
theorem LeaveOpen.next
    (leaves : LeaveOpen opened before)
    (leads : openNames? token.kind token.name opened = some left) :
    LeaveOpen left (before ++ [token]) := by
  cases kind : token.kind with
  | start =>
      rw [kind] at leads
      obtain rfl := Option.some.inj leads
      exact .element leaves kind .nil
  | finish =>
      cases opened with
      | nil =>
          simp [openNames?, kind] at leads
      | cons innermost outer =>
          by_cases same : innermost = token.name
          · simp only [openNames?, kind, same, ↓reduceIte, Option.some.injEq] at leads
            subst leads
            exact leaves.close kind same
          · simp [openNames?, kind, same] at leads
  | _ =>
      rw [kind] at leads
      obtain rfl := Option.some.inj leads
      exact leaves.append (.singleton (by simp [kind]) (by simp [kind]))

/-- What tokens make of the open elements, from where others leave them. -/
theorem LeaveOpen.after
    (leaves : LeaveOpen opened before)
    (leads : openNamesAfter? opened tokens = some left) :
    LeaveOpen left (before ++ tokens) := by
  induction tokens generalizing opened before with
  | nil =>
      obtain rfl := Option.some.inj leads
      rwa [List.append_nil]
  | cons token rest inductionHypothesis =>
      obtain ⟨between, leadsFirst, leadsRest⟩ := Option.bind_eq_some_iff.mp leads
      have whole := inductionHypothesis (leaves.next leadsFirst) leadsRest
      rwa [List.append_assoc, List.singleton_append] at whole

/-- Balanced tokens leave open what is open. -/
theorem AreBalanced.openNamesAfter?_eq (balanced : AreBalanced tokens) (opened : OpenNames) :
    openNamesAfter? opened tokens = some opened := by
  induction balanced generalizing opened with
  | nil =>
      rfl
  | @other token rest notStart notFinish _ inductionHypothesis =>
      have staysOpen : openNames? token.kind token.name opened = some opened := by
        unfold openNames?
        split
        next isStart => exact (notStart isStart).elim
        next isFinish => exact (notFinish isFinish).elim
        next => rfl
      rw [openNamesAfter?, staysOpen]
      exact inductionHypothesis opened
  | element isStart isFinish sameName _ _ insideHypothesis inductionHypothesis =>
      simp only [openNamesAfter?, openNames?, isStart, Option.bind_some, openNamesAfter?_append,
        insideHypothesis, isFinish, sameName, ↓reduceIte]
      exact inductionHypothesis opened

/-- The elements that tokens leave open are those on the stack behind them. -/
theorem openNamesAfter?_eq_some_iff :
    openNamesAfter? [] tokens = some opened ↔ LeaveOpen opened tokens := by
  constructor
  · exact fun leads => LeaveOpen.after (.nothing .nil) leads
  · intro leaves
    induction leaves with
    | nothing balanced =>
        exact balanced.openNamesAfter?_eq []
    | element _ isStart insideBalanced inductionHypothesis =>
        rw [openNamesAfter?_append, inductionHypothesis]
        simp only [Option.bind_some, openNamesAfter?, openNames?, isStart,
          insideBalanced.openNamesAfter?_eq]

/-- Tokens are balanced exactly if the stack is empty behind them. -/
theorem openNamesAfter?_eq_nil_iff :
    openNamesAfter? [] tokens = some [] ↔ AreBalanced tokens := by
  rw [openNamesAfter?_eq_some_iff]
  constructor
  · intro leaves
    cases leaves with
    | nothing balanced => exact balanced
  · exact .nothing

/-- Tokens stay balanced with balanced ones among them. -/
theorem AreBalanced.insert
    (balanced : AreBalanced (first ++ second))
    (insideBalanced : AreBalanced inside) :
    AreBalanced (first ++ inside ++ second) := by
  rw [← openNamesAfter?_eq_nil_iff, openNamesAfter?_append] at balanced ⊢
  obtain ⟨between, leadsFirst, leadsSecond⟩ := Option.bind_eq_some_iff.mp balanced
  rw [openNamesAfter?_append, leadsFirst]
  simp only [Option.bind_some, insideBalanced.openNamesAfter?_eq, leadsSecond]

end Matching

/-! ## Where faults are found -/

theorem markupOf_append (first second : List Token) :
    markupOf (first ++ second) = markupOf first ++ markupOf second :=
  List.flatMap_append ..

/-- The tokens in front of a fault make up what comes before something that is no token. -/
theorem unread_of_readTokens
    {offset : Nat}
    {markup : List Char}
    {tokens : List Token}
    {fault : MarkupFault}
    (read : readTokens offset markup = (tokens, some fault)) :
    fault.error = .unrecognised ∧
      fault.offset = offset + (markupOf tokens).length ∧
        ∃ unread, unread ≠ [] ∧ markup = markupOf tokens ++ unread := by
  fun_induction readTokens offset markup generalizing tokens with
  | case1 =>
      simp at read
  | case2 offset first rest =>
      obtain ⟨rfl, sameFault⟩ := Prod.mk.inj read
      obtain rfl := Option.some.inj sameFault
      exact ⟨rfl, rfl, first :: rest, by simp, rfl⟩
  | case3 offset first rest shape _ text others _ readOthers =>
      rename_i inductionHypothesis
      obtain ⟨rfl, rfl⟩ := Prod.mk.inj read
      obtain ⟨isUnrecognised, sameOffset, unread, someLeft, sameRest⟩ :=
        inductionHypothesis readOthers
      have sameMarkup :
          markupOf (⟨shape.kind, text, shape.name⟩ :: others) = text ++ markupOf others :=
        List.flatMap_cons
      refine ⟨isUnrecognised, ?_, unread, someLeft, ?_⟩
      · rw [sameOffset, sameMarkup, List.length_append, Nat.add_assoc]
      · rw [sameMarkup, List.append_assoc, ← sameRest]
        simp [text]

/-- A fault in building a tree belongs to the tokens, behind those that were read before. -/
theorem isFoundIn_of_buildFrom
    {before tokens : List Token}
    {opened : List OpenNode}
    {nodes : List Node}
    {fault : MarkupFault}
    (leaves : LeaveOpen (opened.map OpenNode.name) before)
    (failed : buildFrom (markupOf before).length opened nodes tokens = .error fault) :
    fault.IsFoundIn (before ++ tokens) := by
  induction tokens generalizing before opened nodes with
  | nil =>
      rw [List.append_nil]
      cases opened with
      | nil =>
          simp [buildFrom] at failed
      | cons innermost outer =>
          obtain rfl := Except.error.inj failed
          exact .neverClosed leaves
  | cons token rest inductionHypothesis =>
      -- Where the token is no fault, it goes with the tokens before, and the offset behind it.
      have goesOn
          {left : List OpenNode}
          {others : List Node}
          (leavesNow : LeaveOpen (left.map OpenNode.name) (before ++ [token]))
          (failedLater :
            buildFrom ((markupOf before).length + token.text.length) left others rest =
              .error fault) :
          fault.IsFoundIn (before ++ token :: rest) := by
        have sameOffset :
            (markupOf before).length + token.text.length = (markupOf (before ++ [token])).length := by
          simp [markupOf]
        rw [sameOffset] at failedLater
        simpa using inductionHypothesis leavesNow failedLater
      obtain ⟨kind, text, name⟩ := token
      by_cases isTag : kind ∈ tagKinds
      · simp only [tagKinds, List.mem_cons, List.not_mem_nil, or_false] at isTag
        rcases isTag with rfl | rfl | rfl
        · rw [buildFrom_start] at failed
          exact goesOn (leaves.next rfl) failed
        · cases opened with
          | nil =>
              obtain rfl := Except.error.inj failed
              exact .strayEnd rfl leaves rfl (by simp)
          | cons innermost outer =>
              simp only [buildFrom] at failed
              split at failed
              next sameName =>
                exact goesOn (.close leaves rfl sameName) failed
              next otherName =>
                obtain rfl := Except.error.inj failed
                exact .strayEnd rfl leaves rfl (by simpa using otherName)
        · rw [buildFrom_empty] at failed
          exact goesOn (leaves.next rfl) failed
      · rw [buildFrom_leaf _ _ _ _ _ _ isTag] at failed
        simp only [tagKinds, List.mem_cons, List.not_mem_nil, or_false, not_or] at isTag
        exact goesOn (leaves.append (.singleton isTag.1 isTag.2.1)) failed

/-- Markup is accepted exactly if it has tokens and they are balanced. -/
theorem findError?_eq_none_iff_balanced (markup : String) :
    findError? markup = none ↔
      ∃ tokens, tokenize markup.toList = .ok tokens ∧ AreBalanced tokens := by
  unfold findError? parseTree
  cases read : tokenize markup.toList with
  | error fault =>
      simp
  | ok tokens =>
      have built := exists_buildFrom_iff 0 [] [] tokens
      rw [List.map_nil, openNamesAfter?_eq_nil_iff] at built
      cases tree : buildFrom 0 [] [] tokens with
      | ok nodes => simp [← built, tree]
      | error fault => simp [← built, tree]

/--
Markup is read without loss, and accepted exactly if it is balanced. If it is cut into
tokens, these make it up; if it is not, those in front of the fault make up what is in
front of it. It is accepted exactly if it has tokens whose opening and closing tags match
by name, and then its tree makes it up. Otherwise something in it is no token, or the
fault is found in its tokens: at the first closing tag that does not match, or at the end,
with the innermost element that is still open.
-/
theorem markup_is_read_exactly (markup : String) :
    (∀ tokens, tokenize markup.toList = .ok tokens → markupOf tokens = markup.toList) ∧
      (∀ fault, tokenize markup.toList = .error fault →
        fault.error = .unrecognised ∧ fault.offset < markup.length ∧
          ∃ tokens,
            readTokens 0 markup.toList = (tokens, some fault) ∧
              markupOf tokens = markup.toList.take fault.offset) ∧
      (findError? markup = none ↔
        ∃ tokens, tokenize markup.toList = .ok tokens ∧ AreBalanced tokens) ∧
      (findError? markup = none →
        ∃ nodes, parseTree markup.toList = .ok nodes ∧ serializeAll nodes = markup.toList) ∧
      ∀ fault, parseTree markup.toList = .error fault →
        findError? markup = some fault.error ∧
          (tokenize markup.toList = .error fault ∨
            ∃ tokens, tokenize markup.toList = .ok tokens ∧ fault.IsFoundIn tokens) := by
  refine ⟨fun tokens read => (arePieces_of_tokenize read).2, ?_,
    findError?_eq_none_iff_balanced markup, ?_, ?_⟩
  · intro fault failed
    obtain ⟨tokens, read⟩ := tokenize_eq_error_iff.mp failed
    obtain ⟨isUnrecognised, sameOffset, unread, someLeft, same⟩ := unread_of_readTokens read
    rw [Nat.zero_add] at sameOffset
    refine ⟨isUnrecognised, ?_, tokens, read, ?_⟩
    · have sameLength := congrArg List.length same
      rw [String.length_toList, List.length_append] at sameLength
      have notEmpty := List.length_pos_iff.mpr someLeft
      omega
    · rw [same, sameOffset, List.take_left]
  · intro accepted
    unfold findError? at accepted
    split at accepted
    next nodes parsed => exact ⟨nodes, parsed, (readable_of_parseTree parsed).2.2⟩
    next => simp at accepted
  · intro fault failed
    refine ⟨by simp [findError?, failed], ?_⟩
    unfold parseTree at failed
    split at failed
    next found read =>
      obtain rfl := Except.error.inj failed
      exact .inl read
    next tokens read =>
      have nothingOpen : LeaveOpen (List.map OpenNode.name []) [] := .nothing .nil
      exact .inr ⟨tokens, read, isFoundIn_of_buildFrom nothingOpen failed⟩

/-- An element, a bracket that opens nothing, and an element closed by another name. -/
theorem markup_is_read_exactly_in_elements :
    (tokenize "<a>x</a>".toList =
        .ok [⟨.start, "<a>".toList, ['a']⟩, .ofText ['x'], ⟨.finish, "</a>".toList, ['a']⟩] ∧
      markupOf
          [⟨.start, "<a>".toList, ['a']⟩, .ofText ['x'], ⟨.finish, "</a>".toList, ['a']⟩] =
        "<a>x</a>".toList) ∧
    (tokenize "x< y".toList = .error ⟨.unrecognised, 1⟩ ∧
      ∃ tokens,
        readTokens 0 "x< y".toList = (tokens, some ⟨.unrecognised, 1⟩) ∧
          markupOf tokens = "x< y".toList.take 1) ∧
    (findError? "<a>x</a>" = none ∧
      ∃ nodes,
        parseTree "<a>x</a>".toList = .ok nodes ∧ serializeAll nodes = "<a>x</a>".toList) ∧
    (parseTree "<a>x</b>".toList = .error ⟨.strayEnd ['b'] (some ['a']), 4⟩ ∧
      findError? "<a>x</b>" = some (.strayEnd ['b'] (some ['a'])) ∧
      ∃ tokens,
        tokenize "<a>x</b>".toList = .ok tokens ∧
          MarkupFault.IsFoundIn tokens ⟨.strayEnd ['b'] (some ['a']), 4⟩) := by
  have element :
      tokenize "<a>x</a>".toList =
        .ok [⟨.start, "<a>".toList, ['a']⟩, .ofText ['x'], ⟨.finish, "</a>".toList, ['a']⟩] :=
    tokenize_eq_ok_iff.mpr (by decide +kernel)
  have noToken : tokenize "x< y".toList = .error ⟨.unrecognised, 1⟩ :=
    tokenize_eq_error_iff.mpr ⟨[.ofText ['x']], by decide +kernel⟩
  have otherTokens :
      tokenize "<a>x</b>".toList =
        .ok [⟨.start, "<a>".toList, ['a']⟩, .ofText ['x'], ⟨.finish, "</b>".toList, ['b']⟩] :=
    tokenize_eq_ok_iff.mpr (by decide +kernel)
  have otherName :
      parseTree "<a>x</b>".toList = .error ⟨.strayEnd ['b'] (some ['a']), 4⟩ := by
    rw [parseTree, otherTokens]
    rfl
  have accepted : findError? "<a>x</a>" = none := by decide +kernel
  obtain ⟨reported, located⟩ := (markup_is_read_exactly "<a>x</b>").2.2.2.2 _ otherName
  have isCut : tokenize "<a>x</b>".toList ≠ .error ⟨.strayEnd ['b'] (some ['a']), 4⟩ := by
    rw [otherTokens]
    simp
  exact
    ⟨⟨element, (markup_is_read_exactly "<a>x</a>").1 _ element⟩,
      ⟨noToken, ((markup_is_read_exactly "x< y").2.1 _ noToken).2.2⟩,
      ⟨accepted, (markup_is_read_exactly "<a>x</a>").2.2.2.1 accepted⟩,
      ⟨otherName, reported, located.resolve_left isCut⟩⟩

/-! ## Balanced markup in other markup -/

/-- Tokens that make up accepted markup. -/
structure IsMadeOf (markup : String) (tokens : List Token) : Prop where
  read : tokenize markup.toList = .ok tokens
  arePieces : ArePieces tokens
  makesUp : markupOf tokens = markup.toList
  balanced : AreBalanced tokens

theorem exists_isMadeOf {markup : String} (accepted : findError? markup = none) :
    ∃ tokens, IsMadeOf markup tokens := by
  obtain ⟨tokens, read, balanced⟩ := (findError?_eq_none_iff_balanced markup).mp accepted
  obtain ⟨arePieces, makesUp⟩ := arePieces_of_tokenize read
  exact ⟨tokens, read, arePieces, makesUp, balanced⟩

/-- Balanced pieces make up accepted markup, of which they are the tokens apart from texts. -/
theorem accepted_of_pieces
    {markup : String}
    {tokens : List Token}
    (arePieces : ArePieces tokens)
    (makesUp : markupOf tokens = markup.toList)
    (balanced : AreBalanced tokens) :
    findError? markup = none ∧
      ∃ read, tokenize markup.toList = .ok read ∧ constructs read = constructs tokens := by
  constructor
  · rw [findError?_eq_none_iff]
    exact ⟨tokens,
      { arePieces := arePieces
        makesUp := makesUp
        leads := balanced.openNamesAfter?_eq []
        areAllowed := fun _ _ _ => trivial }⟩
  · rw [← makesUp]
    exact ⟨mergeTexts tokens, tokenize_markupOf arePieces, constructs_mergeTexts tokens⟩

/-- The tags of an element with a name and without attributes are pieces. -/
theorem isPiece_tags {name : List Char} (isName : IsTagName name) :
    Token.IsPiece ⟨.start, '<' :: (name ++ ['>']), name⟩ ∧
      Token.IsPiece ⟨.finish, '<' :: '/' :: (name ++ ['>']), name⟩ :=
  ⟨.construct (covers_start isName .nil (List.all_nil)),
    .construct (covers_finish isName.1 isName.isEndName (List.all_nil))⟩

/--
Balanced markup composes. Two pieces of markup that are accepted are accepted one behind
the other, with the tokens of the first and then those of the second, apart from texts.
Accepted markup is accepted inside an element of any name, and between any two tokens
of accepted markup, where it adds its tokens to those around it.
-/
theorem balanced_markup_composes
    {first second : String}
    (firstAccepted : findError? first = none)
    (secondAccepted : findError? second = none) :
    findError? (first ++ second) = none ∧
      (∀ name : String, IsTagName name.toList →
        findError? ("<" ++ name ++ ">" ++ first ++ "</" ++ name ++ ">") = none) ∧
      (∃ firstTokens secondTokens tokens,
        tokenize first.toList = .ok firstTokens ∧
          tokenize second.toList = .ok secondTokens ∧
            tokenize (first ++ second).toList = .ok tokens ∧
              constructs tokens = constructs firstTokens ++ constructs secondTokens) ∧
      ∀ (document front back : String) (before after : List Token),
        findError? document = none →
        tokenize document.toList = .ok (before ++ after) →
        markupOf before = front.toList →
        markupOf after = back.toList →
        findError? (front ++ first ++ back) = none ∧
          ∃ firstTokens tokens,
            tokenize first.toList = .ok firstTokens ∧
              tokenize (front ++ first ++ back).toList = .ok tokens ∧
                constructs tokens =
                  constructs before ++ constructs firstTokens ++ constructs after := by
  obtain ⟨firstTokens, firstMade⟩ := exists_isMadeOf firstAccepted
  obtain ⟨secondTokens, secondMade⟩ := exists_isMadeOf secondAccepted
  have appended : markupOf (firstTokens ++ secondTokens) = (first ++ second).toList := by
    rw [markupOf_append, firstMade.makesUp, secondMade.makesUp, String.toList_append]
  obtain ⟨accepted, tokens, read, sameConstructs⟩ :=
    accepted_of_pieces (firstMade.arePieces.append secondMade.arePieces) appended
      (firstMade.balanced.append secondMade.balanced)
  refine ⟨accepted, ?_, ⟨firstTokens, secondTokens, tokens, firstMade.read, secondMade.read, read,
    by rw [sameConstructs, constructs_append]⟩, ?_⟩
  · intro name isName
    obtain ⟨opens, closes⟩ := isPiece_tags isName
    refine (accepted_of_pieces (.append (.singleton opens) (.append firstMade.arePieces
      (.singleton closes))) ?_ (.element rfl rfl rfl firstMade.balanced .nil)).1
    simpa [markupOf] using firstMade.makesUp
  · intro document front back before after documentAccepted readDocument frontMade backMade
    obtain ⟨documentTokens, documentMade⟩ := exists_isMadeOf documentAccepted
    -- The two parts need not be balanced, but together they are, and stay so with more among them.
    obtain rfl := Except.ok.inj (documentMade.read.symm.trans readDocument)
    have beforePieces : ArePieces before := fun token member =>
      documentMade.arePieces token (List.mem_append_left _ member)
    have afterPieces : ArePieces after := fun token member =>
      documentMade.arePieces token (List.mem_append_right _ member)
    have spliced :
        markupOf (before ++ firstTokens ++ after) = (front ++ first ++ back).toList := by
      simp only [markupOf_append, frontMade, firstMade.makesUp, backMade, String.toList_append]
    obtain ⟨splicedAccepted, splicedTokens, readSpliced, same⟩ :=
      accepted_of_pieces ((beforePieces.append firstMade.arePieces).append afterPieces) spliced
        (documentMade.balanced.insert firstMade.balanced)
    exact ⟨splicedAccepted, firstTokens, splicedTokens, firstMade.read, readSpliced,
      by rw [same, constructs_append, constructs_append]⟩

/-- A text that ends in an element, a comment, and a document with the text behind its title. -/
theorem balanced_markup_composes_in_document :
    findError? "x<b>y</b>" = none ∧ findError? "<!-- > -->z" = none ∧
      IsTagName "em".toList ∧ findError? "<d>t<hr/></d>" = none ∧
      findError? ("x<b>y</b>" ++ "<!-- > -->z") = none ∧
      findError? ("<" ++ "em" ++ ">" ++ "x<b>y</b>" ++ "</" ++ "em" ++ ">") = none ∧
      findError? ("<d>t" ++ "x<b>y</b>" ++ "<hr/></d>") = none := by
  have firstAccepted : findError? "x<b>y</b>" = none := by decide +kernel
  have secondAccepted : findError? "<!-- > -->z" = none := by decide +kernel
  have documentAccepted : findError? "<d>t<hr/></d>" = none := by decide +kernel
  have isName : IsTagName "em".toList := ⟨by decide, by decide⟩
  have readDocument :
      tokenize "<d>t<hr/></d>".toList =
        .ok ([⟨.start, "<d>".toList, ['d']⟩, .ofText ['t']] ++
          [⟨.empty, "<hr/>".toList, ['h', 'r']⟩, ⟨.finish, "</d>".toList, ['d']⟩]) :=
    tokenize_eq_ok_iff.mpr (by decide +kernel)
  obtain ⟨appended, inside, -, spliced⟩ := balanced_markup_composes firstAccepted secondAccepted
  have splicedHere :=
    spliced "<d>t<hr/></d>" "<d>t" "<hr/></d>" _ _ documentAccepted readDocument
      (by decide) (by decide)
  exact ⟨firstAccepted, secondAccepted, isName, documentAccepted, appended, inside "em" isName,
    splicedHere.1⟩

end DocMarkup.Markup
