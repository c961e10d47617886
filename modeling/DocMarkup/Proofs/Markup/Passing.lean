import DocMarkup.Markup.Layout
import DocMarkup.Proofs.Markup.Piece

namespace DocMarkup.Markup

/-!
# Passing markup

Markup leads from the elements that are open before it to those that are open after
it. Markup is put together by writing one part after the other, which is not so for
tokens: a text that goes on in the next part becomes one token. Markup is accepted
exactly if it leads from no open element to none.
-/

/-- The names of open elements, innermost first. -/
abbrev OpenNames :=
  List (List Char)

/-- The open elements after a token, unless it closes another element than the innermost. -/
def openNames? (kind : TokenKind) (name : List Char) (opened : OpenNames) : Option OpenNames :=
  match kind with
  | .start => some (name :: opened)
  | .finish =>
      match opened with
      | innermost :: outer => if innermost = name then some outer else none
      | [] => none
  | _ => some opened

/-- The open elements after tokens. -/
def openNamesAfter? : OpenNames → List Token → Option OpenNames
  | opened, [] => some opened
  | opened, token :: rest =>
      (openNames? token.kind token.name opened).bind fun between => openNamesAfter? between rest

theorem openNamesAfter?_append
    (opened : OpenNames)
    (first second : List Token) :
    openNamesAfter? opened (first ++ second) =
      (openNamesAfter? opened first).bind fun between => openNamesAfter? between second := by
  induction first generalizing opened with
  | nil =>
      rfl
  | cons token rest inductionHypothesis =>
      simp only [List.cons_append, openNamesAfter?, inductionHypothesis, Option.bind_assoc]

/-- Elements that are open further outside stay open. -/
theorem openNamesAfter?_inside
    {opened left : OpenNames}
    {tokens : List Token}
    (leads : openNamesAfter? opened tokens = some left)
    (outer : OpenNames) :
    openNamesAfter? (opened ++ outer) tokens = some (left ++ outer) := by
  induction tokens generalizing opened with
  | nil =>
      obtain rfl := Option.some.inj leads
      rfl
  | cons token rest inductionHypothesis =>
      obtain ⟨between, leadsFirst, leadsRest⟩ := Option.bind_eq_some_iff.mp leads
      have leadsInside :
          openNames? token.kind token.name (opened ++ outer) = some (between ++ outer) := by
        unfold openNames? at leadsFirst ⊢
        cases kind : token.kind with
        | finish =>
            rw [kind] at leadsFirst
            cases opened with
            | nil =>
                simp at leadsFirst
            | cons innermost others =>
                simp only [List.cons_append] at leadsFirst ⊢
                split at leadsFirst
                next same =>
                  obtain rfl := Option.some.inj leadsFirst
                  rw [if_pos same]
                next =>
                  simp at leadsFirst
        | _ =>
            rw [kind] at leadsFirst
            obtain rfl := Option.some.inj leadsFirst
            rfl
      simp only [openNamesAfter?, leadsInside, Option.bind_some]
      exact inductionHypothesis leadsRest

/-- Texts that follow one another open and close nothing, be they one token or several. -/
theorem openNamesAfter?_mergeTexts
    (opened : OpenNames)
    (tokens : List Token) :
    openNamesAfter? opened (mergeTexts tokens) = openNamesAfter? opened tokens := by
  induction tokens generalizing opened with
  | nil =>
      rfl
  | cons token rest inductionHypothesis =>
      rw [mergeTexts]
      split
      next isText =>
        have skipsText :
            openNamesAfter? opened (prependText token.text (mergeTexts rest)) =
              openNamesAfter? opened (mergeTexts rest) := by
          unfold prependText
          split
          next same =>
            rw [same]
            rfl
          next =>
            rfl
        rw [skipsText, inductionHypothesis]
        simp only [openNamesAfter?, openNames?, isText, Option.bind_some]
      next =>
        simp only [openNamesAfter?, inductionHypothesis]

/-- Tokens that make up markup lead from some open elements to others; their texts are allowed. -/
structure Leads
    (allowed : List Char → Prop)
    (opened left : OpenNames)
    (markup : List Char)
    (tokens : List Token) :
    Prop where
  arePieces : ArePieces tokens
  makesUp : markupOf tokens = markup
  leads : openNamesAfter? opened tokens = some left
  areAllowed : ∀ token ∈ tokens, token.kind = .text → allowed token.text

namespace Leads

variable {allowed : List Char → Prop} {opened between left : OpenNames}
  {first second markup : List Char} {firstTokens secondTokens tokens : List Token}

theorem nil (opened : OpenNames) : Leads allowed opened opened [] [] where
  arePieces := .nil
  makesUp := rfl
  leads := rfl
  areAllowed := by simp

theorem append
    (firstLeads : Leads allowed opened between first firstTokens)
    (secondLeads : Leads allowed between left second secondTokens) :
    Leads allowed opened left (first ++ second) (firstTokens ++ secondTokens) where
  arePieces := firstLeads.arePieces.append secondLeads.arePieces
  makesUp := by
    rw [← firstLeads.makesUp, ← secondLeads.makesUp, markupOf, List.flatMap_append]
    rfl
  leads := by
    rw [openNamesAfter?_append, firstLeads.leads, Option.bind_some, secondLeads.leads]
  areAllowed := by
    intro token member
    rcases List.mem_append.mp member with inFirst | inSecond
    · exact firstLeads.areAllowed token inFirst
    · exact secondLeads.areAllowed token inSecond

theorem mono
    {wider : List Char → Prop}
    (widen : ∀ text, allowed text → wider text)
    (passes : Leads allowed opened left markup tokens) :
    Leads wider opened left markup tokens :=
  { passes with areAllowed := fun token member isText => widen _ (passes.areAllowed token member isText) }

/-- A text that is allowed leaves open what was open. -/
theorem ofText
    {text : List Char}
    (notEmpty : text ≠ [])
    (noBracket : '<' ∉ text)
    (isAllowed : allowed text)
    (opened : OpenNames) :
    Leads allowed opened opened text [.ofText text] where
  arePieces := .singleton (.ofText notEmpty noBracket)
  makesUp := by simp [markupOf, Token.ofText]
  leads := rfl
  areAllowed := by simpa [Token.ofText] using isAllowed

/-- A single construct. -/
theorem construct
    {shape : TokenShape}
    {body : List Char}
    (covers : shape.Covers body)
    (leads : openNames? shape.kind shape.name opened = some left) :
    Leads allowed opened left ('<' :: body) [⟨shape.kind, '<' :: body, shape.name⟩] where
  arePieces := .singleton (.construct covers)
  makesUp := by simp [markupOf]
  leads := by simp [openNamesAfter?, leads]
  areAllowed := by simp [covers.kind_ne_text]

end Leads

/-- Markup leads from some open elements to others, with texts that are allowed. -/
def Passes
    (allowed : List Char → Prop)
    (opened left : OpenNames)
    (markup : List Char) :
    Prop :=
  ∃ tokens, Leads allowed opened left markup tokens

/-- Any text. -/
def anyText (_ : List Char) : Prop :=
  True

/-- A text that only ends a line. -/
def lineEnd (text : List Char) : Prop :=
  text = ['\n']

namespace Passes

variable {allowed : List Char → Prop} {opened between left : OpenNames}
  {first second markup : List Char}

theorem nil (opened : OpenNames) : Passes allowed opened opened [] :=
  ⟨[], .nil opened⟩

/-- Two parts, of which the second goes on where the first ends. -/
theorem trans
    (firstPasses : Passes allowed opened between first)
    (secondPasses : Passes allowed between left second) :
    Passes allowed opened left (first ++ second) := by
  obtain ⟨_, firstLeads⟩ := firstPasses
  obtain ⟨_, secondLeads⟩ := secondPasses
  exact ⟨_, firstLeads.append secondLeads⟩

/-- The end of a line leaves open what was open. -/
theorem ofLineEnd (opened : OpenNames) : Passes lineEnd opened opened ['\n'] := by
  have isLineEnd : lineEnd ['\n'] := rfl
  exact ⟨_, .ofText (by simp) (by decide) isLineEnd opened⟩

/-- A single construct. -/
theorem single
    {shape : TokenShape}
    {body : List Char}
    (covers : shape.Covers body)
    (leads : openNames? shape.kind shape.name opened = some left) :
    Passes allowed opened left ('<' :: body) :=
  ⟨_, .construct covers leads⟩

/-- A single tag. -/
theorem ofTag
    {token : Token}
    (isPiece : token.IsPiece)
    (notText : token.kind ≠ .text)
    (leads : openNames? token.kind token.name opened = some left) :
    Passes allowed opened left token.text := by
  cases isPiece with
  | ofText => exact (notText rfl).elim
  | construct covers => exact single covers leads

/-- Markup passes inside any further open elements. -/
theorem inside
    (passes : Passes allowed opened left markup)
    (outer : OpenNames) :
    Passes allowed (opened ++ outer) (left ++ outer) markup := by
  obtain ⟨tokens, leads⟩ := passes
  exact ⟨tokens, { leads with leads := openNamesAfter?_inside leads.leads outer }⟩

end Passes

/-- A tree is built from tokens exactly if they close all that is open and nothing else. -/
theorem exists_buildFrom_iff
    (offset : Nat)
    (opened : List OpenNode)
    (nodes : List Node)
    (tokens : List Token) :
    (∃ tree, buildFrom offset opened nodes tokens = .ok tree) ↔
      openNamesAfter? (opened.map OpenNode.name) tokens = some [] := by
  induction tokens generalizing offset opened nodes with
  | nil =>
      cases opened with
      | nil =>
          simp [buildFrom, openNamesAfter?]
      | cons innermost outer =>
          simp [buildFrom, openNamesAfter?]
  | cons token rest inductionHypothesis =>
      unfold buildFrom openNamesAfter? openNames?
      cases kind : token.kind with
      | start =>
          simpa [kind] using
            inductionHypothesis _ (⟨token.name, token.text, nodes⟩ :: opened) []
      | finish =>
          cases opened with
          | nil =>
              simp [kind]
          | cons innermost outer =>
              by_cases same : innermost.name = token.name
              · simpa [kind, same] using inductionHypothesis _ outer _
              · simp [kind, same]
      | _ =>
          simpa [kind] using inductionHypothesis _ opened _

section Tokenize

variable {markup : List Char}

/-- Markup has tokens if it is read to its end. -/
theorem tokenize_eq_ok_iff {tokens : List Token} :
    tokenize markup = .ok tokens ↔ readTokens 0 markup = (tokens, none) := by
  unfold tokenize
  split
  next read => simp [read]
  next read => simp [read]

/-- Markup has no tokens if something stops the reading, whatever was read before. -/
theorem tokenize_eq_error_iff {fault : MarkupFault} :
    tokenize markup = .error fault ↔ ∃ tokens, readTokens 0 markup = (tokens, some fault) := by
  unfold tokenize
  split
  next read => simp [read]
  next read => simp [read]

end Tokenize

/-- Markup that is put together from pieces has the tokens that the pieces become. -/
theorem tokenize_markupOf
    {tokens : List Token}
    (arePieces : ArePieces tokens) :
    tokenize (markupOf tokens) = .ok (mergeTexts tokens) :=
  tokenize_eq_ok_iff.mpr (readTokens_markupOf 0 arePieces)

/-- The tokens of markup are pieces that make it up. -/
theorem arePieces_of_tokenize
    {markup : List Char}
    {tokens : List Token}
    (read : tokenize markup = .ok tokens) :
    ArePieces tokens ∧ markupOf tokens = markup :=
  arePieces_of_readTokens (tokenize_eq_ok_iff.mp read)

/-- Markup gives a tree exactly if it leads from no open element to none. -/
theorem exists_parseTree_iff (markup : List Char) :
    (∃ tree, parseTree markup = .ok tree) ↔ Passes anyText [] [] markup := by
  unfold parseTree
  constructor
  · rintro ⟨tree, parsed⟩
    split at parsed
    · simp at parsed
    next tokens read =>
      obtain ⟨arePieces, same⟩ := arePieces_of_tokenize read
      exact ⟨tokens,
        { arePieces := arePieces
          makesUp := same
          leads := (exists_buildFrom_iff 0 [] [] tokens).mp ⟨_, parsed⟩
          areAllowed := fun _ _ _ => trivial }⟩
  · rintro ⟨tokens, leads⟩
    rw [← leads.makesUp, tokenize_markupOf leads.arePieces]
    refine (exists_buildFrom_iff 0 [] [] _).mpr ?_
    rw [List.map_nil, openNamesAfter?_mergeTexts, leads.leads]

/-- Markup is found to be balanced exactly if it leads from no open element to none. -/
theorem findError?_eq_none_iff (markup : String) :
    findError? markup = none ↔ Passes anyText [] [] markup.toList := by
  rw [← exists_parseTree_iff]
  unfold findError?
  cases parseTree markup.toList <;> simp

/-- Markup that leads from no open element to none can be laid out. -/
theorem exists_layOut
    (layout : Layout)
    {markup : String}
    (passes : Passes anyText [] [] markup.toList) :
    ∃ output, layOut layout markup = .ok output := by
  obtain ⟨tree, parsed⟩ := (exists_parseTree_iff _).mpr passes
  unfold layOut
  rw [parsed]
  exact ⟨_, rfl⟩

end DocMarkup.Markup
