import DocMarkup.Grammar.Expansion
import DocMarkup.Grammar.Lookahead

namespace DocMarkup

/-!
# Phrases

A phrase is text with styles, links, images, code and calls. What looks like a
construct but is none stays text: an opening bracket that starts nothing is
counted, so that the bracket closing it is text as well.
-/

namespace Cursor

/-- The element of a style, by its mark. -/
def styleElement? (mark : Char) : Option String :=
  if mark == '*' then
    some "bold"
  else if mark == Text.singleQuote then
    some "italic"
  else if mark == '_' then
    some "underline"
  else if mark == '^' then
    some "teletype"
  else if mark == '-' then
    some "strikethrough"
  else if mark == '~' then
    some "replaceable"
  else
    none

/-- Read the bracket and the mark that open a style. -/
def style? (cursor : Cursor) : Option (String × Cursor) :=
  match cursor.rest with
  | '[' :: mark :: _ => (styleElement? mark).map fun name => (name, cursor.advance 2)
  | _ => none

/-- Characters of the target of a link. -/
def isTargetCharacter (character : Char) : Bool :=
  !(Text.isBlank character || character == ']')

/-- Read the front of a link to another document, through its target. -/
def url? (cursor : Cursor) : Option (String × Cursor) :=
  (cursor.literal? "[@").bind fun next => next.runOf? isTargetCharacter

/-- Read the front of a link inside the document, through its target. -/
def link? (cursor : Cursor) : Option (String × Cursor) :=
  ((cursor.literal? "[link").bind gap?).bind fun next => next.runOf? isTargetCharacter

/-- Read an anchor, and give its identifier. -/
def anchor? (cursor : Cursor) : Option (String × Cursor) :=
  match (cursor.literal? "[#").bind fun next => next.runOf? isTargetCharacter with
  | some (identifier, next) =>
      next.skipHorizontal.close?.map fun afterBracket => (identifier, afterBracket)
  | none => none

/-- The file of an image without the blanks around it; of nothing but blanks it is the last. -/
def imageFile? (content : List Char) : Option (List Char) :=
  let front := content.dropWhile Text.isHorizontal
  if front.isEmpty then
    content.getLast?.map fun blank => [blank]
  else
    some (front.reverse.dropWhile Text.isHorizontal).reverse

/-- Read an image, and give its file. -/
def image? (cursor : Cursor) : Option (String × Cursor) :=
  match cursor.literal? "[$" with
  | some next =>
      let content := next.run fun character => character != ']'
      match imageFile? content, (next.advance content.length).close? with
      | some file, some afterBracket => some (String.ofList file, afterBracket)
      | _, _ => none
  | none => none

/-- Read a line break. -/
def lineBreak? (cursor : Cursor) : Option Cursor :=
  (cursor.literal? "[br").bind fun next => next.skipHorizontal.close?

/-- Read the front of a conditional phrase, and give the name of its macro. -/
def conditional? (cursor : Cursor) : Option (String × Cursor) :=
  (cursor.literal? "[?").bind fun next => next.skipHorizontal.name?

/-- Read a comment. -/
def comment? (cursor : Cursor) : Option Cursor :=
  ((cursor.literal? "[/").bind balancedThrough?).map (·.2)

/-- The distance to the next two code quotes. -/
def distanceToCodeQuotes? : List Char → Option Nat
  | first :: rest =>
      if first == codeQuote && rest.head? == some codeQuote then
        some 0
      else
        (distanceToCodeQuotes? rest).map (· + 1)
  | [] => none

/-- Read code between two pairs of quotes; at least one character stands between them. -/
def doublyQuotedCode? (cursor : Cursor) : Option (String × Cursor) :=
  match cursor.rest with
  | first :: second :: character :: rest =>
      if first == codeQuote && second == codeQuote then
        (distanceToCodeQuotes? rest).map fun length =>
          (String.ofList (character :: rest.take length), cursor.advance (length + 5))
      else
        none
  | _ => none

/-- Read code between two quotes in one line. -/
def singlyQuotedCode? (cursor : Cursor) : Option (String × Cursor) :=
  match cursor.character? codeQuote with
  | some next =>
      match next.runOf? fun character => character != codeQuote && character != '\n' with
      | some (code, atQuote) =>
          (atQuote.character? codeQuote).map fun afterQuote => (code, afterQuote)
      | none => none
  | none => none

/-- Read code inside a line. -/
def inlineCode? (cursor : Cursor) : Option (String × Cursor) :=
  cursor.doublyQuotedCode?.or cursor.singlyQuotedCode?

/-- Read markup between three quotes and the next three. -/
def rawEscape? (cursor : Cursor) : Option (String × Cursor) :=
  if escapeQuotes.isPrefixOf cursor.rest then
    let content := cursor.rest.drop 3
    (distanceToQuotes? content).map fun length =>
      (String.ofList (content.take length), cursor.advance (length + 6))
  else
    none

end Cursor

namespace Phrase

open Compile

/--
Read a phrase up to the bracket that closes it, and give the cursor at that
bracket. If the phrase may not be nested any deeper, its text is skipped.
-/
def nested (inner : Inner) : Rule := fun cursor => do
  if ← isKnownUnclosed cursor then
    return none
  else if ← enterPhrase cursor then
    let (closed, next) ← thenAlways (inner.phrase .bracketed cursor) leavePhrase
    if closed then
      return some next
    else
      rememberUnclosed cursor
      return none
  else
    match cursor.balanced? with
    | some (_, next) => return some next
    | none =>
        rememberUnclosed cursor
        return none

/-- Read the phrase inside an element, and the bracket that closes the element. -/
def bracketed (inner : Inner) (name : String) (attributes : List Attribute := []) : Rule :=
  fun cursor => do
    update fun state => state.startElement name attributes
    match ← nested inner cursor with
    | none => return none
    | some next =>
        update fun state => state.endElement name
        return next.close?

/-- Read the content of a link; a link without content shows its target. -/
def linked (inner : Inner) (name key target : String) : Rule := fun cursor => do
  let content := cursor.skipBlank
  if content.isBefore ']' then
    update fun state =>
      ((state.startElement name [(key, target)]).text target).endElement name
    return content.close?
  else
    bracketed inner name [(key, target)] content

/-- A comment. -/
def comment : Rule := fun cursor =>
  return cursor.comment?

/-- A phrase in a style. -/
def styled (inner : Inner) : Rule := fun cursor =>
  match cursor.style? with
  | some (name, next) => bracketed inner name [] next
  | none => return none

/-- A link to another document. -/
def url (inner : Inner) : Rule := fun cursor =>
  match cursor.url? with
  | some (target, next) => linked inner "ulink" "url" target next
  | none => return none

/-- A link inside the document. -/
def link (inner : Inner) : Rule := fun cursor =>
  match cursor.link? with
  | some (target, next) => linked inner "link" "linkend" target next
  | none => return none

/-- An anchor. -/
def anchor : Rule := fun cursor =>
  match cursor.anchor? with
  | some (identifier, next) => do
      update fun state => state.element "anchor" [("id", identifier)]
      return some next
  | none => return none

/-- An image. -/
def image : Rule := fun cursor =>
  match cursor.image? with
  | some (file, next) => do
      update fun state => state.image file
      return some next
  | none => return none

/-- A footnote. -/
def footnote (inner : Inner) : Rule := fun cursor =>
  match cursor.keyword? "[footnote" with
  | some next => bracketed inner "footnote" [] next.skipBlank
  | none => return none

/-- A line break. -/
def lineBreak : Rule := fun cursor =>
  match cursor.lineBreak? with
  | some next => do
      update fun state => state.element "linebreak"
      return some next
  | none => return none

/-- A phrase that is shown if its macro is defined. -/
def conditional (inner : Inner) : Rule := fun cursor =>
  match cursor.conditional? with
  | none => return none
  | some (name, afterName) => do
      let content := afterName.skipHorizontal
      if (← state).macros.contains name then
        match ← nested inner content with
        | some next => return next.close?
        | none => return none
      else
        return content.balancedThrough?.map (·.2)

/-- A call of a template; a name that stands for none is an error. -/
def templateCall (inner : Inner) : Rule := fun cursor =>
  match cursor.templateCall? with
  | none => return none
  | some (name, afterName) =>
      match afterName.balancedThrough? with
      | none => return none
      | some (arguments, next) => do
          match (← state).templates.find? name with
          | none => keepUndefined cursor.position name (cursor.textUntil next)
          | some template => invokeTemplate inner cursor.position template arguments
          return some next

/-- Everything that an opening bracket may start in a phrase. -/
def elements (inner : Inner) : List Rule :=
  [comment, styled inner, url inner, link inner, anchor, image, footnote inner, lineBreak,
    conditional inner, templateCall inner]

/-- Code inside a line. -/
def inlineCode : Rule := fun cursor =>
  match cursor.inlineCode? with
  | some (code, next) => do
      update fun state => state.inlineCode code
      return some next
  | none => return none

/-- Markup that is passed through as it stands. -/
def rawEscape : Rule := fun cursor =>
  match cursor.rawEscape? with
  | some (content, next) => do
      update fun state => state.raw (some cursor.position) content
      return some next
  | none => return none

/-- Everything that a quote may start in a phrase. -/
def quotations : List Rule :=
  [inlineCode, rawEscape]

/-- Whether a word starts at a cursor, rather than going on. -/
def startsWord (cursor : Cursor) : Bool :=
  match cursor.previous? with
  | some character => !Text.isWordCharacter character
  | none => true

/-- Add collected text to the output. -/
def flush (buffer : String) : Compile Unit :=
  update fun state => state.text buffer

/-- Go on after a name: a macro is expanded if the name is a whole word. -/
def name
    (inner : Inner)
    (mode : PhraseMode)
    (depth : Nat)
    (buffer : String)
    (cursor : Cursor)
    (word : String)
    (next : Cursor) :
    Compile (Bool × Cursor) := do
  if (← state).macros.contains word && startsWord cursor then
    flush buffer
    expandMacro inner cursor.position word
    inner.phraseFrom mode depth "" next
  else
    inner.phraseFrom mode depth (buffer ++ word) next

/-- Whether a phrase stops at a line feed. -/
def stopsAtLineFeed (mode : PhraseMode) (cursor : Cursor) : Compile Bool := do
  if mode == .paragraph || mode == .listItem then
    let line := (cursor.advance 1).restOfLine
    return !lineContinues (← state).templates mode line
  else
    return false

/-- Go on after text that means nothing: a run of plain characters, or the next character. -/
def plain
    (inner : Inner)
    (mode : PhraseMode)
    (depth : Nat)
    (buffer : String)
    (cursor : Cursor)
    (first : Char) :
    Compile (Bool × Cursor) :=
  match cursor.plainRun? with
  | some (run, next) => inner.phraseFrom mode depth (buffer ++ run) next
  | none => inner.phraseFrom mode depth (buffer.push first) (cursor.advance 1)

/--
One step of a phrase: its end, or what comes next and then the rest of it. The
number of brackets that are only text and the text collected so far are given.
-/
def step
    (inner : Inner)
    (mode : PhraseMode)
    (depth : Nat)
    (buffer : String)
    (cursor : Cursor) :
    Compile (Bool × Cursor) := do
  match cursor.rest with
  | [] =>
      flush buffer
      return (mode != .bracketed, cursor)
  | first :: rest =>
      if first == ']' then
        if depth = 0 then
          flush buffer
          return (true, cursor)
        else
          inner.phraseFrom mode (depth - 1) (buffer.push first) (cursor.advance 1)
      else if first == '\n' then
        if ← stopsAtLineFeed mode cursor then
          flush buffer
          return (true, cursor)
        else
          inner.phraseFrom mode depth (buffer.push first) (cursor.advance 1)
      else if first == '[' then
        flush buffer
        match ← firstOf (elements inner) cursor with
        | some next => inner.phraseFrom mode depth "" next
        | none => inner.phraseFrom mode (depth + 1) (String.singleton first) (cursor.advance 1)
      else if first == '\\' then
        inner.phraseFrom mode depth (buffer.push (rest.headD '\\')) (cursor.advance 2)
      else if first == codeQuote || escapeQuotes.isPrefixOf cursor.rest then
        flush buffer
        match ← firstOf quotations cursor with
        | some next => inner.phraseFrom mode depth "" next
        | none => inner.phraseFrom mode depth (String.singleton first) (cursor.advance 1)
      else
        match cursor.name? with
        | some (word, next) => name inner mode depth buffer cursor word next
        | none => plain inner mode depth buffer cursor first

end Phrase

end DocMarkup
