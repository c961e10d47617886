import DocMarkup.Grammar.Code
import DocMarkup.Grammar.Listing
import DocMarkup.Grammar.Table

namespace DocMarkup

/-!
# Blocks

Blocks follow one another, with blank lines between them. A block in brackets
must end its line, or the block around it. What starts no other block is a
paragraph; only a closing bracket that nothing opened cannot be read.
-/

namespace Cursor

/-- Read the bracket that closes a section. -/
def sectionEnd? (cursor : Cursor) : Option Cursor :=
  (cursor.literal? "[endsect").bind fun next => next.skipHorizontal.close?

/-- The keywords of headings, with the level that each one gives. -/
def headingKeywords : List (String × Option Int) :=
  [("[h1", some 1), ("[h2", some 2), ("[h3", some 3), ("[h4", some 4), ("[h5", some 5),
    ("[h6", some 6), ("[heading", none)]

/-- Read the front of a heading, and give its level. -/
def heading? (cursor : Cursor) : Option (Option Int × Cursor) :=
  headingKeywords.findSome? fun (keyword, level) =>
    (cursor.keyword? keyword).map fun next => (level, next)

/-- Read the front of the definition of a macro, through its name. -/
def macroHead? (cursor : Cursor) : Option (String × Cursor) :=
  (((cursor.literal? "[def").bind gap?).bind name?).filter fun (_, next) =>
    next.isAfterKeyword

/-- Read the front of the definition of a template, through its name. -/
def templateHead? (cursor : Cursor) : Option (String × Cursor) :=
  (((cursor.literal? "[template").bind gap?).bind name?).filter fun (_, next) =>
    next.isAfterKeyword || next.isBefore '['

/-- Read the parameters of a template; a bracket with anything but names belongs to the body. -/
def templateParams (cursor : Cursor) : List String × Cursor :=
  match cursor.skipHorizontal.character? '[' with
  | none => ([], cursor)
  | some inside =>
      let content := inside.run fun character => !(character == '[' || character == ']')
      let names := Text.words content
      match (inside.advance content.length).close? with
      | some next =>
          if names.all Text.isName then (names.map String.ofList, next) else ([], cursor)
      | none => ([], cursor)

/-- Read the front of an inclusion, and give the identifier that the file is to have. -/
def inclusionHead? (cursor : Cursor) : Option (Option String × Cursor) :=
  match (cursor.literal? "[include").bind givenId? with
  | some (given, afterId) => afterId.gap?.map fun next => (given, next)
  | none => none

/-- Read the file name of an inclusion, and the bracket behind it. -/
def fileName? (cursor : Cursor) : Option (String × Cursor) :=
  (cursor.balancedThrough?.map fun (content, next) => (Text.trimmed content, next)).filter
    fun (name, _) => !name.isEmpty

/-- Elements that draw attention to a remark, or set it apart. -/
def admonitionNames : List String :=
  ["note", "tip", "important", "caution", "warning", "blurb"]

/-- Read the front of an admonition, and give its element. -/
def admonition? (cursor : Cursor) : Option (String × Cursor) :=
  admonitionNames.findSome? fun name =>
    (cursor.keyword? ("[" ++ name)).map fun next => (name, next)

end Cursor

namespace Block

open Compile

/-- A comment. -/
def comment : Rule := fun cursor =>
  return cursor.comment?

/-- The start of a section with its title; sections do not start inside other blocks. -/
def sectionStart (inner : Inner) : Rule := fun cursor => do
  if (← state).isInNestedBlock then
    return none
  else
    match cursor.keywordWithId? "[section" with
    | none => return none
    | some (given, afterKeyword) =>
        let content := afterKeyword.skipHorizontal
        match content.balanced? with
        | none => return none
        | some (title, _) =>
            update fun state => state.beginSection given title
            match ← Phrase.nested inner content with
            | none => return none
            | some next =>
                update fun state => state.endSectionTitle
                return next.close?

/-- The end of a section. -/
def sectionEnd : Rule := fun cursor => do
  if (← state).isInNestedBlock then
    return none
  else
    match cursor.sectionEnd? with
    | none => return none
    | some next =>
        closeSection cursor.position
        return some next

/-- A heading that starts no section. -/
def heading (inner : Inner) : Rule := fun cursor => do
  match cursor.heading? with
  | none => return none
  | some (level, afterKeyword) =>
      let content := afterKeyword.skipHorizontal
      match content.balanced? with
      | none => return none
      | some (title, _) =>
          update fun state => state.beginHeading level title
          match ← Phrase.nested inner content with
          | none => return none
          | some next =>
              update fun state => state.endHeading
              return next.close?

/-- The definition of a macro. -/
def macroDefinition : Rule := fun cursor => do
  match cursor.macroHead? with
  | none => return none
  | some (name, afterName) =>
      match afterName.balancedThrough? with
      | none => return none
      | some (body, next) =>
          update fun state => state.defineMacro cursor.position name (Text.trimmed body)
          return some next

/-- A template with the given body, which is a block if it starts on a line of its own. -/
def templateOf (name : String) (params : List String) (body : String) : Template :=
  match body.toList.dropWhile Text.isHorizontal with
  | '\n' :: rest => { name := name, params := params, body := String.ofList rest, block := true }
  | characters => { name := name, params := params, body := String.ofList characters }

/-- The definition of a template. -/
def templateDefinition : Rule := fun cursor => do
  match cursor.templateHead? with
  | none => return none
  | some (name, afterName) =>
      let (params, bodyStart) := afterName.templateParams
      match bodyStart.balancedThrough? with
      | none => return none
      | some (body, next) =>
          update fun state =>
            state.defineTemplate cursor.position (templateOf name params body)
          return some next

/-- The inclusion of a file. -/
def inclusion (inner : Inner) : Rule := fun cursor => do
  match cursor.inclusionHead? with
  | none => return none
  | some (given, afterHead) =>
      match afterHead.fileName? with
      | none => return none
      | some (name, next) =>
          inner.includeFile cursor.position name given
          return some next

/-- The reference to a document that is included when the output is processed. -/
def externalInclusion : Rule := fun cursor => do
  match (cursor.literal? "[xinclude").bind Cursor.gap? with
  | none => return none
  | some afterHead =>
      match afterHead.fileName? with
      | none => return none
      | some (name, next) =>
          update fun state => state.externalInclusion name
          return some next

/-- Blocks inside an element, and the bracket that closes it. -/
def nestedBlocks (inner : Inner) (name : String) : Rule := fun cursor => do
  update fun state => state.beginNestedBlock name
  let next ← inner.blocks true cursor
  match next.close? with
  | none => return none
  | some after =>
      update fun state => state.endNestedBlock name
      return some after

/-- An admonition. -/
def admonition (inner : Inner) : Rule := fun cursor =>
  match cursor.admonition? with
  | some (name, next) => nestedBlocks inner name next
  | none => return none

/-- A block quote. -/
def quotation (inner : Inner) : Rule := fun cursor =>
  match cursor.literal? "[:" with
  | some next => nestedBlocks inner "blockquote" next
  | none => return none

/-- A phrase whose line ends are kept. -/
def preformatted (inner : Inner) : Rule := fun cursor => do
  match cursor.keyword? "[pre" with
  | none => return none
  | some afterKeyword =>
      update fun state => state.startElement "programlisting"
      match ← Phrase.nested inner afterKeyword.skipHorizontal.skipLineFeed with
      | none => return none
      | some next =>
          update fun state => state.endElement "programlisting"
          return next.close?

/-- A call of a block template. -/
def templateCall (inner : Inner) : Rule := fun cursor => do
  match cursor.templateCall? with
  | none => return none
  | some (name, afterName) =>
      match (← state).templates.find? name with
      | none => return none
      | some template =>
          if template.block then
            match afterName.balancedThrough? with
            | none => return none
            | some (arguments, next) =>
                invokeTemplate inner cursor.position template arguments true
                return some next
          else
            return none

/-- Everything that an opening bracket may start where a block may stand. -/
def elements (inner : Inner) : List Rule :=
  [comment, sectionStart inner, sectionEnd, heading inner, macroDefinition, templateDefinition,
    inclusion inner, externalInclusion, admonition inner, quotation inner, preformatted inner,
    Table.rule inner, Table.variableList inner, templateCall inner]

/-- A block in brackets, with the rest of its line, which must be blank or close what is around. -/
def element (inner : Inner) (nested : Bool) : Rule := fun cursor => do
  if cursor.isBefore '[' then
    match ← firstOf (elements inner) cursor with
    | none => return none
    | some next =>
        let lineRest := next.skipHorizontal
        match lineRest.lineEnd? with
        | some nextLine => return some nextLine
        | none => return if nested && lineRest.isBefore ']' then some lineRest else none
  else
    return none

/-- Whether fenced code may start at a cursor: at the start of a line or after a blank. -/
def mayStartFence (cursor : Cursor) : Bool :=
  cursor.isAtLineStart || cursor.previous?.any Text.isHorizontal

/-- Code between fences. -/
def fencedCode : Rule := fun cursor => do
  if mayStartFence cursor then
    match cursor.fencedCode? with
    | none => return none
    | some (code, next) =>
        update fun state => state.codeBlock code
        return some next
  else
    return none

/-- Code told by its indentation. -/
def indentedCode : Rule := fun cursor => do
  match cursor.indentedCode? with
  | none => return none
  | some (code, next) =>
      update fun state => state.codeBlock code
      return some next

/-- A paragraph, which must not be empty. -/
def paragraph (inner : Inner) : Rule := fun cursor => do
  update fun state => state.beginParagraph
  let (_, next) ← inner.phrase .paragraph cursor
  if next.offset = cursor.offset then
    return none
  else
    update fun state => state.endParagraph
    return some next.skipLineFeed

/-- Everything that may stand where a block may stand; indented code only outside other blocks. -/
def rules (inner : Inner) (nested : Bool) : List Rule :=
  [element inner nested, fencedCode, Listing.rule inner] ++
    (if nested then [] else [indentedCode]) ++ [paragraph inner]

/-- One block or blank line and those behind it, up to what no block starts with. -/
def step (inner : Inner) (nested : Bool) (cursor : Cursor) : Compile Cursor := do
  if cursor.isAtEnd then
    return cursor
  else
    let start := if nested then cursor.skipHorizontal else cursor
    if nested && start.isBefore ']' then
      return start
    else
      match start.blankLine? with
      | some next => inner.blocks nested next
      | none =>
          match ← firstOf (rules inner nested) start with
          | some next => inner.blocks nested next
          | none => return start

end Block

end DocMarkup
