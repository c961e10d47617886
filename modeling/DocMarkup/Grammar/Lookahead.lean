import DocMarkup.Compiler.State
import DocMarkup.Bracket
import DocMarkup.Grammar.Inner

namespace DocMarkup

/-!
# Looking ahead

A paragraph goes on from line to line until a blank line or a line that starts a
block: a list item, fenced code, a block construct, a comment, or a call of a
block template. What starts a block is told from the line alone.
-/

/-- The front of a list item. -/
structure ListMarker where
  indent : List Char
  ordered : Bool
  length : Nat
deriving DecidableEq, Repr

/-- Blanks, a star or a number sign, and at least one blank. -/
def listMarker? (characters : List Char) : Option ListMarker :=
  let indent := characters.takeWhile Text.isHorizontal
  match characters.drop indent.length with
  | marker :: rest =>
      let blanks := Text.runLength Text.isHorizontal rest
      if (marker == '*' || marker == '#') && blanks != 0 then
        some
          { indent := indent
            ordered := marker == '#'
            length := indent.length + 1 + blanks }
      else
        none
  | [] => none

/-- The quotes around code. -/
def codeQuote : Char :=
  Char.ofNat 96

/-- The quotes of a code fence. -/
def fence : List Char :=
  List.replicate 3 codeQuote

/-- Words that start a block construct, of which some may be followed by a colon. -/
def blockKeywords : List String :=
  ["section", "endsect", "h1", "h2", "h3", "h4", "h5", "h6", "heading", "def", "template",
    "include", "xinclude", "note", "tip", "important", "caution", "warning", "blurb", "pre",
    "table", "variablelist"]

/-- Whether a keyword stands at the front of a text and ends there. -/
def startsWithBlockKeyword (characters : List Char) : Bool :=
  blockKeywords.any fun keyword =>
    keyword.toList.isPrefixOf characters &&
      match characters.drop keyword.length with
      | next :: _ => Text.isBlank next || next == ':' || next == ']'
      | [] => false

/-- The name of a template call whose bracket was just opened. -/
def calledName? (characters : List Char) : Option String :=
  match characters with
  | first :: rest =>
      let name := first :: rest.takeWhile Text.isNameCharacter
      match characters.drop name.length with
      | next :: _ =>
          if Text.isNameStart first && (Text.isBlank next || next == ']') then
            some (String.ofList name)
          else
            none
      | [] => none
  | [] => none

/-- Whether a line without the blanks before it starts a block in brackets. -/
def startsBlock (templates : TemplateTable) (line : List Char) : Bool :=
  match line with
  | '[' :: content =>
      content.head? == some ':' || content.head? == some '/' ||
        startsWithBlockKeyword content ||
        match (calledName? content).bind templates.find? with
        | some template => template.block
        | none => false
  | _ => false

/-- Whether a phrase goes on with the line after the line feed at a cursor. -/
def lineContinues (templates : TemplateTable) (mode : PhraseMode) (line : List Char) : Bool :=
  let unindented := line.dropWhile Text.isHorizontal
  let startsItem :=
    match listMarker? line with
    | some marker => marker.indent.isEmpty || mode == .listItem
    | none => false
  !(unindented.isEmpty || startsItem || fence.isPrefixOf unindented ||
    startsBlock templates unindented)

namespace Cursor

/-- Characters that mean nothing in a phrase. -/
def isPlain (character : Char) : Bool :=
  !(character == '[' || character == ']' || character == '\\' || character == codeQuote ||
    character == Text.singleQuote || character == '\n' || character.isAlpha ||
    character == '_')

/-- Read characters that mean nothing in a phrase. -/
def plainRun? (cursor : Cursor) : Option (String × Cursor) :=
  cursor.runOf? isPlain

/-- Read the front of a list item. -/
def listMarker? (cursor : Cursor) : Option (ListMarker × Cursor) :=
  (DocMarkup.listMarker? cursor.rest).map fun marker => (marker, cursor.advance marker.length)

/-- Read the opening bracket and the name of a template call. -/
def templateCall? (cursor : Cursor) : Option (String × Cursor) :=
  match cursor.rest with
  | '[' :: content =>
      (calledName? content).map fun name => (name, cursor.advance (name.length + 1))
  | _ => none

end Cursor

end DocMarkup
