import DocMarkup.Compiler.Output
import DocMarkup.Grammar.Lookahead
import DocMarkup.Text.Indentation

namespace DocMarkup

/-!
# Blocks of code

Code stands between fences or is told by its indentation. Fenced code is kept as
it is up to the first line that holds nothing but a fence. Indented code goes on
over blank lines, and those at its end do not belong to it.
-/

namespace Cursor

/-- Characters of the language named behind a fence. -/
def isLanguageCharacter (character : Char) : Bool :=
  Text.isWordCharacter character || character == '+' || character == '#' ||
    character == '.' || character == '-'

/-- Read the line that opens a fence. -/
def fenceOpening? (cursor : Cursor) : Option Cursor :=
  if fence.isPrefixOf cursor.rest then
    let language := (cursor.advance fence.length).skipHorizontal
    (language.skip isLanguageCharacter).skipHorizontal.character? '\n'
  else
    none

/-- Whether a line holds a fence and blanks only. -/
def isFenceLine (line : List Char) : Bool :=
  let front := line.dropWhile Text.isHorizontal
  fence.isPrefixOf front && (front.drop fence.length).all Text.isHorizontal

/-- The lines before the first line that closes a fence, and that line. -/
def linesBeforeFence? : List (List Char) → Option (List (List Char) × List Char)
  | [] => none
  | line :: rest =>
      if isFenceLine line then
        some ([], line)
      else
        (linesBeforeFence? rest).map fun (before, closing) => (line :: before, closing)

/-- The number of characters in lines, each with its line feed. -/
def lengthOfLines : List (List Char) → Nat
  | [] => 0
  | line :: rest => line.length + 1 + lengthOfLines rest

/-- Read code between fences. -/
def fencedCode? (cursor : Cursor) : Option (String × Cursor) :=
  match cursor.fenceOpening? with
  | none => none
  | some content =>
      (linesBeforeFence? (Text.lines content.rest)).map fun (before, closing) =>
        (String.ofList (Text.unlines before),
          (content.advance (lengthOfLines before + closing.length)).skipLineFeed)

/-- Whether a line belongs to indented code: it is blank or starts with a space or a tab. -/
def continuesCode (line : List Char) : Bool :=
  line.all Text.isBlank || line.head?.any Text.isHorizontal

/-- Drop the blank lines at the end. -/
def withoutFinalBlanks (textLines : List (List Char)) : List (List Char) :=
  (textLines.reverse.dropWhile fun line => line.all Text.isBlank).reverse

/-- Read code told by its indentation, with the blank lines behind it. -/
def indentedCode? (cursor : Cursor) : Option (String × Cursor) :=
  if cursor.isAtLineStart && cursor.rest.head?.any Text.isHorizontal then
    let taken := (Text.lines cursor.rest).takeWhile continuesCode
    let code := withoutFinalBlanks taken
    if code.isEmpty then
      none
    else
      some
        (String.ofList (Text.unlines (Text.dedentLines code)),
          cursor.advance (lengthOfLines taken))
  else
    none

end Cursor

end DocMarkup
