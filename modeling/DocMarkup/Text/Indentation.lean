import DocMarkup.Text.Blank

namespace DocMarkup.Text

/-!
# Indentation

Code given by indentation loses the margin that all its lines share: the
longest run of spaces and tabs that every line with other characters starts
with. Lines of spaces and tabs alone become empty. In lists, indentation is
compared by width, with tab stops every four columns.
-/

/-- The distance between tab stops. -/
def tabStop : Nat :=
  4

/-- The width that blanks take, from a column on. -/
def blankWidth : Nat → List Char → Nat
  | column, [] => column
  | column, character :: rest =>
      if character == '\t' then
        blankWidth (column + (tabStop - column % tabStop)) rest
      else
        blankWidth (column + 1) rest

/-- A line without any character but spaces and tabs. -/
def isBlankLine (line : List Char) : Bool :=
  line.all isHorizontal

/-- The longest common start of two texts. -/
def commonStart : List Char → List Char → List Char
  | first :: firstRest, second :: secondRest =>
      if first == second then first :: commonStart firstRest secondRest else []
  | _, _ => []

/-- The margin shared by the lines that are not blank. -/
def sharedMargin (textLines : List (List Char)) : List Char :=
  match (textLines.filter fun line => !isBlankLine line).map (·.takeWhile isHorizontal) with
  | [] => []
  | margin :: margins => margins.foldl commonStart margin

/-- Empty the blank lines and take the shared margin off the others. -/
def dedentLines (textLines : List (List Char)) : List (List Char) :=
  let margin := sharedMargin textLines
  textLines.map fun line => if isBlankLine line then [] else line.drop margin.length

end DocMarkup.Text
