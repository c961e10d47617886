import DocMarkup.Source
import DocMarkup.Text.Blank
import DocMarkup.Text.Quoted
import DocMarkup.Text.Word

namespace DocMarkup

/-!
# Cursors

A cursor is a place in a source together with the characters that remain to be
read from there and those before it. Reading makes a new cursor and leaves the
old one as it was, so an attempt that fails needs no rewinding.
-/

/-- A place in a source, the text before it, last character first, and the text from it on. -/
structure Cursor where
  source : Source
  offset : Nat
  before : List Char
  rest : List Char
  before_eq : before = (source.text.toList.take offset).reverse
  rest_eq : rest = source.text.toList.drop offset

/-- The cursor at an offset of a source. -/
def Source.cursorAt (source : Source) (offset : Nat) : Cursor :=
  { source := source
    offset := offset
    before := (source.text.toList.take offset).reverse
    rest := source.text.toList.drop offset
    before_eq := rfl
    rest_eq := rfl }

/-- The cursor at the front of a source. -/
def Source.cursor (source : Source) : Cursor :=
  source.cursorAt 0

namespace Cursor

/-- Dropping more characters than there are is dropping all of them. -/
private theorem drop_length_take (characters : List Char) (offset count : Nat) :
    (characters.drop offset).drop count =
      characters.drop (offset + ((characters.drop offset).take count).length) := by
  rw [← List.drop_drop, List.length_take]
  rcases Nat.le_total count (characters.drop offset).length with short | long
  · rw [Nat.min_eq_left short]
  · rw [Nat.min_eq_right long, List.drop_length, List.drop_eq_nil_of_le long]

/-- Taking some characters and then some more is taking them all together. -/
private theorem take_append_take (characters : List Char) (offset count : Nat) :
    characters.take (offset + ((characters.drop offset).take count).length) =
      characters.take offset ++ (characters.drop offset).take count := by
  rw [List.take_add, List.length_take, ← List.take_eq_take_min]

/-- The cursor some characters further on, or at the end of the text. -/
def advance (cursor : Cursor) (count : Nat) : Cursor :=
  { source := cursor.source
    offset := cursor.offset + (cursor.rest.take count).length
    before := (cursor.rest.take count).reverse ++ cursor.before
    rest := cursor.rest.drop count
    before_eq := by
      rw [cursor.before_eq, cursor.rest_eq, ← List.reverse_append, take_append_take]
    rest_eq := by
      rw [cursor.rest_eq]
      exact drop_length_take _ _ _ }

@[simp] theorem source_advance (cursor : Cursor) (count : Nat) :
    (cursor.advance count).source = cursor.source :=
  rfl

@[simp] theorem rest_advance (cursor : Cursor) (count : Nat) :
    (cursor.advance count).rest = cursor.rest.drop count :=
  rfl

/-- Whether nothing remains to be read. -/
def isAtEnd (cursor : Cursor) : Bool :=
  cursor.rest.isEmpty

/-- The character before the cursor, if there is one. -/
def previous? (cursor : Cursor) : Option Char :=
  cursor.before.head?

/-- Whether the cursor is at the front of the text or directly after a line feed. -/
def isAtLineStart (cursor : Cursor) : Bool :=
  cursor.offset == 0 || cursor.previous? == some '\n'

/-- The position of the cursor. -/
def position (cursor : Cursor) : Position :=
  cursor.source.positionAfter cursor.before cursor.offset

/-- The position of a cursor is that of its offset. -/
theorem position_eq (cursor : Cursor) :
    cursor.position = cursor.source.position cursor.offset := by
  rw [position, Source.position, cursor.before_eq]

/-- A description of a cursor by its position. -/
def shown (cursor : Cursor) : String :=
  let place := cursor.position
  "Cursor(" ++ Text.quoted place.file ++ ", line=" ++ toString place.line ++ ", column=" ++
    toString place.column ++ ")"

/-- Whether a given character comes next. -/
def isBefore (cursor : Cursor) (character : Char) : Bool :=
  cursor.rest.head? == some character

/-- The remaining characters of the current line. -/
def restOfLine (cursor : Cursor) : List Char :=
  cursor.rest.takeWhile fun character => character != '\n'

/-- The characters from the cursor on that have a property, up to the first without it. -/
def run (cursor : Cursor) (belongs : Char → Bool) : List Char :=
  cursor.rest.takeWhile belongs

/-- The cursor after the run of characters with a property. -/
def skip (cursor : Cursor) (belongs : Char → Bool) : Cursor :=
  cursor.advance (cursor.run belongs).length

/-- The cursor after the spaces and tabs that come next. -/
def skipHorizontal (cursor : Cursor) : Cursor :=
  cursor.skip Text.isHorizontal

/-- The cursor after the white space that comes next. -/
def skipBlank (cursor : Cursor) : Cursor :=
  cursor.skip Text.isBlank

/-- Skipping white space never adds to what remains. -/
theorem length_rest_skipBlank_le (cursor : Cursor) :
    cursor.skipBlank.rest.length ≤ cursor.rest.length := by
  simp [skipBlank, skip]

/-- Read a fixed text. -/
def literal? (cursor : Cursor) (expected : String) : Option Cursor :=
  if expected.toList.isPrefixOf cursor.rest then
    some (cursor.advance expected.length)
  else
    none

/-- Read one given character. -/
def character? (cursor : Cursor) (expected : Char) : Option Cursor :=
  if cursor.isBefore expected then some (cursor.advance 1) else none

/-- Read a line feed if one comes next. -/
def skipLineFeed (cursor : Cursor) : Cursor :=
  (cursor.character? '\n').getD cursor

/-- Read a name. -/
def name? (cursor : Cursor) : Option (String × Cursor) :=
  match cursor.rest with
  | first :: rest =>
      if Text.isNameStart first then
        let characters := first :: rest.takeWhile Text.isNameCharacter
        some (String.ofList characters, cursor.advance characters.length)
      else
        none
  | [] => none

/-- Read a run of one or more characters with a property. -/
def runOf? (cursor : Cursor) (belongs : Char → Bool) : Option (String × Cursor) :=
  let characters := cursor.run belongs
  if characters.isEmpty then
    none
  else
    some (String.ofList characters, cursor.advance characters.length)

/-- Read at least one space, tab or line feed, and all that follow. -/
def gap? (cursor : Cursor) : Option Cursor :=
  (cursor.runOf? fun character => Text.isHorizontal character || character == '\n').map (·.2)

/-- Read the rest of a line that holds nothing but spaces and tabs, with its line feed. -/
def lineEnd? (cursor : Cursor) : Option Cursor :=
  let afterBlanks := cursor.skipHorizontal
  if afterBlanks.isAtEnd then some afterBlanks else afterBlanks.character? '\n'

/-- Read a blank line; blanks before the end of the text are one, the bare end is none. -/
def blankLine? (cursor : Cursor) : Option Cursor :=
  if cursor.isAtEnd then none else cursor.lineEnd?

/-- Whether a keyword that was just read ends here: a blank or a closing bracket follows. -/
def isAfterKeyword (cursor : Cursor) : Bool :=
  match cursor.rest with
  | character :: _ => Text.isBlank character || character == ']'
  | [] => false

/-- Read a keyword: a fixed text with a blank or a closing bracket after it. -/
def keyword? (cursor : Cursor) (expected : String) : Option Cursor :=
  (cursor.literal? expected).filter isAfterKeyword

/-- The text between two cursors of one source. -/
def textUntil (cursor later : Cursor) : String :=
  String.ofList (cursor.rest.take (later.offset - cursor.offset))

end Cursor

end DocMarkup
