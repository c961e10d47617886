namespace DocMarkup.Text

/-!
# White space

The blanks of the markup language are the white space of Unicode together with
the four information separators. Horizontal space, which may stand inside a
line of markup without ending anything, is narrower: the space and the tab.
-/

/-- White space of any kind, line ends included. -/
def isBlank (character : Char) : Bool :=
  let code := character.toNat
  (9 ≤ code && code ≤ 13) || (28 ≤ code && code ≤ 32) ||
    code == 0x85 || code == 0xA0 || code == 0x1680 ||
    (0x2000 ≤ code && code ≤ 0x200A) ||
    code == 0x2028 || code == 0x2029 || code == 0x202F ||
    code == 0x205F || code == 0x3000

/-- The space and the tab. -/
def isHorizontal (character : Char) : Bool :=
  character == ' ' || character == '\t'

/-- The length of the run of characters with a property at the front. -/
def runLength (belongs : Char → Bool) (characters : List Char) : Nat :=
  (characters.takeWhile belongs).length

/-- Drop the blanks at the front. -/
def trimStart (characters : List Char) : List Char :=
  characters.dropWhile isBlank

/-- Drop the blanks at the back. -/
def trimEnd (characters : List Char) : List Char :=
  (characters.reverse.dropWhile isBlank).reverse

/-- Drop the blanks at both ends. -/
def trim (characters : List Char) : List Char :=
  trimEnd (trimStart characters)

/-- Drop the blanks at both ends of a text. -/
def trimmed (text : String) : String :=
  String.ofList (trim text.toList)

/-- A text without any character that is not a blank. -/
def isBlankText (text : String) : Bool :=
  text.toList.all isBlank

/--
The maximal pieces between separating characters, empty ones left out.

The accumulated piece is kept in reverse.
-/
def piecesFrom
    (separates : Char → Bool) :
    List Char →
    List Char →
    List (List Char)
  | piece, [] => if piece.isEmpty then [] else [piece.reverse]
  | piece, character :: rest =>
      if separates character then
        if piece.isEmpty then
          piecesFrom separates [] rest
        else
          piece.reverse :: piecesFrom separates [] rest
      else
        piecesFrom separates (character :: piece) rest

/-- The words of a text: its maximal runs of characters that are not blank. -/
def words (characters : List Char) : List (List Char) :=
  piecesFrom isBlank [] characters

/--
Cut a text into words until one piece is left over, which keeps its inner
blanks. Blanks at the front of a piece and at the back of the last are dropped.
-/
def wordsAtMost :
    Nat →
    List Char →
    List (List Char)
  | 0, characters =>
      let piece := trim characters
      if piece.isEmpty then [] else [piece]
  | cuts + 1, characters =>
      let fromWord := trimStart characters
      if fromWord.isEmpty then
        []
      else
        fromWord.takeWhile (fun character => !isBlank character) ::
          wordsAtMost cuts (fromWord.dropWhile (fun character => !isBlank character))

/-- The lines of a text, cut at every line feed; a text without one is one line. -/
def linesFrom :
    List Char →
    List Char →
    List (List Char)
  | line, [] => [line.reverse]
  | line, character :: rest =>
      if character == '\n' then
        line.reverse :: linesFrom [] rest
      else
        linesFrom (character :: line) rest

/-- The lines of a text, without their line feeds. -/
def lines (characters : List Char) : List (List Char) :=
  linesFrom [] characters

/-- Join lines by line feeds. -/
def unlines (pieces : List (List Char)) : List Char :=
  List.intercalate ['\n'] pieces

/-- Append the texts of a list with a separator between neighbours. -/
def joined (separator : String) (texts : List String) : String :=
  String.intercalate separator texts

end DocMarkup.Text
