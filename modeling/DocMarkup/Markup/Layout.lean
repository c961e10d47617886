import DocMarkup.Markup.Tree

namespace DocMarkup.Markup

/-!
# Layout of markup

Block elements stand on lines of their own, indented by their depth. What runs
between them is cut into words at white space and filled into lines of a given
width. Tags and verbatim elements are glued to the words they touch and are
never broken, and preformatted elements keep their content.
-/

/-- The sizes of a layout. -/
structure Layout where
  indent : Nat := 2
  lineWidth : Nat := 80
deriving DecidableEq, Repr

/-- The sizes asked for; a missing, negative or vanishing one has its default. -/
def Layout.ofSettings (indent lineWidth : Option Int) : Layout :=
  { indent :=
      match indent with
      | some size => if size < 0 then 2 else size.toNat
      | none => 2
    lineWidth :=
      match lineWidth with
      | some size => if size ≤ 0 then 80 else size.toNat
      | none => 80 }

/-- Elements that stand on lines of their own. -/
def blockTags : List String :=
  ["article", "book", "library", "chapter", "part", "appendix", "preface", "qandadiv",
    "qandaset", "reference", "set", "authorgroup", "author", "copyright", "legalnotice",
    "section", "title", "para", "simpara", "bridgehead", "itemizedlist", "orderedlist",
    "listitem", "variablelist", "varlistentry", "term", "table", "informaltable", "tgroup",
    "thead", "tbody", "row", "entry", "note", "tip", "important", "caution", "warning",
    "sidebar", "blockquote", "xi:include", "html", "head", "body", "div", "p", "ul", "ol",
    "li", "dl", "dt", "dd", "caption", "tr", "th", "td", "h1", "h2", "h3", "h4", "h5", "h6",
    "hr"]

/-- Ends of the names of further elements that stand on lines of their own. -/
def blockSuffixes : List String :=
  ["info", "purpose", "category"]

/-- Elements whose content is kept as it is, on lines of their own. -/
def preformattedTags : List String :=
  ["programlisting", "literallayout", "screen", "synopsis", "pre"]

/-- Elements inside a line whose content is kept as it is. -/
def verbatimTags : List String :=
  ["code", "literal", "computeroutput"]

/-- Whether an element keeps its content as it is and stands on lines of its own. -/
def isPreformatted (name : List Char) : Bool :=
  preformattedTags.contains (String.ofList name)

/-- Whether an element keeps its content as it is inside a line. -/
def isVerbatim (name : List Char) : Bool :=
  isPreformatted name || verbatimTags.contains (String.ofList name)

/-- Whether elements of a name stand on lines of their own. -/
def isBlockName (name : List Char) : Bool :=
  blockTags.contains (String.ofList name) || isPreformatted name ||
    blockSuffixes.any fun ending => ending.toList.isSuffixOf name

/-- Whether a node stands on lines of its own. -/
def Node.isBlock : Node → Bool
  | .leaf kind _ => kind == .instruction || kind == .declaration
  | .emptyElement name _ => isBlockName name
  | .element name _ _ _ => isBlockName name

/-- White space at which text may be cut. -/
def isBreak (character : Char) : Bool :=
  character == ' ' || character == '\t' || character == '\r' || character == '\n'

/-- Words collected so far, last first, and the unfinished word. -/
structure WordBuffer where
  finished : List (List Char) := []
  unfinished : List Char := []
deriving DecidableEq, Repr

namespace WordBuffer

/-- End the unfinished word, if it has begun. -/
def finishWord (buffer : WordBuffer) : WordBuffer :=
  if buffer.unfinished.isEmpty then
    buffer
  else
    { finished := buffer.unfinished :: buffer.finished, unfinished := [] }

/-- Glue something to the unfinished word. -/
def glue (buffer : WordBuffer) (piece : List Char) : WordBuffer :=
  { buffer with unfinished := buffer.unfinished ++ piece }

/-- Add text, which is cut at its breaks; the piece read since the last of them is in reverse. -/
def addTextFrom (buffer : WordBuffer) (piece : List Char) : List Char → WordBuffer
  | [] => buffer.glue piece.reverse
  | character :: rest =>
      if isBreak character then
        addTextFrom (buffer.glue piece.reverse).finishWord [] rest
      else
        addTextFrom buffer (character :: piece) rest

/-- Add text, which is cut at its breaks. -/
def addText (buffer : WordBuffer) (text : List Char) : WordBuffer :=
  buffer.addTextFrom [] text

/-- All words, the unfinished one included. -/
def words (buffer : WordBuffer) : List (List Char) :=
  buffer.finishWord.finished.reverse

end WordBuffer

mutual

/-- Add the words of a node. -/
def Node.addWords (buffer : WordBuffer) : Node → WordBuffer
  | .leaf kind content =>
      if kind == .text then buffer.addText content else buffer.glue content
  | .emptyElement _ tag => buffer.glue tag
  | .element name startTag endTag children =>
      if isVerbatim name then
        buffer.glue (startTag ++ serializeAll children ++ endTag)
      else
        (addWordsOfAll (buffer.glue startTag) children).glue endTag

/-- Add the words of nodes in a row. -/
def addWordsOfAll (buffer : WordBuffer) : List Node → WordBuffer
  | [] => buffer
  | node :: rest => addWordsOfAll (node.addWords buffer) rest

end

/-- The words of nodes in a row. -/
def wordsOf (nodes : List Node) : List (List Char) :=
  (addWordsOfAll {} nodes).words

/-- Fill words into lines; the first line has been begun. -/
def wrapFrom
    (lineWidth : Nat)
    (margin : List Char)
    (line : List Char) :
    List (List Char) →
    List (List Char)
  | [] => [line]
  | word :: rest =>
      if line.length + 1 + word.length ≤ lineWidth then
        wrapFrom lineWidth margin (line ++ ' ' :: word) rest
      else
        line :: wrapFrom lineWidth margin (margin ++ word) rest

/-- Fill words into lines that start with a margin and, if they hold several words, fit a width. -/
def wrap (lineWidth : Nat) (margin : List Char) : List (List Char) → List (List Char)
  | [] => []
  | word :: rest => wrapFrom lineWidth margin (margin ++ word) rest

/-- The blanks in front of a line at a depth. -/
def Layout.margin (layout : Layout) (depth : Nat) : List Char :=
  List.replicate (layout.indent * depth) ' '

/-- The lines of words at a depth. -/
def Layout.wrapped (layout : Layout) (depth : Nat) (words : List (List Char)) : List (List Char) :=
  wrap layout.lineWidth (layout.margin depth) words

/-- An element without blocks inside: on one line if it fits, and with its content wrapped else. -/
def Layout.filled
    (layout : Layout)
    (depth : Nat)
    (startTag endTag : List Char)
    (words : List (List Char)) :
    List (List Char) :=
  let margin := layout.margin depth
  let singleLine := margin ++ startTag ++ List.intercalate [' '] words ++ endTag
  if words.isEmpty || singleLine.length ≤ layout.lineWidth then
    [singleLine]
  else
    (margin ++ startTag) :: layout.wrapped (depth + 1) words ++ [margin ++ endTag]

mutual

/-- The lines of a node that stands on lines of its own. -/
def Layout.blockLines (layout : Layout) (depth : Nat) : Node → List (List Char)
  | .leaf _ content => [layout.margin depth ++ content]
  | .emptyElement _ tag => [layout.margin depth ++ tag]
  | .element name startTag endTag children =>
      let margin := layout.margin depth
      if isPreformatted name then
        [margin ++ startTag ++ serializeAll children ++ endTag]
      else if children.any Node.isBlock then
        (margin ++ startTag) :: layout.lines (depth + 1) [] children ++ [margin ++ endTag]
      else
        layout.filled depth startTag endTag (wordsOf children)

/--
The lines of nodes in a row. The nodes since the last block, which run on in one
paragraph, are given last first.
-/
def Layout.lines (layout : Layout) (depth : Nat) (run : List Node) : List Node → List (List Char)
  | [] => layout.wrapped depth (wordsOf run.reverse)
  | node :: rest =>
      if node.isBlock then
        layout.wrapped depth (wordsOf run.reverse) ++
          (layout.blockLines depth node ++ layout.lines depth [] rest)
      else
        layout.lines depth (node :: run) rest

end

/-- Markup laid out anew, each line ended. -/
def layOut (layout : Layout) (markup : String) : Except MarkupFault String :=
  match parseTree markup.toList with
  | .error fault => .error fault
  | .ok nodes =>
      let textLines := layout.lines 0 [] nodes
      .ok (String.ofList (textLines.flatMap fun line => line ++ ['\n']))

end DocMarkup.Markup
