import DocMarkup.Compiler.Structure
import DocMarkup.Grammar.Block
import DocMarkup.Proofs.Written.PhraseTree

namespace DocMarkup

/-!
# Blocks as trees

A document is a row of paragraphs, code, headings, enclosed blocks and sections.
Such a row is written as markup in one way, with a blank line behind every block.
It stands for a row of events, in which sections and headings have identifiers
that are made from their titles as they are written.
-/

/-- What may enclose blocks: admonitions and block quotes. -/
inductive BlockFrame where
  | note
  | tip
  | important
  | caution
  | warning
  | blurb
  | quotation
deriving DecidableEq, Repr

namespace BlockFrame

/-- What opens enclosed blocks. -/
def keyword : BlockFrame → String
  | .note => "[note"
  | .tip => "[tip"
  | .important => "[important"
  | .caution => "[caution"
  | .warning => "[warning"
  | .blurb => "[blurb"
  | .quotation => "[:"

/-- The element that enclosed blocks become. -/
def element : BlockFrame → String
  | .note => "note"
  | .tip => "tip"
  | .important => "important"
  | .caution => "caution"
  | .warning => "warning"
  | .blurb => "blurb"
  | .quotation => "blockquote"

end BlockFrame

/-- A block. Headings have one of six levels, counted from zero here. -/
inductive BlockTree where
  | paragraph (content : String)
  | code (content : String)
  | heading (level : Fin 6) (title : String)
  | enclosed (frame : BlockFrame) (content : List BlockTree)
  | sectioned (title : String) (content : List BlockTree)
deriving Repr

/-! ## Identifiers -/

/--
What identifiers depend on: the identifier of the document, the number of sections
that were open when it was set, the open sections, innermost first, and the
identifiers that are taken.
-/
structure Naming where
  docId : Option String
  idScope : Nat
  sectionIds : List String
  taken : NameTable Unit

namespace Naming

/-- The identifier that others are put after. -/
def parent (naming : Naming) : Option String :=
  if naming.idScope < naming.sectionIds.length then naming.sectionIds.head? else naming.docId

/-- The identifier made from one that is put after the others. -/
def qualified (naming : Naming) (localId : String) : String :=
  CompilerState.freeId naming.taken (qualify naming.parent localId)

/-- The identifier made from a title. -/
def identifier (naming : Naming) (title : String) : String :=
  CompilerState.freeId naming.taken (qualify naming.parent (generateId title))

/-- After identifiers have been taken. -/
def reserve (naming : Naming) (identifiers : List String) : Naming :=
  { naming with
    taken := identifiers.foldl (fun taken identifier => taken.insert identifier ()) naming.taken }

/-- Inside a section, whose identifier is taken. -/
def inSection (naming : Naming) (identifier : String) : Naming :=
  { naming.reserve [identifier] with sectionIds := identifier :: naming.sectionIds }

end Naming

/-- What blocks stand for: events, and the identifiers taken in them, in their order. -/
structure BlockOutput where
  events : List Event := []
  identifiers : List String := []
deriving DecidableEq, Repr

/-- The text event of a text, if there is any text. -/
def textEvents (content : String) : List Event :=
  if content.isEmpty then [] else [.text content]

/-- The events of a block of code. -/
def codeEvents (content : String) : List Event :=
  .opening "programlisting" [] :: (textEvents content ++ [.closing "programlisting"])

namespace BlockTree

/-! ## Writing -/

/-- A title as it is written. -/
def writtenTitle (title : String) : List Char :=
  Text.backslashed title.toList

/-- A paragraph as markup. -/
def paragraphText (content : String) : List Char :=
  Text.backslashed content.toList ++ ['\n', '\n']

/-- Code as markup. -/
def codeText (content : String) : List Char :=
  (fence ++ ['\n']) ++ (content.toList ++ (['\n'] ++ (fence ++ ['\n', '\n'])))

/-- Code on its lines between fences, with the language that it is in behind the first. -/
def fencedText (language : List Char) (content : String) : List Char :=
  (fence ++ (language ++ ['\n'])) ++ (content.toList ++ (['\n'] ++ (fence ++ ['\n'])))

/-- The markup of code is its lines and a blank line. -/
theorem codeText_eq (content : String) : codeText content = fencedText [] content ++ ['\n'] := by
  simp [codeText, fencedText]

/-- The keyword of a heading. -/
def headingKeyword (level : Fin 6) : String :=
  "[h" ++ toString (level.val + 1)

/-- What opens a section, with the identifier that is given for it. -/
def sectionKeyword : Option String → String
  | none => "[section"
  | some given => "[section:" ++ given

/-- A keyword and a title in brackets, as markup. -/
def titledLine (keyword title : String) : List Char :=
  keyword.toList ++ ([' '] ++ (writtenTitle title ++ ([']'] ++ ['\n', '\n'])))

/-- A keyword and a title, as it is written, in brackets on a line. -/
def titleLine (keyword : String) (title : List Char) : List Char :=
  keyword.toList ++ ([' '] ++ (title ++ ([']'] ++ ['\n'])))

/-- The markup of a title is a line and a blank line. -/
theorem titledLine_eq (keyword title : String) :
    titledLine keyword title = titleLine keyword (writtenTitle title) ++ ['\n'] := by
  simp [titledLine, titleLine]

/-- The front of enclosed blocks as markup. -/
def openingLine (frame : BlockFrame) : List Char :=
  frame.keyword.toList ++ ['\n', '\n']

/-- The end of enclosed blocks as markup. -/
def closingLine : List Char :=
  [']'] ++ ['\n', '\n']

/-- A keyword alone in brackets, as markup. -/
def keywordLine (keyword : String) : List Char :=
  keyword.toList ++ ([']'] ++ ['\n', '\n'])

mutual

/-- A block as markup, with a blank line behind it. -/
def written : BlockTree → List Char
  | .paragraph content => paragraphText content
  | .code content => codeText content
  | .heading level title => titledLine (headingKeyword level) title
  | .enclosed frame content => openingLine frame ++ (writtenAll content ++ closingLine)
  | .sectioned title content =>
      titledLine "[section" title ++ (writtenAll content ++ keywordLine "[endsect")

/-- Blocks as markup. -/
def writtenAll : List BlockTree → List Char
  | [] => []
  | tree :: rest => tree.written ++ writtenAll rest

end

/-! ## Meaning -/

mutual

/-- What a block stands for. -/
def output (naming : Naming) : BlockTree → BlockOutput
  | .paragraph content =>
      { events := [.opening "para" [], .text content, .closing "para"] }
  | .code content =>
      { events :=
          .opening "programlisting" [] :: (textEvents content ++ [.closing "programlisting"]) }
  | .heading level title =>
      let identifier := naming.identifier (String.ofList (writtenTitle title))
      { events :=
          .opening "heading" [("level", toString (level.val + 1)), ("id", identifier)] ::
            (textEvents title ++ [.closing "heading"])
        identifiers := [identifier] }
  | .enclosed frame content =>
      let inside := outputOfAll naming content
      { events :=
          .opening frame.element [] :: (inside.events ++ [.closing frame.element])
        identifiers := inside.identifiers }
  | .sectioned title content =>
      let identifier := naming.identifier (String.ofList (writtenTitle title))
      let inside := outputOfAll (naming.inSection identifier) content
      { events :=
          .opening "section" [("id", identifier)] :: .opening "title" [] ::
            (textEvents title ++ .closing "title" ::
              (inside.events ++ [.closing "section"]))
        identifiers := identifier :: inside.identifiers }

/-- What blocks stand for. -/
def outputOfAll (naming : Naming) : List BlockTree → BlockOutput
  | [] => {}
  | tree :: rest =>
      let first := tree.output naming
      let others := outputOfAll (naming.reserve first.identifiers) rest
      { events := first.events ++ others.events
        identifiers := first.identifiers ++ others.identifiers }

end

/-! ## Blocks that can be written -/

mutual

/--
Whether a block can be written outside other blocks or inside one: paragraphs are
not empty, no line of code closes its fence, and sections stand outside.
-/
def isWritable (outside : Bool) : BlockTree → Bool
  | .paragraph content => !content.isEmpty
  | .code content => (Text.lines content.toList).all fun line => !Cursor.isFenceLine line
  | .heading _ _ => true
  | .enclosed _ content => areWritable false content
  | .sectioned _ content => outside && areWritable true content

/-- Whether blocks can be written. -/
def areWritable (outside : Bool) : List BlockTree → Bool
  | [] => true
  | tree :: rest => tree.isWritable outside && areWritable outside rest

end

/-- What holds of no blocks, and of blocks if of those inside the first and of the others. -/
@[elab_as_elim]
theorem rowInduction
    {motive : List BlockTree → Prop}
    (nil : motive [])
    (paragraph : ∀ content rest, motive rest → motive (.paragraph content :: rest))
    (code : ∀ content rest, motive rest → motive (.code content :: rest))
    (heading : ∀ level title rest, motive rest → motive (.heading level title :: rest))
    (enclosed :
      ∀ frame content rest,
        motive content → motive rest → motive (.enclosed frame content :: rest))
    (sectioned :
      ∀ title content rest,
        motive content → motive rest → motive (.sectioned title content :: rest)) :
    ∀ trees, motive trees
  | [] => nil
  | .paragraph content :: rest =>
      paragraph content rest
        (rowInduction nil paragraph code heading enclosed sectioned rest)
  | .code content :: rest =>
      code content rest (rowInduction nil paragraph code heading enclosed sectioned rest)
  | .heading level title :: rest =>
      heading level title rest
        (rowInduction nil paragraph code heading enclosed sectioned rest)
  | .enclosed frame content :: rest =>
      enclosed frame content rest
        (rowInduction nil paragraph code heading enclosed sectioned content)
        (rowInduction nil paragraph code heading enclosed sectioned rest)
  | .sectioned title content :: rest =>
      sectioned title content rest
        (rowInduction nil paragraph code heading enclosed sectioned content)
        (rowInduction nil paragraph code heading enclosed sectioned rest)

end BlockTree

/-! ## Output in the state -/

namespace CompilerState

/-- What identifiers depend on in a state. -/
def naming (state : CompilerState) : Naming :=
  { docId := state.docId
    idScope := state.idScope
    sectionIds := state.sectionIds
    taken := state.takenIds }

/-- The state with further output and the identifiers in it. -/
def withOutput (state : CompilerState) (output : BlockOutput) : CompilerState :=
  { state with
    events := state.events ++ output.events.toArray
    usedIds := state.usedIds ++ output.identifiers.toArray
    takenIds :=
      output.identifiers.foldl (fun taken identifier => taken.insert identifier ())
        state.takenIds }

end CompilerState

end DocMarkup
