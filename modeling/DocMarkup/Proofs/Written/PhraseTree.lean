import DocMarkup.Event
import DocMarkup.Grammar.Phrase
import DocMarkup.Proofs.Written.Cursor

namespace DocMarkup

/-!
# Phrases as trees

A phrase is a row of texts, enclosed phrases, anchors, line breaks and code. Such
a row is written as markup in one way, with a backslash before every character of
a text, and it stands for a row of events.
-/

/-- The styles in which a phrase can be set. -/
inductive PhraseStyle where
  | bold
  | italic
  | underline
  | teletype
  | strikethrough
  | replaceable
deriving DecidableEq, Repr

/-- The mark behind the bracket that opens a style. -/
def PhraseStyle.mark : PhraseStyle → Char
  | .bold => '*'
  | .italic => Text.singleQuote
  | .underline => '_'
  | .teletype => '^'
  | .strikethrough => '-'
  | .replaceable => '~'

/-- The element of a style. -/
def PhraseStyle.element : PhraseStyle → String
  | .bold => "bold"
  | .italic => "italic"
  | .underline => "underline"
  | .teletype => "teletype"
  | .strikethrough => "strikethrough"
  | .replaceable => "replaceable"

/-- What may enclose a phrase. -/
inductive PhraseFrame where
  | styled (style : PhraseStyle)
  | footnote
  | url (target : String)
  | link (target : String)
deriving DecidableEq, Repr

namespace PhraseFrame

/-- The bracket that opens an enclosed phrase, with its mark or keyword. -/
def keyword : PhraseFrame → String
  | .styled style => String.ofList ['[', style.mark]
  | .footnote => "[footnote"
  | .url _ => "[@"
  | .link _ => "[link"

/-- What stands between the keyword and the phrase. -/
def argument : PhraseFrame → List Char
  | .styled _ => []
  | .footnote => [' ']
  | .url target => target.toList ++ [' ']
  | .link target => [' '] ++ (target.toList ++ [' '])

/-- What stands before the phrase. -/
def front (frame : PhraseFrame) : List Char :=
  frame.keyword.toList ++ frame.argument

/-- The element that an enclosed phrase becomes. -/
def element : PhraseFrame → String
  | .styled style => style.element
  | .footnote => "footnote"
  | .url _ => "ulink"
  | .link _ => "link"

/-- The attributes of that element. -/
def attributes : PhraseFrame → List Attribute
  | .styled _ => []
  | .footnote => []
  | .url target => [("url", target)]
  | .link target => [("linkend", target)]

end PhraseFrame

/-- A part of a phrase. -/
inductive PhraseTree where
  | text (content : String)
  | framed (frame : PhraseFrame) (content : List PhraseTree)
  | anchor (identifier : String)
  | lineBreak
  | code (content : String)
deriving Repr

namespace PhraseTree

/-- What holds of no parts, and of parts if of those inside the first and of the others. -/
@[elab_as_elim]
theorem rowInduction
    {motive : List PhraseTree → Prop}
    (nil : motive [])
    (text : ∀ content rest, motive rest → motive (.text content :: rest))
    (framed :
      ∀ frame content rest,
        motive content → motive rest → motive (.framed frame content :: rest))
    (anchor : ∀ identifier rest, motive rest → motive (.anchor identifier :: rest))
    (lineBreak : ∀ rest, motive rest → motive (.lineBreak :: rest))
    (code : ∀ content rest, motive rest → motive (.code content :: rest)) :
    ∀ trees, motive trees
  | [] => nil
  | .text content :: rest =>
      text content rest (rowInduction nil text framed anchor lineBreak code rest)
  | .framed frame content :: rest =>
      framed frame content rest
        (rowInduction nil text framed anchor lineBreak code content)
        (rowInduction nil text framed anchor lineBreak code rest)
  | .anchor identifier :: rest =>
      anchor identifier rest (rowInduction nil text framed anchor lineBreak code rest)
  | .lineBreak :: rest =>
      lineBreak rest (rowInduction nil text framed anchor lineBreak code rest)
  | .code content :: rest =>
      code content rest (rowInduction nil text framed anchor lineBreak code rest)

/-! ## Writing -/

mutual

/-- A part of a phrase as markup. -/
def written : PhraseTree → List Char
  | .text content => Text.backslashed content.toList
  | .framed frame content => frame.front ++ (writtenAll content ++ [']'])
  | .anchor identifier => ['[', '#'] ++ (identifier.toList ++ [']'])
  | .lineBreak => ['[', 'b', 'r'] ++ [']']
  | .code content =>
      [codeQuote, codeQuote] ++ (content.toList ++ [codeQuote, codeQuote])

/-- Parts of a phrase as markup. -/
def writtenAll : List PhraseTree → List Char
  | [] => []
  | tree :: rest => tree.written ++ writtenAll rest

end

/-! ## Meaning -/

mutual

/-- The events that a part of a phrase stands for. -/
def events : PhraseTree → List Event
  | .text content => [.text content]
  | .framed frame content =>
      .opening frame.element frame.attributes ::
        (eventsOfAll content ++ [.closing frame.element])
  | .anchor identifier => [.opening "anchor" [("id", identifier)], .closing "anchor"]
  | .lineBreak => [.opening "linebreak" [], .closing "linebreak"]
  | .code content => [.opening "code" [], .text content, .closing "code"]

/-- The events that parts of a phrase stand for. -/
def eventsOfAll : List PhraseTree → List Event
  | [] => []
  | tree :: rest => tree.events ++ eventsOfAll rest

end

mutual

/-- The number of phrases around the most deeply enclosed one of a part. -/
def nesting : PhraseTree → Nat
  | .framed _ content => nestingOfAll content + 1
  | _ => 0

/-- The number of phrases around the most deeply enclosed one of some parts. -/
def nestingOfAll : List PhraseTree → Nat
  | [] => 0
  | tree :: rest => max tree.nesting (nestingOfAll rest)

end

/-! ## Parts that can be written -/

/-- Whether a text can stand for the target of a link or the identifier of an anchor. -/
def isTarget (target : String) : Bool :=
  target.toList.all Cursor.isTargetCharacter && !target.isEmpty

/-- Whether parts of a phrase start with a text. -/
def startsWithText : List PhraseTree → Bool
  | .text _ :: _ => true
  | _ => false

/-- Whether a phrase may be enclosed like that: links have a target, and a content of their own. -/
def fits (content : List PhraseTree) : PhraseFrame → Bool
  | .styled _ => true
  | .footnote => true
  | .url target => isTarget target && !content.isEmpty
  | .link target => isTarget target && !content.isEmpty

mutual

/--
Whether a part of a phrase can be written: texts and code are not empty, and code
holds no quotes.
-/
def isWritable : PhraseTree → Bool
  | .text content => !content.isEmpty
  | .framed frame content => fits content frame && areWritable content
  | .anchor identifier => isTarget identifier
  | .lineBreak => true
  | .code content => !content.isEmpty && !content.toList.contains codeQuote

/-- Whether parts of a phrase can be written; texts that follow one another would become one. -/
def areWritable : List PhraseTree → Bool
  | [] => true
  | .text content :: rest =>
      (PhraseTree.text content).isWritable && !startsWithText rest && areWritable rest
  | tree :: rest => tree.isWritable && areWritable rest

end

end PhraseTree

end DocMarkup
