import DocMarkup.Compiler.Workspace

namespace DocMarkup

/-!
# Parsers for what is inside

A construct holds phrases or blocks, and those hold further constructs. Rules
therefore take the parsers of what is inside them as an argument. They are tied
together in one place, where the depth of the nesting is bounded.
-/

/--
Where a phrase stops: in a paragraph or a list item at a blank line and before a
line that starts a block, in a bracket at the bracket that closes it, and in an
expansion there or at the end of the text.
-/
inductive PhraseMode where
  | paragraph
  | listItem
  | bracketed
  | expansion
deriving DecidableEq, Repr

/-- An open list: the indentation of its items and its element. -/
structure OpenList where
  indent : Nat
  name : String
deriving DecidableEq, Repr

/--
The parsers of what is inside a construct. A phrase goes on with a number of
brackets that are only text and with text that is not yet part of the output;
it tells whether it ended as its mode demands.
-/
structure Inner where
  phraseFrom : PhraseMode → Nat → String → Cursor → Compile (Bool × Cursor)
  blocks : Bool → Cursor → Compile Cursor
  items : List OpenList → Cursor → Compile Cursor
  includeFile : Position → String → Option String → Compile Unit

namespace Inner

/-- Read a phrase. -/
def phrase (inner : Inner) (mode : PhraseMode) (cursor : Cursor) : Compile (Bool × Cursor) :=
  inner.phraseFrom mode 0 "" cursor

/-- Read the whole text of an expansion, and tell whether all of it was read. -/
def expansion (inner : Inner) (source : Source) (block : Bool := false) : Compile Bool := do
  if block then
    return (← inner.blocks false source.cursor).isAtEnd
  else
    return (← inner.phrase .expansion source.cursor).2.isAtEnd

end Inner

end DocMarkup
