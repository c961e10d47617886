import DocMarkup.Grammar.Block
import DocMarkup.Grammar.Unit

namespace DocMarkup

/-!
# The parser of the markup language

The parsers of phrases, of blocks, of list items and of included files call one
another. Each call is bounded by a number of steps. A step either reads on in
its text, goes into a shorter text, or goes one level deeper into expansions and
inclusions, of which there are only so many; so a number of steps that is never
used up can be computed from the texts that may be met.
-/

mutual

/-- Read a phrase. -/
def phraseWithin
    (environment : Environment) :
    Nat →
    PhraseMode →
    Nat →
    String →
    Cursor →
    Compile (Bool × Cursor)
  | 0, _, _, _, _ => throw .nestedTooDeeply
  | steps + 1, mode, depth, buffer, cursor =>
      Phrase.step
        { phraseFrom := phraseWithin environment steps
          blocks := blocksWithin environment steps
          items := itemsWithin environment steps
          includeFile := includeWithin environment steps }
        mode depth buffer cursor

/-- Read blocks. -/
def blocksWithin (environment : Environment) : Nat → Bool → Cursor → Compile Cursor
  | 0, _, _ => throw .nestedTooDeeply
  | steps + 1, nested, cursor =>
      Block.step
        { phraseFrom := phraseWithin environment steps
          blocks := blocksWithin environment steps
          items := itemsWithin environment steps
          includeFile := includeWithin environment steps }
        nested cursor

/-- Read the items of a list. -/
def itemsWithin (environment : Environment) : Nat → List OpenList → Cursor → Compile Cursor
  | 0, _, _ => throw .nestedTooDeeply
  | steps + 1, lists, cursor =>
      Listing.step
        { phraseFrom := phraseWithin environment steps
          blocks := blocksWithin environment steps
          items := itemsWithin environment steps
          includeFile := includeWithin environment steps }
        lists cursor

/-- Include a file. -/
def includeWithin
    (environment : Environment) :
    Nat →
    Position →
    String →
    Option String →
    Compile Unit
  | 0, _, _, _ => throw .nestedTooDeeply
  | steps + 1, position, name, id =>
      Compile.includeFile environment
        { phraseFrom := phraseWithin environment steps
          blocks := blocksWithin environment steps
          items := itemsWithin environment steps
          includeFile := includeWithin environment steps }
        position name id

end

/-- The parsers, bounded by a number of steps. -/
def Inner.within (environment : Environment) (steps : Nat) : Inner :=
  { phraseFrom := phraseWithin environment steps
    blocks := blocksWithin environment steps
    items := itemsWithin environment steps
    includeFile := includeWithin environment steps }

/-- The number of levels of expansions and inclusions, the outermost one included. -/
def nestingLevels : Nat :=
  expansionLimit + includeLimit + 2

/-- The number of steps that one character of a text may take. -/
def stepsPerCharacter : Nat :=
  8

/-- The size of the file at a place of a file tree. -/
def Entry.size : Entry → Nat
  | .file content => content.length
  | .directory => 0

/-- The sum of sizes. -/
def total : List Nat → Nat
  | [] => 0
  | size :: rest => size + total rest

/-- A bound on the lengths of the texts that a compilation may come to read. -/
def longestText (environment : Environment) (state : CompilerState) (given : Nat) : Nat :=
  given + total (environment.files.entries.map fun entry => entry.2.size) +
    total (state.macros.bodies.entries.map fun entry => entry.2.length) +
    total (state.templates.scopes.map fun scope =>
      total (scope.entries.map fun entry => entry.2.body.length))

/-- A number of steps that is never used up. -/
def enoughSteps (environment : Environment) (state : CompilerState) (given : Nat) : Nat :=
  nestingLevels * stepsPerCharacter * (longestText environment state given + 2)

namespace Compile

/-- Use the parsers on texts of which the given length is a bound. -/
def parsing (environment : Environment) (given : Nat) (use : Inner → Compile α) : Compile α := do
  use (Inner.within environment (enoughSteps environment (← state) given))

end Compile

end DocMarkup
