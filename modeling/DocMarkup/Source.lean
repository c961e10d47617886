namespace DocMarkup

/-!
# Sources and positions

A source is a named text. A text that was cut out of another source remembers
the position it was cut from, and its own positions are then given in terms of
that source. Offsets count characters from zero, lines and columns from one.
-/

/-- A place in a named source. -/
structure Position where
  file : String
  offset : Nat
  line : Nat
  column : Nat
deriving DecidableEq, Repr

/-- A named text, with the position it was cut from if it was cut out of another. -/
structure Source where
  text : String
  name : String
  origin : Option Position := none
deriving DecidableEq, Repr

/-- The number of characters since the last line feed, of characters given last first. -/
def distanceFromLineStart (before : List Char) : Nat :=
  (before.takeWhile fun character => character != '\n').length

/-- The position of an offset of a source, given the characters before it, last first. -/
def Source.positionAfter (source : Source) (before : List Char) (offset : Nat) : Position :=
  let lineFeeds := before.count '\n'
  let distance := distanceFromLineStart before + (offset - before.length)
  match source.origin with
  | none =>
      { file := source.name
        offset := offset
        line := lineFeeds + 1
        column := distance + 1 }
  | some origin =>
      { file := origin.file
        offset := origin.offset + offset
        line := origin.line + lineFeeds
        column := if lineFeeds = 0 then distance + origin.column else distance + 1 }

/-- The position of an offset of a source. -/
def Source.position (source : Source) (offset : Nat) : Position :=
  source.positionAfter (source.text.toList.take offset).reverse offset

end DocMarkup
