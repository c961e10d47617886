import DocMarkup.Text.Blank
import DocMarkup.Text.Numeral

namespace DocMarkup.Settings

/-!
# Scanning settings files

Parts of a settings file are read from the front of the text that remains. Line
ends are single line feeds. Apart from them and from tabs, control characters
may stand nowhere in a settings file.
-/

/-- Why a settings file gives no entries. -/
inductive FileFlaw where
  | malformed
  | numeral (fault : Text.NumeralFault)
deriving DecidableEq, Repr

/-- Read from the front of a text; what remains is returned with the value. -/
abbrev Reader (α : Type) :=
  List Char → Except FileFlaw (α × List Char)

/-- Characters that may not stand in a settings file, except as ends of lines. -/
def isControl (character : Char) : Bool :=
  (character.toNat < 32 && character != '\t') || character.toNat == 127

/-- Spaces, tabs and line feeds. -/
def isSpaceOrLineFeed (character : Char) : Bool :=
  Text.isHorizontal character || character == '\n'

/-- Drop spaces and tabs. -/
def skipSpace (characters : List Char) : List Char :=
  characters.dropWhile Text.isHorizontal

/-- Drop a comment, up to the end of its line. -/
def skipComment (characters : List Char) : Except FileFlaw (List Char) :=
  match characters with
  | '#' :: rest =>
      let comment := rest.takeWhile fun character => character != '\n'
      if comment.any isControl then .error .malformed else .ok (rest.drop comment.length)
  | _ => .ok characters

/-- Drop what may stand between the members of a list; each comment takes one step. -/
def skipLines : Nat → List Char → Except FileFlaw (List Char)
  | 0, _ => .error .malformed
  | steps + 1, characters =>
      match characters.dropWhile isSpaceOrLineFeed with
      | '#' :: rest =>
          match skipComment ('#' :: rest) with
          | .error flaw => .error flaw
          | .ok remaining => skipLines steps remaining
      | remaining => .ok remaining

/-- The value of a hexadecimal digit. -/
def hexValue? (character : Char) : Option Nat :=
  if character.isDigit then
    some (character.toNat - '0'.toNat)
  else if 'a' ≤ character && character ≤ 'f' then
    some (character.toNat - 'a'.toNat + 10)
  else if 'A' ≤ character && character ≤ 'F' then
    some (character.toNat - 'A'.toNat + 10)
  else
    none

/-- The value of a digit of a numeral with a base of at most sixteen. -/
def digitBelow? (base : Nat) (character : Char) : Option Nat :=
  (hexValue? character).filter fun value => value < base

end DocMarkup.Settings
