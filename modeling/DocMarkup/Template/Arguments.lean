import DocMarkup.Text.Blank

namespace DocMarkup

/-!
# Arguments of template calls

The arguments of a call are separated by two dots outside nested brackets. A
call that gives a single argument to a template with several parameters has that
argument cut at white space instead. Every argument loses the blanks at its ends.
-/

/--
Cut a text at the separators outside brackets. The depth is the number of
brackets open at this place, which may be negative, and the piece since the last
separator is in reverse. A backslash keeps the character after it from counting.
-/
def argumentPieces (depth : Int) (piece : List Char) : List Char → List (List Char)
  | [] => [piece.reverse]
  | [character] => [(character :: piece).reverse]
  | first :: second :: rest =>
      if first == '\\' then
        argumentPieces depth (second :: first :: piece) rest
      else if first == '[' then
        argumentPieces (depth + 1) (first :: piece) (second :: rest)
      else if first == ']' then
        argumentPieces (depth - 1) (first :: piece) (second :: rest)
      else if depth == 0 && first == '.' && second == '.' then
        piece.reverse :: argumentPieces depth [] rest
      else
        argumentPieces depth (first :: piece) (second :: rest)

/-- Cut a single argument into as many words as there are parameters, if it has as many. -/
def wordArguments (count : Nat) (arguments : List (List Char)) : List (List Char) :=
  match arguments with
  | [single] =>
      let pieces := Text.wordsAtMost (count - 1) single
      if 1 < count && pieces.length = count then pieces else arguments
  | _ => arguments

/-- The arguments in the text of a call, if there is one for each parameter. -/
def splitArguments? (raw : String) (count : Nat) : Option (List String) :=
  if count = 0 then
    if Text.isBlankText raw then some [] else none
  else
    let separated := (argumentPieces 0 [] raw.toList).map Text.trim
    let arguments := wordArguments count separated
    if arguments.length = count then some (arguments.map String.ofList) else none

end DocMarkup
