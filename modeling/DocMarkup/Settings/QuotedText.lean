import DocMarkup.Settings.Scan

namespace DocMarkup.Settings

/-!
# Quoted texts of settings files

Between double quotes a backslash starts an escape; between single quotes every
character stands for itself. Three quotes start a text that may go on over lines
and ends with three quotes; up to two more quotes directly behind these belong
to the text, and a line feed directly behind the first three does not.
-/

/-- The character with the given hexadecimal digits. -/
def hexCharacter? (digits : List Char) : Option Char :=
  match digits.mapM hexValue? with
  | some values =>
      let code := Text.digitsValue 16 values
      if code.isValidChar then some (Char.ofNat code) else none
  | none => none

/-- Read the hexadecimal digits of a character. -/
def readHexCharacter (count : Nat) : Reader (List Char) := fun characters =>
  let digits := characters.take count
  match hexCharacter? digits with
  | some character =>
      if digits.length = count then
        .ok ([character], characters.drop count)
      else
        .error .malformed
  | none => .error .malformed

/-- The character that a letter behind a backslash stands for. -/
def escapedCharacter? (letter : Char) : Option Char :=
  match letter with
  | 'b' => some (Char.ofNat 8)
  | 't' => some '\t'
  | 'n' => some '\n'
  | 'f' => some (Char.ofNat 12)
  | 'r' => some '\r'
  | '"' => some '"'
  | '\\' => some '\\'
  | _ => none

/--
Read what follows a backslash. In a text that goes on over lines, a backslash at
the end of a line hides the line end and all space behind it.
-/
def readEscape (overLines : Bool) : Reader (List Char)
  | 'u' :: rest => readHexCharacter 4 rest
  | 'U' :: rest => readHexCharacter 8 rest
  | letter :: rest =>
      match escapedCharacter? letter with
      | some character => .ok ([character], rest)
      | none =>
          match overLines, skipSpace (letter :: rest) with
          | true, '\n' :: after => .ok ([], after.dropWhile isSpaceOrLineFeed)
          | _, _ => .error .malformed
  | [] => .error .malformed

/-- The text in front of closing quotes, and the quotes behind them that belong to it. -/
def closeLines (quote : Char) (content : List Char) (rest : List Char) : String × List Char :=
  let extra := (rest.take 2).takeWhile fun character => character == quote
  (String.ofList (content ++ extra), rest.drop extra.length)

/--
Read the rest of a text in double quotes, with at most the given number of
characters and escapes; what was read before is in reverse.
-/
def readDoublyQuoted
    (overLines : Bool) :
    Nat →
    List Char →
    Reader String
  | 0, _, _ => .error .malformed
  | steps + 1, content, characters =>
      match overLines, characters with
      | false, '"' :: rest => .ok (String.ofList content.reverse, rest)
      | true, '"' :: '"' :: '"' :: rest => .ok (closeLines '"' content.reverse rest)
      | _, '\\' :: rest =>
          match readEscape overLines rest with
          | .error flaw => .error flaw
          | .ok (shown, after) =>
              readDoublyQuoted overLines steps (shown.reverse ++ content) after
      | _, character :: rest =>
          if isControl character && !(overLines && character == '\n') then
            .error .malformed
          else
            readDoublyQuoted overLines steps (character :: content) rest
      | _, [] => .error .malformed

/-- Read the rest of a text in three single quotes; what was read before is in reverse. -/
def readSinglyQuotedLines (content : List Char) : Reader String
  | '\'' :: '\'' :: '\'' :: rest => .ok (closeLines '\'' content.reverse rest)
  | character :: rest =>
      if isControl character && character != '\n' then
        .error .malformed
      else
        readSinglyQuotedLines (character :: content) rest
  | [] => .error .malformed

/-- Read the rest of a text in single quotes. -/
def readSinglyQuoted : Reader String := fun characters =>
  let content := characters.takeWhile fun character => character != '\''
  match characters.drop content.length with
  | _ :: rest =>
      if content.any isControl then .error .malformed else .ok (String.ofList content, rest)
  | [] => .error .malformed

/-- Read a text that stands on one line, from its opening quote on. -/
def readQuotedOnLine : Reader String
  | '"' :: rest => readDoublyQuoted false (rest.length + 1) [] rest
  | '\'' :: rest => readSinglyQuoted rest
  | _ => .error .malformed

/-- Drop a line feed at the front. -/
def skipLineFeed : List Char → List Char
  | '\n' :: rest => rest
  | characters => characters

/-- Read a text of either kind, from its opening quotes on. -/
def readQuoted : Reader String
  | '"' :: '"' :: '"' :: rest => readDoublyQuoted true (rest.length + 1) [] (skipLineFeed rest)
  | '\'' :: '\'' :: '\'' :: rest => readSinglyQuotedLines [] (skipLineFeed rest)
  | characters => readQuotedOnLine characters

end DocMarkup.Settings
