import DocMarkup.Settings.Nesting
import DocMarkup.Settings.QuotedText
import DocMarkup.Settings.Scalar

namespace DocMarkup.Settings

/-!
# Reading settings files

A settings file consists of entries that give a key a value, under headers that
open a table or add a table to a list of tables. A file that breaks a rule is
malformed as a whole.
-/

/-- A value that may be missing, which is a flaw. -/
def required : Option α → Except FileFlaw α
  | some value => .ok value
  | none => .error .malformed

/-- Characters of a key without quotes. -/
def isKeyCharacter (character : Char) : Bool :=
  character.isAlphanum || character == '_' || character == '-'

/-- Whether a character starts a key. -/
def startsKey (character : Char) : Bool :=
  isKeyCharacter character || character == '"' || character == '\''

/-- Read a key. -/
def readKey : Reader String := fun characters =>
  let bare := characters.takeWhile isKeyCharacter
  if bare.isEmpty then
    readQuotedOnLine characters
  else
    .ok (String.ofList bare, characters.drop bare.length)

/-- Read at most the given number of keys with dots between them, and the space behind them. -/
def readKeys : Nat → Reader (List String)
  | 0, _ => .error .malformed
  | steps + 1, characters => do
      let (key, afterKey) ← readKey characters
      match skipSpace afterKey with
      | '.' :: rest =>
          let (keys, remaining) ← readKeys steps (skipSpace rest)
          return (key :: keys, remaining)
      | remaining => return ([key], remaining)

/-- Read keys and the equals sign behind them. -/
def readAssigned (characters : List Char) : Except FileFlaw (List String × List Char) := do
  let (keys, afterKeys) ← readKeys characters.length characters
  let afterSign ← required (after? '=' afterKeys)
  return (keys, skipSpace afterSign)

mutual

/-- Read a value, in a number of steps. -/
def readValue : Nat → Reader Value
  | 0, _ => .error .malformed
  | steps + 1, characters =>
      match characters with
      | 't' :: 'r' :: 'u' :: 'e' :: rest => .ok (.boolean true, rest)
      | 'f' :: 'a' :: 'l' :: 's' :: 'e' :: rest => .ok (.boolean false, rest)
      | '[' :: rest => do
          let (members, remaining) ← readMembers steps rest
          return (.list members, remaining)
      | '\x7b' :: rest =>
          match skipSpace rest with
          | '\x7d' :: remaining => .ok (.table [], remaining)
          | inside => do
              let (entries, remaining) ← readEntries steps {} inside
              return (.table entries, remaining)
      | first :: _ =>
          if first = '"' || first = '\'' then do
            let (text, remaining) ← readQuoted characters
            return (.text text, remaining)
          else
            readScalar characters
      | [] => .error .malformed

/-- Read the members of a list and its closing bracket, in a number of steps. -/
def readMembers : Nat → Reader (List Value)
  | 0, _ => .error .malformed
  | steps + 1, characters => do
      match ← skipLines (characters.length + 1) characters with
      | ']' :: rest => return ([], rest)
      | member =>
          let (value, afterValue) ← readValue steps member
          match ← skipLines (afterValue.length + 1) afterValue with
          | ',' :: rest =>
              let (values, remaining) ← readMembers steps rest
              return (value :: values, remaining)
          | ']' :: rest => return ([value], rest)
          | _ => .error .malformed

/-- Read the entries of a table that is written as a value, and its closing brace. -/
def readEntries : Nat → Nesting → Reader Entries
  | 0, _, _ => .error .malformed
  | steps + 1, nesting, characters => do
      let (keys, assigned) ← readAssigned characters
      let (value, afterValue) ← readValue steps assigned
      let extended ← required (nesting.addEntry? keys value)
      match skipSpace afterValue with
      | '\x7d' :: rest => return (extended.entries, rest)
      | ',' :: rest => readEntries steps extended (skipSpace rest)
      | _ => .error .malformed

end

/-- Read a header or an entry, if there is one in front of the comment of a line. -/
def readStatement (nesting : Nesting) : Reader Nesting
  | '#' :: rest => .ok (nesting, '#' :: rest)
  | '[' :: '[' :: rest => do
      let (keys, afterKeys) ← readKeys rest.length (skipSpace rest)
      let opened ← required (nesting.endSection.openMember? keys)
      let remaining ← required ((after? ']' afterKeys).bind (after? ']'))
      return (opened, remaining)
  | '[' :: rest => do
      let (keys, afterKeys) ← readKeys rest.length (skipSpace rest)
      let opened ← required (nesting.endSection.openTable? keys)
      let remaining ← required (after? ']' afterKeys)
      return (opened, remaining)
  | characters =>
      if characters.head?.any startsKey then do
        let (keys, assigned) ← readAssigned characters
        let (value, remaining) ← readValue (2 * assigned.length + 2) assigned
        let extended ← required (nesting.addEntry? keys value)
        return (extended, remaining)
      else
        .error .malformed

/-- Read at most the given number of lines. -/
def readLines : Nat → Nesting → List Char → Except FileFlaw Nesting
  | 0, _, _ => .error .malformed
  | steps + 1, nesting, characters =>
      match skipSpace characters with
      | [] => .ok nesting
      | '\n' :: rest => readLines steps nesting rest
      | statement => do
          let (changed, afterStatement) ← readStatement nesting statement
          match ← skipComment (skipSpace afterStatement) with
          | [] => return changed
          | '\n' :: rest => readLines steps changed rest
          | _ => .error .malformed

/-- The entries of a settings file, if it is well formed. -/
def readFile (characters : List Char) : Except FileFlaw Entries := do
  return (← readLines (characters.length + 1) {} characters).entries

end DocMarkup.Settings
