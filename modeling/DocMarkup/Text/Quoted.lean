import DocMarkup.Text.Printable

namespace DocMarkup.Text

/-!
# Quoted texts

Messages show a text between quotes, with everything that cannot be seen
written as an escape. Single quotes are used unless the text holds a single
quote and no double quote.
-/

/-- The single quote. -/
def singleQuote : Char :=
  Char.ofNat 39

/-- The double quote. -/
def doubleQuote : Char :=
  Char.ofNat 34

/-- The quote put around a text. -/
def quoteFor (characters : List Char) : Char :=
  if characters.contains singleQuote && !characters.contains doubleQuote then
    doubleQuote
  else
    singleQuote

/-- The last hexadecimal digits of a number, in lower case, as many as asked for. -/
def hexDigits : Nat → Nat → List Char
  | 0, _ => []
  | count + 1, value => hexDigits count (value / 16) ++ [Nat.digitChar (value % 16)]

/-- How one character is written between the given quotes. -/
def escaped (quote character : Char) : List Char :=
  if character == quote || character == '\\' then
    ['\\', character]
  else if character == '\t' then
    ['\\', 't']
  else if character == '\n' then
    ['\\', 'n']
  else if character == '\r' then
    ['\\', 'r']
  else if isPrintable character then
    [character]
  else if character.toNat < 0x100 then
    '\\' :: 'x' :: hexDigits 2 character.toNat
  else if character.toNat < 0x10000 then
    '\\' :: 'u' :: hexDigits 4 character.toNat
  else
    '\\' :: 'U' :: hexDigits 8 character.toNat

/-- A text between quotes, with escapes for what cannot be shown. -/
def quoted (text : String) : String :=
  let characters := text.toList
  let quote := quoteFor characters
  String.ofList (quote :: (characters.flatMap (escaped quote) ++ [quote]))

end DocMarkup.Text
