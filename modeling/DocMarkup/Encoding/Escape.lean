import DocMarkup.Event

namespace DocMarkup

/-!
# Escapes

Character data must not be taken for markup: ampersands and angle brackets are
written as entities, and in attribute values so are double quotes.
-/

/-- How a character of a text is written. -/
def escapeTextCharacter (character : Char) : List Char :=
  if character == '&' then
    "&amp;".toList
  else if character == '<' then
    "&lt;".toList
  else if character == '>' then
    "&gt;".toList
  else
    [character]

/-- How a character of an attribute value is written. -/
def escapeAttributeCharacter (character : Char) : List Char :=
  if character == '"' then "&quot;".toList else escapeTextCharacter character

/-- A text as character data. -/
def escapeText (text : String) : String :=
  String.ofList (text.toList.flatMap escapeTextCharacter)

/-- A text as the value of an attribute. -/
def escapeAttribute (text : String) : String :=
  String.ofList (text.toList.flatMap escapeAttributeCharacter)

/-- One attribute inside a tag, with the blank before it. -/
def renderAttribute (entry : Attribute) : String :=
  " " ++ entry.1 ++ "=\"" ++ escapeAttribute entry.2 ++ "\""

/-- The attributes of a tag. -/
def renderAttributes (attributes : List Attribute) : String :=
  String.join (attributes.map renderAttribute)

end DocMarkup
