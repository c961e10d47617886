import DocMarkup.Cursor
import DocMarkup.Text.Quoted

namespace DocMarkup

/-!
# Matching brackets

Constructs of the markup language are enclosed in brackets. The bracket that
closes the current one is found by counting. A backslash takes the character
after it out of the count, and so do three quotes all characters up to the next
three quotes. Comments are brackets that start with a slash.
-/

/-- The quotes around markup that is passed through as it stands. -/
def escapeQuotes : List Char :=
  List.replicate 3 Text.singleQuote

/-- The length of a text up to the first occurrence of three quotes. -/
def distanceToQuotes? : List Char → Option Nat
  | [] => none
  | character :: rest =>
      if escapeQuotes.isPrefixOf (character :: rest) then
        some 0
      else
        (distanceToQuotes? rest).map (· + 1)

/--
The number of characters after the first one of a text that starts with three
quotes and holds three further quotes later, through those.
-/
def quotedLengthAfter? (first : Char) (rest : List Char) : Option Nat :=
  if escapeQuotes.isPrefixOf (first :: rest) then
    (distanceToQuotes? (rest.drop 2)).map (· + 5)
  else
    none

/-- The distance to the bracket that closes the current one, with some brackets open inside it. -/
def closingDistance? (depth : Nat) : List Char → Option Nat
  | [] => none
  | first :: rest =>
      if first == '\\' then
        if rest.isEmpty then none else (closingDistance? depth (rest.drop 1)).map (· + 2)
      else
        match quotedLengthAfter? first rest with
        | some length => (closingDistance? depth (rest.drop length)).map (· + (length + 1))
        | none =>
            if first == '[' then
              (closingDistance? (depth + 1) rest).map (· + 1)
            else if first == ']' then
              if depth = 0 then some 0 else (closingDistance? (depth - 1) rest).map (· + 1)
            else
              (closingDistance? depth rest).map (· + 1)
termination_by characters => characters.length
decreasing_by
  all_goals simp only [List.length_drop, List.length_cons]
  all_goals omega

/-- The length of the white space and the comments at the front of a text. -/
def commentsLength (characters : List Char) : Nat :=
  let blanks := Text.runLength Text.isBlank characters
  match _found : characters.drop blanks with
  | '[' :: '/' :: rest =>
      match closingDistance? 0 rest with
      | some length => blanks + (length + 3) + commentsLength (rest.drop (length + 1))
      | none => blanks
  | _ => blanks
termination_by characters.length
decreasing_by
  have total := congrArg List.length _found
  simp only [List.length_drop, List.length_cons] at total ⊢
  omega

/--
The length of a title: up to a line feed, an unmatched closing bracket, or an
opening bracket outside others whose content is the first entry after the title.
-/
def titleLength (startsEntry : List Char → Bool) (depth : Nat) : List Char → Nat
  | [] => 0
  | [character] =>
      if character == '\n' || (character == ']' && depth == 0) ||
          (character == '[' && depth == 0 && startsEntry []) then
        0
      else
        1
  | first :: second :: rest =>
      if first == '\n' then
        0
      else if first == '\\' then
        2 + titleLength startsEntry depth rest
      else if first == '[' then
        if depth == 0 && startsEntry (second :: rest) then
          0
        else
          1 + titleLength startsEntry (depth + 1) (second :: rest)
      else if first == ']' then
        if depth = 0 then 0 else 1 + titleLength startsEntry (depth - 1) (second :: rest)
      else
        1 + titleLength startsEntry depth (second :: rest)

namespace Cursor

/-- Read up to the bracket that closes the current one. -/
def balanced? (cursor : Cursor) : Option (String × Cursor) :=
  (closingDistance? 0 cursor.rest).map fun length =>
    (String.ofList (cursor.rest.take length), cursor.advance length)

/-- Read a closing bracket. -/
def close? (cursor : Cursor) : Option Cursor :=
  cursor.character? ']'

/-- Read up to and through the bracket that closes the current one. -/
def balancedThrough? (cursor : Cursor) : Option (String × Cursor) :=
  match cursor.balanced? with
  | none => none
  | some (content, atBracket) => atBracket.close?.map fun next => (content, next)

/-- The cursor after the white space and the comments that come next. -/
def skipComments (cursor : Cursor) : Cursor :=
  cursor.advance (commentsLength cursor.rest)

/-- Skipping white space and comments never adds to what remains. -/
theorem length_rest_skipComments_le (cursor : Cursor) :
    cursor.skipComments.rest.length ≤ cursor.rest.length := by
  simp [skipComments]

/-- Reading up to a bracket never adds to what remains. -/
theorem length_rest_balanced?_le
    {cursor next : Cursor}
    {content : String}
    (read : cursor.balanced? = some (content, next)) :
    next.rest.length ≤ cursor.rest.length := by
  simp only [balanced?, Option.map_eq_some_iff, Prod.mk.injEq] at read
  obtain ⟨length, _, _, rfl⟩ := read
  simp

end Cursor

end DocMarkup
