import DocMarkup.Text.Blank
import DocMarkup.Text.Quoted

namespace DocMarkup.Markup

/-!
# Tokens of markup

Markup is cut into tags, comments, sections of character data, instructions,
declarations and text. Each kind is told by the characters after its opening
angle bracket, so at most one kind fits. A token takes its first character and
a measured number of those that follow it; the texts of the tokens make up the
markup again.
-/

/-- The kinds of tokens. -/
inductive TokenKind where
  | start
  | finish
  | empty
  | text
  | comment
  | characterData
  | instruction
  | declaration
deriving DecidableEq, Repr

/-- A piece of markup, with the element name if it is a tag. -/
structure Token where
  kind : TokenKind
  text : List Char
  name : List Char
deriving DecidableEq, Repr

/-- What is wrong with markup. -/
inductive MarkupError where
  | unrecognised
  | strayEnd (name : List Char) (innermost : Option (List Char))
  | neverClosed (name : List Char)
deriving DecidableEq, Repr

/-- The wording of an error. -/
def MarkupError.message : MarkupError → String
  | .unrecognised => "unrecognized markup"
  | .strayEnd name innermost =>
      let expected :=
        match innermost with
        | some openName => String.ofList openName
        | none => "nothing"
      "end tag </" ++ String.ofList name ++ "> closes " ++ expected
  | .neverClosed name => "element <" ++ String.ofList name ++ "> is never closed"

/-- An error and where it was found. -/
structure MarkupFault where
  error : MarkupError
  offset : Nat
deriving DecidableEq, Repr

/-- The wording of a fault. -/
def MarkupFault.message (fault : MarkupFault) : String :=
  "Post processing failed at offset " ++ toString fault.offset ++ ": " ++ fault.error.message

/-- What a token holds after its first character: its kind, the length and the name. -/
structure TokenShape where
  kind : TokenKind
  length : Nat
  name : List Char
deriving DecidableEq, Repr

/-- The length of a text up to and including the first occurrence of a closing text. -/
def lengthThrough? (closing : List Char) : List Char → Option Nat
  | [] => none
  | character :: rest =>
      if closing.isPrefixOf (character :: rest) then
        some closing.length
      else
        (lengthThrough? closing rest).map (· + 1)

/-- Characters of the name in a closing tag. -/
def isEndNameCharacter (character : Char) : Bool :=
  !(Text.isBlank character || character == '<' || character == '>' || character == '/')

/-- Characters of the name in an opening tag. -/
def isStartNameCharacter (character : Char) : Bool :=
  isEndNameCharacter character && character != '!' && character != '?'

/-- Characters of the name of an attribute. -/
def isAttributeNameCharacter (character : Char) : Bool :=
  isEndNameCharacter character && character != '='

/-- Quotes around the value of an attribute. -/
def isAttributeQuote (character : Char) : Bool :=
  character == Text.doubleQuote || character == Text.singleQuote

/-- The length of a quoted value, quotes included. -/
def quotedLength? : List Char → Option Nat
  | [] => none
  | quote :: value =>
      if isAttributeQuote quote then
        (lengthThrough? [quote] value).map (· + 1)
      else
        none

/-- The length of an attribute without the first of the blanks before it. -/
def attributeLength? (characters : List Char) : Option Nat :=
  let blanks := Text.runLength Text.isBlank characters
  let fromName := characters.drop blanks
  let name := Text.runLength isAttributeNameCharacter fromName
  let afterName := fromName.drop name
  let gap := Text.runLength Text.isBlank afterName
  if name = 0 then
    none
  else
    match afterName.drop gap with
    | '=' :: afterEquals =>
        let secondGap := Text.runLength Text.isBlank afterEquals
        (quotedLength? (afterEquals.drop secondGap)).map fun value =>
          blanks + name + gap + 1 + secondGap + value
    | _ => none

/-- The length of all attributes that follow one another, each with the blanks before it. -/
def attributesLength : List Char → Nat
  | [] => 0
  | blank :: rest =>
      if Text.isBlank blank then
        match attributeLength? rest with
        | some length => 1 + length + attributesLength (rest.drop length)
        | none => 0
      else
        0
termination_by characters => characters.length
decreasing_by
  simp only [List.length_drop, List.length_cons]
  omega

/-- A tag that opens an element, or stands for an empty one, after its angle bracket. -/
def startShape? (characters : List Char) : Option TokenShape :=
  let name := characters.takeWhile isStartNameCharacter
  let afterName := characters.drop name.length
  let attributes := attributesLength afterName
  let afterAttributes := afterName.drop attributes
  let blanks := Text.runLength Text.isBlank afterAttributes
  let length := name.length + attributes + blanks
  if name.isEmpty then
    none
  else
    match afterAttributes.drop blanks with
    | '>' :: _ => some ⟨.start, length + 1, name⟩
    | '/' :: '>' :: _ => some ⟨.empty, length + 2, name⟩
    | _ => none

/-- A tag that closes an element, after its angle bracket and slash. -/
def finishShape? (characters : List Char) : Option TokenShape :=
  let name := characters.takeWhile isEndNameCharacter
  let afterName := characters.drop name.length
  let blanks := Text.runLength Text.isBlank afterName
  if name.isEmpty then
    none
  else
    match afterName.drop blanks with
    | '>' :: _ => some ⟨.finish, 1 + name.length + blanks + 1, name⟩
    | _ => none

/-- A construct that ends at the first occurrence of a text; `opened` characters come before. -/
def enclosedShape?
    (kind : TokenKind)
    (opened : Nat)
    (closing : String)
    (characters : List Char) :
    Option TokenShape :=
  (lengthThrough? closing.toList characters).map fun length => ⟨kind, opened + length, []⟩

/-- What follows an opening angle bracket and an exclamation mark. -/
def exclamationShape? (characters : List Char) : Option TokenShape :=
  match characters with
  | '-' :: '-' :: content => enclosedShape? .comment 3 "-->" content
  | '[' :: 'C' :: 'D' :: 'A' :: 'T' :: 'A' :: '[' :: content =>
      enclosedShape? .characterData 8 "]]>" content
  | letter :: content =>
      if letter.isAlpha then enclosedShape? .declaration 2 ">" content else none
  | [] => none

/-- What follows an opening angle bracket. -/
def bracketShape? (characters : List Char) : Option TokenShape :=
  match characters with
  | '!' :: content => exclamationShape? content
  | '?' :: content => enclosedShape? .instruction 1 "?>" content
  | '/' :: content => finishShape? content
  | _ => startShape? characters

/-- The token that starts with a character, given what follows it. -/
def tokenShape? (first : Char) (rest : List Char) : Option TokenShape :=
  if first == '<' then
    bracketShape? rest
  else
    some ⟨.text, Text.runLength (fun character => character != '<') rest, []⟩

/-- The tokens of markup from an offset on, and the fault that ends them, if any. -/
def readTokens (offset : Nat) : List Char → List Token × Option MarkupFault
  | [] => ([], none)
  | first :: rest =>
      match tokenShape? first rest with
      | none => ([], some ⟨.unrecognised, offset⟩)
      | some shape =>
          let text := first :: rest.take shape.length
          let (tokens, fault) := readTokens (offset + text.length) (rest.drop shape.length)
          (⟨shape.kind, text, shape.name⟩ :: tokens, fault)
termination_by characters => characters.length
decreasing_by
  simp only [List.length_drop, List.length_cons]
  omega

/-- The tokens of markup in which every angle bracket opens something. -/
def tokenize (markup : List Char) : Except MarkupFault (List Token) :=
  match readTokens 0 markup with
  | (tokens, none) => .ok tokens
  | (_, some fault) => .error fault

end DocMarkup.Markup
