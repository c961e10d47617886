import DocMarkup.Text.Blank
import DocMarkup.Text.Digit
import DocMarkup.Text.Quoted

namespace DocMarkup.Text

/-!
# Numerals

An integer may be written with a sign, with digits of any script, with single
underscores between digits and with blanks around it. A numeral with very many
digits is refused before anything is known about what follows its digits.
-/

/-- The most digits that a numeral may have. -/
def numeralLimit : Nat :=
  4300

/-- Why a numeral stands for no integer. -/
inductive NumeralFault where
  | malformed (text : String)
  | tooLong (digits : Nat)
deriving DecidableEq, Repr

/-- The number of characters of a malformed numeral that a message shows. -/
def shownNumeralLength : Nat :=
  200

/-- The wording of a fault. -/
def NumeralFault.message : NumeralFault → String
  | .malformed text =>
      "invalid literal for int() with base 10: " ++
        String.ofList ((quoted text).toList.take shownNumeralLength)
  | .tooLong digits =>
      "Exceeds the limit (" ++ toString numeralLimit ++
        " digits) for integer string conversion: value has " ++ toString digits ++
        " digits; use sys.set_int_max_str_digits() to increase the limit"

/--
The digits at the front of a text, and what remains. Behind a digit, a single
underscore may stand in front of the next one.
-/
def digitRun
    (digit? : Char → Option Nat)
    (afterDigit : Bool) :
    List Char →
    List Nat × List Char
  | '_' :: character :: rest =>
      match afterDigit, digit? character with
      | true, some digit =>
          let (digits, remaining) := digitRun digit? true rest
          (digit :: digits, remaining)
      | _, _ => ([], '_' :: character :: rest)
  | character :: rest =>
      match digit? character with
      | some digit =>
          let (digits, remaining) := digitRun digit? true rest
          (digit :: digits, remaining)
      | none => ([], character :: rest)
  | [] => ([], [])

/-- The number that digits spell, the most significant one first. -/
def digitsValue (base : Nat) (digits : List Nat) : Nat :=
  digits.foldl (fun value digit => value * base + digit) 0

/-- The number that decimal digits spell, unless there are too many of them. -/
def decimalValue (digits : List Nat) : Except NumeralFault Nat :=
  if digits.length ≤ numeralLimit then
    .ok (digitsValue 10 digits)
  else
    .error (.tooLong digits.length)

/-- The blanks that may surround a numeral: all but the information separators. -/
def isNumeralBlank (character : Char) : Bool :=
  isBlank character && !(28 ≤ character.toNat && character.toNat ≤ 31)

/-- The sign at the front of a numeral, and what remains. -/
def splitSign : List Char → Int × List Char
  | '-' :: rest => (-1, rest)
  | '+' :: rest => (1, rest)
  | characters => (1, characters)

/-- The integer that a text spells. -/
def readInteger (text : String) : Except NumeralFault Int :=
  let (sign, unsigned) := splitSign (text.toList.dropWhile isNumeralBlank)
  let (digits, rest) := digitRun digitValue? false unsigned
  if digits.isEmpty || rest.head? == some '_' then
    .error (.malformed text)
  else
    match decimalValue digits with
    | .error fault => .error fault
    | .ok value =>
        if rest.all isNumeralBlank then .ok (sign * value) else .error (.malformed text)

end DocMarkup.Text
