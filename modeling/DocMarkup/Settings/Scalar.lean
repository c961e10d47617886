import DocMarkup.Settings.Scan
import DocMarkup.Settings.Value

namespace DocMarkup.Settings

/-!
# Numbers and moments in settings files

As much is read as makes up a day, a time of day or a number; whatever follows
directly behind is not part of it. Days must be in the calendar.
-/

/-- Drop an expected character. -/
def after? (expected : Char) : List Char → Option (List Char)
  | character :: rest => if character = expected then some rest else none
  | [] => none

/-- Read two digits with a value in a range. -/
def twoDigits? (least most : Nat) : List Char → Option (List Char × List Char)
  | tens :: units :: rest =>
      if tens.isDigit && units.isDigit then
        let value := Text.digitsValue 10 ([tens, units].filterMap hexValue?)
        if least ≤ value && value ≤ most then some ([tens, units], rest) else none
      else
        none
  | _ => none

/-- The standard form of a fraction of a second: microseconds, unless they are none. -/
def standardFraction (digits : List Char) : List Char :=
  let microseconds := (digits ++ List.replicate 6 '0').take 6
  if microseconds.all fun digit => digit == '0' then [] else '.' :: microseconds

/-- Read the fraction of a second, if there is one. -/
def fraction (characters : List Char) : List Char × List Char :=
  match characters with
  | '.' :: rest =>
      let digits := rest.takeWhile Char.isDigit
      if digits.isEmpty then
        ([], characters)
      else
        (standardFraction digits, rest.drop digits.length)
  | _ => ([], characters)

/-- Read a time of day. -/
def clock? (characters : List Char) : Option (List Char × List Char) := do
  let (hours, afterHours) ← twoDigits? 0 23 characters
  let (minutes, afterMinutes) ← twoDigits? 0 59 (← after? ':' afterHours)
  let (seconds, afterSeconds) ← twoDigits? 0 59 (← after? ':' afterMinutes)
  let (parts, rest) := fraction afterSeconds
  return (hours ++ ':' :: minutes ++ ':' :: seconds ++ parts, rest)

/-- Read hours and minutes. -/
def hoursAndMinutes? (characters : List Char) : Option (List Char × List Char) := do
  let (hours, afterHours) ← twoDigits? 0 23 characters
  let (minutes, rest) ← twoDigits? 0 59 (← after? ':' afterHours)
  return (hours ++ ':' :: minutes, rest)

/-- Read the distance from universal time, if one is given. -/
def zone (characters : List Char) : List Char × List Char :=
  let none := "00:00".toList
  match characters with
  | 'Z' :: rest | 'z' :: rest => ('+' :: none, rest)
  | sign :: distance =>
      match hoursAndMinutes? distance with
      | some (shown, rest) =>
          if sign = '+' || sign = '-' then
            ((if shown = none then '+' else sign) :: shown, rest)
          else
            ([], characters)
      | _ => ([], characters)
  | [] => ([], [])

/-- A day as it is written. -/
structure WrittenDay where
  year : List Char
  month : List Char
  day : List Char
deriving DecidableEq, Repr

/-- The number that decimal digits spell. -/
def writtenValue (digits : List Char) : Nat :=
  Text.digitsValue 10 (digits.filterMap hexValue?)

/-- The number of days in a month. -/
def daysInMonth (year month : Nat) : Nat :=
  if month = 2 then
    if year % 4 = 0 && (year % 100 != 0 || year % 400 = 0) then 29 else 28
  else if month = 4 || month = 6 || month = 9 || month = 11 then
    30
  else
    31

/-- Whether a day is in the calendar, which starts with the year one. -/
def WrittenDay.isReal (written : WrittenDay) : Bool :=
  let year := writtenValue written.year
  1 ≤ year && writtenValue written.day ≤ daysInMonth year (writtenValue written.month)

/-- The standard form of a day. -/
def WrittenDay.shown (written : WrittenDay) : List Char :=
  written.year ++ '-' :: written.month ++ '-' :: written.day

/-- Read a day. -/
def day? (characters : List Char) : Option (WrittenDay × List Char) := do
  let year := characters.take 4
  guard (year.length = 4 && year.all Char.isDigit)
  let (month, afterMonth) ← twoDigits? 1 12 (← after? '-' (characters.drop 4))
  let (day, rest) ← twoDigits? 1 31 (← after? '-' afterMonth)
  return ({ year := year, month := month, day := day }, rest)

/-- Read the time of day and its distance from universal time behind a day, if there is one. -/
def clockOfDay (characters : List Char) : List Char × List Char :=
  match characters with
  | mark :: rest =>
      match clock? rest with
      | some (clock, afterClock) =>
          if mark = 'T' || mark = 't' || mark = ' ' then
            let (distance, remaining) := zone afterClock
            ('T' :: clock ++ distance, remaining)
          else
            ([], characters)
      | none => ([], characters)
  | [] => ([], [])

/-- Read a day with or without a time, or a time. -/
def moment? (characters : List Char) : Option (Except FileFlaw (Value × List Char)) :=
  match day? characters with
  | some (written, afterDay) =>
      let (clock, rest) := clockOfDay afterDay
      some
        (if written.isReal then
          .ok (.moment (String.ofList (written.shown ++ clock)), rest)
        else
          .error .malformed)
  | none =>
      (clock? characters).map fun (clock, rest) =>
        .ok (.moment (String.ofList clock), rest)

/-- Read an integer that is written with another base. -/
def basedInteger? : List Char → Option (Value × List Char)
  | '0' :: letter :: digits =>
      let base? : Option Nat :=
        match letter with
        | 'x' => some 16
        | 'o' => some 8
        | 'b' => some 2
        | _ => none
      base?.bind fun base =>
        let (values, rest) := Text.digitRun (digitBelow? base) false digits
        if values.isEmpty then
          none
        else
          some (.integer (Text.digitsValue base values), rest)
  | _ => none

/-- Read the digits in front of a point; only zero itself may start with zero. -/
def wholeDigits : List Char → List Nat × List Char
  | '0' :: rest => ([0], rest)
  | characters => Text.digitRun (digitBelow? 10) false characters

/-- Digits as they are written. -/
def shownDigits (digits : List Nat) : List Char :=
  digits.map fun digit => Char.ofNat ('0'.toNat + digit)

/-- Read the point of a number and the digits behind it, if there are any. -/
def pointPart (characters : List Char) : List Char × List Char :=
  match characters with
  | '.' :: rest =>
      let (digits, remaining) := Text.digitRun (digitBelow? 10) false rest
      if digits.isEmpty then ([], characters) else ('.' :: shownDigits digits, remaining)
  | _ => ([], characters)

/-- The sign of a numeral as it is written, without a plus. -/
def shownSign (sign : Int) : List Char :=
  if sign < 0 then ['-'] else []

/-- Read the exponent of a number, if there is one. -/
def exponentPart (characters : List Char) : List Char × List Char :=
  match characters with
  | mark :: rest =>
      let (sign, unsigned) := Text.splitSign rest
      let (digits, remaining) := Text.digitRun (digitBelow? 10) false unsigned
      if digits.isEmpty || !(mark = 'e' || mark = 'E') then
        ([], characters)
      else
        ('e' :: shownSign sign ++ shownDigits digits, remaining)
  | [] => ([], [])

/-- Read a number without digits: infinity, or the mark of an undefined result. -/
def specialNumber? (sign : Int) : Reader Value
  | 'i' :: 'n' :: 'f' :: rest => .ok (.decimal (String.ofList (shownSign sign ++ "inf".toList)), rest)
  | 'n' :: 'a' :: 'n' :: rest => .ok (.decimal "nan", rest)
  | _ => .error .malformed

/-- Read a number with the base ten. -/
def readDecimal : Reader Value := fun characters =>
  let (sign, unsigned) := Text.splitSign characters
  let (whole, afterWhole) := wholeDigits unsigned
  let (point, afterPoint) := pointPart afterWhole
  let (exponent, rest) := exponentPart afterPoint
  if whole.isEmpty then
    specialNumber? sign unsigned
  else if point.isEmpty && exponent.isEmpty then
    match Text.decimalValue whole with
    | .error fault => .error (.numeral fault)
    | .ok value => .ok (.integer (sign * value), rest)
  else
    .ok
      (.decimal (String.ofList (shownSign sign ++ shownDigits whole ++ point ++ exponent)), rest)

/-- Read a moment or a number. -/
def readScalar : Reader Value := fun characters =>
  match moment? characters with
  | some result => result
  | none =>
      match basedInteger? characters with
      | some result => .ok result
      | none => readDecimal characters

end DocMarkup.Settings
