namespace DocMarkup

/-!
# Moments

Documents are stamped with the moment of their compilation, unless they say
when they were revised last.
-/

/-- A day of the calendar and a time of that day. -/
structure Moment where
  year : Nat
  month : Nat
  day : Nat
  hour : Nat
  minute : Nat
  second : Nat
deriving DecidableEq, Repr

namespace Moment

/-- The moment that stands in for the clock when output must not vary. -/
def fixed : Moment :=
  { year := 2000, month := 12, day := 20, hour := 12, minute := 0, second := 0 }

/-- A number with two digits at least. -/
def twoDigits (value : Nat) : String :=
  if value < 10 then "0" ++ toString value else toString value

/-- The day, its parts joined by a separator. -/
def date (separator : String) (moment : Moment) : String :=
  toString moment.year ++ separator ++ twoDigits moment.month ++ separator ++
    twoDigits moment.day

/-- The time of the day. -/
def time (moment : Moment) : String :=
  twoDigits moment.hour ++ ":" ++ twoDigits moment.minute ++ ":" ++ twoDigits moment.second

end Moment

end DocMarkup
