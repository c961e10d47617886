import DocMarkup.Text.Blank

namespace DocMarkup.Settings

/-!
# Values of settings

Settings may be given any value, and only their validation tells which ones
make sense. A number that is no integer is kept as its numeral, and a moment as
the standard form of its text.
-/

/-- A value as it is found in a settings file or given by a caller. -/
inductive Value where
  | none
  | boolean (value : Bool)
  | integer (value : Int)
  | decimal (numeral : String)
  | text (value : String)
  | moment (value : String)
  | list (values : List Value)
  | table (entries : List (String × Value))
deriving Repr, Inhabited

/-- The entries of a table, in the order in which they are written. -/
abbrev Entries :=
  List (String × Value)

namespace Value

/-- The values that a value is made of: the members of a list, characters, or keys. -/
def elements? : Value → Option (List Value)
  | .list values => some values
  | .text value => some (value.toList.map fun character => .text (String.singleton character))
  | .table entries => some (entries.map fun entry => .text entry.1)
  | _ => Option.none

/-- The members of a list, if a value is one. -/
def members? : Value → Option (List Value)
  | .list values => some values
  | _ => Option.none

/-- The text that a value is, if it is one. -/
def text? : Value → Option String
  | .text value => some value
  | _ => Option.none

/-- The truth value that a value is, if it is one. -/
def boolean? : Value → Option Bool
  | .boolean value => some value
  | _ => Option.none

/-- The integer that a value is, if it is one; truth values are none. -/
def integer? : Value → Option Int
  | .integer value => some value
  | _ => Option.none

/-- The entries of a table, if a value is one. -/
def entries? : Value → Option Entries
  | .table entries => some entries
  | _ => Option.none

/-- Whether there is no value. -/
def isNone : Value → Bool
  | .none => true
  | _ => false

end Value

/-- The value under a key. -/
def lookup? (entries : Entries) (key : String) : Option Value :=
  (entries.find? fun entry => entry.1 == key).map (·.2)

/-- Replace the value under a key, or add it behind the others. -/
def replaceEntry (key : String) (value : Value) : Entries → Entries
  | [] => [(key, value)]
  | (name, old) :: rest =>
      if name == key then (key, value) :: rest else (name, old) :: replaceEntry key value rest

/-- The value that a row of keys leads to through tables. -/
def follow? (value : Value) : List String → Option Value
  | [] => some value
  | key :: rest =>
      match value with
      | .table entries =>
          match lookup? entries key with
          | some inside => follow? inside rest
          | none => none
      | _ => none

end DocMarkup.Settings
