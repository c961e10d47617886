import DocMarkup.Settings.Value

namespace DocMarkup.Settings

/-!
# Nested tables

Headers and dotted keys lead into tables within tables. A table may be opened by
one header only; a table that dotted keys lead through belongs to the header
under which they stand; and lists and tables that are written as values are
never changed afterwards.
-/

/-- Change the last member of a list. -/
def modifyLast? (change : Value → Option Value) : List Value → Option (List Value)
  | [] => none
  | [last] => (change last).map fun changed => [changed]
  | value :: rest => (modifyLast? change rest).map (value :: ·)

/--
Change the entries of the table that a row of keys leads to. Missing tables are
made, and a list of tables leads to its last member.
-/
def modifyTable? (change : Entries → Option Entries) : List String → Entries → Option Entries
  | [], entries => change entries
  | key :: rest, entries =>
      let inside (value : Value) : Option Value :=
        match value with
        | .table found => (modifyTable? change rest found).map .table
        | _ => none
      match lookup? entries key with
      | none => (modifyTable? change rest []).map fun made => entries ++ [(key, .table made)]
      | some (.list values) =>
          (modifyLast? inside values).map fun changed =>
            replaceEntry key (.list changed) entries
      | some value =>
          (inside value).map fun changed => replaceEntry key changed entries

/-- Add an entry to a table that has none under its key. -/
def addValue? (key : String) (value : Value) (entries : Entries) : Option Entries :=
  match lookup? entries key with
  | some _ => none
  | none => some (entries ++ [(key, value)])

/-- Add an empty table to the list of tables under a key. -/
def addTable? (key : String) (entries : Entries) : Option Entries :=
  match lookup? entries key with
  | none => some (entries ++ [(key, .list [.table []])])
  | some (.list values) => some (replaceEntry key (.list (values ++ [.table []])) entries)
  | some _ => none

/--
Tables as far as they are read: their entries, the tables that no further header
may open, those that the next header closes in this way, the values that may not
be changed, and the table that the last header opened.
-/
structure Nesting where
  entries : Entries := []
  closed : List (List String) := []
  closing : List (List String) := []
  frozen : List (List String) := []
  header : List String := []

/-- The tables that lead from one table to the last of several keys. -/
def tablesOnTheWay (table keys : List String) : List (List String) :=
  (List.range (keys.length - 1)).map fun depth => table ++ keys.take (depth + 1)

namespace Nesting

/-- Whether a place is in a value that may not be changed. -/
def isFrozen (nesting : Nesting) (place : List String) : Bool :=
  nesting.frozen.any fun value => value.isPrefixOf place

/-- End the section of a header. -/
def endSection (nesting : Nesting) : Nesting :=
  { nesting with closed := nesting.closing ++ nesting.closed, closing := [] }

/-- Open a table by a header. -/
def openTable? (nesting : Nesting) (keys : List String) : Option Nesting :=
  if nesting.closed.contains keys || nesting.isFrozen keys then
    none
  else
    (modifyTable? some keys nesting.entries).map fun entries =>
      { nesting with entries := entries, closed := keys :: nesting.closed, header := keys }

/-- Open a new member of a list of tables by a header; what was said about the last is forgotten. -/
def openMember? (nesting : Nesting) (keys : List String) : Option Nesting :=
  match keys.getLast? with
  | none => none
  | some key =>
      if nesting.isFrozen keys then
        none
      else
        let isElsewhere (place : List String) : Bool := !keys.isPrefixOf place
        (modifyTable? (addTable? key) keys.dropLast nesting.entries).map fun entries =>
          { nesting with
            entries := entries
            closed := keys :: nesting.closed.filter isElsewhere
            frozen := nesting.frozen.filter isElsewhere
            header := keys }

/-- Add an entry under the last header. -/
def addEntry? (nesting : Nesting) (keys : List String) (value : Value) : Option Nesting :=
  match keys.getLast? with
  | none => none
  | some key =>
      let way := tablesOnTheWay nesting.header keys
      let table := nesting.header ++ keys.dropLast
      if way.any nesting.closed.contains || nesting.isFrozen table then
        none
      else
        (modifyTable? (addValue? key value) table nesting.entries).map fun entries =>
          let isFixed := value.members?.isSome || value.entries?.isSome
          { nesting with
            entries := entries
            closing := way ++ nesting.closing
            frozen :=
              if isFixed then (nesting.header ++ keys) :: nesting.frozen else nesting.frozen }

end Nesting

end DocMarkup.Settings
