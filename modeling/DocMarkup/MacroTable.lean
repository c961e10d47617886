import DocMarkup.NameTable

namespace DocMarkup

/-!
# Macros

A macro is a name for a piece of markup. The last definition of a name counts.
Definitions are written into a journal, newest first, together with what they
replaced, so that the definitions of an abandoned attempt can be undone.
-/

/-- The macros defined so far, and how to undo each definition. -/
structure MacroTable where
  bodies : NameTable String := {}
  journal : List (String × Option String) := []
deriving DecidableEq, Repr

namespace MacroTable

/-- The body of a macro. -/
def find? (table : MacroTable) (name : String) : Option String :=
  table.bodies.find? name

/-- Whether a name is the name of a macro. -/
def contains (table : MacroTable) (name : String) : Bool :=
  table.bodies.contains name

/-- Define a macro. -/
def define (table : MacroTable) (name body : String) : MacroTable :=
  { bodies := table.bodies.insert name body
    journal := (name, table.bodies.find? name) :: table.journal }

/-- The length of the journal, to which the table can be taken back. -/
def checkpoint (table : MacroTable) : Nat :=
  table.journal.length

/-- Undo the given number of definitions, newest first. -/
def undo : Nat → MacroTable → MacroTable
  | 0, table => table
  | count + 1, table =>
      match table.journal with
      | [] => table
      | (name, previous) :: older =>
          undo count { bodies := table.bodies.restore name previous, journal := older }

/-- Undo the definitions made since a checkpoint. -/
def rollback (table : MacroTable) (checkpoint : Nat) : MacroTable :=
  undo (table.journal.length - checkpoint) table

end MacroTable

end DocMarkup
