namespace DocMarkup

/-!
# Tables of names

A table keeps one value for each of its names, in the order in which the names
were first entered. Entering a new name and taking it out again leaves the table
as it was, and so does replacing a value and putting the old one back.
-/

/-- Values under names, in the order of entry. -/
structure NameTable (α : Type) where
  entries : List (String × α) := []
deriving DecidableEq, Repr

namespace NameTable

variable {α : Type}

/-- The value under a name. -/
def find? (table : NameTable α) (name : String) : Option α :=
  (table.entries.find? fun entry => entry.1 == name).map (·.2)

/-- Whether there is a value under a name. -/
def contains (table : NameTable α) (name : String) : Bool :=
  (table.find? name).isSome

/-- Put a value under a name, in the place of the one that is there. -/
def insertEntry (name : String) (value : α) : List (String × α) → List (String × α)
  | [] => [(name, value)]
  | (key, old) :: rest =>
      if key == name then (name, value) :: rest else (key, old) :: insertEntry name value rest

/-- Enter a value under a name. -/
def insert (table : NameTable α) (name : String) (value : α) : NameTable α :=
  { entries := insertEntry name value table.entries }

/-- Take a name out. -/
def erase (table : NameTable α) (name : String) : NameTable α :=
  { entries := table.entries.filter fun entry => entry.1 != name }

/-- Put back what was under a name before it was entered. -/
def restore (table : NameTable α) (name : String) (previous : Option α) : NameTable α :=
  match previous with
  | none => table.erase name
  | some value => table.insert name value

/-- The number of names. -/
def size (table : NameTable α) : Nat :=
  table.entries.length

/-- The table of a list of entries, of which a later one replaces an earlier one. -/
def ofEntries (entries : List (String × α)) : NameTable α :=
  entries.foldl (fun table entry => table.insert entry.1 entry.2) {}

end NameTable

end DocMarkup
