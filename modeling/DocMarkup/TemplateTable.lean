import DocMarkup.Event
import DocMarkup.NameTable

namespace DocMarkup

/-!
# Templates

A template is a named piece of markup with parameters. Templates live in scopes:
the outermost one belongs to the document, and every expansion opens a scope in
which the parameters stand for the arguments. Inner scopes hide outer ones.
Definitions are journaled like those of macros; the journal names a scope by the
number of scopes around it.
-/

/--
A template. The body of a block template starts on a line of its own. An
argument is a template whose output is already known.
-/
structure Template where
  name : String
  params : List String := []
  body : String
  block : Bool := false
  events : Option (List Event) := none
deriving DecidableEq, Repr

/-- A definition in a scope, and what it replaced there. -/
structure TemplateChange where
  scope : Nat
  name : String
  previous : Option Template
deriving DecidableEq, Repr

/-- The scopes, the document's apart from the inner ones, of which the innermost comes first. -/
structure TemplateTable where
  document : NameTable Template := {}
  inner : List (NameTable Template) := []
  journal : List TemplateChange := []
deriving DecidableEq, Repr

namespace TemplateTable

/-- The number of scopes. -/
def depth (table : TemplateTable) : Nat :=
  table.inner.length + 1

/-- All scopes, the innermost first. -/
def scopes (table : TemplateTable) : List (NameTable Template) :=
  table.inner ++ [table.document]

/-- The template that a name stands for. -/
def find? (table : TemplateTable) (name : String) : Option Template :=
  table.scopes.findSome? fun scope => scope.find? name

/-- Whether a name stands for a template. -/
def contains (table : TemplateTable) (name : String) : Bool :=
  table.scopes.any fun scope => scope.contains name

/-- The scope in which definitions are made. -/
def innermost (table : TemplateTable) : NameTable Template :=
  match table.inner with
  | [] => table.document
  | scope :: _ => scope

/-- Change the scope that has the given number of scopes around it, if there is one. -/
def modifyScope
    (table : TemplateTable)
    (scope : Nat)
    (change : NameTable Template → NameTable Template) :
    TemplateTable :=
  if scope = 0 then
    { table with document := change table.document }
  else if scope ≤ table.inner.length then
    { table with inner := table.inner.modify (table.inner.length - scope) change }
  else
    table

/-- The template that a definition in the innermost scope would replace. -/
def replaced? (table : TemplateTable) (name : String) : Option Template :=
  table.innermost.find? name

/-- Define a template in the innermost scope. -/
def define (table : TemplateTable) (template : Template) : TemplateTable :=
  let change : TemplateChange :=
    { scope := table.inner.length
      name := template.name
      previous := table.replaced? template.name }
  let changed :=
    table.modifyScope table.inner.length fun scope => scope.insert template.name template
  { changed with journal := change :: table.journal }

/-- Open a scope. -/
def pushScope (table : TemplateTable) (bindings : NameTable Template) : TemplateTable :=
  { table with inner := bindings :: table.inner }

/-- Close the innermost scope, unless it is the document's. -/
def popScope? (table : TemplateTable) : Option TemplateTable :=
  match table.inner with
  | [] => none
  | _ :: outer => some { table with inner := outer }

/-- The length of the journal, to which the table can be taken back. -/
def checkpoint (table : TemplateTable) : Nat :=
  table.journal.length

/-- Undo the given number of definitions, newest first; those of closed scopes are gone already. -/
def undo : Nat → TemplateTable → TemplateTable
  | 0, table => table
  | count + 1, table =>
      match table.journal with
      | [] => table
      | change :: older =>
          let undone :=
            table.modifyScope change.scope fun scope =>
              scope.restore change.name change.previous
          undo count { undone with journal := older }

/-- Undo the definitions made since a checkpoint. -/
def rollback (table : TemplateTable) (checkpoint : Nat) : TemplateTable :=
  undo (table.journal.length - checkpoint) table

end TemplateTable

end DocMarkup
