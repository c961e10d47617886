import DocMarkup.Grammar.Inner
import DocMarkup.Grammar.Lookahead
import DocMarkup.Text.Indentation

namespace DocMarkup.Listing

open Compile

/-!
# Lists

The first item of a list is not indented. An item that is indented further than
the one before it opens a list inside that item. An item that is indented less
closes lists until it fits into one, or until one list is left.
-/

/-- Close an item and the list that it belongs to. -/
def closeList (state : CompilerState) (list : OpenList) : CompilerState :=
  (state.endElement "listitem").endElement list.name

/-- Close every open list. -/
def closeAll (state : CompilerState) (lists : List OpenList) : CompilerState :=
  lists.foldl closeList state

/--
The lists to be closed before an item of an indentation, and those that stay
open. The innermost list comes first, and the outermost is never closed.
-/
def splitAtIndent (indent : Nat) : List OpenList → List OpenList × List OpenList
  | innermost :: outer :: rest =>
      if indent < innermost.indent then
        let (closed, kept) := splitAtIndent indent (outer :: rest)
        (innermost :: closed, kept)
      else
        ([], innermost :: outer :: rest)
  | lists => ([], lists)

/-- Whether an item of an indentation opens a list inside the innermost open one. -/
def opensList (indent : Nat) : List OpenList → Bool
  | [] => true
  | innermost :: _ => innermost.indent < indent

/-- Begin an item: close the lists it is not part of, and open one or end the item before it. -/
def beginItem
    (state : CompilerState)
    (item : OpenList)
    (lists : List OpenList) :
    CompilerState × List OpenList :=
  let (closed, kept) := splitAtIndent item.indent lists
  let fitting := closeAll state closed
  let (prepared, opened) :=
    if opensList item.indent kept then
      (fitting.startElement item.name, item :: kept)
    else
      (fitting.endElement "listitem", kept)
  ((prepared.startElement "listitem").startElement "simpara", opened)

/-- One item of a list and those behind it, inside the given open lists. -/
def step (inner : Inner) (lists : List OpenList) (cursor : Cursor) : Compile Cursor := do
  match cursor.listMarker? with
  | none =>
      update fun state => closeAll state lists
      return cursor
  | some (marker, content) =>
      let item : OpenList :=
        { indent := Text.blankWidth 0 marker.indent
          name := if marker.ordered then "orderedlist" else "itemizedlist" }
      let opened := (beginItem (← state) item lists).2
      update fun state => (beginItem state item lists).1
      let (_, next) ← inner.phrase .listItem content
      update fun state => state.endElement "simpara"
      match next.character? '\n' with
      | some nextLine => inner.items opened nextLine
      | none =>
          update fun state => closeAll state opened
          return next

/-- A list, which starts without indentation. -/
def rule (inner : Inner) : Rule := fun cursor => do
  match cursor.listMarker? with
  | some (marker, _) =>
      if marker.indent.isEmpty then
        return some (← inner.items [] cursor)
      else
        return none
  | none => return none

end DocMarkup.Listing
