import DocMarkup.Encoding
import DocMarkup.Encoding.BoostBook
import DocMarkup.Encoding.Html

namespace DocMarkup

/-!
# Rendering events

Each event adds its text to the page. Elements must open and close like
brackets, and none may be left open at the end.
-/

/-- Why events cannot be rendered. -/
inductive RenderFault where
  | unbalancedEnd (name : String)
  | neverClosed (name : String)
  | unknownEvent
  | level (fault : Text.NumeralFault)
deriving DecidableEq, Repr

/-- The wording of a fault. -/
def RenderFault.message : RenderFault → String
  | .unbalancedEnd name => "Unbalanced end of element " ++ Text.quoted name
  | .neverClosed name => "Element " ++ Text.quoted name ++ " is never closed"
  | .unknownEvent => "Unknown output event None"
  | .level fault => fault.message

namespace Encoding

/-- Open an element. -/
def openElement
    (encoding : Encoding)
    (rendering : Rendering)
    (name : String)
    (attributes : List Attribute) :
    Except RenderFault Rendering :=
  let opened : Except Text.NumeralFault (Rendering × TagPair) :=
    match encoding with
    | .boostBook => .ok (BoostBook.openElement rendering name attributes)
    | .html => Html.openElement rendering name attributes
  match opened with
  | .error fault => .error (.level fault)
  | .ok (prepared, pair) =>
      let page := prepared.append pair.opening
      .ok { page with opened := ⟨name, pair.closing⟩ :: page.opened }

/-- Close the innermost element, which must have the given name. -/
def closeElement
    (encoding : Encoding)
    (rendering : Rendering)
    (name : String) :
    Except RenderFault Rendering :=
  match rendering.opened with
  | [] => .error (.unbalancedEnd name)
  | innermost :: outer =>
      if innermost.name = name then
        let page := { rendering.append innermost.closing with opened := outer }
        match encoding with
        | .boostBook => .ok page
        | .html => .ok (Html.closeElement page name)
      else
        .error (.unbalancedEnd name)

/-- Add one event to the page. -/
def renderEvent (encoding : Encoding) (rendering : Rendering) : Event → Except RenderFault Rendering
  | .opening name attributes => encoding.openElement rendering name attributes
  | .closing name => encoding.closeElement rendering name
  | .text content =>
      let page := rendering.append (escapeText content)
      match encoding with
      | .boostBook => .ok page
      | .html => .ok (Html.collectText page content)
  | .raw content => .ok (rendering.append content)

/-- Add events to the page. -/
def renderEvents
    (encoding : Encoding)
    (rendering : Rendering)
    (events : List Event) :
    Except RenderFault Rendering :=
  events.foldlM encoding.renderEvent rendering

/-- End the last line of a page that is not empty. -/
def withFinalLineFeed (page : String) : String :=
  if page.isEmpty || page.toList.getLast? == some '\n' then page else page ++ "\n"

/-- The page of a balanced stream of events. -/
def encode (encoding : Encoding) (events : List Event) : Except RenderFault String :=
  match encoding.renderEvents {} events with
  | .error fault => .error fault
  | .ok rendering =>
      match rendering.opened with
      | innermost :: _ => .error (.neverClosed innermost.name)
      | [] => .ok (withFinalLineFeed rendering.output)

/-- Render a stream that breaks off at something that is no event. -/
def encodeInterrupted (encoding : Encoding) (before : List Event) : Except RenderFault String :=
  match encoding.renderEvents {} before with
  | .error fault => .error fault
  | .ok _ => .error .unknownEvent

end Encoding

end DocMarkup
