import DocMarkup.Markup.Token

namespace DocMarkup.Markup

/-!
# Trees of markup

Tags that open and close like brackets give a tree. The tree keeps the text of
every token, so that it can be written as it was read.
-/

/-- A node of a tree of markup. -/
inductive Node where
  | leaf (kind : TokenKind) (content : List Char)
  | emptyElement (name tag : List Char)
  | element (name startTag endTag : List Char) (children : List Node)

mutual

/-- The markup of a node, as it was read. -/
def Node.serialize : Node → List Char
  | .leaf _ content => content
  | .emptyElement _ tag => tag
  | .element _ startTag endTag children => startTag ++ serializeAll children ++ endTag

/-- The markup of nodes in a row, as it was read. -/
def serializeAll : List Node → List Char
  | [] => []
  | node :: rest => node.serialize ++ serializeAll rest

end

/-- An element that has been opened, and the nodes before it inside its parent, last first. -/
structure OpenNode where
  name : List Char
  startTag : List Char
  before : List Node

/--
Build the nodes of a row of tokens. The open elements are given innermost
first, and the nodes inside the innermost of them last first.
-/
def buildFrom :
    Nat →
    List OpenNode →
    List Node →
    List Token →
    Except MarkupFault (List Node)
  | _, [], nodes, [] => .ok nodes.reverse
  | offset, innermost :: _, _, [] => .error ⟨.neverClosed innermost.name, offset⟩
  | offset, opened, nodes, token :: rest =>
      let next := offset + token.text.length
      match token.kind with
      | .start => buildFrom next (⟨token.name, token.text, nodes⟩ :: opened) [] rest
      | .empty => buildFrom next opened (.emptyElement token.name token.text :: nodes) rest
      | .finish =>
          match opened with
          | [] => .error ⟨.strayEnd token.name none, offset⟩
          | innermost :: outer =>
              if innermost.name = token.name then
                let closed :=
                  Node.element innermost.name innermost.startTag token.text nodes.reverse
                buildFrom next outer (closed :: innermost.before) rest
              else
                .error ⟨.strayEnd token.name (some innermost.name), offset⟩
      | kind => buildFrom next opened (.leaf kind token.text :: nodes) rest

/-- The nodes of markup whose tags are recognised and closed in order. -/
def parseTree (markup : List Char) : Except MarkupFault (List Node) :=
  match tokenize markup with
  | .error fault => .error fault
  | .ok tokens => buildFrom 0 [] [] tokens

/-- Why markup is not a balanced fragment, if it is not. -/
def findError? (markup : String) : Option MarkupError :=
  match parseTree markup.toList with
  | .ok _ => none
  | .error fault => some fault.error

end DocMarkup.Markup
