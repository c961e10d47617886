import DocMarkup.Encoding.Rendering

namespace DocMarkup.BoostBook

/-!
# BoostBook tags

Most elements have the tag of their own name. Styles are expressed as roles of
an emphasis, and the elements of the document header take their tags from the
type of the document.
-/

/-- The name space of inclusions. -/
def inclusionNamespace : String :=
  "http://www.w3.org/2001/XInclude"

/-- The lines in front of a document of a given type. -/
def prolog (docType : String) : String :=
  "<?xml version=\"1.0\" encoding=\"UTF-8\"?>\n" ++
    "<!DOCTYPE " ++ docType ++ " PUBLIC \"-//Boost//DTD BoostBook XML V1.0//EN\" " ++
    "\"http://www.boost.org/tools/boostbook/dtd/boostbook.dtd\">\n"

/-- Elements with a tag of another name, and the attributes that the tag then has. -/
def renamed? : String → Option (String × List Attribute)
  | "bold" => some ("emphasis", [("role", "bold")])
  | "italic" => some ("emphasis", [])
  | "underline" => some ("emphasis", [("role", "underline")])
  | "strikethrough" => some ("emphasis", [("role", "strikethrough")])
  | "teletype" => some ("literal", [])
  | "blurb" => some ("sidebar", [("role", "blurb")])
  | _ => none

/-- The tags of a document, with the prolog and a line of its own for the opening one. -/
def documentTags (docType : String) (attributes : List Attribute) : TagPair :=
  let kept := attributes.filter fun entry => entry.1 != "doctype"
  let pair := tagPair docType (kept ++ [("xmlns:xi", inclusionNamespace)])
  { opening := prolog docType ++ pair.opening ++ "\n"
    closing := pair.closing }

/-- The tags of a free-standing heading. -/
def headingTags (attributes : List Attribute) : TagPair :=
  let level := (attribute? attributes "level").getD "1"
  let kept := attributes.filter fun entry => entry.1 != "level"
  tagPair "bridgehead" (("renderas", "sect" ++ level) :: kept)

/-- The tags of an element in a document of the given type. -/
def tags (docType : String) (name : String) (attributes : List Attribute) : TagPair :=
  match name with
  | "document" =>
      (documentTags ((attribute? attributes "doctype").getD "article") attributes).ofBlock name
  | "docinfo" => (tagPair (docType ++ "info") []).ofBlock name
  | "purpose" => (tagPair (docType ++ "purpose") []).ofBlock name
  | "category" => (tagPair (docType ++ "category") []).ofBlock name
  | "heading" => (headingTags attributes).ofBlock name
  | "footnote" => { opening := "<footnote><para>", closing := "</para></footnote>" }
  | "linebreak" => { opening := "<sbr/>", closing := "" }
  | "anchor" => { opening := "<anchor" ++ renderAttributes attributes ++ "/>", closing := "" }
  | "image" =>
      let fileref := (attribute? attributes "fileref").getD ""
      { opening :=
          "<inlinemediaobject><imageobject><imagedata" ++
            renderAttributes [("fileref", fileref)] ++
            "/></imageobject></inlinemediaobject>"
        closing := "" }
  | "xinclude" =>
      { opening := "<xi:include" ++ renderAttributes attributes ++ "/>\n", closing := "" }
  | _ =>
      match renamed? name with
      | some (tag, added) => (tagPair tag (added ++ attributes)).ofBlock name
      | none => (tagPair name attributes).ofBlock name

/-- Open an element; a document sets the type that its header elements take their tags from. -/
def openElement
    (rendering : Rendering)
    (name : String)
    (attributes : List Attribute) :
    Rendering × TagPair :=
  let pair := tags rendering.docType name attributes
  if name = "document" then
    ({ rendering with docType := (attribute? attributes "doctype").getD "article" }, pair)
  else
    (rendering, pair)

end DocMarkup.BoostBook
