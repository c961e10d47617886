import DocMarkup.Encoding.Rendering
import DocMarkup.Text.Numeral

namespace DocMarkup.Html

/-!
# HTML tags

Sections become nested divisions whose titles are headings of the level that
their depth gives. The title of the document is the heading of the page and is
repeated in the head. Elements that only group others in BoostBook have no tags.
-/

/-- The deepest level of headings. -/
def deepestHeading : Int :=
  6

/-- Elements with a tag of another name, and the attributes that the tag then has. -/
def renamed? : String → Option (String × List Attribute)
  | "para" => some ("p", [])
  | "bold" => some ("strong", [])
  | "italic" => some ("em", [])
  | "underline" => some ("u", [])
  | "strikethrough" => some ("del", [])
  | "teletype" => some ("code", [("class", "teletype")])
  | "replaceable" => some ("var", [])
  | "code" => some ("code", [])
  | "programlisting" => some ("pre", [("class", "programlisting")])
  | "itemizedlist" => some ("ul", [])
  | "orderedlist" => some ("ol", [])
  | "variablelist" => some ("dl", [])
  | "term" => some ("dt", [])
  | "informaltable" => some ("table", [])
  | "thead" => some ("thead", [])
  | "tbody" => some ("tbody", [])
  | "row" => some ("tr", [])
  | "blockquote" => some ("blockquote", [])
  | "docinfo" => some ("div", [("class", "docinfo")])
  | "authorgroup" => some ("div", [("class", "authorgroup")])
  | "author" => some ("p", [("class", "author")])
  | "firstname" => some ("span", [("class", "firstname")])
  | "surname" => some ("span", [("class", "surname")])
  | "copyright" => some ("p", [("class", "copyright")])
  | "year" => some ("span", [("class", "year")])
  | "holder" => some ("span", [("class", "holder")])
  | "legalnotice" => some ("div", [("class", "legalnotice")])
  | "purpose" => some ("p", [("class", "purpose")])
  | "category" => some ("p", [("class", "category")])
  | "footnote" => some ("span", [("class", "footnote")])
  | "blurb" => some ("div", [("class", "blurb")])
  | _ => none

/-- Elements that only group others. -/
def groupingElements : List String :=
  ["simpara", "tgroup", "varlistentry"]

/-- Elements that draw attention to a remark. -/
def admonitions : List String :=
  ["note", "tip", "important", "caution", "warning"]

/-- The first attribute value of a key, empty if there is none. -/
def valueOf (attributes : List Attribute) (key : String) : String :=
  (attribute? attributes key).getD ""

/-- The name of the heading tag for a level, no deeper than the deepest one. -/
def headingTag (level : Int) : String :=
  "h" ++ toString (min level deepestHeading)

/-- The tags of a title, by the elements around it. -/
def titleTags (openNames : List String) : TagPair :=
  match openNames.head? with
  | some "document" => tagPair "h1" [("class", "title")]
  | some "section" => tagPair (headingTag (openNames.count "section" + 1)) []
  | some "table" => tagPair "caption" []
  | some "informaltable" => tagPair "caption" []
  | _ => tagPair "p" [("class", "title")]

/-- The tags of a free-standing heading; its level may be no numeral. -/
def headingTags (attributes : List Attribute) : Except Text.NumeralFault TagPair :=
  match Text.readInteger ((attribute? attributes "level").getD "1") with
  | .error fault => .error fault
  | .ok value =>
      let kept := attributes.filter fun entry => entry.1 == "id"
      .ok (tagPair (headingTag (value + 1)) kept)

/--
The tags of an element inside the given open elements. The fault is that of a
heading level that is no numeral.
-/
def tags
    (openNames : List String)
    (name : String)
    (attributes : List Attribute) :
    Except Text.NumeralFault TagPair :=
  match name with
  | "document" => .ok { opening := "</head>\n<body>\n", closing := "</body>\n</html>\n" }
  | "title" => .ok ((titleTags openNames).ofBlock name)
  | "section" => .ok ((tagPair "div" (("class", "section") :: attributes)).ofBlock name)
  | "heading" => (headingTags attributes).map (·.ofBlock name)
  | "listitem" =>
      let tag := if openNames.head? == some "varlistentry" then "dd" else "li"
      .ok ((tagPair tag []).ofBlock name)
  | "table" => .ok ((tagPair "table" attributes).ofBlock name)
  | "entry" =>
      let tag := if openNames.contains "thead" then "th" else "td"
      .ok ((tagPair tag []).ofBlock name)
  | "linebreak" => .ok { opening := "<br/>", closing := "" }
  | "anchor" =>
      .ok { opening := "<span" ++ renderAttributes attributes ++ "></span>", closing := "" }
  | "image" =>
      let shown :=
        [("src", valueOf attributes "fileref"), ("alt", valueOf attributes "alt")]
      .ok { opening := "<img" ++ renderAttributes shown ++ "/>", closing := "" }
  | "ulink" => .ok (tagPair "a" [("href", valueOf attributes "url")])
  | "link" => .ok (tagPair "a" [("href", "#" ++ valueOf attributes "linkend")])
  | "xinclude" =>
      let shown := [("class", "xinclude"), ("href", valueOf attributes "href")]
      .ok { opening := "<a" ++ renderAttributes shown ++ "></a>\n", closing := "" }
  | _ =>
      if groupingElements.contains name then
        .ok { opening := "", closing := "" }
      else if admonitions.contains name then
        .ok ((tagPair "div" [("class", name)]).ofBlock name)
      else
        match renamed? name with
        | some (tag, added) => .ok ((tagPair tag (added ++ attributes)).ofBlock name)
        | none => .ok (tagPair "span" (("class", name) :: attributes))

/-- Start a page, and keep a place for the title in its head. -/
def startPage (rendering : Rendering) (attributes : List Attribute) : Rendering :=
  let language := valueOf attributes "lang"
  let shown := if language.isEmpty then [] else [("lang", language)]
  { rendering with
    before :=
      rendering.output ++ "<!DOCTYPE html>\n<html" ++ renderAttributes shown ++
        ">\n<head>\n<meta charset=\"utf-8\"/>\n"
    headTitle := ""
    body := ""
    hasHead := true }

/-- Start to collect the title of the page, if this is it. -/
def startTitle (rendering : Rendering) : Rendering :=
  if rendering.openNames.head? == some "document" && rendering.hasHead &&
      rendering.headTitle.isEmpty then
    { rendering with titleText := some "" }
  else
    rendering

/-- Put the title into the head of the page, if one was collected. -/
def finishTitle (rendering : Rendering) : Rendering :=
  match rendering.titleText with
  | none => rendering
  | some title =>
      let shown :=
        if rendering.hasHead then
          "<title>" ++ escapeText title ++ "</title>\n"
        else
          rendering.headTitle
      { rendering with headTitle := shown, titleText := none }

/-- Open an element; the fault is that of a heading level that is no numeral. -/
def openElement
    (rendering : Rendering)
    (name : String)
    (attributes : List Attribute) :
    Except Text.NumeralFault (Rendering × TagPair) :=
  match tags rendering.openNames name attributes with
  | .error fault => .error fault
  | .ok pair =>
      if name = "document" then
        .ok (startPage rendering attributes, pair)
      else if name = "title" then
        .ok (startTitle rendering, pair)
      else
        .ok (rendering, pair)

/-- Finish an element that was just closed. -/
def closeElement (rendering : Rendering) (name : String) : Rendering :=
  if name = "title" then finishTitle rendering else rendering

/-- Collect text for the title of the page. -/
def collectText (rendering : Rendering) (content : String) : Rendering :=
  { rendering with titleText := rendering.titleText.map (· ++ content) }

end DocMarkup.Html
