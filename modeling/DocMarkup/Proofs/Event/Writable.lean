import DocMarkup.DocInfo
import DocMarkup.Grammar.Block
import DocMarkup.Proofs.Event.Fragment

namespace DocMarkup

/-!
# The events of documents

Only certain elements occur in documents. The encoders write each of them, as
long as a heading has a number for its level and a document has one of the known
types. Sections start and end only outside admonitions and block quotes.
-/

/-- The elements of phrases. -/
def inlineVocabulary : Vocabulary :=
  [("bold", []), ("italic", []), ("underline", []), ("teletype", []), ("strikethrough", []),
    ("replaceable", []), ("ulink", ["url"]), ("link", ["linkend"]), ("anchor", ["id"]),
    ("image", ["fileref", "alt"]), ("footnote", []), ("linebreak", []), ("code", [])]

/-- The elements of blocks without identifiers and without paragraphs, and of phrases. -/
def flowVocabulary : Vocabulary :=
  [("programlisting", []), ("xinclude", ["href"]), ("title", []), ("informaltable", []),
    ("tgroup", ["cols"]), ("thead", []), ("tbody", []), ("row", []), ("entry", []),
    ("variablelist", []), ("varlistentry", []), ("term", []), ("listitem", []),
    ("simpara", []), ("itemizedlist", []), ("orderedlist", [])] ++ inlineVocabulary

/-- The elements of the header of a document. -/
def headerVocabulary : Vocabulary :=
  [("title", []), ("docinfo", []), ("authorgroup", []), ("author", []), ("firstname", []),
    ("surname", []), ("copyright", []), ("year", []), ("holder", []), ("legalnotice", []),
    ("para", []), ("purpose", []), ("category", [])] ++ inlineVocabulary

/-- The elements of the blocks that hold blocks. -/
def nestedBlockNames : List String :=
  "blockquote" :: Cursor.admonitionNames

/-- All elements but headings, sections and the document itself. -/
def plainVocabulary : Vocabulary :=
  [("table", ["id"]), ("informaltable", ["id"])] ++
    (nestedBlockNames.map fun name => (name, [])) ++ headerVocabulary ++ flowVocabulary

/-- Whatever may occur in a phrase may occur in a block. -/
theorem inlineVocabulary_subset_flowVocabulary : inlineVocabulary ⊆ flowVocabulary :=
  List.subset_append_right ..

/-- Whatever may occur in a phrase may occur in the header. -/
theorem inlineVocabulary_subset_headerVocabulary : inlineVocabulary ⊆ headerVocabulary :=
  List.subset_append_right ..

/-- Whatever may occur in a block without identifiers may occur in a document. -/
theorem flowVocabulary_subset_plainVocabulary : flowVocabulary ⊆ plainVocabulary :=
  List.subset_append_right ..

/-- Whatever may occur in the header may occur in a document. -/
theorem headerVocabulary_subset_plainVocabulary : headerVocabulary ⊆ plainVocabulary :=
  List.Subset.trans (List.subset_append_right ..) (List.subset_append_left ..)

/-- The element of a section. -/
def sectionElement (identifier : String) : Element :=
  ("section", [("id", identifier)])

/-- The keys of the attributes that a document may have besides its type. -/
def documentKeys : List String :=
  ["id", "dirname", "last-revision", "lang"]

/-- The levels of headings. -/
def headingLevels : List Int :=
  [1, 2, 3, 4, 5, 6]

/-- An element that the encoders can write. -/
inductive Element.IsWritable : Element → Prop where
  | plain {name attributes} :
      (name, attributes.map Prod.fst) ∈ plainVocabulary →
      IsWritable (name, attributes)
  | heading {level : Int} (identifier : String) :
      level ∈ headingLevels →
      IsWritable ("heading", [("level", toString level), ("id", identifier)])
  | ofSection (identifier : String) :
      IsWritable (sectionElement identifier)
  | document {docType others} :
      docType ∈ documentTypes →
      (∀ entry ∈ others, entry.1 ∈ documentKeys) →
      IsWritable ("document", ("doctype", docType) :: others)

/-- An event that the encoders can write. -/
def Event.IsWritable : Event → Prop
  | .opening name attributes => Element.IsWritable (name, attributes)
  | .closing _ => True
  | .text _ => True
  | .raw content => Markup.findError? content = none

/-- The start or the end of a section. -/
def Event.IsOfSection : Event → Prop
  | .opening name _ => name = "section"
  | .closing name => name = "section"
  | .text _ => False
  | .raw _ => False

namespace Event.IsWithin

variable {event : Event}

/-- Events of the elements that occur in documents can be written. -/
theorem isWritable (within : event.IsWithin plainVocabulary) : event.IsWritable := by
  cases event with
  | opening name attributes =>
      exact .plain within
  | closing name =>
      trivial
  | text content =>
      trivial
  | raw content =>
      exact within

/-- Events of the other elements are not those of sections. -/
theorem not_isOfSection (within : event.IsWithin plainVocabulary) : ¬ event.IsOfSection := by
  have unknown : ∀ keys, ("section", keys) ∉ plainVocabulary := by
    intro keys
    simp [plainVocabulary, flowVocabulary, headerVocabulary, inlineVocabulary, nestedBlockNames,
      Cursor.admonitionNames]
  cases event with
  | opening name attributes =>
      rintro rfl
      exact unknown _ within
  | closing name =>
      rintro rfl
      obtain ⟨keys, known⟩ := within
      exact unknown _ known
  | text content =>
      exact id
  | raw content =>
      exact id

end Event.IsWithin

/-- Sections start and end only where no admonition and no block quote is open. -/
def SectionsApart (events : List Event) : Prop :=
  ∀ front event behind,
    events = front ++ event :: behind →
      event.IsOfSection →
        ∃ opened,
          openElementsAfter? [] front = some opened ∧
            ∀ element ∈ opened, element.1 ∉ nestedBlockNames

namespace SectionsApart

variable {events : List Event}

/-- Where nothing happens, nothing happens to sections. -/
theorem nil : SectionsApart [] := by
  intro front event behind shape
  simp at shape

/-- A further event may be one of a section if no admonition and no block quote is open. -/
theorem push
    (apart : SectionsApart events)
    {event : Event}
    (outside :
      event.IsOfSection →
        ∃ opened,
          openElementsAfter? [] events = some opened ∧
            ∀ element ∈ opened, element.1 ∉ nestedBlockNames) :
    SectionsApart (events ++ [event]) := by
  intro front found behind shape isOfSection
  rcases List.eq_nil_or_concat behind with rfl | ⟨others, last, rfl⟩
  · obtain ⟨rfl, sameEvent⟩ := List.append_inj' shape rfl
    obtain rfl := List.singleton_inj.mp sameEvent
    exact outside isOfSection
  · have regrouped : events ++ [event] = (front ++ found :: others) ++ [last] := by
      simpa using shape
    obtain ⟨sameFront, _⟩ := List.append_inj' regrouped rfl
    exact apart front found others sameFront isOfSection

/-- Further events that are not those of sections change nothing. -/
theorem append
    (apart : SectionsApart events)
    {others : List Event}
    (elsewhere : ∀ event ∈ others, ¬ event.IsOfSection) :
    SectionsApart (events ++ others) := by
  induction others generalizing events with
  | nil =>
      simpa using apart
  | cons event rest inductionHypothesis =>
      have pushed : SectionsApart (events ++ [event]) :=
        apart.push fun isOfSection => (elsewhere event (by simp) isOfSection).elim
      have appended :=
        inductionHypothesis pushed fun other member => elsewhere other (by simp [member])
      simpa using appended

end SectionsApart

end DocMarkup
