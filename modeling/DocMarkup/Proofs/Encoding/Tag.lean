import DocMarkup.Encoding
import DocMarkup.Encoding.Rendering
import DocMarkup.Proofs.Event.Writable
import DocMarkup.Proofs.Markup.Passing
import DocMarkup.Proofs.Text.Numeral

namespace DocMarkup

open Markup

/-!
# Written tags

Tags are written from the name of an element and its attributes. What is written
is read as a tag again whatever the values of the attributes are, as these are
escaped, so that written elements open and close like brackets. This takes names that
can stand in tags, as those of all elements that occur in documents can.
-/

/-! ## Escapes -/

/-- Escaped character data has no opening angle bracket. -/
theorem not_mem_escapeTextCharacter (character : Char) : '<' ∉ escapeTextCharacter character := by
  intro written
  unfold escapeTextCharacter at written
  split at written
  · exact absurd written (by decide)
  split at written
  · exact absurd written (by decide)
  split at written
  · exact absurd written (by decide)
  · obtain rfl := List.mem_singleton.mp written
    contradiction

/-- Escaped attribute values have neither double quotes nor angle brackets. -/
theorem not_mem_escapeAttribute
    {special : Char}
    (isSpecial : special ∈ [Text.doubleQuote, '<', '>'])
    (text : String) :
    special ∉ (escapeAttribute text).toList := by
  intro member
  simp only [escapeAttribute, String.toList_ofList, List.mem_flatMap] at member
  obtain ⟨character, _, written⟩ := member
  have apart :
      ∀ entity ∈ ["&quot;", "&amp;", "&lt;", "&gt;"],
        Text.doubleQuote ∉ entity.toList ∧ '<' ∉ entity.toList ∧ '>' ∉ entity.toList := by
    decide
  have notInEntities :
      ∀ entity ∈ ["&quot;", "&amp;", "&lt;", "&gt;"], special ∉ entity.toList := by
    intro entity isEntity
    obtain ⟨noQuote, noLess, noGreater⟩ := apart entity isEntity
    simp only [List.mem_cons, List.not_mem_nil, or_false] at isSpecial
    rcases isSpecial with rfl | rfl | rfl
    · exact noQuote
    · exact noLess
    · exact noGreater
  unfold escapeAttributeCharacter escapeTextCharacter at written
  split at written
  · exact notInEntities "&quot;" (by simp) written
  split at written
  · exact notInEntities "&amp;" (by simp) written
  split at written
  · exact notInEntities "&lt;" (by simp) written
  split at written
  · exact notInEntities "&gt;" (by simp) written
  · obtain rfl := List.mem_singleton.mp written
    simp_all [Text.doubleQuote]

/-! ## Attributes -/

instance (name : List Char) : Decidable (IsTagName name) :=
  inferInstanceAs (Decidable (_ ∧ _))

/-- The key of an attribute is a name. -/
def IsAttributeName (key : String) : Prop :=
  key.toList ≠ [] ∧ key.toList.all isAttributeNameCharacter = true

instance (key : String) : Decidable (IsAttributeName key) :=
  inferInstanceAs (Decidable (_ ∧ _))

/-- The keys of attributes are names. -/
def AreNamed (attributes : List Attribute) : Prop :=
  ∀ entry ∈ attributes, IsAttributeName entry.1

namespace AreNamed

/-- No attributes have names as keys. -/
theorem nil : AreNamed [] := by
  simp [AreNamed]

/-- A further attribute with a name as its key. -/
theorem cons
    {key : String}
    (isName : IsAttributeName key)
    (value : String)
    {attributes : List Attribute}
    (areNamed : AreNamed attributes) :
    AreNamed ((key, value) :: attributes) := by
  intro entry member
  rcases List.mem_cons.mp member with rfl | isOther
  · exact isName
  · exact areNamed entry isOther

/-- Attributes in a row. -/
theorem append
    {first second : List Attribute}
    (firstNamed : AreNamed first)
    (secondNamed : AreNamed second) :
    AreNamed (first ++ second) := by
  intro entry member
  rcases List.mem_append.mp member with inFirst | inSecond
  · exact firstNamed entry inFirst
  · exact secondNamed entry inSecond

/-- Some of the attributes. -/
theorem filter
    {attributes : List Attribute}
    (areNamed : AreNamed attributes)
    (isKept : Attribute → Bool) :
    AreNamed (attributes.filter isKept) :=
  fun entry member => areNamed entry (List.mem_filter.mp member).1

end AreNamed

/-- Attributes whose keys are names are read as such. -/
theorem areAttributes_renderAttributes
    {attributes : List Attribute}
    (areNamed : AreNamed attributes) :
    AreAttributes (renderAttributes attributes).toList := by
  induction attributes with
  | nil =>
      exact .nil
  | cons entry rest inductionHypothesis =>
      obtain ⟨notEmpty, isName⟩ := areNamed entry (by simp)
      have value := isQuoted_of_not_mem (not_mem_escapeAttribute (by simp) entry.2)
      have isAttribute :
          IsAttribute ([] ++ (entry.1.toList ++ ([] ++ '=' :: ([] ++ Text.doubleQuote ::
            ((escapeAttribute entry.2).toList ++ [Text.doubleQuote]))))) :=
        isAttribute_of_parts rfl notEmpty isName rfl rfl value
      have others := inductionHypothesis fun other member => areNamed other (by simp [member])
      have written :
          (renderAttributes (entry :: rest)).toList =
            ' ' :: ((entry.1.toList ++ '=' :: Text.doubleQuote ::
              ((escapeAttribute entry.2).toList ++ [Text.doubleQuote])) ++
                (renderAttributes rest).toList) := by
        simp [renderAttributes, renderAttribute, Text.doubleQuote]
      rw [written]
      exact .cons (by decide) isAttribute others

/-! ## Tags -/

variable {allowed : List Char → Prop} {tag : String} {attributes : List Attribute}
  {opened : OpenNames}

/-- An opening tag is a piece of markup. -/
theorem isPiece_opening
    (isName : IsTagName tag.toList)
    (areNamed : AreNamed attributes) :
    Token.IsPiece ⟨.start, (tagPair tag attributes).opening.toList, tag.toList⟩ := by
  have covers :=
    covers_start isName (areAttributes_renderAttributes areNamed) (List.all_nil)
  have written :
      (tagPair tag attributes).opening.toList =
        '<' :: (tag.toList ++ ((renderAttributes attributes).toList ++ ([] ++ ['>']))) := by
    simp [tagPair]
  rw [written]
  exact .construct covers

/-- So is a closing tag. -/
theorem isPiece_closing (isName : IsTagName tag.toList) :
    Token.IsPiece ⟨.finish, (tagPair tag attributes).closing.toList, tag.toList⟩ := by
  have covers := covers_finish isName.1 isName.isEndName (List.all_nil)
  have written :
      (tagPair tag attributes).closing.toList =
        '<' :: '/' :: (tag.toList ++ ([] ++ ['>'])) := by
    simp [tagPair]
  rw [written]
  exact .construct covers

/-- An opening tag opens an element. -/
theorem passes_opening
    (tag : String)
    (attributes : List Attribute)
    (isName : IsTagName tag.toList)
    (areNamed : AreNamed attributes) :
    Passes allowed opened (tag.toList :: opened) (tagPair tag attributes).opening.toList :=
  .ofTag (isPiece_opening isName areNamed) (by simp) rfl

/-- A closing tag closes the element. -/
theorem passes_closing
    (tag : String)
    (attributes : List Attribute)
    (isName : IsTagName tag.toList) :
    Passes allowed (tag.toList :: opened) opened (tagPair tag attributes).closing.toList :=
  .ofTag (isPiece_closing isName) (by simp) (by simp [openNames?])

/-- The tag of an empty element leaves open what was open. -/
theorem passes_emptyTag
    (tag : String)
    (attributes : List Attribute)
    (isName : IsTagName tag.toList)
    (areNamed : AreNamed attributes) :
    Passes allowed opened opened ("<" ++ tag ++ renderAttributes attributes ++ "/>").toList := by
  have covers :=
    covers_empty isName (areAttributes_renderAttributes areNamed) (List.all_nil)
  have written :
      ("<" ++ tag ++ renderAttributes attributes ++ "/>").toList =
        '<' :: (tag.toList ++ ((renderAttributes attributes).toList ++ ([] ++ ['/', '>']))) := by
    simp
  rw [written]
  exact .single covers rfl

/--
The opening text opens elements of the given names, innermost first, and the closing
text closes them. Between their tags both texts only end lines.
-/
structure TagPair.Encloses (pair : TagPair) (names : OpenNames) : Prop where
  opens : ∀ opened, Passes lineEnd opened (names ++ opened) pair.opening.toList
  closes : ∀ opened, Passes lineEnd (names ++ opened) opened pair.closing.toList

namespace TagPair.Encloses

/-- The tags of an element enclose what is inside it. -/
theorem tagPair
    (isName : IsTagName tag.toList)
    (areNamed : AreNamed attributes) :
    (tagPair tag attributes).Encloses [tag.toList] where
  opens _ := passes_opening tag attributes isName areNamed
  closes _ := passes_closing tag attributes isName

/-- A line may be ended after the closing text. -/
theorem ofBlock
    {pair : TagPair}
    {names : OpenNames}
    (encloses : pair.Encloses names)
    (name : String) :
    (pair.ofBlock name).Encloses names := by
  unfold TagPair.ofBlock
  split
  · refine ⟨encloses.opens, fun opened => ?_⟩
    rw [String.toList_append]
    exact (encloses.closes opened).trans (.ofLineEnd opened)
  · exact encloses

/-- What opens nothing needs nothing that closes it. -/
theorem of_passes
    {opening : String}
    (passes : ∀ opened, Passes lineEnd opened opened opening.toList) :
    TagPair.Encloses { opening := opening, closing := "" } [] where
  opens := passes
  closes opened := .nil opened

end TagPair.Encloses

/-!
## Elements that can be written

What the encoders rely on is that names can stand in tags, also the type of a document,
and that the level of a heading is a numeral. This is so for all elements that occur in
documents.
-/

/-- The level of a heading, as it is given. -/
def givenLevel (attributes : List Attribute) : String :=
  (attribute? attributes "level").getD "1"

/-- The type of a document, as it is given. -/
def givenType (attributes : List Attribute) : String :=
  (attribute? attributes "doctype").getD "article"

/-- What the encoders rely on about an element. -/
structure Element.IsTaggable (name : String) (attributes : List Attribute) : Prop where
  isName : IsTagName name.toList
  areNamed : AreNamed attributes
  level : name = "heading" → Text.IsNumeral (givenLevel attributes)
  docType : name = "document" → IsTagName (givenType attributes).toList

/-- Only a page of HTML has to know the number that the level of a heading is. -/
def Encoding.Refuses (encoding : Encoding) (name : String) (attributes : List Attribute) : Prop :=
  encoding = .html ∧ name = "heading" ∧ Text.numeralLimit < (givenLevel attributes).length

instance (encoding : Encoding) (name : String) (attributes : List Attribute) :
    Decidable (encoding.Refuses name attributes) :=
  inferInstanceAs (Decidable (_ ∧ _ ∧ _))

/-- The encoders may rely on this about every element that occurs in documents. -/
theorem Element.IsWritable.isTaggable
    {name : String}
    {attributes : List Attribute}
    (isWritable : Element.IsWritable (name, attributes)) :
    Element.IsTaggable name attributes ∧ ∀ encoding, ¬ Encoding.Refuses encoding name attributes := by
  have keyNames : ∀ key ∈ "doctype" :: "level" :: documentKeys, IsAttributeName key := by
    decide
  cases isWritable with
  | plain known =>
      have plainNames :
          ∀ entry ∈ plainVocabulary,
            IsTagName entry.1.toList ∧ (∀ key ∈ entry.2, IsAttributeName key) ∧
              entry.1 ≠ "heading" ∧ entry.1 ≠ "document" := by
        decide +kernel
      obtain ⟨isName, areKeys, noHeading, noDocument⟩ := plainNames _ known
      have isTaggable : Element.IsTaggable name attributes :=
        { isName := isName
          areNamed := fun entry member => areKeys entry.1 (List.mem_map_of_mem member)
          level := fun isHeading => (noHeading isHeading).elim
          docType := fun isDocument => (noDocument isDocument).elim }
      exact ⟨isTaggable, fun _ refuses => noHeading refuses.2.1⟩
  | @heading level identifier isLevel =>
      have shortNumerals :
          ∀ level ∈ headingLevels,
            Text.IsNumeral (toString level) ∧ (toString level).length ≤ Text.numeralLimit := by
        decide +kernel
      obtain ⟨isNumeral, short⟩ := shortNumerals level isLevel
      have isTaggable :
          Element.IsTaggable "heading" [("level", toString level), ("id", identifier)] :=
        { isName := by decide
          areNamed :=
            .cons (keyNames _ (by simp)) _ (.cons (keyNames _ (by simp [documentKeys])) _ .nil)
          level := fun _ => isNumeral
          docType := by simp }
      exact ⟨isTaggable, fun _ refuses => absurd short (Nat.not_le.mpr refuses.2.2)⟩
  | ofSection identifier =>
      have isTaggable : Element.IsTaggable "section" [("id", identifier)] :=
        { isName := by decide
          areNamed := .cons (keyNames _ (by simp [documentKeys])) _ .nil
          level := by simp
          docType := by simp }
      exact ⟨isTaggable, fun _ refuses => absurd refuses.2.1 (by decide)⟩
  | @document docType others isType areKeys =>
      have typeNames : ∀ docType ∈ documentTypes, IsTagName docType.toList := by
        decide +kernel
      have isTaggable : Element.IsTaggable "document" (("doctype", docType) :: others) :=
        { isName := by decide
          areNamed := by
            refine .cons (keyNames _ (by simp)) _ fun entry isOther => ?_
            have isKey := areKeys entry isOther
            exact keyNames _ (List.mem_cons_of_mem _ (List.mem_cons_of_mem _ isKey))
          level := by simp
          docType := fun _ => typeNames docType isType }
      exact ⟨isTaggable, fun _ refuses => absurd refuses.2.1 (by decide)⟩

end DocMarkup
