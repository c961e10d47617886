import DocMarkup.DocInfo.Reader
import DocMarkup.Proofs.Text.Trimming
import DocMarkup.Proofs.Written.Cursor
import Mathlib.Data.List.Infix

namespace DocMarkup

/-!
# Document information in lines

A block of document information is written with an attribute on every line, in any
order. A single value has a line of its own, the authors may be spread over several
lines, and every copyright has its own.
-/

/-- The attributes that hold a single value. -/
inductive DocInfoField where
  | languageVersion
  | id
  | dirname
  | version
  | purpose
  | category
  | license
  | lastRevision
  | sourceMode
  | lang
deriving DecidableEq, Repr

/-- The name by which an attribute is given. -/
def DocInfoField.name : DocInfoField → String
  | .languageVersion => "quickbook"
  | .id => "id"
  | .dirname => "dirname"
  | .version => "version"
  | .purpose => "purpose"
  | .category => "category"
  | .license => "license"
  | .lastRevision => "last-revision"
  | .sourceMode => "source-mode"
  | .lang => "lang"

namespace DocInfo

/-- The value of an attribute. -/
def value? (info : DocInfo) : DocInfoField → Option String
  | .languageVersion => info.languageVersion
  | .id => info.id
  | .dirname => info.dirname
  | .version => info.version
  | .purpose => info.purpose
  | .category => info.category
  | .license => info.license
  | .lastRevision => info.lastRevision
  | .sourceMode => info.sourceMode
  | .lang => info.lang

/-- The information with another value of an attribute. -/
def setValue (info : DocInfo) (value : String) : DocInfoField → DocInfo
  | .languageVersion => { info with languageVersion := some value }
  | .id => { info with id := some value }
  | .dirname => { info with dirname := some value }
  | .version => { info with version := some value }
  | .purpose => { info with purpose := some value }
  | .category => { info with category := some value }
  | .license => { info with license := some value }
  | .lastRevision => { info with lastRevision := some value }
  | .sourceMode => { info with sourceMode := some value }
  | .lang => { info with lang := some value }

section Values

variable (info : DocInfo) (value : String) (field : DocInfoField)

/-- Setting an attribute gives it its value and leaves all others. -/
theorem value?_setValue (other : DocInfoField) :
    (info.setValue value field).value? other =
      if other = field then some value else info.value? other := by
  cases field <;> cases other <;> rfl

@[simp] theorem docType_setValue : (info.setValue value field).docType = info.docType := by
  cases field <;> rfl

@[simp] theorem title_setValue : (info.setValue value field).title = info.title := by
  cases field <;> rfl

@[simp] theorem authors_setValue : (info.setValue value field).authors = info.authors := by
  cases field <;> rfl

@[simp] theorem copyrights_setValue :
    (info.setValue value field).copyrights = info.copyrights := by
  cases field <;> rfl

@[simp] theorem ignore_setValue : (info.setValue value field).ignore = info.ignore := by
  cases field <;> rfl

/-- An attribute that is not set yet takes a value, trimmed; a language version must be one. -/
theorem withAttribute?_setValue
    (isNew : info.value? field = none)
    (isVersion : field = .languageVersion → isLanguageVersion (Text.trimmed value) = true) :
    info.withAttribute? field.name value = some (info.setValue (Text.trimmed value) field) := by
  cases field <;>
    simp_all [withAttribute?, withValue?, DocInfoField.name, value?, setValue]

end Values

/-- Information is known by its values and by what may be given in parts. -/
theorem eq_of_values
    {first second : DocInfo}
    (docType : first.docType = second.docType)
    (title : first.title = second.title)
    (values : ∀ field, first.value? field = second.value? field)
    (authors : first.authors = second.authors)
    (copyrights : first.copyrights = second.copyrights)
    (ignore : first.ignore = second.ignore) :
    first = second := by
  obtain ⟨_, _, _, _, _, _, _, _, _, _, _, _, _, _, _⟩ := first
  obtain ⟨_, _, _, _, _, _, _, _, _, _, _, _, _, _, _⟩ := second
  have id := values .id
  have dirname := values .dirname
  have version := values .version
  have languageVersion := values .languageVersion
  have purpose := values .purpose
  have category := values .category
  have license := values .license
  have lastRevision := values .lastRevision
  have sourceMode := values .sourceMode
  have lang := values .lang
  simp only [value?] at *
  simp only [*]

end DocInfo

/-! ## Lines -/

/--
A text that stands between brackets as it is: nothing is trimmed from it, and there
are neither brackets nor backslashes nor three quotes in a row in it.
-/
structure IsPlain (text : String) : Prop where
  isTrimmed : Text.trimmed text = text
  areUncounted : ∀ character ∈ text.toList, Cursor.IsUncounted character
  noQuotes : ¬ escapeQuotes <:+: text.toList

-- Without the instance for lists, all characters that there are would be tried.
instance (text : String) : Decidable (IsPlain text) :=
  have : Decidable (∀ character ∈ text.toList, Cursor.IsUncounted character) :=
    List.decidableBAll _ _
  decidable_of_iff
    (Text.trimmed text = text ∧ (∀ character ∈ text.toList, Cursor.IsUncounted character) ∧
      ¬ escapeQuotes <:+: text.toList)
    ⟨fun ⟨isTrimmed, areUncounted, noQuotes⟩ => ⟨isTrimmed, areUncounted, noQuotes⟩,
      fun ⟨isTrimmed, areUncounted, noQuotes⟩ => ⟨isTrimmed, areUncounted, noQuotes⟩⟩

/-- A version of the language: digits, a dot and digits. -/
def IsVersion (text : String) : Prop :=
  ∃ major minor : List Char,
    text.toList = major ++ '.' :: minor ∧
      (major ≠ [] ∧ major.all Text.isDecimalDigit = true) ∧
        minor ≠ [] ∧ minor.all Text.isDecimalDigit = true

/-- An author that can be written: the surname is there and without commas. -/
structure Author.IsWritable (author : Author) : Prop where
  surname : IsPlain author.surname
  notEmpty : author.surname ≠ ""
  noComma : ',' ∉ author.surname.toList
  firstname : IsPlain author.firstname

instance (author : Author) : Decidable author.IsWritable :=
  decidable_of_iff
    (IsPlain author.surname ∧ author.surname ≠ "" ∧ ',' ∉ author.surname.toList ∧
      IsPlain author.firstname)
    ⟨fun ⟨surname, notEmpty, noComma, firstname⟩ => ⟨surname, notEmpty, noComma, firstname⟩,
      fun ⟨surname, notEmpty, noComma, firstname⟩ => ⟨surname, notEmpty, noComma, firstname⟩⟩

/-- A year of four digits. -/
def IsYear (year : String) : Prop :=
  year.length = 4 ∧ year.toList.all Char.isDigit = true

instance (year : String) : Decidable (IsYear year) :=
  inferInstanceAs (Decidable (_ ∧ _))

/-- White space. -/
def IsGap (gap : String) : Prop :=
  gap ≠ "" ∧ gap.toList.all Text.isBlank = true

instance (gap : String) : Decidable (IsGap gap) :=
  inferInstanceAs (Decidable (_ ∧ _))

/-- A holder of a copyright that cannot be taken for years or for what separates them. -/
structure IsHolder (holder : String) : Prop where
  isPlain : IsPlain holder
  notEmpty : holder ≠ ""
  startsApart :
    ∀ first ∈ holder.toList.head?,
      first ≠ ',' ∧ first ≠ '-' ∧ Text.isDecimalDigit first = false

instance (holder : String) : Decidable (IsHolder holder) :=
  have :
      Decidable
        (∀ first ∈ holder.toList.head?,
          first ≠ ',' ∧ first ≠ '-' ∧ Text.isDecimalDigit first = false) :=
    Option.decidableForallMem _
  decidable_of_iff
    (IsPlain holder ∧ holder ≠ "" ∧
      ∀ first ∈ holder.toList.head?,
        first ≠ ',' ∧ first ≠ '-' ∧ Text.isDecimalDigit first = false)
    ⟨fun ⟨isPlain, notEmpty, startsApart⟩ => ⟨isPlain, notEmpty, startsApart⟩,
      fun ⟨isPlain, notEmpty, startsApart⟩ => ⟨isPlain, notEmpty, startsApart⟩⟩

/-- An attribute on a line. Every year of a copyright has white space behind it. -/
inductive DocInfoLine where
  | value (field : DocInfoField) (text : String)
  | authors (names : List Author)
  | copyright (years : List (String × String)) (holder : String)
deriving Repr

/-- An author as markup. -/
def writtenAuthor (author : Author) : List Char :=
  '[' :: ((author.surname.toList ++ ',' :: ' ' :: author.firstname.toList) ++ [']'])

/-- Further authors as markup. -/
def writtenOthers (others : List Author) : List Char :=
  others.flatMap fun other => ',' :: ' ' :: writtenAuthor other

/-- Authors as markup. -/
def writtenAuthors : List Author → List Char
  | [] => []
  | first :: others => writtenAuthor first ++ writtenOthers others

/-- Years as markup, with the white space behind each of them. -/
def writtenYears (years : List (String × String)) : List Char :=
  years.flatMap fun entry => entry.1.toList ++ entry.2.toList

namespace DocInfoLine

/-- Whether an attribute can be written on a line. -/
def IsWritable : DocInfoLine → Prop
  | .value field text => IsPlain text ∧ (field = .languageVersion → IsVersion text)
  | .authors names => names ≠ [] ∧ ∀ author ∈ names, author.IsWritable
  | .copyright years holder =>
      years ≠ [] ∧ (∀ entry ∈ years, IsYear entry.1 ∧ IsGap entry.2) ∧ IsHolder holder

/-- The name of the attribute. -/
def name : DocInfoLine → String
  | .value field _ => field.name
  | .authors _ => "authors"
  | .copyright _ _ => "copyright"

/-- The value of the attribute as markup. -/
def content : DocInfoLine → List Char
  | .value _ text => text.toList
  | .authors names => writtenAuthors names
  | .copyright years holder => writtenYears years ++ holder.toList

/-- An attribute as markup, with its line feed. -/
def written (line : DocInfoLine) : List Char :=
  ['['] ++ (line.name.toList ++ ([' '] ++ (line.content ++ ([']'] ++ ['\n']))))

/-- Add what a line says to the information. -/
def addTo (info : DocInfo) : DocInfoLine → DocInfo
  | .value field text => info.setValue text field
  | .authors names => { info with authors := info.authors ++ names }
  | .copyright years holder =>
      { info with
        copyrights := info.copyrights ++ [{ years := years.map Prod.fst, holder := holder }] }

/-- The attribute of a single value. -/
def field? : DocInfoLine → Option DocInfoField
  | .value field _ => some field
  | _ => none

/-- The authors on a line. -/
def authorsOn : DocInfoLine → List Author
  | .authors names => names
  | _ => []

/-- The copyright on a line. -/
def copyright? : DocInfoLine → Option Copyright
  | .copyright years holder => some { years := years.map Prod.fst, holder := holder }
  | _ => none

end DocInfoLine

/--
Lines say what the information holds: every single value has one line, authors and
copyrights are given in their order, and all of it can be written.
-/
structure DocInfo.IsWrittenAs (info : DocInfo) (lines : List DocInfoLine) : Prop where
  isType : info.docType ∈ documentTypes
  title : IsPlain info.title
  oneLine : '\n' ∉ info.title.toList
  writable : ∀ line ∈ lines, line.IsWritable
  once : (lines.filterMap DocInfoLine.field?).Nodup
  values : ∀ field text, .value field text ∈ lines ↔ info.value? field = some text
  authors : lines.flatMap DocInfoLine.authorsOn = info.authors
  copyrights : lines.filterMap DocInfoLine.copyright? = info.copyrights
  isShown : info.ignore = false

/-- Document information as markup, through its closing bracket. -/
def writtenDocInfo (info : DocInfo) (lines : List DocInfoLine) : List Char :=
  ("[" ++ info.docType).toList ++
    ([' '] ++ (info.title.toList ++ (['\n'] ++ (lines.flatMap DocInfoLine.written ++ [']']))))

/-! ## What lines add up to -/

/-- The information that lines add up to, from a given one on. -/
def DocInfo.withLines (info : DocInfo) (lines : List DocInfoLine) : DocInfo :=
  lines.foldl DocInfoLine.addTo info

namespace DocInfo

/-- A line sets its own value only. -/
theorem value?_addTo
    (info : DocInfo)
    (line : DocInfoLine)
    (field : DocInfoField)
    (other : line.field? ≠ some field) :
    (line.addTo info).value? field = info.value? field := by
  cases line with
  | value written text =>
      have different : field ≠ written := fun same => other (by simp [DocInfoLine.field?, same])
      simp [DocInfoLine.addTo, value?_setValue, different]
  | authors names => cases field <;> rfl
  | copyright years holder => cases field <;> rfl

/-- A value that no line sets stays as it is. -/
theorem value?_withLines_of_absent
    (info : DocInfo)
    (lines : List DocInfoLine)
    (field : DocInfoField)
    (absent : field ∉ lines.filterMap DocInfoLine.field?) :
    (info.withLines lines).value? field = info.value? field := by
  induction lines generalizing info with
  | nil =>
      rfl
  | cons line rest inductionHypothesis =>
      simp only [List.mem_filterMap, List.mem_cons, not_exists, not_and, forall_eq_or_imp] at absent
      have restAbsent : field ∉ rest.filterMap DocInfoLine.field? := by
        simpa [List.mem_filterMap] using absent.2
      exact (inductionHypothesis (line.addTo info) restAbsent).trans
        (value?_addTo info line field absent.1)

/-- A value that one line sets is that of the line. -/
theorem value?_withLines_of_mem
    (info : DocInfo)
    (lines : List DocInfoLine)
    (once : (lines.filterMap DocInfoLine.field?).Nodup)
    {field : DocInfoField}
    {text : String}
    (member : DocInfoLine.value field text ∈ lines) :
    (info.withLines lines).value? field = some text := by
  induction lines generalizing info with
  | nil =>
      simp at member
  | cons line rest inductionHypothesis =>
      obtain rfl | later := List.mem_cons.mp member
      · have onceInAll : (field :: rest.filterMap DocInfoLine.field?).Nodup := once
        refine (value?_withLines_of_absent _ rest field (List.nodup_cons.mp onceInAll).1).trans ?_
        simp [DocInfoLine.addTo, value?_setValue]
      · refine inductionHypothesis (line.addTo info) ?_ later
        exact once.sublist ((List.sublist_cons_self line rest).filterMap _)

/-- Lines leave the type and the title, and add authors and copyrights in their order. -/
theorem withLines_parts
    (info : DocInfo)
    (lines : List DocInfoLine) :
    (info.withLines lines).docType = info.docType ∧
      (info.withLines lines).title = info.title ∧
        (info.withLines lines).ignore = info.ignore ∧
          (info.withLines lines).authors =
            info.authors ++ lines.flatMap DocInfoLine.authorsOn ∧
            (info.withLines lines).copyrights =
              info.copyrights ++ lines.filterMap DocInfoLine.copyright? := by
  induction lines generalizing info with
  | nil =>
      simp [withLines]
  | cons line rest inductionHypothesis =>
      obtain ⟨docType, title, ignore, authors, copyrights⟩ := inductionHypothesis (line.addTo info)
      simp only [withLines, List.foldl_cons] at *
      rw [docType, title, ignore, authors, copyrights]
      cases line <;>
        simp [DocInfoLine.addTo, DocInfoLine.authorsOn, DocInfoLine.copyright?,
          List.filterMap_cons]

/-- The lines that information is written as add up to it. -/
theorem IsWrittenAs.withLines_eq
    {info : DocInfo}
    {lines : List DocInfoLine}
    (isWritten : info.IsWrittenAs lines) :
    ({ docType := info.docType, title := info.title } : DocInfo).withLines lines = info := by
  let start : DocInfo := { docType := info.docType, title := info.title }
  obtain ⟨docType, title, ignore, authors, copyrights⟩ := start.withLines_parts lines
  refine eq_of_values docType title ?_ ?_ ?_ (ignore.trans isWritten.isShown.symm)
  · intro field
    cases isSet : info.value? field with
    | some text =>
        exact value?_withLines_of_mem start lines isWritten.once
          ((isWritten.values field text).mpr isSet)
    | none =>
        have absent : field ∉ lines.filterMap DocInfoLine.field? := by
          intro present
          obtain ⟨line, member, isField⟩ := List.mem_filterMap.mp present
          cases line with
          | value written text =>
              obtain rfl : written = field := by simpa [DocInfoLine.field?] using isField
              have isGiven := (isWritten.values written text).mp member
              simp [isSet] at isGiven
          | authors names => simp [DocInfoLine.field?] at isField
          | copyright years holder => simp [DocInfoLine.field?] at isField
        rw [value?_withLines_of_absent start lines field absent]
        cases field <;> rfl
  · rw [authors, isWritten.authors]
    rfl
  · rw [copyrights, isWritten.copyrights]
    rfl

end DocInfo

end DocMarkup
