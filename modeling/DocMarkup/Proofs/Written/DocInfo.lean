import DocMarkup.Proofs.Text.Numeral
import DocMarkup.Proofs.Written.DocInfoLine
import DocMarkup.Proofs.Written.Element

namespace DocMarkup

open Text

/-!
# Document information read back

What the lines of a block of document information say is read back from them: the
brackets of a line close where the line ends, its value is taken apart as it was put
together, and the values of all lines add up to the information.
-/

/-! ## Characters -/

section Characters

variable {character : Char}

/-- White space is no digit. -/
theorem isDecimalDigit_of_isBlank (blank : isBlank character = true) :
    isDecimalDigit character = false := by
  by_contra isDigit
  rw [Bool.not_eq_false] at isDigit
  simp [isBlank_of_isDecimalDigit isDigit] at blank

/-- White space may stand between years. -/
theorem isYearSeparator_of_isBlank
    (character : Char)
    (blank : isBlank character = true) :
    isYearSeparator character = true := by
  simp [isYearSeparator, blank]

/-- The digits of the decimal system are digits. -/
theorem isDecimalDigit_of_isDigit (digit : character.isDigit = true) :
    isDecimalDigit character = true := by
  simp [isDecimalDigit, digitValue?, digit]

/-- Digits do not count among brackets. -/
theorem isUncounted_of_isDigit (digit : character.isDigit = true) :
    Cursor.IsUncounted character ∧ character ≠ singleQuote := by
  refine ⟨⟨?_, ?_, ?_⟩, ?_⟩ <;> rintro rfl <;> simp [singleQuote] at digit

end Characters

/-! ## Texts that stand as they are -/

namespace IsPlain

variable {text : String}

/-- Nothing is trimmed from the characters. -/
theorem trim_eq (isPlain : IsPlain text) : trim text.toList = text.toList :=
  trimmed_eq_iff.mp isPlain.isTrimmed

/-- There is no white space at the front. -/
theorem stops (isPlain : IsPlain text) : Stops isBlank text.toList :=
  (stops_of_trim_eq_self isPlain.trim_eq).1

/-- There is no white space at the back. -/
theorem stops_reverse (isPlain : IsPlain text) : Stops isBlank text.toList.reverse :=
  (stops_of_trim_eq_self isPlain.trim_eq).2

/-- Brackets are balanced, as there are none. -/
theorem isBalanced (isPlain : IsPlain text) : Cursor.IsBalanced text.toList :=
  .of_plain isPlain.areUncounted isPlain.noQuotes

/-- No character is a bracket. -/
theorem all_not_isAuthorBracket (isPlain : IsPlain text) :
    text.toList.all (fun character => !isAuthorBracket character) = true := by
  rw [List.all_eq_true]
  intro character member
  obtain ⟨notOpening, notClosing, -⟩ := isPlain.areUncounted character member
  simp [isAuthorBracket, notOpening, notClosing]

end IsPlain

/-! ## Titles -/

/-- A title goes on to the line feed behind it. -/
theorem titleLength_eq
    (startsEntry : List Char → Bool)
    {title : List Char}
    (areUncounted : ∀ character ∈ title, Cursor.IsUncounted character)
    (oneLine : '\n' ∉ title)
    (behind : List Char) :
    titleLength startsEntry 0 (title ++ '\n' :: behind) = title.length := by
  induction title with
  | nil =>
      cases behind <;> simp [titleLength]
  | cons first rest inductionHypothesis =>
      simp only [List.forall_mem_cons] at areUncounted
      simp only [List.mem_cons, not_or] at oneLine
      obtain ⟨⟨notOpening, notClosing, notBackslash⟩, restUncounted⟩ := areUncounted
      have restLength := inductionHypothesis restUncounted oneLine.2
      obtain ⟨second, more, shape⟩ :=
        List.exists_cons_of_ne_nil (show rest ++ '\n' :: behind ≠ [] by simp)
      rw [List.cons_append, shape, titleLength, ← shape, restLength]
      simp [notOpening, notClosing, notBackslash, Ne.symm oneLine.1, Nat.add_comm]

/-- A title is read up to the end of its line. -/
theorem readTitle_eq
    {title : String}
    (isPlain : IsPlain title)
    (oneLine : '\n' ∉ title.toList)
    {cursor next : Cursor}
    (reads : cursor.Reads title.toList next)
    (ends : next.rest.head? = some '\n') :
    readTitle cursor = (title, next) := by
  obtain ⟨behind, remaining⟩ := List.head?_eq_some_iff.mp ends
  have length :=
    titleLength_eq startsDocInfoAttribute isPlain.areUncounted oneLine behind
  rw [← remaining, ← reads.rest_eq] at length
  simp only [readTitle, length, Prod.mk.injEq]
  refine ⟨?_, reads.advance_eq⟩
  rw [reads.rest_eq, List.take_left, isPlain.trim_eq, String.ofList_toList]

/-! ## Versions -/

/-- A version is taken for one. -/
theorem IsVersion.isLanguageVersion
    {text : String}
    (isVersion : IsVersion text) :
    isLanguageVersion text = true := by
  obtain ⟨major, minor, shape, ⟨majorNotEmpty, majorDigits⟩, minorNotEmpty, minorDigits⟩ :=
    isVersion
  have stops : Stops isDecimalDigit ('.' :: minor) :=
    .cons (by decide +kernel) _
  simp only [DocMarkup.isLanguageVersion, shape, takeWhile_run majorDigits stops, List.drop_left,
    minorDigits, Bool.and_true, Bool.and_eq_true, Bool.not_eq_true', List.isEmpty_eq_false_iff]
  exact ⟨majorNotEmpty, minorNotEmpty⟩

/-! ## Authors -/

/-- An author in brackets is read, with the comma behind it if there is one. -/
theorem readAuthor?_eq
    {author : Author}
    (writable : author.IsWritable)
    {blanks tail behind : List Char}
    (areBlank : blanks.all isBlank = true)
    (ends : (tail = [] ∧ behind = []) ∨ tail = ',' :: behind) :
    readAuthor? (blanks ++ (writtenAuthor author ++ tail)) = some (author, behind) := by
  obtain ⟨surname, notEmpty, noComma, firstname⟩ := writable
  have fromBracket :
      (blanks ++ (writtenAuthor author ++ tail)).dropWhile isBlank =
        '[' :: (author.surname.toList ++
          ',' :: ((' ' :: author.firstname.toList) ++ ']' :: tail)) := by
    rw [show writtenAuthor author ++ tail = '[' :: (author.surname.toList ++
          ',' :: ((' ' :: author.firstname.toList) ++ ']' :: tail)) by simp [writtenAuthor],
      dropWhile_run areBlank (.cons (by decide) _)]
  have surnameRun :
      author.surname.toList.all
        (fun character => !(isAuthorBracket character || character == ',')) = true := by
    have noBracket := surname.all_not_isAuthorBracket
    rw [List.all_eq_true] at noBracket ⊢
    intro character member
    have isOther : character ≠ ',' := fun same => noComma (same ▸ member)
    simpa [isOther] using noBracket character member
  have surnameStops (more : List Char) :
      Stops (fun character => !(isAuthorBracket character || character == ',')) (',' :: more) :=
    .cons (by decide) _
  have firstnameRun :
      (' ' :: author.firstname.toList).all (fun character => !isAuthorBracket character) =
        true := by
    simpa [isAuthorBracket] using firstname.all_not_isAuthorBracket
  have firstnameStops : Stops (fun character => !isAuthorBracket character) (']' :: tail) :=
    .cons (by decide) _
  have surnameGiven : surname? author.surname.toList = some author.surname.toList := by
    rw [surname?, surname.trim_eq]
    split
    next isEmpty => exact (notEmpty (String.toList_eq_nil_iff.mp isEmpty)).elim
    next => rfl
  have firstnameGiven : trim (' ' :: author.firstname.toList) = author.firstname.toList := by
    rw [trim, trimStart, List.dropWhile_cons_of_pos (by decide)]
    exact firstname.trim_eq
  simp only [readAuthor?, fromBracket, takeWhile_run surnameRun (surnameStops _),
    List.drop_left, surnameGiven, takeWhile_run firstnameRun firstnameStops, firstnameGiven,
    String.ofList_toList]
  obtain ⟨rfl, rfl⟩ | rfl := ends
  · rfl
  · have commaStops : Stops isBlank (',' :: behind) := .cons (by decide) _
    rw [dropWhile_of_stops commaStops]
    rfl

/-- Where there is something to read, the first author is read and then the others. -/
theorem readAuthors?_succ
    {characters : List Char}
    (notEmpty : characters ≠ [])
    (steps : Nat) :
    readAuthors? (steps + 1) characters =
      match readAuthor? characters with
      | none => none
      | some (author, rest) => (readAuthors? steps rest).map (author :: ·) := by
  cases characters with
  | nil => exact (notEmpty rfl).elim
  | cons character rest => rfl

/-- Authors are read one after another. -/
theorem readAuthors?_eq
    (first : Author)
    (others : List Author)
    (writable : ∀ author ∈ first :: others, author.IsWritable)
    (blanks : List Char)
    (areBlank : blanks.all isBlank = true)
    {steps : Nat}
    (enough : others.length < steps) :
    readAuthors? steps (blanks ++ (writtenAuthor first ++ writtenOthers others)) =
      some (first :: others) := by
  obtain ⟨left, rfl⟩ := Nat.exists_eq_succ_of_ne_zero (show steps ≠ 0 by omega)
  have notEmpty : blanks ++ (writtenAuthor first ++ writtenOthers others) ≠ [] := by
    simp [writtenAuthor]
  simp only [List.forall_mem_cons] at writable
  rw [Nat.succ_eq_add_one, readAuthors?_succ notEmpty]
  induction others generalizing first blanks left with
  | nil =>
      have isRead := readAuthor?_eq writable.1 areBlank (.inl ⟨rfl, rfl⟩)
      rw [show writtenOthers [] = [] from rfl, isRead]
      cases left <;> rfl
  | cons second more inductionHypothesis =>
      let behind := [' '] ++ (writtenAuthor second ++ writtenOthers more)
      have isRead :=
        readAuthor?_eq writable.1 areBlank
          (.inr (show writtenOthers (second :: more) = ',' :: behind by
            simp [writtenOthers, behind]))
      have behindNotEmpty : behind ≠ [] := by
        simp [behind]
      obtain ⟨fewer, rfl⟩ :=
        Nat.exists_eq_succ_of_ne_zero (show left ≠ 0 by simp at enough; omega)
      simp only [List.forall_mem_cons] at writable
      have restIsRead :=
        inductionHypothesis second [' '] (by decide) fewer (by simpa using enough) behindNotEmpty
          writable.2
      rw [isRead]
      simp only [Nat.succ_eq_add_one, readAuthors?_succ behindNotEmpty, behind] at *
      rw [restIsRead]
      rfl

/-- Every author takes some room. -/
theorem length_le_writtenOthers (others : List Author) :
    others.length ≤ (writtenOthers others).length := by
  induction others with
  | nil =>
      exact Nat.le_refl _
  | cons second rest inductionHypothesis =>
      rw [writtenOthers, List.flatMap_cons, List.length_append, List.length_cons]
      simp only [writtenOthers, List.length_cons] at *
      omega

/-- Nothing is trimmed from authors. -/
theorem trim_writtenAuthors
    (first : Author)
    (others : List Author) :
    trim (writtenAuthor first ++ writtenOthers others) =
      writtenAuthor first ++ writtenOthers others := by
  have endsWithBracket (front : List Char) :
      ∃ more, (front ++ [']']) ++ writtenOthers others = more ++ [']'] := by
    induction others generalizing front with
    | nil =>
        exact ⟨front, List.append_nil _⟩
    | cons second rest inductionHypothesis =>
        obtain ⟨more, shape⟩ :=
          inductionHypothesis
            (front ++ [']'] ++ ',' :: ' ' :: '[' ::
              (second.surname.toList ++ ',' :: ' ' :: second.firstname.toList))
        refine ⟨more, shape.symm.trans ?_ |>.symm⟩
        simp [writtenOthers, writtenAuthor]
  obtain ⟨more, shape⟩ :=
    endsWithBracket ('[' :: (first.surname.toList ++ ',' :: ' ' :: first.firstname.toList))
  have isShape : writtenAuthor first ++ writtenOthers others = more ++ [']'] := shape
  refine trim_eq_self (.cons (by decide) _) ?_
  rw [isShape, List.reverse_append]
  exact .cons (by decide) _

/-- Authors are read back. -/
theorem authors?_eq
    {names : List Author}
    (notEmpty : names ≠ [])
    (writable : ∀ author ∈ names, author.IsWritable) :
    authors? (String.ofList (writtenAuthors names)) = some names := by
  obtain ⟨first, others, rfl⟩ := List.exists_cons_of_ne_nil notEmpty
  have enough : others.length < (writtenAuthor first ++ writtenOthers others).length := by
    have perAuthor := length_le_writtenOthers others
    simp only [writtenAuthor, List.length_append, List.length_cons]
    omega
  have areRead := readAuthors?_eq first others writable [] rfl enough
  simp only [authors?, writtenAuthors, String.toList_ofList, trim_writtenAuthors]
  rw [List.nil_append] at areRead
  rw [areRead]
  rfl

/-- Authors are balanced. -/
theorem isBalanced_writtenAuthor
    {author : Author}
    (writable : author.IsWritable) :
    Cursor.IsBalanced (writtenAuthor author) := by
  refine (writable.surname.isBalanced.append ?_ (by simp [singleQuote])).enclosed
  refine .cons ⟨by decide, by decide, by decide⟩ (by decide) ?_
  exact .cons ⟨by decide, by decide, by decide⟩ (by decide) writable.firstname.isBalanced

/-- Further authors are balanced. -/
theorem isBalanced_writtenOthers
    {others : List Author}
    (writable : ∀ author ∈ others, author.IsWritable) :
    Cursor.IsBalanced (writtenOthers others) := by
  induction others with
  | nil =>
      exact .nil
  | cons second rest inductionHypothesis =>
      simp only [List.forall_mem_cons] at writable
      have restBalanced := inductionHypothesis writable.2
      have startsApart : (writtenOthers rest).head? ≠ some singleQuote := by
        cases rest <;> simp [writtenOthers, singleQuote]
      rw [writtenOthers, List.flatMap_cons, List.cons_append, List.cons_append]
      refine .cons ⟨by decide, by decide, by decide⟩ (by decide) ?_
      refine .cons ⟨by decide, by decide, by decide⟩ (by decide) ?_
      exact (isBalanced_writtenAuthor writable.1).append restBalanced startsApart

/-! ## Copyrights -/

/-- A holder is not taken for further years. -/
theorem readYears_holder
    {holder : List Char}
    (noDigit : ∀ first ∈ holder.head?, isDecimalDigit first = false) :
    readYears holder = ([], holder) := by
  unfold readYears
  split
  next first second third fourth rest =>
    simp [noDigit first (by simp)]
  next => rfl

/-- Neither a year nor a holder starts like what stands between years. -/
theorem writtenYears_stops
    {years : List (String × String)}
    (areYears : ∀ entry ∈ years, IsYear entry.1 ∧ IsGap entry.2)
    {holder : String}
    (isHolder : IsHolder holder) :
    Stops isYearSeparator (writtenYears years ++ holder.toList) := by
  cases years with
  | nil =>
      obtain ⟨first, rest, shape⟩ :=
        List.exists_cons_of_ne_nil (mt String.toList_eq_nil_iff.mp isHolder.notEmpty)
      have startsApart := isHolder.startsApart first (by simp [shape])
      have notBlank := isHolder.isPlain.stops
      rw [shape] at notBlank
      rw [writtenYears, List.flatMap_nil, List.nil_append, shape]
      refine .cons ?_ _
      by_cases blank : isBlank first = true
      · simp [Stops, blank] at notBlank
      · simp [isYearSeparator, blank, startsApart]
  | cons entry rest =>
      obtain ⟨⟨length, areDigits⟩, -⟩ := areYears entry List.mem_cons_self
      rw [← String.length_toList] at length
      obtain ⟨first, digits, shape⟩ :=
        List.exists_cons_of_ne_nil
          (List.ne_nil_of_length_pos (by omega : 0 < entry.1.toList.length))
      rw [shape, List.all_cons, Bool.and_eq_true] at areDigits
      have notBlank := isBlank_of_isDecimalDigit (isDecimalDigit_of_isDigit areDigits.1)
      rw [writtenYears, List.flatMap_cons, shape]
      refine .cons ?_ _
      have notSeparator : first ≠ ',' ∧ first ≠ '-' := by
        constructor <;> rintro rfl <;> simp at areDigits
      simp [isYearSeparator, notBlank, notSeparator]

/-- Years are read back, and the holder remains. -/
theorem readYears_eq
    {years : List (String × String)}
    (areYears : ∀ entry ∈ years, IsYear entry.1 ∧ IsGap entry.2)
    {holder : String}
    (isHolder : IsHolder holder) :
    readYears (writtenYears years ++ holder.toList) = (years.map Prod.fst, holder.toList) := by
  induction years with
  | nil =>
      exact readYears_holder fun first isFirst => (isHolder.startsApart first isFirst).2.2
  | cons entry rest inductionHypothesis =>
      obtain ⟨year, gap⟩ := entry
      simp only [List.forall_mem_cons] at areYears
      obtain ⟨⟨⟨length, areDigits⟩, gapNotEmpty, gapBlank⟩, restYears⟩ := areYears
      rw [← String.length_toList] at length
      obtain ⟨first, second, third, fourth, digits⟩ := List.length_eq_four.mp length
      obtain ⟨blank, more, gapShape⟩ :=
        List.exists_cons_of_ne_nil (mt String.toList_eq_nil_iff.mp gapNotEmpty)
      have areDecimal : [first, second, third, fourth].all isDecimalDigit = true := by
        rw [digits, List.all_eq_true] at areDigits
        rw [List.all_eq_true]
        exact fun character member => isDecimalDigit_of_isDigit (areDigits character member)
      have blankNoDigit : isDecimalDigit blank = false := by
        rw [gapShape, List.all_cons, Bool.and_eq_true] at gapBlank
        exact isDecimalDigit_of_isBlank gapBlank.1
      have gapRun :
          runLength isYearSeparator (gap.toList ++ (writtenYears rest ++ holder.toList)) =
            gap.toList.length := by
        refine congrArg List.length (takeWhile_run ?_ (writtenYears_stops restYears isHolder))
        rw [List.all_eq_true] at gapBlank ⊢
        intro character member
        simp [isYearSeparator, gapBlank character member]
      have isYear : String.ofList [first, second, third, fourth] = year := by
        rw [← digits, String.ofList_toList]
      have text_eq :
          writtenYears ((year, gap) :: rest) ++ holder.toList =
            first :: second :: third :: fourth ::
              (gap.toList ++ (writtenYears rest ++ holder.toList)) := by
        simp [writtenYears, digits]
      rw [text_eq]
      unfold readYears
      simp only [areDecimal, Bool.true_and, gapRun, List.drop_left,
        inductionHypothesis restYears, isYear, List.map_cons]
      rw [gapShape, List.cons_append]
      simp [blankNoDigit]

/-- A copyright is read back. -/
theorem copyright?_eq
    {years : List (String × String)}
    (notEmpty : years ≠ [])
    (areYears : ∀ entry ∈ years, IsYear entry.1 ∧ IsGap entry.2)
    {holder : String}
    (isHolder : IsHolder holder) :
    copyright? (String.ofList (writtenYears years ++ holder.toList)) =
      some { years := years.map Prod.fst, holder := holder } := by
  have front : Stops isBlank (writtenYears years ++ holder.toList) :=
    (writtenYears_stops areYears isHolder).imp isYearSeparator_of_isBlank
  have back : Stops isBlank (writtenYears years ++ holder.toList).reverse := by
    rw [List.reverse_append]
    refine Stops.append isHolder.isPlain.stops_reverse ?_ _
    simpa using isHolder.notEmpty
  have holderNotEmpty : holder.toList ≠ [] := mt String.toList_eq_nil_iff.mp isHolder.notEmpty
  simp only [copyright?, String.toList_ofList, trim_eq_self front back,
    readYears_eq areYears isHolder, isHolder.isPlain.trim_eq, String.ofList_toList]
  simp [notEmpty, holderNotEmpty]

/-- Years are balanced before a balanced text. -/
theorem isBalanced_writtenYears
    {years : List (String × String)}
    (areYears : ∀ entry ∈ years, IsYear entry.1 ∧ IsGap entry.2)
    {holder : List Char}
    (isBalanced : Cursor.IsBalanced holder) :
    Cursor.IsBalanced (writtenYears years ++ holder) := by
  refine .append_front ?_ isBalanced
  intro character member
  rw [writtenYears, List.mem_flatMap] at member
  obtain ⟨entry, listed, inEntry⟩ := member
  obtain ⟨⟨-, areDigits⟩, -, areBlank⟩ := areYears entry listed
  rw [List.all_eq_true] at areDigits areBlank
  obtain inYear | inGap := List.mem_append.mp inEntry
  · exact isUncounted_of_isDigit (areDigits character inYear)
  · exact Cursor.isUncounted_of_isBlank (areBlank character inGap)

/-! ## Lines -/

namespace DocInfoLine

/-- The names of attributes are known. -/
theorem name_mem (line : DocInfoLine) : line.name ∈ docInfoNames := by
  cases line with
  | value field text =>
      show field.name ∈ docInfoNames
      cases field <;> decide
  | authors names =>
      show "authors" ∈ docInfoNames
      decide
  | copyright years holder =>
      show "copyright" ∈ docInfoNames
      decide

/-- A known name is read up to the blank behind it. -/
theorem docInfoName?_eq
    {name : String}
    (known : name ∈ docInfoNames)
    (behind : List Char) :
    docInfoName? (name.toList ++ ' ' :: behind) = some name := by
  have shape :
      ∀ name ∈ docInfoNames,
        name.toList.all isDocInfoNameCharacter = true ∧
          name.toList.head?.any Char.isLower = true := by
    decide
  obtain ⟨isRun, startsLower⟩ := shape name known
  have stops : Stops isDocInfoNameCharacter (' ' :: behind) := .cons (by decide) _
  simp only [docInfoName?, takeWhile_run isRun stops, List.drop_left]
  cases characters : name.toList with
  | nil => simp [characters] at startsLower
  | cons first rest =>
      rw [characters] at startsLower
      have isFirst : first.isLower = true := by simpa using startsLower
      have blank : isBlank ' ' = true := by decide
      simp only [isFirst, blank, Bool.true_or, Bool.and_self, ↓reduceIte, Option.some.injEq]
      rw [← characters, String.ofList_toList]

variable {line : DocInfoLine}

/-- What an attribute holds is closed by the bracket behind it. -/
theorem isBalanced_content (writable : line.IsWritable) : Cursor.IsBalanced line.content := by
  cases line with
  | value field text => exact writable.1.isBalanced
  | authors names =>
      obtain ⟨notEmpty, areWritable⟩ := writable
      obtain ⟨first, others, rfl⟩ := List.exists_cons_of_ne_nil notEmpty
      simp only [List.forall_mem_cons] at areWritable
      refine
        (isBalanced_writtenAuthor areWritable.1).append (isBalanced_writtenOthers areWritable.2) ?_
      cases others <;> simp [writtenOthers, singleQuote]
  | copyright years holder =>
      exact isBalanced_writtenYears writable.2.1 writable.2.2.isPlain.isBalanced

/-- What an attribute holds does not start with white space. -/
theorem stops_content (writable : line.IsWritable) : Stops isBlank line.content := by
  cases line with
  | value field text => exact writable.1.stops
  | authors names =>
      obtain ⟨first, others, rfl⟩ := List.exists_cons_of_ne_nil writable.1
      exact .cons (by decide) _
  | copyright years holder =>
      exact (writtenYears_stops writable.2.1 writable.2.2).imp isYearSeparator_of_isBlank

/-- What an attribute holds is added to the information. -/
theorem withAttribute?_eq
    {info : DocInfo}
    (writable : line.IsWritable)
    (isNew : ∀ field ∈ line.field?, info.value? field = none) :
    info.withAttribute? line.name (String.ofList line.content) = some (line.addTo info) := by
  cases line with
  | value field text =>
      obtain ⟨isPlain, isVersion⟩ := writable
      have added :=
        info.withAttribute?_setValue text field (isNew field rfl) fun same => by
          rw [isPlain.isTrimmed]
          exact (isVersion same).isLanguageVersion
      rw [isPlain.isTrimmed] at added
      rw [content, String.ofList_toList]
      exact added
  | authors names =>
      simp only [name, content, DocInfo.withAttribute?, authors?_eq writable.1 writable.2,
        Option.map_some, addTo]
  | copyright years holder =>
      simp only [name, content, DocInfo.withAttribute?,
        copyright?_eq writable.1 writable.2.1 writable.2.2, Option.map_some, addTo]

end DocInfoLine

/-! ## Blocks of lines -/

section Reading

variable {info : DocInfo} {cursor next : Cursor} {lines : List DocInfoLine}

/-- An attribute in brackets is added, and reading goes on behind its bracket. -/
theorem readDocInfoAttributes_entry
    {extended : DocInfo}
    {content : List Char}
    {name value : String}
    {atBracket : Cursor}
    (opened : cursor.skipComments.rest = '[' :: content)
    (named : docInfoName? content = some name)
    (isRead :
      (cursor.skipComments.advance (name.length + 1)).skipBlank.balanced? =
        some (value, atBracket))
    (added : info.withAttribute? name value = some extended) :
    readDocInfoAttributes info cursor =
      readDocInfoAttributes extended (atBracket.advance 1) := by
  have notClosed : cursor.skipComments.close? = none :=
    Cursor.character?_eq_none (by rw [opened]; simp)
  rw [readDocInfoAttributes]
  simp only [notClosed]
  split
  next found isOpened =>
    obtain rfl : content = found := by
      rw [opened] at isOpened
      exact (List.cons.inj isOpened).2
    simp only [named]
    split
    next notRead => simp [isRead] at notRead
    next foundValue foundBracket found =>
      rw [isRead, Option.some.injEq, Prod.mk.injEq] at found
      obtain ⟨rfl, rfl⟩ := found
      simp only [added]
  next notOpened => exact (notOpened _ opened).elim

/-- Behind a line feed, the bracket of an attribute is come to. -/
theorem skipComments_of_attribute
    {content : List Char}
    {name : String}
    (readsLineFeed : cursor.Reads ['\n'] next)
    (opened : next.rest = '[' :: content)
    (named : docInfoName? content = some name) :
    cursor.skipComments = next := by
  refine readsLineFeed.skipComments_eq rfl ?_ ?_
  · rw [opened]
    exact .cons (by decide) _
  · rw [opened]
    cases content with
    | nil => rfl
    | cons first rest =>
        have notSlash : first ≠ '/' := by
          rintro rfl
          rw [docInfoName?] at named
          simp [isDocInfoNameCharacter] at named
        simp [List.isPrefixOf_cons_cons, notSlash.symm]

/-- An attribute is read from its line, and reading goes on behind its bracket. -/
theorem readDocInfoAttributes_line
    {line : DocInfoLine}
    (writable : line.IsWritable)
    (isNew : ∀ field ∈ line.field?, info.value? field = none)
    {behind : List Char}
    (reads : cursor.Reads (['\n'] ++ (line.written ++ behind)) next) :
    ∃ afterBracket,
      afterBracket.Reads (['\n'] ++ behind) next ∧
        readDocInfoAttributes info cursor =
          readDocInfoAttributes (line.addTo info) afterBracket := by
  simp only [DocInfoLine.written, List.append_assoc] at reads
  obtain ⟨entry, readsLineFeed, reads⟩ := reads.split
  obtain ⟨atName, readsOpening, reads⟩ := reads.split
  obtain ⟨atBlank, readsName, reads⟩ := reads.split
  obtain ⟨atContent, readsBlank, reads⟩ := reads.split
  obtain ⟨atBracket, readsContent, reads⟩ := reads.split
  obtain ⟨afterBracket, readsClosing, reads⟩ := reads.split
  refine ⟨afterBracket, reads, ?_⟩
  have opened : entry.rest = '[' :: atName.rest := readsOpening.rest_eq
  have named : docInfoName? atName.rest = some line.name := by
    rw [readsName.rest_eq, readsBlank.rest_eq]
    exact DocInfoLine.docInfoName?_eq line.name_mem _
  have isEntry : cursor.skipComments = entry :=
    skipComments_of_attribute readsLineFeed opened named
  have contentStops : Stops isBlank atContent.rest := by
    rw [readsContent.rest_eq, readsClosing.rest_eq]
    exact (line.stops_content writable).append_stops (.cons (by decide) _)
  have atValue : (entry.advance (line.name.length + 1)).skipBlank = atContent := by
    have readsOpeningName := readsOpening.append readsName
    rw [show line.name.length + 1 = (['['] ++ line.name.toList).length by
      simp [String.length_toList, Nat.add_comm], readsOpeningName.advance_eq]
    exact readsBlank.skip_eq (by decide) contentStops
  have balanced :=
    (DocInfoLine.isBalanced_content writable).isClosedByNext.balanced?_eq readsContent
      (by rw [readsClosing.rest_eq]; rfl)
  have isRead :=
    readDocInfoAttributes_entry (by rw [isEntry]; exact opened) named
      (by rw [isEntry, atValue]; exact balanced) (DocInfoLine.withAttribute?_eq writable isNew)
  rw [isRead, show atBracket.advance 1 = afterBracket from readsClosing.advance_eq]

/-- Lines are read one after another, and what they say is added up. -/
theorem readDocInfoAttributes_lines
    (writable : ∀ line ∈ lines, line.IsWritable)
    (once : (lines.filterMap DocInfoLine.field?).Nodup)
    (areNew : ∀ field ∈ lines.filterMap DocInfoLine.field?, info.value? field = none)
    (reads :
      cursor.Reads (['\n'] ++ (lines.flatMap DocInfoLine.written ++ [']'])) next) :
    readDocInfoAttributes info cursor = .ok (info.withLines lines, next) := by
  induction lines generalizing info cursor with
  | nil =>
      obtain ⟨atBracket, readsLineFeed, closes⟩ := reads.split
      have isEntry : cursor.skipComments = atBracket := by
        refine readsLineFeed.skipComments_eq rfl ?_ ?_
        · rw [closes.rest_eq]
          exact .cons (by decide) _
        · rw [closes.rest_eq]
          rfl
      have isClosed : atBracket.close? = some next := closes.close?_eq
      rw [readDocInfoAttributes]
      simp only [isEntry, isClosed]
      rfl
  | cons line rest inductionHypothesis =>
      rw [List.flatMap_cons, List.append_assoc] at reads
      simp only [List.forall_mem_cons] at writable
      have isNew : ∀ field ∈ line.field?, info.value? field = none := fun field isField =>
        areNew field (List.mem_filterMap.mpr ⟨line, List.mem_cons_self, isField⟩)
      obtain ⟨afterBracket, readsRest, isRead⟩ :=
        readDocInfoAttributes_line writable.1 isNew reads
      have restOnce : (rest.filterMap DocInfoLine.field?).Nodup :=
        once.sublist ((List.sublist_cons_self line rest).filterMap _)
      have restNew :
          ∀ field ∈ rest.filterMap DocInfoLine.field?,
            (line.addTo info).value? field = none := by
        intro field later
        have other : line.field? ≠ some field := by
          intro same
          rw [List.filterMap_cons, same] at once
          exact (List.nodup_cons.mp once).1 later
        rw [DocInfo.value?_addTo info line field other]
        refine areNew field ?_
        obtain ⟨found, member, isField⟩ := List.mem_filterMap.mp later
        exact List.mem_filterMap.mpr ⟨found, List.mem_cons_of_mem _ member, isField⟩
      rw [isRead, inductionHypothesis writable.2 restOnce restNew readsRest]
      rfl

/-- The types of documents are told apart by their first characters. -/
theorem documentTypes_differ :
    ∀ docType ∈ documentTypes, ∀ other ∈ documentTypes,
      other = docType ∨ Differ ("[" ++ other).toList ("[" ++ docType).toList := by
  decide +kernel

/-- The type of a document is read behind its bracket, where nothing is to be skipped. -/
theorem documentType_eq
    {docType : String}
    (isType : docType ∈ documentTypes)
    (reads : cursor.Reads ("[" ++ docType).toList next)
    (isAfterType : next.isAfterKeyword = true) :
    cursor.skipComments = cursor ∧
      documentTypes.findSome? (fun docType =>
          (cursor.keyword? ("[" ++ docType)).map fun afterKeyword => (docType, afterKeyword)) =
        some (docType, next) := by
  have noComment : ∀ docType ∈ documentTypes, Differ ['[', '/'] ("[" ++ docType).toList := by
    decide
  constructor
  · refine (Cursor.Reads.nil cursor).skipComments_eq rfl ?_ ?_
    · rw [reads.rest_eq, String.toList_append]
      exact .cons (by decide) _
    · rw [reads.rest_eq]
      exact (noComment docType isType).isPrefixOf_eq_false _
  · exact
      Block.findSome?_keyword (fun docType => "[" ++ docType) Prod.mk isType reads isAfterType
        (documentTypes_differ docType isType)

/-- A block of document information is read through its closing bracket and the end of that line. -/
theorem readDocInfo_eq
    (isWritten : info.IsWrittenAs lines)
    {after : Cursor}
    (reads : cursor.Reads (writtenDocInfo info lines) next)
    (ends : next.lineEnd?.getD next = after) :
    readDocInfo cursor = .ok (info, after) := by
  obtain ⟨afterType, readsType, reads⟩ := reads.split
  obtain ⟨atTitle, readsBlank, reads⟩ := reads.split
  obtain ⟨afterTitle, readsTitle, reads⟩ := reads.split
  have isAfterType : afterType.isAfterKeyword = true := by
    have blank : isBlank ' ' = true := by decide
    simp [Cursor.isAfterKeyword, readsBlank.rest_eq, blank]
  obtain ⟨isBlock, opened⟩ := documentType_eq isWritten.isType readsType isAfterType
  have titleStops : Stops isHorizontal atTitle.rest := by
    rw [readsTitle.rest_eq, reads.rest_eq]
    have stops := isWritten.title.stops.imp isBlank_of_isHorizontal
    exact stops.append_stops (.cons (by decide) _)
  have isTitle : afterType.skipHorizontal = atTitle := readsBlank.skip_eq (by decide) titleStops
  have titleRead :=
    readTitle_eq isWritten.title isWritten.oneLine readsTitle (by rw [reads.rest_eq]; rfl)
  have attributesRead :
      readDocInfoAttributes { docType := info.docType, title := info.title } afterTitle =
        .ok (info, next) := by
    have areNew (field : DocInfoField) :
        ({ docType := info.docType, title := info.title } : DocInfo).value? field = none := by
      cases field <;> rfl
    rw [readDocInfoAttributes_lines isWritten.writable isWritten.once (fun field _ => areNew field)
      reads, isWritten.withLines_eq]
  simp only [readDocInfo, isBlock, opened, isTitle, titleRead, attributesRead, ends]

end Reading

/--
Document information is read back from the block that it is written as, wherever the
block stands and in whatever order its lines are, up to the end of its last line.
-/
theorem written_document_information_reads_back
    {info : DocInfo}
    {lines : List DocInfoLine}
    (isWritten : info.IsWrittenAs lines)
    (cursor : Cursor)
    {behind : List Char}
    (remaining : cursor.rest = writtenDocInfo info lines ++ behind)
    (ends : behind = [] ∨ behind.head? = some '\n') :
    readDocInfo cursor =
      .ok (info, cursor.advance (writtenDocInfo info lines ++ behind.take 1).length) := by
  have split : cursor.rest = (writtenDocInfo info lines ++ behind.take 1) ++ behind.drop 1 := by
    rw [remaining, List.append_assoc, List.take_append_drop]
  obtain ⟨next, reads, readsEnd⟩ := (Cursor.Reads.of_rest split).split
  refine readDocInfo_eq isWritten reads ?_
  obtain rfl | startsWithLineFeed := ends
  · have atEnd : next.rest = [] := reads.rest_of remaining
    have isNext : next = cursor.advance (writtenDocInfo info lines ++ [].take 1).length :=
      (readsEnd.unique (.nil next)).symm
    have noBlanks : next.skipHorizontal = next := Cursor.skip_eq_self (by rw [atEnd]; rfl)
    rw [← isNext]
    simp [Cursor.lineEnd?, noBlanks, Cursor.isAtEnd, atEnd]
  · obtain ⟨more, rfl⟩ := List.head?_eq_some_iff.mp startsWithLineFeed
    have readsLineFeed :
        next.Reads ['\n']
          (cursor.advance (writtenDocInfo info lines ++ ('\n' :: more).take 1).length) :=
      readsEnd
    rw [readsLineFeed.lineEnd?_eq]
    rfl

/-- An article is read back with its copyright first and its authors on two lines. -/
theorem written_document_information_reads_back_for_article :
    let info : DocInfo :=
      { docType := "article"
        title := "A \x60b\x60"
        id := some "it's"
        languageVersion := some "1.7"
        authors := [⟨"Doe", "J."⟩, ⟨"Roe", ""⟩, ⟨"Poe", "E, A"⟩]
        copyrights := [⟨["1999", "2001"], "Doe, Roe"⟩] }
    let lines : List DocInfoLine :=
      [.copyright [("1999", " "), ("2001", "\n ")] "Doe, Roe", .authors [⟨"Doe", "J."⟩],
        .value .id "it's", .authors [⟨"Roe", ""⟩, ⟨"Poe", "E, A"⟩],
        .value .languageVersion "1.7"]
    let source : Source :=
      { text := String.ofList (writtenDocInfo info lines ++ ['\n', '[', ':', 'q', ']'])
        name := "note" }
    readDocInfo source.cursor =
      .ok (info, source.cursor.advance ((writtenDocInfo info lines).length + 1)) := by
  intro info lines source
  have isWritten : info.IsWrittenAs lines :=
    { isType := by decide
      title := by decide +kernel
      oneLine := by decide
      writable := by
        simp only [lines, List.forall_mem_cons, List.not_mem_nil, false_implies, implies_true,
          and_true]
        refine ⟨⟨by simp, ?_, ?_⟩, ⟨by simp, ?_⟩, ⟨?_, by simp⟩, ⟨by simp, ?_⟩,
          ?_, fun _ => ⟨['1'], ['7'], by decide +kernel⟩⟩
        all_goals decide +kernel
      once := by decide
      values := by
        intro field text
        cases field <;> simp [lines, info, DocInfo.value?, eq_comm]
      authors := rfl
      copyrights := rfl
      isShown := rfl }
  have remaining :
      source.cursor.rest = writtenDocInfo info lines ++ ['\n', '[', ':', 'q', ']'] := by
    rw [Source.rest_cursor]
    exact String.toList_ofList
  have isRead :=
    written_document_information_reads_back isWritten source.cursor remaining (.inr rfl)
  rw [List.length_append] at isRead
  exact isRead

end DocMarkup
