import DocMarkup.Markup.Token

namespace DocMarkup

/-!
# Reading attributes, whatever follows them

A reader of markup looks no further than to the end of what it reads. So a piece
of markup that is read in one place is read in the same way in every other, and
markup can be put together from such pieces. This is shown for quoted values,
for attributes and for attributes in a row.
-/

namespace Text

variable {belongs : Char → Bool} {front behind : List Char}

/-- A text does not go on with a character of a kind. -/
def Stops (belongs : Char → Bool) (behind : List Char) : Prop :=
  behind.takeWhile belongs = []

/-- A text that starts with a character of another kind does not go on. -/
theorem Stops.cons
    {character : Char}
    (other : belongs character = false)
    (rest : List Char) :
    Stops belongs (character :: rest) := by
  simp [Stops, other]

/-- The characters of a kind at the front are a run of which the end is known. -/
theorem takeWhile_run
    (isRun : front.all belongs = true)
    (stops : Stops belongs behind) :
    (front ++ behind).takeWhile belongs = front := by
  rw [List.takeWhile_append_of_pos (List.all_eq_true.mp isRun), stops, List.append_nil]

/-- The length of a run of which the end is known. -/
theorem runLength_run
    (isRun : front.all belongs = true)
    (stops : Stops belongs behind) :
    runLength belongs (front ++ behind) = front.length := by
  rw [runLength, takeWhile_run isRun stops]

/-- Every text is a run of characters of a kind and what does not go on with them. -/
theorem exists_run (belongs : Char → Bool) (characters : List Char) :
    ∃ front behind,
      characters = front ++ behind ∧ front.all belongs = true ∧ Stops belongs behind := by
  refine ⟨characters.takeWhile belongs, characters.dropWhile belongs,
    List.takeWhile_append_dropWhile.symm, List.all_takeWhile, ?_⟩
  unfold Stops
  induction characters with
  | nil =>
      rfl
  | cons first rest inductionHypothesis =>
      cases same : belongs first with
      | true =>
          rw [List.dropWhile_cons_of_pos same]
          exact inductionHypothesis
      | false =>
          rw [List.dropWhile_cons_of_neg (by simp [same])]
          simp [same]

end Text

namespace Markup

open Text

/-! ## Quoted values -/

/-- Texts of which one is known to be in front agree in what else is in front. -/
private theorem isPrefixOf_append_eq
    {closing front : List Char}
    (long : closing.length ≤ front.length)
    (behind : List Char) :
    closing.isPrefixOf (front ++ behind) = closing.isPrefixOf front := by
  induction closing generalizing front with
  | nil =>
      simp
  | cons first rest inductionHypothesis =>
      cases front with
      | nil =>
          simp at long
      | cons other others =>
          simp only [List.length_cons, Nat.add_le_add_iff_right] at long
          simp [List.isPrefixOf, inductionHypothesis long]

/-- Looking for a closing text goes no further than to its end. -/
theorem exists_of_lengthThrough?
    {closing characters : List Char}
    (notEmpty : closing ≠ [])
    {length : Nat}
    (found : lengthThrough? closing characters = some length) :
    ∃ body behind,
      characters = body ++ behind ∧ body.length = length ∧ closing.length ≤ body.length ∧
        ∀ more, lengthThrough? closing (body ++ more) = some body.length := by
  induction characters generalizing length with
  | nil =>
      simp [lengthThrough?] at found
  | cons character rest inductionHypothesis =>
      rw [lengthThrough?] at found
      split at found
      next isClosing =>
        obtain rfl := Option.some.inj found
        obtain ⟨behind, shape⟩ := List.isPrefixOf_iff_prefix.mp isClosing
        refine ⟨closing, behind, shape.symm, rfl, Nat.le_refl _, ?_⟩
        intro more
        cases closing with
        | nil =>
            exact (notEmpty rfl).elim
        | cons first others =>
            simp [lengthThrough?]
      next isOther =>
        obtain ⟨shorter, foundInRest, rfl⟩ := Option.map_eq_some_iff.mp found
        obtain ⟨body, behind, rfl, rfl, long, reads⟩ := inductionHypothesis foundInRest
        refine ⟨character :: body, behind, rfl, rfl, by rw [List.length_cons]; omega, ?_⟩
        intro more
        have stillOther : closing.isPrefixOf (character :: (body ++ more)) = false := by
          have longer : closing.length ≤ (character :: body).length := by
            rw [List.length_cons]
            omega
          rw [← List.cons_append, isPrefixOf_append_eq longer,
            ← isPrefixOf_append_eq longer behind]
          exact eq_false_of_ne_true isOther
        rw [List.cons_append, lengthThrough?, stillOther, reads more]
        rfl

/-- A text without a character goes on up to the first one behind it. -/
theorem lengthThrough?_of_not_mem
    {character : Char}
    {front : List Char}
    (absent : character ∉ front)
    (behind : List Char) :
    lengthThrough? [character] (front ++ character :: behind) = some (front.length + 1) := by
  induction front with
  | nil =>
      simp [lengthThrough?]
  | cons first rest inductionHypothesis =>
      simp only [List.mem_cons, not_or] at absent
      rw [List.cons_append, lengthThrough?, inductionHypothesis absent.2]
      simp [List.isPrefixOf, absent.1]

/-- A text that is read as a quoted value, whatever follows it. -/
def IsQuoted (text : List Char) : Prop :=
  Stops isBlank text ∧ text ≠ [] ∧
    ∀ more, quotedLength? (text ++ more) = some text.length

/-- Whatever is read as a quoted value is one. -/
theorem exists_isQuoted
    {characters : List Char}
    {length : Nat}
    (read : quotedLength? characters = some length) :
    ∃ text behind, characters = text ++ behind ∧ text.length = length ∧ IsQuoted text := by
  cases characters with
  | nil =>
      simp [quotedLength?] at read
  | cons quote value =>
      rw [quotedLength?] at read
      split at read
      next isQuote =>
        obtain ⟨valueLength, found, rfl⟩ := Option.map_eq_some_iff.mp read
        obtain ⟨body, behind, rfl, rfl, _, reads⟩ :=
          exists_of_lengthThrough? (List.cons_ne_nil _ _) found
        refine ⟨quote :: body, behind, rfl, rfl, .cons ?_ _, List.cons_ne_nil _ _, ?_⟩
        · simp only [isAttributeQuote, Bool.or_eq_true, beq_iff_eq] at isQuote
          rcases isQuote with rfl | rfl <;> decide
        · intro more
          rw [List.cons_append, quotedLength?, if_pos isQuote, reads more]
          rfl
      next =>
        simp at read

/-- A text without double quotes is a quoted value between two of them. -/
theorem isQuoted_of_not_mem
    {value : List Char}
    (unquoted : Text.doubleQuote ∉ value) :
    IsQuoted (Text.doubleQuote :: (value ++ [Text.doubleQuote])) := by
  refine ⟨.cons (by decide) _, List.cons_ne_nil _ _, ?_⟩
  intro more
  have isQuote : isAttributeQuote Text.doubleQuote = true := by
    decide
  rw [List.cons_append, quotedLength?, if_pos isQuote, List.append_assoc, List.singleton_append,
    lengthThrough?_of_not_mem unquoted]
  simp

/-! ## Attributes -/

/-- A text that is read as an attribute, whatever follows it. -/
def IsAttribute (text : List Char) : Prop :=
  ∀ more, attributeLength? (text ++ more) = some text.length

/-- No character of the name of an attribute is a blank. -/
theorem stops_isBlank_of_isRun
    {name : List Char}
    (notEmpty : name ≠ [])
    (isRun : name.all isAttributeNameCharacter = true)
    (behind : List Char) :
    Stops isBlank (name ++ behind) := by
  cases name with
  | nil =>
      exact (notEmpty rfl).elim
  | cons first rest =>
      refine .cons ?_ _
      simp only [List.all_cons, Bool.and_eq_true] at isRun
      have isName := isRun.1
      simp only [isAttributeNameCharacter, isEndNameCharacter, Bool.and_eq_true, Bool.not_eq_true',
        Bool.or_eq_false_iff] at isName
      exact isName.1.1.1.1

/-- The parts of an attribute make it up. -/
theorem isAttribute_of_parts
    {blanks name gap secondGap value : List Char}
    (areBlanks : blanks.all isBlank = true)
    (notEmpty : name ≠ [])
    (isName : name.all isAttributeNameCharacter = true)
    (isGap : gap.all isBlank = true)
    (isSecondGap : secondGap.all isBlank = true)
    (isQuoted : IsQuoted value) :
    IsAttribute (blanks ++ (name ++ (gap ++ '=' :: (secondGap ++ value)))) := by
  intro more
  have nameStops :
      Stops isAttributeNameCharacter (gap ++ '=' :: (secondGap ++ (value ++ more))) := by
    cases gap with
    | nil =>
        exact .cons (by decide) _
    | cons first rest =>
        refine .cons ?_ _
        simp only [List.all_cons, Bool.and_eq_true] at isGap
        simp [isAttributeNameCharacter, isEndNameCharacter, isGap.1]
  have gapStops : Stops isBlank ('=' :: (secondGap ++ (value ++ more))) :=
    .cons (by decide) _
  have valueStops : Stops isBlank (value ++ more) := by
    obtain ⟨stops, nonempty, _⟩ := isQuoted
    cases value with
    | nil =>
        exact (nonempty rfl).elim
    | cons first rest =>
        simpa [Stops, List.takeWhile_cons] using stops
  have nameLength : name.length ≠ 0 :=
    fun isNil => notEmpty (List.length_eq_zero_iff.mp isNil)
  unfold attributeLength?
  simp only [List.append_assoc, List.cons_append]
  rw [runLength_run areBlanks (stops_isBlank_of_isRun notEmpty isName _), List.drop_left,
    runLength_run isName nameStops, List.drop_left, runLength_run isGap gapStops, List.drop_left]
  simp only [nameLength, ↓reduceIte]
  rw [runLength_run isSecondGap valueStops, List.drop_left, isQuoted.2.2 more]
  simp only [Option.map_some, List.length_append, List.length_cons, Option.some.injEq]
  omega

/-- Whatever is read as an attribute is one. -/
theorem exists_isAttribute
    {characters : List Char}
    {length : Nat}
    (read : attributeLength? characters = some length) :
    ∃ text behind, characters = text ++ behind ∧ text.length = length ∧ IsAttribute text := by
  obtain ⟨blanks, fromName, rfl, areBlanks, blanksStop⟩ := exists_run isBlank characters
  obtain ⟨name, afterName, rfl, isName, nameStops⟩ :=
    exists_run isAttributeNameCharacter fromName
  obtain ⟨gap, fromEquals, rfl, isGap, gapStops⟩ := exists_run isBlank afterName
  unfold attributeLength? at read
  simp only at read
  rw [runLength_run areBlanks blanksStop, List.drop_left, runLength_run isName nameStops,
    List.drop_left, runLength_run isGap gapStops, List.drop_left] at read
  split at read
  · simp at read
  next notEmpty =>
    split at read
    next afterEquals =>
      obtain ⟨secondGap, fromValue, rfl, isSecondGap, secondStops⟩ :=
        exists_run isBlank afterEquals
      rw [runLength_run isSecondGap secondStops, List.drop_left] at read
      obtain ⟨valueLength, readValue, rfl⟩ := Option.map_eq_some_iff.mp read
      obtain ⟨value, behind, rfl, rfl, isQuoted⟩ := exists_isQuoted readValue
      refine ⟨blanks ++ (name ++ (gap ++ '=' :: (secondGap ++ value))), behind, by simp, ?_, ?_⟩
      · simp only [List.length_append, List.length_cons]
        omega
      · exact isAttribute_of_parts areBlanks (fun isNil => notEmpty (by simp [isNil])) isName
          isGap isSecondGap isQuoted
    next =>
      simp at read

/-! ## Attributes in a row -/

/-- Attributes in a row, each with a blank in front of it. -/
inductive AreAttributes : List Char → Prop where
  | nil : AreAttributes []
  | cons {blank text rest} :
      isBlank blank = true →
      IsAttribute text →
      AreAttributes rest →
      AreAttributes (blank :: (text ++ rest))

/-- Attributes in a row are read as such if no further one follows. -/
theorem attributesLength_append
    {text more : List Char}
    (areAttributes : AreAttributes text)
    (noFurther : attributesLength more = 0) :
    attributesLength (text ++ more) = text.length := by
  induction areAttributes with
  | nil =>
      exact noFurther
  | @cons blank entry rest isBlank isAttribute _ inductionHypothesis =>
      rw [List.cons_append, attributesLength, if_pos isBlank, List.append_assoc,
        isAttribute (rest ++ more)]
      simp only [List.drop_left, inductionHypothesis, List.length_cons, List.length_append]
      omega

/-- Every text starts with all the attributes that are read from it. -/
theorem exists_areAttributes (characters : List Char) :
    ∃ text behind,
      characters = text ++ behind ∧ AreAttributes text ∧
        attributesLength characters = text.length ∧ attributesLength behind = 0 := by
  fun_induction attributesLength characters with
  | case1 =>
      exact ⟨[], [], rfl, .nil, rfl, attributesLength.eq_1⟩
  | case2 blank rest isBlank length read inductionHypothesis =>
      obtain ⟨entry, afterEntry, rfl, rfl, isAttribute⟩ := exists_isAttribute read
      rw [List.drop_left] at inductionHypothesis
      obtain ⟨others, behind, rfl, areAttributes, sameLength, noFurther⟩ := inductionHypothesis
      refine ⟨blank :: (entry ++ others), behind, by simp,
        .cons isBlank isAttribute areAttributes, ?_, noFurther⟩
      rw [List.drop_left, sameLength]
      simp only [List.length_cons, List.length_append]
      omega
  | case3 blank rest isBlank unread =>
      refine ⟨[], blank :: rest, rfl, .nil, rfl, ?_⟩
      rw [attributesLength, if_pos isBlank, unread]
  | case4 character rest notBlank =>
      refine ⟨[], character :: rest, rfl, .nil, rfl, ?_⟩
      rw [attributesLength, if_neg notBlank]

/-- In front of the end of a tag there is no attribute. -/
theorem attributesLength_eq_zero
    {blanks : List Char}
    (areBlanks : blanks.all isBlank = true)
    {last : Char}
    (isEnd : last = '>' ∨ last = '/')
    (behind : List Char) :
    attributesLength (blanks ++ last :: behind) = 0 := by
  have notBlank : isBlank last = false := by
    rcases isEnd with rfl | rfl <;> decide
  have notName : isAttributeNameCharacter last = false := by
    rcases isEnd with rfl | rfl <;> decide
  cases blanks with
  | nil =>
      rw [List.nil_append, attributesLength, notBlank]
      rfl
  | cons blank rest =>
      simp only [List.all_cons, Bool.and_eq_true] at areBlanks
      have noAttribute : attributeLength? (rest ++ last :: behind) = none := by
        unfold attributeLength?
        simp only
        rw [runLength_run areBlanks.2 (.cons notBlank behind), List.drop_left]
        simp [runLength, notName]
      rw [List.cons_append, attributesLength, if_pos areBlanks.1, noAttribute]

end Markup

end DocMarkup
