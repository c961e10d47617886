import DocMarkup.Proofs.Markup.Attribute

namespace DocMarkup.Markup

open Text

/-!
# Tags, whatever follows them

The shape of a tag, a comment or another construct in angle brackets depends only
on the characters that belong to it. So a construct keeps its shape wherever it is
put.
-/

/-- A construct without its first angle bracket, which has the shape wherever it is put. -/
structure TokenShape.Covers (shape : TokenShape) (body : List Char) : Prop where
  length : body.length = shape.length
  shaped : ∀ more, bracketShape? (body ++ more) = some shape

/-- The name of an element in its opening tag. -/
def IsTagName (name : List Char) : Prop :=
  name ≠ [] ∧ name.all isStartNameCharacter = true

variable {name attributes blanks : List Char}

/-- The name in an opening tag can stand in a closing one. -/
theorem IsTagName.isEndName (isName : IsTagName name) : name.all isEndNameCharacter = true := by
  rw [List.all_eq_true]
  intro character member
  have isStart := List.all_eq_true.mp isName.2 character member
  simp only [isStartNameCharacter, Bool.and_eq_true] at isStart
  exact isStart.1.1

/-- Tags that start with a name are read as such, up to what ends the tag. -/
theorem startShape?_eq
    (isName : IsTagName name)
    (areAttributes : AreAttributes attributes)
    (areBlanks : blanks.all isBlank = true)
    {last : Char}
    (isEnd : last = '>' ∨ last = '/')
    (behind : List Char) :
    startShape? (name ++ (attributes ++ (blanks ++ last :: behind))) =
      match last :: behind with
      | '>' :: _ =>
          some ⟨.start, name.length + attributes.length + blanks.length + 1, name⟩
      | '/' :: '>' :: _ =>
          some ⟨.empty, name.length + attributes.length + blanks.length + 2, name⟩
      | _ => none := by
  have stopsAtBlank :
      ∀ blank rest, isBlank blank = true → Stops isStartNameCharacter (blank :: rest) := by
    intro blank rest isBlank
    refine .cons ?_ _
    simp [isStartNameCharacter, isEndNameCharacter, isBlank]
  have nameStops :
      Stops isStartNameCharacter (attributes ++ (blanks ++ last :: behind)) := by
    cases areAttributes with
    | cons isBlank _ _ =>
        exact stopsAtBlank _ _ isBlank
    | nil =>
        cases blanks with
        | cons blank rest =>
            simp only [List.all_cons, Bool.and_eq_true] at areBlanks
            exact stopsAtBlank _ _ areBlanks.1
        | nil =>
            refine .cons ?_ _
            rcases isEnd with rfl | rfl <;> decide
  have blanksStop : Stops isBlank (last :: behind) := by
    refine .cons ?_ _
    rcases isEnd with rfl | rfl <;> decide
  have notEmpty : name.isEmpty = false := by
    simpa using isName.1
  unfold startShape?
  simp only
  rw [takeWhile_run isName.2 nameStops, List.drop_left,
    attributesLength_append areAttributes (attributesLength_eq_zero areBlanks isEnd behind),
    List.drop_left, runLength_run areBlanks blanksStop, List.drop_left, notEmpty]
  rfl

/-- What starts with the name of a tag is no other construct. -/
theorem bracketShape?_eq_startShape?
    (isName : IsTagName name)
    (behind : List Char) :
    bracketShape? (name ++ behind) = startShape? (name ++ behind) := by
  obtain ⟨notEmpty, isRun⟩ := isName
  cases name with
  | nil =>
      exact (notEmpty rfl).elim
  | cons first rest =>
      simp only [List.all_cons, Bool.and_eq_true] at isRun
      have isStart := isRun.1
      rw [List.cons_append]
      unfold bracketShape?
      split
      next content shape =>
        obtain ⟨rfl, _⟩ := List.cons.inj shape
        exact absurd isStart (by decide)
      next content shape =>
        obtain ⟨rfl, _⟩ := List.cons.inj shape
        exact absurd isStart (by decide)
      next content shape =>
        obtain ⟨rfl, _⟩ := List.cons.inj shape
        exact absurd isStart (by decide)
      next =>
        rfl

/-- A letter behind an exclamation mark starts a declaration. -/
theorem exclamationShape?_letter
    {letter : Char}
    (isLetter : letter.isAlpha = true)
    (content : List Char) :
    exclamationShape? (letter :: content) = enclosedShape? .declaration 2 ">" content := by
  unfold exclamationShape?
  split
  next shape =>
    obtain ⟨rfl, _⟩ := List.cons.inj shape
    exact absurd isLetter (by decide)
  next shape =>
    obtain ⟨rfl, _⟩ := List.cons.inj shape
    exact absurd isLetter (by decide)
  next shape =>
    obtain ⟨rfl, rfl⟩ := List.cons.inj shape
    rw [if_pos isLetter]
  next shape =>
    simp at shape

/-- An opening tag. -/
theorem covers_start
    (isName : IsTagName name)
    (areAttributes : AreAttributes attributes)
    (areBlanks : blanks.all isBlank = true) :
    TokenShape.Covers
      ⟨.start, name.length + attributes.length + blanks.length + 1, name⟩
      (name ++ (attributes ++ (blanks ++ ['>']))) where
  length := by
    simp only [List.length_append, List.length_singleton]
    omega
  shaped := by
    intro more
    simp only [List.append_assoc, List.singleton_append]
    rw [bracketShape?_eq_startShape? isName,
      startShape?_eq isName areAttributes areBlanks (.inl rfl)]
    rfl

/-- A tag that stands for an empty element. -/
theorem covers_empty
    (isName : IsTagName name)
    (areAttributes : AreAttributes attributes)
    (areBlanks : blanks.all isBlank = true) :
    TokenShape.Covers
      ⟨.empty, name.length + attributes.length + blanks.length + 2, name⟩
      (name ++ (attributes ++ (blanks ++ ['/', '>']))) where
  length := by
    simp only [List.length_append, List.length_cons, List.length_nil]
    omega
  shaped := by
    intro more
    simp only [List.append_assoc, List.cons_append, List.nil_append]
    rw [bracketShape?_eq_startShape? isName,
      startShape?_eq isName areAttributes areBlanks (.inr rfl)]
    rfl

/-- A closing tag. -/
theorem covers_finish
    (notEmpty : name ≠ [])
    (isName : name.all isEndNameCharacter = true)
    (areBlanks : blanks.all isBlank = true) :
    TokenShape.Covers ⟨.finish, 1 + name.length + blanks.length + 1, name⟩
      ('/' :: (name ++ (blanks ++ ['>']))) where
  length := by
    simp only [List.length_cons, List.length_append, List.length_nil]
    omega
  shaped := by
    intro more
    have nameStops : Stops isEndNameCharacter (blanks ++ '>' :: more) := by
      cases blanks with
      | nil =>
          exact .cons (by decide) _
      | cons blank rest =>
          simp only [List.all_cons, Bool.and_eq_true] at areBlanks
          exact .cons (by simp [isEndNameCharacter, areBlanks.1]) _
    have nonempty : name.isEmpty = false := by
      simpa using notEmpty
    show finishShape? (name ++ (blanks ++ ['>']) ++ more) = _
    simp only [List.append_assoc, List.singleton_append]
    unfold finishShape?
    simp only
    rw [takeWhile_run isName nameStops, List.drop_left,
      runLength_run areBlanks (.cons (by decide) _), List.drop_left, nonempty]
    rfl

/-- A declaration, which ends at the first closing angle bracket. -/
theorem covers_declaration
    {letter : Char}
    (isLetter : letter.isAlpha = true)
    {content : List Char}
    (noBracket : '>' ∉ content) :
    TokenShape.Covers ⟨.declaration, 2 + (content.length + 1), []⟩
      ('!' :: letter :: (content ++ ['>'])) where
  length := by
    simp only [List.length_cons, List.length_append, List.length_nil]
    omega
  shaped := by
    intro more
    show exclamationShape? (letter :: (content ++ ['>'] ++ more)) = _
    rw [List.append_assoc, List.singleton_append, exclamationShape?_letter isLetter,
      enclosedShape?]
    have found := lengthThrough?_of_not_mem noBracket more
    show (lengthThrough? ['>'] (content ++ '>' :: more)).map _ = _
    rw [found]
    rfl

/-- Whatever is read as an opening tag is one, and so are tags of empty elements. -/
private theorem exists_covers_of_startShape?
    {characters : List Char}
    {shape : TokenShape}
    (shaped : startShape? characters = some shape) :
    ∃ body behind, characters = body ++ behind ∧ shape.Covers body := by
  obtain ⟨name, afterName, rfl, isName, nameStops⟩ := exists_run isStartNameCharacter characters
  obtain ⟨attributes, afterAttributes, rfl, areAttributes, sameLength, -⟩ :=
    exists_areAttributes afterName
  obtain ⟨blanks, atEnd, rfl, areBlanks, blanksStop⟩ := exists_run isBlank afterAttributes
  unfold startShape? at shaped
  simp only at shaped
  rw [takeWhile_run isName nameStops, List.drop_left, sameLength, List.drop_left,
    runLength_run areBlanks blanksStop, List.drop_left] at shaped
  split at shaped
  · simp at shaped
  next notEmpty =>
    have isTagName : IsTagName name := ⟨by simpa using notEmpty, isName⟩
    split at shaped
    next behind =>
      obtain rfl := Option.some.inj shaped
      exact ⟨name ++ (attributes ++ (blanks ++ ['>'])), behind, by simp,
        covers_start isTagName areAttributes areBlanks⟩
    next behind =>
      obtain rfl := Option.some.inj shaped
      exact ⟨name ++ (attributes ++ (blanks ++ ['/', '>'])), behind, by simp,
        covers_empty isTagName areAttributes areBlanks⟩
    next =>
      simp at shaped

/-- Whatever is read as a closing tag is one. -/
private theorem exists_covers_of_finishShape?
    {characters : List Char}
    {shape : TokenShape}
    (shaped : finishShape? characters = some shape) :
    ∃ body behind, '/' :: characters = body ++ behind ∧ shape.Covers body := by
  obtain ⟨name, afterName, rfl, isName, nameStops⟩ := exists_run isEndNameCharacter characters
  obtain ⟨blanks, atEnd, rfl, areBlanks, blanksStop⟩ := exists_run isBlank afterName
  unfold finishShape? at shaped
  simp only at shaped
  rw [takeWhile_run isName nameStops, List.drop_left, runLength_run areBlanks blanksStop,
    List.drop_left] at shaped
  split at shaped
  · simp at shaped
  next notEmpty =>
    split at shaped
    next behind =>
      obtain rfl := Option.some.inj shaped
      exact ⟨'/' :: (name ++ (blanks ++ ['>'])), behind, by simp,
        covers_finish (by simpa using notEmpty) isName areBlanks⟩
    next =>
      simp at shaped

/-- Whatever is read up to a closing text is a construct if its front tells which one it is. -/
private theorem exists_covers_of_enclosedShape?
    {kind : TokenKind}
    {closing : String}
    {content : List Char}
    {shape : TokenShape}
    (front : List Char)
    (notEmpty : closing.toList ≠ [])
    (isFront :
      ∀ content, bracketShape? (front ++ content) = enclosedShape? kind front.length closing content)
    (shaped : enclosedShape? kind front.length closing content = some shape) :
    ∃ body behind, front ++ content = body ++ behind ∧ shape.Covers body := by
  obtain ⟨length, found, rfl⟩ := Option.map_eq_some_iff.mp shaped
  obtain ⟨body, behind, rfl, rfl, _, reads⟩ := exists_of_lengthThrough? notEmpty found
  refine ⟨front ++ body, behind, by simp, ?_⟩
  exact
    { length := List.length_append
      shaped := by
        intro more
        rw [List.append_assoc, isFront, enclosedShape?, reads more]
        rfl }

/-- Whatever is read as a construct has its shape wherever it is put. -/
theorem exists_covers
    {characters : List Char}
    {shape : TokenShape}
    (shaped : bracketShape? characters = some shape) :
    ∃ body behind, characters = body ++ behind ∧ shape.Covers body := by
  have unchanged := shaped
  unfold bracketShape? at shaped
  split at shaped
  next content =>
    unfold exclamationShape? at shaped
    split at shaped
    next content =>
      exact exists_covers_of_enclosedShape? ['!', '-', '-'] (by decide)
        (fun _ => rfl) shaped
    next content =>
      exact exists_covers_of_enclosedShape? ['!', '[', 'C', 'D', 'A', 'T', 'A', '['] (by decide)
        (fun _ => rfl) shaped
    next letter content _ _ =>
      split at shaped
      next isLetter =>
        exact exists_covers_of_enclosedShape? ['!', letter] (by decide)
          (exclamationShape?_letter isLetter) shaped
      next =>
        simp at shaped
    next =>
      simp at shaped
  next content =>
    exact exists_covers_of_enclosedShape? ['?'] (by decide) (fun _ => rfl) shaped
  next content =>
    exact exists_covers_of_finishShape? shaped
  next =>
    exact exists_covers_of_startShape? shaped

/-- A construct that has its shape where nothing follows it has it wherever it is put. -/
theorem covers_of_shape
    {body : List Char}
    {shape : TokenShape}
    (shaped : bracketShape? body = some shape)
    (length : body.length = shape.length) :
    shape.Covers body := by
  obtain ⟨front, behind, split, covers⟩ := exists_covers shaped
  have frontLength := covers.length
  have nothingBehind : behind = [] := by
    rw [split, List.length_append] at length
    exact List.length_eq_zero_iff.mp (by omega)
  rw [split, nothingBehind, List.append_nil]
  exact covers

end DocMarkup.Markup
