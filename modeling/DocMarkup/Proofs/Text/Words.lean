import DocMarkup.Text.Blank
import DocMarkup.Text.Word

namespace DocMarkup.Text

/-!
# The words of a text

A word is a longest run of word characters. A text with its words replaced can be told
character by character: what follows a character of a word belongs to that word, and a
word is replaced where it starts.
-/

/-- The table of a set of code points, read as a list. -/
theorem CodePointSet.contains_eq_foldl (set : CodePointSet) (character : Char) :
    set.contains character =
      set.changes.toList.foldl
        (fun inside change => if change ≤ character.toNat then !inside else inside) false := by
  rw [contains, Array.foldl_toList]

theorem isUpper_iff {character : Char} :
    character.isUpper = true ↔ 65 ≤ character.toNat ∧ character.toNat ≤ 90 := by
  unfold Char.isUpper
  simp [UInt32.le_iff_toNat_le]

theorem isLower_iff {character : Char} :
    character.isLower = true ↔ 97 ≤ character.toNat ∧ character.toNat ≤ 122 := by
  unfold Char.isLower
  simp [UInt32.le_iff_toNat_le]

theorem isDigit_iff {character : Char} :
    character.isDigit = true ↔ 48 ≤ character.toNat ∧ character.toNat ≤ 57 :=
  Char.isDigit_iff_toNat

/-- Characters of names are characters of words. -/
theorem isWordCharacter_of_isNameCharacter
    {character : Char}
    (isOfName : isNameCharacter character = true) :
    isWordCharacter character = true := by
  simp only [isNameCharacter, isWordCharacter, isAlphanumeric, Bool.or_eq_true] at isOfName ⊢
  exact isOfName.imp_left .inl

/-- What starts a name may follow in one. -/
theorem isNameCharacter_of_isNameStart
    {character : Char}
    (starts : isNameStart character = true) :
    isNameCharacter character = true := by
  simp only [isNameStart, isNameCharacter, Char.isAlphanum, Bool.or_eq_true] at starts ⊢
  exact starts.imp_left .inl

/-- White space is no part of a name. -/
theorem isBlank_of_isNameCharacter
    {character : Char}
    (isOfName : isNameCharacter character = true) :
    isBlank character = false := by
  have inRange : 48 ≤ character.toNat ∧ character.toNat ≤ 122 := by
    unfold isNameCharacter Char.isAlphanum Char.isAlpha at isOfName
    simp only [Bool.or_eq_true, beq_iff_eq, isUpper_iff, isLower_iff, isDigit_iff] at isOfName
    obtain ranges | rfl := isOfName
    · omega
    · decide
  simp only [isBlank, Bool.or_eq_false_iff, Bool.and_eq_false_iff, decide_eq_false_iff_not,
    beq_eq_false_iff_ne]
  omega

/-- A text with every word replaced by another text. -/
def mapWords (replace : List Char → List Char) : List Char → List Char
  | [] => []
  | first :: rest =>
      if isWordCharacter first then
        replace (first :: rest.takeWhile isWordCharacter) ++
          mapWords replace (rest.dropWhile isWordCharacter)
      else
        first :: mapWords replace rest
termination_by text => text.length
decreasing_by
  all_goals simp only [List.length_cons]
  · exact Nat.lt_succ_of_le (List.dropWhile_suffix _).length_le
  · exact Nat.lt_succ_self _

/-- The same for the rest of a text, of which the front may belong to a word that goes on. -/
def mapWordsFrom (replace : List Char → List Char) (goesOn : Bool) (text : List Char) : List Char :=
  if goesOn then
    text.takeWhile isWordCharacter ++ mapWords replace (text.dropWhile isWordCharacter)
  else
    mapWords replace text

variable {replace : List Char → List Char} {goesOn : Bool} {first : Char} {rest : List Char}

@[simp] theorem mapWordsFrom_nil : mapWordsFrom replace goesOn [] = [] := by
  cases goesOn <;> simp [mapWordsFrom, mapWords]

/-- Other characters stand as they are, and a word may start behind them. -/
theorem mapWordsFrom_of_other (isOther : isWordCharacter first = false) :
    mapWordsFrom replace goesOn (first :: rest) = first :: mapWordsFrom replace false rest := by
  have kept : mapWords replace (first :: rest) = first :: mapWords replace rest := by
    rw [mapWords, isOther]
    rfl
  cases goesOn <;> simp [mapWordsFrom, isOther, kept]

/-- A word that goes on is kept. -/
theorem mapWordsFrom_true (isOfWord : isWordCharacter first = true) :
    mapWordsFrom replace true (first :: rest) = first :: mapWordsFrom replace true rest := by
  simp [mapWordsFrom, isOfWord]

/-- A word is replaced where it starts, and what is behind it is no part of it. -/
theorem mapWordsFrom_false (isOfWord : isWordCharacter first = true) :
    mapWordsFrom replace false (first :: rest) =
      replace (first :: rest.takeWhile isWordCharacter) ++
        mapWords replace (rest.dropWhile isWordCharacter) := by
  rw [mapWordsFrom, mapWords, isOfWord]
  rfl

/-- A character is kept if no word that it starts is replaced. -/
theorem mapWordsFrom_of_kept
    (kept : ∀ word, replace (first :: word) = first :: word) :
    mapWordsFrom replace goesOn (first :: rest) =
      first :: mapWordsFrom replace (isWordCharacter first) rest := by
  cases isOfWord : isWordCharacter first with
  | false => exact mapWordsFrom_of_other isOfWord
  | true =>
      cases goesOn with
      | true => exact mapWordsFrom_true isOfWord
      | false =>
          rw [mapWordsFrom_false isOfWord, kept, List.cons_append]
          rfl

/-- A row of characters of a word that goes on is kept. -/
theorem mapWordsFrom_append
    {front : List Char}
    (areOfWord : ∀ character ∈ front, isWordCharacter character = true)
    (behind : List Char) :
    mapWordsFrom replace true (front ++ behind) = front ++ mapWordsFrom replace true behind := by
  induction front with
  | nil => rfl
  | cons first rest inductionHypothesis =>
      rw [List.forall_mem_cons] at areOfWord
      rw [List.cons_append, mapWordsFrom_true areOfWord.1, inductionHypothesis areOfWord.2,
        List.cons_append]

/-- Replacements that agree on all words of a text replace them alike. -/
theorem mapWords_congr
    {other : List Char → List Char}
    {text : List Char}
    (agree :
      ∀ word,
        word ≠ [] → (∀ character ∈ word, character ∈ text ∧ isWordCharacter character = true) →
          replace word = other word) :
    mapWords replace text = mapWords other text := by
  fun_induction mapWords replace text with
  | case1 => simp [mapWords]
  | case2 first rest isOfWord inductionHypothesis =>
      rw [mapWords, if_pos isOfWord, inductionHypothesis, agree _ (List.cons_ne_nil _ _)]
      · intro character member
        rcases List.mem_cons.mp member with rfl | inRest
        · exact ⟨List.mem_cons_self, isOfWord⟩
        · exact ⟨List.mem_cons_of_mem _ ((List.takeWhile_prefix _).subset inRest),
            List.all_eq_true.mp List.all_takeWhile character inRest⟩
      · intro word notEmpty areOfWord
        refine agree word notEmpty fun character member => ?_
        obtain ⟨inRest, isWord⟩ := areOfWord character member
        exact ⟨List.mem_cons_of_mem _ ((List.dropWhile_suffix _).subset inRest), isWord⟩
  | case3 first rest isOther inductionHypothesis =>
      rw [mapWords, if_neg isOther, inductionHypothesis]
      intro word notEmpty areOfWord
      refine agree word notEmpty fun character member => ?_
      obtain ⟨inRest, isWord⟩ := areOfWord character member
      exact ⟨List.mem_cons_of_mem _ inRest, isWord⟩

end DocMarkup.Text
