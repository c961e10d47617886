import DocMarkup.Text.Numeral

namespace DocMarkup.Text

/-!
# Reading numerals

A text of decimal digits and nothing else is read as a number, unless it has too many
digits.
-/

/-- A text that consists of decimal digits, of which there is at least one. -/
def IsNumeral (text : String) : Prop :=
  text.toList ≠ [] ∧ text.toList.all isDecimalDigit = true

instance (text : String) : Decidable (IsNumeral text) :=
  inferInstanceAs (Decidable (_ ∧ _))

/-- The value of a character that is a decimal digit. -/
def valueOfDigit (character : Char) : Nat :=
  (digitValue? character).getD 0

variable {character : Char}

theorem digitValue?_of_isDecimalDigit (isDigit : isDecimalDigit character = true) :
    digitValue? character = some (valueOfDigit character) := by
  unfold valueOfDigit
  cases found : digitValue? character with
  | none =>
      simp [isDecimalDigit, found] at isDigit
  | some value =>
      rfl

theorem isBlank_of_isDecimalDigit (isDigit : isDecimalDigit character = true) :
    isBlank character = false := by
  have apart :
      ∀ start ∈ 48 :: digitZeros, ∀ distance ∈ List.range 10,
        isBlank (Char.ofNat (start + distance)) = false := by
    decide +kernel
  have inRow :
      ∃ start ∈ 48 :: digitZeros, start ≤ character.toNat ∧ character.toNat < start + 10 := by
    unfold isDecimalDigit digitValue? at isDigit
    split at isDigit
    next isAscii =>
      refine ⟨48, by simp, ?_⟩
      simp only [Char.isDigit, Bool.and_eq_true, decide_eq_true_eq] at isAscii
      have lower : 48 ≤ character.toNat := UInt32.le_iff_toNat_le.mp isAscii.1
      have upper : character.toNat ≤ 57 := UInt32.le_iff_toNat_le.mp isAscii.2
      omega
    split at isDigit
    · simp at isDigit
    next =>
      rw [Option.isSome_map] at isDigit
      obtain ⟨start, found⟩ := Option.isSome_iff_exists.mp isDigit
      have bounds := List.find?_some found
      simp only [Bool.and_eq_true, decide_eq_true_eq] at bounds
      exact ⟨start, List.mem_cons_of_mem _ (List.mem_of_find?_eq_some found), bounds⟩
  obtain ⟨start, member, lower, upper⟩ := inRow
  have notBlank := apart start member (character.toNat - start) (by simp; omega)
  rwa [Nat.add_sub_cancel' lower, Char.ofNat_toNat] at notBlank

/-- A run of digits is read to its end. -/
theorem digitRun_of_all
    (afterDigit : Bool)
    {characters : List Char}
    (areDigits : characters.all isDecimalDigit = true) :
    digitRun digitValue? afterDigit characters = (characters.map valueOfDigit, []) := by
  induction characters generalizing afterDigit with
  | nil =>
      rfl
  | cons first rest inductionHypothesis =>
      simp only [List.all_cons, Bool.and_eq_true] at areDigits
      have value := digitValue?_of_isDecimalDigit areDigits.1
      unfold digitRun
      split
      next shape =>
        obtain ⟨rfl, _⟩ := List.cons.inj shape
        exact absurd areDigits.1 (by decide)
      next shape =>
        obtain ⟨rfl, rfl⟩ := List.cons.inj shape
        rw [value, inductionHypothesis true areDigits.2]
        rfl
      next shape =>
        simp at shape

/-- A numeral is read as a natural number, or refused for the number of its digits. -/
theorem exists_readInteger
    {text : String}
    (isNumeral : IsNumeral text) :
    ∃ value : Nat,
      readInteger text =
        if text.length ≤ numeralLimit then .ok value else .error (.tooLong text.length) := by
  obtain ⟨notEmpty, areDigits⟩ := isNumeral
  refine ⟨digitsValue 10 (text.toList.map valueOfDigit), ?_⟩
  unfold readInteger
  rw [← String.length_toList]
  cases shape : text.toList with
  | nil =>
      exact (notEmpty shape).elim
  | cons first rest =>
      rw [shape] at areDigits
      have isDigit : isDecimalDigit first = true := by
        simp only [List.all_cons, Bool.and_eq_true] at areDigits
        exact areDigits.1
      have notBlank : isNumeralBlank first = false := by
        simp [isNumeralBlank, isBlank_of_isDecimalDigit isDigit]
      have unsigned : splitSign (first :: rest) = (1, first :: rest) := by
        unfold splitSign
        split
        next signed =>
          obtain ⟨rfl, _⟩ := List.cons.inj signed
          exact absurd isDigit (by decide)
        next signed =>
          obtain ⟨rfl, _⟩ := List.cons.inj signed
          exact absurd isDigit (by decide)
        next =>
          rfl
      simp only [List.dropWhile_cons, notBlank, Bool.false_eq_true, ↓reduceIte, unsigned,
        digitRun_of_all false areDigits, List.map_cons, List.isEmpty_cons, List.head?_nil,
        decimalValue, List.length_cons, List.length_map]
      by_cases short : rest.length + 1 ≤ numeralLimit <;> simp [short]

end DocMarkup.Text
