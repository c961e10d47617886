import DocMarkup.Proofs.Markup.Attribute
import Mathlib.Data.List.DropRight

namespace DocMarkup.Text

/-!
# Texts without blanks around them

A text from which nothing is trimmed neither starts nor ends with a blank, and the
other way round.
-/

variable {belongs : Char → Bool} {characters : List Char}

/-- What stops at once is all that is left of a text. -/
theorem dropWhile_of_stops (stops : Stops belongs characters) :
    characters.dropWhile belongs = characters := by
  have split := List.takeWhile_append_dropWhile (p := belongs) (l := characters)
  rw [stops] at split
  exact split

/-- Where no character of a kind comes first, none of a narrower kind does. -/
theorem Stops.imp
    {narrow : Char → Bool}
    (narrower : ∀ character, narrow character = true → belongs character = true)
    (stops : Stops belongs characters) :
    Stops narrow characters := by
  cases characters with
  | nil =>
      rfl
  | cons first rest =>
      cases isNarrow : narrow first with
      | false => exact .cons isNarrow _
      | true => simp [Stops, narrower first isNarrow] at stops

/-- A text of which nothing is dropped stops at once. -/
theorem stops_of_length_dropWhile
    (allLeft : characters.length ≤ (characters.dropWhile belongs).length) :
    Stops belongs characters := by
  have split :=
    congrArg List.length (List.takeWhile_append_dropWhile (p := belongs) (l := characters))
  rw [List.length_append] at split
  exact List.length_eq_zero_iff.mp (by omega)

/-- What is left when a run is dropped does not go on with it. -/
theorem stops_dropWhile (belongs : Char → Bool) (characters : List Char) :
    Stops belongs (characters.dropWhile belongs) :=
  stops_of_length_dropWhile (Nat.le_of_eq (by rw [List.dropWhile_idempotent]))

/-- What drops a kind of characters drops those of a narrower kind first. -/
theorem dropWhile_dropWhile
    {narrow : Char → Bool}
    (narrower : ∀ character, narrow character = true → belongs character = true)
    (characters : List Char) :
    (characters.dropWhile narrow).dropWhile belongs = characters.dropWhile belongs := by
  induction characters with
  | nil => rfl
  | cons first rest inductionHypothesis =>
      cases isNarrow : narrow first with
      | false => rw [List.dropWhile_cons_of_neg (by simp [isNarrow])]
      | true =>
          rw [List.dropWhile_cons_of_pos isNarrow, inductionHypothesis,
            List.dropWhile_cons_of_pos (narrower first isNarrow)]

/-- A front of a text that does not go on with a run does not either. -/
theorem Stops.of_isPrefix
    {front : List Char}
    (stops : Stops belongs characters)
    (isFront : front <+: characters) :
    Stops belongs front := by
  obtain ⟨behind, rfl⟩ := isFront
  cases front with
  | nil => rfl
  | cons first rest =>
      cases same : belongs first with
      | false => exact .cons same rest
      | true => simp [Stops, same] at stops

/-- Trimming leaves a front of a text that does not start with a blank. -/
theorem trim_isPrefix (characters : List Char) : trim characters <+: trimStart characters := by
  rw [trim, trimEnd, ← List.reverse_suffix, List.reverse_reverse]
  exact List.dropWhile_suffix _

/-- Trimming leaves a piece of a text. -/
theorem trim_isInfix (characters : List Char) : trim characters <:+: characters := by
  have front : trimStart characters <:+ characters :=
    List.dropWhile_suffix _
  exact (trim_isPrefix characters).isInfix.trans front.isInfix

/-- A text that neither starts nor ends with a blank is trimmed. -/
theorem trim_eq_self
    (front : Stops isBlank characters)
    (back : Stops isBlank characters.reverse) :
    trim characters = characters := by
  rw [trim, trimStart, dropWhile_of_stops front, trimEnd, dropWhile_of_stops back,
    List.reverse_reverse]

/-- Trimming leaves no blanks at the ends. -/
theorem trim_trim (characters : List Char) : trim (trim characters) = trim characters := by
  refine trim_eq_self ?_ ?_
  · exact (stops_dropWhile isBlank characters).of_isPrefix (trim_isPrefix characters)
  · rw [trim, trimEnd, List.reverse_reverse]
    exact stops_dropWhile isBlank _

/-- A text without blanks is trimmed. -/
theorem trim_eq_self_of_forall (noBlank : ∀ character ∈ characters, isBlank character = false) :
    trim characters = characters := by
  have stops : ∀ text : List Char, (∀ character ∈ text, isBlank character = false) →
      Stops isBlank text := by
    intro text noneHere
    cases text with
    | nil => rfl
    | cons first rest => exact .cons (noneHere first List.mem_cons_self) rest
  exact trim_eq_self (stops characters noBlank)
    (stops characters.reverse fun character member =>
      noBlank character (List.mem_reverse.mp member))

/-- A text that is trimmed neither starts nor ends with a blank. -/
theorem stops_of_trim_eq_self (isTrimmed : trim characters = characters) :
    Stops isBlank characters ∧ Stops isBlank characters.reverse := by
  have total := congrArg List.length isTrimmed
  rw [trim, trimEnd, List.length_reverse, trimStart] at total
  have fromBack :=
    (List.dropWhile_sublist isBlank (l := (characters.dropWhile isBlank).reverse)).length_le
  have fromFront := (List.dropWhile_sublist isBlank (l := characters)).length_le
  rw [List.length_reverse] at fromBack
  have front : Stops isBlank characters := stops_of_length_dropWhile (by omega)
  refine ⟨front, stops_of_length_dropWhile (Nat.le_of_eq ?_)⟩
  rw [dropWhile_of_stops front] at total
  rw [List.length_reverse, total]

/-- Trimming a text that is trimmed changes nothing. -/
theorem trimmed_eq_iff {text : String} :
    trimmed text = text ↔ trim text.toList = text.toList := by
  rw [trimmed]
  constructor
  · intro same
    exact String.toList_ofList.symm.trans (congrArg String.toList same)
  · intro same
    rw [same, String.ofList_toList]

end DocMarkup.Text
