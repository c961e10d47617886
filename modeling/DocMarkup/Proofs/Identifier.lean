import DocMarkup.Identifier
import DocMarkup.Proofs.Text.Pieces
import DocMarkup.Proofs.Text.Words

namespace DocMarkup

/-!
# Identifiers are stable names

The identifier of a text shows the groups of letters and digits in the text, and nothing
else of it. The groups can be read off the identifier again, so that it is its own
identifier, and texts with the same groups have the same identifier, whatever stands
between their groups and whichever case their letters have.
-/

namespace Text

/-! ## ASCII and lower case -/

/-- A text of ASCII characters. -/
def IsAscii (characters : List Char) : Prop :=
  ∀ character ∈ characters, character.toNat < 128

theorem filter_of_isAscii {characters : List Char} (isAscii : IsAscii characters) :
    characters.filter (fun character => character.toNat < 128) = characters := by
  rw [List.filter_eq_self]
  exact fun character member => decide_eq_true (isAscii character member)

/-- The ASCII form of an ASCII text is the text. -/
theorem asciiForms_eq_self {characters : List Char} (isAscii : IsAscii characters) :
    asciiForms characters = characters := by
  induction characters with
  | nil =>
      rfl
  | cons first rest inductionHypothesis =>
      obtain ⟨firstAscii, restAscii⟩ := List.forall_mem_cons.mp isAscii
      rw [asciiForms, List.flatMap_cons, ← asciiForms, inductionHypothesis restAscii, asciiForm]
      simp [firstAscii]

/-- Lower-case letters and digits. -/
def isLowerAlphanum (character : Char) : Bool :=
  character.isLower || character.isDigit

/-- The code of an upper-case letter is moved to that of the lower-case one. -/
theorem toNat_toLower (character : Char) :
    character.toLower.toNat =
      if character.isUpper then character.toNat + 32 else character.toNat := by
  unfold Char.toLower
  by_cases isUpper : character.isUpper = true
  · have range := isUpper_iff.mp isUpper
    have inRange : character.val ≥ 'A'.val ∧ character.val ≤ 'Z'.val := of_decide_eq_true isUpper
    rw [dif_pos inRange, if_pos isUpper, Char.toNat_mk, UInt32.toNat_add, Char.toNat_val]
    have distance : ('a'.val - 'A'.val).toNat = 32 := by decide
    omega
  · have outOfRange : ¬ (character.val ≥ 'A'.val ∧ character.val ≤ 'Z'.val) :=
      fun inRange => isUpper (decide_eq_true inRange)
    rw [dif_neg outOfRange, if_neg isUpper]

/-- Lower case takes letters to letters. -/
theorem isAlphanum_toLower (character : Char) :
    character.toLower.isAlphanum = character.isAlphanum := by
  rw [Bool.eq_iff_iff]
  unfold Char.isAlphanum Char.isAlpha
  simp only [Bool.or_eq_true, isUpper_iff, isLower_iff, isDigit_iff, toNat_toLower]
  split <;> omega

/-- The letters of lower case are lower-case letters. -/
theorem isLowerAlphanum_toLower (character : Char) :
    isLowerAlphanum character.toLower = character.isAlphanum := by
  rw [Bool.eq_iff_iff]
  unfold isLowerAlphanum Char.isAlphanum Char.isAlpha
  simp only [Bool.or_eq_true, isUpper_iff, isLower_iff, isDigit_iff, toNat_toLower]
  split <;> omega

/-- Characters that are no upper-case letters are their own lower case. -/
theorem toLower_eq_self {character : Char} (notUpper : character.isUpper = false) :
    character.toLower = character := by
  rw [← Char.toNat_inj, toNat_toLower, notUpper]
  rfl

/-- Lower-case letters and digits are letters and digits, and ASCII characters of lower case. -/
theorem of_isLowerAlphanum {character : Char} (belongs : isLowerAlphanum character = true) :
    character.isAlphanum = true ∧ character.toNat < 128 ∧ character.toLower = character := by
  have ranges := belongs
  simp only [isLowerAlphanum, Bool.or_eq_true, isLower_iff, isDigit_iff] at ranges
  have notUpper : character.isUpper = false := by
    rw [← Bool.not_eq_true, isUpper_iff]
    omega
  have isLower := toLower_eq_self notUpper
  exact ⟨by rw [← isLowerAlphanum_toLower, isLower, belongs], by omega, isLower⟩

/-- What identifiers are made of is ASCII and of lower case. -/
theorem unchanged_of_lower
    {character : Char}
    (belongs : isLowerAlphanum character = true ∨ character = '_') :
    character.toNat < 128 ∧ character.toLower = character := by
  rcases belongs with isLower | rfl
  · exact (of_isLowerAlphanum isLower).2
  · decide

end Text

open Text

/-! ## Groups of letters and digits -/

/-- The groups of letters and digits of a text, in lower case. -/
def groupsOf (characters : List Char) : List (List Char) :=
  piecesFrom (fun character => !character.isAlphanum) []
    ((characters.filter fun character => character.toNat < 128).map Char.toLower)

/-- The identifier that shows groups. -/
def identifierOf (groups : List (List Char)) : String :=
  match List.intercalate ['_'] groups with
  | [] => fallbackIdentifier
  | first :: rest =>
      if first.isDigit then
        String.ofList ('_' :: first :: rest)
      else
        String.ofList (first :: rest)

/-- An identifier shows the groups of the text. -/
theorem generateIdWith_eq (normalise : List Char → List Char) (text : String) :
    generateIdWith normalise text = identifierOf (groupsOf (normalise text.toList)) :=
  rfl

/-- Groups of lower-case letters and digits, none of them empty. -/
def AreGroups (groups : List (List Char)) : Prop :=
  ∀ group ∈ groups, group ≠ [] ∧ group.all isLowerAlphanum = true

theorem areGroups_groupsOf (characters : List Char) : AreGroups (groupsOf characters) := by
  intro group isGroup
  refine ⟨(piecesFrom_clean (by simp) isGroup).1, List.all_eq_true.mpr fun character member => ?_⟩
  have isKept := List.mem_flatten_of_mem isGroup member
  rw [groupsOf, flatten_piecesFrom, List.reverse_nil, List.nil_append, List.mem_filter] at isKept
  obtain ⟨inText, isAlphanum⟩ := isKept
  obtain ⟨original, -, rfl⟩ := List.mem_map.mp inText
  simpa [isLowerAlphanum_toLower, isAlphanum_toLower] using isAlphanum

/-- Lower-case letters and digits in groups, with single underscores between them. -/
inductive IsGrouped : List Char → Prop where
  | single {character} :
      isLowerAlphanum character = true →
      IsGrouped [character]
  | goOn {character rest} :
      isLowerAlphanum character = true →
      IsGrouped rest →
      IsGrouped (character :: rest)
  | underscore {character rest} :
      isLowerAlphanum character = true →
      IsGrouped rest →
      IsGrouped (character :: '_' :: rest)

/-- Groups, of which the first has an underscore in front if it starts with a digit. -/
inductive IsIdentifier : List Char → Prop where
  | letter {first rest} :
      first.isLower = true →
      IsGrouped (first :: rest) →
      IsIdentifier (first :: rest)
  | digit {first rest} :
      first.isDigit = true →
      IsGrouped (first :: rest) →
      IsIdentifier ('_' :: first :: rest)

namespace IsGrouped

variable {group text : List Char}

theorem exists_cons (grouped : IsGrouped text) :
    ∃ first rest, text = first :: rest ∧ isLowerAlphanum first = true := by
  cases grouped with
  | single belongs => exact ⟨_, _, rfl, belongs⟩
  | goOn belongs => exact ⟨_, _, rfl, belongs⟩
  | underscore belongs => exact ⟨_, _, rfl, belongs⟩

/-- A group alone. -/
theorem ofGroup
    (someLeft : group ≠ [])
    (areLower : group.all isLowerAlphanum = true) :
    IsGrouped group := by
  induction group with
  | nil =>
      exact (someLeft rfl).elim
  | cons first rest inductionHypothesis =>
      obtain ⟨firstLower, restLower⟩ := Bool.and_eq_true_iff.mp (List.all_cons ▸ areLower)
      by_cases last : rest = []
      · rw [last]
        exact .single firstLower
      · exact .goOn firstLower (inductionHypothesis last restLower)

/-- A group in front of others. -/
theorem behind
    (grouped : IsGrouped text)
    (someLeft : group ≠ [])
    (areLower : group.all isLowerAlphanum = true) :
    IsGrouped (group ++ '_' :: text) := by
  induction group with
  | nil =>
      exact (someLeft rfl).elim
  | cons first rest inductionHypothesis =>
      obtain ⟨firstLower, restLower⟩ := Bool.and_eq_true_iff.mp (List.all_cons ▸ areLower)
      by_cases last : rest = []
      · rw [last]
        exact .underscore firstLower grouped
      · exact .goOn firstLower (inductionHypothesis last restLower)

/-- Groups with single underscores between them. -/
theorem intercalate
    {groups : List (List Char)}
    (areGroups : AreGroups groups)
    (someLeft : groups ≠ []) :
    IsGrouped (List.intercalate ['_'] groups) := by
  induction groups with
  | nil =>
      exact (someLeft rfl).elim
  | cons first others inductionHypothesis =>
      obtain ⟨⟨notEmpty, areLower⟩, otherGroups⟩ := List.forall_mem_cons.mp areGroups
      cases others with
      | nil =>
          rw [List.intercalate_singleton]
          exact .ofGroup notEmpty areLower
      | cons next rest =>
          rw [List.intercalate_cons_cons, List.append_assoc, List.singleton_append]
          exact (inductionHypothesis otherGroups (by simp)).behind notEmpty areLower

/-- Groups consist of lower-case letters, digits and underscores. -/
theorem forall_mem (grouped : IsGrouped text) :
    ∀ character ∈ text, isLowerAlphanum character = true ∨ character = '_' := by
  induction grouped with
  | single belongs =>
      simp [belongs]
  | goOn belongs _ inductionHypothesis =>
      exact List.forall_mem_cons.mpr ⟨.inl belongs, inductionHypothesis⟩
  | underscore belongs _ inductionHypothesis =>
      exact List.forall_mem_cons.mpr
        ⟨.inl belongs, List.forall_mem_cons.mpr ⟨.inr rfl, inductionHypothesis⟩⟩

/-- The last group does not end in an underscore. -/
theorem getLast?_ne (grouped : IsGrouped text) : text.getLast? ≠ some '_' := by
  induction grouped with
  | single belongs =>
      simp only [List.getLast?_singleton, ne_eq, Option.some.injEq]
      rintro rfl
      exact absurd belongs (by decide)
  | goOn _ rest inductionHypothesis =>
      obtain ⟨first, others, rfl, -⟩ := rest.exists_cons
      rwa [List.getLast?_cons_cons]
  | underscore _ rest inductionHypothesis =>
      obtain ⟨first, others, rfl, -⟩ := rest.exists_cons
      rwa [List.getLast?_cons_cons, List.getLast?_cons_cons]

/-- A letter or digit in front makes no two underscores. -/
theorem not_infix_cons
    {first : Char}
    (belongs : isLowerAlphanum first = true)
    (apart : ¬ ['_', '_'] <:+: text) :
    ¬ ['_', '_'] <:+: first :: text := by
  rw [List.infix_cons_iff, not_or]
  refine ⟨?_, apart⟩
  rw [List.cons_prefix_cons]
  rintro ⟨rfl, -⟩
  exact absurd belongs (by decide)

/-- An underscore in front of groups makes no two. -/
theorem not_infix_underscore (grouped : IsGrouped text) (apart : ¬ ['_', '_'] <:+: text) :
    ¬ ['_', '_'] <:+: '_' :: text := by
  obtain ⟨first, rest, rfl, belongs⟩ := grouped.exists_cons
  rw [List.infix_cons_iff, not_or]
  refine ⟨?_, apart⟩
  simp only [List.cons_prefix_cons, true_and]
  rintro ⟨rfl, -⟩
  exact absurd belongs (by decide)

/-- Groups hold no two underscores in a row. -/
theorem not_infix (grouped : IsGrouped text) : ¬ ['_', '_'] <:+: text := by
  induction grouped with
  | single belongs =>
      exact not_infix_cons belongs (by simp)
  | goOn belongs _ inductionHypothesis =>
      exact not_infix_cons belongs inductionHypothesis
  | underscore belongs rest inductionHypothesis =>
      exact not_infix_cons belongs (not_infix_underscore rest inductionHypothesis)

end IsGrouped

namespace IsIdentifier

variable {identifier : List Char}

theorem getLast?_ne (isIdentifier : IsIdentifier identifier) :
    identifier.getLast? ≠ some '_' := by
  cases isIdentifier with
  | letter _ grouped =>
      exact grouped.getLast?_ne
  | digit _ grouped =>
      rw [List.getLast?_cons_cons]
      exact grouped.getLast?_ne

theorem not_infix (isIdentifier : IsIdentifier identifier) :
    ¬ ['_', '_'] <:+: identifier := by
  cases isIdentifier with
  | letter _ grouped => exact grouped.not_infix
  | digit _ grouped => exact grouped.not_infix_underscore grouped.not_infix

theorem forall_mem (isIdentifier : IsIdentifier identifier) :
    ∀ character ∈ identifier, isLowerAlphanum character = true ∨ character = '_' := by
  cases isIdentifier with
  | letter _ grouped => exact grouped.forall_mem
  | digit _ grouped => exact List.forall_mem_cons.mpr ⟨.inr rfl, grouped.forall_mem⟩

end IsIdentifier

/-! ## Reading groups off an identifier -/

section Shown

variable {groups : List (List Char)}

/-- What shows no groups shows the one of the fallback. -/
theorem exists_shown (areGroups : AreGroups groups) :
    ∃ shown, AreGroups shown ∧ shown ≠ [] ∧ identifierOf groups = identifierOf shown := by
  cases groups with
  | nil =>
      refine ⟨[['i', 'd']], ?_, by simp, by decide⟩
      intro group isFallback
      obtain rfl := List.mem_singleton.mp isFallback
      decide
  | cons first others =>
      exact ⟨first :: others, areGroups, by simp, rfl⟩

/-- Groups are shown with underscores between them, and perhaps one in front. -/
theorem identifierOf_shape (areGroups : AreGroups groups) (someLeft : groups ≠ []) :
    IsIdentifier (identifierOf groups).toList ∧
      ((identifierOf groups).toList = List.intercalate ['_'] groups ∨
        (identifierOf groups).toList = '_' :: List.intercalate ['_'] groups) := by
  have grouped := IsGrouped.intercalate areGroups someLeft
  obtain ⟨first, rest, same, belongs⟩ := grouped.exists_cons
  rw [same] at grouped
  unfold identifierOf
  simp only [same]
  by_cases isDigit : first.isDigit = true
  · rw [if_pos isDigit, String.toList_ofList]
    exact ⟨.digit isDigit grouped, .inr rfl⟩
  · rw [if_neg isDigit, String.toList_ofList]
    have isLower : first.isLower = true := by
      simpa [isLowerAlphanum, isDigit] using belongs
    exact ⟨.letter isLower grouped, .inl rfl⟩

/-- Every identifier starts with a letter, or with an underscore and a digit. -/
theorem isIdentifier_identifierOf (areGroups : AreGroups groups) :
    IsIdentifier (identifierOf groups).toList := by
  obtain ⟨shown, areShown, someLeft, same⟩ := exists_shown areGroups
  rw [same]
  exact (identifierOf_shape areShown someLeft).1

/-- Where nothing is to be dropped or lowered, groups are only cut. -/
theorem groupsOf_of_lower
    {text : List Char}
    (areLower : ∀ character ∈ text, isLowerAlphanum character = true ∨ character = '_') :
    groupsOf text = piecesFrom (fun character => !character.isAlphanum) [] text := by
  have sameCase : text.map Char.toLower = text.map id :=
    List.map_congr_left fun character member => (unchanged_of_lower (areLower character member)).2
  have isAscii : IsAscii text :=
    fun character member => (unchanged_of_lower (areLower character member)).1
  rw [groupsOf, filter_of_isAscii isAscii, sameCase, List.map_id]

/-- The groups that an identifier shows can be read off it. -/
theorem groupsOf_identifierOf (areGroups : AreGroups groups) (someLeft : groups ≠ []) :
    groupsOf (identifierOf groups).toList = groups := by
  have inGroups := (IsGrouped.intercalate areGroups someLeft).forall_mem
  have cut :
      piecesFrom (fun character => !character.isAlphanum) []
        (List.intercalate ['_'] groups) = groups := by
    refine piecesFrom_intercalate (by decide) fun group isGroup => ⟨(areGroups group isGroup).1, ?_⟩
    intro character member
    have belongs := List.all_eq_true.mp (areGroups group isGroup).2 character member
    simp [(of_isLowerAlphanum belongs).1]
  rcases (identifierOf_shape areGroups someLeft).2 with plain | marked
  · rw [plain, groupsOf_of_lower inGroups, cut]
  · rw [marked, groupsOf_of_lower (List.forall_mem_cons.mpr ⟨.inr rfl, inGroups⟩)]
    have someGap : ['_'] ≠ [] := by simp
    exact (piecesFrom_gap someGap (by simp) [] _).trans cut

/-- An identifier shows itself. -/
theorem identifierOf_groupsOf_identifierOf (areGroups : AreGroups groups) :
    identifierOf (groupsOf (identifierOf groups).toList) = identifierOf groups := by
  obtain ⟨shown, areShown, someLeft, same⟩ := exists_shown areGroups
  rw [same, groupsOf_identifierOf areShown someLeft]

end Shown

/-! ## Texts with the same groups -/

/-- Texts that differ only in what stands between their letters and digits. -/
inductive DifferInGaps : List Char → List Char → Prop where
  | nil : DifferInGaps [] []
  | keep {rest other} (character : Char) :
      DifferInGaps rest other →
      DifferInGaps (character :: rest) (character :: other)
  | gap {gap otherGap rest other} :
      gap ≠ [] →
      otherGap ≠ [] →
      gap.any Char.isAlphanum = false →
      otherGap.any Char.isAlphanum = false →
      DifferInGaps rest other →
      DifferInGaps (gap ++ rest) (otherGap ++ other)

/-- What is in gaps stays out of the pieces, in lower case too. -/
theorem DifferInGaps.piecesFrom_eq
    {text other : List Char}
    (differ : DifferInGaps text other)
    (piece : List Char) :
    piecesFrom (fun character => !character.isAlphanum) piece (text.map Char.toLower) =
      piecesFrom (fun character => !character.isAlphanum) piece (other.map Char.toLower) := by
  have separate :
      ∀ {gap : List Char}, gap.any Char.isAlphanum = false →
        ∀ character ∈ gap.map Char.toLower, (!character.isAlphanum) = true := by
    intro gap isGap character member
    obtain ⟨original, inGap, rfl⟩ := List.mem_map.mp member
    simpa [isAlphanum_toLower] using List.any_eq_false.mp isGap original inGap
  induction differ generalizing piece with
  | nil =>
      rfl
  | keep character _ inductionHypothesis =>
      simp only [List.map_cons, piecesFrom, inductionHypothesis]
  | gap someGap someOther isGap isOtherGap _ inductionHypothesis =>
      rw [List.map_append, List.map_append, piecesFrom_gap (by simpa using someGap) (separate isGap),
        piecesFrom_gap (by simpa using someOther) (separate isOtherGap), inductionHypothesis]

/--
Identifiers are stable names, for every normalisation that leaves ASCII texts as they are.
Every identifier is made of groups of lower-case letters and digits with single
underscores between them, and starts with a letter, or with an underscore and a digit; it
does not end in an underscore and holds no two in a row. It is its own identifier. ASCII
texts that differ only in case, or only in what fills the gaps between letters and digits,
have the same identifier.
-/
theorem identifiers_are_stable
    {normalise : List Char → List Char}
    (keepsAscii : ∀ characters, IsAscii characters → normalise characters = characters) :
    (∀ text : String,
      IsIdentifier (generateIdWith normalise text).toList ∧
        (generateIdWith normalise text).toList.getLast? ≠ some '_' ∧
          ¬ ['_', '_'] <:+: (generateIdWith normalise text).toList) ∧
      (∀ text : String,
        generateIdWith normalise (generateIdWith normalise text) =
          generateIdWith normalise text) ∧
      ∀ text other : String,
        IsAscii text.toList →
        IsAscii other.toList →
        text.toList.map Char.toLower = other.toList.map Char.toLower ∨
            DifferInGaps text.toList other.toList →
          generateIdWith normalise text = generateIdWith normalise other := by
  refine ⟨fun text => ?_, fun text => ?_, fun text other textAscii otherAscii alike => ?_⟩
  · have isIdentifier := isIdentifier_identifierOf (areGroups_groupsOf (normalise text.toList))
    exact ⟨isIdentifier, isIdentifier.getLast?_ne, isIdentifier.not_infix⟩
  · have areGroups := areGroups_groupsOf (normalise text.toList)
    have isAscii : IsAscii (generateIdWith normalise text).toList := fun character member =>
      (unchanged_of_lower ((isIdentifier_identifierOf areGroups).forall_mem character member)).1
    rw [generateIdWith_eq normalise (generateIdWith normalise text), keepsAscii _ isAscii]
    exact identifierOf_groupsOf_identifierOf areGroups
  · rw [generateIdWith_eq, generateIdWith_eq, keepsAscii _ textAscii, keepsAscii _ otherAscii,
      groupsOf, groupsOf, filter_of_isAscii textAscii, filter_of_isAscii otherAscii]
    rcases alike with sameLetters | differ
    · rw [sameLetters]
    · rw [differ.piecesFrom_eq]

/-- Titles with a number in front, with accents, and with other letters and gaps. -/
theorem identifiers_are_stable_of_numbered_title :
    (∀ characters, IsAscii characters → asciiForms characters = characters) ∧
      IsIdentifier (generateId "2nd Café, no. ①").toList ∧
        generateId (generateId "2nd Café, no. ①") = generateId "2nd Café, no. ①" ∧
          IsAscii "2nd pass".toList ∧ IsAscii "2nd -- pass".toList ∧ IsAscii "2ND PASS".toList ∧
            DifferInGaps "2nd pass".toList "2nd -- pass".toList ∧
              generateId "2nd pass" = generateId "2nd -- pass" ∧
                generateId "2nd pass" = generateId "2ND PASS" := by
  have keepsAscii : ∀ characters, IsAscii characters → asciiForms characters = characters :=
    fun _ => asciiForms_eq_self
  have isAscii {text : String} (all : text.toList.all (·.toNat < 128) = true) :
      IsAscii text.toList := by
    simpa [IsAscii] using all
  have plain : IsAscii "2nd pass".toList := isAscii (by decide)
  have spaced : IsAscii "2nd -- pass".toList := isAscii (by decide)
  have shouted : IsAscii "2ND PASS".toList := isAscii (by decide)
  have differ : DifferInGaps "2nd pass".toList "2nd -- pass".toList := by
    have same : DifferInGaps "pass".toList "pass".toList :=
      .keep _ (.keep _ (.keep _ (.keep _ .nil)))
    have gaps : DifferInGaps (" ".toList ++ "pass".toList) (" -- ".toList ++ "pass".toList) :=
      .gap (by decide) (by decide) (by decide) (by decide) same
    exact .keep _ (.keep _ (.keep _ gaps))
  obtain ⟨shape, again, alike⟩ := identifiers_are_stable keepsAscii
  exact ⟨keepsAscii, (shape "2nd Café, no. ①").1, again "2nd Café, no. ①", plain, spaced, shouted,
    differ, alike "2nd pass" "2nd -- pass" plain spaced (.inr differ),
    alike "2nd pass" "2ND PASS" plain shouted (.inl (by decide))⟩

end DocMarkup
