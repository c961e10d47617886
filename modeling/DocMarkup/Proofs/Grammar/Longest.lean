import DocMarkup.Proofs.Grammar.Contract
import DocMarkup.Proofs.Text.Utf8

namespace DocMarkup

/-!
# A bound on all texts

No text that a compilation comes to read is longer than the sum of the lengths of
the given text, of all files, and of all bodies of macros and templates that are
defined beforehand.
-/

namespace Text

/-- Every character takes at least one byte. -/
theorem length_decodeFrom_le
    {offset : Nat}
    {unfinished : Option UnfinishedCharacter}
    {decoded characters : List Char}
    {bytes : List UInt8}
    (valid : decodeFrom offset unfinished decoded bytes = .ok characters) :
    characters.length ≤ decoded.length + bytes.length := by
  fun_induction decodeFrom offset unfinished decoded bytes with
  | case1 =>
      obtain rfl := Except.ok.inj valid
      simp
  | case2 => simp at valid
  | case3 offset decoded byte rest _ inductionHypothesis =>
      have shorter := inductionHypothesis valid
      simp only [List.length_cons] at shorter ⊢
      omega
  | case4 offset decoded byte rest _ unfinished _ inductionHypothesis =>
      have shorter := inductionHypothesis valid
      simp only [List.length_cons]
      omega
  | case5 => simp at valid
  | case6 offset unfinished decoded byte rest _ value _ inductionHypothesis =>
      have shorter := inductionHypothesis valid
      simp only [List.length_cons] at shorter ⊢
      omega
  | case7 offset unfinished decoded byte rest _ value _ inductionHypothesis =>
      have shorter := inductionHypothesis valid
      simp only [List.length_cons]
      omega
  | case8 => simp at valid

/-- A text has at most as many characters as bytes. -/
theorem length_decodeUtf8_le
    {bytes : List UInt8}
    {characters : List Char}
    (valid : decodeUtf8 bytes = .ok characters) :
    characters.length ≤ bytes.length := by
  have shorter := length_decodeFrom_le valid
  have withoutMark : (withoutByteOrderMark bytes).length ≤ bytes.length := by
    unfold withoutByteOrderMark
    split
    · simp only [List.length_cons]
      omega
    · exact Nat.le_refl _
  simp only [List.length_nil] at shorter
  omega

/-- Making line ends alike never makes a text longer. -/
theorem length_unifyLineEnds_le (characters : List Char) :
    (unifyLineEnds characters).length ≤ characters.length := by
  fun_induction unifyLineEnds characters <;> simp only [List.length_cons, List.length_nil] <;>
    omega

end Text

/-- A summand is at most the sum. -/
theorem le_total
    {sizes : List Nat}
    {size : Nat}
    (member : size ∈ sizes) :
    size ≤ total sizes := by
  induction sizes with
  | nil =>
      simp at member
  | cons first rest inductionHypothesis =>
      simp only [total]
      rcases List.mem_cons.mp member with rfl | inRest
      · omega
      · have smaller := inductionHypothesis inRest
        omega

namespace FileTree

/-- A file that stands somewhere is one of the entries. -/
theorem size_le_total
    {files : FileTree}
    {place : List String}
    {content : List UInt8}
    (found : files.at? place = some (.file content)) :
    content.length ≤ total (files.entries.map fun entry => entry.2.size) := by
  unfold at? at found
  split at found
  next entryPlace entry isEntry =>
    obtain rfl := Option.some.inj found
    have member := List.mem_of_find?_eq_some isEntry
    exact le_total (List.mem_map.mpr ⟨_, member, rfl⟩)
  next =>
    simp only at found
    split at found <;> simp at found

/-- The text of a file is not longer than all files together. -/
theorem bounded_total (files : FileTree) :
    files.Bounded (total (files.entries.map fun entry => entry.2.size)) := by
  intro path text loaded
  unfold loadSource at loaded
  split at loaded
  · simp at loaded
  split at loaded
  · simp at loaded
  next content isRead =>
    split at loaded
    · simp at loaded
    next decoded isText =>
      obtain rfl := Except.ok.inj loaded
      have contentShort :
          content.length ≤ total (files.entries.map fun entry => entry.2.size) := by
        unfold read at isRead
        split at isRead
        · simp at isRead
        · simp at isRead
        next file isFound =>
          obtain rfl := Except.ok.inj isRead
          unfold find at isFound
          simp only at isFound
          split at isFound
          · simp at isFound
          split at isFound
          · simp at isFound
          next entry stands =>
            obtain rfl := Except.ok.inj isFound
            exact size_le_total stands
      unfold decodeSource at isText
      split at isText
      · simp at isText
      next characters valid =>
        obtain rfl := Except.ok.inj isText
        have fromBytes := Text.length_decodeUtf8_le valid
        have unified := Text.length_unifyLineEnds_le characters
        rw [String.length_ofList]
        omega

/-- A bound on the files is one above it, too. -/
theorem Bounded.mono
    {files : FileTree}
    {shorter longer : Nat}
    (bounded : files.Bounded shorter)
    (le : shorter ≤ longer) :
    files.Bounded longer :=
  fun path text loaded => Nat.le_trans (bounded path text loaded) le

end FileTree

namespace CompilerState

variable {environment : Environment} {state : CompilerState} {given : Nat}

/-- The bound holds of all files. -/
theorem files_bounded_longestText :
    environment.files.Bounded (longestText environment state given) := by
  refine environment.files.bounded_total.mono ?_
  unfold longestText
  omega

/-- The bound holds of everything that stands for a name. -/
theorem bounded_longestText : state.Bounded (longestText environment state given) where
  macros := by
    intro entry member
    have summand :
        entry.2.length ≤
          total (state.macros.bodies.entries.map fun entry => entry.2.length) :=
      le_total (List.mem_map.mpr ⟨entry, member, rfl⟩)
    unfold longestText
    omega
  templates := by
    intro scope isScope entry member
    have inScope :
        entry.2.body.length ≤ total (scope.entries.map fun entry => entry.2.body.length) :=
      le_total (List.mem_map.mpr ⟨entry, member, rfl⟩)
    have ofScope :
        total (scope.entries.map fun entry => entry.2.body.length) ≤
          total (state.templates.scopes.map fun scope =>
            total (scope.entries.map fun entry => entry.2.body.length)) :=
      le_total (List.mem_map.mpr ⟨scope, isScope, rfl⟩)
    unfold longestText
    omega

/-- The bound holds of the given text. -/
theorem given_le_longestText : given ≤ longestText environment state given := by
  unfold longestText
  omega

/-- Every state is ready for every text where steps are not counted. -/
theorem ready_longestText
    {steps length extra : Nat}
    (short : length ≤ given) :
    Ready (longestText environment state given) steps False state length extra :=
  .uncounted bounded_longestText (Nat.le_trans short given_le_longestText)

end CompilerState

/-- The computed number of steps is enough for a text and for what it may include. -/
theorem inclusions_lt_enoughSteps
    (environment : Environment)
    (state : CompilerState)
    (given opened : Nat)
    {longest length : Nat}
    (bounds : longest ≤ longestText environment state given)
    (fits : length ≤ longestText environment state given) :
    (includeLimit - opened) * (longest + 4) + length < enoughSteps environment state given := by
  have room :
      (includeLimit - opened) * (longest + 4) ≤
        includeLimit * (longestText environment state given + 4) :=
    Nat.mul_le_mul (Nat.sub_le _ _) (Nat.add_le_add_right bounds 4)
  unfold enoughSteps nestingLevels stepsPerCharacter expansionLimit
  unfold includeLimit at *
  omega

/-- It is enough for a text alone. -/
theorem lt_enoughSteps
    {environment : Environment}
    {state : CompilerState}
    {given length : Nat}
    (fits : length ≤ longestText environment state given) :
    length < enoughSteps environment state given := by
  have enough := inclusions_lt_enoughSteps environment state given includeLimit (Nat.le_refl _) fits
  rwa [Nat.sub_self, Nat.zero_mul, Nat.zero_add] at enough

/-- It is enough for a text and for the longest one besides it. -/
theorem add_longestText_lt_enoughSteps
    {environment : Environment}
    {state : CompilerState}
    {given length : Nat}
    (fits : length ≤ longestText environment state given) :
    length + longestText environment state given < enoughSteps environment state given := by
  have enough :=
    inclusions_lt_enoughSteps environment state given (includeLimit - 1) (Nat.le_refl _) fits
  have once : includeLimit - (includeLimit - 1) = 1 := rfl
  rw [once, Nat.one_mul] at enough
  omega

end DocMarkup
