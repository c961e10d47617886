import DocMarkup.Text.Utf8

namespace DocMarkup.Text

/-!
# Texts as bytes and back

The bytes of a text are read back as the text, and a text without carriage returns
has nothing in it that is taken for another line end.
-/

/-! ## Bytes -/

/-- The bytes of a text. -/
def encodeUtf8 (characters : List Char) : List UInt8 :=
  characters.flatMap String.utf8EncodeChar

section Characters

variable {offset : Nat} {decoded : List Char} {rest : List UInt8}

/-- A small number is the value of its byte. -/
theorem toNat_byte {value : Nat} (small : value < 256) : (UInt8.ofNat value).toNat = value := by
  rw [UInt8.toNat_ofNat']
  exact Nat.mod_eq_of_lt small

/-- A byte that promises more of its character opens the character. -/
theorem decodeFrom_open
    {lead : Nat}
    {unfinished : UnfinishedCharacter}
    (small : lead < 256)
    (isMore : 0x80 ≤ lead)
    (opens : openCharacter? offset lead = some unfinished) :
    decodeFrom offset none decoded (UInt8.ofNat lead :: rest) =
      decodeFrom (offset + 1) (some unfinished) decoded rest := by
  have notAscii : ¬ lead < 0x80 := Nat.not_lt.mpr isMore
  simp only [decodeFrom, toNat_byte small, notAscii, ↓reduceIte, opens]

/-- A byte in the range that is expected goes on with the character. -/
theorem decodeFrom_continue
    {start value missing lowest highest next : Nat}
    (small : next < 256)
    (inRange : lowest ≤ next ∧ next ≤ highest) :
    decodeFrom offset (some ⟨start, value, missing, lowest, highest⟩) decoded
        (UInt8.ofNat next :: rest) =
      if missing ≤ 1 then
        decodeFrom (offset + 1) none (Char.ofNat (value * 64 + (next - 0x80)) :: decoded) rest
      else
        decodeFrom (offset + 1)
          (some ⟨start, value * 64 + (next - 0x80), missing - 1, 0x80, 0xBF⟩) decoded rest := by
  simp only [decodeFrom, toNat_byte small, inRange, decide_true, Bool.and_self, ↓reduceIte]

/-- The first of two bytes. -/
theorem openCharacter?_of_two
    {front : Nat}
    (least : 2 ≤ front)
    (most : front < 32) :
    openCharacter? offset (front + 0xC0) = some ⟨offset, front, 1, 0x80, 0xBF⟩ := by
  unfold openCharacter?
  rw [if_neg (by omega), if_pos (by omega), Nat.add_sub_cancel]

/-- The first of three bytes; a second byte may have too few bits or those of a surrogate. -/
theorem openCharacter?_of_three
    {front : Nat}
    (most : front < 16) :
    openCharacter? offset (front + 0xE0) =
      some ⟨offset, front, 2, if front = 0 then 0xA0 else 0x80,
        if front = 13 then 0x9F else 0xBF⟩ := by
  unfold openCharacter?
  rw [if_neg (by omega), if_neg (by omega), if_pos (by omega), Nat.add_sub_cancel]
  simp only [beq_iff_eq, Nat.reduceEqDiff, Nat.add_eq_right]

/-- The first of four bytes; a second byte may have too few bits or too many. -/
theorem openCharacter?_of_four
    {front : Nat}
    (most : front < 5) :
    openCharacter? offset (front + 0xF0) =
      some ⟨offset, front, 3, if front = 0 then 0x90 else 0x80,
        if front = 4 then 0x8F else 0xBF⟩ := by
  unfold openCharacter?
  rw [if_neg (by omega), if_neg (by omega), if_neg (by omega), if_pos (by omega),
    Nat.add_sub_cancel]
  simp only [beq_iff_eq, Nat.reduceEqDiff, Nat.add_eq_right]

/-- A character is read from its bytes. -/
theorem decodeFrom_utf8EncodeChar
    (offset : Nat)
    (decoded : List Char)
    (character : Char)
    (rest : List UInt8) :
    ∃ next,
      decodeFrom offset none decoded (String.utf8EncodeChar character ++ rest) =
        decodeFrom next none (character :: decoded) rest := by
  obtain ⟨code, isCode⟩ : ∃ code, code = character.val.toNat := ⟨_, rfl⟩
  have valid : code < 0xD800 ∨ 0xDFFF < code ∧ code < 0x110000 := by
    rw [isCode]
    exact character.valid
  have isCharacter : Char.ofNat code = character := by
    rw [isCode]
    exact Char.ofNat_toNat character
  unfold String.utf8EncodeChar
  simp only [← isCode]
  split
  next ascii =>
    refine ⟨offset + 1, ?_⟩
    have isAscii : code < 0x80 := Nat.lt_succ_of_le ascii
    simp only [List.cons_append, List.nil_append, decodeFrom,
      toNat_byte (show code < 256 by omega), isAscii, ↓reduceIte, isCharacter]
  split
  next two =>
    refine ⟨offset + 1 + 1, ?_⟩
    rw [List.cons_append,
      decodeFrom_open (by omega) (by omega) (openCharacter?_of_two (by omega) (by omega)),
      List.cons_append, decodeFrom_continue (by omega) (by omega), if_pos (by omega),
      List.nil_append,
      show code / 64 % 32 * 64 + (code % 64 + 128 - 128) = code by omega, isCharacter]
  split
  next three =>
    refine ⟨offset + 1 + 1 + 1, ?_⟩
    have inRange :
        (if code / 4096 % 16 = 0 then 0xA0 else 0x80) ≤ code / 64 % 64 + 128 ∧
          code / 64 % 64 + 128 ≤ if code / 4096 % 16 = 13 then 0x9F else 0xBF := by
      constructor <;> split <;> omega
    rw [List.cons_append,
      decodeFrom_open (by omega) (by omega) (openCharacter?_of_three (by omega)),
      List.cons_append, decodeFrom_continue (by omega) inRange, if_neg (by omega),
      List.cons_append, decodeFrom_continue (by omega) (by omega), if_pos (by omega),
      List.nil_append,
      show (code / 4096 % 16 * 64 + (code / 64 % 64 + 128 - 128)) * 64 +
          (code % 64 + 128 - 128) = code by omega,
      isCharacter]
  next four =>
    refine ⟨offset + 1 + 1 + 1 + 1, ?_⟩
    have inRange :
        (if code / 262144 % 8 = 0 then 0x90 else 0x80) ≤ code / 4096 % 64 + 128 ∧
          code / 4096 % 64 + 128 ≤ if code / 262144 % 8 = 4 then 0x8F else 0xBF := by
      constructor <;> split <;> omega
    rw [List.cons_append,
      decodeFrom_open (by omega) (by omega) (openCharacter?_of_four (by omega)),
      List.cons_append, decodeFrom_continue (by omega) inRange, if_neg (by omega),
      List.cons_append, decodeFrom_continue (by omega) (by omega), if_neg (by omega),
      List.cons_append, decodeFrom_continue (by omega) (by omega), if_pos (by omega),
      List.nil_append,
      show ((code / 262144 % 8 * 64 + (code / 4096 % 64 + 128 - 128)) * 64 +
          (code / 64 % 64 + 128 - 128)) * 64 + (code % 64 + 128 - 128) = code by omega,
      isCharacter]

/-- Characters are read from their bytes one after another. -/
theorem decodeFrom_encodeUtf8
    (offset : Nat)
    (decoded characters : List Char) :
    decodeFrom offset none decoded (encodeUtf8 characters) =
      .ok (decoded.reverse ++ characters) := by
  induction characters generalizing offset decoded with
  | nil =>
      simp [encodeUtf8, decodeFrom]
  | cons character rest inductionHypothesis =>
      obtain ⟨next, isRead⟩ :=
        decodeFrom_utf8EncodeChar offset decoded character (encodeUtf8 rest)
      rw [encodeUtf8, List.flatMap_cons, ← encodeUtf8, isRead, inductionHypothesis]
      simp

end Characters

/-- What has been read stands at the front of all that is read. -/
theorem prefix_of_decodeFrom
    {offset : Nat}
    {unfinished : Option UnfinishedCharacter}
    {decoded characters : List Char}
    {bytes : List UInt8}
    (read : decodeFrom offset unfinished decoded bytes = .ok characters) :
    decoded.reverse <+: characters := by
  fun_induction decodeFrom offset unfinished decoded bytes with
  | case1 offset decoded =>
      obtain rfl := Except.ok.inj read
      exact List.prefix_refl _
  | case2 => simp at read
  | case3 offset decoded byte rest ascii inductionHypothesis =>
      rw [List.reverse_cons] at inductionHypothesis
      exact (List.prefix_append ..).trans (inductionHypothesis read)
  | case4 offset decoded byte rest notAscii unfinished opened inductionHypothesis =>
      exact inductionHypothesis read
  | case5 => simp at read
  | case6 offset decoded byte rest unfinished inRange value isLast inductionHypothesis =>
      rw [List.reverse_cons] at inductionHypothesis
      exact (List.prefix_append ..).trans (inductionHypothesis read)
  | case7 offset decoded byte rest unfinished inRange value isLast inductionHypothesis =>
      exact inductionHypothesis read
  | case8 => simp at read

/-- The character that marks bytes as UTF-8 when it comes first. -/
def byteOrderMark : Char :=
  Char.ofNat 0xFEFF

/-- The bytes of a text without a mark at its front are read back as the text. -/
theorem decodeUtf8_encodeUtf8
    {characters : List Char}
    (unmarked : characters.head? ≠ some byteOrderMark) :
    decodeUtf8 (encodeUtf8 characters) = .ok characters := by
  have isRead : decodeFrom 0 none [] (encodeUtf8 characters) = .ok characters := by
    rw [decodeFrom_encodeUtf8]
    rfl
  have noMark : withoutByteOrderMark (encodeUtf8 characters) = encodeUtf8 characters := by
    unfold withoutByteOrderMark
    split
    next rest bytes =>
      rw [bytes] at isRead
      have isReadBehind : decodeFrom 3 none [byteOrderMark] rest = .ok characters := isRead
      obtain ⟨others, shape⟩ := prefix_of_decodeFrom isReadBehind
      exact (unmarked (by rw [← shape]; rfl)).elim
    next =>
      rfl
  rw [decodeUtf8, noMark, isRead]

/-! ## Line ends -/

/-- Where there are no carriage returns, no line ends are unified. -/
theorem unifyLineEnds_eq_self
    {characters : List Char}
    (noReturn : '\r' ∉ characters) :
    unifyLineEnds characters = characters := by
  induction characters with
  | nil =>
      rfl
  | cons character rest inductionHypothesis =>
      simp only [List.mem_cons, not_or] at noReturn
      rw [unifyLineEnds, inductionHypothesis noReturn.2]
      · exact fun _ isReturn => (noReturn.1 isReturn.symm).elim
      · exact fun isReturn => (noReturn.1 isReturn.symm).elim

/-- Where there are no carriage returns, there are no pairs of them with line feeds. -/
theorem pairedLineEnds_eq_self
    {characters : List Char}
    (noReturn : '\r' ∉ characters) :
    pairedLineEnds characters = characters := by
  induction characters with
  | nil =>
      rfl
  | cons character rest inductionHypothesis =>
      simp only [List.mem_cons, not_or] at noReturn
      rw [pairedLineEnds, inductionHypothesis noReturn.2]
      exact fun _ isReturn => (noReturn.1 isReturn.symm).elim

/--
Where every carriage return stands before a line feed, it makes no difference whether
carriage returns on their own are unified.
-/
theorem unifyLineEnds_eq_pairedLineEnds
    {characters : List Char}
    (paired : '\r' ∉ pairedLineEnds characters) :
    unifyLineEnds characters = pairedLineEnds characters := by
  fun_induction pairedLineEnds characters with
  | case1 rest inductionHypothesis =>
      rw [unifyLineEnds, inductionHypothesis fun member => paired (by simp [member])]
  | case2 character rest notPaired inductionHypothesis =>
      simp only [List.mem_cons, not_or] at paired
      have notReturn : character ≠ '\r' := fun isReturn => paired.1 isReturn.symm
      rw [unifyLineEnds, inductionHypothesis paired.2]
      · exact fun _ isReturn => (notReturn isReturn).elim
      · exact notReturn
  | case3 =>
      rfl

/-- No carriage return is left after line ends have been unified. -/
theorem not_mem_unifyLineEnds (characters : List Char) : '\r' ∉ unifyLineEnds characters := by
  fun_induction unifyLineEnds characters with
  | case1 rest inductionHypothesis =>
      simpa using inductionHypothesis
  | case2 rest notPaired inductionHypothesis =>
      simpa using inductionHypothesis
  | case3 character rest notPaired isOther inductionHypothesis =>
      simp only [List.mem_cons, not_or]
      exact ⟨fun isReturn => isOther isReturn.symm, inductionHypothesis⟩
  | case4 =>
      simp

end DocMarkup.Text
