import DocMarkup.Grammar.Code
import DocMarkup.Proofs.Grammar.Progress

namespace DocMarkup

/-!
# Loops over a text

Comments, the rows and cells of a table and the lines of indented code are read one
after another. Each of these loops goes on behind what it has just read, and that is
at least one character.
-/

/-- Whenever there is something to go on with, less of it is left. -/
def Shortens (length : α → Nat) (next? : α → Option α) : Prop :=
  ∀ here next, next? here = some next → length next < length here

/-! ## Comments -/

/-- The text behind the white space and the comment at the front of a text. -/
def behindComment? (characters : List Char) : Option (List Char) :=
  match characters.drop (Text.runLength Text.isBlank characters) with
  | '[' :: '/' :: rest => (closingDistance? 0 rest).map fun length => rest.drop (length + 1)
  | _ => none

/-- Skipping comments goes on behind each comment. -/
theorem drop_commentsLength (characters : List Char) :
    characters.drop (commentsLength characters) =
      match behindComment? characters with
      | some behind => behind.drop (commentsLength behind)
      | none => characters.drop (Text.runLength Text.isBlank characters) := by
  rw [commentsLength]
  split
  next rest found =>
    cases closing : closingDistance? 0 rest with
    | none =>
        simp [behindComment?, found, closing]
    | some length =>
        have behind :
            characters.drop (Text.runLength Text.isBlank characters + (length + 3)) =
              rest.drop (length + 1) := by
          rw [← List.drop_drop, found]
          rfl
        simp only [behindComment?, found, closing, Option.map_some]
        rw [← List.drop_drop, behind]
  next isNone =>
    have noComment : behindComment? characters = none := by
      unfold behindComment?
      split
      next rest found =>
        exact (isNone rest found).elim
      next =>
        rfl
    rw [noComment]

/-- A comment takes some characters. -/
theorem behindComment?_shortens : Shortens List.length behindComment? := by
  intro characters behind read
  unfold behindComment? at read
  split at read
  next rest found =>
    obtain ⟨length, _, rfl⟩ := Option.map_eq_some_iff.mp read
    have total := congrArg List.length found
    simp only [List.length_drop, List.length_cons] at total ⊢
    omega
  next =>
    simp at read

/-! ## Rows and cells -/

namespace Cursor

/-- A text that does not start with a character has another one at its front, or none. -/
private theorem head?_ne_some
    {characters : List Char}
    {character : Char}
    (starts : ∀ rest, characters = character :: rest → False) :
    characters.head? ≠ some character := by
  rw [ne_eq, List.head?_eq_some_iff]
  rintro ⟨rest, shape⟩
  exact starts rest shape

/-- The cursor behind the next cell of a row. -/
def behindCell? (cursor : Cursor) : Option Cursor :=
  let entry := cursor.skipComments
  if entry.isBefore '[' then (entry.advance 1).balancedThrough?.map (·.2) else none

/-- The outline of a row goes on behind each cell. -/
theorem outlineCells?_eq (cursor : Cursor) :
    cursor.outlineCells? =
      if cursor.skipComments.isBefore ']' then
        some ([], cursor.skipComments.offset, cursor.skipComments.advance 1)
      else
        cursor.behindCell?.bind fun next =>
          next.outlineCells?.map fun (cells, closing, after) =>
            (cursor.skipComments.offset :: cells, closing, after) := by
  rw [outlineCells?, behindCell?]
  simp only [isBefore]
  split
  next rest opened =>
    simp [opened]
  next rest opened =>
    simp only [opened, List.head?_cons]
    split
    next unread =>
      simp [unread]
    next content next read =>
      simp [read]
  next isNoEnd isNoCell =>
    have notEnd := head?_ne_some isNoEnd
    have notCell := head?_ne_some isNoCell
    simp [notEnd, notCell]

/-- A cell takes some characters. -/
theorem behindCell?_shortens : Shortens (fun cursor => cursor.rest.length) behindCell? := by
  intro cursor next read
  simp only [behindCell?, Option.ite_none_right_eq_some] at read
  obtain ⟨isCell, through⟩ := read
  obtain ⟨⟨content, after⟩, inside, rfl⟩ := Option.map_eq_some_iff.mp through
  have toEntry := cursor.length_rest_skipComments_le
  have throughCell := length_rest_balancedThrough?_lt inside
  simp only [rest_advance, List.length_drop] at throughCell
  show after.rest.length < cursor.rest.length
  omega

/-- The cursor behind the next row of a table. -/
def behindRow? (cursor : Cursor) : Option Cursor :=
  let entry := cursor.skipComments
  if entry.isBefore '[' then (entry.advance 1).outlineCells?.map (·.2.2) else none

/-- The outline of a table goes on behind each row. -/
theorem outlineRows?_eq (cursor : Cursor) :
    cursor.outlineRows? =
      if cursor.skipComments.isBefore ']' then
        some { rows := [], closing := cursor.skipComments.offset }
      else
        cursor.behindRow?.bind fun next =>
          ((cursor.skipComments.advance 1).outlineCells?).bind fun (cells, closing, _) =>
            next.outlineRows?.map fun table =>
              { table with
                rows :=
                  { start := cursor.skipComments.offset, cells := cells, closing := closing } ::
                    table.rows } := by
  rw [outlineRows?, behindRow?]
  simp only [isBefore]
  split
  next rest opened =>
    simp [opened]
  next rest opened =>
    simp only [opened, List.head?_cons]
    split
    next unread =>
      simp [unread]
    next cells closing next outlined =>
      simp [outlined]
  next isNoEnd isNoRow =>
    have notEnd := head?_ne_some isNoEnd
    have notRow := head?_ne_some isNoRow
    simp [notEnd, notRow]

/-- A row takes some characters. -/
theorem behindRow?_shortens : Shortens (fun cursor => cursor.rest.length) behindRow? := by
  intro cursor next read
  simp only [behindRow?, Option.ite_none_right_eq_some] at read
  obtain ⟨isRow, through⟩ := read
  obtain ⟨⟨cells, closing, after⟩, inside, rfl⟩ := Option.map_eq_some_iff.mp through
  have toEntry := cursor.length_rest_skipComments_le
  have throughCells := length_rest_outlineCells?_le inside
  have someLeft : 0 < cursor.skipComments.rest.length := by
    unfold isBefore at isRow
    cases remaining : cursor.skipComments.rest with
    | nil =>
        simp [remaining] at isRow
    | cons first others =>
        simp
  simp only [rest_advance, List.length_drop] at throughCells
  show after.rest.length < cursor.rest.length
  omega

/-! ## Lines of code -/

/-- The characters up to a line feed. -/
def firstLine (characters : List Char) : List Char :=
  characters.takeWhile fun character => character != '\n'

/-- The text behind a line that belongs to indented code, and behind its line feed. -/
def behindCodeLine? (characters : List Char) : Option (List Char) :=
  if continuesCode (firstLine characters) then
    (characters.drop (firstLine characters).length).tail?
  else
    none

/-- The lines of a text are its first line and those behind the line feed. -/
private theorem linesFrom_eq (line characters : List Char) :
    Text.linesFrom line characters =
      (line.reverse ++ firstLine characters) ::
        match (characters.drop (firstLine characters).length).tail? with
        | some behind => Text.lines behind
        | none => [] := by
  induction characters generalizing line with
  | nil =>
      simp [Text.linesFrom, firstLine]
  | cons character rest inductionHypothesis =>
      by_cases isLineFeed : character = '\n'
      · subst isLineFeed
        simp [Text.linesFrom, firstLine, Text.lines]
      · rw [Text.linesFrom]
        simp [isLineFeed, inductionHypothesis, firstLine]

/-- Indented code goes on behind each line that belongs to it. -/
theorem takeWhile_continuesCode_lines (characters : List Char) :
    (Text.lines characters).takeWhile continuesCode =
      if continuesCode (firstLine characters) then
        firstLine characters ::
          match behindCodeLine? characters with
          | some behind => (Text.lines behind).takeWhile continuesCode
          | none => []
      else
        [] := by
  rw [Text.lines, linesFrom_eq, List.takeWhile_cons, behindCodeLine?]
  simp only [List.reverse_nil, List.nil_append]
  by_cases continues : continuesCode (firstLine characters)
  · simp only [continues, ↓reduceIte]
    cases (characters.drop (firstLine characters).length).tail? <;> rfl
  · simp [continues]

/-- A line of code takes at least its line feed. -/
theorem behindCodeLine?_shortens : Shortens List.length behindCodeLine? := by
  intro characters behind read
  simp only [behindCodeLine?, Option.ite_none_right_eq_some] at read
  obtain ⟨_, isBehind⟩ := read
  cases remaining : characters.drop (firstLine characters).length with
  | nil =>
      simp [remaining] at isBehind
  | cons first others =>
      rw [remaining] at isBehind
      obtain rfl : others = behind := by simpa using isBehind
      have total := congrArg List.length remaining
      simp only [List.length_drop, List.length_cons] at total
      omega

end Cursor

end DocMarkup
