import Mathlib.Data.List.Chain
import Mathlib.Algebra.Order.BigOperators.Group.List
import Mathlib.Algebra.Order.Ring.Nat
import DocMarkup.Markup.Layout

namespace DocMarkup.Markup

/-!
# Words in as few lines as possible

Words are filled into lines from the front: a line is gone on with while the next word
fits, so that every line begins with a word for which the line before has no room. No
line of another cutting then reaches further than the same line of this one, and so no
other cutting has fewer lines.
-/

/-- The line of a row of words: a margin and the words, with a space between any two. -/
def lineOf (margin : List Char) (row : List (List Char)) : List Char :=
  margin ++ List.intercalate [' '] row

/--
Words cut into rows in order. A row holds one word or several, and if it holds several
its line is no longer than the width.
-/
structure IsCutting
    (lineWidth : Nat)
    (margin : List Char)
    (words : List (List Char))
    (rows : List (List (List Char))) : Prop where
  flatten : rows.flatten = words
  nonempty : ∀ row ∈ rows, row ≠ []
  fits : ∀ row ∈ rows, 2 ≤ row.length → (lineOf margin row).length ≤ lineWidth

/-- No line has room for the first word of the next one. -/
def AreFull (lineWidth : Nat) (margin : List Char) (rows : List (List (List Char))) : Prop :=
  rows.IsChain fun row next =>
    ∀ word ∈ next.head?, lineWidth < (lineOf margin (row ++ [word])).length

section Wrapping

variable {lineWidth : Nat} {margin word : List Char} {row part words : List (List Char)}
  {rows other : List (List (List Char))}

/-- The length of a line, with a space counted behind its last word too. -/
theorem length_lineOf (margin : List Char) (someWords : row ≠ []) :
    (lineOf margin row).length + 1 =
      margin.length + (row.map fun word => word.length + 1).sum := by
  induction row with
  | nil => exact (someWords rfl).elim
  | cons first rest inductionHypothesis =>
      cases rest with
      | nil => simp [lineOf, Nat.add_assoc]
      | cons second others =>
          have shorter := inductionHypothesis (List.cons_ne_nil second others)
          simp only [lineOf, List.intercalate_cons_cons, List.length_append, List.length_singleton,
            List.map_cons, List.sum_cons] at shorter ⊢
          omega

/-- With fewer words, a line is not longer. -/
theorem length_lineOf_le_of_sublist
    (margin : List Char)
    (someWords : part ≠ [])
    (isPart : part.Sublist row) :
    (lineOf margin part).length ≤ (lineOf margin row).length := by
  have wholeWords : row ≠ [] := fun nothing => someWords (List.sublist_nil.mp (nothing ▸ isPart))
  have fewer :
      (part.map fun word => word.length + 1).sum ≤ (row.map fun word => word.length + 1).sum :=
    (isPart.map _).sum_le_sum fun _ _ => Nat.zero_le _
  have partLength := length_lineOf margin someWords
  have wholeLength := length_lineOf margin wholeWords
  omega

/-- A line that is gone on with has a space and the next word behind it. -/
theorem lineOf_concat (margin : List Char) (begun : row ≠ []) (word : List Char) :
    lineOf margin (row ++ [word]) = lineOf margin row ++ ' ' :: word := by
  induction row with
  | nil => exact (begun rfl).elim
  | cons first rest inductionHypothesis =>
      cases rest with
      | nil => simp [lineOf, List.intercalate_cons_cons]
      | cons second others =>
          have further := inductionHypothesis (List.cons_ne_nil second others)
          simp only [lineOf, List.append_assoc, List.append_cancel_left_eq, List.cons_append,
            List.intercalate_cons_cons] at further ⊢
          rw [further]

/-- Rows of words begin with the first word. -/
theorem exists_first_row
    (nonempty : ∀ row ∈ rows, row ≠ [])
    (inOrder : rows.flatten = word :: words) :
    ∃ row others, rows = (word :: row) :: others := by
  cases rows with
  | nil => cases inOrder
  | cons row others =>
      obtain ⟨first, rest, rfl⟩ :=
        List.exists_cons_of_ne_nil (nonempty row List.mem_cons_self)
      rw [List.flatten_cons, List.cons_append, List.cons.injEq] at inOrder
      exact ⟨rest, others, by rw [inOrder.1]⟩

/-- Words that are filled into lines behind a row that has been begun make a full cutting. -/
theorem exists_cutting_of_wrapFrom
    (lineWidth : Nat)
    (margin : List Char)
    (words : List (List Char))
    (begun : row ≠ [])
    (fits : 2 ≤ row.length → (lineOf margin row).length ≤ lineWidth) :
    ∃ rows,
      wrapFrom lineWidth margin (lineOf margin row) words = rows.map (lineOf margin) ∧
        IsCutting lineWidth margin (row ++ words) rows ∧ AreFull lineWidth margin rows := by
  induction words generalizing row with
  | nil =>
      refine ⟨[row], rfl, ⟨by simp, ?_, ?_⟩, List.isChain_singleton row⟩
      · simpa using begun
      · simpa using fits
  | cons word rest inductionHypothesis =>
      have longer := lineOf_concat margin begun word
      have longerLength :
          (lineOf margin (row ++ [word])).length =
            (lineOf margin row).length + 1 + word.length := by
        rw [longer, List.length_append, List.length_cons]
        omega
      rw [wrapFrom]
      split
      next roomy =>
        rw [← longer, List.append_cons row word rest]
        exact inductionHypothesis (by simp) fun _ => longerLength ▸ roomy
      next full =>
        obtain ⟨others, filled, isCutting, areFull⟩ :=
          inductionHypothesis (List.cons_ne_nil word []) (by simp)
        have single : margin ++ word = lineOf margin [word] := by simp [lineOf]
        refine ⟨row :: others, by rw [single, filled, List.map_cons],
          ⟨by rw [List.flatten_cons, isCutting.flatten, List.singleton_append], ?_, ?_⟩,
          List.isChain_cons.mpr ⟨?_, areFull⟩⟩
        · exact List.forall_mem_cons.mpr ⟨begun, isCutting.nonempty⟩
        · exact List.forall_mem_cons.mpr ⟨fits, isCutting.fits⟩
        · obtain ⟨row, later, rfl⟩ := exists_first_row isCutting.nonempty isCutting.flatten
          rintro next ⟨⟩ first ⟨⟩
          omega

/--
A full line reaches at least as far as the line that another cutting has at its place. If
it were shorter than what that line has left, it would have had room for the next word.
-/
theorem AreFull.rest_isSuffix
    {whole : List (List Char)}
    (areFull : AreFull lineWidth margin (row :: rows))
    (nonempty : ∀ part ∈ row :: rows, part ≠ [])
    (fits : 2 ≤ whole.length → (lineOf margin whole).length ≤ lineWidth)
    (within : row ++ rows.flatten <:+ whole ++ words) :
    rows.flatten <:+ words := by
  obtain ⟨rowNonempty, restNonempty⟩ := List.forall_mem_cons.mp nonempty
  obtain ⟨front, reached⟩ := within
  rw [← List.append_assoc] at reached
  obtain ⟨left, isWhole, isRest⟩ | ⟨behind, -, isOthers⟩ := List.append_eq_append_iff.mp reached
  · cases left with
    | nil => exact ⟨[], isRest⟩
    | cons word more =>
        -- The other line holds this one and the next word, for which there was no room.
        obtain ⟨next, later, rfl⟩ := exists_first_row restNonempty isRest
        have noRoom := (List.isChain_cons.mp areFull).1 _ rfl word rfl
        have isPart : (row ++ [word]).Sublist whole := by
          rw [isWhole, List.append_assoc, List.append_cons row word more]
          exact (List.sublist_append_left _ more).trans (List.sublist_append_right front _)
        have several : 2 ≤ whole.length := by
          have someWords := List.length_pos_iff.mpr rowNonempty
          have atLeast := isPart.length_le
          rw [List.length_append, List.length_singleton] at atLeast
          omega
        have notLonger := length_lineOf_le_of_sublist margin (by simp) isPart
        have room := fits several
        omega
  · exact ⟨behind, isOthers.symm⟩

/-- A full cutting has no more lines than any cutting of as many words or more. -/
theorem AreFull.length_le
    (areFull : AreFull lineWidth margin rows)
    (nonempty : ∀ row ∈ rows, row ≠ [])
    (fits : ∀ row ∈ other, 2 ≤ row.length → (lineOf margin row).length ≤ lineWidth)
    (within : rows.flatten <:+ other.flatten) :
    rows.length ≤ other.length := by
  induction other generalizing rows with
  | nil =>
      have nothing : rows.flatten = [] := List.suffix_nil.mp within
      have noRows : rows = [] := List.eq_nil_iff_forall_not_mem.mpr fun row member =>
        nonempty row member (List.flatten_eq_nil_iff.mp nothing row member)
      rw [noRows]
  | cons whole others inductionHypothesis =>
      cases rows with
      | nil => exact Nat.zero_le _
      | cons row rest =>
          obtain ⟨wholeFits, othersFit⟩ := List.forall_mem_cons.mp fits
          have restWithin : rest.flatten <:+ others.flatten :=
            areFull.rest_isSuffix nonempty wholeFits within
          exact Nat.succ_le_succ (inductionHypothesis (List.isChain_cons.mp areFull).2
            (List.forall_mem_cons.mp nonempty).2 othersFit restWithin)

end Wrapping

/--
Wrapping is correct and needs as few lines as possible. The words stand in order in lines
of one word or several, behind the margin of the depth and with single spaces between
them. A line of several words is no longer than the line width, no line has room for the
first word of the next one, and no other cutting of the words into lines of that width
has fewer lines.
-/
theorem wrapping_needs_fewest_lines
    (layout : Layout)
    (depth : Nat)
    (words : List (List Char)) :
    ∃ rows,
      layout.wrapped depth words = rows.map (lineOf (layout.margin depth)) ∧
        IsCutting layout.lineWidth (layout.margin depth) words rows ∧
          AreFull layout.lineWidth (layout.margin depth) rows ∧
            ∀ other,
              IsCutting layout.lineWidth (layout.margin depth) words other →
                rows.length ≤ other.length := by
  cases words with
  | nil =>
      exact ⟨[], rfl, ⟨rfl, by simp, by simp⟩, List.isChain_nil, fun _ _ => Nat.zero_le _⟩
  | cons word rest =>
      obtain ⟨rows, filled, isCutting, areFull⟩ :=
        exists_cutting_of_wrapFrom layout.lineWidth (layout.margin depth) rest
          (List.cons_ne_nil word []) (by simp)
      refine ⟨rows, ?_, isCutting, areFull, fun other isOther => ?_⟩
      · rw [← filled, lineOf, List.intercalate_singleton]
        rfl
      · refine areFull.length_le isCutting.nonempty isOther.fits ?_
        rw [isCutting.flatten, isOther.flatten]
        exact List.suffix_refl _

/-- A line may be filled exactly, and a word that is too long has a line of its own. -/
example :
    ({ indent := 2, lineWidth := 7 } : Layout).wrapped 1
        ["aa".toList, "bb".toList, "cccccc".toList, "d".toList] =
      ["  aa bb".toList, "  cccccc".toList, "  d".toList] := by
  decide

end DocMarkup.Markup
