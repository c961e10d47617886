import DocMarkup.Source
import Mathlib.Data.List.Induction

namespace DocMarkup

/-!
# Texts that are cut out of sources

A text that was cut out of a source reports its places as places of that source, if
it remembers the position at which it starts there.
-/

/-- Behind a front, the last line starts in the front if no line feed comes later. -/
theorem distanceFromLineStart_append (behind front : List Char) :
    distanceFromLineStart (behind ++ front) =
      if behind.count '\n' = 0 then
        behind.length + distanceFromLineStart front
      else
        distanceFromLineStart behind := by
  induction behind with
  | nil =>
      simp
  | cons first rest inductionHypothesis =>
      by_cases isLineFeed : first = '\n'
      · simp [isLineFeed, distanceFromLineStart]
      · have step (others : List Char) :
            distanceFromLineStart (first :: others) = distanceFromLineStart others + 1 := by
          simp [distanceFromLineStart, isLineFeed]
        rw [List.cons_append, step, step, inductionHypothesis,
          List.count_cons_of_ne (by simpa using isLineFeed), List.length_cons]
        split <;> omega

/-- Without line feeds, a line starts in front of all that is there. -/
theorem distanceFromLineStart_of_count
    {before : List Char}
    (oneLine : before.count '\n' = 0) :
    distanceFromLineStart before = before.length := by
  have atFront := distanceFromLineStart_append before []
  rw [List.append_nil, if_pos oneLine] at atFront
  exact atFront

namespace Source

/-- All positions in a source are in the same file. -/
theorem file_position (source : Source) (offset : Nat) :
    (source.position offset).file = (source.position 0).file := by
  unfold position positionAfter
  cases source.origin <;> rfl

/-- A text that reads as a source does from a place on has its positions in that source. -/
theorem position_of_take
    {source : Source}
    {text : String}
    {start offset : Nat}
    (name : String)
    (readsAlike :
      text.toList.take offset = (source.text.toList.drop start).take offset) :
    ({ text := text, name := name, origin := some (source.position start) } : Source).position
        offset =
      source.position (start + offset) := by
  unfold position
  rw [List.take_add, ← readsAlike, List.reverse_append]
  have startsInside (goesOn : (text.toList.take offset).count '\n' ≠ 0) :
      (source.text.toList.take start).length = start := by
    have isSomewhere : '\n' ∈ (source.text.toList.drop start).take offset := by
      rw [← readsAlike]
      exact List.count_pos_iff.mp (Nat.pos_of_ne_zero goesOn)
    have somethingRemains := List.length_pos_of_mem (List.mem_of_mem_take isSomewhere)
    rw [List.length_drop] at somethingRemains
    rw [List.length_take, Nat.min_eq_left (by omega)]
  have frontLength : (source.text.toList.take start).length ≤ start := List.length_take_le _ _
  have pieceLength : (text.toList.take offset).length ≤ offset := List.length_take_le _ _
  generalize source.text.toList.take start = front at *
  generalize text.toList.take offset = piece at *
  unfold positionAfter
  simp only [List.count_append, List.count_reverse, distanceFromLineStart_append,
    List.length_append, List.length_reverse]
  -- A piece without line feeds goes on with the line on which it starts.
  have oneLineLength (oneLine : piece.count '\n' = 0) :
      distanceFromLineStart piece.reverse = piece.length := by
    rw [distanceFromLineStart_of_count (by rwa [List.count_reverse]), List.length_reverse]
  cases source.origin with
  | none =>
      simp only [Position.mk.injEq, true_and]
      refine ⟨by omega, ?_⟩
      split <;> omega
  | some origin =>
      simp only [Position.mk.injEq, true_and]
      refine ⟨by omega, by omega, ?_⟩
      repeat' split
      all_goals omega

/-- A text that was cut out of a source has its positions in that source. -/
theorem position_cut
    {source : Source}
    {text : String}
    {start offset : Nat}
    (name : String)
    (isPart : text.toList <+: source.text.toList.drop start)
    (inside : offset ≤ text.length) :
    ({ text := text, name := name, origin := some (source.position start) } : Source).position
        offset =
      source.position (start + offset) := by
  refine position_of_take name ?_
  obtain ⟨behind, isRest⟩ := isPart
  rw [← isRest, List.take_append_of_le_length (by rwa [String.length_toList])]

/-- What a cut takes out of a source: where it starts, how far it goes and its new name. -/
structure Cut where
  start : Nat
  length : Nat
  name : String
deriving DecidableEq, Repr

/-- The source that a cut takes out, which remembers where it was. -/
def cut (source : Source) (piece : Cut) : Source :=
  { text := String.ofList ((source.text.toList.drop piece.start).take piece.length)
    name := piece.name
    origin := some (source.position piece.start) }

/-- The source that cuts take out one after another, each one out of what the last one took. -/
def cutThrough (source : Source) : List Cut → Source
  | [] => source
  | piece :: others => (source.cut piece).cutThrough others

/-- The offset in the outermost source of an offset behind the last cut. -/
def Cut.outermost (pieces : List Cut) (offset : Nat) : Nat :=
  pieces.foldr (fun piece inside => piece.start + inside) offset

/-- An offset behind the last cut is in no cut beyond what the cut was asked to take. -/
def Cut.Reaches : List Cut → Nat → Prop
  | [], _ => True
  | piece :: others, offset => Cut.outermost others offset ≤ piece.length ∧ Cut.Reaches others offset

/-- A position in what was cut out is the position of the same place in the source. -/
theorem position_of_cut
    {source : Source}
    {piece : Cut}
    {offset : Nat}
    (within : offset ≤ piece.length) :
    (source.cut piece).position offset = source.position (piece.start + offset) := by
  refine position_of_take piece.name ?_
  rw [String.toList_ofList, List.take_take, Nat.min_eq_left within]

/-- Positions behind cuts are positions of the outermost source. -/
theorem position_of_cutThrough
    {pieces : List Cut}
    {offset : Nat} :
    ∀ {source : Source}, Cut.Reaches pieces offset →
      (source.cutThrough pieces).position offset =
        source.position (Cut.outermost pieces offset) := by
  induction pieces with
  | nil =>
      intro source reaches
      rfl
  | cons piece others inductionHypothesis =>
      intro source reaches
      obtain ⟨within, reachesOthers⟩ := reaches
      calc ((source.cut piece).cutThrough others).position offset
        _ = (source.cut piece).position (Cut.outermost others offset) :=
            inductionHypothesis reachesOthers
        _ = source.position (piece.start + Cut.outermost others offset) :=
            position_of_cut within

/-- A line starts behind the last line feed, or else in front of all that is there. -/
theorem exists_lineStart (front : List Char) :
    ∃ lineStart,
      lineStart + distanceFromLineStart front.reverse = front.length ∧
      (lineStart = 0 ∨ front[lineStart - 1]? = some '\n') ∧
      '\n' ∉ front.drop lineStart := by
  induction front using List.reverseRecOn with
  | nil =>
      exact ⟨0, rfl, .inl rfl, List.not_mem_nil⟩
  | append_singleton front last inductionHypothesis =>
      by_cases isLineFeed : last = '\n'
      · refine ⟨front.length + 1, ?_, .inr ?_, ?_⟩ <;>
          simp [isLineFeed, distanceFromLineStart]
      · obtain ⟨lineStart, distance, startsLine, oneLine⟩ := inductionHypothesis
        refine ⟨lineStart, ?_, startsLine.imp_right ?_, ?_⟩
        · have goesOn :
              distanceFromLineStart (front ++ [last]).reverse =
                distanceFromLineStart front.reverse + 1 := by
            simp [distanceFromLineStart, isLineFeed]
          rw [goesOn, List.length_append, List.length_singleton]
          omega
        · intro isFeed
          rw [List.getElem?_append_left (List.getElem?_eq_some_iff.mp isFeed).1]
          exact isFeed
        · rw [List.drop_append_of_le_length (by omega)]
          simp [oneLine, Ne.symm isLineFeed]

/--
Positions compose. In a source that was not cut out of another, a line is one more than
the line feeds before the offset, and a column one more than the distance from where the
line starts. In a source that was cut out of another, with or without an origin of that
one, and in one that was cut out of cuts to any depth, a position is the one of the same
place in the outermost source.
-/
theorem positions_compose :
    (∀ (text name : String) (offset : Nat), offset ≤ text.length →
      ∃ lineStart ≤ offset,
        (lineStart = 0 ∨ text.toList[lineStart - 1]? = some '\n') ∧
        '\n' ∉ (text.toList.take offset).drop lineStart ∧
        ({ text := text, name := name } : Source).position offset =
          { file := name
            offset := offset
            line := 1 + (text.toList.take offset).count '\n'
            column := 1 + (offset - lineStart) }) ∧
    (∀ (source : Source) (piece : Cut) (offset : Nat), offset ≤ piece.length →
      (source.cut piece).position offset = source.position (piece.start + offset)) ∧
    ∀ (source : Source) (pieces : List Cut) (offset : Nat), Cut.Reaches pieces offset →
      (source.cutThrough pieces).position offset =
        source.position (Cut.outermost pieces offset) := by
  refine ⟨?_, fun _ _ _ => position_of_cut, fun _ _ _ => position_of_cutThrough⟩
  intro text name offset inside
  have frontLength : (text.toList.take offset).length = offset := by
    rw [List.length_take, String.length_toList, Nat.min_eq_left inside]
  obtain ⟨lineStart, distance, startsLine, oneLine⟩ := exists_lineStart (text.toList.take offset)
  rw [frontLength] at distance
  refine ⟨lineStart, by omega, startsLine.imp_right ?_, oneLine, ?_⟩
  · intro isFeed
    rw [List.getElem?_take] at isFeed
    split at isFeed
    · exact isFeed
    · cases isFeed
  · simp only [position, positionAfter, List.count_reverse, List.length_reverse, frontLength,
      Nat.sub_self, Position.mk.injEq, true_and]
    omega

/-- In the third line of three, in a piece of them and in a piece of that piece. -/
theorem positions_compose_in_third_line :
    (9 ≤ ("one\ntwo\nthree" : String).length ∧
      ∃ lineStart ≤ 9,
        ({ text := "one\ntwo\nthree", name := "whole" } : Source).position 9 =
          { file := "whole", offset := 9, line := 3, column := 1 + (9 - lineStart) }) ∧
    (5 ≤ (Cut.mk 4 9 "piece").length ∧
      (({ text := "one\ntwo\nthree", name := "whole" } : Source).cut ⟨4, 9, "piece"⟩).position 5 =
        { file := "whole", offset := 9, line := 3, column := 2 }) ∧
    (Cut.Reaches [⟨4, 9, "piece"⟩, ⟨2, 5, "inner"⟩] 3 ∧
      (({ text := "one\ntwo\nthree", name := "whole" } : Source).cutThrough
        [⟨4, 9, "piece"⟩, ⟨2, 5, "inner"⟩]).position 3 =
        { file := "whole", offset := 9, line := 3, column := 2 }) := by
  have reaches : Cut.Reaches [⟨4, 9, "piece"⟩, ⟨2, 5, "inner"⟩] 3 :=
    ⟨by decide, by decide, trivial⟩
  refine ⟨⟨by decide, ?_⟩, ⟨by decide, ?_⟩, reaches, ?_⟩
  · obtain ⟨lineStart, inside, -, -, places⟩ :=
      positions_compose.1 "one\ntwo\nthree" "whole" 9 (by decide)
    exact ⟨lineStart, inside, places.trans (by congr 1)⟩
  · exact (positions_compose.2.1 { text := "one\ntwo\nthree", name := "whole" }
      ⟨4, 9, "piece"⟩ 5 (by decide)).trans (by decide)
  · exact (positions_compose.2.2 { text := "one\ntwo\nthree", name := "whole" }
      [⟨4, 9, "piece"⟩, ⟨2, 5, "inner"⟩] 3 reaches).trans (by decide)

end Source

end DocMarkup
