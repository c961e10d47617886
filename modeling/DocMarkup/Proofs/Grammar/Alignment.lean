import DocMarkup.Grammar.Parser
import DocMarkup.Proofs.Compiler.Value
import DocMarkup.Proofs.Grammar.Counting

namespace DocMarkup

open Text

/-!
# Brackets that are counted and brackets that are read

The bracket that closes the current one can be found by counting, and it can be
found by reading a phrase up to it. A phrase reads code, targets, identifiers and
names of files as a whole, where the count goes on character by character, and it
reads a quote behind a bracket as the mark of a style. The two ways agree where
no such whole holds anything that the count looks at: every construct then ends
at the bracket that is counted for it, whatever is defined, and where nothing can
be read, the opening bracket and the one that closes it are both text.
-/

namespace Cursor

/-- What would be read as a whole at a cursor: code, a target, an identifier or a file. -/
def wholes (cursor : Cursor) : List String :=
  [cursor.inlineCode?, cursor.url?, cursor.link?, cursor.anchor?, cursor.image?].filterMap
    fun read => read.map (·.1)

/-- What one of the readers gives is among what would be read as a whole. -/
theorem mem_wholes
    {cursor next : Cursor}
    {reader : Option (String × Cursor)}
    {whole : String}
    (isReader :
      reader ∈ [cursor.inlineCode?, cursor.url?, cursor.link?, cursor.anchor?, cursor.image?])
    (read : reader = some (whole, next)) :
    whole ∈ cursor.wholes :=
  List.mem_filterMap.mpr ⟨reader, isReader, by rw [read, Option.map_some]⟩

/-- What is read at a cursor as one thing does not matter to the count. -/
structure ReadsAsCounted (cursor : Cursor) : Prop where
  wholes : ∀ whole ∈ cursor.wholes, IsUncountedText whole.toList
  style : ¬ '[' :: escapeQuotes <+: cursor.rest

end Cursor

/-- Between two offsets of a source, nothing that is read as one thing matters to the count. -/
def Source.CountsAlike (source : Source) (start stop : Nat) : Prop :=
  ∀ offset, offset < stop → start ≤ offset → (source.cursorAt offset).ReadsAsCounted

namespace Cursor

/-- What is inside the bracket that a cursor stands behind counts as it is read. -/
def ContentCountsAlike (cursor : Cursor) : Prop :=
  ∀ found ∈ cursor.balanced?, cursor.source.CountsAlike cursor.offset found.2.offset

instance (text : List Char) : Decidable (IsUncountedText text) :=
  have : Decidable (∀ character ∈ text, IsUncounted character) :=
    List.decidableBAll _ _
  have : Decidable (escapeQuotes <:+: text) :=
    List.instDecidableIsInfixOfDecidableEq _ _
  decidable_of_iff
    ((∀ character ∈ text, IsUncounted character) ∧ ¬ escapeQuotes <:+: text)
    ⟨fun both => ⟨both.1, both.2⟩, fun isUncounted => ⟨isUncounted.1, isUncounted.2⟩⟩

instance (cursor : Cursor) : Decidable cursor.ReadsAsCounted :=
  have : Decidable (∀ whole ∈ cursor.wholes, IsUncountedText whole.toList) :=
    List.decidableBAll _ _
  decidable_of_iff
    ((∀ whole ∈ cursor.wholes, IsUncountedText whole.toList) ∧
      ¬ '[' :: escapeQuotes <+: cursor.rest)
    ⟨fun both => ⟨both.1, both.2⟩, fun counted => ⟨counted.1, counted.2⟩⟩

instance (source : Source) (start stop : Nat) : Decidable (source.CountsAlike start stop) :=
  inferInstanceAs (Decidable (∀ offset, offset < stop → _))

instance (cursor : Cursor) : Decidable cursor.ContentCountsAlike :=
  inferInstanceAs (Decidable (∀ found ∈ cursor.balanced?, _))

/-! ## The way to the bracket that is counted -/

variable {cursor next after atBracket : Cursor} {depth laterDepth : Nat} {rest : List Char}

/--
From a cursor on, up to the bracket that is found by counting with some brackets open,
or up to the end of the text if none is found, all that is read counts alike.
-/
def CountsToEnd (depth : Nat) (cursor : Cursor) : Prop :=
  cursor.source.CountsAlike cursor.offset
    ((cursor.closingBracket? depth).elim cursor.source.text.length offset)

/--
Something ended as it does by the count: at the bracket that is found, or without one if
none is found.
-/
structure EndsAsCounted (depth : Nat) (cursor : Cursor) (ended : Bool × Cursor) : Prop where
  closed : ended.1 = (cursor.closingBracket? depth).isSome
  place : ∀ atBracket ∈ cursor.closingBracket? depth, ended.2 = atBracket

/-- Where the count goes on, what ends by it ends in the same way. -/
theorem CountsOn.endsAsCounted
    {ended : Bool × Cursor}
    (countsOn : CountsOn depth laterDepth cursor next)
    (counted : next.EndsAsCounted laterDepth ended) :
    cursor.EndsAsCounted depth ended := by
  constructor
  · rw [countsOn.closing]
    exact counted.closed
  · rw [countsOn.closing]
    exact counted.place

/-- A character is there as long as the text is not at its end. -/
theorem offset_lt_of_rest
    {first : Char}
    (remaining : cursor.rest = first :: rest) :
    cursor.offset < cursor.source.text.length := by
  rw [cursor.rest_eq] at remaining
  have notEmpty : cursor.source.text.toList.drop cursor.offset ≠ [] := by simp [remaining]
  rw [Ne, List.drop_eq_nil_iff, Nat.not_le, String.length_toList] at notEmpty
  exact notEmpty

namespace CountsToEnd

/-- Where the count goes on, what is left of the way counts alike. -/
theorem countsOn
    (alike : cursor.CountsToEnd depth)
    (countsOn : CountsOn depth laterDepth cursor next) :
    next.CountsToEnd laterDepth := by
  intro offset isBefore isFrom
  rw [← countsOn.closing] at isBefore
  rw [countsOn.source] at isBefore ⊢
  exact alike offset isBefore (Nat.le_trans countsOn.offset isFrom)

/-- The count passes something on the way. -/
theorem passes (alike : cursor.CountsToEnd depth) (passes : cursor.Passes next) :
    next.CountsToEnd depth :=
  alike.countsOn (passes.countsOn depth)

/-- Before the bracket, what is read counts alike. -/
theorem readsAsCounted
    {first : Char}
    (alike : cursor.CountsToEnd depth)
    (remaining : cursor.rest = first :: rest)
    (other : first ≠ ']') :
    cursor.ReadsAsCounted := by
  have isBefore :
      cursor.offset < (cursor.closingBracket? depth).elim cursor.source.text.length offset := by
    cases closes : cursor.closingBracket? depth with
    | none =>
        exact offset_lt_of_rest remaining
    | some atBracket =>
        obtain ⟨sameSource, notBefore⟩ := offset_le_of_closingBracket? closes
        refine Nat.lt_of_le_of_ne notBefore fun sameOffset => other ?_
        obtain ⟨behind, isClosing⟩ := exists_rest_of_closingBracket? closes
        rw [← eq_of_offset sameSource.symm sameOffset, remaining] at isClosing
        exact (List.cons.inj isClosing).1
  have counted := alike cursor.offset isBefore (Nat.le_refl _)
  rwa [← show cursor = cursor.source.cursorAt cursor.offset from eq_of_offset rfl rfl] at counted

/-- The way to the bracket that closes an opening one is part of the way. -/
theorem enclosed
    (alike : cursor.CountsToEnd depth)
    (remaining : cursor.rest = '[' :: rest) :
    (cursor.advance 1).CountsToEnd 0 := by
  have opened := alike.countsOn (.of_advance (closingBracket?_of_opening remaining))
  refine fun offset isBefore isFrom => opened offset (Nat.lt_of_lt_of_le isBefore ?_) isFrom
  have outer : (cursor.advance 1).closingBracket? (depth + 1) = _ :=
    Nat.zero_add (depth + 1) ▸ closingBracket?_add (cursor.advance 1) 0 depth
  rw [outer]
  cases closes : (cursor.advance 1).closingBracket? 0 with
  | none =>
      exact Nat.le_refl _
  | some inner =>
      cases closesOuter : (inner.advance 1).closingBracket? depth with
      | none =>
          obtain ⟨behind, isClosing⟩ := exists_rest_of_closingBracket? closes
          have inText := offset_lt_of_rest isClosing
          rw [(offset_le_of_closingBracket? closes).1] at inText
          simpa [closesOuter] using Nat.le_of_lt inText
      | some last =>
          have behind := (offset_le_of_closingBracket? closesOuter).2
          simpa [closesOuter] using Nat.le_trans (Nat.le_add_right ..) behind

end CountsToEnd

/--
Counting from a cursor leads to a bracket, and what is on the way to it counts as it is read.
-/
structure IsClosedAt (cursor atBracket : Cursor) : Prop where
  closing : cursor.closingBracket? 0 = some atBracket
  alike : cursor.CountsToEnd 0

namespace IsClosedAt

/-- Where the count goes on, the same bracket is found. -/
theorem passes (closed : IsClosedAt cursor atBracket) (passes : cursor.Passes next) :
    IsClosedAt next atBracket where
  closing := (passes.closing 0).symm.trans closed.closing
  alike := closed.alike.passes passes

/-- The bracket is there, and can be read. -/
theorem close?_eq (closed : IsClosedAt cursor atBracket) :
    atBracket.close? = some (atBracket.advance 1) := by
  obtain ⟨rest, remaining⟩ := exists_rest_of_closingBracket? closed.closing
  exact Reads.close?_eq (.of_rest remaining)

/-- What ends behind the bracket that is counted ends behind this one. -/
theorem eq_of_closesBehind
    (closed : IsClosedAt cursor atBracket)
    (closes : cursor.ClosesBehind next) :
    next = atBracket.advance 1 := by
  obtain ⟨found, isFound, rfl⟩ := closes
  rw [Option.some.inj (isFound.symm.trans closed.closing)]

/-- What is read up to and through a bracket is closed at that bracket, if it counts alike. -/
theorem exists_of_balancedThrough?
    {content : String}
    (alike : cursor.ContentCountsAlike)
    (read : cursor.balancedThrough? = some (content, next)) :
    ∃ atBracket, IsClosedAt cursor atBracket ∧ next = atBracket.advance 1 := by
  cases balanced : cursor.balanced? with
  | none =>
      simp [balancedThrough?, balanced] at read
  | some found =>
      have isFound := closingBracket?_of_balanced? balanced
      have closed : IsClosedAt cursor found.2 := by
        refine ⟨isFound, ?_⟩
        rw [CountsToEnd, isFound]
        exact alike found balanced
      exact ⟨found.2, closed, closed.eq_of_closesBehind (.of_balancedThrough? read)⟩

end IsClosedAt

/-! ## What is read as a whole -/

namespace Passes

/-- The mark of a style does not count, unless it is the first of three quotes. -/
theorem style?
    {name : String}
    (counted : cursor.ReadsAsCounted)
    (read : cursor.style? = some (name, next)) :
    (cursor.advance 1).Passes next := by
  unfold Cursor.style? at read
  split at read
  next mark rest remaining =>
    obtain ⟨style, isStyle, shape⟩ := Option.map_eq_some_iff.mp read
    obtain ⟨_, rfl⟩ := Prod.mk.inj shape
    have isUncounted : IsUncounted mark := by
      refine ⟨?_, ?_, ?_⟩ <;> rintro rfl <;> simp [styleElement?, singleQuote] at isStyle
    have behind : (cursor.advance 1).rest = mark :: rest := by
      rw [rest_advance, remaining, List.drop_one, List.tail_cons]
    have noQuotes : ¬ escapeQuotes <+: (cursor.advance 1).rest := by
      intro quoted
      apply counted.style
      rw [remaining, List.cons_prefix_cons]
      exact ⟨rfl, by rwa [behind] at quoted⟩
    rw [← advance_advance cursor 1 1]
    exact .of_advance fun _ => closingBracket?_of_uncounted behind isUncounted noQuotes
  next => simp at read

/-- The characters of a target do not count, if no bracket and no quotes are among them. -/
theorem target?
    {target : String}
    (passes : cursor.Passes next)
    (isUncounted : IsUncountedText target.toList)
    (read : next.runOf? isTargetCharacter = some (target, after)) :
    cursor.Passes after := by
  obtain ⟨reads, _, stops⟩ := reads_of_runOf? read
  refine passes.trans (.of_readsUncounted reads isUncounted fun isQuote => ?_)
  obtain ⟨rest, remaining⟩ := List.head?_eq_some_iff.mp isQuote
  rw [remaining] at stops
  cases stops

/-- Behind the bracket that opens a link to an address, the count goes on behind that. -/
theorem url?
    {target : String}
    (counted : cursor.ReadsAsCounted)
    (read : cursor.url? = some (target, next)) :
    (cursor.advance 1).Passes next := by
  have isUncounted := counted.wholes target (Cursor.mem_wholes (by simp) read)
  obtain ⟨behind, opened, reads⟩ := Option.bind_eq_some_iff.mp read
  exact (Passes.literal? ['@'] rfl (by decide) opened).target? isUncounted reads

/-- The same holds for a link inside the document. -/
theorem link?
    {target : String}
    (counted : cursor.ReadsAsCounted)
    (read : cursor.link? = some (target, next)) :
    (cursor.advance 1).Passes next := by
  have isUncounted := counted.wholes target (Cursor.mem_wholes (by simp) read)
  obtain ⟨behindGap, spaced, reads⟩ := Option.bind_eq_some_iff.mp read
  obtain ⟨behind, opened, gap⟩ := Option.bind_eq_some_iff.mp spaced
  obtain ⟨⟨blanks, found⟩, run, rfl⟩ := Option.map_eq_some_iff.mp gap
  obtain ⟨readsBlanks, areBlank, _⟩ := reads_of_runOf? run
  refine .target? (.trans (.literal? ['l', 'i', 'n', 'k'] rfl (by decide) opened)
    (.of_reads readsBlanks ?_)) isUncounted reads
  intro character isIn
  refine isUncounted_of_isBlank ?_
  obtain isSpace | isLineFeed := Bool.or_eq_true .. ▸ List.all_eq_true.mp areBlank character isIn
  · exact isBlank_of_isHorizontal character isSpace
  · rw [beq_iff_eq.mp isLineFeed]
    decide

/-- Code goes on up to two quotes. -/
private theorem exists_codeQuotes
    {characters : List Char}
    {length : Nat}
    (found : distanceToCodeQuotes? characters = some length) :
    ∃ behind, characters = characters.take length ++ codeQuote :: codeQuote :: behind := by
  induction characters generalizing length with
  | nil =>
      simp [distanceToCodeQuotes?] at found
  | cons first rest inductionHypothesis =>
      unfold distanceToCodeQuotes? at found
      split at found
      next quoted =>
        simp only [Bool.and_eq_true, beq_iff_eq] at quoted
        obtain ⟨behind, remaining⟩ := List.head?_eq_some_iff.mp quoted.2
        obtain rfl := Option.some.inj found
        exact ⟨behind, by rw [quoted.1, remaining, List.take_zero, List.nil_append]⟩
      next =>
        obtain ⟨fewer, further, rfl⟩ := Option.map_eq_some_iff.mp found
        obtain ⟨behind, remaining⟩ := inductionHypothesis further
        exact ⟨behind, by rw [List.take_succ_cons, List.cons_append, ← remaining]⟩

/-- Code stands between as many quotes on either side. -/
private theorem exists_reads_of_inlineCode?
    {code : String}
    (read : cursor.inlineCode? = some (code, next)) :
    ∃ quotes,
      quotes.head? = some codeQuote ∧ (∀ character ∈ quotes, character = codeQuote) ∧
        cursor.Reads (quotes ++ (code.toList ++ quotes)) next := by
  rcases Option.or_eq_some_iff.mp read with doubly | ⟨_, singly⟩
  · unfold doublyQuotedCode? at doubly
    split at doubly
    next first second character rest remaining =>
      split at doubly
      next quoted =>
        simp only [Bool.and_eq_true, beq_iff_eq] at quoted
        obtain ⟨length, found, shape⟩ := Option.map_eq_some_iff.mp doubly
        obtain ⟨behind, split⟩ := exists_codeQuotes found
        obtain ⟨rfl, rfl⟩ := Prod.mk.inj shape
        have isWhole :
            cursor.rest =
              ([codeQuote, codeQuote] ++
                ((character :: rest.take length) ++ [codeQuote, codeQuote])) ++ behind := by
          rw [remaining, quoted.1, quoted.2]
          simp [← split]
        have isInside : (rest.take length).length = length := by
          have lengths := congrArg List.length split
          simp only [List.length_append, List.length_take, List.length_cons] at lengths ⊢
          omega
        have reads := Reads.of_rest isWhole
        simp only [List.length_append, List.length_cons, List.length_nil, isInside] at reads
        rw [show 0 + 1 + 1 + (length + 1 + (0 + 1 + 1)) = length + 5 by omega] at reads
        refine ⟨[codeQuote, codeQuote], rfl, by simp, ?_⟩
        rwa [String.toList_ofList]
      next => simp at doubly
    next => simp at doubly
  · unfold singlyQuotedCode? at singly
    split at singly
    next inside opened =>
      split at singly
      next found atQuote run =>
        obtain ⟨last, closed, shape⟩ := Option.map_eq_some_iff.mp singly
        obtain ⟨rfl, rfl⟩ := Prod.mk.inj shape
        exact
          ⟨[codeQuote], rfl, by simp,
            (reads_of_character? opened).append
              ((reads_of_runOf? run).1.append (reads_of_character? closed))⟩
      next => simp at singly
    next => simp at singly

/-- The count goes on behind code in a line. -/
theorem inlineCode?
    {code : String}
    (counted : cursor.ReadsAsCounted)
    (read : cursor.inlineCode? = some (code, next)) :
    cursor.Passes next := by
  have isUncounted := counted.wholes code (Cursor.mem_wholes (by simp) read)
  obtain ⟨quotes, first, areQuotes, reads⟩ := exists_reads_of_inlineCode? read
  obtain ⟨inside, readsOpening, readsInside⟩ := reads.split
  obtain ⟨atQuotes, readsCode, readsClosing⟩ := readsInside.split
  have quotesPass {before behind : Cursor}
      (readsQuotes : before.Reads quotes behind) :
      before.Passes behind := by
    refine .of_reads readsQuotes fun character isIn => ?_
    rw [areQuotes character isIn]
    decide
  have noQuote : atQuotes.rest.head? ≠ some singleQuote := by
    rw [readsClosing.rest_eq, List.head?_append, first, Option.some_or]
    decide
  exact
    (quotesPass readsOpening).trans
      ((Passes.of_readsUncounted readsCode isUncounted noQuote).trans (quotesPass readsClosing))

/-- Spaces and tabs do not count. -/
private theorem of_reads_horizontal
    {blanks : List Char}
    (reads : cursor.Reads blanks next)
    (areSpaces : blanks.all isHorizontal = true) :
    cursor.Passes next :=
  .of_reads reads fun character isIn =>
    isUncounted_of_isBlank
      (isBlank_of_isHorizontal character (List.all_eq_true.mp areSpaces character isIn))

/-- A text with spaces and tabs behind it does not count. -/
private theorem of_reads_of_blanksBehind
    {text blanks : List Char}
    (reads : cursor.Reads (text ++ blanks) next)
    (isUncounted : IsUncountedText text)
    (areSpaces : blanks.all isHorizontal = true)
    (noQuote : next.rest.head? ≠ some singleQuote) :
    cursor.Passes next := by
  obtain ⟨behindText, readsText, readsBlanks⟩ := reads.split
  refine (Passes.of_readsUncounted readsText isUncounted ?_).trans
    (of_reads_horizontal readsBlanks areSpaces)
  rw [readsBlanks.rest_eq]
  cases blanks with
  | nil =>
      exact noQuote
  | cons first others =>
      rw [List.all_cons, Bool.and_eq_true] at areSpaces
      rintro isQuote
      rw [Option.some.inj isQuote] at areSpaces
      exact absurd areSpaces.1 (by decide)

/-- The file of an image is what stands between blanks, or the last of nothing but blanks. -/
private theorem of_imageFile?
    {content file : List Char}
    (isFile : imageFile? content = some file)
    (isUncounted : IsUncountedText file)
    (reads : cursor.Reads content next)
    (noQuote : next.rest.head? ≠ some singleQuote) :
    cursor.Passes next := by
  rw [← List.takeWhile_append_dropWhile (p := isHorizontal) (l := content)] at reads
  obtain ⟨atFile, readsFront, readsRest⟩ := reads.split
  have frontPasses := of_reads_horizontal readsFront List.all_takeWhile
  refine frontPasses.trans ?_
  unfold imageFile? at isFile
  simp only at isFile
  split at isFile
  next allBlank =>
    rw [List.isEmpty_iff.mp allBlank] at readsRest
    rw [readsRest.unique (.nil atFile)]
    exact .refl atFile
  next =>
    obtain rfl := Option.some.inj isFile
    rw [← List.reverse_reverse (content.dropWhile isHorizontal),
      ← List.takeWhile_append_dropWhile (p := isHorizontal)
        (l := (content.dropWhile isHorizontal).reverse), List.reverse_append] at readsRest
    refine of_reads_of_blanksBehind readsRest isUncounted ?_ noQuote
    rw [List.all_reverse]
    exact List.all_takeWhile

end Passes

namespace ClosesBehind

/-- An anchor ends behind the bracket that is counted for it. -/
theorem of_anchor?
    {identifier : String}
    (counted : cursor.ReadsAsCounted)
    (read : cursor.anchor? = some (identifier, next)) :
    (cursor.advance 1).ClosesBehind next := by
  have isUncounted := counted.wholes identifier (Cursor.mem_wholes (by simp) read)
  unfold Cursor.anchor? at read
  split at read
  next found behind run =>
    obtain ⟨after, closes, shape⟩ := Option.map_eq_some_iff.mp read
    obtain ⟨rfl, rfl⟩ := Prod.mk.inj shape
    obtain ⟨front, opened, reads⟩ := Option.bind_eq_some_iff.mp run
    have toBracket : (cursor.advance 1).Passes behind.skipHorizontal :=
      ((Passes.literal? ['#'] rfl (by decide) opened).target?
        isUncounted reads).skipHorizontal
    exact .of_passes toBracket (.of_close? closes)
  next => simp at read

/-- So does an image. -/
theorem of_image?
    {file : String}
    (counted : cursor.ReadsAsCounted)
    (read : cursor.image? = some (file, next)) :
    (cursor.advance 1).ClosesBehind next := by
  have isUncounted := counted.wholes file (Cursor.mem_wholes (by simp) read)
  unfold Cursor.image? at read
  split at read
  next front opened =>
    simp only at read
    split at read
    next name after isFile closes =>
      obtain ⟨rfl, rfl⟩ := Prod.mk.inj (Option.some.inj read)
      rw [String.toList_ofList] at isUncounted
      have noQuote :
          (front.advance (front.run fun character => character != ']').length).rest.head? ≠
            some singleQuote := by
        rw [(reads_of_character? closes).rest_eq, List.head?_append, List.head?_cons,
          Option.some_or]
        decide
      have toBracket :=
        (Passes.literal? ['$'] rfl (by decide) opened).trans
          (Passes.of_imageFile? isFile isUncounted
            (front.reads_skip fun character => character != ']').1 noQuote)
      exact .of_passes toBracket (.of_close? closes)
    next => simp at read
  next => simp at read

/-- So does a line break. -/
theorem of_lineBreak? (read : cursor.lineBreak? = some next) :
    (cursor.advance 1).ClosesBehind next := by
  obtain ⟨behind, opened, closes⟩ := Option.bind_eq_some_iff.mp read
  have toBracket :=
    (Passes.literal? ['b', 'r'] rfl (by decide) opened).skipHorizontal
  exact .of_passes toBracket (.of_close? closes)

/-- So does a comment. -/
theorem of_comment? (read : cursor.comment? = some next) :
    (cursor.advance 1).ClosesBehind next := by
  obtain ⟨⟨content, after⟩, balanced, rfl⟩ := Option.map_eq_some_iff.mp read
  obtain ⟨behind, opened, through⟩ := Option.bind_eq_some_iff.mp balanced
  have toContent := Passes.literal? ['/'] rfl (by decide) opened
  exact .of_passes toContent (.of_balancedThrough? through)

end ClosesBehind

end Cursor

/-! ## Rules -/

/-- The phrases in brackets that parsers read end as they do by the count. -/
def Inner.FollowsCount (inner : Inner) : Prop :=
  ∀ (depth : Nat) (buffer : String) (cursor : Cursor),
    cursor.CountsToEnd depth →
    Compile.Gives (inner.phraseFrom .bracketed depth buffer cursor) (cursor.EndsAsCounted depth)

/-- A rule that applies ends behind the bracket that is counted from a cursor on. -/
def Compile.EndsBehind (cursor : Cursor) (computation : Compile (Option Cursor)) : Prop :=
  Gives computation fun found => ∀ next ∈ found, cursor.ClosesBehind next

namespace Compile.EndsBehind

variable {cursor next : Cursor} {computation : Compile (Option Cursor)}

/-- A rule that does not apply ends nowhere. -/
theorem none (cursor : Cursor) : EndsBehind cursor (Pure.pure Option.none) :=
  Gives.pure (by simp)

/-- A rule may end where the bracket is read. -/
theorem some (closes : cursor.ClosesBehind next) :
    EndsBehind cursor (Pure.pure (Option.some next)) :=
  Gives.pure (by simpa using closes)

/-- What follows a computation of which nothing is known. -/
theorem then_
    {first : Compile α}
    {next : α → Compile (Option Cursor)}
    (nextEnds : ∀ value, EndsBehind cursor (next value)) :
    EndsBehind cursor (first >>= next) :=
  Gives.then_ nextEnds

/-- What follows a rule that leads to the bracket itself. -/
theorem bind
    {first : Compile (Option Cursor)}
    {next : Option Cursor → Compile (Option Cursor)}
    (firstGives :
      Gives first fun found => ∀ next ∈ found, cursor.closingBracket? 0 = Option.some next)
    (notApplied : EndsBehind cursor (next Option.none))
    (applied :
      ∀ atBracket, cursor.closingBracket? 0 = Option.some atBracket →
        EndsBehind cursor (next (Option.some atBracket))) :
    EndsBehind cursor (first >>= next) := by
  refine Gives.bind firstGives ?_
  rintro (_ | atBracket) found
  · exact notApplied
  · exact applied atBracket (found atBracket rfl)

/-- It may read the bracket that it is led to. -/
theorem close
    {atBracket : Cursor}
    (found : cursor.closingBracket? 0 = Option.some atBracket) :
    EndsBehind cursor (Pure.pure atBracket.close?) :=
  Gives.pure fun _ closes => .of_closingBracket? found closes

/-- Passing something first, a rule ends behind the same bracket. -/
theorem of_passes (passes : cursor.Passes next) (ends : EndsBehind next computation) :
    EndsBehind cursor computation :=
  fun workspace found after ended last isLast =>
    .of_passes passes (ends workspace found after ended last isLast)

/-- Of rules that end behind the bracket, one does if any applies. -/
theorem firstOf
    {rules : List Rule}
    {start : Cursor}
    (rulesEnd : ∀ rule ∈ rules, EndsBehind cursor (rule start)) :
    EndsBehind cursor (Compile.firstOf rules start) := by
  induction rules with
  | nil =>
      exact none cursor
  | cons rule others inductionHypothesis =>
      rw [List.forall_mem_cons] at rulesEnd
      refine Gives.bind (Gives.attempt rulesEnd.1) ?_
      rintro (_ | next) closes
      · exact inductionHypothesis rulesEnd.2
      · exact some (closes next rfl)

/-- A rule leads behind a bracket that is known to be the one counted. -/
theorem goesTo
    {atBracket : Cursor}
    (ends : EndsBehind cursor computation)
    (closed : cursor.IsClosedAt atBracket) :
    GoesTo computation (atBracket.advance 1) :=
  fun workspace found after ended next isNext =>
    closed.eq_of_closesBehind (ends workspace found after ended next isNext)

end Compile.EndsBehind

namespace Phrase

open Compile Cursor

variable {inner : Inner} {cursor next atBracket : Cursor} {name : String}
  {attributes : List Attribute}

/-- A phrase in brackets ends at its bracket, also if it may not be nested any deeper. -/
theorem nested_gives (follows : inner.FollowsCount) (alike : cursor.CountsToEnd 0) :
    Gives (nested inner cursor) fun found =>
      ∀ next ∈ found, cursor.closingBracket? 0 = some next := by
  refine .then_ fun known => ?_
  split
  · exact .pure (by simp)
  refine .then_ fun entered => ?_
  split
  · have phraseGives :
        Gives (thenAlways (inner.phrase .bracketed cursor) leavePhrase) (cursor.EndsAsCounted 0) :=
      (follows 0 "" cursor alike).thenAlways leavePhrase
    refine Gives.bind phraseGives ?_
    rintro ⟨closed, next⟩ counted
    cases closed with
    | true =>
        obtain ⟨atBracket, found⟩ := Option.isSome_iff_exists.mp counted.closed.symm
        refine .pure fun _ isNext => ?_
        rw [← Option.some.inj isNext, found, ← counted.place atBracket found]
    | false =>
        exact .then_ fun _ => .pure (by simp)
  · split
    next content next balanced =>
      exact .pure fun _ isNext => by
        rw [← Option.some.inj isNext, closingBracket?_of_balanced? balanced]
    next =>
      exact .then_ fun _ => .pure (by simp)

/-- It leads to the bracket that is known to be the one counted. -/
theorem nested_goesTo
    (follows : inner.FollowsCount)
    (closed : cursor.IsClosedAt atBracket) :
    GoesTo (nested inner cursor) atBracket :=
  fun workspace found after ended next isNext =>
    Option.some.inj
      ((nested_gives follows closed.alike workspace found after ended next isNext).symm.trans
        closed.closing)

/-- Reading the bracket leads behind it. -/
theorem close_goesTo (closed : cursor.IsClosedAt atBracket) :
    GoesTo (pure atBracket.close?) (atBracket.advance 1) := by
  rw [closed.close?_eq]
  exact .some

/-- An element around a phrase ends behind the bracket. -/
theorem bracketed_endsBehind (follows : inner.FollowsCount) (alike : cursor.CountsToEnd 0) :
    EndsBehind cursor (bracketed inner name attributes cursor) := by
  refine .then_ fun _ => .bind (nested_gives follows alike) (.none cursor) fun _ found => ?_
  exact .then_ fun _ => .close found

/-- So does a link, with or without content. -/
theorem linked_endsBehind
    {key target : String}
    (follows : inner.FollowsCount)
    (alike : cursor.CountsToEnd 0) :
    EndsBehind cursor (linked inner name key target cursor) := by
  have toContent := (Passes.refl cursor).skipBlank
  refine .of_passes toContent ?_
  unfold linked
  simp only
  split
  · exact .then_ fun _ => Gives.pure fun _ closes => .of_close? closes
  · exact bracketed_endsBehind follows (alike.passes toContent)

/-- A conditional phrase ends behind the bracket that closes its content, shown or not. -/
theorem conditional_endsBehind_of_content
    {afterName : Cursor}
    (follows : inner.FollowsCount)
    (read : cursor.conditional? = some (name, afterName))
    (alike : afterName.skipHorizontal.CountsToEnd 0) :
    EndsBehind afterName.skipHorizontal (conditional inner cursor) := by
  unfold conditional
  rw [read]
  refine .then_ fun _ => ?_
  split
  · exact .bind (nested_gives follows alike) (.none _) fun _ found => .close found
  · refine Gives.pure fun next found => ?_
    obtain ⟨⟨content, after⟩, through, rfl⟩ := Option.map_eq_some_iff.mp found
    exact .of_balancedThrough? through

/-! ### Everything that an opening bracket may start -/

section Elements

variable (alike : (cursor.advance 1).CountsToEnd 0) (counted : cursor.ReadsAsCounted)
  (follows : inner.FollowsCount)

theorem comment_endsBehind : EndsBehind (cursor.advance 1) (comment cursor) :=
  .pure fun _ read => .of_comment? read

theorem lineBreak_endsBehind : EndsBehind (cursor.advance 1) (lineBreak cursor) := by
  unfold lineBreak
  split
  next next read =>
    exact .then_ fun _ => .some (.of_lineBreak? read)
  next => exact .none _

include counted in
theorem anchor_endsBehind : EndsBehind (cursor.advance 1) (anchor cursor) := by
  unfold anchor
  split
  next identifier next read =>
    exact .then_ fun _ => .some (.of_anchor? counted read)
  next => exact .none _

include counted in
theorem image_endsBehind : EndsBehind (cursor.advance 1) (image cursor) := by
  unfold image
  split
  next file next read =>
    exact .then_ fun _ => .some (.of_image? counted read)
  next => exact .none _

include alike counted follows in
theorem styled_endsBehind : EndsBehind (cursor.advance 1) (styled inner cursor) := by
  unfold styled
  split
  next name next read =>
    have passes := Passes.style? counted read
    exact .of_passes passes (bracketed_endsBehind follows (alike.passes passes))
  next => exact .none _

include alike counted follows in
theorem url_endsBehind : EndsBehind (cursor.advance 1) (url inner cursor) := by
  unfold url
  split
  next target next read =>
    have passes := Passes.url? counted read
    exact .of_passes passes (linked_endsBehind follows (alike.passes passes))
  next => exact .none _

include alike counted follows in
theorem link_endsBehind : EndsBehind (cursor.advance 1) (link inner cursor) := by
  unfold link
  split
  next target next read =>
    have passes := Passes.link? counted read
    exact .of_passes passes (linked_endsBehind follows (alike.passes passes))
  next => exact .none _

include alike follows in
theorem footnote_endsBehind : EndsBehind (cursor.advance 1) (footnote inner cursor) := by
  unfold footnote
  split
  next next read =>
    have literal := (Option.filter_eq_some_iff.mp read).1
    have passes : (cursor.advance 1).Passes next.skipBlank :=
      .skipBlank
        (.literal? ['f', 'o', 'o', 't', 'n', 'o', 't', 'e'] rfl (by decide) literal)
    exact .of_passes passes (bracketed_endsBehind follows (alike.passes passes))
  next => exact .none _

include alike follows in
theorem conditional_endsBehind : EndsBehind (cursor.advance 1) (conditional inner cursor) := by
  cases read : cursor.conditional? with
  | none =>
      unfold conditional
      rw [read]
      exact .none _
  | some found =>
      obtain ⟨front, literal, named⟩ := Option.bind_eq_some_iff.mp read
      have passes : (cursor.advance 1).Passes found.2.skipHorizontal :=
        ((Passes.literal? ['?'] rfl (by decide) literal).skipHorizontal.name?
          named).skipHorizontal
      exact .of_passes passes
        (conditional_endsBehind_of_content follows read (alike.passes passes))

theorem templateCall_endsBehind : EndsBehind (cursor.advance 1) (templateCall inner cursor) := by
  unfold templateCall
  split
  next => exact .none _
  next name afterName read =>
    split
    next => exact .none _
    next arguments next through =>
      have closes : (cursor.advance 1).ClosesBehind next :=
        .of_passes (.templateCall? read) (.of_balancedThrough? through)
      refine .then_ fun state => ?_
      split <;> exact .then_ fun _ => .some closes

include alike counted follows in
/-- Whatever an opening bracket starts, it ends behind the bracket that is counted for it. -/
theorem elements_endBehind :
    ∀ rule ∈ elements inner, EndsBehind (cursor.advance 1) (rule cursor) := by
  simp only [elements, List.forall_mem_cons]
  exact
    ⟨comment_endsBehind, styled_endsBehind alike counted follows,
      url_endsBehind alike counted follows, link_endsBehind alike counted follows,
      anchor_endsBehind counted, image_endsBehind counted,
      footnote_endsBehind alike follows, lineBreak_endsBehind,
      conditional_endsBehind alike follows, templateCall_endsBehind, by simp⟩

end Elements

/-- Code and markup that is passed through do not count; if there is none, that was tried. -/
private theorem quotations_give (counted : cursor.ReadsAsCounted) :
    Gives (firstOf quotations cursor) fun found =>
      (∀ next ∈ found, cursor.Passes next) ∧ (found = none → cursor.rawEscape? = none) := by
  have codeGives :
      Gives (inlineCode cursor) fun found => ∀ next ∈ found, cursor.Passes next := by
    unfold inlineCode
    split
    next code next read =>
      exact .then_ fun _ => .pure (by simpa using Passes.inlineCode? counted read)
    next => exact .pure (by simp)
  have rawGives :
      Gives (rawEscape cursor) fun found =>
        (∀ next ∈ found, cursor.Passes next) ∧ (found = none → cursor.rawEscape? = none) := by
    unfold rawEscape
    split
    next content next read =>
      obtain ⟨count, rfl, closing⟩ := exists_advance_of_rawEscape? read
      exact .then_ fun _ => .pure (by simpa using Passes.of_advance closing)
    next notRead => exact .pure ⟨by simp, fun _ => notRead⟩
  refine Gives.bind codeGives.attempt ?_
  rintro (_ | next) passes
  · refine Gives.bind rawGives.attempt ?_
    rintro (_ | next) ⟨passes, notRead⟩
    · exact .pure ⟨by simp, fun _ => notRead rfl⟩
    · exact .pure ⟨passes, by simp⟩
  · exact .pure ⟨passes, by simp⟩

/-- A phrase in brackets does not stop at a line feed. -/
private theorem stopsAtLineFeed_gives :
    Gives (stopsAtLineFeed .bracketed cursor) (· = false) :=
  .pure rfl

section Steps

variable {depth laterDepth : Nat} {buffer : String} {first : Char} {rest : List Char}
  (follows : inner.FollowsCount) (alike : cursor.CountsToEnd depth)

include follows alike

/-- What is read where the count goes on ends as it does by the count from before. -/
private theorem goOn
    (buffer : String)
    (countsOn : CountsOn depth laterDepth cursor next) :
    Gives (inner.phraseFrom .bracketed laterDepth buffer next) (cursor.EndsAsCounted depth) :=
  fun workspace ended after reached =>
    countsOn.endsAsCounted
      (follows laterDepth buffer next (alike.countsOn countsOn) workspace ended after reached)

/-- A name does not count, also if it is that of a macro. -/
private theorem name_gives
    {word : String}
    (read : cursor.name? = some (word, next)) :
    Gives (Phrase.name inner .bracketed depth buffer cursor word next)
      (cursor.EndsAsCounted depth) := by
  have countsOn := ((Passes.refl cursor).name? read).countsOn depth
  refine .then_ fun _ => ?_
  split
  · exact .then_ fun _ => .then_ fun _ => goOn follows alike "" countsOn
  · exact goOn follows alike _ countsOn

/-- Text that means nothing does not count either. -/
private theorem plain_gives
    (remaining : cursor.rest = first :: rest)
    (isUncounted : IsUncounted first)
    (noQuotes : ¬ escapeQuotes <+: cursor.rest) :
    Gives (plain inner .bracketed depth buffer cursor first) (cursor.EndsAsCounted depth) := by
  unfold plain
  split
  next run next read =>
    obtain ⟨reads, arePlain, _⟩ := reads_of_runOf? read
    refine goOn follows alike _ ((Passes.of_reads reads fun character isIn => ?_).countsOn depth)
    have isPlain := List.all_eq_true.mp arePlain character isIn
    refine ⟨⟨?_, ?_, ?_⟩, ?_⟩ <;> rintro rfl <;> simp [Cursor.isPlain] at isPlain
  next =>
    exact goOn follows alike _
      (.of_advance (closingBracket?_of_uncounted remaining isUncounted noQuotes))

/-- If the parsers inside follow the count, so does a step. -/
theorem step_gives :
    Gives (step inner .bracketed depth buffer cursor) (cursor.EndsAsCounted depth) := by
  unfold step
  split
  next atEnd =>
    refine .then_ fun _ => .pure ?_
    constructor <;> simp [closingBracket?_of_end atEnd]
  next first rest remaining =>
    simp only [beq_iff_eq]
    by_cases isClosing : first = ']'
    · rw [if_pos isClosing]
      subst isClosing
      split
      next isInnermost =>
        subst isInnermost
        refine .then_ fun _ => .pure ?_
        constructor <;> simp [closingBracket?_of_closing remaining]
      next isOuter =>
        obtain ⟨outer, rfl⟩ := Nat.exists_eq_add_one_of_ne_zero isOuter
        exact goOn follows alike _ (.of_advance (closingBracket?_of_closing_succ remaining))
    have counted := alike.readsAsCounted remaining isClosing
    rw [if_neg isClosing]
    by_cases isLineFeed : first = '\n'
    · rw [if_pos isLineFeed]
      subst isLineFeed
      have passes : cursor.Passes (cursor.advance 1) :=
        .of_reads (.of_cons remaining) (List.forall_mem_singleton.mpr (by decide))
      refine Gives.bind stopsAtLineFeed_gives ?_
      rintro _ rfl
      exact goOn follows alike _ (passes.countsOn depth)
    rw [if_neg isLineFeed]
    by_cases isOpening : first = '['
    · rw [if_pos isOpening]
      subst isOpening
      have elementsEnd := elements_endBehind (alike.enclosed remaining) counted follows
      refine .then_ fun _ => Gives.bind (EndsBehind.firstOf elementsEnd) ?_
      rintro (_ | next) closes
      · exact goOn follows alike _ (.of_advance (closingBracket?_of_opening remaining))
      · exact goOn follows alike _ (.of_enclosed remaining (closes next rfl))
    rw [if_neg isOpening]
    by_cases isBackslash : first = '\\'
    · rw [if_pos isBackslash]
      subst isBackslash
      exact goOn follows alike _ (.of_advance (closingBracket?_of_backslash remaining))
    have isUncounted : IsUncounted first :=
      ⟨isOpening, isClosing, isBackslash⟩
    rw [if_neg isBackslash]
    split
    next quoted =>
      refine .then_ fun _ => Gives.bind (quotations_give counted) ?_
      rintro (_ | next) ⟨passes, notRead⟩
      · refine goOn follows alike _ (.of_advance ?_)
        by_cases isQuote : first = singleQuote
        · subst isQuote
          exact closingBracket?_of_unpaired remaining (notRead rfl)
        · refine closingBracket?_of_uncounted remaining isUncounted fun quotes => isQuote ?_
          rw [remaining] at quotes
          exact (List.cons_prefix_cons.mp quotes).1.symm
      · exact goOn follows alike _ ((passes next rfl).countsOn depth)
    next notQuoted =>
      split
      next word next read => exact name_gives follows alike read
      next =>
        refine plain_gives follows alike remaining isUncounted fun quotes => notQuoted ?_
        rw [List.isPrefixOf_iff_prefix.mpr quotes, Bool.or_true]

end Steps

end Phrase

/-- The parsers follow the count, however many steps they may take. -/
theorem Inner.within_followsCount (environment : Environment) (steps : Nat) :
    (Inner.within environment steps).FollowsCount := by
  induction steps with
  | zero =>
      exact fun _ _ _ _ => .throw _
  | succ steps inductionHypothesis =>
      intro depth buffer cursor alike
      exact Phrase.step_gives inductionHypothesis alike

end DocMarkup
