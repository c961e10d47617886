import DocMarkup.Proofs.Written.ListTree

namespace DocMarkup

/-!
# Nesting by indentation

A tree nests items by their indentation if every list is inside the nearest earlier
item that is indented less, and if an item joins a list that is open exactly when
both are indented alike. The lists that are open after some items are indented less
and less from the inside, and the item that is open in each of them is the nearest
one for what could be inside it. This is kept by every item.
-/

/-- The last of some items that is indented less than given. -/
def nearestNarrower? (items : List NumberedItem) (width : Nat) : Option NumberedItem :=
  items.reverse.find? fun earlier => earlier.1.width < width

/--
An item joins a list that was open before it exactly if both are indented alike, and
opens a list if there is no such list.
-/
structure Place.Follows (later earlier : Place) : Prop where
  joins :
    ∀ level ∈ earlier.levels,
      later.level.opener = level.opener ↔ level.opener.1.width = later.item.1.width
  opens :
    (∀ level ∈ earlier.levels, level.opener.1.width ≠ later.item.1.width) →
      later.level.opener = later.item

/-- Items are nested in a tree by their indentation. -/
structure ListTree.Nests (tree : ListTree) (items : List ListItem) : Prop where
  /-- Every item has one place, and they come in their order. -/
  inOrder : tree.places.map Place.item = items.zipIdx
  /-- The list of an item is inside the nearest item before it that is indented less. -/
  enclosing :
    ∀ index place,
      tree.places[index]? = some place →
        place.outer.head?.map Level.item =
          nearestNarrower? (items.zipIdx.take index) place.item.1.width
  /-- The items without indentation are those of the outermost list. -/
  outermost : ∀ place ∈ tree.places, place.outer = [] ↔ place.item.1.width = 0
  /-- Lists are joined if they are open with the same indentation, and opened otherwise. -/
  follows :
    ∀ index earlier later,
      tree.places[index]? = some earlier →
        tree.places[index + 1]? = some later → later.Follows earlier

/-! ## One item -/

section Step

variable {levels : List Level} {done : List NumberedItem} {item : NumberedItem}

/--
Where some lists are open after some items, the outermost is not indented, each one is
indented further than those around it, and the item that is open in one is the last that
is indented less than what would be inside it.
-/
structure IsOpen (done : List NumberedItem) (levels : List Level) : Prop where
  outermost : HasOutermost levels
  narrowing :
    levels.Pairwise fun inner outer => outer.opener.1.width < inner.opener.1.width
  nearest :
    ∀ width,
      (levels.find? fun level => level.opener.1.width < width).map Level.item =
        nearestNarrower? done width

/-- The item at the place where it comes is that item. -/
theorem item_placeAfter (levels : List Level) (item : NumberedItem) :
    (placeAfter levels item).item = item := by
  unfold placeAfter
  split
  · rfl
  · split <;> rfl

namespace IsOpen

variable (isOpen : IsOpen done levels)

include isOpen

/-- Open lists are those that are closed, the one that is left, and those around it. -/
private theorem exists_kept (item : NumberedItem) :
    ∃ closed level outer,
      levels = closed ++ level :: outer ∧ levels.dropWhile (Level.isWider item) = level :: outer ∧
        (∀ other ∈ closed, item.1.width < other.opener.1.width) ∧
          ∀ other ∈ outer, other.opener.1.width < level.opener.1.width := by
  cases kept : levels.dropWhile (Level.isWider item) with
  | nil =>
      obtain ⟨level, isKept, _⟩ := isOpen.outermost.dropWhile item
      rw [kept] at isKept
      cases isKept
  | cons level outer =>
      have split := List.takeWhile_append_dropWhile (p := Level.isWider item) (l := levels)
      rw [kept] at split
      have narrowing := isOpen.narrowing
      rw [← split, List.pairwise_append] at narrowing
      refine ⟨_, level, outer, split.symm, rfl, fun other isClosed => ?_, ?_⟩
      · have wider := List.all_eq_true.mp List.all_takeWhile other isClosed
        simpa [Level.isWider] using wider
      · exact fun other isOuter => (List.pairwise_cons.mp narrowing.2.1).1 other isOuter

/-- The list that an item is in is indented as the item is. -/
theorem width_opener_placeAfter (item : NumberedItem) :
    (placeAfter levels item).level.opener.1.width = item.1.width := by
  obtain ⟨_, level, outer, _, kept, _⟩ := isOpen.exists_kept item
  have isLe := width_le_of_kept kept
  by_cases opens : level.opener.1.width < item.1.width
  · rw [placeAfter_of_opens kept opens]
  · rw [placeAfter_of_joins kept opens]
    exact Nat.le_antisymm isLe (Nat.le_of_not_lt opens)

/-- The lists around that one are those that are indented less. -/
theorem outer_placeAfter (item : NumberedItem) :
    (placeAfter levels item).outer =
      levels.filter fun level => level.opener.1.width < item.1.width := by
  obtain ⟨closed, level, outer, split, kept, wider, narrower⟩ := isOpen.exists_kept item
  have noneClosed :
      (closed.filter fun level => level.opener.1.width < item.1.width) = [] := by
    refine List.filter_eq_nil_iff.mpr fun other isClosed => ?_
    have isWider := wider other isClosed
    simp only [decide_eq_true_eq]
    omega
  have isLe := width_le_of_kept kept
  have allOuter :
      (outer.filter fun level => level.opener.1.width < item.1.width) = outer := by
    refine List.filter_eq_self.mpr fun other isOuter => ?_
    have isNarrower := narrower other isOuter
    simp only [decide_eq_true_eq]
    omega
  rw [split, List.filter_append, noneClosed, List.nil_append, List.filter_cons, allOuter, ← split]
  by_cases opens : level.opener.1.width < item.1.width
  · rw [placeAfter_of_opens kept opens]
    simp [opens]
  · rw [placeAfter_of_joins kept opens]
    simp [opens]

/-- An item follows any place behind which these lists are open. -/
theorem joins_placeAfter (item : NumberedItem) :
    (∀ level ∈ levels,
        (placeAfter levels item).level.opener = level.opener ↔
          level.opener.1.width = item.1.width) ∧
      ((∀ level ∈ levels, level.opener.1.width ≠ item.1.width) →
        (placeAfter levels item).level.opener = item) := by
  have sameWidth := isOpen.width_opener_placeAfter item
  obtain ⟨closed, level, outer, split, kept, wider, narrower⟩ := isOpen.exists_kept item
  have isLe := width_le_of_kept kept
  have isLeft : level ∈ levels := by simp [split]
  by_cases opens : level.opener.1.width < item.1.width
  · have noneAlike : ∀ other ∈ levels, other.opener.1.width ≠ item.1.width := by
      intro other isOther
      rw [split, List.mem_append, List.mem_cons] at isOther
      obtain isClosed | rfl | isOuter := isOther
      · have := wider other isClosed
        omega
      · omega
      · have := narrower other isOuter
        omega
    rw [placeAfter_of_opens kept opens] at sameWidth ⊢
    refine ⟨fun other isOther => ⟨fun same => ?_, fun alike => ?_⟩, fun _ => rfl⟩
    · rw [← same]
    · exact (noneAlike other isOther alike).elim
  · have alike : level.opener.1.width = item.1.width :=
      Nat.le_antisymm isLe (Nat.le_of_not_lt opens)
    rw [placeAfter_of_joins kept opens] at sameWidth ⊢
    refine ⟨fun other isOther => ⟨fun same => ?_, fun otherAlike => ?_⟩, fun noneAlike => ?_⟩
    · rw [← same]
      exact sameWidth
    · rw [split, List.mem_append, List.mem_cons] at isOther
      obtain isClosed | rfl | isOuter := isOther
      · have := wider other isClosed
        omega
      · rfl
      · have := narrower other isOuter
        omega
    · exact (noneAlike level isLeft alike).elim

/-- The list of an item is inside the nearest item before it that is indented less. -/
theorem enclosing_placeAfter (item : NumberedItem) :
    (placeAfter levels item).outer.head?.map Level.item =
      nearestNarrower? done item.1.width := by
  rw [isOpen.outer_placeAfter item, List.head?_filter]
  exact isOpen.nearest item.1.width

/-- Nothing is around the list of an item exactly if the item is not indented. -/
theorem outermost_placeAfter (item : NumberedItem) :
    (placeAfter levels item).outer = [] ↔ item.1.width = 0 := by
  rw [isOpen.outer_placeAfter item, List.filter_eq_nil_iff]
  constructor
  · intro noneNarrower
    obtain ⟨level, isLevel, unindented⟩ := isOpen.outermost
    have notNarrower := noneNarrower level isLevel
    simp only [decide_eq_true_eq] at notNarrower
    omega
  · intro unindented level _
    simp only [decide_eq_true_eq]
    omega

/-- Behind an item, the lists at its place are open. -/
theorem placeAfter (item : NumberedItem) :
    IsOpen (done ++ [item]) (placeAfter levels item).levels where
  outermost := isOpen.outermost.placeAfter item
  narrowing := by
    rw [Place.levels, List.pairwise_cons, isOpen.width_opener_placeAfter item,
      isOpen.outer_placeAfter item]
    refine ⟨fun level isOuter => ?_, isOpen.narrowing.filter _⟩
    simpa using (List.mem_filter.mp isOuter).2
  nearest width := by
    have own : (DocMarkup.placeAfter levels item).level.item = item :=
      item_placeAfter levels item
    rw [nearestNarrower?, List.reverse_append, List.reverse_singleton, List.singleton_append,
      List.find?_cons, Place.levels, List.find?_cons, isOpen.width_opener_placeAfter item]
    split
    · rw [Option.map_some, own]
    next notNarrower =>
      rw [isOpen.outer_placeAfter item, List.find?_filter, ← nearestNarrower?, ← isOpen.nearest]
      congr 2
      funext level
      simp only [decide_eq_false_iff_not] at notNarrower
      simp only [decide_eq_true_eq, decide_eq_decide]
      omega

/-- Whatever items come, each one has its place by the lists that are open before it. -/
theorem exists_before
    {items : List NumberedItem}
    {index : Nat}
    {place : Place}
    (found : (placesFrom levels items)[index]? = some place) :
    ∃ before item,
      IsOpen (done ++ items.take index) before ∧ place = DocMarkup.placeAfter before item := by
  induction items generalizing done levels index with
  | nil => simp [placesFrom] at found
  | cons item others inductionHypothesis =>
      cases index with
      | zero =>
          refine ⟨levels, item, by simpa using isOpen, ?_⟩
          simpa [placesFrom] using found.symm
      | succ index =>
          obtain ⟨before, later, beforeIsOpen, isPlace⟩ :=
            inductionHypothesis (isOpen.placeAfter item) (by simpa [placesFrom] using found)
          exact ⟨before, later, by simpa using beforeIsOpen, isPlace⟩

end IsOpen

end Step

/-! ## All items -/

/-- Every item has one place. -/
theorem map_item_placesFrom
    (levels : List Level)
    (items : List NumberedItem) :
    (placesFrom levels items).map Place.item = items := by
  induction items generalizing levels with
  | nil => rfl
  | cons item others inductionHypothesis =>
      rw [placesFrom, List.map_cons, item_placeAfter, inductionHypothesis]

/-- An item has its place by the lists that are open at the place before it. -/
theorem exists_placeAfter
    {levels : List Level}
    {items : List NumberedItem}
    {index : Nat}
    {earlier later : Place}
    (atEarlier : (placesFrom levels items)[index]? = some earlier)
    (atLater : (placesFrom levels items)[index + 1]? = some later) :
    ∃ item, later = placeAfter earlier.levels item := by
  induction items generalizing levels index with
  | nil => simp [placesFrom] at atEarlier
  | cons item others inductionHypothesis =>
      rw [placesFrom, List.getElem?_cons_succ] at atLater
      cases index with
      | succ index => exact inductionHypothesis (by simpa [placesFrom] using atEarlier) atLater
      | zero =>
          obtain rfl : placeAfter levels item = earlier := by
            simpa [placesFrom] using atEarlier
          cases others with
          | nil => simp [placesFrom] at atLater
          | cons next others => exact ⟨next, by simpa [placesFrom] using atLater.symm⟩

/-- Behind the first item, its list is open. -/
theorem isOpen_singleton
    {first : NumberedItem}
    (unindented : first.1.width = 0) :
    IsOpen [first] [{ opener := first, item := first }] where
  outermost := ⟨_, List.mem_singleton_self _, unindented⟩
  narrowing := List.pairwise_singleton _ _
  nearest width := by
    rw [nearestNarrower?, List.reverse_singleton, List.find?_singleton, List.find?_singleton]
    split <;> rfl

/-- An item has its place by the lists that are open behind another one, and follows that. -/
theorem IsOpen.follows
    {done : List NumberedItem}
    {earlier : Place}
    (isOpen : IsOpen done earlier.levels)
    (item : NumberedItem) :
    (DocMarkup.placeAfter earlier.levels item).Follows earlier := by
  obtain ⟨joins, opens⟩ := isOpen.joins_placeAfter item
  constructor <;> rw [item_placeAfter]
  · exact joins
  · exact opens

/-- The events of items of which the first is not indented are those of a tree that nests them. -/
theorem exists_listTree_nests
    {first : ListItem}
    (unindented : first.width = 0)
    (others : List ListItem) :
    ∃ tree : ListTree,
      tree.events = eventsFrom [] (first :: others).zipIdx ∧ tree.Nests (first :: others) := by
  let root : Level := { opener := (first, 0), item := (first, 0) }
  have isOpen : IsOpen [(first, 0)] [root] := isOpen_singleton unindented
  obtain ⟨tree, sameEvents, samePlaces⟩ :=
    exists_listTree (show (first, 0).1.width = 0 from unindented) (others.zipIdx 1)
  have places :
      tree.places = { level := root, outer := [] } :: placesFrom [root] (others.zipIdx 1) :=
    samePlaces.symm
  refine ⟨tree, sameEvents.symm, ?inOrder, ?enclosing, ?outermost, ?follows⟩
  case inOrder => rw [← samePlaces, map_item_placesFrom, List.zipIdx_cons]
  case enclosing =>
    intro index place found
    rw [places] at found
    cases index with
    | zero =>
        obtain rfl : _ = place := by simpa using found
        rfl
    | succ index =>
        obtain ⟨before, item, beforeIsOpen, rfl⟩ := isOpen.exists_before found
        rw [beforeIsOpen.enclosing_placeAfter, item_placeAfter, List.zipIdx_cons,
          List.take_succ_cons]
        rfl
  case outermost =>
    intro place isPlace
    rw [places] at isPlace
    obtain rfl | isLater := List.mem_cons.mp isPlace
    · exact iff_of_true rfl unindented
    · obtain ⟨index, found⟩ := List.mem_iff_getElem?.mp isLater
      obtain ⟨before, item, beforeIsOpen, rfl⟩ := isOpen.exists_before found
      rw [beforeIsOpen.outermost_placeAfter, item_placeAfter]
  case follows =>
    intro index earlier later atEarlier atLater
    rw [← samePlaces] at atEarlier atLater
    obtain ⟨item, rfl⟩ := exists_placeAfter atEarlier atLater
    rw [samePlaces, places] at atEarlier
    cases index with
    | zero =>
        obtain rfl : _ = earlier := by simpa using atEarlier
        exact isOpen.follows item
    | succ index =>
        obtain ⟨before, own, beforeIsOpen, rfl⟩ := isOpen.exists_before atEarlier
        exact (beforeIsOpen.placeAfter own).follows item

/-- The item around each item where the indentation falls to one that no open list has. -/
example :
    let item (indent : List Char) (areBlanks : indent.all Text.isHorizontal = true) : ListItem :=
      { indent := indent, areBlanks := areBlanks, ordered := false, content := "" }
    let items :=
      [item [] rfl, item ['\t'] rfl, item [' ', ' '] rfl, item [' ', '\t'] rfl,
        item [' ', ' ', ' '] rfl, item [] rfl]
    let around (place : Place) : Option Nat :=
      place.outer.head?.map fun level => level.item.2
    (placesFrom [] items.zipIdx).map around = [none, some 0, some 0, some 2, some 2, none] :=
  rfl

end DocMarkup
