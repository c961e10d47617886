import DocMarkup.Grammar.Listing
import DocMarkup.Proofs.Event.Fragment
import DocMarkup.Proofs.Written.BlockTree

namespace DocMarkup

/-!
# Lists as trees

The items of a list come one after another. Each of them closes lists that are
indented further, and then joins the list that is left or opens one inside it. What
comes out of a row of items is a tree: a list has items, of which the first one
opened it, and an item may have lists inside it. The places of the tree say for each
item in which list it is and what is around that list.
-/

/-! ## Items and trees -/

/-- An item of a list: the blanks before it, whether it is numbered, and its text. -/
structure ListItem where
  indent : List Char
  areBlanks : indent.all Text.isHorizontal = true := by decide
  ordered : Bool
  content : String
deriving DecidableEq, Repr

namespace ListItem

/-- How far an item is indented. -/
def width (item : ListItem) : Nat :=
  Text.blankWidth 0 item.indent

/-- The element of a list that an item opens. -/
def listName (item : ListItem) : String :=
  if item.ordered then "orderedlist" else "itemizedlist"

end ListItem

/-- An item with its number among all items. -/
abbrev NumberedItem :=
  ListItem × Nat

mutual

/-- A list: the item that opened it, and the others in it. -/
inductive ListTree where
  | list (first : ItemTree) (others : List ItemTree)

/-- An item of a list, and the lists inside it. -/
inductive ItemTree where
  | item (own : NumberedItem) (lists : List ListTree)

end

/-- The item at the top of a tree. -/
def ItemTree.own : ItemTree → NumberedItem
  | .item own _ => own

/-! ## Output -/

/-- What is output of an item itself. -/
def ListItem.front (item : ListItem) : List Event :=
  .opening "listitem" [] :: .opening "simpara" [] ::
    (textEvents item.content ++ [.closing "simpara"])

mutual

/-- The events of a list, whose element is told by the item that opened it. -/
def ListTree.events : ListTree → List Event
  | .list first others =>
      .opening first.own.1.listName [] ::
        (first.events ++ (ItemTree.eventsAll others ++ [.closing first.own.1.listName]))

/-- The events of lists that follow one another. -/
def ListTree.eventsAll : List ListTree → List Event
  | [] => []
  | list :: others => list.events ++ ListTree.eventsAll others

/-- The events of an item: its text, and the lists inside it. -/
def ItemTree.events : ItemTree → List Event
  | .item own lists => own.1.front ++ (ListTree.eventsAll lists ++ [.closing "listitem"])

/-- The events of items that follow one another. -/
def ItemTree.eventsAll : List ItemTree → List Event
  | [] => []
  | item :: others => item.events ++ ItemTree.eventsAll others

end

/-- The elements of lists. -/
def listVocabulary : Vocabulary :=
  [("itemizedlist", []), ("orderedlist", []), ("listitem", []), ("simpara", [])]

/-- The element of a list is one of the two. -/
theorem ListItem.listName_mem (item : ListItem) : (item.listName, []) ∈ listVocabulary := by
  unfold listName
  split <;> decide

/-- The text of a text is a fragment. -/
theorem isFragment_textEvents (content : String) :
    Fragment listVocabulary (textEvents content) := by
  unfold textEvents
  split
  · exact .nil
  · exact .text content

mutual

/-- The events of a list are balanced, and there are no elements in them but those of lists. -/
theorem ListTree.isFragment : ∀ list : ListTree, Fragment listVocabulary list.events
  | .list first others => by
      rw [ListTree.events, ← List.append_assoc]
      exact
        .element first.own.1.listName_mem
          (first.isFragment.append (ItemTree.isFragment_all others))

/-- So are the events of lists that follow one another. -/
theorem ListTree.isFragment_all :
    ∀ lists : List ListTree, Fragment listVocabulary (ListTree.eventsAll lists)
  | [] => .nil
  | list :: others => list.isFragment.append (ListTree.isFragment_all others)

/-- So are the events of an item. -/
theorem ItemTree.isFragment : ∀ item : ItemTree, Fragment listVocabulary item.events
  | .item own lists => by
      have isFragment :
          Fragment listVocabulary
            ((.opening "simpara" [] :: (textEvents own.1.content ++ [.closing "simpara"])) ++
              ListTree.eventsAll lists) :=
        (Fragment.element (by decide) (isFragment_textEvents own.1.content)).append
          (ListTree.isFragment_all lists)
      rw [ItemTree.events, ListItem.front, List.cons_append, ← List.append_assoc]
      exact .element (by decide) isFragment

/-- So are the events of items that follow one another. -/
theorem ItemTree.isFragment_all :
    ∀ items : List ItemTree, Fragment listVocabulary (ItemTree.eventsAll items)
  | [] => .nil
  | item :: others => item.isFragment.append (ItemTree.isFragment_all others)

end

/-! ## Places -/

/-- A list that is open at some place: the item that opened it, and the item that is open in it. -/
structure Level where
  opener : NumberedItem
  item : NumberedItem
deriving DecidableEq, Repr

/-- The place of an item: the list that it is in, and the lists around it, from the inside. -/
structure Place where
  level : Level
  outer : List Level
deriving DecidableEq, Repr

namespace Place

/-- The lists that are open at a place, from the inside. -/
def levels (place : Place) : List Level :=
  place.level :: place.outer

/-- The item at a place. -/
def item (place : Place) : NumberedItem :=
  place.level.item

end Place

mutual

/-- The places of a list that is inside other lists. -/
def ListTree.placesInside (outer : List Level) : ListTree → List Place
  | .list first others =>
      first.placesInside first.own outer ++ ItemTree.placesOfAll first.own outer others

/-- The places of lists that follow one another. -/
def ListTree.placesOfAll (outer : List Level) : List ListTree → List Place
  | [] => []
  | list :: others => list.placesInside outer ++ ListTree.placesOfAll outer others

/-- The places of an item in a list with a given opener. -/
def ItemTree.placesInside (opener : NumberedItem) (outer : List Level) : ItemTree → List Place
  | .item own lists =>
      { level := { opener := opener, item := own }, outer := outer } ::
        ListTree.placesOfAll ({ opener := opener, item := own } :: outer) lists

/-- The places of items that follow one another. -/
def ItemTree.placesOfAll (opener : NumberedItem) (outer : List Level) : List ItemTree → List Place
  | [] => []
  | item :: others => item.placesInside opener outer ++ ItemTree.placesOfAll opener outer others

end

/-- The places of all items of a list. -/
def ListTree.places (list : ListTree) : List Place :=
  list.placesInside []

/-! ## From one item to the next -/

/-- Whether an item is indented less than the items of a list. -/
def Level.isWider (item : NumberedItem) (level : Level) : Bool :=
  item.1.width < level.opener.1.width

/--
The place of an item that comes where some lists are open: lists that are indented
further are closed, and the item joins the list that is left or opens one inside it.
-/
def placeAfter (levels : List Level) (item : NumberedItem) : Place :=
  match levels.dropWhile (Level.isWider item) with
  | [] => { level := { opener := item, item := item }, outer := [] }
  | level :: outer =>
      if level.opener.1.width < item.1.width then
        { level := { opener := item, item := item }, outer := level :: outer }
      else
        { level := { opener := level.opener, item := item }, outer := outer }

/-- The places of items that come one after another where some lists are open. -/
def placesFrom : List Level → List NumberedItem → List Place
  | _, [] => []
  | levels, item :: others =>
      placeAfter levels item :: placesFrom (placeAfter levels item).levels others

/-- The events that close lists with the items that are open in them. -/
def closings (levels : List Level) : List Event :=
  levels.flatMap fun level => [.closing "listitem", .closing level.opener.1.listName]

/-- The event that comes before an item: a list is opened, or the item before it is closed. -/
def separation (kept : List Level) (item : NumberedItem) : Event :=
  match kept with
  | [] => .opening item.1.listName []
  | level :: _ =>
      if level.opener.1.width < item.1.width then
        .opening item.1.listName []
      else
        .closing "listitem"

/-- The events of an item that comes where some lists are open, up to the end of its text. -/
def itemEvents (levels : List Level) (item : NumberedItem) : List Event :=
  closings (levels.takeWhile (Level.isWider item)) ++
    (separation (levels.dropWhile (Level.isWider item)) item :: item.1.front)

/-- The events of items that come one after another, and of the end of all open lists. -/
def eventsFrom : List Level → List NumberedItem → List Event
  | levels, [] => closings levels
  | levels, item :: others =>
      itemEvents levels item ++ eventsFrom (placeAfter levels item).levels others

section PlaceAfter

variable {levels outer : List Level} {level : Level} {item : NumberedItem}
  (kept : levels.dropWhile (Level.isWider item) = level :: outer)

include kept

/-- An item that is indented further than the list that is left opens one inside it. -/
theorem placeAfter_of_opens (opens : level.opener.1.width < item.1.width) :
    placeAfter levels item =
      { level := { opener := item, item := item }, outer := level :: outer } := by
  simp [placeAfter, kept, opens]

/-- Any other item joins the list that is left. -/
theorem placeAfter_of_joins (joins : ¬ level.opener.1.width < item.1.width) :
    placeAfter levels item =
      { level := { opener := level.opener, item := item }, outer := outer } := by
  simp [placeAfter, kept, joins]

/-- The list that is left is not indented further than the item. -/
theorem width_le_of_kept : level.opener.1.width ≤ item.1.width := by
  have notWider := List.head?_dropWhile_not (Level.isWider item) levels
  rw [kept] at notWider
  simpa [Level.isWider] using notWider

end PlaceAfter

/-! ## The tree of a row of items -/

/--
What is still to come in an open list: lists inside the item that is open in it, and
items behind that one.
-/
structure Remainder where
  level : Level
  lists : List ListTree := []
  items : List ItemTree := []

namespace Remainder

/-- Nothing more comes in a list. -/
def nothing (level : Level) : Remainder :=
  { level := level }

/-- The events that are still to come, list by list from the inside. -/
def eventsOfAll : List Remainder → List Event
  | [] => []
  | innermost :: outer =>
      ListTree.eventsAll innermost.lists ++
        (.closing "listitem" ::
          (ItemTree.eventsAll innermost.items ++
            (.closing innermost.level.opener.1.listName :: eventsOfAll outer)))

/-- The places that are still to come, list by list from the inside. -/
def placesOfAll : List Remainder → List Place
  | [] => []
  | innermost :: outer =>
      ListTree.placesOfAll (innermost.level :: outer.map level) innermost.lists ++
        (ItemTree.placesOfAll innermost.level.opener (outer.map level) innermost.items ++
          placesOfAll outer)

/-- Where nothing more comes, open lists are closed. -/
theorem eventsOfAll_append (closed : List Level) (outer : List Remainder) :
    eventsOfAll (closed.map nothing ++ outer) =
      closings closed ++ eventsOfAll outer := by
  induction closed with
  | nil =>
      rfl
  | cons level others inductionHypothesis =>
      simp [eventsOfAll, nothing, inductionHypothesis, closings, ListTree.eventsAll,
        ItemTree.eventsAll]

/-- Where nothing more comes, there are no more places. -/
theorem placesOfAll_append (closed : List Level) (outer : List Remainder) :
    placesOfAll (closed.map nothing ++ outer) = placesOfAll outer := by
  induction closed with
  | nil =>
      rfl
  | cons level others inductionHypothesis =>
      simp [placesOfAll, nothing, inductionHypothesis, ListTree.placesOfAll, ItemTree.placesOfAll]

/-- The lists in which something or nothing is still to come. -/
theorem levels_append (closed : List Level) (outer : List Remainder) :
    (closed.map nothing ++ outer).map level = closed ++ outer.map level := by
  have same : level ∘ nothing = id := rfl
  rw [List.map_append, List.map_map, same, List.map_id]

end Remainder

/-- A list without indentation is around all others. -/
def HasOutermost (levels : List Level) : Prop :=
  ∃ level ∈ levels, level.opener.1.width = 0

/-- The list without indentation is never closed for an item. -/
theorem HasOutermost.dropWhile
    {levels : List Level}
    (outermost : HasOutermost levels)
    (item : NumberedItem) :
    HasOutermost (levels.dropWhile (Level.isWider item)) := by
  obtain ⟨level, isOpen, unindented⟩ := outermost
  rw [← List.takeWhile_append_dropWhile (p := Level.isWider item) (l := levels),
    List.mem_append] at isOpen
  obtain isClosed | isKept := isOpen
  · have wider := List.all_eq_true.mp List.all_takeWhile level isClosed
    simp [Level.isWider, unindented] at wider
  · exact ⟨level, isKept, unindented⟩

/-- Behind an item, there is still a list without indentation around all others. -/
theorem HasOutermost.placeAfter
    {levels : List Level}
    (outermost : HasOutermost levels)
    (item : NumberedItem) :
    HasOutermost (placeAfter levels item).levels := by
  obtain ⟨level, isKept, unindented⟩ := outermost.dropWhile item
  unfold DocMarkup.placeAfter
  split
  next noneKept =>
    rw [noneKept] at isKept
    cases isKept
  next innermost outer kept =>
    rw [kept] at isKept
    split
    · exact ⟨level, List.mem_cons_of_mem _ isKept, unindented⟩
    · obtain rfl | isOuter := List.mem_cons.mp isKept
      · exact ⟨_, List.mem_cons_self, unindented⟩
      · exact ⟨level, List.mem_cons_of_mem _ isOuter, unindented⟩

/--
Lists and items grow from the items that come where some lists are open: their events
and places are those of the items.
-/
structure Grows
    (levels : List Level)
    (items : List NumberedItem)
    (remainders : List Remainder) :
    Prop where
  sameLevels : remainders.map Remainder.level = levels
  sameEvents : eventsFrom levels items = Remainder.eventsOfAll remainders
  samePlaces : placesFrom levels items = Remainder.placesOfAll remainders

namespace Grows

variable {levels outer : List Level} {level : Level} {item : NumberedItem}
  {items : List NumberedItem} {own around : Remainder} {rest : List Remainder}

/-- Where no more items come, nothing grows. -/
theorem nothing (levels : List Level) : Grows levels [] (levels.map Remainder.nothing) := by
  have sameLevels := Remainder.levels_append levels []
  have sameEvents := Remainder.eventsOfAll_append levels []
  have samePlaces := Remainder.placesOfAll_append levels []
  rw [List.append_nil] at sameLevels sameEvents samePlaces
  refine ⟨by simpa using sameLevels, ?_, samePlaces.symm⟩
  rw [sameEvents, eventsFrom, Remainder.eventsOfAll, List.append_nil]

/-- What grows in the list that an item opens grows inside the item before it. -/
theorem inside
    (kept : levels.dropWhile (Level.isWider item) = level :: outer)
    (opens : level.opener.1.width < item.1.width)
    (grows : Grows (placeAfter levels item).levels items (own :: around :: rest)) :
    Grows levels (item :: items)
      ((levels.takeWhile (Level.isWider item)).map Remainder.nothing ++
        { level := level
          lists := .list (.item item own.lists) own.items :: around.lists
          items := around.items } :: rest) := by
  obtain ⟨sameLevels, sameEvents, samePlaces⟩ := grows
  rw [placeAfter_of_opens kept opens] at sameLevels sameEvents samePlaces
  obtain ⟨ownLevel, sameLevels⟩ := List.cons.inj sameLevels
  obtain ⟨aroundLevel, restLevels⟩ := List.cons.inj sameLevels
  refine ⟨?_, ?_, ?_⟩
  · rw [Remainder.levels_append, List.map_cons, restLevels, ← kept,
      List.takeWhile_append_dropWhile]
  · rw [eventsFrom, itemEvents, placeAfter_of_opens kept opens, sameEvents,
      Remainder.eventsOfAll_append, kept]
    simp [separation, opens, Remainder.eventsOfAll, ListTree.eventsAll, ListTree.events,
      ItemTree.events, ItemTree.own, ownLevel, aroundLevel]
  · rw [placesFrom, placeAfter_of_opens kept opens, samePlaces, Remainder.placesOfAll_append]
    simp [Remainder.placesOfAll, ListTree.placesOfAll, ListTree.placesInside,
      ItemTree.placesInside, ItemTree.own, ownLevel, aroundLevel, restLevels]

/-- What grows behind an item that joins a list grows behind the item before it. -/
theorem behind
    (kept : levels.dropWhile (Level.isWider item) = level :: outer)
    (joins : ¬ level.opener.1.width < item.1.width)
    (grows : Grows (placeAfter levels item).levels items (own :: rest)) :
    Grows levels (item :: items)
      ((levels.takeWhile (Level.isWider item)).map Remainder.nothing ++
        { level := level, items := .item item own.lists :: own.items } :: rest) := by
  obtain ⟨sameLevels, sameEvents, samePlaces⟩ := grows
  rw [placeAfter_of_joins kept joins] at sameLevels sameEvents samePlaces
  obtain ⟨ownLevel, restLevels⟩ := List.cons.inj sameLevels
  refine ⟨?_, ?_, ?_⟩
  · rw [Remainder.levels_append, List.map_cons, restLevels, ← kept,
      List.takeWhile_append_dropWhile]
  · rw [eventsFrom, itemEvents, placeAfter_of_joins kept joins, sameEvents,
      Remainder.eventsOfAll_append, kept]
    simp [separation, joins, Remainder.eventsOfAll, ListTree.eventsAll, ItemTree.eventsAll,
      ItemTree.events, ownLevel]
  · rw [placesFrom, placeAfter_of_joins kept joins, samePlaces, Remainder.placesOfAll_append]
    simp [Remainder.placesOfAll, ListTree.placesOfAll, ItemTree.placesOfAll,
      ItemTree.placesInside, ownLevel, restLevels]

end Grows

/-- Inside a list without indentation, lists and items grow from whatever items come. -/
theorem exists_grows
    {levels : List Level}
    (outermost : HasOutermost levels)
    (items : List NumberedItem) :
    ∃ remainders, Grows levels items remainders := by
  -- What grows behind the first item is known, and the item takes a part of it for itself:
  -- all of the list that it opens, or the lists inside it where it joins one.
  induction items generalizing levels with
  | nil => exact ⟨_, .nothing levels⟩
  | cons item others inductionHypothesis =>
      obtain ⟨remainders, grows⟩ := inductionHypothesis (outermost.placeAfter item)
      have sameLevels := grows.sameLevels
      cases kept : levels.dropWhile (Level.isWider item) with
      | nil =>
          obtain ⟨level, isKept, _⟩ := outermost.dropWhile item
          rw [kept] at isKept
          cases isKept
      | cons level outer =>
          by_cases opens : level.opener.1.width < item.1.width
          · rw [placeAfter_of_opens kept opens] at sameLevels
            obtain ⟨own, _, rfl, _, sameLevels⟩ := List.map_eq_cons_iff.mp sameLevels
            obtain ⟨around, rest, rfl, _⟩ := List.map_eq_cons_iff.mp sameLevels
            exact ⟨_, grows.inside kept opens⟩
          · rw [placeAfter_of_joins kept opens] at sameLevels
            obtain ⟨own, rest, rfl, _⟩ := List.map_eq_cons_iff.mp sameLevels
            exact ⟨_, grows.behind kept opens⟩

/-- The items of a list that starts without indentation form a tree. -/
theorem exists_listTree
    {first : NumberedItem}
    (unindented : first.1.width = 0)
    (others : List NumberedItem) :
    ∃ tree : ListTree,
      eventsFrom [] (first :: others) = tree.events ∧
        placesFrom [] (first :: others) = tree.places := by
  let root : Level := { opener := first, item := first }
  have outermost : HasOutermost [root] := ⟨root, List.mem_singleton_self root, unindented⟩
  obtain ⟨remainders, sameLevels, sameEvents, samePlaces⟩ := exists_grows outermost others
  obtain ⟨own, rest, rfl, ownLevel, noRest⟩ := List.map_eq_cons_iff.mp sameLevels
  obtain rfl := List.map_eq_nil_iff.mp noRest
  refine ⟨.list (.item first own.lists) own.items, ?_, ?_⟩
  · rw [eventsFrom]
    change .opening first.1.listName [] :: (first.1.front ++ eventsFrom [root] others) = _
    simp [sameEvents, Remainder.eventsOfAll, ListTree.events, ItemTree.events, ItemTree.own,
      ownLevel, root]
  · rw [placesFrom]
    change { level := root, outer := [] } :: placesFrom [root] others = _
    simp [samePlaces, Remainder.placesOfAll, ListTree.places, ListTree.placesInside,
      ItemTree.placesInside, ItemTree.own, ownLevel, root]

end DocMarkup
