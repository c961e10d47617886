namespace DocMarkup.Text

/-!
# Sets of code points

A property of characters given by a long table is stored as the increasing
list of the code points at which it starts or stops to hold. A character has
the property when an odd number of these places lie at or before it.
-/

/-- A set of code points, given by the places where membership changes. -/
structure CodePointSet where
  changes : Array Nat

/-- Membership of a character in the set. -/
def CodePointSet.contains (set : CodePointSet) (character : Char) : Bool :=
  set.changes.foldl
    (fun inside change => if change ≤ character.toNat then !inside else inside)
    false

end DocMarkup.Text
