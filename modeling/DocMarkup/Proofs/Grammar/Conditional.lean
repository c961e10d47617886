import DocMarkup.Proofs.Grammar.Alignment

namespace DocMarkup.Phrase

open Compile

/-!
# Conditional phrases

A conditional phrase is read if its macro is defined, and skipped by counting
brackets if not. A phrase that is skipped leaves no trace at all. It covers the
same text in both cases if the brackets in it are read as they are counted, and
then it does so whatever else differs between the two.
-/

variable {cursor afterName next : Cursor} {name : String} {inner : Inner}
  {workspace after : Workspace}

/-- Where its macro is not defined, a conditional phrase is skipped, and nothing changes. -/
theorem conditional_of_undefined
    (read : cursor.conditional? = some (name, afterName))
    (isUndefined : workspace.state.macros.contains name = false)
    (ended : conditional inner cursor workspace = .ok (some next) after) :
    after = workspace ∧
      ∃ content, afterName.skipHorizontal.balancedThrough? = some (content, next) := by
  have skips :
      conditional inner cursor workspace =
        .ok (afterName.skipHorizontal.balancedThrough?.map (·.2)) workspace := by
    simp only [conditional, read]
    change (if workspace.state.macros.contains name = true then _ else _ : Compile _) _ = _
    rw [if_neg (by simp [isUndefined])]
    rfl
  rw [skips] at ended
  obtain ⟨isNext, rfl⟩ := EStateM.Result.ok.inj ended
  obtain ⟨⟨content, _⟩, through, rfl⟩ := Option.map_eq_some_iff.mp isNext
  exact ⟨rfl, content, through⟩

/--
A conditional phrase that is skipped changes nothing. If its content counts as it is
read, the phrase ends at the same place from every other workspace from which it
applies, above all if its macro is defined there and it is shown.
-/
theorem conditional_covers_same_text
    (environment : Environment)
    (stepsShown stepsHidden : Nat)
    (cursor : Cursor)
    (name : String)
    (afterName : Cursor)
    (read : cursor.conditional? = some (name, afterName))
    (shown hidden shownAfter hiddenAfter : Workspace)
    (isUndefined : hidden.state.macros.contains name = false)
    (nextShown nextHidden : Cursor)
    (shownEnded :
      conditional (.within environment stepsShown) cursor shown =
        .ok (some nextShown) shownAfter)
    (hiddenEnded :
      conditional (.within environment stepsHidden) cursor hidden =
        .ok (some nextHidden) hiddenAfter) :
    hiddenAfter = hidden ∧
      (afterName.skipHorizontal.ContentCountsAlike → nextShown = nextHidden) := by
  obtain ⟨unchanged, content, through⟩ := conditional_of_undefined read isUndefined hiddenEnded
  refine ⟨unchanged, fun alike => ?_⟩
  obtain ⟨atBracket, closed, rfl⟩ := Cursor.IsClosedAt.exists_of_balancedThrough? alike through
  have follows := Inner.within_followsCount environment stepsShown
  have shownEnds := conditional_endsBehind_of_content follows read closed.alike
  exact shownEnds.goesTo closed shown _ shownAfter shownEnded nextShown rfl

/-- A phrase with a style, a link, code and a bracket behind a backslash ends at one place. -/
theorem conditional_covers_styles_and_code :
    let source : Source := { text := "[?X [*a] [@b c] `d` \\] e] f", name := "main" }
    let shown : Workspace := { state := { macros := MacroTable.define {} "X" "" } }
    ∃ next after,
      conditional (.within withoutFiles 40) source.cursor shown = .ok (some next) after ∧
        conditional (.within withoutFiles 40) source.cursor {} = .ok (some next) {} := by
  intro source shown
  have isShown :
      destination? shown (conditional (.within withoutFiles 40) source.cursor) = some 25 := by
    decide +kernel
  have isHidden :
      destination? {} (conditional (.within withoutFiles 40) source.cursor) = some 25 := by
    decide +kernel
  have isOpened : source.cursor.conditional?.map (·.1) = some "X" := by
    decide +kernel
  have alike : ∀ front ∈ source.cursor.conditional?, front.2.skipHorizontal.ContentCountsAlike := by
    decide +kernel
  obtain ⟨⟨_, afterName⟩, read, rfl⟩ := Option.map_eq_some_iff.mp isOpened
  obtain ⟨next, after, shownEnded, _⟩ := exists_of_destination? isShown
  obtain ⟨nextHidden, hiddenAfter, hiddenEnded, _⟩ := exists_of_destination? isHidden
  obtain ⟨unchanged, same⟩ :=
    conditional_covers_same_text withoutFiles 40 40 source.cursor "X" afterName read shown {} after
      hiddenAfter rfl next nextHidden shownEnded hiddenEnded
  obtain rfl := unchanged
  obtain rfl := same (alike _ read)
  exact ⟨next, after, shownEnded, hiddenEnded⟩

/-- Code that holds a closing bracket is read past it if it is shown, else skipped up to it. -/
theorem conditional_that_is_shown_covers_more :
    let source : Source := { text := "[?X `]` ]\n", name := "main" }
    let shown : Workspace := { state := { macros := MacroTable.define {} "X" "" } }
    destination? shown (conditional (.within withoutFiles 40) source.cursor) = some 9 ∧
      destination? {} (conditional (.within withoutFiles 40) source.cursor) = some 6 := by
  decide +kernel

end DocMarkup.Phrase
