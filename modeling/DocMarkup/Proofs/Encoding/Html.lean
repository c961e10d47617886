import DocMarkup.Encoding.Html
import DocMarkup.Proofs.Encoding.Tag

namespace DocMarkup.Html

open Markup

/-!
# HTML tags

Whatever element is written, its closing text closes what its opening text opens, but
for the document, which closes the head of the page and opens its body. No element of
the body has the tag that the title of the page has in the head.
-/

/-- The tag of the title in the head of a page. -/
def titleTag : List Char :=
  "title".toList

/-- Elements with a tag of another name have names and keys in it. -/
private theorem renamed?_isTag
    {name tag : String}
    {added : List Attribute}
    (isRenamed : renamed? name = some (tag, added)) :
    IsTagName tag.toList ∧ AreNamed added ∧ titleTag ≠ tag.toList := by
  unfold renamed? at isRenamed
  split at isRenamed
  case h_32 =>
    simp at isRenamed
  all_goals
    obtain ⟨rfl, rfl⟩ := Prod.mk.inj (Option.some.inj isRenamed)
    unfold AreNamed
    decide

/-- The tag of a heading is a name. -/
private theorem headingTag_isTag (level : Nat) :
    IsTagName (headingTag (level + 1)).toList ∧ titleTag ≠ (headingTag (level + 1)).toList := by
  have bounded : min ((level : Int) + 1) deepestHeading ∈ headingLevels := by
    simp only [deepestHeading, headingLevels, List.mem_cons, List.not_mem_nil, or_false]
    omega
  have areNames :
      ∀ level ∈ headingLevels,
        IsTagName ("h" ++ toString level).toList ∧ titleTag ≠ ("h" ++ toString level).toList := by
    decide +kernel
  exact areNames _ bounded

/-- A text pair encloses what is inside an element of the body. -/
def IsBodyPair (pair : TagPair) : Prop :=
  ∃ names, pair.Encloses names ∧ titleTag ∉ names

namespace IsBodyPair

variable {pair : TagPair} {tag : String} {attributes : List Attribute}

theorem tagPair
    (isName : IsTagName tag.toList)
    (areNamed : AreNamed attributes)
    (notTitle : titleTag ≠ tag.toList) :
    IsBodyPair (tagPair tag attributes) :=
  ⟨_, .tagPair isName areNamed, by simpa using notTitle⟩

theorem ofBlock (isBodyPair : IsBodyPair pair) (name : String) : IsBodyPair (pair.ofBlock name) := by
  obtain ⟨names, encloses, noTitle⟩ := isBodyPair
  exact ⟨names, encloses.ofBlock name, noTitle⟩

theorem of_passes
    {opening : String}
    (passes : ∀ opened, Passes lineEnd opened opened opening.toList) :
    IsBodyPair { opening := opening, closing := "" } :=
  ⟨[], .of_passes passes, by simp⟩

end IsBodyPair

/-- The tags of a title, wherever it stands. -/
theorem isBodyPair_titleTags (openNames : List String) : IsBodyPair (titleTags openNames) := by
  unfold titleTags
  split
  · exact .tagPair (by decide) (.cons (by decide) _ .nil) (by decide)
  · obtain ⟨isName, notTitle⟩ := headingTag_isTag (openNames.count "section")
    exact .tagPair isName .nil notTitle
  · exact .tagPair (by decide) .nil (by decide)
  · exact .tagPair (by decide) .nil (by decide)
  · exact .tagPair (by decide) (.cons (by decide) _ .nil) (by decide)

variable {name : String} {attributes : List Attribute}

/-- A heading has tags, unless its level has too many digits. -/
theorem exists_headingTags
    (isNumeral : Text.IsNumeral (givenLevel attributes))
    (areNamed : AreNamed attributes) :
    ∃ pair,
      IsBodyPair pair ∧
        headingTags attributes =
          if (givenLevel attributes).length ≤ Text.numeralLimit then .ok pair
          else .error (.tooLong (givenLevel attributes).length) := by
  obtain ⟨level, read⟩ := Text.exists_readInteger isNumeral
  obtain ⟨isName, notTitle⟩ := headingTag_isTag level
  refine ⟨_, .tagPair isName (areNamed.filter fun entry => entry.1 == "id") notTitle, ?_⟩
  unfold headingTags
  rw [← givenLevel, read]
  by_cases short : (givenLevel attributes).length ≤ Text.numeralLimit <;> simp [short]

/-- Every element but the document has tags, unless it is refused. -/
theorem exists_tags
    (openNames : List String)
    (isTaggable : Element.IsTaggable name attributes)
    (notDocument : name ≠ "document") :
    ∃ pair,
      IsBodyPair pair ∧
        tags openNames name attributes =
          if Encoding.html.Refuses name attributes then
            .error (.tooLong (givenLevel attributes).length)
          else
            .ok pair := by
  by_cases isHeading : name = "heading"
  · subst isHeading
    obtain ⟨pair, isBodyPair, found⟩ :=
      exists_headingTags (isTaggable.level rfl) isTaggable.areNamed
    refine ⟨_, isBodyPair.ofBlock "heading", ?_⟩
    show (headingTags attributes).map (·.ofBlock "heading") = _
    rw [found]
    by_cases short : (givenLevel attributes).length ≤ Text.numeralLimit
    · simp [short, Encoding.Refuses, Except.map]
    · simp [short, Encoding.Refuses, Nat.not_le.mp short, Except.map]
  have isAccepted : ¬ Encoding.html.Refuses name attributes := fun refuses => isHeading refuses.2.1
  have withClass : ∀ value, AreNamed (("class", value) :: attributes) :=
    fun value => .cons (by decide) value isTaggable.areNamed
  simp only [if_neg isAccepted]
  unfold tags
  split
  · exact (notDocument rfl).elim
  · exact ⟨_, (isBodyPair_titleTags openNames).ofBlock _, rfl⟩
  · exact ⟨_, IsBodyPair.ofBlock (.tagPair (by decide) (withClass _) (by decide)) _, rfl⟩
  · exact (isHeading rfl).elim
  · refine ⟨_, IsBodyPair.ofBlock (.tagPair ?_ .nil ?_) _, rfl⟩ <;> split <;> decide
  · exact ⟨_, IsBodyPair.ofBlock (.tagPair (by decide) isTaggable.areNamed (by decide)) _, rfl⟩
  · refine ⟨_, IsBodyPair.ofBlock (.tagPair ?_ .nil ?_) _, rfl⟩ <;> split <;> decide
  · exact ⟨_, .of_passes fun opened => passes_emptyTag "br" [] (by decide) .nil, rfl⟩
  · refine ⟨_, .of_passes fun opened => ?_, rfl⟩
    have written :
        ("<span" ++ renderAttributes attributes ++ "></span>").toList =
          (tagPair "span" attributes).opening.toList ++
            (tagPair "span" attributes).closing.toList := by
      simp [DocMarkup.tagPair]
    rw [written]
    exact
      (passes_opening "span" attributes (by decide) isTaggable.areNamed).trans
        (passes_closing "span" attributes (by decide))
  · have shownNamed :
        AreNamed [("src", valueOf attributes "fileref"), ("alt", valueOf attributes "alt")] :=
      .cons (by decide) _ (.cons (by decide) _ .nil)
    exact ⟨_, .of_passes fun opened => passes_emptyTag "img" _ (by decide) shownNamed, rfl⟩
  · exact ⟨_, .tagPair (by decide) (.cons (by decide) _ .nil) (by decide), rfl⟩
  · exact ⟨_, .tagPair (by decide) (.cons (by decide) _ .nil) (by decide), rfl⟩
  · refine ⟨_, .of_passes fun opened => ?_, rfl⟩
    generalize shownNamed : [("class", "xinclude"), ("href", valueOf attributes "href")] = shown
    have areNamed : AreNamed shown := by
      rw [← shownNamed]
      exact .cons (by decide) _ (.cons (by decide) _ .nil)
    have written :
        ("<a" ++ renderAttributes shown ++ "></a>\n").toList =
          ((tagPair "a" shown).opening.toList ++ (tagPair "a" shown).closing.toList) ++
            ['\n'] := by
      simp [DocMarkup.tagPair]
    rw [written]
    exact
      ((passes_opening "a" shown (by decide) areNamed).trans
        (passes_closing "a" shown (by decide))).trans (.ofLineEnd opened)
  · split
    · exact ⟨_, .of_passes fun opened => .nil opened, rfl⟩
    split
    · exact ⟨_, IsBodyPair.ofBlock
        (.tagPair (by decide) (.cons (by decide) _ .nil) (by decide)) _, rfl⟩
    split
    next tag added isRenamed =>
      obtain ⟨isName, addedNamed, notTitle⟩ := renamed?_isTag isRenamed
      have allNamed := addedNamed.append isTaggable.areNamed
      exact ⟨_, IsBodyPair.ofBlock (.tagPair isName allNamed notTitle) _, rfl⟩
    next =>
      exact ⟨_, .tagPair (by decide) (withClass _) (by decide), rfl⟩

end DocMarkup.Html
