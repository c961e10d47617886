import DocMarkup.Encoding.BoostBook
import DocMarkup.Proofs.Encoding.Tag

namespace DocMarkup.BoostBook

open Markup

/-!
# BoostBook tags

Whatever element is written, its closing text closes what its opening text opens.
-/

/-- What stands between the first letter of the declaration and its end. -/
private def declarationContent (docType : String) : String :=
  "OCTYPE " ++ docType ++ " PUBLIC \"-//Boost//DTD BoostBook XML V1.0//EN\" " ++
    "\"http://www.boost.org/tools/boostbook/dtd/boostbook.dtd\""

/-- The lines in front of a document are an instruction and a declaration. -/
private theorem toList_prolog (docType : String) :
    (prolog docType).toList =
      ('<' :: "?xml version=\"1.0\" encoding=\"UTF-8\"?>".toList) ++
        (['\n'] ++
          (('<' :: '!' :: 'D' :: ((declarationContent docType).toList ++ ['>'])) ++ ['\n'])) := by
  have first :
      "<?xml version=\"1.0\" encoding=\"UTF-8\"?>\n".toList =
        '<' :: ("?xml version=\"1.0\" encoding=\"UTF-8\"?>".toList ++ ['\n']) := by
    decide +kernel
  have second : "<!DOCTYPE ".toList = '<' :: '!' :: 'D' :: "OCTYPE ".toList := by
    decide
  have last :
      "\"http://www.boost.org/tools/boostbook/dtd/boostbook.dtd\">\n".toList =
        "\"http://www.boost.org/tools/boostbook/dtd/boostbook.dtd\"".toList ++ ['>', '\n'] := by
    decide +kernel
  unfold prolog declarationContent
  rw [String.toList_append, String.toList_append, String.toList_append, String.toList_append,
    first, second, last, String.toList_append, String.toList_append, String.toList_append]
  simp only [List.cons_append, List.nil_append, List.append_assoc]

/-- The name of an opening tag stays one with letters behind it. -/
private theorem isTagName_append
    {name suffix : String}
    (isName : IsTagName name.toList)
    (isSuffix : suffix.toList.all isStartNameCharacter = true) :
    IsTagName (name ++ suffix).toList := by
  rw [String.toList_append]
  refine ⟨List.append_ne_nil_of_left_ne_nil isName.1 _, ?_⟩
  rw [List.all_append, isName.2, isSuffix]
  rfl

/-- The lines in front of a document open nothing. -/
theorem passes_prolog
    {docType : String}
    (isName : IsTagName docType.toList)
    (opened : OpenNames) :
    Passes lineEnd opened opened (prolog docType).toList := by
  have isInstruction :
      bracketShape? "?xml version=\"1.0\" encoding=\"UTF-8\"?>".toList =
        some ⟨.instruction, 37, []⟩ := by
    decide +kernel
  have noBracketInType : '>' ∉ docType.toList := by
    intro member
    exact absurd (List.all_eq_true.mp isName.2 _ member) (by decide)
  have noBracket : '>' ∉ (declarationContent docType).toList := by
    simp only [declarationContent, String.toList_append, List.mem_append, not_or]
    exact ⟨⟨⟨by decide, noBracketInType⟩, by decide +kernel⟩, by decide +kernel⟩
  rw [toList_prolog]
  exact
    (Passes.single (covers_of_shape isInstruction (by decide +kernel)) rfl).trans
      ((Passes.ofLineEnd opened).trans
        ((Passes.single (covers_declaration (by decide) noBracket) rfl).trans (.ofLineEnd opened)))

/-- Elements with a tag of another name have names and keys in it. -/
private theorem renamed?_isTag
    {name tag : String}
    {added : List Attribute}
    (isRenamed : renamed? name = some (tag, added)) :
    IsTagName tag.toList ∧ AreNamed added := by
  unfold renamed? at isRenamed
  split at isRenamed
  case h_7 =>
    simp at isRenamed
  all_goals
    obtain ⟨rfl, rfl⟩ := Prod.mk.inj (Option.some.inj isRenamed)
    unfold AreNamed
    decide

variable {docType name : String} {attributes : List Attribute}

/-- A document stands inside a tag of its type, with the prolog in front. -/
theorem documentTags_enclose
    (isName : IsTagName docType.toList)
    (areNamed : AreNamed attributes) :
    (documentTags docType attributes).Encloses [docType.toList] where
  opens opened := by
    have keptNamed :
        AreNamed
          ((attributes.filter fun entry => entry.1 != "doctype") ++
            [("xmlns:xi", inclusionNamespace)]) :=
      (areNamed.filter _).append (.cons (by decide) _ .nil)
    unfold documentTags
    rw [String.toList_append, String.toList_append]
    exact
      ((passes_prolog isName opened).trans (passes_opening docType _ isName keptNamed)).trans
        (.ofLineEnd _)
  closes _ := passes_closing docType [] isName

/-- An image is written as a whole. -/
theorem passes_image
    (fileref : String)
    (opened : OpenNames) :
    Passes lineEnd opened opened
      ("<inlinemediaobject><imageobject><imagedata" ++
        renderAttributes [("fileref", fileref)] ++
        "/></imageobject></inlinemediaobject>").toList := by
  have front :
      "<inlinemediaobject><imageobject><imagedata".toList =
        "<inlinemediaobject>".toList ++
          ("<imageobject>".toList ++ ("<".toList ++ "imagedata".toList)) := by
    decide +kernel
  have behind :
      "/></imageobject></inlinemediaobject>".toList =
        "/>".toList ++ ("</imageobject>".toList ++ "</inlinemediaobject>".toList) := by
    decide +kernel
  have imageData :
      ∀ around : OpenNames,
        Passes lineEnd around around
          ("<".toList ++ "imagedata".toList ++
            (renderAttributes [("fileref", fileref)]).toList ++ "/>".toList) := by
    intro around
    rw [← String.toList_append, ← String.toList_append, ← String.toList_append]
    exact passes_emptyTag "imagedata" _ (by decide) (.cons (by decide) _ .nil)
  have whole : Passes lineEnd opened opened _ :=
    (passes_opening "inlinemediaobject" [] (by decide) .nil).trans
      ((passes_opening "imageobject" [] (by decide) .nil).trans
        ((imageData _).trans
          ((passes_closing "imageobject" [] (by decide)).trans
            (passes_closing "inlinemediaobject" [] (by decide)))))
  rw [String.toList_append, String.toList_append, front, behind]
  simp only [List.append_assoc] at whole ⊢
  exact whole

/-- The tags of every element enclose what is inside it. -/
theorem exists_tags_enclose
    (isTypeName : IsTagName docType.toList)
    (isTaggable : Element.IsTaggable name attributes) :
    ∃ names, (tags docType name attributes).Encloses names := by
  have header :
      ∀ suffix ∈ ["info", "purpose", "category"],
        (tagPair (docType ++ suffix) []).Encloses [(docType ++ suffix).toList] := by
    have areSuffixes :
        ∀ suffix ∈ ["info", "purpose", "category"],
          suffix.toList.all isStartNameCharacter = true := by
      decide
    exact fun suffix known =>
      .tagPair (isTagName_append isTypeName (areSuffixes suffix known)) .nil
  unfold tags
  split
  · exact ⟨_, (documentTags_enclose (isTaggable.docType rfl) isTaggable.areNamed).ofBlock _⟩
  · exact ⟨_, (header "info" (by simp)).ofBlock _⟩
  · exact ⟨_, (header "purpose" (by simp)).ofBlock _⟩
  · exact ⟨_, (header "category" (by simp)).ofBlock _⟩
  · have shown := isTaggable.areNamed.filter fun entry => entry.1 != "level"
    exact ⟨_, TagPair.Encloses.ofBlock (.tagPair (by decide) (.cons (by decide) _ shown)) _⟩
  · refine ⟨["para".toList, "footnote".toList], fun opened => ?_, fun opened => ?_⟩
    · exact
        (passes_opening "footnote" [] (by decide) .nil).trans
          (passes_opening "para" [] (by decide) .nil)
    · exact
        (passes_closing "para" [] (by decide)).trans
          (passes_closing "footnote" [] (by decide))
  · exact ⟨_, .of_passes fun opened => passes_emptyTag "sbr" [] (by decide) .nil⟩
  · exact ⟨_, .of_passes fun opened =>
      passes_emptyTag "anchor" attributes (by decide) isTaggable.areNamed⟩
  · exact ⟨_, .of_passes (passes_image _)⟩
  · refine ⟨_, .of_passes fun opened => ?_⟩
    have withLineEnd :
        ("<xi:include" ++ renderAttributes attributes ++ "/>\n").toList =
          ("<" ++ "xi:include" ++ renderAttributes attributes ++ "/>").toList ++ ['\n'] := by
      simp
    rw [withLineEnd]
    exact
      (passes_emptyTag "xi:include" attributes (by decide) isTaggable.areNamed).trans
        (.ofLineEnd opened)
  · split
    next tag added isRenamed =>
      obtain ⟨isName, addedNamed⟩ := renamed?_isTag isRenamed
      have allNamed := addedNamed.append isTaggable.areNamed
      exact ⟨_, TagPair.Encloses.ofBlock (.tagPair isName allNamed) _⟩
    next =>
      exact ⟨_, TagPair.Encloses.ofBlock (.tagPair isTaggable.isName isTaggable.areNamed) _⟩

end DocMarkup.BoostBook
