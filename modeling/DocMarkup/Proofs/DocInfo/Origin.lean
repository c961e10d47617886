import DocMarkup.Proofs.DocInfo.Reader
import DocMarkup.Proofs.Grammar.Leading
import DocMarkup.Proofs.Text.Trimming

namespace DocMarkup

/-!
# Where document information comes from

The title, the licence and the purpose of a document are pieces of its text, with
the blanks around them left out. Reading the block stays in the text, and a fault
in it is found there.
-/

namespace Cursor

/-- What remains at a cursor is a piece of its text, and so is every part of it. -/
theorem take_rest_isInfix (cursor : Cursor) (count : Nat) :
    cursor.rest.take count <:+: cursor.source.text.toList := by
  rw [cursor.rest_eq]
  exact (List.take_prefix ..).isInfix.trans (List.drop_suffix ..).isInfix

end Cursor

namespace DocInfo

/-- What is read as a phrase later is a piece of a text. -/
structure IsPartOf (characters : List Char) (info : DocInfo) : Prop where
  title : info.title.toList <:+: characters
  license : ∀ markup, info.license = some markup → markup.toList <:+: characters
  purpose : ∀ markup, info.purpose = some markup → markup.toList <:+: characters

namespace IsPartOf

variable {characters : List Char} {info extended : DocInfo}

/-- Setting an attribute to a piece of the text leaves all of them pieces of it. -/
theorem withValue?
    (isPart : info.IsPartOf characters)
    {name value : String}
    (isPiece : value.toList <:+: characters)
    (changed : info.withValue? name value = some extended) :
    extended.IsPartOf characters := by
  obtain ⟨title, license, purpose⟩ := isPart
  unfold DocInfo.withValue? at changed
  split at changed
  all_goals first
    | (split at changed
       · obtain rfl := Option.some.inj changed
         constructor <;> simp_all
       · simp at changed)
    | simp at changed

/-- So does adding an attribute. -/
theorem withAttribute?
    (isPart : info.IsPartOf characters)
    {name value : String}
    (isPiece : value.toList <:+: characters)
    (changed : info.withAttribute? name value = some extended) :
    extended.IsPartOf characters := by
  unfold DocInfo.withAttribute? at changed
  split at changed
  · obtain ⟨authors, _, rfl⟩ := Option.map_eq_some_iff.mp changed
    exact { isPart with }
  · obtain ⟨notice, _, rfl⟩ := Option.map_eq_some_iff.mp changed
    exact { isPart with }
  · refine isPart.withValue? ?_ changed
    rw [Text.trimmed, String.toList_ofList]
    exact (Text.trim_isInfix _).trans isPiece

/-- And so does completing the information. -/
theorem complete
    (isPart : info.IsPartOf characters)
    {encoding : Encoding}
    {moment : Moment}
    (isComplete : info.complete encoding moment = .ok extended) :
    extended.IsPartOf characters := by
  unfold DocInfo.complete at isComplete
  simp only at isComplete
  split at isComplete
  · obtain rfl := Except.ok.inj isComplete
    refine { isPart with title := ?_ }
    rw [Text.trimmed, String.toList_ofList]
    exact (Text.trim_isInfix _).trans isPart.title
  · simp at isComplete

end IsPartOf

end DocInfo

/-- Reading the attributes finds pieces of the text, and stays in it. -/
private theorem readDocInfoAttributes_leads
    {info last : DocInfo}
    {cursor next : Cursor}
    (isPart : info.IsPartOf cursor.source.text.toList)
    (read : readDocInfoAttributes info cursor = .ok (last, next)) :
    last.IsPartOf cursor.source.text.toList ∧ cursor.Leads next := by
  fun_induction readDocInfoAttributes info cursor with
  | case1 info cursor entry after closed =>
      obtain ⟨rfl, rfl⟩ := Prod.mk.inj (Except.ok.inj read)
      exact ⟨isPart, (Cursor.Leads.refl cursor).skipComments.trans (.close? closed)⟩
  | case2 => simp at read
  | case3 => simp at read
  | case4 => simp at read
  | case5 info cursor entry notClosed content opened name named valueStart value atBracket balanced
      extended changed inductionHypothesis =>
      have toValue : cursor.Leads valueStart :=
        ((Cursor.Leads.refl cursor).skipComments.advanced _).skipBlank
      have toNext : cursor.Leads (atBracket.advance 1) :=
        (toValue.trans (.balanced? balanced)).advanced 1
      have isPiece : value.toList <:+: cursor.source.text.toList := by
        rw [← toValue.source]
        obtain ⟨length, _, shape⟩ := Option.map_eq_some_iff.mp balanced
        obtain ⟨rfl, _⟩ := Prod.mk.inj shape
        rw [String.toList_ofList]
        exact valueStart.take_rest_isInfix length
      have extendedIsPart := isPart.withAttribute? isPiece changed
      rw [← toNext.source] at extendedIsPart
      obtain ⟨lastIsPart, leads⟩ := inductionHypothesis extendedIsPart read
      rw [toNext.source] at lastIsPart
      exact ⟨lastIsPart, toNext.trans leads⟩
  | case6 => simp at read

/-- A fault in the attributes is found in the text. -/
private theorem readDocInfoAttributes_inside
    {info : DocInfo}
    {cursor : Cursor}
    {fault : DocInfoFault}
    (inside : cursor.offset ≤ cursor.source.text.length)
    (read : readDocInfoAttributes info cursor = .error fault) :
    fault.offset ≤ cursor.source.text.length := by
  fun_induction readDocInfoAttributes info cursor with
  | case1 => simp at read
  | case2 info cursor entry notClosed content opened unnamed =>
      obtain rfl := Except.error.inj read
      exact (Cursor.Leads.refl cursor).skipComments.inside inside
  | case3 info cursor entry notClosed content opened name named valueStart unbalanced =>
      obtain rfl := Except.error.inj read
      exact ((Cursor.Leads.refl cursor).skipComments.advanced _).skipBlank.inside inside
  | case4 info cursor entry notClosed content opened name named valueStart value atBracket balanced
      refused =>
      obtain rfl := Except.error.inj read
      have toValue : cursor.Leads valueStart :=
        ((Cursor.Leads.refl cursor).skipComments.advanced _).skipBlank
      exact (toValue.trans (.balanced? balanced)).inside inside
  | case5 info cursor entry notClosed content opened name named valueStart value atBracket balanced
      extended changed inductionHypothesis =>
      have toValue : cursor.Leads valueStart :=
        ((Cursor.Leads.refl cursor).skipComments.advanced _).skipBlank
      have toNext : cursor.Leads (atBracket.advance 1) :=
        (toValue.trans (.balanced? balanced)).advanced 1
      have insideNext := toNext.inside inside
      rw [← toNext.source] at insideNext ⊢
      exact inductionHypothesis insideNext read
  | case6 info cursor entry notClosed notOpened =>
      obtain rfl := Except.error.inj read
      exact (Cursor.Leads.refl cursor).skipComments.inside inside

/-- The keyword of the type of a document, and the title behind it, are in the text. -/
private theorem leads_of_docType
    {cursor afterType : Cursor}
    {docType : String}
    (opened :
      documentTypes.findSome?
          (fun known =>
            (cursor.skipComments.keyword? ("[" ++ known)).map fun next => (known, next)) =
        some (docType, afterType)) :
    cursor.Leads afterType := by
  obtain ⟨found, _, shape⟩ := List.exists_of_findSome?_eq_some opened
  obtain ⟨afterKeyword, keyword, sameType⟩ := Option.map_eq_some_iff.mp shape
  obtain ⟨_, rfl⟩ := Prod.mk.inj sameType
  exact (Cursor.Leads.refl cursor).skipComments.trans (.keyword? keyword)

/-- Reading document information finds pieces of the text, and stays in it. -/
theorem readDocInfo_leads
    {info : DocInfo}
    {cursor next : Cursor}
    (read : readDocInfo cursor = .ok (info, next)) :
    info.IsPartOf cursor.source.text.toList ∧ cursor.Leads next := by
  unfold readDocInfo at read
  simp only at read
  split at read
  · simp at read
  next docType afterType opened =>
    have toTitle := (leads_of_docType opened).skipHorizontal
    have toAttributes : cursor.Leads (readTitle afterType.skipHorizontal).2 :=
      toTitle.advanced _
    split at read
    · simp at read
    next info' next' attributes =>
      obtain ⟨rfl, rfl⟩ := Prod.mk.inj (Except.ok.inj read)
      have startIsPart :
          ({ docType := docType, title := (readTitle afterType.skipHorizontal).1 } :
            DocInfo).IsPartOf (readTitle afterType.skipHorizontal).2.source.text.toList :=
        { title := by
            show (readTitle afterType.skipHorizontal).1.toList <:+:
              afterType.skipHorizontal.source.text.toList
            simp only [readTitle, String.toList_ofList]
            exact (Text.trim_isInfix _).trans (Cursor.take_rest_isInfix _ _)
          license := by simp
          purpose := by simp }
      obtain ⟨isPart, leads⟩ := readDocInfoAttributes_leads startIsPart attributes
      rw [toAttributes.source] at isPart
      refine ⟨isPart, ?_⟩
      have toEnd := toAttributes.trans leads
      cases ended : next'.lineEnd? with
      | none =>
          exact toEnd
      | some nextLine =>
          exact toEnd.trans (.lineEnd? ended)

/-- A fault in document information is found in the text. -/
theorem readDocInfo_inside
    {cursor : Cursor}
    {fault : DocInfoFault}
    (inside : cursor.offset ≤ cursor.source.text.length)
    (read : readDocInfo cursor = .error fault) :
    fault.offset ≤ cursor.source.text.length := by
  unfold readDocInfo at read
  simp only at read
  split at read
  · obtain rfl := Except.error.inj read
    exact (Cursor.Leads.refl cursor).skipComments.inside inside
  next docType afterType opened =>
    have toTitle := (leads_of_docType opened).skipHorizontal
    have toAttributes : cursor.Leads (readTitle afterType.skipHorizontal).2 :=
      toTitle.advanced _
    split at read
    next attributesFault attributes =>
      obtain rfl := Except.error.inj read
      have insideAttributes := toAttributes.inside inside
      rw [← toAttributes.source] at insideAttributes ⊢
      exact readDocInfoAttributes_inside insideAttributes attributes
    next =>
      simp at read

end DocMarkup
