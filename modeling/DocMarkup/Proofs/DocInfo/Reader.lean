import DocMarkup.DocInfo.Defaults
import DocMarkup.DocInfo.Reader
import DocMarkup.Proofs.Compiler.Identifiers
import DocMarkup.Proofs.Grammar.BlockProgress

namespace DocMarkup

/-!
# What document information can hold

The type of a document is one of the known ones, and what is read as a phrase
later, its title, its licence and its purpose, is part of the text of the
document. Once it is complete, it has an identifier.
-/

/-- The type is known, and the phrases are not longer than a given length. -/
structure DocInfo.Fits (longest : Nat) (info : DocInfo) : Prop where
  docType : info.docType ∈ documentTypes
  title : info.title.length ≤ longest
  license : ∀ markup, info.license = some markup → markup.length ≤ longest
  purpose : ∀ markup, info.purpose = some markup → markup.length ≤ longest

namespace DocInfo.Fits

variable {longest : Nat} {info extended : DocInfo}

/-- Setting an attribute to a short value keeps the phrases short. -/
theorem withValue?
    (fits : info.Fits longest)
    {name value : String}
    (short : value.length ≤ longest)
    (changed : info.withValue? name value = some extended) :
    extended.Fits longest := by
  obtain ⟨docType, title, license, purpose⟩ := fits
  unfold DocInfo.withValue? at changed
  split at changed
  all_goals first
    | (split at changed
       · obtain rfl := Option.some.inj changed
         constructor <;> simp_all
       · simp at changed)
    | simp at changed

/-- Adding an attribute with a short value keeps the phrases short. -/
theorem withAttribute?
    (fits : info.Fits longest)
    {name value : String}
    (short : value.length ≤ longest)
    (changed : info.withAttribute? name value = some extended) :
    extended.Fits longest := by
  unfold DocInfo.withAttribute? at changed
  split at changed
  · obtain ⟨authors, _, rfl⟩ := Option.map_eq_some_iff.mp changed
    exact { fits with }
  · obtain ⟨notice, _, rfl⟩ := Option.map_eq_some_iff.mp changed
    exact { fits with }
  · exact fits.withValue? (Nat.le_trans (Text.length_trimmed_le value) short) changed

/-- Completing the information keeps the phrases short. -/
theorem complete
    (fits : info.Fits longest)
    {encoding : Encoding}
    {moment : Moment}
    (isComplete : info.complete encoding moment = .ok extended) :
    extended.Fits longest := by
  unfold DocInfo.complete at isComplete
  simp only at isComplete
  split at isComplete
  · obtain rfl := Except.ok.inj isComplete
    exact
      { fits with
        title := Nat.le_trans (Text.length_trimmed_le info.title) fits.title }
  · simp at isComplete

/-- The attributes of the document element are its type and others that may stand there. -/
theorem documentAttributes_eq (fits : info.Fits longest) :
    ∃ docType others,
      docType ∈ documentTypes ∧
        (∀ entry ∈ others, entry.1 ∈ ["id", "dirname", "last-revision", "lang"]) ∧
          info.documentAttributes = ("doctype", docType) :: others := by
  have given :
      ∀ (key : String) (value : Option String),
        ∀ entry ∈ givenAttribute key value, entry.1 = key := by
    intro key value entry member
    unfold givenAttribute at member
    split at member
    · rw [List.mem_singleton.mp member]
    · simp at member
  refine ⟨_, _, ?_, ?_, rfl⟩
  · split
    · simp [documentTypes]
    · exact fits.docType
  · intro entry member
    simp only [List.mem_append] at member
    rcases member with ((isId | isDirname) | isRevision) | isLang
    · simp [given _ _ entry isId]
    · simp [given _ _ entry isDirname]
    · simp [given _ _ entry isRevision]
    · simp [given _ _ entry isLang]

end DocInfo.Fits

/-- A value that is given is there. -/
theorem eq_some_of_isGiven
    {value : Option String}
    (given : isGiven value = true) :
    value = some (value.getD "") := by
  cases value with
  | none => simp [isGiven] at given
  | some text => rfl

/-- A value that is given is not empty. -/
theorem getD_ne_empty_of_isGiven
    {value : Option String}
    (given : isGiven value = true) :
    value.getD "" ≠ "" := by
  rw [eq_some_of_isGiven given] at given
  simpa [isGiven] using given

/-- Complete information has an identifier. -/
theorem DocInfo.isGiven_id_of_complete
    {info complete : DocInfo}
    {encoding : Encoding}
    {moment : Moment}
    (isComplete : info.complete encoding moment = .ok complete) :
    isGiven complete.id = true := by
  unfold DocInfo.complete at isComplete
  simp only at isComplete
  split at isComplete
  · obtain rfl := Except.ok.inj isComplete
    simp only
    split
    next given =>
      exact given
    next =>
      simp [isGiven, generateId_ne_empty]
  · simp at isComplete

/-- Reading the attributes keeps the phrases short and never adds to what remains. -/
theorem readDocInfoAttributes_fits
    {longest : Nat}
    {info last : DocInfo}
    {cursor next : Cursor}
    (fits : info.Fits longest)
    (short : cursor.rest.length ≤ longest)
    (read : readDocInfoAttributes info cursor = .ok (last, next)) :
    last.Fits longest ∧ next.rest.length ≤ cursor.rest.length := by
  fun_induction readDocInfoAttributes info cursor with
  | case1 info cursor entry after closed =>
      obtain ⟨rfl, rfl⟩ := Prod.mk.inj (Except.ok.inj read)
      have toEntry : entry.rest.length ≤ cursor.rest.length :=
        cursor.length_rest_skipComments_le
      have afterBracket := Cursor.length_rest_close? closed
      exact ⟨fits, by omega⟩
  | case2 => simp at read
  | case3 => simp at read
  | case4 => simp at read
  | case5 info cursor entry notClosed content opened name named valueStart value atBracket balanced
      extended changed inductionHypothesis =>
      have toEntry : entry.rest.length ≤ cursor.rest.length :=
        cursor.length_rest_skipComments_le
      have toValue :
          valueStart.rest.length ≤ (entry.advance (name.length + 1)).rest.length :=
        Cursor.length_rest_skipBlank_le _
      have valueShort := Cursor.length_balanced?_le balanced
      have toBracket := Cursor.length_rest_balanced?_le balanced
      simp only [Cursor.rest_advance, List.length_drop] at toValue
      have shortNext : (atBracket.advance 1).rest.length ≤ longest := by
        simp only [Cursor.rest_advance, List.length_drop]
        omega
      have extendedFits := fits.withAttribute? (by omega) changed
      obtain ⟨lastFits, nearer⟩ := inductionHypothesis extendedFits shortNext read
      simp only [Cursor.rest_advance, List.length_drop] at nearer
      exact ⟨lastFits, by omega⟩
  | case6 => simp at read

/-- Reading document information keeps its phrases short and never adds to what remains. -/
theorem readDocInfo_fits
    {info : DocInfo}
    {cursor next : Cursor}
    (read : readDocInfo cursor = .ok (info, next)) :
    info.Fits cursor.rest.length ∧ next.rest.length ≤ cursor.rest.length := by
  unfold readDocInfo at read
  simp only at read
  split at read
  · simp at read
  next docType afterType opened =>
    obtain ⟨found, isType, shape⟩ := List.exists_of_findSome?_eq_some opened
    obtain ⟨afterKeyword, keyword, sameType⟩ := Option.map_eq_some_iff.mp shape
    obtain ⟨rfl, rfl⟩ := Prod.mk.inj sameType
    have toBlock := cursor.length_rest_skipComments_le
    have pastKeyword := Cursor.length_rest_keyword? keyword
    have blanks := afterKeyword.length_rest_skipHorizontal_le
    split at read
    · simp at read
    next info' next' attributes =>
      obtain ⟨rfl, rfl⟩ := Prod.mk.inj (Except.ok.inj read)
      have pastTitle :
          (readTitle afterKeyword.skipHorizontal).2.rest.length ≤
            afterKeyword.skipHorizontal.rest.length := by
        simp [readTitle]
      have titleShort :
          (readTitle afterKeyword.skipHorizontal).1.length ≤
            afterKeyword.skipHorizontal.rest.length := by
        simp only [readTitle, String.length_ofList]
        refine Nat.le_trans (Text.length_trim_le _) ?_
        simp only [List.length_take]
        exact Nat.min_le_right ..
      have startFits :
          ({ docType := found, title := (readTitle afterKeyword.skipHorizontal).1 } :
            DocInfo).Fits cursor.rest.length :=
        { docType := isType
          title := by
            show (readTitle afterKeyword.skipHorizontal).1.length ≤ cursor.rest.length
            omega
          license := by simp
          purpose := by simp }
      obtain ⟨fits, nearer⟩ := readDocInfoAttributes_fits startFits (by omega) attributes
      refine ⟨fits, ?_⟩
      cases ended : next'.lineEnd? with
      | none =>
          simp only [Option.getD_none]
          omega
      | some nextLine =>
          have afterLine := Cursor.length_rest_lineEnd?_le ended
          simp only [Option.getD_some]
          omega

end DocMarkup
