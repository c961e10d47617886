import DocMarkup.Proofs.Grammar.Phrase

namespace DocMarkup.Listing

open Compile CompilerState

/-!
# How lists end

The open lists are open elements of the output: each has an item open inside it.
An item closes the lists it does not belong to, and the end of a list closes all
that are left.
-/

variable {files : FileTree} {longest steps : Nat} {inner reference : Inner}
  {before : CompilerState} {affordable calm : Prop} {order : Order} {cursor next : Cursor}

/-- The elements of open lists are among those of blocks. -/
private theorem mem_flowVocabulary
    {name : String}
    (isList : name ∈ listNames) :
    (name, ([] : List Attribute).map Prod.fst) ∈ flowVocabulary := by
  simp only [listNames, List.mem_cons, List.not_mem_nil, or_false] at isList
  rcases isList with rfl | rfl <;> simp [flowVocabulary]

/-- An item of a list is an element of blocks. -/
private theorem listitem_mem :
    ("listitem", ([] : List Attribute).map Prod.fst) ∈ flowVocabulary := by
  simp [flowVocabulary]

/-- The text of an item is an element of blocks. -/
private theorem simpara_mem :
    ("simpara", ([] : List Attribute).map Prod.fst) ∈ flowVocabulary := by
  simp [flowVocabulary]

/-- Closing some lists leaves open what is around them. -/
theorem passage_closeAll
    (before : CompilerState)
    {lists : List OpenList}
    (areLists : ∀ list ∈ lists, list.name ∈ listNames)
    (outer : List Element) :
    Passage flowVocabulary (listElements lists ++ outer) outer before
      (closeAll before lists) := by
  induction lists generalizing before with
  | nil =>
      exact .refl before
  | cons list others inductionHypothesis =>
      have known := mem_flowVocabulary (areLists list (by simp))
      have closed :
          Passage flowVocabulary (("listitem", []) :: (list.name, []) ::
            (listElements others ++ outer)) (listElements others ++ outer) before
            (closeList before list) :=
        (Passage.endElement before listitem_mem []).trans (.endElement _ known [])
      exact closed.trans
        (inductionHypothesis (closeList before list) fun other member =>
          areLists other (by simp [member]))

/-- Open lists are either closed for an item or stay open. -/
theorem splitAtIndent_append
    (indent : Nat)
    (lists : List OpenList) :
    (splitAtIndent indent lists).1 ++ (splitAtIndent indent lists).2 = lists := by
  fun_induction splitAtIndent indent lists with
  | case1 innermost outer rest _ closed kept split inductionHypothesis =>
      rw [split] at inductionHypothesis
      simpa using inductionHypothesis
  | case2 => rfl
  | case3 => rfl

/-- Beginning an item opens its text inside the lists that are then open. -/
theorem passage_beginItem
    (before : CompilerState)
    {item : OpenList}
    {lists : List OpenList}
    (isList : item.name ∈ listNames)
    (areLists : ∀ list ∈ lists, list.name ∈ listNames) :
    Passage flowVocabulary (listElements lists)
        (("simpara", []) :: listElements (beginItem before item lists).2) before
        (beginItem before item lists).1 ∧
      ∀ list ∈ (beginItem before item lists).2, list.name ∈ listNames := by
  have parts := splitAtIndent_append item.indent lists
  unfold beginItem
  simp only
  generalize splitAtIndent item.indent lists = split at parts
  obtain ⟨closed, kept⟩ := split
  simp only at parts ⊢
  subst parts
  have areClosed : ∀ list ∈ closed, list.name ∈ listNames := fun list member =>
    areLists list (List.mem_append_left _ member)
  have areKept : ∀ list ∈ kept, list.name ∈ listNames := fun list member =>
    areLists list (List.mem_append_right _ member)
  have fitting := passage_closeAll before areClosed (listElements kept)
  have regrouped : listElements (closed ++ kept) = listElements closed ++ listElements kept :=
    List.flatMap_append
  rw [regrouped]
  split
  · refine ⟨?_, ?_⟩
    · exact ((fitting.trans (.startElement _ (mem_flowVocabulary isList))).trans
        (.startElement _ listitem_mem)).trans (.startElement _ simpara_mem)
    · intro list member
      rcases List.mem_cons.mp member with rfl | isKept
      · exact isList
      · exact areKept list isKept
  next fits =>
    refine ⟨?_, areKept⟩
    cases kept with
    | nil =>
        simp [opensList] at fits
    | cons innermost outer =>
        exact ((fitting.trans (.endElement _ listitem_mem [])).trans
          (.startElement _ listitem_mem)).trans (.startElement _ simpara_mem)

/-- How one item of a list ends, and the items behind it. -/
theorem step_ends
    (sound : inner.Sound files longest steps affordable reference order)
    (ready : Ready longest (steps + 1) affordable before cursor.rest.length 2)
    {lists : List OpenList}
    (areLists : ∀ list ∈ lists, list.name ∈ listNames) :
    Ends before (step inner lists cursor) (step reference lists cursor)
      (Expected files affordable calm)
      fun next after =>
        Passage flowVocabulary (listElements lists) [] before after ∧
          next.rest.length ≤ cursor.rest.length ∧
            (cursor.listMarker? ≠ none → next.rest.length < cursor.rest.length) := by
  have closeLists :
      ∀ (state : CompilerState) (someLists : List OpenList),
        (∀ list ∈ someLists, list.name ∈ listNames) →
        Passage flowVocabulary (listElements someLists) [] state (closeAll state someLists) := by
    intro state someLists areOpen
    simpa using passage_closeAll state areOpen []
  unfold step
  cases read : cursor.listMarker? with
  | none =>
      exact .updateThen (.pure ⟨closeLists before lists areLists, Nat.le_refl _, by simp⟩)
  | some found =>
      obtain ⟨marker, content⟩ := found
      have pastMarker := Cursor.length_rest_listMarker?_lt read
      simp only
      generalize isItem : (OpenList.mk (Text.blankWidth 0 marker.indent)
        (if marker.ordered then "orderedlist" else "itemizedlist")) = item
      have isList : item.name ∈ listNames := by
        rw [← isItem]
        cases marker.ordered <;> simp [listNames]
      obtain ⟨begins, areOpened⟩ := passage_beginItem before isList areLists
      apply Ends.state
      apply Ends.updateThen
      have readyContent :
          Ready longest steps affordable (beginItem before item lists).1
            content.rest.length 1 :=
        ready.spend.alike begins.alike (by omega) (by omega)
      refine Ends.bind (sound.phraseFrom .listItem 0 "" readyContent) ?_
      rintro ⟨closed, next⟩ middle ⟨text, follows⟩
      have nearer := follows.length_rest_le
      have ended :
          Passage flowVocabulary (listElements lists)
            (listElements (beginItem before item lists).2) before
            (middle.endElement "simpara") :=
        (begins.trans (text.toFlow.inside _)).trans (.endElement middle simpara_mem [])
      apply Ends.updateThen
      simp only
      cases lineEnd : next.character? '\n' with
      | none =>
          refine .updateThen (.pure ⟨ended.trans (closeLists _ _ areOpened), ?_, ?_⟩)
          · simp only at nearer
            omega
          · intro _
            simp only at nearer
            omega
      | some nextLine =>
          have shorter := Cursor.length_rest_character? lineEnd
          simp only at nearer
          have readyNext :
              Ready longest steps affordable (middle.endElement "simpara")
                nextLine.rest.length 2 :=
            ready.spend.alike ended.alike (by omega) (by omega)
          refine (sound.items _ readyNext areOpened).imp (fun _ => id) ?_
          rintro last after ⟨others, nearerLast, _⟩
          refine ⟨ended.trans others, by omega, fun _ => by omega⟩

/-- How a list ends. -/
theorem rule_ends
    (sound : inner.Sound files longest steps affordable reference order)
    (ready : Ready longest steps affordable before cursor.rest.length 2) :
    Ends before (rule inner cursor) (rule reference cursor)
      (Expected files affordable calm)
      (Settled before (Block.Applied longest before cursor)) := by
  unfold rule
  cases read : cursor.listMarker? with
  | none =>
      exact .pure (Precedes.refl before)
  | some found =>
      obtain ⟨marker, content⟩ := found
      simp only
      split
      · refine (sound.items [] ready (by simp)).bind ?_
        rintro next after ⟨effect, _, shorter⟩
        exact .pure ⟨.flow effect, shorter (by simp [read])⟩
      · exact .pure (Precedes.refl before)

end DocMarkup.Listing
